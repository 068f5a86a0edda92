import ModelCache.Alias
import ModelCache.Alias.Table
import ModelCache.Bench
import ModelCache.Bench.Compiler
import ModelCache.Bench.Generator
import ModelCache.Bench.Scratch
import ModelCache.Bench.Shelf
import ModelCache.BuildError
import ModelCache.BuildUnit
import ModelCache.Cache
import ModelCache.Companion
import ModelCache.Companion.Load
import ModelCache.Config
import ModelCache.Config.Reader
import ModelCache.Diagnostic
import ModelCache.Diagnostic.Codec
import ModelCache.Diagnostic.Render
import ModelCache.Diagnostic.Sink
import ModelCache.Digest
import ModelCache.Digest.Field
import ModelCache.Digest.Hash128
import ModelCache.FileTree
import ModelCache.Json
import ModelCache.Json.Reader
import ModelCache.Json.Record
import ModelCache.Json.Writer
import ModelCache.ModelSet
import ModelCache.Module
import ModelCache.Path
import ModelCache.Schema
import ModelCache.Schema.Codec
import ModelCache.Schema.Digest
import ModelCache.Schema.Error
import ModelCache.Schema.TypeModel
import ModelCache.Store
import ModelCache.Store.Disk
import ModelCache.Store.Error
import ModelCache.Text.Blank
import ModelCache.Text.CaseMap
import ModelCache.Text.Class
import ModelCache.Text.Decimal
import ModelCache.Text.Hex
import ModelCache.Text.Line
import ModelCache.Text.Lowercase
import ModelCache.Text.Quoted
import ModelCache.Text.Utf8
import ModelCache.Text.Words
import ModelCache.Toml
import ModelCache.Toml.Reader
import ModelCache.TypeExpr
import ModelCache.Version
import ModelCache.Proofs.Bench
import ModelCache.Proofs.BuildUnit
import ModelCache.Proofs.Cache.ChangeFilter
import ModelCache.Proofs.Cache.Coherent
import ModelCache.Proofs.Cache.Cycle
import ModelCache.Proofs.Cache.Failure
import ModelCache.Proofs.Cache.Misfit
import ModelCache.Proofs.Cache.Session
import ModelCache.Proofs.Cache.Versions
import ModelCache.Proofs.Callers
import ModelCache.Proofs.Callers.Contention
import ModelCache.Proofs.Callers.Invalidation
import ModelCache.Proofs.Callers.Publication
import ModelCache.Proofs.Callers.Succession
import ModelCache.Proofs.Callers.Waiting
import ModelCache.Proofs.Companion
import ModelCache.Proofs.Companion.Load
import ModelCache.Proofs.Config
import ModelCache.Proofs.Correspondence
import ModelCache.Proofs.Diagnostic.Render
import ModelCache.Proofs.Diagnostic.Sink
import ModelCache.Proofs.Digest.Field
import ModelCache.Proofs.Digest.Hash128
import ModelCache.Proofs.Digest.Text
import ModelCache.Proofs.Directory
import ModelCache.Proofs.FileTree
import ModelCache.Proofs.History
import ModelCache.Proofs.History.Crash
import ModelCache.Proofs.History.Restart
import ModelCache.Proofs.History.Reuse
import ModelCache.Proofs.History.Spent
import ModelCache.Proofs.History.Start
import ModelCache.Proofs.History.Versions
import ModelCache.Proofs.Json
import ModelCache.Proofs.Json.Codec
import ModelCache.Proofs.ModelSet
import ModelCache.Proofs.ModelSet.Readers
import ModelCache.Proofs.ModelSet.TypeMapping
import ModelCache.Proofs.Path
import ModelCache.Proofs.Schema.Accessor
import ModelCache.Proofs.Schema.Cycle
import ModelCache.Proofs.Schema.Digest
import ModelCache.Proofs.Schema.Listing
import ModelCache.Proofs.Schema.Mixins
import ModelCache.Proofs.Schema.Order
import ModelCache.Proofs.Schema.TypeModel
import ModelCache.Proofs.Store
import ModelCache.Proofs.Store.Agreement
import ModelCache.Proofs.Store.Footprint
import ModelCache.Proofs.Store.Record
import ModelCache.Proofs.Store.Shelf
import ModelCache.Proofs.Store.Unmixed
import ModelCache.Proofs.Text
import ModelCache.Proofs.Text.Hex
import ModelCache.Proofs.Text.Line
import ModelCache.Proofs.Text.Lowercase
import ModelCache.Proofs.Version
import ModelCache.Proofs.Version.Exact
