import ModelCache.BuildUnit
import ModelCache.Config
import ModelCache.ModelSet
import ModelCache.Schema.Digest
import ModelCache.Schema.TypeModel
import ModelCache.Store

/-!
# The live model cache

A cache decides when models must be built again, runs the build, and publishes its result. Readers
get the published set; while it is current, nothing is built for them.

What a cache finds outside itself is a value, `Surroundings`: the schema, the companion sources and
the stored record as they are when they are looked at, and what the generator, the compiler and the
loader of modules answer. What it does outside is a list of `Event`s, in order. A build asks each of
them at most once and never looks back at what it wrote, so an operation is a function from the
cache and its surroundings to the cache, an answer and the events.

A build cycle (`Cache.cycle`) goes like this:

* The digest of companion sources and schema is computed. If a rebuild is not forced, and the stored
  record has this digest, and so has the module it points to, then that module is published again.
* Otherwise source is generated and, under a fresh version, compiled. The build unit is saved before
  it is compiled, so that its version is known after a crash; the record is saved afterwards.
* A cycle that fails makes the record unusable and reports its failure. What was published from a
  module stays published; a set without a module gives way to an empty one of the next generation.
-/

namespace ModelCache

/-- How a cache goes about its work. -/
structure Options where
  namespaceName : String := "Models"
  /-- How many milliseconds another compilation waits for the models before it goes on without. -/
  callbackTimeout : Nat := 250
  /-- The directory of the companion sources, if there are any. -/
  companionDir : Option Path := none
  /-- The extension of companion sources, without the dot. -/
  companionExtension : String := "rs"
  deriving DecidableEq, Repr

/-- The options that a configuration lays down for a site with the given root directory. -/
def Options.ofConfig (c : Config) (root : Path) : Options :=
  { namespaceName := c.models.namespaceName
    callbackTimeout := c.build.callbackTimeout
    companionDir := some (c.resolvedCompanionDir root)
    companionExtension := c.models.companionExtension }

/-- What a build finds outside the cache. -/
structure Surroundings where
  /-- The schema, or why it cannot be had. -/
  schema : Except SchemaError Schema
  /-- The companion sources, or why they cannot be read. -/
  companions : Except GenerationError Companions
  record : Option ArtifactRecord
  load : Path → Option Module
  /-- The source that the generator makes of companion sources and type models, for a namespace. -/
  generate : Companions → List TypeModel → String → Except GenerationError String
  /-- The module that the compiler makes of a unit, or what it has to say against it. -/
  compile : BuildUnit → Except (List Diagnostic) Module

/-- Something a cache does outside itself. -/
inductive Event where
  | generated
  | unitSaved (text : String)
  | compiled (unit : BuildUnit)
  | recordSaved (record : ArtifactRecord)
  /-- The record is made unusable. -/
  | recordCleared
  | reported (message : String)
  /-- The last failure is forgotten. -/
  | reportCleared
  deriving DecidableEq

/-- Whether the published set is current. -/
inductive CacheState where
  /-- Nothing current is there; the next reader starts a build. -/
  | empty
  /-- The published set is current. -/
  | valid
  /-- The published set was current; the next reader starts a build. -/
  | stale
  deriving DecidableEq, Repr

/-- A cache. -/
structure Cache where
  state : CacheState
  published : ModelSet
  /-- What is known about versions in use. -/
  versions : VersionCounter
  /-- The digest of the inputs of the published set. -/
  digest : Option Digest
  /-- Whether the next build must not use the stored record. -/
  forced : Bool
  /-- The generation that was given out last, without a bound as in `ModelSet.generation`. -/
  lastGeneration : Nat
  /-- The last failure as it was reported, if no build succeeded since. -/
  lastError : Option String

/-- What an operator sees of a cache. -/
structure CacheStatus where
  state : CacheState
  /-- The greatest version known to be in use. -/
  version : Option BuildVersion
  /-- The digest of the inputs of the published set. -/
  digest : Option Digest
  generation : Nat
  modelCount : Nat
  lastError : Option String

namespace Cache

/-! ## Build cycles -/

/-- What comes of a build cycle. -/
structure Outcome where
  /-- The set to publish, with the digest of its inputs, or why there is none. -/
  result : Except BuildError (Digest × ModelSet)
  /-- What is known about versions in use afterwards. -/
  versions : VersionCounter
  /-- The generation that was given out last. -/
  generation : Nat
  /-- What was done outside. -/
  events : List Event

def Outcome.failed (e : BuildError) (versions : VersionCounter) (generation : Nat)
    (events : List Event) : Outcome :=
  ⟨.error e, versions, generation, events⟩

/-- The stored record and the module it points to, if both have the given digest. -/
def reusable? (around : Surroundings) (digest : Digest) : Option (ArtifactRecord × Module) := do
  let record ← around.record
  if record.digest = digest then
    let module ← around.load record.pointer.location
    if module.marker = some digest then return (record, module) else none
  else none

/-- Publishes a stored module again. -/
def reuse (digest : Digest) (record : ArtifactRecord) (module : Module)
    (versions : VersionCounter) (generation : Nat) : Outcome :=
  { result := (ModelSet.ofModule (generation + 1) module).map fun set => (digest, set)
    versions := (versions.observe record.pointer.version).observe module.version
    generation := generation + 1
    events := [] }

/-- Compiles generated source under a fresh version and publishes the module. -/
def compile (around : Surroundings) (companions : Companions) (digest : Digest) (source : String)
    (version : BuildVersion) (versions : VersionCounter) (generation : Nat) : Outcome :=
  let unit := BuildUnit.assemble version digest companions source
  let events := [.generated, .unitSaved unit.text, .compiled unit]
  match around.compile unit with
  | .error diagnostics => .failed (.compilation diagnostics unit.text) versions generation events
  | .ok module =>
    match ModelSet.ofModule (generation + 1) module with
    | .error e => .failed e versions (generation + 1) events
    | .ok set =>
      let record : ArtifactRecord :=
        { generated := source, unitText := unit.text, digest
          pointer := { location := module.location, version } }
      ⟨.ok (digest, set), versions, generation + 1, events ++ [.recordSaved record]⟩

/-- Generates source, compiles it and publishes the module. -/
def rebuild (around : Surroundings) (options : Options) (schema : Schema) (companions : Companions)
    (digest : Digest) (versions : VersionCounter) (generation : Nat) : Outcome :=
  match schema.typeModels with
  | .error e => .failed (.ofSchema e) versions generation []
  | .ok models =>
    match around.generate companions models options.namespaceName with
    | .error e => .failed (.generation e) versions generation [.generated]
    | .ok source =>
      if Text.isBlankText source then
        .failed (.generation .emptyOutput) versions generation [.generated]
      else
        match versions.issue with
        | (none, versions) =>
          .failed (.versionsExhausted (versions.latest.getD ⟨0⟩)) versions generation [.generated]
        | (some version, versions) =>
          compile around companions digest source version versions generation

def cycle (around : Surroundings) (options : Options) (forced : Bool) (versions : VersionCounter)
    (generation : Nat) : Outcome :=
  match around.schema with
  | .error e => .failed (.ofSchema e) versions generation []
  | .ok schema =>
    match around.companions with
    | .error e => .failed (.generation e) versions generation []
    | .ok companions =>
      let digest := schema.digest companions
      match if forced then none else reusable? around digest with
      | some (record, module) => reuse digest record module versions generation
      | none => rebuild around options schema companions digest versions generation

/-! ## Operations -/

/-- A cache over a store with the given record and the given last build unit. It issues no version
that either of them shows to be in use. -/
def start (record : Option ArtifactRecord) (unitText : Option String) : Cache :=
  let versions := match record with
    | some r => VersionCounter.fresh.observe r.pointer.version
    | none => VersionCounter.fresh
  let versions := match unitText.bind BuildUnit.parseHeader with
    | some (version, _) => versions.observe version
    | none => versions
  { state := .empty, published := .empty 0, versions, digest := none, forced := false,
    lastGeneration := 0, lastError := none }

/-- Publishes the result of a cycle that succeeded. -/
def publish (o : Outcome) (digest : Digest) (set : ModelSet) : Cache :=
  { state := .valid, published := set, versions := o.versions, digest := some digest,
    forced := false, lastGeneration := o.generation, lastError := none }

/-- Takes note of the failure of a cycle. -/
def fail (c : Cache) (o : Outcome) (e : BuildError) : Cache :=
  let noted : Cache :=
    { state := .empty, published := c.published, versions := o.versions, digest := none,
      forced := false, lastGeneration := o.generation, lastError := some e.describe }
  if c.published.module.isNone then
    { noted with published := .empty (o.generation + 1), lastGeneration := o.generation + 1 }
  else noted

def build (around : Surroundings) (options : Options) (c : Cache) :
    Except BuildError ModelSet × Cache × List Event :=
  let o := cycle around options c.forced c.versions c.lastGeneration
  match o.result with
  | .ok (digest, set) => (.ok set, publish o digest set, o.events ++ [.reportCleared])
  | .error e => (.error e, c.fail o e, o.events ++ [.recordCleared, .reported e.describe])

/-- The current set, after a build if it takes one. -/
def ensure (around : Surroundings) (options : Options) (c : Cache) :
    Except BuildError ModelSet × Cache × List Event :=
  if c.state = .valid then (.ok c.published, c, []) else c.build around options

/-- The current set, or the published one if there is no current one to be had. -/
def current (around : Surroundings) (options : Options) (c : Cache) :
    ModelSet × Cache × List Event :=
  match c.ensure around options with
  | (.ok set, c, events) => (set, c, events)
  | (.error _, c, events) => (c.published, c, events)

/-- Has the next reader start a build. Nothing happens unless the published set is current. -/
def invalidate (c : Cache) : Cache × List Event :=
  if c.state = .valid then ({ c with state := .stale }, [.recordCleared]) else (c, [])

/-- Has the next reader start a build that does not use the stored record. -/
def requestRebuild (c : Cache) : Cache × List Event :=
  ({ c with forced := true, state := if c.state = .valid then .stale else c.state },
    [.recordCleared])

/-- Takes note that something changed at a path. What the cache writes itself does not count. -/
def pathChanged (c : Cache) (p : Path) : Cache × List Event :=
  if p.isOwned then (c, []) else c.invalidate

def status (c : Cache) : CacheStatus :=
  { state := c.state, version := c.versions.latest, digest := c.digest,
    generation := c.published.generation, modelCount := c.published.size, lastError := c.lastError }

end Cache

end ModelCache
