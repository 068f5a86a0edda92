import ModelCache.Cache
import ModelCache.Store.Disk

/-!
# Where caches leave things

A shelf is everything that outlives a cache: the parts of a record in memory, the last failure in
memory, and a file tree. A cache keeps its record at a `StoreSite` and reports failures to a
`ReportSite`. `Shelf.apply` carries out what a cache does there. Writing to files can fail; a cache
goes on regardless, so the shelf is then left as far as the writing came.
-/

namespace ModelCache.Bench

/-- Where a cache keeps its record. -/
inductive StoreSite where
  | memory
  | directory (dir : Path)
  deriving DecidableEq, Repr

/-- Where a cache reports failures. -/
inductive ReportSite where
  | memory
  /-- In a file of a cache directory. -/
  | directory (dir : Path)
  /-- Where nobody looks. -/
  | nowhere
  deriving DecidableEq, Repr

/-- What outlives a cache. -/
structure Shelf where
  parts : Parts
  message : Option String
  files : FileTree

namespace Shelf

def loadRecord (s : Shelf) : StoreSite → Option ArtifactRecord
  | .memory => s.parts.loadRecord
  | .directory dir => Disk.loadRecord dir s.files

def loadUnit (s : Shelf) : StoreSite → Option String
  | .memory => s.parts.unitText
  | .directory dir => Disk.loadUnit dir s.files

/-- Whether a change of the files succeeded, and the shelf after it. -/
def withFiles (s : Shelf) (change : Except (Path × Fault) Unit × FileTree) :
    Except (Path × Fault) Unit × Shelf :=
  (change.1, { s with files := change.2 })

def saveRecord (s : Shelf) (r : ArtifactRecord) :
    StoreSite → Except (Path × Fault) Unit × Shelf
  | .memory => (.ok (), { s with parts := s.parts.saveRecord r })
  | .directory dir => s.withFiles (Disk.saveRecord dir s.files r)

def saveUnit (s : Shelf) (text : String) : StoreSite → Except (Path × Fault) Unit × Shelf
  | .memory => (.ok (), { s with parts := s.parts.saveUnit text })
  | .directory dir => s.withFiles (Disk.saveUnit dir s.files text)

/-- Makes the record at a site unusable. -/
def clear (s : Shelf) : StoreSite → Shelf
  | .memory => { s with parts := s.parts.clear }
  | .directory dir => { s with files := Disk.clear dir s.files }

def has (s : Shelf) (part : Part) : StoreSite → Bool
  | .memory => s.parts.has part
  | .directory dir => (s.files.find? (Disk.partPath dir part)).isSome

/-- Takes a part away from a site. The answer is whether it was there to be taken. -/
def remove (s : Shelf) (part : Part) : StoreSite → Bool × Shelf
  | .memory => (s.parts.has part, { s with parts := s.parts.remove part })
  | .directory dir =>
    match s.files.removeFile (Disk.partPath dir part) with
    | .ok files => (true, { s with files })
    | .error _ => (false, s)

def report (s : Shelf) (message : String) : ReportSite → Shelf
  | .memory => { s with message := some message }
  | .directory dir => { s with files := (FileOp.runWhileOk s.files (Disk.reportOps dir message)).2 }
  | .nowhere => s

def clearReport (s : Shelf) : ReportSite → Shelf
  | .memory => { s with message := none }
  | .directory dir => { s with files := FileOp.runEach s.files (Disk.clearReportOps dir) }
  | .nowhere => s

/-- The last failure at a site: the message in memory, or the content of the file. -/
def reported (s : Shelf) : ReportSite → Option String
  | .memory => s.message
  | .directory dir => (s.files.readText (Disk.errorPath dir)).toOption
  | .nowhere => none

/-- Carries out what a cache does at its sites. -/
def apply (store : StoreSite) (reports : ReportSite) (s : Shelf) : Event → Shelf
  | .unitSaved text => (s.saveUnit text store).2
  | .recordSaved record => (s.saveRecord record store).2
  | .recordCleared => s.clear store
  | .reported message => s.report message reports
  | .reportCleared => s.clearReport reports
  | .generated | .compiled _ => s

end Shelf

end ModelCache.Bench
