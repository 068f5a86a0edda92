import ModelCache.FileTree
import ModelCache.Store

/-!
# Artifact records on disk

A record takes four files in a cache directory. What writes them is given as a list of file
operations, so that what a crash leaves behind is what some first part of the list does.

* The digest is written last and removed first: whoever finds one finds the parts it belongs to.
* The unit of a build is written on its own before it is compiled. Until the record of that build is
  complete, the older parts beside it do not match its header.
* Whatever cannot be read, or does not belong together, counts as no record.
-/

namespace ModelCache.Disk

/-- The path of a part's file in a cache directory. -/
def partPath (dir : Path) (part : Part) : Path := dir.join ⟨part.fileName⟩

def readPart (dir : Path) (t : FileTree) (part : Part) : Option String :=
  (t.readText (partPath dir part)).toOption

def writePart (dir : Path) (part : Part) (content : String) : FileOp :=
  .write (partPath dir part) (Text.utf8 content)

/-- The operations that save a record. -/
def saveRecordOps (dir : Path) (r : ArtifactRecord) : List FileOp :=
  [.createDirectories dir,
   writePart dir .generated r.generated,
   writePart dir .unit r.unitText,
   writePart dir .pointer r.pointer.text,
   writePart dir .digest r.digest.toText]

/-- The operations that save a build unit on its own. -/
def saveUnitOps (dir : Path) (text : String) : List FileOp :=
  [.createDirectories dir, writePart dir .unit text]

/-- The operations that make the record unusable. The sources stay. -/
def clearOps (dir : Path) : List FileOp :=
  [.remove (partPath dir .digest), .remove (partPath dir .pointer)]

/-- The record in a cache directory, if all its parts can be read and belong together. -/
def loadRecord (dir : Path) (t : FileTree) : Option ArtifactRecord := do
  let generated ← readPart dir t .generated
  let unitText ← readPart dir t .unit
  let digestText ← readPart dir t .digest
  let digest ← (Digest.parse digestText).toOption
  let pointerText ← readPart dir t .pointer
  let pointer ← ModulePointer.parse? pointerText
  ArtifactRecord.checked { generated, unitText, digest, pointer }

/-- The last build unit that was written, whether it was compiled or not. -/
def loadUnit (dir : Path) (t : FileTree) : Option String := readPart dir t .unit

/-- Saves a record as far as the operations succeed. -/
def saveRecord (dir : Path) (t : FileTree) (r : ArtifactRecord) :
    Except (Path × Fault) Unit × FileTree :=
  FileOp.runWhileOk t (saveRecordOps dir r)

/-- Saves a build unit as far as the operations succeed. -/
def saveUnit (dir : Path) (t : FileTree) (text : String) :
    Except (Path × Fault) Unit × FileTree :=
  FileOp.runWhileOk t (saveUnitOps dir text)

/-- Makes the record unusable as far as the operations succeed. -/
def clear (dir : Path) (t : FileTree) : FileTree := FileOp.runEach t (clearOps dir)

/-- The path of the file that holds the last failure. -/
def errorPath (dir : Path) : Path := dir.join ⟨errorFile⟩

/-- The operations that keep the text of a failure. The directory is made as the parent of the file,
so that it does not matter whether the spelling of the cache directory ends in a dot. -/
def reportOps (dir : Path) (message : String) : List FileOp :=
  let file := errorPath dir
  (file.parent?.map FileOp.createDirectories).toList ++ [.write file (Text.utf8 (message ++ "\n"))]

/-- The operation that forgets the last failure. -/
def clearReportOps (dir : Path) : List FileOp := [.remove (errorPath dir)]

end ModelCache.Disk
