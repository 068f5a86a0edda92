import ModelCache.BuildUnit
import ModelCache.Json.Record
import ModelCache.Json.Reader
import ModelCache.Json.Writer

/-!
# Artifact records

What is kept of a build so that its module can be used again after a restart: the generated source,
the build unit, the digest, and a pointer to the module. The four parts only mean something
together. A record is consistent if the header of its unit names its digest and the version in its
pointer; anything else counts as no record, and the next build starts afresh.

`Parts` keeps the four parts in memory. Each may be missing, because the unit is written before it
is compiled, and the digest and the pointer are removed when the record must no longer be used.
-/

namespace ModelCache

open Json (Fields)

/-- One of the parts of a record. -/
inductive Part where
  | generated
  | unit
  | digest
  | pointer
  deriving DecidableEq, Repr

/-- The name of the file that a part is kept in. -/
def Part.fileName : Part → String
  | generated => "models.generated.src"
  | unit => "all.generated.src"
  | digest => "models.hash"
  | pointer => "models.module"

/-- The name of the file that holds the last failure. -/
def errorFile : String := "models.err"

/-- The names of all files that a cache writes. -/
def ownedFiles : List String :=
  [Part.fileName .generated, Part.fileName .unit, Part.fileName .digest, Part.fileName .pointer,
    errorFile]

/-- Whether a path ends with the name of a file that a cache writes. -/
def Path.isOwned (p : Path) : Bool :=
  match p.fileName? with
  | some name => ownedFiles.contains name
  | none => false

/-- Where the last compiled module is, and its version. -/
structure ModulePointer where
  /-- Where the module can be loaded from. -/
  location : Path
  version : BuildVersion
  deriving DecidableEq, Repr

def BuildVersion.toJson (v : BuildVersion) : Json := .natural v.number.toNat

def BuildVersion.ofJson? (j : Json) : Option BuildVersion :=
  (j.below? UInt64.size).map fun n => ⟨.ofNat n⟩

/-- A digest in JSON: the list of its bytes. -/
def Digest.toJson (d : Digest) : Json := .array (d.bytes.toList.map fun b => .natural b.toNat)

def Digest.ofJson? (j : Json) : Option Digest :=
  (j.list? fun b => (b.below? UInt8.size).map UInt8.ofNat).bind ofByteList?

namespace ModulePointer

def toJson (p : ModulePointer) : Json :=
  .record [("location", .text p.location.text), ("version", p.version.toJson)]

def ofJson? (j : Json) : Option ModulePointer := do
  let fs ← Fields.of? ["location", "version"] j
  let location ← fs.required? "location" Json.text?
  let version ← fs.required? "version" BuildVersion.ofJson?
  return { location := ⟨location⟩, version }

def text (p : ModulePointer) : String := Json.indented p.toJson

def parse? (s : String) : Option ModulePointer := (Json.read s).bind ofJson?

end ModulePointer

/-- What is kept of a build. -/
structure ArtifactRecord where
  generated : String
  unitText : String
  digest : Digest
  pointer : ModulePointer
  deriving DecidableEq

namespace ArtifactRecord

/-- Whether the header of the unit names the digest and the version of the record. -/
def isConsistent (r : ArtifactRecord) : Bool :=
  BuildUnit.parseHeader r.unitText == some (r.pointer.version, r.digest)

/-- The record, if it is consistent. -/
def checked (r : ArtifactRecord) : Option ArtifactRecord := if r.isConsistent then some r else none

end ArtifactRecord

/-- The parts of a record, kept in memory. -/
structure Parts where
  generated : Option String
  unitText : Option String
  digest : Option Digest
  pointer : Option ModulePointer
  deriving DecidableEq

namespace Parts

def empty : Parts := ⟨none, none, none, none⟩

/-- The record, if all parts are there and belong together. -/
def loadRecord (ps : Parts) : Option ArtifactRecord := do
  let generated ← ps.generated
  let unitText ← ps.unitText
  let digest ← ps.digest
  let pointer ← ps.pointer
  ArtifactRecord.checked { generated, unitText, digest, pointer }

def saveRecord (_ : Parts) (r : ArtifactRecord) : Parts :=
  ⟨some r.generated, some r.unitText, some r.digest, some r.pointer⟩

/-- Forgets the digest and the pointer. -/
def clear (ps : Parts) : Parts := { ps with digest := none, pointer := none }

/-- Keeps a build unit before it is compiled. -/
def saveUnit (ps : Parts) (text : String) : Parts := { ps with unitText := some text }

def has (ps : Parts) : Part → Bool
  | .generated => ps.generated.isSome
  | .unit => ps.unitText.isSome
  | .digest => ps.digest.isSome
  | .pointer => ps.pointer.isSome

def remove (ps : Parts) : Part → Parts
  | .generated => { ps with generated := none }
  | .unit => { ps with unitText := none }
  | .digest => { ps with digest := none }
  | .pointer => { ps with pointer := none }

end Parts

end ModelCache
