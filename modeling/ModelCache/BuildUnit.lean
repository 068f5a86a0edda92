import ModelCache.Companion
import ModelCache.Digest
import ModelCache.Text.Decimal
import ModelCache.Text.Line
import ModelCache.Version

/-!
# Build units

The text that is compiled: two header lines with the version and the digest, the companion sources
in the order of their paths, and the generated source. Each source is preceded by an empty line and
a comment that names it, and ends with a line feed.

The header is read back from the first two lines. A header with a version that could not have been
issued counts as none.
-/

namespace ModelCache

/-- A text to compile, with the identity that the compiled module must carry. -/
structure BuildUnit where
  version : BuildVersion
  digest : Digest
  text : String
  deriving DecidableEq

namespace BuildUnit

def versionHeader : String := "// livemodels.version: "

def digestHeader : String := "// livemodels.digest: "

def header (version : BuildVersion) (digest : Digest) : String :=
  versionHeader ++ version.text ++ "\n" ++ digestHeader ++ digest.toText ++ "\n"

/-- A companion source as a part of a unit. -/
def companionPart (c : Companion) : String :=
  s!"\n// companion: {c.path}\n" ++ Text.endLine c.text

def generatedPart (source : String) : String := "\n// generated\n" ++ Text.endLine source

def assemble (version : BuildVersion) (digest : Digest) (companions : Companions)
    (generated : String) : BuildUnit :=
  { version, digest
    text := header version digest ++ String.join (companions.files.map companionPart) ++
      generatedPart generated }

def headerVersion? (line : List Char) : Option BuildVersion := do
  let number ← Text.after? versionHeader.toList line
  let n ← Text.boundedDecimal? UInt64.size number
  return ⟨.ofNat n⟩

def headerDigest? (line : List Char) : Option Digest := do
  let text ← Text.after? digestHeader.toList line
  (Digest.parse (String.ofList text)).toOption

/-- The version and the digest in the header of a text. -/
def parseHeader (text : String) : Option (BuildVersion × Digest) :=
  match Text.lines text.toList with
  | first :: second :: _ => do
    let version ← headerVersion? first
    let digest ← headerDigest? second
    if version.isIssuable then return (version, digest) else none
  | _ => none

end BuildUnit

end ModelCache
