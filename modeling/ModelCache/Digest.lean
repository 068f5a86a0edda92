import ModelCache.Digest.Hash128
import ModelCache.Text.Blank
import ModelCache.Text.Hex
import ModelCache.Text.Utf8

/-!
# Content digests

A digest stands for the content it was computed from: two contents with the same digest are taken
to be the same. It is the 128-bit hash of the content's bytes, lower word first, and is written as
32 hexadecimal digits.

Reading a digest text ignores blanks around it. The text must then take 32 bytes, all of them
ASCII, which are read in pairs as `Text.hexByte?` lays down.
-/

namespace ModelCache

/-- The digest of a content. -/
structure Digest where
  /-- The sixteen bytes, in the order in which they are written. -/
  bytes : Vector UInt8 16
  deriving DecidableEq

/-- Why a text is not a digest. -/
inductive Digest.ParseError where
  /-- The text, without the blanks around it, that does not denote sixteen bytes. -/
  | invalid (text : String)
  deriving DecidableEq, Repr

namespace Digest

def ofBytes (data : List UInt8) : Digest :=
  let h := Hash128.hash data.toByteArray
  ⟨Vector.ofFn fun i =>
    if i.val < 8 then (h.low >>> UInt64.ofNat (8 * i.val)).toUInt8
    else (h.high >>> UInt64.ofNat (8 * (i.val - 8))).toUInt8⟩

def ofText (s : String) : Digest := ofBytes (Text.utf8 s)

/-- The digest in 32 small hexadecimal digits. -/
def toText (d : Digest) : String := Text.hexText d.bytes.toList

instance : ToString Digest := ⟨toText⟩

/-- The first two bytes, as a digest is shown in passing. -/
def inspect (d : Digest) : String :=
  "ContentHash(" ++ Text.hexText (d.bytes.toList.take 2) ++ "..)"

/-- The digest with the given bytes, if there are sixteen. -/
def ofByteList? (bytes : List UInt8) : Option Digest :=
  if h : bytes.toArray.size = 16 then some ⟨⟨bytes.toArray, h⟩⟩ else none

def parse (s : String) : Except ParseError Digest :=
  let cs := Text.trimChars s.toList
  let digest := if cs.all (·.toNat < 128) then (Text.hexBytes? cs).bind ofByteList? else none
  match digest with
  | some d => .ok d
  | none => .error (.invalid (String.ofList cs))

/-- The complaint about a text that is not a digest. -/
def ParseError.message : ParseError → String
  | .invalid text => s!"invalid content hash '{text}'"

/-- A list of sixteen bytes makes the digest that has them. -/
theorem ofByteList?_toList (d : Digest) : ofByteList? d.bytes.toList = some d := by
  obtain ⟨⟨bytes, size⟩⟩ := d
  simp [ofByteList?, size]

end Digest

end ModelCache
