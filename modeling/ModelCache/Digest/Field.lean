import ModelCache.Digest

/-!
# Digests of structured content

A structured content is digested as a sequence of fields. Fields of any length carry their length in
front, so that the bytes of one can never pass for the beginning of the next; marks, which tell
sections and cases apart, are single bytes.
-/

namespace ModelCache

/-- One field of a structured content. -/
inductive Field where
  /-- A mark between sections, or a flag. -/
  | mark (tag : UInt8)
  /-- A field of bytes, of any length. -/
  | bytes (data : List UInt8)
  deriving DecidableEq, Repr

namespace Field

def text (s : String) : Field := .bytes (Text.utf8 s)

/-- A field that holds a count, as the eight bytes of a word. -/
def count (n : Nat) : Field := .bytes (Hash128.bytesOfWord (UInt64.ofNat n))

/-- A mark that holds a yes or a no. -/
def flag (b : Bool) : Field := .mark (if b then 1 else 0)

/-- The bytes of a field: a mark is its own byte, and other fields have their length, in eight
bytes, in front. -/
def encode : Field → List UInt8
  | .mark tag => [tag]
  | .bytes data => Hash128.bytesOfWord (UInt64.ofNat data.length) ++ data

def stream (fields : List Field) : List UInt8 := fields.flatMap encode

@[simp] theorem stream_nil : stream [] = [] := rfl

@[simp] theorem stream_append (a b : List Field) : stream (a ++ b) = stream a ++ stream b :=
  List.flatMap_append

end Field

def Digest.ofFields (fields : List Field) : Digest := .ofBytes (Field.stream fields)

end ModelCache
