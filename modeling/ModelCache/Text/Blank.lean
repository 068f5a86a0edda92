/-!
# Blank characters

Blank space in the sense of the Unicode property White_Space, and trimming by it. Digest texts are
read after trimming, generated sources that are all blank count as empty, and so do aliases.
-/

namespace ModelCache.Text

/-- The ranges of the property White_Space. -/
def blankSpans : List (Nat × Nat) :=
  [(0x09, 0x0D), (0x20, 0x20), (0x85, 0x85), (0xA0, 0xA0), (0x1680, 0x1680), (0x2000, 0x200A),
   (0x2028, 0x2029), (0x202F, 0x202F), (0x205F, 0x205F), (0x3000, 0x3000)]

/-- A blank character: a space, a tab, a line end or one of their relatives. -/
def isBlank (c : Char) : Bool :=
  blankSpans.any fun (first, last) => first ≤ c.toNat && c.toNat ≤ last

def trimChars (cs : List Char) : List Char :=
  ((cs.dropWhile isBlank).reverse.dropWhile isBlank).reverse

def trim (s : String) : String := String.ofList (trimChars s.toList)

/-- A text with nothing but blanks in it, or nothing at all. -/
def isBlankText (s : String) : Bool := s.toList.all isBlank

end ModelCache.Text
