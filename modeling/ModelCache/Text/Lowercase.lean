import ModelCache.Text.Class
import ModelCache.Text.CaseMap

/-!
# Lower-casing of texts

Every character takes its small form. The one letter whose small form depends on where it stands is
the Greek capital sigma: at the end of a word it becomes `ς`, elsewhere `σ`. A sigma ends a word if,
looking through characters that casing ignores, a letter stands before it and none after it.
-/

namespace ModelCache.Text

/-- Whether the characters met on the way out from a letter, past the ones that casing ignores,
start with another letter. -/
def meetsCased (context : List Char) : Bool :=
  match context.dropWhile isCaseIgnorable with
  | [] => false
  | c :: _ => isCased c

/-- The small form of a capital sigma between the characters `before` it, nearest first, and the
characters `after` it. -/
def lowerSigma (before after : List Char) : Char :=
  if meetsCased before && !meetsCased after then 'ς' else 'σ'

/-- Lower-cases the characters that stand after `before`, which is listed nearest first. -/
def lowerAfter (before : List Char) : List Char → List Char
  | [] => []
  | c :: after =>
    (if c = 'Σ' then [lowerSigma before after] else lowerChars c) ++ lowerAfter (c :: before) after

def lowercase (s : String) : String := String.ofList (lowerAfter [] s.toList)

@[simp] theorem lowercase_empty : lowercase "" = "" := rfl

end ModelCache.Text
