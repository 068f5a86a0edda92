import ModelCache.Text.Class
import ModelCache.Text.CaseMap

/-!
# Type names from aliases

An alias such as `blog_post`, `blogPost` or `BLOG-POST` names the type `BlogPost`: its words are
found, each is capitalised, and they are joined.

* Anything but a letter or a number separates words.
* Within a run of letters and numbers a word ends before a capital that follows a small letter
  (`blog|Post`), and before the last of several capitals if a small letter follows (`XML|Http`).
  Characters without case continue whatever came before them.
* A capitalised word is the capital form of its first character and the small form of the others,
  where a capital sigma at the very end becomes `ς`.
-/

namespace ModelCache.Text

/-- What the cased letters of the word being read have last been. -/
inductive Hump where
  /-- No cased letter yet. -/
  | flat
  | small
  | capital
  deriving DecidableEq, Repr

/-- The case seen after a character, given the one seen before it. -/
def Hump.next (seen : Hump) (c : Char) : Hump :=
  if isLowercase c then .small else if isUppercase c then .capital else seen

/-- The words of a run of letters and numbers. `word` is the word being read, last character first,
and `seen` the case it has shown. -/
def humps (seen : Hump) (word : List Char) : List Char → List (List Char)
  | [] => []
  | [c] => [(c :: word).reverse]
  | c :: d :: rest =>
    if seen.next c = .small ∧ isUppercase d then
      (c :: word).reverse :: humps .flat [] (d :: rest)
    else if seen = .capital ∧ isUppercase c ∧ isLowercase d then
      word.reverse :: humps .flat [c] (d :: rest)
    else humps (seen.next c) (c :: word) (d :: rest)

def words (cs : List Char) : List (List Char) :=
  (cs.splitOnP fun c => !isAlphanumeric c).flatMap (humps .flat [])

/-- The small form of what follows the first character of a word. -/
def lowerTail : List Char → List Char
  | [] => []
  | [c] => if c = 'Σ' then ['ς'] else lowerChars c
  | c :: d :: rest => lowerChars c ++ lowerTail (d :: rest)

def capitalize : List Char → List Char
  | [] => []
  | c :: rest => upperChars c ++ lowerTail rest

/-- The text as a single name: its words, capitalised and joined. -/
def upperCamelCase (s : String) : String :=
  String.ofList ((words s.toList).flatMap capitalize)

end ModelCache.Text
