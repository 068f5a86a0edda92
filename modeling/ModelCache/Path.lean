/-!
# Paths

Paths are texts that are read by components. Repeated slashes, a slash at the end, and a single dot
anywhere but at the start of a relative path make no difference; a double dot is a component of its
own and is not resolved. Paths with the same components are the same, however they are spelled, and
paths are ordered by their components.

* `Path.components` is the view that everything else is stated on.
* `Path.join` keeps both spellings, with one slash between them.
* `Path.fileName?` and `Path.extension?` are about the last component alone.
* `Path.parent?` and `Path.endsInDot` look at the spelling: a dot at the end says nothing about
  where a path leads, but a directory cannot be made or removed under such a spelling.
-/

namespace ModelCache

/-- A path as it was spelled. -/
structure Path where
  text : String
  deriving DecidableEq, Repr

namespace Path

/-- A step along a path. -/
inductive Component where
  /-- The slash at the start of an absolute path. -/
  | root
  /-- The single dot at the start of a relative path. -/
  | here
  | up
  | name (name : String)
  deriving DecidableEq, Repr

/-- Components in order: the root, a single dot, a double dot, then names by their characters. -/
def Component.compare : Component → Component → Ordering
  | .name a, .name b => Ord.compare a b
  | a, b => Ord.compare (rank a) (rank b)
where
  /-- Where the kinds of component stand. -/
  rank : Component → Nat
    | .root => 0
    | .here => 1
    | .up => 2
    | .name _ => 3

/-- The component that a piece between slashes stands for, if it stands for any. -/
def piece? (piece : List Char) : Option Component :=
  match piece with
  | [] => none
  | ['.'] => none
  | ['.', '.'] => some .up
  | cs => some (.name (String.ofList cs))

/-- The components of a path's spelling. -/
def componentsOf (cs : List Char) : List Component :=
  match cs.splitOn '/' with
  | [] => []
  | first :: rest =>
    let start : List Component :=
      if rest ≠ [] ∧ first = [] then [.root]
      else if first = ['.'] then [.here]
      else (piece? first).toList
    start ++ rest.filterMap piece?

def components (p : Path) : List Component := componentsOf p.text.toList

/-- Whether two paths have the same components. -/
def same (p q : Path) : Bool := p.components == q.components

def compare (p q : Path) : Ordering :=
  List.compareLex Component.compare p.components q.components

def isAbsolute (p : Path) : Bool := p.text.toList.head? = some '/'

/-- A path taken from another one: an absolute path replaces it, any other is written behind it
after a slash. -/
def join (p q : Path) : Path :=
  if q.isAbsolute then q
  else if p.text.isEmpty || p.text.toList.getLast? = some '/' then ⟨p.text ++ q.text⟩
  else ⟨p.text ++ "/" ++ q.text⟩

/-- The name that a path ends with, if it ends with a name. -/
def fileName? (p : Path) : Option String :=
  match p.components.getLast? with
  | some (.name n) => some n
  | _ => none

/-- What stands behind the last dot of a file name, unless nothing stands before that dot. -/
def extensionOf? (name : String) : Option String :=
  let reversed := name.toList.reverse
  let stem := (reversed.dropWhile (· ≠ '.')).drop 1
  if stem = [] then none
  else some (String.ofList (reversed.takeWhile (· ≠ '.')).reverse)

/-- The extension of the name that a path ends with. -/
def extension? (p : Path) : Option String := p.fileName?.bind extensionOf?

/-- Whether a piece between slashes says nothing: nothing stands there, or a single dot. -/
def isIdle (piece : List Char) : Bool := piece = [] || piece = ['.']

/-- Whether the spelling of a path ends with a single dot, whatever slashes stand behind it. -/
def endsInDot (p : Path) : Bool :=
  (p.text.toList.splitOn '/').reverse.find? (· ≠ []) == some ['.']

/-- The path one level up, if there is one: the spelling in front of the last component, without
the slashes and dots at its end that say nothing. -/
def parent? (p : Path) : Option Path :=
  match p.components.getLast? with
  | none | some .root => none
  | some _ =>
    let kept := (((p.text.toList.splitOn '/').reverse.dropWhile isIdle).drop 1).dropWhile isIdle
    match p.components.dropLast with
    | [.root] => some ⟨"/"⟩
    | [.here] => some ⟨"."⟩
    | _ => some ⟨String.ofList (['/'].intercalate kept.reverse)⟩

instance : ToString Path := ⟨text⟩

end Path

end ModelCache
