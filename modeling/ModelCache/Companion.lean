import ModelCache.Path

/-!
# Companion sources

Hand-written sources that become part of every build unit. They are kept in the order of their
paths, so that nothing depends on the order in which a directory lists its files. A source whose
path has the components of an earlier one replaces its text, and the first spelling of the path
stays.
-/

namespace ModelCache

/-- A hand-written source. -/
structure Companion where
  /-- The path, from the companion directory. -/
  path : Path
  text : String
  deriving DecidableEq, Repr

/-- Companion sources in the order of their paths. -/
structure Companions where
  files : List Companion
  deriving DecidableEq, Repr

namespace Companions

def empty : Companions := ⟨[]⟩

/-- Puts a source where its path belongs. -/
def insertInto (path : Path) (text : String) : List Companion → List Companion
  | [] => [⟨path, text⟩]
  | c :: rest =>
    match path.compare c.path with
    | .lt => ⟨path, text⟩ :: c :: rest
    | .eq => ⟨c.path, text⟩ :: rest
    | .gt => c :: insertInto path text rest

/-- Adds a source, or replaces the text of the one at its path. -/
def insert (cs : Companions) (path : Path) (text : String) : Companions :=
  ⟨insertInto path text cs.files⟩

def ofList (files : List (Path × String)) : Companions :=
  files.foldl (fun cs (path, text) => cs.insert path text) empty

def size (cs : Companions) : Nat := cs.files.length

end Companions

end ModelCache
