import ModelCache.Alias

/-!
# Tables keyed by alias

A table has one value for each alias, whatever its spelling. An entry whose value is replaced keeps
the spelling it was first made with. A look-up takes a key as it is: a text that is not in small
letters is the key of no alias.
-/

namespace ModelCache.Alias

/-- Values by alias, in the order in which the aliases were first inserted. -/
structure Table (α : Type) where
  /-- The entries; no two of them have the same alias. -/
  entries : List (Alias × α)

namespace Table

def empty : Table α := ⟨[]⟩

def get? (t : Table α) (key : String) : Option α :=
  (t.entries.find? fun entry => entry.1.key == key).map (·.2)

/-- Sets the value of an alias. The answer is the value it had before. -/
def insert (t : Table α) (a : Alias) (value : α) : Option α × Table α :=
  match t.get? a.key with
  | none => (none, ⟨t.entries ++ [(a, value)]⟩)
  | some old => (some old, ⟨t.entries.map fun (b, v) => (b, if b == a then value else v)⟩)

def sorted (t : Table α) : List (Alias × α) :=
  t.entries.mergeSort fun a b => (compare a.1 b.1).isLE

end Table

end ModelCache.Alias
