import ModelCache.Text.Lowercase
import ModelCache.Text.Quoted

/-!
# Aliases

The name of a content type in the schema. Aliases are the same when their small-letter forms are;
each keeps the spelling it was given, for display and for messages. Sorted collections order aliases
by their small-letter forms.
-/

namespace ModelCache

/-- The name of a content type, as somebody spelled it. -/
structure Alias where
  spelling : String
  deriving Repr

namespace Alias

/-- What two spellings of one alias have in common. -/
def key (a : Alias) : String := Text.lowercase a.spelling

instance : BEq Alias := ⟨fun a b => a.key == b.key⟩

instance : Ord Alias := ⟨fun a b => compare a.key b.key⟩

instance : Hashable Alias := ⟨fun a => hash a.key⟩

instance : ToString Alias := ⟨spelling⟩

def inspect (a : Alias) : String := "Alias(" ++ Text.quoted a.spelling ++ ")"

/-- Two aliases are the same exactly when their keys are. -/
theorem beq_iff_key_eq (a b : Alias) : (a == b) = true ↔ a.key = b.key := by
  simp [BEq.beq]

end Alias

end ModelCache
