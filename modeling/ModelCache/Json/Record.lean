import ModelCache.Json

/-!
# Records in JSON

A record is written as an object of its fields. It is read from two forms:

* an object: a field may stand anywhere, none may stand twice, and other members are ignored, though
  their names must have texts;
* an array: the fields in the order of their declaration. Fields at the end may be missing, and
  there may be nothing beyond the last field.

What a missing field means is for the record to say: it takes a default, or the record is refused.
-/

namespace ModelCache.Json

/-- The fields found in a record. -/
structure Fields where
  /-- Whether the record was written as an array. -/
  positional : Bool
  /-- The fields that were present, by name. -/
  present : List (String × Json)

namespace Fields

/-- The known members of an object, unless one is repeated or some name has no text. -/
def named? (names : List String) : List (Option String × Json) → Option (List (String × Json))
  | [] => some []
  | (none, _) :: _ => none
  | (some name, value) :: rest => do
    let found ← named? names rest
    if name ∈ names then
      if found.any (·.1 == name) then none else return (name, value) :: found
    else return found

/-- The fields of a record with the given field names. -/
def of? (names : List String) : Json → Option Fields
  | .object members => (named? names members).map (⟨false, ·⟩)
  | .array items =>
    if items.length ≤ names.length then some ⟨true, names.zip items⟩ else none
  | _ => none

/-- The decoded value of a field that has to be present. -/
def required? (fs : Fields) (name : String) (decode : Json → Option α) : Option α :=
  (fs.present.lookup name).bind decode

/-- The decoded value of a field that has a default. -/
def defaulted? (fs : Fields) (name : String) (default : α) (decode : Json → Option α) : Option α :=
  match fs.present.lookup name with
  | none => some default
  | some j => decode j

end Fields

end ModelCache.Json
