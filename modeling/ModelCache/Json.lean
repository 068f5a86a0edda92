/-!
# JSON values

A value as a JSON text denotes it. Two things are kept that a value of JSON proper does not have:

* A numeral that is not a plain natural number keeps its spelling. Nothing in this library is
  stored as a fraction or with a sign, so such a numeral is never more than well-formed.
* A string may have no text: its escapes can name half of a surrogate pair. Such a string is
  well-formed, and harmless where nobody reads it.
-/

namespace ModelCache

/-- What a JSON text denotes. -/
inductive Json where
  | null
  | bool (b : Bool)
  /-- A numeral without sign, fraction and exponent. -/
  | natural (n : Nat)
  /-- Any other numeral, as spelled. -/
  | numeral (spelling : String)
  /-- A string, with its text if it has one. -/
  | string (text : Option String)
  | array (items : List Json)
  /-- Members in the order written, with the text of each name if it has one. -/
  | object (members : List (Option String × Json))
  deriving Inhabited

namespace Json

def text (s : String) : Json := .string (some s)

def record (members : List (String × Json)) : Json :=
  .object (members.map fun (name, value) => (some name, value))

/-- A value that may be absent; absence is written `null`. -/
def optional (encode : α → Json) : Option α → Json
  | none => .null
  | some a => encode a

def text? : Json → Option String
  | .string s => s
  | _ => none

def bool? : Json → Option Bool
  | .bool b => some b
  | _ => none

/-- The natural number below a bound. -/
def below? (bound : Nat) : Json → Option Nat
  | .natural n => if n < bound then some n else none
  | _ => none

/-- The items of an array, each decoded. -/
def list? (decode : Json → Option α) : Json → Option (List α)
  | .array items => items.mapM decode
  | _ => none

/-- The decoded value, where `null` stands for absence. -/
def nullable? (decode : Json → Option α) : Json → Option (Option α)
  | .null => some none
  | j => (decode j).map some

/-- The name of a variant without contents: a string, or an object with that one member and `null`
as its value. -/
def variant? : Json → Option String
  | .string s => s
  | .object [(s, .null)] => s
  | _ => none

end Json

end ModelCache
