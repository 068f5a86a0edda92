import ModelCache.Text.Decimal

/-!
# Diagnostics

What a compiler has to say about a build unit: how severe it is, a code, a message, the place in
the unit it is about, if any, and notes.

* `Severity` — note, warning, error, in this order.
* `Category` and `Code` — a code is a letter for its category and a number of at least four digits.
* `Location` — a line and a column of a named file, both counted from one.
-/

namespace ModelCache

/-- How severe a diagnostic is. -/
inductive Severity where
  /-- Further information. -/
  | note
  /-- A possible problem, which does not fail the build. -/
  | warning
  /-- A problem that fails the build. -/
  | error
  deriving DecidableEq, Repr

namespace Severity

/-- The place of a severity in the order from least to most severe. -/
def rank : Severity → Nat
  | note => 0
  | warning => 1
  | error => 2

instance : Ord Severity := ⟨fun a b => compare a.rank b.rank⟩

def isError (s : Severity) : Bool := s == error

/-- The severity at the start of a rendered diagnostic. -/
def word : Severity → String
  | note => "note"
  | warning => "warning"
  | error => "error"

end Severity

/-- The family that a diagnostic code belongs to. -/
inductive Category where
  | error
  | warning
  /-- Problems found in the models themselves. -/
  | model
  deriving DecidableEq, Repr

/-- The letter that codes of a category start with. -/
def Category.letter : Category → Char
  | error => 'E'
  | warning => 'W'
  | model => 'M'

/-- The code of a diagnostic. -/
structure Code where
  category : Category
  number : UInt16
  deriving DecidableEq, Repr

/-- The code as it is displayed: a letter and at least four digits. -/
def Code.text (c : Code) : String :=
  String.ofList [c.category.letter] ++ Text.paddedDecimal 4 c.number.toNat

/-- A place in a file. -/
structure Location where
  /-- The name of the file, as the compiler reported it. -/
  file : String
  /-- The line, counted from one. -/
  line : UInt32
  /-- The column, counted from one. -/
  column : UInt32
  deriving DecidableEq, Repr

/-- The place as it is displayed: the file, the line and the column, with colons between them. -/
def Location.text (l : Location) : String := s!"{l.file}:{l.line.toNat}:{l.column.toNat}"

/-- One thing that a compiler has to say. -/
structure Diagnostic where
  severity : Severity
  code : Code
  message : String
  /-- The place it is about, if it is about one. -/
  location : Option Location
  /-- Explanations that follow the message. -/
  notes : List String
  deriving DecidableEq, Repr

namespace Diagnostic

/-- A diagnostic of the given severity without a place and without notes. -/
def plain (severity : Severity) (code : Code) (message : String) : Diagnostic :=
  { severity, code, message, location := none, notes := [] }

def withLocation (d : Diagnostic) (l : Location) : Diagnostic := { d with location := some l }

def withNote (d : Diagnostic) (note : String) : Diagnostic := { d with notes := d.notes ++ [note] }

def errorCount (ds : List Diagnostic) : Nat := ds.countP (·.severity.isError)

end Diagnostic

end ModelCache
