import ModelCache.BuildUnit
import ModelCache.Diagnostic
import ModelCache.Module

/-!
# The line compiler

A compiler for units in which a line of words declares a type. A line is split at single spaces, and
empty words do not count. Lines that declare nothing are ignored, so any text compiles, unless the
compiler has been told to reject it.

| Line | Type |
|---|---|
| `model T a` | `T` for the alias `a`, which wraps elements |
| `bare T` | `T` without an alias, with a second constructor |
| `abstract T` | an abstract `T` without constructors |
| `shapeless T a` | `T` for the alias `a`, with no constructor that takes an element |
| `double T a` | `T` for the alias `a`, with two constructors that take an element |
-/

namespace ModelCache.Bench

def otherConstructor : Constructor := .other ["String"]

/-- The type that the words of a line declare. -/
def declaration? : List String → Option TypeDecl
  | ["model", t, a] => some ⟨t, some ⟨a⟩, false, [TypeDecl.wrapping t]⟩
  | ["bare", t] => some ⟨t, none, false, [otherConstructor, TypeDecl.wrapping t]⟩
  | ["abstract", t] => some ⟨t, none, true, []⟩
  | ["shapeless", t, a] => some ⟨t, some ⟨a⟩, false, [otherConstructor]⟩
  | ["double", t, a] =>
    some ⟨t, some ⟨a⟩, false, [TypeDecl.wrapping t, otherConstructor, TypeDecl.wrapping t]⟩
  | _ => none

def words (line : List Char) : List String :=
  (line.splitOn ' ').filterMap fun word => if word = [] then none else some (String.ofList word)

/-- The types that a text declares, in the order of its lines. -/
def declarations (text : String) : List TypeDecl :=
  (text.toList.splitOn '\n').filterMap fun line => declaration? (words line)

/-- What the compiler has been told. -/
structure Compiler where
  /-- What it says against every unit, if it is to reject them. -/
  rejection : Option (List Diagnostic) := none
  /-- Where modules are put, if not at a place of their own each. -/
  location : Option Path := none
  /-- Whether the compilation of a unit takes in the modules of other caches. -/
  nested : Bool := false

namespace Compiler

/-- The place of the module of a version. -/
def placeOf (version : BuildVersion) : Path := ⟨s!"modules/models.v{version}"⟩

def moduleOf (c : Compiler) (unit : BuildUnit) : Module :=
  { location := c.location.getD (placeOf unit.version), version := unit.version
    marker := some unit.digest, types := declarations unit.text }

def compile (c : Compiler) (unit : BuildUnit) : Except (List Diagnostic) Module :=
  match c.rejection with
  | some diagnostics => .error diagnostics
  | none => .ok (c.moduleOf unit)

end Compiler

end ModelCache.Bench
