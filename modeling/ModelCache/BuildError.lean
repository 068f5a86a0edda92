import ModelCache.Diagnostic.Render
import ModelCache.Schema.Error
import ModelCache.Text.Lowercase
import ModelCache.Version

/-!
# Failed builds

Why a build cycle published nothing: the schema was at fault, no source came out of the generator,
the compiler rejected the unit, the types of the compiled module do not fit together, or no version
was left.

`BuildError.message` is one line. `BuildError.describe` is what an operator reads: for a rejected
unit, it goes on with every diagnostic and the lines of the unit they are about.
-/

namespace ModelCache

/-- Why there is no generated source. -/
inductive GenerationError where
  | companion (path cause : String)
  | generator (reason : String)
  | emptyOutput
  deriving DecidableEq, Repr

def GenerationError.message : GenerationError → String
  | companion path cause => s!"failed to read companion source {path}: {cause}"
  | generator reason => s!"code generation failed: {reason}"
  | emptyOutput => "code generator produced empty output"

/-- Why a build cycle failed. -/
inductive BuildError where
  | schema (error : SchemaError)
  /-- There is no generated source. -/
  | generation (error : GenerationError)
  /-- The compiler rejected the unit. -/
  | compilation (diagnostics : List Diagnostic) (unitText : String)
  /-- Two types claim one alias. -/
  | aliasConflict (key first second : String)
  /-- A concrete type does not have exactly one constructor that takes an element. -/
  | shape (typeName : String) (found : Nat)
  /-- No version is left. -/
  | versionsExhausted (last : BuildVersion)
  deriving DecidableEq, Repr

namespace BuildError

/-- The failure that a fault of the schema causes. Two content types with one alias fail a build in
the same way as two types of a module with one alias. -/
def ofSchema : SchemaError → BuildError
  | .aliasConflict first second => .aliasConflict (Text.lowercase first) first second
  | e => .schema e

def message : BuildError → String
  | schema error => s!"schema error: {error.message}"
  | generation error => error.message
  | compilation diagnostics _ =>
    let errors := Diagnostic.errorCount diagnostics
    s!"compilation of the models build unit failed with {errors} error(s)"
  | aliasConflict key first second =>
    s!"'{first}' and '{second}' both claim content type alias '{key}'"
  | shape typeName found =>
    s!"model type '{typeName}' must have exactly one constructor taking the backing element, " ++
      s!"found {found}"
  | versionsExhausted last => s!"build versions exhausted after {last}"

/-- The failure as an operator reads it. -/
def describe (e : BuildError) : String :=
  match e with
  | compilation diagnostics unitText =>
    e.message ++ "\n\n" ++ Diagnostic.renderAll (some unitText) diagnostics
  | _ => e.message

end BuildError

end ModelCache
