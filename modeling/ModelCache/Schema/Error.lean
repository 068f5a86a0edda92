/-!
# Faulty schemas

Why no type models come out of a schema. The names in a fault are aliases as the schema spells them.
-/

namespace ModelCache

/-- What is wrong with a schema. -/
inductive SchemaError where
  /-- The schema could not be had at all. -/
  | provider (reason : String)
  /-- A content type has a blank alias. -/
  | emptyAlias
  /-- Two content types have the same alias. -/
  | aliasConflict (first second : String)
  /-- Two content types generate types of one name. -/
  | typeNameCollision (typeName first second : String)
  /-- A mixin is no content type of the schema, or one that is left out. -/
  | unknownMixin (contentType mixin : String)
  /-- A content type takes itself over through its mixins. -/
  | mixinCycle (contentType : String)
  /-- Two properties of one generated type get the same name. -/
  | duplicateProperty (contentType property : String)
  deriving DecidableEq, Repr

def SchemaError.message : SchemaError → String
  | provider reason => s!"schema provider failed: {reason}"
  | emptyAlias => "content type with empty alias"
  | aliasConflict first second =>
    s!"content types '{first}' and '{second}' claim the same alias"
  | typeNameCollision typeName first second =>
    s!"content types '{first}' and '{second}' both generate type '{typeName}'"
  | unknownMixin contentType mixin =>
    s!"content type '{contentType}' mixes in unknown content type '{mixin}'"
  | mixinCycle contentType => s!"mixin cycle through content type '{contentType}'"
  | duplicateProperty contentType property =>
    s!"content type '{contentType}' has two properties named '{property}'"

end ModelCache
