import ModelCache.Schema
import ModelCache.Schema.Error
import ModelCache.Text.Blank
import ModelCache.Text.Words

/-!
# Type models

A type model is a content type as it appears in generated code: renamed, without what is left out,
and with its mixins resolved to the names of generated types. Type models are listed by alias, so
that what is generated does not depend on how the schema was listed.

A schema has type models if it passes these checks, which are made in this order:

* every alias has something in it, and no two are the same (`distinctAliases`);
* of the content types that are not left out, no two generate types of one name (`claimNames`);
* their mixins are content types that are not left out (`resolveMixins`);
* no content type takes itself over through its mixins (`checkCycles`);
* no two properties that a type ends up with have the same name, where a property that comes in
  over several mixins is one property (`checkAccessors`).

The last three look along mixins, and they look content types up by keys that are taken to be there.
`visit` walks down from a content type and marks it `visiting` on the way down and `done` on the way
up, so a cycle shows as a key that is met again while it is `visiting`. `reach` lists what a content
type takes over, the last mixin first. Either would have no answer if a key were not there or if its
bound were too small, which is a `Stop` of its own.
-/

namespace ModelCache

/-- A property as it appears in generated code. -/
structure PropertyModel where
  aliasName : String
  name : String
  /-- The alias of the editor that produces its values. -/
  editor : String
  /-- The name of the type of its values. -/
  valueType : String
  deriving DecidableEq, Repr

/-- A content type as it appears in generated code. -/
structure TypeModel where
  aliasName : Alias
  kind : ContentKind
  typeName : String
  /-- The properties that the content type declares itself. -/
  properties : List PropertyModel
  /-- The names of the types generated for its mixins. -/
  mixins : List String
  /-- Whether another content type has it as a mixin. -/
  isMixin : Bool
  deriving Repr

/-! ## Names -/

/-- The name of the type that a content type generates. -/
def ContentType.typeName (t : ContentType) : String :=
  t.directives.rename.getD (Text.upperCamelCase t.aliasName.spelling)

/-- The name of the accessor that a property generates. -/
def Property.accessor (p : Property) : String :=
  p.directives.rename.getD (Text.upperCamelCase p.aliasName)

def Property.model (p : Property) : PropertyModel :=
  { aliasName := p.aliasName, name := p.accessor, editor := p.editor, valueType := p.valueType }

/-- The properties that a content type brings into generated code itself. -/
def ContentType.ownProperties (t : ContentType) : List PropertyModel :=
  (t.properties.filter (!·.directives.ignore)).map Property.model

namespace Schema

def get? (s : Schema) (key : String) : Option ContentType :=
  List.find? (fun t => t.aliasName.key == key) s

/-! ## Checks on aliases and names -/

/-- Every alias has something in it, and no two are the same. -/
def distinctAliases (seen : List ContentType) : Schema → Except SchemaError Unit
  | [] => .ok ()
  | t :: rest =>
    if Text.isBlankText t.aliasName.spelling then .error .emptyAlias
    else
      match get? seen t.aliasName.key with
      | some first => .error (.aliasConflict first.aliasName.spelling t.aliasName.spelling)
      | none => distinctAliases (t :: seen) rest

/-- The content types that are not left out, in the order of their aliases. -/
def active (s : Schema) : List ContentType :=
  (s.filter (!·.directives.ignore)).mergeSort fun a b => (compare a.aliasName b.aliasName).isLE

/-- No two content types generate types of one name. -/
def claimNames (claimed : List ContentType) : List ContentType → Except SchemaError Unit
  | [] => .ok ()
  | t :: rest =>
    match claimed.find? (·.typeName == t.typeName) with
    | some first =>
      .error (.typeNameCollision t.typeName first.aliasName.spelling t.aliasName.spelling)
    | none => claimNames (t :: claimed) rest

/-! ## Checks along mixins -/

/-- Every mixin of the given content types is one of `types`. -/
def resolveMixins (types : Schema) : List ContentType → Except SchemaError Unit
  | [] => .ok ()
  | t :: rest =>
    match t.mixins.find? fun m => (get? types m.key).isNone with
    | some m => .error (.unknownMixin t.aliasName.spelling m.spelling)
    | none => resolveMixins types rest

/-- Why what looks along mixins ends without a result. -/
inductive Stop where
  /-- The schema is at fault. -/
  | fault (e : SchemaError)
  /-- No content type has a key that was looked up, so that there is no answer. -/
  | missing (key : String)
  /-- The bound was reached before the end. -/
  | unfinished
  deriving DecidableEq, Repr

/-- A check, with its fault as a `Stop`. -/
def stopping : Except SchemaError Unit → Except Stop Unit
  | .ok () => .ok ()
  | .error e => .error (.fault e)

/-- The content type with a key that is taken to be there. -/
def lookUp (types : Schema) (key : String) : Except Stop ContentType :=
  match get? types key with
  | some t => .ok t
  | none => .error (.missing key)

/-- How far the search for cycles has come with a content type. -/
inductive Mark where
  /-- The search is below it. -/
  | visiting
  /-- The search has been through everything below it. -/
  | done
  deriving DecidableEq, Repr

/-- The marks of content types by key. Of several marks of a key the first one counts. -/
abbrev Marks := List (String × Mark)

/-- Looks for cycles from a key downwards. The result is the marks with those of what was visited.
The fuel bounds the depth, which the number of content types does too. -/
def visit (types : Schema) : (fuel : Nat) → Marks → (key : String) → Except Stop Marks
  | 0, _, _ => .error .unfinished
  | fuel + 1, marks, key =>
    match marks.lookup key with
    | some .done => .ok marks
    | some .visiting => do
      let t ← lookUp types key
      .error (.fault (.mixinCycle t.aliasName.spelling))
    | none => do
      let t ← lookUp types key
      let marks ← t.mixins.foldlM (fun marks m => visit types fuel marks m.key)
        ((key, .visiting) :: marks)
      return (key, .done) :: marks

/-- Visits every content type, with the marks of those before it. -/
def visitAll (types : Schema) (fuel : Nat) : Except Stop Marks :=
  types.foldlM (fun marks t => visit types fuel marks t.aliasName.key) []

/-- No content type takes itself over through its mixins. -/
def checkCycles (types : Schema) : Except Stop Unit := do
  let _ ← visitAll types (types.length + 1)

/-- The content types that the keys in `stack` take over, their own included, each once and none
that is in `visited`. The fuel bounds the number of keys taken from the stack. -/
def reach (types : Schema) :
    (fuel : Nat) → (visited stack : List String) → Except Stop (List ContentType)
  | 0, _, _ => .error .unfinished
  | _ + 1, _, [] => .ok []
  | fuel + 1, visited, key :: stack =>
    if key ∈ visited then reach types fuel visited stack
    else do
      let t ← lookUp types key
      let rest ← reach types fuel (key :: visited) ((t.mixins.map Alias.key).reverse ++ stack)
      return t :: rest

/-- How many keys can come onto the stack of `reach` when it starts with one. -/
def reachBound (types : Schema) : Nat := types.foldr (fun t n => t.mixins.length + n) 2

/-- A property that a type ends up with: the accessor and where the property was declared. -/
structure Accessor where
  name : String
  /-- The key of the content type that declares the property. -/
  owner : String
  property : String
  deriving DecidableEq, Repr

/-- The properties that a content type brings in itself, as accessors. -/
def ownAccessors (t : ContentType) : List Accessor :=
  t.ownProperties.map fun p =>
    { name := p.name, owner := t.aliasName.key, property := p.aliasName }

/-- The properties that a content type ends up with, its own first. -/
def accessors (types : Schema) (t : ContentType) : Except Stop (List Accessor) :=
  (reach types (reachBound types) [] [t.aliasName.key]).map (·.flatMap ownAccessors)

/-- The first accessor that has the name of an earlier one but stands for another property. -/
def clash? (seen : List Accessor) : List Accessor → Option Accessor
  | [] => none
  | a :: rest =>
    match seen.find? (·.name == a.name) with
    | some b => if b = a then clash? seen rest else some a
    | none => clash? (a :: seen) rest

/-- No two properties that a type ends up with have the same name. -/
def checkAccessors (types : Schema) : List ContentType → Except Stop Unit
  | [] => .ok ()
  | t :: rest => do
    match clash? [] (← accessors types t) with
    | some a => .error (.fault (.duplicateProperty t.aliasName.spelling a.name))
    | none => checkAccessors types rest

/-! ## The models -/

/-- The name of the type that the content type of an alias generates. -/
def nameOf (types : Schema) (a : Alias) : Except Stop String :=
  (lookUp types a.key).map ContentType.typeName

/-- The model of a content type, given all that are not left out. -/
def modelOf (types : Schema) (t : ContentType) : Except Stop TypeModel := do
  let typeName ← nameOf types t.aliasName
  let mixins ← t.mixins.mapM (nameOf types)
  return { aliasName := t.aliasName
           kind := t.kind
           typeName
           properties := t.ownProperties
           mixins
           isMixin := types.any fun other => other.mixins.any (· == t.aliasName) }

/-- The models of content types that are in the order of their aliases. -/
def modelsIn (types : List ContentType) : Except Stop (List TypeModel) := do
  stopping (claimNames [] types)
  stopping (resolveMixins types types)
  checkCycles types
  checkAccessors types types
  types.mapM (modelOf types)

/-- The models, or the fault of the schema. It never comes to another `Stop`. -/
def modelsOf (types : List ContentType) : Except SchemaError (List TypeModel) :=
  match modelsIn types with
  | .ok models => .ok models
  | .error (.fault e) => .error e
  | .error (.missing _) | .error .unfinished => .error (.provider "no answer")

/-- The type models of a schema, in the order of their aliases. -/
def typeModels (s : Schema) : Except SchemaError (List TypeModel) := do
  distinctAliases [] s
  modelsOf (active s)

end Schema

end ModelCache
