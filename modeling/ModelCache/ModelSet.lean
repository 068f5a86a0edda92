import ModelCache.BuildError
import ModelCache.Module
import ModelCache.TypeExpr

/-!
# Model sets

What a successful build publishes: for every alias a model type and how to wrap an element in it,
and the module that the types came from. A set is never changed; the next build publishes another
one, of a larger generation. Where a set has no type for an alias, elements stay as they are.

* `ModelSet.ofModule` checks the types of a module and makes a set of them.
* `ModelSet.lookup` finds a type by any spelling of its alias. The readers `mapType`,
  `createInstance` and `createList` all go through it.
-/

namespace ModelCache

/-- An element, wrapped in a model type if one is published for it. -/
inductive Instance where
  | typed (model : Model)
  /-- The element as it is. -/
  | untyped (element : Element)
  deriving Repr

namespace Instance

def element : Instance → Element
  | typed m => m.element
  | untyped e => e

def model? : Instance → Option Model
  | typed m => some m
  | untyped _ => none

def isTyped (i : Instance) : Bool := i.model?.isSome

def inspect : Instance → String
  | typed m => s!"Typed({m.inspect})"
  | untyped e => s!"Untyped({e.inspect})"

end Instance

/-- A list of instances of one type. -/
structure ModelList where
  itemType : String
  /-- How elements are wrapped when they are added, if they are. -/
  wrap : Option (Element → Model)
  items : List Instance

namespace ModelList

/-- An empty list whose items stay as they are. -/
def untyped : ModelList := ⟨TypeExpr.backingElement, none, []⟩

def isTyped (l : ModelList) : Bool := l.wrap.isSome

def push (l : ModelList) (e : Element) : ModelList :=
  let item := match l.wrap with
    | some wrap => .typed (wrap e)
    | none => .untyped e
  { l with items := l.items ++ [item] }

def isEmpty (l : ModelList) : Bool := l.items.isEmpty

def inspect (l : ModelList) : String :=
  "ModelList \x7b item_type: " ++ Text.quoted l.itemType ++ ", items: " ++
    Text.bracketed (l.items.map Instance.inspect) ++ " \x7d"

end ModelList

/-- The model type published for an alias. -/
structure ModelDescriptor where
  aliasName : Alias
  typeName : String
  wrap : Element → Model

namespace ModelDescriptor

/-- The name of the type of lists of the type. -/
def listTypeName (d : ModelDescriptor) : String := s!"{TypeExpr.listName}<{d.typeName}>"

def createList (d : ModelDescriptor) : ModelList := ⟨d.typeName, some d.wrap, []⟩

def inspect (d : ModelDescriptor) : String :=
  "ModelDescriptor \x7b alias: " ++ d.aliasName.inspect ++ ", type_name: " ++
    Text.quoted d.typeName ++ " \x7d"

end ModelDescriptor

/-- What a build publishes. -/
structure ModelSet where
  /-- A number that grows from each set that a cache publishes to the next. It has no bound here, so
  that a word's overflow after 2^64 builds is left out. -/
  generation : Nat
  /-- The published types, in the order in which the module registers them. -/
  models : List ModelDescriptor
  /-- The names of the types of lists, by the names of the types of their items. -/
  listTypes : List (String × String)
  module : Option Module

namespace ModelSet

def empty (generation : Nat) : ModelSet := ⟨generation, [], [], none⟩

def withKey? (models : List ModelDescriptor) (key : String) : Option ModelDescriptor :=
  models.find? (·.aliasName.key == key)

/-- Descriptors for the concrete types among the declarations, behind those made `before`. -/
def collect (before : List ModelDescriptor) :
    List TypeDecl → Except BuildError (List ModelDescriptor)
  | [] => .ok before
  | d :: rest =>
    if d.isAbstract then collect before rest
    else
      match d.wrappers with
      | [wrap] =>
        match withKey? before d.aliasName.key with
        | some first => .error (.aliasConflict d.aliasName.key first.typeName d.typeName)
        | none => collect (before ++ [⟨d.aliasName, d.typeName, wrap⟩]) rest
      | wrappers => .error (.shape d.typeName wrappers.length)

/-- The types of lists of the published types. A type that is published for several aliases has an
entry for each of them, and these are all alike. -/
def listTypesOf (models : List ModelDescriptor) : List (String × String) :=
  models.map fun d => (d.typeName, d.listTypeName)

/-- The set of a module's concrete types. Each must have exactly one constructor that takes an
element, and no two may be for the same alias. -/
def ofModule (generation : Nat) (m : Module) : Except BuildError ModelSet :=
  (collect [] m.types).map fun models => ⟨generation, models, listTypesOf models, some m⟩

/-- The version of the module that the types came from. -/
def version (s : ModelSet) : Option BuildVersion := s.module.map Module.version

/-- The descriptor for an alias in any spelling. -/
def lookup (s : ModelSet) (spelling : String) : Option ModelDescriptor :=
  withKey? s.models (Text.lowercase spelling)

def size (s : ModelSet) : Nat := s.models.length

/-- The name of the type published for an alias, or the one for elements as they are. -/
def typeNameFor (s : ModelSet) (a : Alias) : String :=
  ((s.lookup a.key).map ModelDescriptor.typeName).getD TypeExpr.backingElement

/-- The name of the list type that stands for a generic type with the given arguments: for a list
of a single placeholder whose alias has a type. -/
def listCounterpart? (s : ModelSet) (name : String) (args : List TypeExpr) : Option String :=
  match args with
  | [.model a] =>
    if name = TypeExpr.listName then
      (s.lookup a.key).bind fun d => s.listTypes.lookup d.typeName
    else none
  | _ => none

mutual

/-- The expression with every placeholder replaced by the name of the published type. -/
def mapType (s : ModelSet) : TypeExpr → TypeExpr
  | .model a => .named (s.typeNameFor a)
  | .named name => .named name
  | .generic name args =>
    match s.listCounterpart? name args with
    | some list => .named list
    | none => .generic name (s.mapTypes args)
  | .array item => .array (s.mapType item)

/-- The expressions with every placeholder replaced by the name of the published type. -/
def mapTypes (s : ModelSet) : List TypeExpr → List TypeExpr
  | [] => []
  | e :: rest => s.mapType e :: s.mapTypes rest

end

/-- The element, wrapped in the type published for its content type, if there is one. -/
def createInstance (s : ModelSet) (e : Element) : Instance :=
  match s.lookup e.contentType.key with
  | some d => .typed (d.wrap e)
  | none => .untyped e

/-- An empty list of the type published for an alias, or one of elements as they are. -/
def createList (s : ModelSet) (spelling : String) : ModelList :=
  match s.lookup spelling with
  | some d => d.createList
  | none => .untyped

def sortedModels (s : ModelSet) : List ModelDescriptor :=
  s.models.mergeSort fun a b => (compare a.aliasName b.aliasName).isLE

def inspect (s : ModelSet) : String :=
  let aliases := s.sortedModels.map fun d => Text.quoted d.aliasName.key
  let version := match s.version with
    | some v => s!"Some({v.inspect})"
    | none => "None"
  "ModelSet \x7b generation: " ++ toString s.generation ++ ", aliases: " ++
    Text.bracketed aliases ++ ", build_version: " ++ version ++ " \x7d"

end ModelSet

end ModelCache
