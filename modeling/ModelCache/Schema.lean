import ModelCache.Alias

/-!
# Content schemas

A schema is a list of content types. A content type has an alias, a kind, properties of its own and
mixins: other content types whose properties it takes over. Directives on a content type or a
property rename it in the generated code, or leave it out.
-/

namespace ModelCache

/-- What kind of published item a content type describes. -/
inductive ContentKind where
  /-- A page with an address of its own. -/
  | content
  /-- A part of another item. -/
  | element
  | media
  | member
  deriving DecidableEq, Repr

/-- How the generated code treats a content type or a property. -/
structure Directives where
  /-- The name to generate it under, in place of the one its alias gives. -/
  rename : Option String := none
  /-- Whether it is left out. -/
  ignore : Bool := false
  deriving DecidableEq, Repr

namespace Directives

def renamed (name : String) : Directives := { rename := some name }

/-- Directives that leave the item out. -/
def ignored : Directives := { ignore := true }

end Directives

/-- A property of a content type. -/
structure Property where
  aliasName : String
  /-- The alias of the editor that produces its values. -/
  editor : String
  /-- The name of the type of its values. -/
  valueType : String
  directives : Directives := {}
  deriving DecidableEq, Repr

/-- A content type. -/
structure ContentType where
  /-- The name of the content type, unique within a schema. -/
  aliasName : Alias
  kind : ContentKind
  /-- The properties it declares itself, in order. -/
  properties : List Property := []
  /-- The content types whose properties it takes over. -/
  mixins : List Alias := []
  directives : Directives := {}
  deriving Repr

/-- The content types of a site, in the order in which they were listed. -/
abbrev Schema := List ContentType

namespace ContentType

def withProperty (t : ContentType) (p : Property) : ContentType :=
  { t with properties := t.properties ++ [p] }

def withMixin (t : ContentType) (a : Alias) : ContentType := { t with mixins := t.mixins ++ [a] }

def withDirectives (t : ContentType) (d : Directives) : ContentType := { t with directives := d }

end ContentType

end ModelCache
