import ModelCache.Schema
import ModelCache.Json.Record

/-!
# Schemas in JSON

Content types, properties and directives are records in the order of their fields. Directives,
properties and mixins may be missing and are then empty. Aliases are written as they were spelled.
-/

namespace ModelCache

open Json (Fields)

namespace Alias

/-- An alias in JSON: its spelling. -/
def toJson (a : Alias) : Json := .text a.spelling

def ofJson? (j : Json) : Option Alias := j.text?.map Alias.mk

end Alias

namespace ContentKind

def name : ContentKind → String
  | content => "Content"
  | element => "Element"
  | media => "Media"
  | member => "Member"

def ofName? : String → Option ContentKind
  | "Content" => some content
  | "Element" => some element
  | "Media" => some media
  | "Member" => some member
  | _ => none

def toJson (k : ContentKind) : Json := .text k.name

def ofJson? (j : Json) : Option ContentKind := j.variant?.bind ofName?

end ContentKind

namespace Directives

def toJson (d : Directives) : Json :=
  .record [("rename", .optional .text d.rename), ("ignore", .bool d.ignore)]

def ofJson? (j : Json) : Option Directives := do
  let fs ← Fields.of? ["rename", "ignore"] j
  let rename ← fs.defaulted? "rename" none (Json.nullable? Json.text?)
  let ignore ← fs.defaulted? "ignore" false Json.bool?
  return { rename, ignore }

end Directives

namespace Property

def toJson (p : Property) : Json :=
  .record [("alias", .text p.aliasName), ("editor", .text p.editor),
    ("value_type", .text p.valueType), ("directives", p.directives.toJson)]

def ofJson? (j : Json) : Option Property := do
  let fs ← Fields.of? ["alias", "editor", "value_type", "directives"] j
  let aliasName ← fs.required? "alias" Json.text?
  let editor ← fs.required? "editor" Json.text?
  let valueType ← fs.required? "value_type" Json.text?
  let directives ← fs.defaulted? "directives" {} Directives.ofJson?
  return { aliasName, editor, valueType, directives }

end Property

namespace ContentType

def toJson (t : ContentType) : Json :=
  .record [("alias", t.aliasName.toJson), ("kind", t.kind.toJson),
    ("properties", .array (t.properties.map Property.toJson)),
    ("mixins", .array (t.mixins.map Alias.toJson)), ("directives", t.directives.toJson)]

def ofJson? (j : Json) : Option ContentType := do
  let fs ← Fields.of? ["alias", "kind", "properties", "mixins", "directives"] j
  let aliasName ← fs.required? "alias" Alias.ofJson?
  let kind ← fs.required? "kind" ContentKind.ofJson?
  let properties ← fs.defaulted? "properties" [] (Json.list? Property.ofJson?)
  let mixins ← fs.defaulted? "mixins" [] (Json.list? Alias.ofJson?)
  let directives ← fs.defaulted? "directives" {} Directives.ofJson?
  return { aliasName, kind, properties, mixins, directives }

end ContentType

end ModelCache
