import ModelCache.Companion
import ModelCache.Digest.Field
import ModelCache.Schema

/-!
# The digest of the build inputs

What decides whether a compiled module is current: the companion sources and the schema. Their
digest covers every path and text, and every alias, kind, directive, property and mixin as spelled.
It does not depend on the order in which content types are listed, nor on the order in which
companion sources were read.

`Schema.fields` is the content that is digested, as fields.
-/

namespace ModelCache

def companionsMark : UInt8 := 0xC0

def schemaMark : UInt8 := 0x5C

def ContentKind.mark : ContentKind → UInt8
  | content => 0
  | element => 1
  | media => 2
  | member => 3

def Directives.fields (d : Directives) : List Field :=
  .flag d.ignore ::
    match d.rename with
    | some name => [.flag true, .text name]
    | none => [.flag false]

def Property.fields (p : Property) : List Field :=
  [.text p.aliasName, .text p.editor, .text p.valueType] ++ p.directives.fields

def ContentType.fields (t : ContentType) : List Field :=
  [.text t.aliasName.spelling, .mark t.kind.mark] ++ t.directives.fields ++
    .count t.properties.length :: t.properties.flatMap Property.fields ++
    .count t.mixins.length :: t.mixins.map fun m => .text m.spelling

def Companions.fields (cs : Companions) : List Field :=
  .mark companionsMark :: .count cs.size ::
    cs.files.flatMap fun c => [.text c.path.text, .text c.text]

namespace Schema

/-- Content types in the order of their aliases, and by spelling where these are the same. -/
def inOrder (a b : ContentType) : Bool :=
  ((compare a.aliasName b.aliasName).then (compare a.aliasName.spelling b.aliasName.spelling)).isLE

def fields (s : Schema) : List Field :=
  .mark schemaMark :: .count s.length :: (s.mergeSort inOrder).flatMap ContentType.fields

def digest (companions : Companions) (s : Schema) : Digest :=
  .ofFields (companions.fields ++ s.fields)

end Schema

end ModelCache
