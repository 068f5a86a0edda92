import ModelCache.BuildError
import ModelCache.Companion
import ModelCache.Schema.TypeModel

/-!
# The outline generator

A generator for hosts that only want to see what a cache hands over. Its source is an outline with
one line for the namespace and one for each type model, mixin and property. It can be told to fail,
or to give out a fixed text instead.
-/

namespace ModelCache.Bench

/-- What the generator has been told. -/
structure Generator where
  /-- Why it fails, if it is to fail. -/
  fault : Option String := none
  /-- The fixed text, if there is one. -/
  fixedText : Option String := none

namespace Generator

def mixinLine (typeName : String) : String := s!"  mixin {typeName}\n"

def propertyLine (p : PropertyModel) : String := s!"  prop {p.name}: {p.valueType}\n"

def modelLines (m : TypeModel) : String :=
  s!"model {m.typeName} {m.aliasName}\n" ++ String.join (m.mixins.map mixinLine) ++
    String.join (m.properties.map propertyLine)

/-- The outline of type models in a namespace, beside some companion sources. -/
def outline (companions : Companions) (models : List TypeModel) (namespaceName : String) : String :=
  s!"namespace {namespaceName} with {companions.size}\n" ++ String.join (models.map modelLines)

def generate (g : Generator) (companions : Companions) (models : List TypeModel)
    (namespaceName : String) : Except GenerationError String :=
  match g.fault with
  | some reason => .error (.generator reason)
  | none => .ok (g.fixedText.getD (outline companions models namespaceName))

end Generator

end ModelCache.Bench
