import ModelCache.Alias
import ModelCache.Digest
import ModelCache.Path
import ModelCache.Version

/-!
# Compiled modules

What a compiled module tells about itself: where it is, its version, the digest it was compiled
with, if it carries one, and the model types it registers. A model type brings its constructors
along; exactly one of a concrete type's constructors should take a published element.
-/

namespace ModelCache

/-- A published item, as the host sees it without a model type. -/
structure Element where
  contentType : Alias
  deriving Repr

/-- A published item wrapped in a model type. -/
structure Model where
  typeName : String
  element : Element
  deriving Repr

def Element.inspect (e : Element) : String := s!"el:{e.contentType}"

def Model.inspect (m : Model) : String := s!"model:{m.typeName}"

/-- A constructor of a model type. -/
inductive Constructor where
  /-- One that takes a published element and nothing else. -/
  | element (wrap : Element → Model)
  /-- Any other one, with the names of its parameters' types. -/
  | other (params : List String)

namespace Constructor

/-- What a constructor that takes an element does with it. -/
def wrap? : Constructor → Option (Element → Model)
  | .element wrap => some wrap
  | .other _ => none

def inspect : Constructor → String
  | .element _ => "Constructor::Element(..)"
  | .other params =>
    "Constructor::Other \x7b params: " ++ Text.bracketed (params.map Text.quoted) ++ " \x7d"

end Constructor

/-- A model type that a module registers. -/
structure TypeDecl where
  typeName : String
  /-- The alias of the content type it is for, if it was declared with one. -/
  declaredAlias : Option Alias
  isAbstract : Bool
  constructors : List Constructor

namespace TypeDecl

/-- The alias of the content type that the type is for: the declared one, or else its own name. -/
def aliasName (d : TypeDecl) : Alias := d.declaredAlias.getD ⟨d.typeName⟩

/-- What its constructors that take an element do. -/
def wrappers (d : TypeDecl) : List (Element → Model) := d.constructors.filterMap Constructor.wrap?

/-- A constructor that wraps elements in a type of the given name. -/
def wrapping (typeName : String) : Constructor := .element fun element => { typeName, element }

end TypeDecl

/-- A compiled module. -/
structure Module where
  /-- Where it can be loaded from. -/
  location : Path
  version : BuildVersion
  /-- The digest it was compiled with, if it carries one. -/
  marker : Option Digest
  types : List TypeDecl

end ModelCache
