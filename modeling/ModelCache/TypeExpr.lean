import ModelCache.Alias

/-!
# Type expressions

Expressions for types in host code. A type that is generated for a content type can be named by the
content type's alias; such a placeholder is shown in braces, and is to be replaced by the name of
the published type.
-/

namespace ModelCache

/-- A type expression. -/
inductive TypeExpr where
  /-- A placeholder for the type generated for a content type. -/
  | model (contentType : Alias)
  | named (name : String)
  | generic (name : String) (args : List TypeExpr)
  | array (item : TypeExpr)
  deriving Repr

namespace TypeExpr

/-- The name of the type of items without a generated type. -/
def backingElement : String := "PublishedElement"

def listName : String := "List"

def listOf (item : TypeExpr) : TypeExpr := .generic listName [item]

mutual

/-- Whether a placeholder is left. -/
def hasPlaceholders : TypeExpr → Bool
  | .model _ => true
  | .named _ => false
  | .generic _ args => anyPlaceholders args
  | .array item => item.hasPlaceholders

/-- Whether a placeholder is left in some of the expressions. -/
def anyPlaceholders : List TypeExpr → Bool
  | [] => false
  | e :: rest => e.hasPlaceholders || anyPlaceholders rest

end

mutual

def text : TypeExpr → String
  | .model a => "\x7b" ++ a.spelling ++ "\x7d"
  | .named name => name
  | .generic name args => name ++ "<" ++ ", ".intercalate (texts args) ++ ">"
  | .array item => "[" ++ item.text ++ "]"

def texts : List TypeExpr → List String
  | [] => []
  | e :: rest => e.text :: texts rest

end

mutual

/-- Whether two expressions are the same. Placeholders are the same when their aliases are. -/
def same : TypeExpr → TypeExpr → Bool
  | .model a, .model b => a == b
  | .named a, .named b => a == b
  | .generic a as, .generic b bs => a == b && sameAll as bs
  | .array a, .array b => a.same b
  | _, _ => false

def sameAll : List TypeExpr → List TypeExpr → Bool
  | [], [] => true
  | a :: as, b :: bs => a.same b && sameAll as bs
  | _, _ => false

end

end TypeExpr

end ModelCache
