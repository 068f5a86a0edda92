import ModelCache.Json
import ModelCache.Text.Decimal
import ModelCache.Text.Hex

/-!
# Writing JSON

Two forms of a value. The compact form has no space in it. The indented form has an item or a
member on each line, two spaces further in than the brackets around it, and a space after the colon;
an empty array or object stays on its line.

Strings have short escapes for quotes, backslashes and the usual controls, four hexadecimal digits
for the other controls, and every other character as it is. A string without a text, which no
writer in this library produces, is written as `null`.
-/

namespace ModelCache.Json

def escapeChar (c : Char) : List Char :=
  if c = '"' then ['\\', '"']
  else if c = '\\' then ['\\', '\\']
  else if c = '\x08' then ['\\', 'b']
  else if c = '\x0c' then ['\\', 'f']
  else if c = '\n' then ['\\', 'n']
  else if c = '\r' then ['\\', 'r']
  else if c = '\t' then ['\\', 't']
  else if c.toNat < 0x20 then
    ['\\', 'u', '0', '0', Text.hexDigit (c.toNat / 16), Text.hexDigit (c.toNat % 16)]
  else [c]

def quote (s : String) : List Char := '"' :: (s.toList.flatMap escapeChar ++ ['"'])

/-- The form of values without contents. -/
def atom : Json → List Char
  | .null => "null".toList
  | .bool b => if b then "true".toList else "false".toList
  | .natural n => Text.decimalDigits n
  | .numeral spelling => spelling.toList
  | .string (some s) => quote s
  | _ => "null".toList

def quoteName (name : Option String) : List Char := quote (name.getD "")

mutual

def compactChars : Json → List Char
  | .array items => '[' :: (compactItems items ++ [']'])
  | .object members => '\x7b' :: (compactMembers members ++ ['\x7d'])
  | .null => atom .null
  | .bool b => atom (.bool b)
  | .natural n => atom (.natural n)
  | .numeral s => atom (.numeral s)
  | .string s => atom (.string s)

def compactItems : List Json → List Char
  | [] => []
  | [item] => compactChars item
  | item :: next :: rest => compactChars item ++ ',' :: compactItems (next :: rest)

def compactMembers : List (Option String × Json) → List Char
  | [] => []
  | [(name, value)] => quoteName name ++ ':' :: compactChars value
  | (name, value) :: next :: rest =>
    quoteName name ++ ':' :: (compactChars value ++ ',' :: compactMembers (next :: rest))

end

/-- A line end and the space in front of a line at a depth of nesting. -/
def newLine (depth : Nat) : List Char := '\n' :: List.replicate (2 * depth) ' '

mutual

/-- The indented form of a value whose brackets stand at the given depth. -/
def indentedChars (depth : Nat) : Json → List Char
  | .array [] => ['[', ']']
  | .array (item :: rest) =>
    '[' :: (indentedItems (depth + 1) (item :: rest) ++ (newLine depth ++ [']']))
  | .object [] => ['\x7b', '\x7d']
  | .object (member :: rest) =>
    '\x7b' :: (indentedMembers (depth + 1) (member :: rest) ++ (newLine depth ++ ['\x7d']))
  | .null => atom .null
  | .bool b => atom (.bool b)
  | .natural n => atom (.natural n)
  | .numeral s => atom (.numeral s)
  | .string s => atom (.string s)

/-- Items on lines of their own at the given depth. -/
def indentedItems (depth : Nat) : List Json → List Char
  | [] => []
  | [item] => newLine depth ++ indentedChars depth item
  | item :: next :: rest =>
    newLine depth ++ (indentedChars depth item ++ ',' :: indentedItems depth (next :: rest))

/-- Members on lines of their own at the given depth. -/
def indentedMembers (depth : Nat) : List (Option String × Json) → List Char
  | [] => []
  | [(name, value)] =>
    newLine depth ++ (quoteName name ++ ':' :: ' ' :: indentedChars depth value)
  | (name, value) :: next :: rest =>
    newLine depth ++ (quoteName name ++ ':' :: ' ' ::
      (indentedChars depth value ++ ',' :: indentedMembers depth (next :: rest)))

end

def compact (j : Json) : String := String.ofList (compactChars j)

def indented (j : Json) : String := String.ofList (indentedChars 0 j)

end ModelCache.Json
