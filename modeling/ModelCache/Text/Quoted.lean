import ModelCache.Text.Class

/-!
# Quoted texts

The form in which texts appear in inspection output: in double quotes, with a backslash before
quotes and backslashes, the usual short escapes for line ends, tabs and zero, and the code point in
braces for whatever could not be seen or would attach itself to its neighbour.
-/

namespace ModelCache.Text

/-- A code point written in braces after a backslash and a small u. -/
def codePointEscape (c : Char) : List Char :=
  '\\' :: 'u' :: '\x7b' :: (Nat.toDigits 16 c.toNat ++ ['\x7d'])

def quoteChar (c : Char) : List Char :=
  if c = '\x00' then ['\\', '0']
  else if c = '\t' then ['\\', 't']
  else if c = '\r' then ['\\', 'r']
  else if c = '\n' then ['\\', 'n']
  else if c = '\\' ∨ c = '"' then ['\\', c]
  else if isCombining c || !isPrintable c then codePointEscape c
  else [c]

def quoted (s : String) : String :=
  String.ofList ('"' :: (s.toList.flatMap quoteChar ++ ['"']))

/-- A list in brackets, its items separated by a comma and a space. -/
def bracketed (items : List String) : String := "[" ++ ", ".intercalate items ++ "]"

end ModelCache.Text
