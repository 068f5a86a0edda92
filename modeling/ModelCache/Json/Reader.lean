import ModelCache.Json
import ModelCache.Text.Decimal
import ModelCache.Text.Hex

/-!
# Reading JSON

A text denotes a value if it is one value with nothing but blanks around it. Blanks are spaces,
tabs, line feeds and carriage returns. Strings hold no control characters, numerals have no leading
zeros, and no comma stands before a closing bracket.

Each reader takes the characters that are left and gives what it read together with what is left
after it. The depth of nesting is bounded by the number of characters, which serves as fuel.
-/

namespace ModelCache.Json

/-! ## Blanks and words -/

def isSpace (c : Char) : Bool := c = ' ' || c = '\t' || c = '\n' || c = '\r'

def skipSpace (cs : List Char) : List Char := cs.dropWhile isSpace

/-- The rest of a text that starts with a given word. -/
def word? : (word cs : List Char) → Option (List Char)
  | [], cs => some cs
  | _ :: _, [] => none
  | w :: word, c :: cs => if w = c then word? word cs else none

/-! ## Strings -/

/-- A piece of a string: a character, or a 16-bit unit named by an escape. -/
inductive Piece where
  /-- A character that stands for itself, or has an escape of one letter. -/
  | char (c : Char)
  /-- The unit that four hexadecimal digits name. -/
  | unit (u : Nat)
  deriving DecidableEq, Repr

/-- The number that four hexadecimal digits denote. -/
def hexUnit? (a b c d : Char) : Option Nat := do
  let a ← Text.hexDigit? a
  let b ← Text.hexDigit? b
  let c ← Text.hexDigit? c
  let d ← Text.hexDigit? d
  return ((16 * a + b) * 16 + c) * 16 + d

def shortEscape? : Char → Option Char
  | '"' => some '"'
  | '\\' => some '\\'
  | '/' => some '/'
  | 'b' => some '\x08'
  | 'f' => some '\x0c'
  | 'n' => some '\n'
  | 'r' => some '\r'
  | 't' => some '\t'
  | _ => none

/-- The pieces up to the closing quote, and the characters after it. -/
def pieces? : List Char → Option (List Piece × List Char)
  | [] => none
  | '"' :: rest => some ([], rest)
  | '\\' :: 'u' :: a :: b :: c :: d :: rest => do
    let u ← hexUnit? a b c d
    let (ps, rest) ← pieces? rest
    return (.unit u :: ps, rest)
  | '\\' :: e :: rest => do
    let c ← shortEscape? e
    let (ps, rest) ← pieces? rest
    return (.char c :: ps, rest)
  | c :: rest => do
    if c = '\\' ∨ c.toNat < 0x20 then none
    else
      let (ps, rest) ← pieces? rest
      return (.char c :: ps, rest)

/-- The first half of a surrogate pair. -/
def isLeading (u : Nat) : Bool := 0xD800 ≤ u && u < 0xDC00

/-- The second half of a surrogate pair. -/
def isTrailing (u : Nat) : Bool := 0xDC00 ≤ u && u < 0xE000

/-- The characters that pieces spell, if every half of a surrogate pair stands next to the other. -/
def spell? : List Piece → Option (List Char)
  | [] => some []
  | .char c :: rest => (spell? rest).map (c :: ·)
  | .unit u :: .unit v :: rest =>
    if isLeading u then
      if isTrailing v then
        (spell? rest).map (Char.ofNat (0x10000 + (u - 0xD800) * 0x400 + (v - 0xDC00)) :: ·)
      else none
    else if isTrailing u then none
    else (spell? (.unit v :: rest)).map (Char.ofNat u :: ·)
  | .unit u :: rest =>
    if isLeading u || isTrailing u then none
    else (spell? rest).map (Char.ofNat u :: ·)

/-- The string after an opening quote, with its text if it has one. -/
def string? (cs : List Char) : Option (Option String × List Char) :=
  (pieces? cs).map fun (ps, rest) => ((spell? ps).map String.ofList, rest)

/-! ## Numerals -/

/-- The digits at the start, of which there must be at least one. -/
def digits? (cs : List Char) : Option (List Char × List Char) :=
  match cs.span Char.isDigit with
  | ([], _) => none
  | found => some found

/-- The digits before the point: a single zero, or digits that do not start with one. -/
def whole? (cs : List Char) : Option (List Char × List Char) := do
  let (ds, rest) ← digits? cs
  if ds.head? = some '0' ∧ ds.length ≠ 1 then none else return (ds, rest)

/-- The part from the point on, which may be missing. -/
def fraction? : List Char → Option (List Char × List Char)
  | '.' :: cs => (digits? cs).map fun (ds, rest) => ('.' :: ds, rest)
  | cs => some ([], cs)

/-- The exponent, which may be missing. -/
def exponent? : List Char → Option (List Char × List Char)
  | c :: cs =>
    if c = 'e' ∨ c = 'E' then
      match cs with
      | s :: cs' =>
        if s = '+' ∨ s = '-' then (digits? cs').map fun (ds, rest) => (c :: s :: ds, rest)
        else (digits? cs).map fun (ds, rest) => (c :: ds, rest)
      | [] => none
    else some ([], c :: cs)
  | [] => some ([], [])

def number? (cs : List Char) : Option (Json × List Char) := do
  let (sign, cs) := match cs with
    | '-' :: rest => (['-'], rest)
    | _ => ([], cs)
  let (ds, cs) ← whole? cs
  let (fraction, cs) ← fraction? cs
  let (exponent, cs) ← exponent? cs
  if sign = [] ∧ fraction = [] ∧ exponent = [] then
    (Text.decimal? ds).map fun n => (.natural n, cs)
  else return (.numeral (String.ofList (sign ++ ds ++ fraction ++ exponent)), cs)

/-! ## Values -/

mutual

/-- A value, after any blanks. -/
def value? : Nat → List Char → Option (Json × List Char)
  | 0, _ => none
  | fuel + 1, cs =>
    match skipSpace cs with
    | 'n' :: rest => (word? "ull".toList rest).map fun r => (.null, r)
    | 't' :: rest => (word? "rue".toList rest).map fun r => (.bool true, r)
    | 'f' :: rest => (word? "alse".toList rest).map fun r => (.bool false, r)
    | '"' :: rest => (string? rest).map fun (s, r) => (.string s, r)
    | '[' :: rest =>
      match skipSpace rest with
      | ']' :: r => some (.array [], r)
      | r => (items? fuel r).map fun (items, r) => (.array items, r)
    | '\x7b' :: rest =>
      match skipSpace rest with
      | '\x7d' :: r => some (.object [], r)
      | r => (members? fuel r).map fun (members, r) => (.object members, r)
    | r => number? r

/-- The items of an array up to the closing bracket; there is at least one. -/
def items? : Nat → List Char → Option (List Json × List Char)
  | 0, _ => none
  | fuel + 1, cs => do
    let (item, rest) ← value? fuel cs
    match skipSpace rest with
    | ']' :: r => return ([item], r)
    | ',' :: r =>
      let (items, r) ← items? fuel r
      return (item :: items, r)
    | _ => none

/-- The members of an object up to the closing brace; there is at least one. -/
def members? : Nat → List Char → Option (List (Option String × Json) × List Char)
  | 0, _ => none
  | fuel + 1, cs => do
    match skipSpace cs with
    | '"' :: rest =>
      let (name, rest) ← string? rest
      match skipSpace rest with
      | ':' :: rest =>
        let (value, rest) ← value? fuel rest
        match skipSpace rest with
        | '\x7d' :: r => return ([(name, value)], r)
        | ',' :: r =>
          let (members, r) ← members? fuel r
          return ((name, value) :: members, r)
        | _ => none
      | _ => none
    | _ => none

end

def readChars (cs : List Char) : Option Json := do
  let (value, rest) ← value? (cs.length + 1) cs
  if skipSpace rest = [] then return value else none

def read (s : String) : Option Json := readChars s.toList

end ModelCache.Json
