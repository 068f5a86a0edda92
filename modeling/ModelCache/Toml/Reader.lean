import ModelCache.Text.Decimal
import ModelCache.Text.Hex
import ModelCache.Toml

/-!
# Reading TOML

Each reader takes the characters that are left and gives what it read together with what is left
after it. Spaces are blanks and tabs; a line ends with a line feed, which a carriage return may
precede, and a carriage return stands nowhere else. Control characters other than tabs stand nowhere
at all.

Keys have fewer than `depthLimit` parts, and arrays and inline tables nest less deep than that.
-/

namespace ModelCache.Toml

/-! ## Spaces, comments and line ends -/

def isSpace (c : Char) : Bool := c = ' ' || c = '\t'

/-- The characters from the next thing on the line on. -/
def skipSpace (cs : List Char) : List Char := cs.dropWhile isSpace

/-- A character that may stand in a comment. -/
def isVisible (c : Char) : Bool := c = '\t' || (0x20 ≤ c.toNat && c.toNat ≠ 0x7F)

def newLine? : List Char → Option (List Char)
  | '\n' :: rest => some rest
  | '\r' :: '\n' :: rest => some rest
  | _ => none

def skipComment : List Char → List Char
  | '#' :: rest => rest.dropWhile isVisible
  | cs => cs

/-- What follows the rest of a line that has nothing more on it than space and a comment. -/
def lineEnd? (cs : List Char) : Option (List Char) :=
  match skipComment (skipSpace cs) with
  | [] => some []
  | rest => newLine? rest

/-- The characters after any space and line ends. -/
def skipLines : List Char → List Char
  | ' ' :: rest => skipLines rest
  | '\t' :: rest => skipLines rest
  | '\n' :: rest => skipLines rest
  | '\r' :: '\n' :: rest => skipLines rest
  | cs => cs

/-- The characters after any space, comments and line ends; a comment must be ended by one. -/
def skipFiller : (fuel : Nat) → List Char → List Char
  | 0, cs => cs
  | fuel + 1, cs =>
    match skipLines cs with
    | '#' :: rest =>
      match newLine? (rest.dropWhile isVisible) with
      | some rest => skipFiller fuel rest
      | none => '#' :: rest
    | rest => rest

/-! ## Strings -/

/-- The character with a code point given in hexadecimal digits. -/
def codePoint? (digits : List Char) : Option Char := do
  let n ← digits.foldlM (fun acc c => (Text.hexDigit? c).map (16 * acc + ·)) 0
  if n < 0xD800 ∨ (0xDFFF < n ∧ n < 0x110000) then return Char.ofNat n else none

def escape? : List Char → Option (Char × List Char)
  | 'b' :: rest => some ('\x08', rest)
  | 't' :: rest => some ('\t', rest)
  | 'n' :: rest => some ('\n', rest)
  | 'f' :: rest => some ('\x0c', rest)
  | 'r' :: rest => some ('\r', rest)
  | '"' :: rest => some ('"', rest)
  | '\\' :: rest => some ('\\', rest)
  | 'u' :: rest =>
    if rest.length < 4 then none else (codePoint? (rest.take 4)).map fun c => (c, rest.drop 4)
  | 'U' :: rest =>
    if rest.length < 8 then none else (codePoint? (rest.take 8)).map fun c => (c, rest.drop 8)
  | _ => none

/-- The rest of a string on one line, after its opening double quote. -/
def basic? : (fuel : Nat) → List Char → Option (List Char × List Char)
  | 0, _ => none
  | _, [] => none
  | _, '"' :: rest => some ([], rest)
  | fuel + 1, '\\' :: rest => do
    let (c, rest) ← escape? rest
    let (cs, rest) ← basic? fuel rest
    return (c :: cs, rest)
  | fuel + 1, c :: rest =>
    if isVisible c then (basic? fuel rest).map fun (cs, rest) => (c :: cs, rest) else none

/-- The rest of a string over several lines, after its three opening double quotes. One or two more
quotes may stand directly before the three closing ones. A backslash at the end of a line removes
the line end and all space and line ends after it. -/
def multiLineBasic? : (fuel : Nat) → List Char → Option (List Char × List Char)
  | 0, _ => none
  | _, [] => none
  | _, '"' :: '"' :: '"' :: '"' :: '"' :: rest => some (['"', '"'], rest)
  | _, '"' :: '"' :: '"' :: '"' :: rest => some (['"'], rest)
  | _, '"' :: '"' :: '"' :: rest => some ([], rest)
  | fuel + 1, '\\' :: rest =>
    match newLine? (skipSpace rest) with
    | some rest => multiLineBasic? fuel (skipLines rest)
    | none => do
      let (c, rest) ← escape? rest
      let (cs, rest) ← multiLineBasic? fuel rest
      return (c :: cs, rest)
  | fuel + 1, c :: rest =>
    match newLine? (c :: rest) with
    | some rest => (multiLineBasic? fuel rest).map fun (cs, rest) => ('\n' :: cs, rest)
    | none =>
      if isVisible c then (multiLineBasic? fuel rest).map fun (cs, rest) => (c :: cs, rest)
      else none

/-- The rest of a literal string on one line, after its opening single quote. -/
def literal? (cs : List Char) : Option (List Char × List Char) :=
  match cs.span fun c => isVisible c && c ≠ '\'' with
  | (s, '\'' :: rest) => some (s, rest)
  | _ => none

/-- The rest of a literal string over several lines, after its three opening single quotes. -/
def multiLineLiteral? : List Char → Option (List Char × List Char)
  | [] => none
  | '\'' :: '\'' :: '\'' :: '\'' :: '\'' :: rest => some (['\'', '\''], rest)
  | '\'' :: '\'' :: '\'' :: '\'' :: rest => some (['\''], rest)
  | '\'' :: '\'' :: '\'' :: rest => some ([], rest)
  | '\r' :: '\n' :: rest => (multiLineLiteral? rest).map fun (cs, rest) => ('\n' :: cs, rest)
  | c :: rest =>
    if isVisible c || c = '\n' then
      (multiLineLiteral? rest).map fun (cs, rest) => (c :: cs, rest)
    else none

/-- The characters after a line end that directly follows three opening quotes. -/
def dropFirstLineEnd (cs : List Char) : List Char := (newLine? cs).getD cs

/-- A string of any of the four forms. -/
def string? : List Char → Option (List Char × List Char)
  | '"' :: '"' :: '"' :: rest =>
    multiLineBasic? (rest.length + 1) (dropFirstLineEnd rest)
  | '"' :: rest => basic? (rest.length + 1) rest
  | '\'' :: '\'' :: '\'' :: rest => multiLineLiteral? (dropFirstLineEnd rest)
  | '\'' :: rest => literal? rest
  | _ => none

/-! ## Keys -/

/-- The bound on the number of parts of a key and on the depth of nesting. -/
def depthLimit : Nat := 80

def isKeyChar (c : Char) : Bool := c.isAlphanum || c = '_' || c = '-'

def keyPart? : List Char → Option (String × List Char)
  | '"' :: rest => (basic? (rest.length + 1) rest).map fun (cs, rest) => (.ofList cs, rest)
  | '\'' :: rest => (literal? rest).map fun (cs, rest) => (.ofList cs, rest)
  | cs =>
    match cs.span isKeyChar with
    | ([], _) => none
    | (part, rest) => some (.ofList part, rest)

/-- The parts of a key, with dots and space between them. -/
def keyParts? : (fuel : Nat) → List Char → Option (List String × List Char)
  | 0, _ => none
  | fuel + 1, cs => do
    let (part, rest) ← keyPart? (skipSpace cs)
    match skipSpace rest with
    | '.' :: rest =>
      let (parts, rest) ← keyParts? fuel rest
      return (part :: parts, rest)
    | rest => return ([part], rest)

/-- A key of fewer parts than the limit. -/
def key? (cs : List Char) : Option (List String × List Char) :=
  (keyParts? (cs.length + 1) cs).filter (·.1.length < depthLimit)

/-! ## Numbers and times

A number and a time are told apart by trying: first a time, then a number with a fraction or an
exponent, then an integer. -/

def sign : List Char → Option Char × List Char
  | '+' :: rest => (some '+', rest)
  | '-' :: rest => (some '-', rest)
  | cs => (none, cs)

/-- Further digits of a given kind; an underscore may stand between two digits. -/
def moreDigits (isDigit : Char → Bool) : List Char → List Char × List Char
  | '_' :: d :: rest =>
    if isDigit d then
      let (ds, rest) := moreDigits isDigit rest
      (d :: ds, rest)
    else ([], '_' :: d :: rest)
  | d :: rest =>
    if isDigit d then
      let (ds, rest) := moreDigits isDigit rest
      (d :: ds, rest)
    else ([], d :: rest)
  | [] => ([], [])

/-- One or more digits of a given kind, without the underscores between them. -/
def digits? (isDigit : Char → Bool) : List Char → Option (List Char × List Char)
  | d :: rest =>
    if isDigit d then
      let (ds, rest) := moreDigits isDigit rest
      some (d :: ds, rest)
    else none
  | [] => none

/-- The digits of a decimal integer: a lone zero, or digits that do not start with one. -/
def wholeDigits? : List Char → Option (List Char × List Char)
  | '0' :: rest => some (['0'], rest)
  | cs => digits? Char.isDigit cs

def ofDigits (base : Nat) (ds : List Char) : Nat :=
  ds.foldl (fun acc d => base * acc + (Text.hexDigit? d).getD 0) 0

def leastInteger : Int := -9223372036854775808

def greatestInteger : Int := 9223372036854775807

/-- An integer, if it fits 64 bits. -/
def fitting? (n : Int) : Option Int :=
  if leastInteger ≤ n ∧ n ≤ greatestInteger then some n else none

/-- An integer of another base, after the letter that names the base. -/
def basedInteger? (base : Nat) (isDigit : Char → Bool) (cs : List Char) :
    Option (Int × List Char) := do
  let (ds, rest) ← digits? isDigit cs
  let n ← fitting? (ofDigits base ds)
  return (n, rest)

def integer? : List Char → Option (Int × List Char)
  | '0' :: 'x' :: rest => basedInteger? 16 (fun c => (Text.hexDigit? c).isSome) rest
  | '0' :: 'o' :: rest => basedInteger? 8 (fun c => '0' ≤ c && c ≤ '7') rest
  | '0' :: 'b' :: rest => basedInteger? 2 (fun c => c = '0' || c = '1') rest
  | cs => do
    let (s, rest) := sign cs
    let (ds, rest) ← wholeDigits? rest
    let magnitude : Int := ofDigits 10 ds
    let n ← fitting? (if s = some '-' then -magnitude else magnitude)
    return (n, rest)

/-- Whether the number `mantissa · 10 ^ exponent` is too large for the nearest double to be finite:
whether it is at least the midpoint between the greatest double and the next power of two. -/
def overflows (mantissa : Nat) (exponent : Int) : Bool :=
  let size := (Text.decimalDigits mantissa).length + exponent
  if mantissa = 0 ∨ size < 300 then false
  else if 320 < size then true
  else
    let bound := Nat.pow 2 1024 - Nat.pow 2 970
    if 0 ≤ exponent then decide (bound ≤ mantissa * Nat.pow 10 exponent.toNat)
    else decide (bound * Nat.pow 10 (-exponent).toNat ≤ mantissa)

def fraction? : List Char → Option (List Char × List Char)
  | '.' :: rest => digits? Char.isDigit rest
  | _ => none

def exponent? : List Char → Option (Int × List Char)
  | c :: rest =>
    if c = 'e' ∨ c = 'E' then do
      let (s, rest) := sign rest
      let (ds, rest) ← digits? Char.isDigit rest
      let magnitude : Int := ofDigits 10 ds
      return (if s = some '-' then -magnitude else magnitude, rest)
    else none
  | [] => none

/-- A number with a fraction or an exponent that is not too large; what follows it. -/
def fractional? (cs : List Char) : Option (List Char) := do
  let (s, rest) := sign cs
  let (whole, rest) ← wholeDigits? rest
  let (fraction, rest) := (fraction? rest).getD ([], rest)
  let found := exponent? rest
  let (exponent, rest) := found.getD (0, rest)
  if fraction = [] ∧ found.isNone then none
  else if s ≠ some '-' ∧
      overflows (ofDigits 10 (whole ++ fraction)) (exponent - fraction.length) then none
  else return rest

def word? : (word cs : List Char) → Option (List Char)
  | [], cs => some cs
  | _ :: _, [] => none
  | w :: word, c :: cs => if w = c then word? word cs else none

/-- What follows a number that is infinite or not a number. -/
def special? (cs : List Char) : Option (List Char) :=
  let rest := (sign cs).2
  (word? "inf".toList rest).or (word? "nan".toList rest)

/-- A number of exactly `count` digits in a range. -/
def fixed? (count least greatest : Nat) (cs : List Char) : Option (Nat × List Char) :=
  let ds := cs.take count
  let n := ofDigits 10 ds
  if ds.length = count ∧ ds.all Char.isDigit ∧ least ≤ n ∧ n ≤ greatest then
    some (n, cs.drop count)
  else none

def daysIn (year month : Nat) : Nat :=
  if month = 2 then
    if year % 4 = 0 ∧ (year % 100 ≠ 0 ∨ year % 400 = 0) then 29 else 28
  else if month = 4 ∨ month = 6 ∨ month = 9 ∨ month = 11 then 30
  else 31

def date? (cs : List Char) : Option (List Char) := do
  let (year, rest) ← fixed? 4 0 9999 cs
  let rest ← word? ['-'] rest
  let (month, rest) ← fixed? 2 1 12 rest
  let rest ← word? ['-'] rest
  let (_, rest) ← fixed? 2 1 (daysIn year month) rest
  return rest

/-- What follows the fraction of a second, if there is one. -/
def skipSecondFraction : List Char → List Char
  | '.' :: d :: rest => if d.isDigit then rest.dropWhile Char.isDigit else '.' :: d :: rest
  | cs => cs

def time? (cs : List Char) : Option (List Char) := do
  let (_, rest) ← fixed? 2 0 23 cs
  let rest ← word? [':'] rest
  let (_, rest) ← fixed? 2 0 59 rest
  let rest ← word? [':'] rest
  let (_, rest) ← fixed? 2 0 60 rest
  return skipSecondFraction rest

/-- What follows the distance from universal time. -/
def offset? : List Char → Option (List Char)
  | c :: rest =>
    if c = 'Z' ∨ c = 'z' then some rest
    else if c = '+' ∨ c = '-' then do
      let (_, rest) ← fixed? 2 0 23 rest
      let rest ← word? [':'] rest
      let (_, rest) ← fixed? 2 0 59 rest
      return rest
    else none
  | [] => none

/-- What follows the time of day that may stand after a date. -/
def timeAfterDate? : List Char → Option (List Char)
  | c :: rest =>
    if c = 'T' ∨ c = 't' ∨ c = ' ' then (time? rest).map fun r => (offset? r).getD r else none
  | [] => none

def dateTime? (cs : List Char) : Option (List Char) :=
  match date? cs with
  | some rest => some ((timeAfterDate? rest).getD rest)
  | none => time? cs

def numeric? (cs : List Char) : Option (Value × List Char) :=
  match dateTime? cs with
  | some rest => some (.dateTime, rest)
  | none =>
    match (fractional? cs).or (special? cs) with
    | some rest => some (.float, rest)
    | none => (integer? cs).map fun (n, rest) => (.integer n, rest)

/-! ## Values -/

mutual

/-- A value; `depth` is how deep arrays and inline tables may still nest. -/
def value? : (fuel depth : Nat) → List Char → Option (Value × List Char)
  | 0, _, _ => none
  | fuel + 1, depth, cs =>
    match cs with
    | '[' :: rest =>
      match depth with
      | 0 => none
      | depth + 1 => (items? fuel depth rest).map fun (vs, rest) => (.array vs, rest)
    | '\x7b' :: rest =>
      match depth with
      | 0 => none
      | depth + 1 => do
        let (pairs, rest) ← match skipSpace rest with
          | '\x7d' :: rest => some ([], rest)
          | rest => pairs? fuel depth rest
        let table ← inlineTable? pairs
        return (table, rest)
    | 't' :: rest => (word? "rue".toList rest).map fun rest => (.boolean true, rest)
    | 'f' :: rest => (word? "alse".toList rest).map fun rest => (.boolean false, rest)
    | c :: rest =>
      if c = '"' ∨ c = '\'' then
        (string? (c :: rest)).map fun (s, rest) => (.string (.ofList s), rest)
      else numeric? (c :: rest)
    | [] => none

/-- The items of an array up to the closing bracket; a comma may follow the last one. -/
def items? : (fuel depth : Nat) → List Char → Option (List Value × List Char)
  | 0, _, _ => none
  | fuel + 1, depth, cs =>
    match skipFiller (cs.length + 1) cs with
    | ']' :: rest => some ([], rest)
    | start => do
      let (v, rest) ← value? fuel depth start
      match skipFiller (rest.length + 1) rest with
      | ']' :: rest => return ([v], rest)
      | ',' :: rest =>
        let (vs, rest) ← items? fuel depth rest
        return (v :: vs, rest)
      | _ => none

/-- The pairs of an inline table up to the closing brace; there is at least one. -/
def pairs? : (fuel depth : Nat) → List Char →
    Option (List (List String × String × Value) × List Char)
  | 0, _, _ => none
  | fuel + 1, depth, cs => do
    let (key, rest) ← key? cs
    let rest ← word? ['='] rest
    let (v, rest) ← value? fuel depth (skipSpace rest)
    let pair := (key.dropLast, key.getLastD "", v)
    match skipSpace rest with
    | '\x7d' :: rest => return ([pair], rest)
    | ',' :: rest =>
      let (pairs, rest) ← pairs? fuel depth rest
      return (pair :: pairs, rest)
    | _ => none

end

/-! ## Documents -/

/-- A header, after its first opening bracket. -/
def header? : List Char → Option (Statement × List Char)
  | '[' :: rest => do
    let (key, rest) ← key? rest
    let rest ← word? [']', ']'] rest
    let rest ← lineEnd? rest
    return (.arrayHeader key, rest)
  | rest => do
    let (key, rest) ← key? rest
    let rest ← word? [']'] rest
    let rest ← lineEnd? rest
    return (.header key, rest)

/-- A pair with the rest of its line. -/
def pair? (cs : List Char) : Option (Statement × List Char) := do
  let (key, rest) ← key? cs
  let rest ← word? ['='] rest
  let (v, rest) ← value? (rest.length + 1) (depthLimit - 1) (skipSpace rest)
  let rest ← lineEnd? rest
  return (.pair key.dropLast (key.getLastD "") v, rest)

def statements? : (fuel : Nat) → List Char → Option (List Statement)
  | 0, _ => none
  | fuel + 1, cs =>
    match skipSpace cs with
    | [] => some []
    | '#' :: rest => (lineEnd? ('#' :: rest)).bind (statements? fuel)
    | '[' :: rest => do
      let (s, rest) ← header? rest
      let ss ← statements? fuel rest
      return s :: ss
    | start =>
      match newLine? start with
      | some rest => statements? fuel rest
      | none => do
        let (s, rest) ← pair? start
        let ss ← statements? fuel rest
        return s :: ss

/-- The characters after a byte order mark, if the text starts with one. -/
def skipByteOrderMark : List Char → List Char
  | '\ufeff' :: rest => rest
  | cs => cs

/-- The entries of the table that a TOML text denotes. -/
def read (s : String) : Option (List (String × Value)) :=
  let cs := skipByteOrderMark s.toList
  (statements? (cs.length + 1) cs).bind ofStatements?

end ModelCache.Toml
