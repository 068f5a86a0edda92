/-!
# Decimal numbers

Numbers up to a bound, written in decimal digits. A plus sign may stand in front, and leading zeros
are allowed, so one number has many readable forms; it is written without either.
-/

namespace ModelCache.Text

def decimalDigit? (c : Char) : Option Nat :=
  if '0' ≤ c ∧ c ≤ '9' then some (c.toNat - '0'.toNat) else none

/-- The number that one or more digits denote after a part with the value `acc`. -/
def decimalFrom? (acc : Nat) : List Char → Option Nat
  | [] => some acc
  | c :: rest => (decimalDigit? c).bind fun d => decimalFrom? (10 * acc + d) rest

/-- The number that a list of digits denotes; no digits denote none. -/
def decimal? : List Char → Option Nat
  | [] => none
  | c :: rest => decimalFrom? 0 (c :: rest)

/-- The number below `bound` that a text denotes, which may start with a plus sign. -/
def boundedDecimal? (bound : Nat) (cs : List Char) : Option Nat :=
  let digits := match cs with
    | '+' :: rest => rest
    | _ => cs
  (decimal? digits).filter (· < bound)

/-- The digits of a number, without leading zeros. -/
def decimalDigits (n : Nat) : List Char := Nat.toDigits 10 n

/-- A number in at least `width` digits, with zeros in front. -/
def paddedDecimal (width n : Nat) : String :=
  let digits := decimalDigits n
  String.ofList (List.replicate (width - digits.length) '0' ++ digits)

end ModelCache.Text
