/-!
# Hexadecimal texts

Bytes are written as two small hexadecimal digits each. On the way back either case is read, and
the first digit of a pair may be replaced by a plus sign, which counts as zero.
-/

namespace ModelCache.Text

/-- The value of a hexadecimal digit of either case. -/
def hexDigit? (c : Char) : Option Nat :=
  if '0' ≤ c ∧ c ≤ '9' then some (c.toNat - '0'.toNat)
  else if 'a' ≤ c ∧ c ≤ 'f' then some (c.toNat - 'a'.toNat + 10)
  else if 'A' ≤ c ∧ c ≤ 'F' then some (c.toNat - 'A'.toNat + 10)
  else none

def hexDigit (n : Nat) : Char :=
  if n < 10 then Char.ofNat ('0'.toNat + n) else Char.ofNat ('a'.toNat + (n - 10))

def hexByte (b : UInt8) : List Char := [hexDigit (b.toNat / 16), hexDigit (b.toNat % 16)]

/-- The byte that a pair of characters denotes: two digits, or a plus sign and a digit. -/
def hexByte? (high low : Char) : Option UInt8 := do
  let l ← hexDigit? low
  if high = '+' then return UInt8.ofNat l
  let h ← hexDigit? high
  return UInt8.ofNat (16 * h + l)

/-- The bytes that pairs of characters denote; an odd character at the end denotes none. -/
def hexBytes? : List Char → Option (List UInt8)
  | [] => some []
  | [_] => none
  | high :: low :: rest => do
    let b ← hexByte? high low
    let bs ← hexBytes? rest
    return b :: bs

/-- Bytes as text, two digits each. -/
def hexText (bytes : List UInt8) : String := String.ofList (bytes.flatMap hexByte)

theorem hexDigit?_hexDigit : ∀ n : Fin 16, hexDigit? (hexDigit n) = some n.val := by decide

/-- The digits of a byte denote that byte. -/
theorem hexByte?_hexByte : ∀ b : UInt8,
    hexByte? (hexDigit (b.toNat / 16)) (hexDigit (b.toNat % 16)) = some b := by
  intro b
  have hb := b.toNat_lt
  have high := hexDigit?_hexDigit ⟨b.toNat / 16, by omega⟩
  have low := hexDigit?_hexDigit ⟨b.toNat % 16, by omega⟩
  have hplus : ∀ n : Fin 16, hexDigit n ≠ '+' := by decide
  simp only [hexByte?, low, high, bind, Option.bind, pure,
    if_neg (hplus ⟨b.toNat / 16, by omega⟩)]
  rw [Nat.div_add_mod, UInt8.ofNat_toNat]

/-- What is written for some bytes denotes those bytes. -/
theorem hexBytes?_flatMap_hexByte (bytes : List UInt8) :
    hexBytes? (bytes.flatMap hexByte) = some bytes := by
  induction bytes with
  | nil => rfl
  | cons b bs ih =>
    simp only [List.flatMap_cons, hexByte, List.cons_append, List.nil_append, hexBytes?,
      hexByte?_hexByte]
    simp [ih]

end ModelCache.Text
