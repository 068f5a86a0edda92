import ModelCache.Text.Blank
import ModelCache.Text.Decimal
import ModelCache.Text.Hex
import ModelCache.Text.Line

/-!
# Written texts are read back

The header of a build unit is written in lines, decimal digits and hexadecimal digits, and read back
from them. This module has what each of them comes to:

* **`boundedDecimal?_decimalDigits`** — a number below the bound is read back from its digits.
* **`lines_append`** — a line without line ends in it is the first line of a text that it begins.
* **`trimChars_append`** — trimming takes off the blanks around a text, and no more than these.
-/

namespace ModelCache.Text

/-! ## Decimal digits -/

theorem decimalDigit?_of_isDigit {c : Char} (h : c.isDigit = true) :
    decimalDigit? c = some (c.toNat - '0'.toNat) := by
  unfold Char.isDigit at h
  rw [Bool.and_eq_true, decide_eq_true_eq, decide_eq_true_eq] at h
  exact if_pos h

/-- Digits are read as the standard library counts them. -/
theorem decimalFrom?_of_isDigit {cs : List Char} (h : ∀ c ∈ cs, c.isDigit = true) (acc : Nat) :
    decimalFrom? acc cs = some (Nat.ofDigitChars 10 cs acc) := by
  induction cs generalizing acc with
  | nil => rw [decimalFrom?, Nat.ofDigitChars_nil]
  | cons c rest ih =>
    rw [decimalFrom?, decimalDigit?_of_isDigit (h c List.mem_cons_self), Option.bind_some,
      ih (fun c' hc' => h c' (List.mem_cons_of_mem c hc')), Nat.ofDigitChars_cons]

theorem isDigit_of_mem_decimalDigits {n : Nat} {c : Char} (h : c ∈ decimalDigits n) :
    c.isDigit = true :=
  Nat.isDigit_of_mem_toDigits (by decide) (by decide) h

theorem decimal?_decimalDigits (n : Nat) : decimal? (decimalDigits n) = some n := by
  have hread := decimalFrom?_of_isDigit (fun c => isDigit_of_mem_decimalDigits (n := n)) 0
  rw [decimalDigits, Nat.ofDigitChars_ten_toDigits] at hread
  cases hdigits : decimalDigits n with
  | nil => exact absurd hdigits Nat.toDigits_ne_nil
  | cons c rest =>
    rw [decimalDigits] at hdigits
    rw [decimal?, ← hdigits, hread]

/-- **A number is read back from its digits.** No digit is a plus sign, so none is taken away. -/
theorem boundedDecimal?_decimalDigits {bound n : Nat} (h : n < bound) :
    boundedDecimal? bound (decimalDigits n) = some n := by
  unfold boundedDecimal?
  dsimp only
  split
  case h_1 rest heq =>
    have hplus : '+' ∈ decimalDigits n := by rw [heq]; exact List.mem_cons_self
    cases isDigit_of_mem_decimalDigits hplus
  case h_2 => rw [decimal?_decimalDigits, Option.filter_some, if_pos (decide_eq_true h)]

/-! ## Lines -/

/-- **A line that begins a text is its first line**, as long as no line ends in it. -/
theorem lines_append {line : List Char} (hfeed : '\n' ∉ line) (hreturn : '\r' ∉ line)
    (rest : List Char) : lines (line ++ '\n' :: rest) = line :: lines rest := by
  induction line with
  | nil => rw [List.nil_append, lines]
  | cons c line ih =>
    have hc : c ≠ '\n' := fun heq => hfeed (by rw [heq]; exact List.mem_cons_self)
    have hc' : c ≠ '\r' := fun heq => hreturn (by rw [heq]; exact List.mem_cons_self)
    have hrest := ih (fun hmem => hfeed (List.mem_cons_of_mem c hmem))
      (fun hmem => hreturn (List.mem_cons_of_mem c hmem))
    rw [List.cons_append, lines, hrest]
    · exact fun heq => hc heq
    · exact fun _ heq => absurd heq hc'

/-! ## Blanks -/

theorem dropWhile_of_not_blank {cs : List Char} (h : ∀ c ∈ cs, isBlank c = false) :
    cs.dropWhile isBlank = cs := by
  cases cs with
  | nil => rfl
  | cons c rest => rw [List.dropWhile_cons, h c List.mem_cons_self, if_neg Bool.false_ne_true]

/-- **Trimming takes off the blanks around a text** that has none in it. -/
theorem trimChars_append {before cs after : List Char} (hbefore : ∀ c ∈ before, isBlank c = true)
    (hafter : ∀ c ∈ after, isBlank c = true) (h : ∀ c ∈ cs, isBlank c = false) :
    trimChars (before ++ cs ++ after) = cs := by
  have hreverse : ∀ c ∈ cs.reverse, isBlank c = false := fun c hc => h c (List.mem_reverse.mp hc)
  have hfront : (cs ++ after).dropWhile isBlank = cs ++ after ∨ cs = [] := by
    cases cs with
    | nil => exact .inr rfl
    | cons c rest =>
      refine .inl ?_
      rw [List.cons_append, List.dropWhile_cons, h c List.mem_cons_self, if_neg Bool.false_ne_true]
  unfold trimChars
  rw [List.append_assoc, List.dropWhile_append_of_pos hbefore]
  rcases hfront with hfront | rfl
  · rw [hfront, List.reverse_append,
      List.dropWhile_append_of_pos fun c hc => hafter c (List.mem_reverse.mp hc),
      dropWhile_of_not_blank hreverse, List.reverse_reverse]
  · rw [List.nil_append, ← List.append_nil after, List.dropWhile_append_of_pos hafter]
    rfl

/-- A text without blanks is left alone by trimming. -/
theorem trimChars_of_not_blank {cs : List Char} (h : ∀ c ∈ cs, isBlank c = false) :
    trimChars cs = cs := by
  have htrimmed : trimChars ([] ++ cs ++ []) = cs := trimChars_append nofun nofun h
  rwa [List.nil_append, List.append_nil] at htrimmed

/-! ## Hexadecimal digits -/

theorem isBlank_hexDigit : ∀ n : Fin 16, isBlank (hexDigit n) = false := by decide

theorem toNat_hexDigit_lt : ∀ n : Fin 16, (hexDigit n).toNat < 128 := by decide

/-- Every character of a hexadecimal text is the digit of a number below sixteen. -/
theorem mem_flatMap_hexByte {bytes : List UInt8} {c : Char} (h : c ∈ bytes.flatMap hexByte) :
    ∃ n : Fin 16, c = hexDigit n := by
  obtain ⟨b, _, hc⟩ := List.mem_flatMap.mp h
  have hb := b.toNat_lt
  rw [hexByte, List.mem_cons, List.mem_singleton] at hc
  rcases hc with rfl | rfl
  · exact ⟨⟨b.toNat / 16, by omega⟩, rfl⟩
  · exact ⟨⟨b.toNat % 16, by omega⟩, rfl⟩

end ModelCache.Text
