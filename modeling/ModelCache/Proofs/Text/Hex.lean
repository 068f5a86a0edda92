import ModelCache.Text.Hex

/-!
# Which texts are read as hexadecimal

A byte is read from a pair of characters: two digits of either case, or a plus sign in front of a
digit. So the texts that are read are put together from such pairs, and what is written for the bytes
is the text itself, in small digits and with a zero for each plus sign.

* **`IsHexDigit`** — the digits, and `of_hexDigit?`, what is read from one and written for it.
* **`hexBytes?_eq_some`** — what is read is put together from pairs (`HexPairs`), and it is what is
  written for the bytes.
* **`HexPairs.exists_hexBytes?`** — whatever is put together from pairs is read.
-/

namespace ModelCache.Text

variable {c high low : Char} {cs : List Char}

/-- A hexadecimal digit of either case. -/
def IsHexDigit (c : Char) : Prop :=
  '0' ≤ c ∧ c ≤ '9' ∨ 'a' ≤ c ∧ c ≤ 'f' ∨ 'A' ≤ c ∧ c ≤ 'F'

instance : DecidablePred IsHexDigit := fun _ => inferInstanceAs (Decidable (_ ∨ _))

/-- The small digit that stands for a character: a plus sign counts as zero. -/
def smallDigit (c : Char) : Char := if c = '+' then '0' else c.toLower

/-- Texts put together from pairs that denote a byte each. -/
inductive HexPairs : List Char → Prop where
  | nil : HexPairs []
  | cons (high low : Char) (rest : List Char) (hhigh : IsHexDigit high ∨ high = '+')
      (hlow : IsHexDigit low) (hrest : HexPairs rest) : HexPairs (high :: low :: rest)

/-! ## Digits -/

theorem isHexDigit_iff : IsHexDigit c ↔ (hexDigit? c).isSome = true := by
  unfold IsHexDigit hexDigit?
  split
  case isTrue h => simp [h]
  case isFalse h =>
    split
    case isTrue h' => simp [h']
    case isFalse h' => split <;> simp_all

theorem IsHexDigit.toNat_lt (h : IsHexDigit c) : c.toNat < 128 := by
  have hle {d : Char} (hd : c ≤ d) : c.toNat ≤ d.toNat := UInt32.le_iff_toNat_le.mp hd
  rcases h with ⟨-, h⟩ | ⟨-, h⟩ | ⟨-, h⟩
  · exact Nat.lt_of_le_of_lt (hle h) (by decide)
  · exact Nat.lt_of_le_of_lt (hle h) (by decide)
  · exact Nat.lt_of_le_of_lt (hle h) (by decide)

/-- What a digit is read as is below sixteen, and it is written in lower case for that number. -/
theorem of_hexDigit? {n : Nat} (h : hexDigit? c = some n) :
    n < 16 ∧ hexDigit n = c.toLower ∧ c ≠ '+' := by
  -- no character beyond ASCII is a digit, and the others can be tried one by one
  have hall : ∀ k : Fin 128, ∀ n ∈ hexDigit? (Char.ofNat k),
      n < 16 ∧ hexDigit n = (Char.ofNat k).toLower ∧ Char.ofNat k ≠ '+' := by decide
  have hdigit : IsHexDigit c := isHexDigit_iff.mpr (by rw [h]; rfl)
  have hc := hall ⟨c.toNat, hdigit.toNat_lt⟩
  simp only [Char.ofNat_toNat] at hc
  exact hc n h

theorem IsHexDigit.exists_hexDigit? (h : IsHexDigit c) : ∃ n, hexDigit? c = some n :=
  Option.isSome_iff_exists.mp (isHexDigit_iff.mp h)

theorem smallDigit_of_hexDigit? {n : Nat} (h : hexDigit? c = some n) :
    smallDigit c = hexDigit n := by
  obtain ⟨-, hsmall, hplus⟩ := of_hexDigit? h
  rw [smallDigit, if_neg hplus, hsmall]

/-! ## Pairs -/

/-- What is written for a byte given by its two halves. -/
theorem hexByte_ofNat {h l : Nat} (hh : h < 16) (hl : l < 16) :
    hexByte (UInt8.ofNat (16 * h + l)) = [hexDigit h, hexDigit l] := by
  have hvalue : (UInt8.ofNat (16 * h + l)).toNat = 16 * h + l :=
    UInt8.toNat_ofNat_of_lt' (by rw [UInt8.size]; omega)
  rw [hexByte, hvalue, show (16 * h + l) / 16 = h by omega, show (16 * h + l) % 16 = l by omega]

/-- **A pair denotes the byte that it is written for**, if it denotes any. -/
theorem hexByte?_eq_some {b : UInt8} (h : hexByte? high low = some b) :
    (IsHexDigit high ∨ high = '+') ∧ IsHexDigit low ∧
      hexByte b = [smallDigit high, smallDigit low] := by
  unfold hexByte? at h
  cases hl : hexDigit? low with
  | none => rw [hl] at h; cases h
  | some l =>
    have hlow : IsHexDigit low := isHexDigit_iff.mpr (by rw [hl]; rfl)
    have hlt := (of_hexDigit? hl).1
    rw [hl, Option.bind_eq_bind, Option.bind_some] at h
    rw [smallDigit_of_hexDigit? hl]
    by_cases hplus : high = '+'
    · -- the byte is the second half alone
      subst hplus
      rw [if_pos rfl] at h
      cases h
      refine ⟨.inr rfl, hlow, ?_⟩
      have hbyte := hexByte_ofNat (show 0 < 16 by decide) hlt
      rwa [Nat.mul_zero, Nat.zero_add] at hbyte
    · rw [if_neg hplus] at h
      cases hh : hexDigit? high with
      | none => rw [hh] at h; cases h
      | some n =>
        rw [hh] at h
        cases h
        refine ⟨.inl (isHexDigit_iff.mpr (by rw [hh]; rfl)), hlow, ?_⟩
        rw [smallDigit_of_hexDigit? hh]
        exact hexByte_ofNat (of_hexDigit? hh).1 hlt

theorem exists_hexByte? (hhigh : IsHexDigit high ∨ high = '+') (hlow : IsHexDigit low) :
    ∃ b, hexByte? high low = some b := by
  obtain ⟨l, hl⟩ := hlow.exists_hexDigit?
  unfold hexByte?
  rw [hl, Option.bind_eq_bind, Option.bind_some]
  by_cases hplus : high = '+'
  · exact ⟨_, if_pos hplus⟩
  · obtain ⟨n, hn⟩ := (hhigh.resolve_right hplus).exists_hexDigit?
    rw [if_neg hplus, hn]
    exact ⟨_, rfl⟩

/-! ## Texts -/

/-- What is read consists of pairs, and it is what is written for the bytes. -/
theorem hexBytes?_eq_some {bytes : List UInt8} (h : hexBytes? cs = some bytes) :
    HexPairs cs ∧ bytes.flatMap hexByte = cs.map smallDigit := by
  induction cs using hexBytes?.induct generalizing bytes with
  | case1 => cases h; exact ⟨.nil, rfl⟩
  | case2 => cases h
  | case3 high low rest ih =>
    rw [hexBytes?, Option.bind_eq_bind, Option.bind_eq_some_iff] at h
    obtain ⟨b, hb, h⟩ := h
    rw [Option.bind_eq_bind, Option.bind_eq_some_iff] at h
    obtain ⟨bs, hbs, h⟩ := h
    cases h
    obtain ⟨hhigh, hlow, hwritten⟩ := hexByte?_eq_some hb
    obtain ⟨hpairs, hrest⟩ := ih hbs
    refine ⟨.cons high low rest hhigh hlow hpairs, ?_⟩
    rw [List.flatMap_cons, hwritten, hrest]
    rfl

/-- **Every text put together from pairs is read**, as half as many bytes. -/
theorem HexPairs.exists_hexBytes? (h : HexPairs cs) :
    ∃ bytes, hexBytes? cs = some bytes ∧ 2 * bytes.length = cs.length := by
  induction h with
  | nil => exact ⟨[], rfl, rfl⟩
  | cons high low rest hhigh hlow _ ih =>
    obtain ⟨b, hb⟩ := exists_hexByte? hhigh hlow
    obtain ⟨bs, hbs, hlength⟩ := ih
    refine ⟨b :: bs, by simp [hexBytes?, hb, hbs], ?_⟩
    rw [List.length_cons, List.length_cons, List.length_cons]
    omega

theorem HexPairs.of_mem (h : HexPairs cs) (hc : c ∈ cs) : IsHexDigit c ∨ c = '+' := by
  induction h with
  | nil => cases hc
  | cons high low rest hhigh hlow _ ih =>
    rcases List.mem_cons.mp hc with rfl | hc
    · exact hhigh
    · rcases List.mem_cons.mp hc with rfl | hc
      · exact .inl hlow
      · exact ih hc

/-- Digits make pairs, if their number is even. -/
theorem hexPairs_of_digits (h : ∀ c ∈ cs, IsHexDigit c) (heven : cs.length % 2 = 0) :
    HexPairs cs := by
  induction cs using hexBytes?.induct with
  | case1 => exact .nil
  | case2 => cases heven
  | case3 high low rest ih =>
    have hrest : ∀ c ∈ rest, IsHexDigit c :=
      fun c hc => h c (List.mem_cons_of_mem _ (List.mem_cons_of_mem _ hc))
    refine .cons high low rest (.inl (h high List.mem_cons_self))
      (h low (List.mem_cons_of_mem _ List.mem_cons_self)) (ih hrest ?_)
    rw [List.length_cons, List.length_cons] at heven
    omega

end ModelCache.Text
