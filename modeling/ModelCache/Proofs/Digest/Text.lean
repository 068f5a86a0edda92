import ModelCache.Proofs.BuildUnit
import ModelCache.Proofs.Text.Hex

/-!
# Which texts are digests

A digest is written in 32 small hexadecimal digits, and it is read back from them, from the same digits
in either case, and with any blanks around them. What is read beyond that is a plus sign in place of
the first digit of a byte, which counts as a zero there.

* **`Digest.exists_parse`** — a text of sixteen pairs is read, as the digest that is written so.
* **`Digest.of_parse`** — no other text is.
* **`Digest.parse_exact`** — so a text without plus signs is read exactly if it has 32 hexadecimal
  digits.
-/

namespace ModelCache.Digest

open Text (IsHexDigit HexPairs hexByte smallDigit trimChars)

variable {s : String} {d : Digest} {bytes : List UInt8}

/-! ## Sixteen bytes -/

theorem exists_ofByteList? (h : bytes.length = 16) : ∃ d, ofByteList? bytes = some d := by
  have hsize : bytes.toArray.size = 16 := h
  exact ⟨⟨⟨bytes.toArray, hsize⟩⟩, dif_pos hsize⟩

theorem of_ofByteList? (h : ofByteList? bytes = some d) :
    d.bytes.toList = bytes ∧ bytes.length = 16 := by
  unfold ofByteList? at h
  split at h
  case isTrue hsize =>
    cases h
    exact ⟨rfl, hsize⟩
  case isFalse => cases h

/-! ## Reading -/

/-- **Sixteen pairs are read**, as the digest that they are written for. -/
theorem exists_parse (hlength : (trimChars s.toList).length = 32)
    (hpairs : HexPairs (trimChars s.toList)) : ∃ d, parse s = .ok d := by
  obtain ⟨bytes, hbytes, hcount⟩ := hpairs.exists_hexBytes?
  have hlength' : bytes.length = 16 := by omega
  obtain ⟨d, hd⟩ := exists_ofByteList? hlength'
  have hascii : ((trimChars s.toList).all (·.toNat < 128)) = true := by
    rw [List.all_eq_true]
    intro c hc
    rcases hpairs.of_mem hc with hdigit | rfl
    · exact decide_eq_true hdigit.toNat_lt
    · rfl
  refine ⟨d, ?_⟩
  unfold parse
  dsimp only
  rw [if_pos hascii, hbytes, Option.bind_some, hd]

/-- **Whatever is read consists of sixteen pairs**, and it is what is written for the digest. -/
theorem of_parse (h : parse s = .ok d) :
    (trimChars s.toList).length = 32 ∧ HexPairs (trimChars s.toList) ∧
      d.toText.toList = (trimChars s.toList).map smallDigit := by
  unfold parse at h
  dsimp only at h
  split at h
  case h_1 d' hread =>
    cases h
    split at hread
    case isTrue =>
      obtain ⟨bytes, hbytes, hd⟩ := Option.bind_eq_some_iff.mp hread
      obtain ⟨rfl, hcount⟩ := of_ofByteList? hd
      obtain ⟨hpairs, hwritten⟩ := Text.hexBytes?_eq_some hbytes
      obtain ⟨bytes', hbytes', hlength⟩ := hpairs.exists_hexBytes?
      obtain rfl : d.bytes.toList = bytes' := Option.some.inj (hbytes.symm.trans hbytes')
      rw [toList_toText, hwritten]
      exact ⟨by omega, hpairs, rfl⟩
    case isFalse => cases hread
  case h_2 => cases h

theorem parse_eq_error (h : ¬ ∃ d, parse s = .ok d) :
    parse s = .error (.invalid (Text.trim s)) := by
  unfold parse at h ⊢
  dsimp only at h ⊢
  split
  case h_1 d hread => exact absurd ⟨d, by rw [hread]⟩ h
  case h_2 => rfl

/-- A digest is read back with any blanks around its text. -/
theorem parse_blanks {before after : String} (hbefore : Text.isBlankText before = true)
    (hafter : Text.isBlankText after = true) : parse (before ++ d.toText ++ after) = .ok d := by
  have hdigits : ∀ c ∈ d.toText.toList, Text.isBlank c = false := by
    rw [toList_toText]
    intro c hc
    obtain ⟨n, rfl⟩ := Text.mem_flatMap_hexByte hc
    exact Text.isBlank_hexDigit n
  have htrimmed : trimChars (before ++ d.toText ++ after).toList = trimChars d.toText.toList := by
    rw [String.toList_append, String.toList_append,
      Text.trimChars_append (List.all_eq_true.mp hbefore) (List.all_eq_true.mp hafter) hdigits,
      Text.trimChars_of_not_blank hdigits]
  have hread := d.parse_toText
  unfold parse at hread ⊢
  rw [htrimmed]
  exact hread

/-- **What a digest text is.** A text is read as a digest exactly if, without the blanks around it, it
is put together from sixteen pairs: two hexadecimal digits of either case each, or a plus sign and a
digit. A text without plus signs is read exactly if it consists of 32 hexadecimal digits. The digest
is then written as that text in small letters, with a zero for each plus sign. Any other text is
complained about as it is without the blanks. And every digest is read back from what is written for
it, with any blanks around. -/
theorem parse_exact (s : String) :
    ((∃ d, parse s = .ok d) ↔ (trimChars s.toList).length = 32 ∧ HexPairs (trimChars s.toList)) ∧
    ('+' ∉ trimChars s.toList → ((∃ d, parse s = .ok d) ↔
      (trimChars s.toList).length = 32 ∧ ∀ c ∈ trimChars s.toList, IsHexDigit c)) ∧
    (∀ d, parse s = .ok d → d.toText.toList = (trimChars s.toList).map smallDigit) ∧
    ((¬ ∃ d, parse s = .ok d) → parse s = .error (.invalid (Text.trim s))) ∧
    ∀ d before after, Text.isBlankText before = true → Text.isBlankText after = true →
      s = before ++ d.toText ++ after → parse s = .ok d := by
  have hiff : (∃ d, parse s = .ok d) ↔
      (trimChars s.toList).length = 32 ∧ HexPairs (trimChars s.toList) := by
    constructor
    · rintro ⟨d, h⟩
      exact ⟨(of_parse h).1, (of_parse h).2.1⟩
    · rintro ⟨hlength, hpairs⟩
      exact exists_parse hlength hpairs
  refine ⟨hiff, fun hplus => ?_, fun d h => (of_parse h).2.2, parse_eq_error, ?_⟩
  · rw [hiff]
    refine and_congr_right fun hlength => ⟨fun hpairs c hc => ?_, fun hdigits => ?_⟩
    · refine (hpairs.of_mem hc).resolve_right ?_
      rintro rfl
      exact hplus hc
    · exact Text.hexPairs_of_digits hdigits (by omega)
  · rintro d before after hbefore hafter rfl
    exact parse_blanks hbefore hafter

/-- Blanks of three kinds around a text in both cases. -/
theorem parse_exact_mixed :
    let s := "\u00a0\t0123456789abcdefABCDEF0123456789\u3000"
    '+' ∉ trimChars s.toList ∧ (∃ d, parse s = .ok d ∧
      d.toText.toList = (trimChars s.toList).map smallDigit ∧
      parse ("\n" ++ d.toText ++ "\u2003") = .ok d) ∧
      parse "0x" = .error (.invalid (Text.trim "0x")) := by
  intro s
  obtain ⟨-, hread, hwritten, -⟩ := parse_exact s
  have hplus : '+' ∉ trimChars s.toList := by decide +kernel
  have hdigits : (trimChars s.toList).all (fun c => IsHexDigit c) = true := by decide +kernel
  obtain ⟨d, hd⟩ := (hread hplus).mpr ⟨by decide +kernel, by simpa using hdigits⟩
  refine ⟨hplus, ⟨d, hd, hwritten d hd, ?_⟩, ?_⟩
  · obtain ⟨-, -, -, -, hback⟩ := parse_exact ("\n" ++ d.toText ++ "\u2003")
    exact hback d _ _ (by decide +kernel) (by decide +kernel) rfl
  · obtain ⟨hshort, -, -, hrefused, -⟩ := parse_exact "0x"
    exact hrefused fun h => absurd (hshort.mp h).1 (by decide +kernel)

/-- A plus sign is no hexadecimal digit, and still sixteen of them are read as zeros. -/
theorem parse_plus_signs :
    let s := "+f+f+f+f+f+f+f+f+f+f+f+f+f+f+f+f"
    (∃ d, parse s = .ok d) ∧ ¬ ∀ c ∈ trimChars s.toList, IsHexDigit c := by
  refine ⟨⟨⟨.replicate 16 15⟩, rfl⟩, fun hdigits => ?_⟩
  exact absurd (hdigits '+' (by decide +kernel)) (by decide)

end ModelCache.Digest
