import ModelCache.Text.Lowercase

/-!
# Small letters stay small

A look-up may lower-case a text that is in small letters already, so the result must not depend on
how often that was done.

* **`CaseRun.not_covers_image`** — the small form of a letter is not a capital of any alphabet.
* **`Settled`** — a character that lower-casing leaves alone wherever it stands; every character of a
  small form is one (`settled_of_mem_lowerChars`).
* **`lowercase_lowercase`** — lower-casing a second time changes nothing.
-/

namespace ModelCache.Text

/-! ## Images of runs

The table has about two hundred runs, and each has to be compared with each. What is compared is
where the images of one lie: before all code points of the other, behind them, or between them, where
an alphabet lists each capital before its small letter. -/

namespace CaseRun

variable {r q : CaseRun} {n : Nat}

/-- The images of a run lie before another run, behind it, or between its code points. -/
def misses (r q : CaseRun) : Bool :=
  Nat.blt (r.image + (r.last - r.first)) q.first || Nat.blt q.last r.image ||
    ((r.step == 2 || r.first == r.last) && q.step == 2 && r.image % 2 != q.first % 2)

/-- The images of a run are code points of characters other than the capital I with a dot. -/
def imagesValid (r : CaseRun) : Bool :=
  (0x130 < r.image && r.image + (r.last - r.first) < 0xD800) ||
    (0xDFFF < r.image && r.image + (r.last - r.first) < 0x110000) ||
    r.image + (r.last - r.first) < 0x130

theorem covers_iff : r.covers n = true ↔
    (r.first ≤ n ∧ n ≤ r.last) ∧ (n - r.first) % r.step = 0 := by
  simp [covers]

theorem not_covers_of_misses (h : r.misses q = true) (hn : r.covers n = true) :
    q.covers (r.image + (n - r.first)) = false := by
  obtain ⟨⟨hfirst, hlast⟩, hstep⟩ := covers_iff.mp hn
  apply Bool.eq_false_iff.mpr
  intro hq
  obtain ⟨⟨hqfirst, hqlast⟩, hqstep⟩ := covers_iff.mp hq
  simp only [misses, Bool.or_eq_true, Bool.and_eq_true, Nat.blt_eq, beq_iff_eq, bne_iff_ne] at h
  rcases h with (hbefore | hbehind) | ⟨⟨htwo | hone, hqtwo⟩, hparity⟩
  · omega
  · omega
  · -- both runs take every second code point, so their parity tells them apart
    rw [htwo] at hstep
    rw [hqtwo] at hqstep
    omega
  · rw [hqtwo] at hqstep
    omega

theorem apply_of_not_covers {runs : List CaseRun} (h : ∀ r ∈ runs, r.covers n = false) :
    apply runs n = n := by
  induction runs with
  | nil => rfl
  | cons r rest ih =>
    have hr : ¬ r.covers n = true := by simp [h r List.mem_cons_self]
    rw [apply, if_neg hr, ih (fun q hq => h q (List.mem_cons_of_mem r hq)), ite_self]

/-- A code point has an image under one of the runs, or is its own image. -/
theorem apply_cases (runs : List CaseRun) (n : Nat) :
    apply runs n = n ∨
      ∃ r ∈ runs, r.covers n = true ∧ apply runs n = r.image + (n - r.first) := by
  induction runs with
  | nil => exact .inl rfl
  | cons r rest ih =>
    by_cases hbefore : n < r.first
    · exact .inl (by rw [apply, if_pos hbefore])
    · by_cases hr : r.covers n = true
      · exact .inr ⟨r, List.mem_cons_self, hr, by rw [apply, if_neg hbefore, if_pos hr]⟩
      · rw [apply, if_neg hbefore, if_neg hr]
        rcases ih with hself | ⟨q, hq, hcovers, himage⟩
        · exact .inl hself
        · exact .inr ⟨q, List.mem_cons_of_mem r hq, hcovers, himage⟩

theorem lowerRuns_misses : ∀ r ∈ lowerRuns, ∀ q ∈ lowerRuns, r.misses q = true := by
  have hall : (lowerRuns.all fun r => lowerRuns.all r.misses) = true := by decide +kernel
  intro r hr q hq
  exact List.all_eq_true.mp (List.all_eq_true.mp hall r hr) q hq

theorem lowerRuns_valid : ∀ r ∈ lowerRuns, r.imagesValid = true := by decide +kernel

/-- **No small letter is a capital.** The image of a code point is covered by no run of the table. -/
theorem not_covers_image (hr : r ∈ lowerRuns) (hn : r.covers n = true) :
    ∀ q ∈ lowerRuns, q.covers (r.image + (n - r.first)) = false :=
  fun q hq => not_covers_of_misses (lowerRuns_misses r hr q hq) hn

theorem isValidChar_image (hr : r ∈ lowerRuns) (hn : r.covers n = true) :
    (r.image + (n - r.first)).isValidChar ∧ r.image + (n - r.first) ≠ 0x130 := by
  have hvalid := lowerRuns_valid r hr
  obtain ⟨⟨hfirst, hlast⟩, -⟩ := covers_iff.mp hn
  simp only [imagesValid, Bool.or_eq_true, Bool.and_eq_true, decide_eq_true_eq] at hvalid
  refine ⟨?_, by omega⟩
  show _ < 0xD800 ∨ 0xDFFF < _ ∧ _ < 0x110000
  omega

end CaseRun

/-! ## Characters that are settled -/

/-- A character that lower-casing leaves alone, wherever it stands. -/
structure Settled (c : Char) : Prop where
  ne_sigma : c ≠ 'Σ'
  lowerChars_eq : lowerChars c = [c]

theorem settled_lowerSigma (before after : List Char) : Settled (lowerSigma before after) := by
  unfold lowerSigma
  split
  · exact ⟨by decide, by decide +kernel⟩
  · exact ⟨by decide, by decide +kernel⟩

theorem toNat_ofNat_of_valid {n : Nat} (h : n.isValidChar) : (Char.ofNat n).toNat = n := by
  rw [Char.ofNat, dif_pos h]
  rfl

/-- Small forms are settled. A character without a capital sigma in it is its own small form, or an
image of the table, which has no image itself. -/
theorem settled_of_mem_lowerChars {c d : Char} (hc : c ≠ 'Σ') (hd : d ∈ lowerChars c) :
    Settled d := by
  unfold lowerChars at hd
  split at hd
  case isTrue hdotted =>
    simp only [List.mem_cons, List.not_mem_nil, or_false] at hd
    rcases hd with rfl | rfl
    · exact ⟨by decide, by decide +kernel⟩
    · exact ⟨by decide, by decide +kernel⟩
  case isFalse hdotted =>
    rw [List.mem_singleton.mp hd]
    rcases CaseRun.apply_cases lowerRuns c.toNat with hself | ⟨r, hr, hcovers, himage⟩
    · rw [hself, Char.ofNat_toNat]
      refine ⟨hc, ?_⟩
      rw [lowerChars, if_neg hdotted, hself, Char.ofNat_toNat]
    · rw [himage]
      obtain ⟨hvalid, hne⟩ := CaseRun.isValidChar_image hr hcovers
      have hnat := toNat_ofNat_of_valid hvalid
      have hfree := CaseRun.not_covers_image hr hcovers
      refine ⟨fun hsigma => ?_, ?_⟩
      · -- the capital sigma is covered, being a capital
        rw [hsigma] at hnat
        rw [← hnat] at hfree
        have hcovered : ∃ q ∈ lowerRuns, q.covers 'Σ'.toNat = true := by decide +kernel
        obtain ⟨q, hq, hcovered⟩ := hcovered
        rw [hfree q hq] at hcovered
        cases hcovered
      · rw [lowerChars, hnat, if_neg hne, CaseRun.apply_of_not_covers hfree]

/-! ## Texts -/

theorem settled_of_mem_lowerAfter {before cs : List Char} {d : Char}
    (hd : d ∈ lowerAfter before cs) : Settled d := by
  induction cs generalizing before with
  | nil => cases hd
  | cons c after ih =>
    rw [lowerAfter, List.mem_append] at hd
    rcases hd with hd | hd
    · split at hd
      case isTrue => rw [List.mem_singleton.mp hd]; exact settled_lowerSigma before after
      case isFalse hc => exact settled_of_mem_lowerChars hc hd
    · exact ih hd

theorem lowerAfter_of_settled {before cs : List Char} (h : ∀ c ∈ cs, Settled c) :
    lowerAfter before cs = cs := by
  induction cs generalizing before with
  | nil => rfl
  | cons c after ih =>
    have hc := h c List.mem_cons_self
    rw [lowerAfter, if_neg hc.ne_sigma, hc.lowerChars_eq,
      ih (fun d hd => h d (List.mem_cons_of_mem c hd)), List.singleton_append]

/-- **Lower-casing twice is lower-casing once.** -/
@[simp] theorem lowercase_lowercase (s : String) : lowercase (lowercase s) = lowercase s := by
  have hsettled : ∀ c ∈ lowerAfter [] s.toList, Settled c := fun c hc =>
    settled_of_mem_lowerAfter hc
  show String.ofList (lowerAfter [] (String.ofList (lowerAfter [] s.toList)).toList) = _
  rw [String.toList_ofList, lowerAfter_of_settled hsettled]
  rfl

-- A capital sigma has two small forms, and the dotted I one of two characters; all of them stay.
example : lowercase "ΣΟΦΟΣ İ" = "σοφος i̇" ∧ lowercase "σοφος i̇" = "σοφος i̇" := by decide +kernel

end ModelCache.Text
