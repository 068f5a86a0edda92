import ModelCache.Version

/-!
# The version counter only moves up

A counter has two words: `next`, the least version that was never issued, and `inUse`, the greatest
one known to be in use. What makes the pair work is that an issued version is in use from then on,
and that the greatest word never is:

* **`VersionCounter.Sound`** — `next ≤ inUse + 1` and `inUse < maxWord`. It holds of a fresh counter
  and survives `observe` and `issue`.
* **`issue_cases`** — what `issue` can do to a sound counter: hand out the version above `inUse`, or
  nothing, because the last version is in use.
* **`VersionCounter.issuedUpTo`** — the version issued between two states of a counter. Only issuing
  moves `next`, so the two states tell.
* **`VersionCounter.Tracks`** — a counter that knows exactly which version is the greatest of those
  used; it issues none only if these leave none (`Tracks.issue_cases`).
-/

namespace ModelCache

theorem toNat_max (a b : UInt64) : (max a b).toNat = max a.toNat b.toNat := by
  -- `max` of words is this `if` by definition
  show (if a ≤ b then b else a).toNat = max a.toNat b.toNat
  by_cases h : a ≤ b
  · rw [if_pos h, Nat.max_eq_right (UInt64.le_iff_toNat_le.mp h)]
  · rw [if_neg h, Nat.max_eq_left]
    rw [UInt64.le_iff_toNat_le] at h
    omega

namespace BuildVersion

theorem isIssuable_iff (v : BuildVersion) :
    v.isIssuable = true ↔ v.number ≠ 0 ∧ v.number ≠ maxWord := by
  simp [isIssuable]

theorem maxWord_toNat : maxWord.toNat = 18446744073709551615 := rfl

/-- Below the greatest word nothing wraps. -/
theorem toNat_succ {w : UInt64} (h : w.toNat < maxWord.toNat) : (w + 1).toNat = w.toNat + 1 := by
  rw [maxWord_toNat] at h
  rw [UInt64.toNat_add]
  show (w.toNat + 1) % 2 ^ 64 = w.toNat + 1
  omega

theorem isIssuable_iff_toNat (v : BuildVersion) :
    v.isIssuable = true ↔ 0 < v.number.toNat ∧ v.number.toNat < maxWord.toNat := by
  have hlt := v.number.toNat_lt
  rw [isIssuable_iff, Ne, Ne, ← UInt64.toNat_inj, ← UInt64.toNat_inj]
  simp only [UInt64.toNat_zero, maxWord_toNat]
  omega

end BuildVersion

namespace VersionCounter

open BuildVersion (maxWord maxWord_toNat)

variable {c : VersionCounter} {v : BuildVersion}

/-! ## Sound counters -/

/-- Everything that was issued is in use, and the greatest word never is. -/
structure Sound (c : VersionCounter) : Prop where
  next_le : c.next.toNat ≤ c.inUse.toNat + 1
  inUse_lt : c.inUse.toNat < maxWord.toNat

theorem sound_fresh : fresh.Sound := ⟨by decide, by decide⟩

/-! ## Observing -/

@[simp] theorem observe_next (c : VersionCounter) (v : BuildVersion) :
    (c.observe v).next = c.next := by
  unfold observe
  split <;> rfl

/-- A version that could have been issued is in use from then on. -/
theorem observe_inUse (c : VersionCounter) (hv : v.isIssuable = true) :
    (c.observe v).inUse = max c.inUse v.number := by
  rw [observe, if_pos hv]

/-- A version that could not have been issued says nothing. -/
theorem observe_of_not_issuable (c : VersionCounter) (hv : ¬ v.isIssuable = true) :
    c.observe v = c := by
  rw [observe, if_neg hv]

theorem Sound.observe (h : c.Sound) (v : BuildVersion) : (c.observe v).Sound := by
  by_cases hv : v.isIssuable = true
  · have hlt := (BuildVersion.isIssuable_iff_toNat v).mp hv
    have hnext := h.next_le
    have huse := h.inUse_lt
    refine ⟨?_, ?_⟩
    · rw [observe_next, observe_inUse c hv, toNat_max]
      omega
    · rw [observe_inUse c hv, toNat_max]
      omega
  · rw [observe_of_not_issuable c hv]
    exact h

/-! ## Issuing -/

/-- **What issuing does.** A sound counter whose last version is in use issues none and stays as it
is. Any other sound counter issues the version directly above those in use, which then is in use
itself. -/
theorem issue_cases (h : c.Sound) :
    (c.inUse.toNat + 1 = maxWord.toNat ∧ c.issue = (none, c)) ∨
      ∃ v : BuildVersion, v.number.toNat = c.inUse.toNat + 1 ∧ v.isIssuable = true ∧
        c.issue = (some v, ⟨v.number + 1, v.number⟩) := by
  have hnext := h.next_le
  have huse := h.inUse_lt
  have hne : c.inUse ≠ maxWord := fun he => by rw [he] at huse; omega
  have hsucc := BuildVersion.toNat_succ huse
  -- `next` is never further up than the version above `inUse`
  have hversion : (max c.next (c.inUse + 1)).toNat = c.inUse.toNat + 1 := by
    rw [toNat_max, hsucc]
    omega
  unfold issue
  rw [if_neg hne]
  by_cases hlast : max c.next (c.inUse + 1) = maxWord
  · exact .inl ⟨by rw [← hversion, hlast], if_pos hlast⟩
  · refine .inr ⟨⟨max c.next (c.inUse + 1)⟩, hversion, ?_, if_neg hlast⟩
    rw [BuildVersion.isIssuable_iff]
    refine ⟨fun hzero => ?_, hlast⟩
    -- the version has a predecessor, so it is not zero
    have hversion' := congrArg UInt64.toNat (show max c.next (c.inUse + 1) = 0 from hzero)
    rw [hversion, UInt64.toNat_zero] at hversion'
    omega

/-- What is issued is the version above those in use, and is in use from then on. -/
theorem of_issue_some (h : c.Sound) {after : VersionCounter}
    (hissue : c.issue = (some v, after)) :
    v.number.toNat = c.inUse.toNat + 1 ∧ v.isIssuable = true ∧ after.inUse = v.number := by
  rcases issue_cases h with ⟨_, hnone⟩ | ⟨w, hnumber, hw, hsome⟩
  · rw [hnone] at hissue
    cases hissue
  · rw [hsome] at hissue
    cases hissue
    exact ⟨hnumber, hw, rfl⟩

theorem isIssuable_of_issue (h : c.Sound) {after : VersionCounter}
    (hissue : c.issue = (some v, after)) : v.isIssuable = true :=
  (of_issue_some h hissue).2.1

/-- A counter that issues nothing stays as it is. -/
theorem eq_of_issue_none {after : VersionCounter} (h : c.issue = (none, after)) : after = c := by
  unfold issue at h
  split at h
  · cases h
    rfl
  · dsimp only at h
    split at h
    · cases h
      rfl
    · cases h

/-- The word above an issuable version does not wrap. -/
theorem toNat_succ_of_issuable (hv : v.isIssuable = true) :
    (v.number + 1).toNat = v.number.toNat + 1 :=
  BuildVersion.toNat_succ ((BuildVersion.isIssuable_iff_toNat v).mp hv).2

theorem sound_after_issue (hv : v.isIssuable = true) :
    Sound ⟨v.number + 1, v.number⟩ :=
  ⟨Nat.le_of_eq (toNat_succ_of_issuable hv), ((BuildVersion.isIssuable_iff_toNat v).mp hv).2⟩

theorem Sound.issue (h : c.Sound) : c.issue.2.Sound := by
  rcases issue_cases h with ⟨_, hissue⟩ | ⟨v, _, hv, hissue⟩
  · rw [hissue]
    exact h
  · rw [hissue]
    exact sound_after_issue hv

/-! ## Counters do not move back -/

/-- `c.NotAfter c'`: neither word of `c'` is smaller than that of `c`. -/
structure NotAfter (c c' : VersionCounter) : Prop where
  next_le : c.next ≤ c'.next
  inUse_le : c.inUse ≤ c'.inUse

theorem NotAfter.refl (c : VersionCounter) : c.NotAfter c := ⟨UInt64.le_refl _, UInt64.le_refl _⟩

theorem NotAfter.trans {c c' c'' : VersionCounter} (h : c.NotAfter c') (h' : c'.NotAfter c'') :
    c.NotAfter c'' :=
  ⟨UInt64.le_trans h.next_le h'.next_le, UInt64.le_trans h.inUse_le h'.inUse_le⟩

theorem notAfter_observe (c : VersionCounter) (v : BuildVersion) : c.NotAfter (c.observe v) := by
  by_cases hv : v.isIssuable = true
  · refine ⟨by rw [observe_next]; exact UInt64.le_refl _, ?_⟩
    rw [observe_inUse c hv, UInt64.le_iff_toNat_le, toNat_max]
    omega
  · rw [observe_of_not_issuable c hv]
    exact .refl c

theorem notAfter_issue (h : c.Sound) : c.NotAfter c.issue.2 := by
  rcases issue_cases h with ⟨_, hissue⟩ | ⟨v, hnumber, hv, hissue⟩
  · rw [hissue]
    exact .refl c
  · have hnext := h.next_le
    have hsucc := toNat_succ_of_issuable hv
    rw [hissue]
    refine ⟨?_, ?_⟩
    · show c.next ≤ v.number + 1
      rw [UInt64.le_iff_toNat_le]
      omega
    · show c.inUse ≤ v.number
      rw [UInt64.le_iff_toNat_le]
      omega

/-! ## Which version was issued

`next` stands one above the last version issued, and learning of versions in use leaves it alone. So
a counter that had issued one version more shows it in `next`. -/

/-- The version that a counter issued on the way to a later state, if it issued one. -/
def issuedUpTo (c later : VersionCounter) : Option BuildVersion :=
  if later.next = c.next then none else some ⟨later.next - 1⟩

theorem issuedUpTo_of_next_eq {later : VersionCounter} (h : later.next = c.next) :
    c.issuedUpTo later = none := if_pos h

/-- The two states around an issue show what was issued. -/
theorem issuedUpTo_issue (h : c.Sound) : c.issuedUpTo c.issue.2 = c.issue.1 := by
  rcases issue_cases h with ⟨_, hissue⟩ | ⟨v, hnumber, hv, hissue⟩
  · rw [hissue]
    exact issuedUpTo_of_next_eq rfl
  · have hnext := h.next_le
    have hsucc := toNat_succ_of_issuable hv
    rw [hissue]
    show (if v.number + 1 = c.next then none else some ⟨v.number + 1 - 1⟩) = some v
    -- `next` has moved, because it was at most the version that was issued
    have hne : v.number + 1 ≠ c.next := fun he => by
      rw [he] at hsucc
      omega
    rw [if_neg hne, UInt64.add_sub_cancel]

/-! ## Which versions are used

A version is used once it was issued or learned of. The counter keeps the greatest of them only, and
needs no more: whether a version is left, and which one is next, hangs on the greatest alone. -/

/-- No version could be issued that is greater than all that are used. -/
def Exhausted (used : List BuildVersion) : Prop :=
  ∀ v : BuildVersion, v.isIssuable = true →
    ∃ w ∈ used, w.isIssuable = true ∧ v.number ≤ w.number

/-- A sound counter whose `inUse` is the greatest of the versions that are used. -/
structure Tracks (c : VersionCounter) (used : List BuildVersion) : Prop where
  sound : c.Sound
  le_inUse : ∀ w ∈ used, w.isIssuable = true → w.number ≤ c.inUse
  inUse_mem : c.inUse = 0 ∨ ∃ w ∈ used, w.isIssuable = true ∧ w.number = c.inUse

variable {used : List BuildVersion}

theorem tracks_fresh : fresh.Tracks [] := ⟨sound_fresh, nofun, .inl rfl⟩

theorem Tracks.exists_greatest (h : c.Tracks used) (hpos : 0 < c.inUse) :
    ∃ w ∈ used, w.isIssuable = true ∧ w.number = c.inUse := by
  rcases h.inUse_mem with hzero | hmem
  · rw [hzero] at hpos
    exact absurd hpos (by decide)
  · exact hmem

theorem Tracks.observe (h : c.Tracks used) (v : BuildVersion) :
    (c.observe v).Tracks (used ++ [v]) := by
  by_cases hv : v.isIssuable = true
  · refine ⟨h.sound.observe v, fun w hw hwi => ?_, ?_⟩
    · rw [observe_inUse c hv, UInt64.le_iff_toNat_le, toNat_max]
      rcases List.mem_append.mp hw with hw | hw
      · have hle := UInt64.le_iff_toNat_le.mp (h.le_inUse w hw hwi)
        omega
      · rw [List.mem_singleton.mp hw]
        omega
    · rw [observe_inUse c hv]
      -- the greatest version is the new one, or it still is the old one
      by_cases hle : c.inUse ≤ v.number
      · refine .inr ⟨v, by simp, hv, ?_⟩
        exact (if_pos hle).symm
      · rcases h.inUse_mem with hzero | ⟨w, hw, hwi, hnumber⟩
        · rw [hzero, UInt64.le_iff_toNat_le, UInt64.toNat_zero] at hle
          omega
        · refine .inr ⟨w, List.mem_append_left _ hw, hwi, ?_⟩
          rw [hnumber]
          exact (if_neg hle).symm
  · rw [observe_of_not_issuable c hv]
    refine ⟨h.sound, fun w hw hwi => ?_, ?_⟩
    · rcases List.mem_append.mp hw with hw | hw
      · exact h.le_inUse w hw hwi
      · rw [List.mem_singleton.mp hw] at hwi
        exact absurd hwi hv
    · rcases h.inUse_mem with hzero | ⟨w, hw, hwi, hnumber⟩
      · exact .inl hzero
      · exact .inr ⟨w, List.mem_append_left _ hw, hwi, hnumber⟩

/-- **What a counter issues that tracks the used versions.** Either they leave no version, and the
counter issues none; or it issues one that is greater than all of them, and tracks that too. -/
theorem Tracks.issue_cases (h : c.Tracks used) :
    (Exhausted used ∧ c.issue = (none, c) ∧ c.latest = some ⟨maxWord - 1⟩) ∨
      ∃ v after, ¬ Exhausted used ∧ c.issue = (some v, after) ∧ v.isIssuable = true ∧
        (∀ w ∈ used, w.isIssuable = true → w.number < v.number) ∧ after.Tracks (used ++ [v]) ∧
        c.inUse < v.number := by
  rcases VersionCounter.issue_cases h.sound with ⟨hlast, hissue⟩ | ⟨v, hnumber, hv, hissue⟩
  · rw [maxWord_toNat] at hlast
    -- the last version is in use, so nothing that could be issued is greater
    have hinUse : c.inUse = maxWord - 1 := UInt64.toNat_inj.mp (by
      show c.inUse.toNat = 18446744073709551614
      omega)
    have hpos : 0 < c.inUse := by rw [hinUse]; decide
    refine .inl ⟨fun v hv => ?_, hissue, ?_⟩
    · obtain ⟨w, hw, hwi, hnumber⟩ := h.exists_greatest hpos
      refine ⟨w, hw, hwi, ?_⟩
      have hlt := ((BuildVersion.isIssuable_iff_toNat v).mp hv).2
      rw [maxWord_toNat] at hlt
      rw [hnumber, UInt64.le_iff_toNat_le]
      omega
    · rw [latest, if_pos hpos, hinUse]
  · -- the version above `inUse` is above everything that is used
    have habove : ∀ w ∈ used, w.isIssuable = true → w.number < v.number := fun w hw hwi => by
      have hle := UInt64.le_iff_toNat_le.mp (h.le_inUse w hw hwi)
      rw [UInt64.lt_iff_toNat_lt]
      omega
    refine .inr ⟨v, _, fun hexhausted => ?_, hissue, hv, habove, ?_, ?_⟩
    · obtain ⟨w, hw, hwi, hle⟩ := hexhausted v hv
      exact absurd (habove w hw hwi) (UInt64.not_lt.mpr hle)
    · refine ⟨sound_after_issue hv, fun w hw hwi => ?_, .inr ⟨v, by simp, hv, rfl⟩⟩
      show w.number ≤ v.number
      rcases List.mem_append.mp hw with hw | hw
      · exact UInt64.le_of_lt (habove w hw hwi)
      · rw [List.mem_singleton.mp hw]
        exact UInt64.le_refl _
    · rw [UInt64.lt_iff_toNat_lt]
      omega

end VersionCounter

end ModelCache
