import ModelCache.Proofs.Version

/-!
# The version counter is exact until none is left

Any calls on a fresh counter, in any order and with any words observed. The counter has two words and
the calls may go on for ever, but what it answers only depends on the greatest version that is used:

* **`VersionCounter.run_tracks`** — after any calls the counter knows the greatest of the versions used
  by them, by the step lemma `Tracks.apply` and induction on the calls.
* **`VersionCounter.Tracks.least_of_issue`** — so the version it issues is the least one above all of
  these.
* **`VersionCounter.apply_of_issue_none`** — a counter that has none left is not changed by any call.
* **`VersionCounter.exact_run`** — all of it, with every addition of words exact.
-/

namespace ModelCache.VersionCounter

open BuildVersion (maxWord maxWord_toNat)

variable {c : VersionCounter} {used : List BuildVersion} {v : BuildVersion}

/-! ## Calls -/

/-- What a counter can be called for. -/
inductive Op where
  | issue
  | observe (v : BuildVersion)

namespace Op

/-- The counter after a call. -/
def apply (c : VersionCounter) : Op → VersionCounter
  | issue => c.issue.2
  | observe v => c.observe v

/-- The version that a call uses: the one that is issued, or an observed one that could have been. -/
def use? (c : VersionCounter) : Op → Option BuildVersion
  | issue => c.issue.1
  | observe v => if v.isIssuable then some v else none

end Op

/-- The counter after some calls. -/
def run (c : VersionCounter) (ops : List Op) : VersionCounter := ops.foldl Op.apply c

/-- The versions that are used by some calls, in the order of the calls. -/
def usedBy (c : VersionCounter) : List Op → List BuildVersion
  | [] => []
  | op :: rest => (op.use? c).toList ++ (op.apply c).usedBy rest

/-! ## What the counter knows

`Tracks` is the invariant: the counter is sound, and its second word is the greatest of the versions
that are used. One call adds at most one version to these, and the counter keeps up with it. -/

/-- **A call keeps the counter on the track** of the versions used before it and by it. -/
theorem Tracks.apply (h : c.Tracks used) (op : Op) :
    (op.apply c).Tracks (used ++ (op.use? c).toList) := by
  cases op with
  | issue =>
    show c.issue.2.Tracks (used ++ c.issue.1.toList)
    rcases h.issue_cases with ⟨-, hissue, -⟩ | ⟨v, after, -, hissue, -, -, hafter, -⟩
    · -- none is left: nothing is used, and the counter stays as it is
      rw [hissue]
      simpa using h
    · rw [hissue]
      exact hafter
  | observe v =>
    show (c.observe v).Tracks (used ++ (if v.isIssuable then some v else none).toList)
    by_cases hv : v.isIssuable = true
    · rw [if_pos hv]
      exact h.observe v
    · -- zero and the greatest word are no versions, neither to the counter nor to `use?`
      rw [if_neg hv, observe_of_not_issuable c hv]
      simpa using h

/-- Any number of calls keep it there. The induction is on the calls, with the counter and the versions
left open. -/
theorem Tracks.run (h : c.Tracks used) (ops : List Op) :
    (c.run ops).Tracks (used ++ c.usedBy ops) := by
  induction ops generalizing c used with
  | nil => simpa [VersionCounter.run, usedBy] using h
  | cons op rest ih =>
    rw [usedBy, ← List.append_assoc]
    exact ih (h.apply op)

/-- So a fresh counter, for which no version is used, tracks all that its calls use. -/
theorem run_tracks (ops : List Op) : (fresh.run ops).Tracks (fresh.usedBy ops) := tracks_fresh.run ops

/-- Whatever a call uses could have been issued. -/
theorem isIssuable_of_use? (h : c.Sound) {op : Op} (hv : op.use? c = some v) :
    v.isIssuable = true := by
  cases op with
  | issue =>
    have hissue : c.issue = (some v, c.issue.2) := Prod.ext hv rfl
    exact isIssuable_of_issue h hissue
  | observe w =>
    -- a word is used only if it passes this very test
    have hobserved : (if w.isIssuable then some w else none) = some v := hv
    split at hobserved
    case isTrue hw =>
      cases hobserved
      exact hw
    case isFalse => cases hobserved

/-- Every call keeps a counter sound. -/
theorem Sound.apply (h : c.Sound) (op : Op) : (op.apply c).Sound := by
  cases op with
  | issue => exact h.issue
  | observe v => exact h.observe v

/-- All that is used by some calls could have been issued. -/
theorem isIssuable_of_mem_usedBy (h : c.Sound) {ops : List Op} (hv : v ∈ c.usedBy ops) :
    v.isIssuable = true := by
  induction ops generalizing c with
  | nil => cases hv
  | cons op rest ih =>
    rcases List.mem_append.mp hv with hv | hv
    · exact isIssuable_of_use? h (Option.mem_toList.mp hv)
    · exact ih (h.apply op) hv

/-! ## The latest version

The second word is zero as long as no version is used, and the greatest version used from then on.
Zero is not itself a version, so the two cannot be mixed up. -/

/-- The latest version is the second word, unless that is zero. -/
theorem latest_eq_some_iff : c.latest = some v ↔ 0 < c.inUse ∧ c.inUse = v.number := by
  unfold latest
  split
  case isTrue hpos =>
    rw [Option.some.injEq]
    exact ⟨fun h => ⟨hpos, by rw [← h]⟩, fun h => by rw [h.2]⟩
  case isFalse hzero => exact ⟨nofun, fun h => absurd h.1 hzero⟩

/-- Once a version is used, the second word is not zero. -/
theorem Tracks.inUse_pos (h : c.Tracks used) (hv : v ∈ used) (hissuable : v.isIssuable = true) :
    0 < c.inUse := by
  have hpos := ((BuildVersion.isIssuable_iff_toNat v).mp hissuable).1
  have hle := UInt64.le_iff_toNat_le.mp (h.le_inUse v hv hissuable)
  rw [UInt64.lt_iff_toNat_lt, UInt64.toNat_zero]
  omega

/-- The latest version is the greatest of those used. -/
theorem Tracks.latest_iff (h : c.Tracks used) (hissuable : ∀ w ∈ used, w.isIssuable = true) :
    c.latest = some v ↔ v ∈ used ∧ ∀ w ∈ used, w.number ≤ v.number := by
  rw [latest_eq_some_iff]
  constructor
  · -- the word is the number of a version that is used, and that can only be this one
    rintro ⟨hpos, heq⟩
    obtain ⟨w, hw, -, hnumber⟩ := h.exists_greatest hpos
    have hwv : w = v := by
      cases w
      cases v
      exact congrArg BuildVersion.mk (hnumber.trans heq)
    exact ⟨hwv ▸ hw, fun u hu => heq ▸ h.le_inUse u hu (hissuable u hu)⟩
  · -- the word is not below the greatest version, and is itself the number of one that is used
    rintro ⟨hv, hgreatest⟩
    have hpos := h.inUse_pos hv (hissuable v hv)
    obtain ⟨w, hw, -, hnumber⟩ := h.exists_greatest hpos
    refine ⟨hpos, UInt64.le_antisymm ?_ (h.le_inUse v hv (hissuable v hv))⟩
    rw [← hnumber]
    exact hgreatest w hw

/-- There is no latest version exactly as long as none is used. -/
theorem Tracks.latest_eq_none_iff (h : c.Tracks used) (hissuable : ∀ w ∈ used, w.isIssuable = true) :
    c.latest = none ↔ used = [] := by
  constructor
  · intro hnone
    rw [List.eq_nil_iff_forall_not_mem]
    intro w hw
    have hsome : c.latest = some ⟨c.inUse⟩ :=
      latest_eq_some_iff.mpr ⟨h.inUse_pos hw (hissuable w hw), rfl⟩
    rw [hnone] at hsome
    cases hsome
  · rintro rfl
    rcases h.inUse_mem with hzero | ⟨w, hw, -⟩
    · rw [latest, hzero]
      rfl
    · -- a greatest version would be one that is used
      cases hw

/-- Observing a word never lowers the latest version. -/
theorem latest_observe_le {w : BuildVersion} (hw : c.latest = some w) (v : BuildVersion) :
    ∃ w', (c.observe v).latest = some w' ∧ w.number ≤ w'.number := by
  obtain ⟨hpos, heq⟩ := latest_eq_some_iff.mp hw
  have hle := (notAfter_observe c v).inUse_le
  exact ⟨⟨(c.observe v).inUse⟩, latest_eq_some_iff.mpr ⟨UInt64.lt_of_lt_of_le hpos hle, rfl⟩, heq ▸ hle⟩

/-! ## Issuing

An issued version is the second word plus one. That word is the greatest version used, or zero: in
both cases the version right above it is the least one that is left. -/

/-- What is issued is above all that are used. -/
theorem Tracks.lt_of_issue (h : c.Tracks used) (hissuable : ∀ w ∈ used, w.isIssuable = true)
    {after : VersionCounter} (hissue : c.issue = (some v, after)) :
    ∀ w ∈ used, w.number < v.number := by
  intro w hw
  have hnumber := (of_issue_some h.sound hissue).1
  have hle := UInt64.le_iff_toNat_le.mp (h.le_inUse w hw (hissuable w hw))
  exact UInt64.lt_iff_toNat_lt.mpr (by omega)

/-- **What is issued is the least version above all that are used.** -/
theorem Tracks.least_of_issue (h : c.Tracks used) {after : VersionCounter}
    (hissue : c.issue = (some v, after)) {u : BuildVersion} (hu : u.isIssuable = true)
    (habove : ∀ w ∈ used, w.number < u.number) : v.number ≤ u.number := by
  have hnumber := (of_issue_some h.sound hissue).1
  rw [UInt64.le_iff_toNat_le]
  rcases h.inUse_mem with hzero | ⟨w, hw, -, hgreatest⟩
  · -- the version issued is the first one, and none is less
    have hpos := ((BuildVersion.isIssuable_iff_toNat u).mp hu).1
    rw [hzero, UInt64.toNat_zero] at hnumber
    omega
  · -- the version issued is right above the greatest one used, and the other is above that too
    have hlt := UInt64.lt_iff_toNat_lt.mp (habove w hw)
    rw [hgreatest] at hlt
    omega

/-- After issuing, the first word is one above the version issued: the addition does not wrap. -/
theorem toNat_next_of_issue (h : c.Sound) {after : VersionCounter}
    (hissue : c.issue = (some v, after)) : after.next.toNat = v.number.toNat + 1 := by
  rcases issue_cases h with ⟨-, hnone⟩ | ⟨w, -, hw, hsome⟩
  · rw [hnone] at hissue
    cases hissue
  · rw [hsome] at hissue
    cases hissue
    exact toNat_succ_of_issuable hw

/-! ## When none is left

The last version is two below the number of words. Once it is in use there is nothing above it to
issue, and nothing above it that could be observed, so the counter has come to a halt. -/

/-- None is left exactly when the second word is right below the greatest word. -/
theorem issue_none_iff (h : c.Sound) : c.issue.1 = none ↔ c.inUse.toNat + 1 = maxWord.toNat := by
  rcases issue_cases h with ⟨hlast, hissue⟩ | ⟨v, hnumber, hv, hissue⟩
  · rw [hissue]
    exact ⟨fun _ => hlast, fun _ => rfl⟩
  · have hlt := ((BuildVersion.isIssuable_iff_toNat v).mp hv).2
    rw [hissue]
    exact ⟨nofun, fun hlast => by omega⟩

/-- None is left exactly when the latest version is the last one there is. -/
theorem issue_none_iff_latest (h : c.Sound) :
    c.issue.1 = none ↔ c.latest = some ⟨maxWord - 1⟩ := by
  have hlast : (maxWord - 1).toNat = 18446744073709551614 := rfl
  rw [issue_none_iff h, latest_eq_some_iff, maxWord_toNat, ← UInt64.toNat_inj, hlast,
    UInt64.lt_iff_toNat_lt, UInt64.toNat_zero]
  omega

/-- A counter that has no version left is never changed again: there is none to issue, and none to
observe that is greater than the last one. -/
theorem apply_of_issue_none (h : c.Sound) (hnone : c.issue.1 = none) (op : Op) : op.apply c = c := by
  cases op with
  | issue => exact eq_of_issue_none (Prod.ext hnone rfl)
  | observe v =>
    show c.observe v = c
    by_cases hv : v.isIssuable = true
    · -- a version is below the greatest word, so the maximum is the word that is there
      have hlast := (issue_none_iff h).mp hnone
      have hlt := ((BuildVersion.isIssuable_iff_toNat v).mp hv).2
      have hmax : max c.inUse v.number = c.inUse := UInt64.toNat_inj.mp (by rw [toNat_max]; omega)
      rw [observe, if_pos hv, hmax]
    · exact observe_of_not_issuable c hv

/-- Nor does any number of calls change it. -/
theorem run_of_issue_none (h : c.Sound) (hnone : c.issue.1 = none) (ops : List Op) :
    c.run ops = c := by
  induction ops with
  | nil => rfl
  | cons op rest ih =>
    show (op.apply c).run rest = c
    rw [apply_of_issue_none h hnone op, ih]

/-! ## The whole counter -/

/-- What is true of a counter when certain versions are used. -/
structure Exact (c : VersionCounter) (used : List BuildVersion) : Prop where
  latest : (∀ v, c.latest = some v ↔ v ∈ used ∧ ∀ w ∈ used, w.number ≤ v.number) ∧
    (c.latest = none ↔ used = [])
  /-- An issued version is the least issuable one above all that are used. -/
  issue : ∀ v after, c.issue = (some v, after) → v.isIssuable = true ∧
    (∀ w ∈ used, w.number < v.number) ∧
    ∀ u : BuildVersion, u.isIssuable = true → (∀ w ∈ used, w.number < u.number) →
      v.number ≤ u.number
  /-- Observing lowers neither word, nor the latest version. -/
  observe : ∀ v, c.NotAfter (c.observe v) ∧ ∀ w, c.latest = some w →
    ∃ w', (c.observe v).latest = some w' ∧ w.number ≤ w'.number
  issue_none_iff : c.issue.1 = none ↔ c.latest = some ⟨maxWord - 1⟩
  /-- Once none is left, none is ever left. -/
  stays : c.issue.1 = none → ∀ more, (c.run more).issue.1 = none ∧ (c.run more).latest = c.latest
  /-- Each addition that is carried out has a word for its result. -/
  additions : (c.inUse + 1).toNat = c.inUse.toNat + 1 ∧
    ∀ v after, c.issue = (some v, after) → after.next.toNat = v.number.toNat + 1

/-- **The counter is exact**, after any calls on a fresh one. -/
theorem exact_run (ops : List Op) : (fresh.run ops).Exact (fresh.usedBy ops) := by
  have htracks := run_tracks ops
  have hsound := htracks.sound
  have hissuable : ∀ w ∈ fresh.usedBy ops, w.isIssuable = true := fun w hw =>
    isIssuable_of_mem_usedBy sound_fresh hw
  refine ⟨⟨fun v => htracks.latest_iff hissuable, htracks.latest_eq_none_iff hissuable⟩, ?_, ?_,
    issue_none_iff_latest hsound, ?_, ?_⟩
  · -- an issued version: could be issued, is above all used ones, and is the least such
    intro v after hissue
    exact ⟨isIssuable_of_issue hsound hissue, htracks.lt_of_issue hissuable hissue,
      fun u hu habove => htracks.least_of_issue hissue hu habove⟩
  · exact fun v => ⟨notAfter_observe _ v, fun w hw => latest_observe_le hw v⟩
  · -- a counter that has none left is at a halt
    intro hnone more
    rw [run_of_issue_none hsound hnone]
    exact ⟨hnone, rfl⟩
  · exact ⟨BuildVersion.toNat_succ hsound.inUse_lt, fun v after hissue =>
      toNat_next_of_issue hsound hissue⟩

end ModelCache.VersionCounter
