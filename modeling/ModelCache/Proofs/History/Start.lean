import ModelCache.Proofs.History.Versions

/-!
# What a start knows of the versions in a store

A store can show two versions to be in use: the one in the module pointer and the one in the header
of the build unit. A cache that starts over the store looks at the record and at the unit. The record
counts only if all its parts are there and belong together, and then its pointer names the version of
the header. So for all that is in the store, the header alone decides:

* **`Bench.Shelf.inUse_start`** — a cache that starts over a store knows exactly the version in the
  header to be in use, or none if there is no header.
* **`RecordStore.SkipsPast`** — no cache that starts over the store, and runs on there by itself,
  ever issues a version up to a given one.
* **`Bench.Shelf.skipsPast_iff`** — so the version in the header is always skipped, and the one in
  the pointer exactly if the one in the header is not smaller.
-/

namespace ModelCache

/-! ## Versions that are issued -/

/-- The version that a call takes from the counter, if it takes one. -/
def Call.issued? (k : Call) : Option BuildVersion := k.cache.versions.issuedUpTo k.after.versions

def Session.issued (s : Session) : List BuildVersion := s.calls.filterMap Call.issued?

def History.issued {σ : Type} (h : History σ) : List BuildVersion :=
  h.sessions.flatMap Session.issued

/-- A session keeps in mind what it was started over. -/
theorem Session.unitText_run (s : Session) (requests : List (Surroundings × Request)) :
    (s.run requests).unitText = s.unitText := by
  induction requests generalizing s with
  | nil => rfl
  | cons first rest ih => exact ih (s.next first.1 first.2)

/-- What was used before a session started is used before each of its calls. -/
theorem Session.Numbers.lt_issued {s : Session} (h : s.Numbers) {v w : BuildVersion}
    (hv : v ∈ s.heardAtStart) (hissuable : v.isIssuable = true) (hw : w ∈ s.issued) :
    v.number < w.number := by
  obtain ⟨k, hk, hissued⟩ := List.mem_filterMap.mp hw
  obtain ⟨before, after, hcalls⟩ := List.append_of_mem hk
  have hnumbers := h.calls before k after hcalls
  have hcompiled : w ∈ k.compiled := by
    rw [hnumbers.compiled_eq, Option.mem_toList]
    exact hissued
  exact (hnumbers.above w hcompiled).2 v (List.mem_append_left _ hv) hissuable

/-- A session that builds issues the version above those in use, if all goes well up to there. -/
theorem Call.issued?_of_drafts {k : Call} (hsound : k.cache.versions.Sound) (hbuilds : k.builds = true)
    {schema : Schema} {companions : Companions} {models : List TypeModel} {source : String}
    (hdrafts : Cache.Drafts k.around k.options k.cache.forced schema companions models source)
    (hleft : k.cache.versions.inUse.toNat + 1 < BuildVersion.maxWord.toNat) :
    ∃ v, k.issued? = some v ∧ v.number.toNat = k.cache.versions.inUse.toNat + 1 := by
  rcases VersionCounter.issue_cases hsound with ⟨hlast, _⟩ | ⟨v, hnumber, _, hissue⟩
  · omega
  · refine ⟨v, ?_, hnumber⟩
    have hcompiled : k.compiled = [v] := by
      rw [compiled_of_builds hbuilds, outcome, hdrafts.cycle_eq, hissue]
      exact Cache.compiledIn_compile ..
    have hissued : k.compiled = k.issued?.toList := k.versionStep.issuedUpTo hsound
    rw [hcompiled] at hissued
    cases hv : k.issued? with
    | none => rw [hv] at hissued; cases hissued
    | some w => rw [hv] at hissued; rw [List.singleton_inj.mp hissued]

/-! ## A cache by itself over a store -/

variable {σ : Type}

/-- The moves of one cache: it is started, and then called. -/
def Move.alone (options : Options) (calls : List (Surroundings × Request)) : List Move :=
  .start options :: calls.map fun (around, request) => .call around request

/-- No cache that is started over a store issues a version that is not greater than `v`, whatever
calls are made of it, as long as it has the store to itself. -/
def RecordStore.SkipsPast (S : RecordStore σ) (store : σ) (v : BuildVersion) : Prop :=
  ∀ options calls, ∀ w ∈ ((History.begin store).run S (Move.alone options calls)).issued,
    v.number < w.number

/-- The calls of a history in which no cache is started all go to the session that runs. -/
theorem History.run_calls {S : RecordStore σ} {h : History σ} {s : Session}
    (hrunning : h.running = some s) (calls : List (Surroundings × Request)) :
    ∃ met, (h.run S (calls.map fun (around, request) => .call around request)).sessions =
      h.ended ++ [s.run met] := by
  induction calls generalizing h s with
  | nil => exact ⟨[], sessions_of_running hrunning⟩
  | cons first rest ih =>
    obtain ⟨around, request⟩ := first
    have hnext := next_call_of_some (S := S) hrunning around request
    obtain ⟨met, hmet⟩ := ih (h := h.next S (.call around request))
      (s := s.next (h.meet S around) request) (by rw [hnext])
    rw [hnext] at hmet
    refine ⟨(h.meet S around, request) :: met, ?_⟩
    show (((h.next S (.call around request))).run S _).sessions = _
    rw [hnext]
    exact hmet

/-- A cache that has the store to itself is one session, started over what the store held. -/
theorem History.sessions_alone (S : RecordStore σ) (store : σ) (options : Options)
    (calls : List (Surroundings × Request)) :
    ∃ met, ((begin store).run S (Move.alone options calls)).sessions =
      [(Session.start options (S.loadRecord store) (S.loadUnit store)).run met] :=
  run_calls (h := (begin store).next S (.start options)) rfl calls

/-! ## What a store shows -/

namespace Bench.Shelf

/-- The module pointer at a site, if it is there and can be read. -/
def pointer? (s : Shelf) : StoreSite → Option ModulePointer
  | .memory => s.parts.pointer
  | .directory dir => (Disk.readPart dir s.files .pointer).bind ModulePointer.parse?

/-- The version in the header of the build unit at a site, if there is a header. -/
def headerVersion? (s : Shelf) (site : StoreSite) : Option BuildVersion :=
  ((s.loadUnit site).bind BuildUnit.parseHeader).map Prod.fst

variable {s : Shelf} {site : StoreSite}

theorem isIssuable_of_headerVersion? {v : BuildVersion} (h : s.headerVersion? site = some v) :
    v.isIssuable = true := by
  unfold headerVersion? at h
  obtain ⟨⟨w, digest⟩, hheader, rfl⟩ := Option.map_eq_some_iff.mp h
  obtain ⟨text, _, hparse⟩ := Option.bind_eq_some_iff.mp hheader
  exact BuildUnit.isIssuable_of_parseHeader hparse

theorem headerVersion?_of_unit {text : String} {v : BuildVersion} {digest : Digest}
    (hunit : s.loadUnit site = some text) (hheader : BuildUnit.parseHeader text = some (v, digest)) :
    s.headerVersion? site = some v := by
  unfold headerVersion?
  rw [hunit, Option.bind_some, hheader]
  rfl

theorem of_checked {r record : ArtifactRecord} (h : r.checked = some record) :
    r = record ∧ BuildUnit.parseHeader r.unitText = some (r.pointer.version, r.digest) := by
  unfold ArtifactRecord.checked at h
  split at h
  case isTrue hconsistent =>
    unfold ArtifactRecord.isConsistent at hconsistent
    exact ⟨Option.some.inj h, eq_of_beq hconsistent⟩
  case isFalse => cases h

/-- A record that can be loaded has the pointer of the store, and its unit names the pointer's
version. -/
theorem of_loadRecord {record : ArtifactRecord} (h : s.loadRecord site = some record) :
    s.pointer? site = some record.pointer ∧
      s.headerVersion? site = some record.pointer.version := by
  cases site with
  | memory =>
    unfold loadRecord Parts.loadRecord at h
    simp only [Option.bind_eq_bind, Option.bind_eq_some_iff] at h
    obtain ⟨generated, _, unitText, hunit, digest, _, pointer, hpointer, hchecked⟩ := h
    obtain ⟨rfl, hheader⟩ := of_checked hchecked
    exact ⟨hpointer, headerVersion?_of_unit hunit hheader⟩
  | directory dir =>
    unfold loadRecord Disk.loadRecord at h
    simp only [Option.bind_eq_bind, Option.bind_eq_some_iff] at h
    obtain ⟨generated, _, unitText, hunit, digestText, _, digest, _, pointerText, hread, pointer,
      hpointer, hchecked⟩ := h
    obtain ⟨rfl, hheader⟩ := of_checked hchecked
    refine ⟨?_, headerVersion?_of_unit hunit hheader⟩
    show (Disk.readPart dir s.files .pointer).bind ModulePointer.parse? = some pointer
    rw [hread]
    exact hpointer

theorem inUse_observe_fresh {v : BuildVersion} (hv : v.isIssuable = true) :
    (VersionCounter.fresh.observe v).inUse = v.number := by
  rw [VersionCounter.observe_inUse _ hv, ← UInt64.toNat_inj, toNat_max]
  exact Nat.max_eq_right (Nat.zero_le _)

/-- **The header decides.** A cache that starts over a store knows the version in the header of the
unit to be in use, and no greater one. -/
theorem inUse_start (s : Shelf) (site : StoreSite) :
    (Cache.start (s.loadRecord site) (s.loadUnit site)).versions.inUse =
      ((s.headerVersion? site).map BuildVersion.number).getD 0 := by
  unfold Cache.start
  dsimp only
  cases hheader : (s.loadUnit site).bind BuildUnit.parseHeader with
  | none =>
    have hnone : s.headerVersion? site = none := by rw [headerVersion?, hheader]; rfl
    cases hrecord : s.loadRecord site with
    | none => rw [hnone]; rfl
    | some record => rw [(of_loadRecord hrecord).2] at hnone; cases hnone
  | some header =>
    have hsome : s.headerVersion? site = some header.1 := by rw [headerVersion?, hheader]; rfl
    have hissuable := isIssuable_of_headerVersion? hsome
    rw [hsome]
    cases hrecord : s.loadRecord site with
    | none => exact inUse_observe_fresh hissuable
    | some record =>
      -- the record says the same once more
      have hsame : header.1 = record.pointer.version :=
        Option.some.inj (hsome.symm.trans (of_loadRecord hrecord).2)
      show ((VersionCounter.fresh.observe record.pointer.version).observe header.1).inUse = _
      rw [← hsame, VersionCounter.observe_inUse _ hissuable, inUse_observe_fresh hissuable]
      exact if_pos (UInt64.le_refl _)

/-! ## What a start skips -/

/-- A session that starts over a store has heard of the version in the header. -/
theorem mem_heardAtStart {v : BuildVersion} (h : s.headerVersion? site = some v) (options : Options)
    (requests : List (Surroundings × Request)) :
    v ∈ ((Session.start options (s.loadRecord site) (s.loadUnit site)).run requests).heardAtStart := by
  refine List.mem_append_right _ ?_
  rw [Session.unitText_run]
  show v ∈ (s.headerVersion? site).toList
  rw [h]
  exact List.mem_singleton_self v

theorem skipsPast_header {v : BuildVersion} (h : s.headerVersion? site = some v) :
    (recordStore site).SkipsPast s v := by
  intro options calls w hw
  obtain ⟨met, hsessions⟩ := History.sessions_alone (recordStore site) s options calls
  unfold History.issued at hw
  rw [hsessions, List.flatMap_singleton] at hw
  exact (Session.run_numbers options _ _ met).lt_issued (mem_heardAtStart h options met)
    (isIssuable_of_headerVersion? h) hw

theorem drafts_fairWeather (options : Options) :
    Cache.Drafts .fairWeather options false [] .empty [] "types" :=
  ⟨⟨rfl, rfl⟩, rfl, by cbv, rfl, by decide +kernel⟩

/-- Over a store without a record, the first build in fair weather issues the version above the one
in the header. -/
theorem issued_fairWeather (hrecord : s.loadRecord site = none)
    (hleft : (((s.headerVersion? site).map BuildVersion.number).getD 0).toNat + 1 <
      BuildVersion.maxWord.toNat) :
    ∃ v ∈ ((History.begin s).run (recordStore site)
        (Move.alone {} [(.fairWeather, .ensure)])).issued,
      v.number.toNat = (((s.headerVersion? site).map BuildVersion.number).getD 0).toNat + 1 := by
  let k := (Session.start {} (s.loadRecord site) (s.loadUnit site)).call .fairWeather .ensure
  have hinUse : k.cache.versions.inUse = _ := inUse_start s site
  rw [← hinUse] at hleft ⊢
  have hsound : k.cache.versions.Sound := Session.sound_start _ _
  obtain ⟨v, hissued, hnumber⟩ := k.issued?_of_drafts hsound rfl (drafts_fairWeather {}) hleft
  refine ⟨v, ?_, hnumber⟩
  -- what the call meets is fair weather indeed, since no record is there
  have hmeet : (History.begin s).meet (recordStore site) .fairWeather = .fairWeather := by
    show { Surroundings.fairWeather with record := s.loadRecord site } = _
    rw [hrecord]
    rfl
  have hcalls : ((History.begin s).run (recordStore site)
      (Move.alone {} [(.fairWeather, .ensure)])).issued = [k].filterMap Call.issued? := by
    show [Session.next _ _ _].flatMap Session.issued = _
    rw [List.flatMap_singleton]
    show [Session.call _ ((History.begin s).meet (recordStore site) .fairWeather) _].filterMap _ = _
    rw [hmeet]
    rfl
  rw [hcalls]
  simp [hissued]

/-- **What a start skips.** Whatever a store holds, in memory or on disk: the version in the header of
the unit is skipped, and the one in the module pointer is skipped exactly if the header has one that
is not smaller. -/
theorem skipsPast_iff (s : Shelf) (site : StoreSite) :
    (∀ v, s.headerVersion? site = some v → (recordStore site).SkipsPast s v) ∧
      ∀ pointer, s.pointer? site = some pointer → pointer.version.isIssuable = true →
        ((recordStore site).SkipsPast s pointer.version ↔
          ∃ v, s.headerVersion? site = some v ∧ pointer.version.number ≤ v.number) := by
  refine ⟨fun v hv => skipsPast_header hv, fun pointer hpointer hissuable => ⟨fun hskips => ?_, ?_⟩⟩
  · refine Classical.byContradiction fun hsmaller => ?_
    have hissuable := (BuildVersion.isIssuable_iff_toNat _).mp hissuable
    -- so the cache knows of no version from that of the pointer on
    have hinUse : (((s.headerVersion? site).map BuildVersion.number).getD 0).toNat <
        pointer.version.number.toNat := by
      cases hheader : s.headerVersion? site with
      | none => exact hissuable.1
      | some v =>
        refine Nat.lt_of_not_le fun hle => hsmaller ⟨v, hheader, ?_⟩
        exact UInt64.le_iff_toNat_le.mpr hle
    -- and there is no record, because that would have the version of the pointer in its header
    have hrecord : s.loadRecord site = none := by
      refine Option.eq_none_iff_forall_ne_some.mpr fun record hrecord => ?_
      obtain ⟨hsame, hheader⟩ := of_loadRecord hrecord
      rw [hpointer] at hsame
      rw [← Option.some.inj hsame] at hheader
      exact hsmaller ⟨_, hheader, UInt64.le_refl _⟩
    obtain ⟨v, hv, hnumber⟩ := issued_fairWeather hrecord (by omega)
    have hlt := UInt64.lt_iff_toNat_lt.mp (hskips {} [(.fairWeather, .ensure)] v hv)
    omega
  · rintro ⟨v, hheader, hle⟩ options calls w hw
    exact UInt64.lt_of_le_of_lt hle (skipsPast_header hheader options calls w hw)

/-! ## Stores with parts that do not go together -/

/-- Pointer and unit of two builds, and no digest: the version of either is skipped. -/
theorem skipsPast_mixed :
    let unit := BuildUnit.assemble ⟨5⟩ (Schema.digest .empty []) .empty "types"
    let s : Shelf := ⟨⟨none, some unit.text, none, some ⟨⟨"module"⟩, ⟨3⟩⟩⟩, none, .empty⟩
    s.loadRecord .memory = none ∧ s.headerVersion? .memory = some ⟨5⟩ ∧
      (recordStore .memory).SkipsPast s ⟨5⟩ ∧ (recordStore .memory).SkipsPast s ⟨3⟩ := by
  intro unit s
  have hparse : BuildUnit.parseHeader unit.text = some (⟨5⟩, Schema.digest .empty []) := by
    rw [BuildUnit.parseHeader_assemble]
    rfl
  have hheader : s.headerVersion? .memory = some ⟨5⟩ := headerVersion?_of_unit rfl hparse
  obtain ⟨hunit, hpointer⟩ := skipsPast_iff s .memory
  exact ⟨rfl, hheader, hunit ⟨5⟩ hheader,
    (hpointer ⟨⟨"module"⟩, ⟨3⟩⟩ rfl (by decide)).mpr ⟨⟨5⟩, hheader, by decide⟩⟩

/-- A shelf on which a cache kept its first build, and from which the unit was then taken away. -/
def unitLost : Shelf :=
  (((History.begin ⟨.empty, none, .empty⟩).run (recordStore .memory)
    (Move.alone {} [(.fairWeather, .ensure)])).store.remove .unit .memory).2

/-- **A version is issued twice.** The pointer names version one, but without the unit it goes
unnoticed, and the next cache issues version one again. -/
theorem not_skipsPast_pointer :
    unitLost.pointer? .memory = some ⟨⟨"module"⟩, ⟨1⟩⟩ ∧ BuildVersion.isIssuable ⟨1⟩ = true ∧
      ¬ (recordStore .memory).SkipsPast unitLost ⟨1⟩ := by
  refine ⟨by decide +kernel, by decide, fun hskips => ?_⟩
  have hagain : ⟨1⟩ ∈ ((History.begin unitLost).run (recordStore .memory)
      (Move.alone {} [(.fairWeather, .ensure)])).issued := by decide +kernel
  exact absurd (hskips {} [(.fairWeather, .ensure)] ⟨1⟩ hagain) (by decide)

end Bench.Shelf

end ModelCache
