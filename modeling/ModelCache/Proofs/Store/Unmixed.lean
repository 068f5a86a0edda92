import ModelCache.Proofs.Store.Agreement

/-!
# Parts of one record

A record is saved part by part, so that between two changes the parts of two records lie side by side.
What keeps them from being taken for one record is the version in the header of the unit. A build
saves its unit first of all, under a version above all that the store shows. From then on the older
pointer does not fit the unit, and when the new pointer is written, the new source and the new unit
are there already. The digest needs no such care, because the header names it too.

* **`Parts.Unmixed`** — there is no pointer, or it is older than the unit, or it is that of a saved
  record whose source and unit lie beside it. Then no record but a saved one can be loaded
  (`Unmixed.mem_of_loadRecord`).
* **`Parts.UnmixedThrough`** — the parts are unmixed at every moment of some events, whichever change
  they are broken off after (`UnmixedThrough.upTo`).
* **`Call.unmixedThrough`** — so they are throughout every call, if the cache knows the version of the
  unit to be in use. `Call.headerKnown` says that it does so again afterwards.
-/

namespace ModelCache

/-- The record that an event saves. -/
def Event.saved : Event → List ArtifactRecord
  | .recordSaved r => [r]
  | .generated | .unitSaved _ | .compiled _ | .recordCleared | .reported _ | .reportCleared => []

namespace Parts

variable {saved : List ArtifactRecord} {ps : Parts} {r : ArtifactRecord} {v : BuildVersion}

/-- The version in the header of the unit, if there is one. -/
def headerVersion? (ps : Parts) : Option BuildVersion :=
  (ps.unitText.bind BuildUnit.parseHeader).map Prod.fst

theorem headerVersion?_of_assemble (hissuable : v.isIssuable = true) {digest : Digest}
    {companions : Companions} {source : String}
    (hunit : ps.unitText = some (BuildUnit.assemble v digest companions source).text) :
    ps.headerVersion? = some v := by
  rw [headerVersion?, hunit, Option.bind_some, BuildUnit.parseHeader_assemble, if_pos hissuable]
  rfl

/-- The unit has a version that no pointer has caught up with. -/
structure Overtaken (ps : Parts) (v : BuildVersion) : Prop where
  header : ps.headerVersion? = some v
  lt : ∀ p, ps.pointer = some p → p.version.number < v.number

/-- Source, unit and pointer are those of one record. -/
structure Carries (ps : Parts) (r : ArtifactRecord) : Prop where
  generated : ps.generated = some r.generated
  unitText : ps.unitText = some r.unitText
  pointer : ps.pointer = some r.pointer
  consistent : r.isConsistent = true

/-- Whether the parts are such that no record can be put together from those of different ones. -/
inductive Unmixed (saved : List ArtifactRecord) (ps : Parts) : Prop where
  | unpointed (h : ps.pointer = none)
  | overtaken (v : BuildVersion) (h : ps.Overtaken v)
  | carries (r : ArtifactRecord) (hr : r ∈ saved) (h : ps.Carries r)

theorem Carries.header (h : ps.Carries r) : ps.headerVersion? = some r.pointer.version := by
  rw [headerVersion?, h.unitText, Option.bind_some,
    ArtifactRecord.isConsistent_iff.mp h.consistent]
  rfl

theorem eq_of_loadRecord (h : ps.loadRecord = some r) :
    ps = ⟨some r.generated, some r.unitText, some r.digest, some r.pointer⟩ ∧
      r.isConsistent = true := by
  obtain ⟨generated, unitText, digest, pointer⟩ := ps
  simp only [loadRecord, Option.bind_eq_bind, Option.bind_eq_some_iff] at h
  obtain ⟨source, rfl, text, rfl, d, rfl, p, rfl, hchecked⟩ := h
  unfold ArtifactRecord.checked at hchecked
  split at hchecked
  case isTrue hconsistent =>
    cases hchecked
    exact ⟨rfl, hconsistent⟩
  case isFalse => cases hchecked

/-- **From unmixed parts only a saved record can be loaded**, and it is that record in all parts. -/
theorem Unmixed.mem_of_loadRecord (h : Unmixed saved ps) (hload : ps.loadRecord = some r) :
    r ∈ saved := by
  obtain ⟨rfl, hconsistent⟩ := eq_of_loadRecord hload
  have hheader := ArtifactRecord.isConsistent_iff.mp hconsistent
  cases h with
  | unpointed hnone => cases hnone
  | overtaken v hovertaken =>
    -- the unit names the version of the pointer, so it has not overtaken it
    have hsame : some r.pointer.version = some v := by
      rw [← hovertaken.header, headerVersion?, Option.bind_some, hheader]
      rfl
    have hlt := hovertaken.lt r.pointer rfl
    rw [← Option.some.inj hsame] at hlt
    exact absurd hlt (UInt64.lt_irrefl _)
  | carries r' hr' hcarries =>
    -- the unit names the digest, so that too is the one of the saved record
    have hunit : r.unitText = r'.unitText := Option.some.inj hcarries.unitText
    have hheader' := ArtifactRecord.isConsistent_iff.mp hcarries.consistent
    rw [← hunit, hheader] at hheader'
    have hdigest : r.digest = r'.digest := congrArg Prod.snd (Option.some.inj hheader')
    have hgenerated : r.generated = r'.generated := Option.some.inj hcarries.generated
    have hpointer : r.pointer = r'.pointer := Option.some.inj hcarries.pointer
    have hsame : r = r' := by
      cases r
      cases r'
      rw [ArtifactRecord.mk.injEq]
      exact ⟨hgenerated, hunit, hdigest, hpointer⟩
    rw [hsame]
    exact hr'

theorem Unmixed.mono {saved' : List ArtifactRecord} (h : Unmixed saved ps)
    (hsub : ∀ r ∈ saved, r ∈ saved') : Unmixed saved' ps := by
  cases h with
  | unpointed h => exact .unpointed h
  | overtaken v h => exact .overtaken v h
  | carries r hr h => exact .carries r (hsub r hr) h

/-- Whether a counter knows the version in the header of the unit to be in use. -/
def HeaderKnown (ps : Parts) (c : VersionCounter) : Prop :=
  ∀ v, ps.headerVersion? = some v → v.number ≤ c.inUse

/-- The version of a pointer is not beyond the one in the header, and so it is in use as well. -/
theorem Unmixed.pointer_le {c : VersionCounter} (h : Unmixed saved ps) (hknown : ps.HeaderKnown c)
    {p : ModulePointer} (hp : ps.pointer = some p) : p.version.number ≤ c.inUse := by
  cases h with
  | unpointed h => rw [h] at hp; cases hp
  | overtaken v h => exact UInt64.le_of_lt (UInt64.lt_of_lt_of_le (h.lt p hp) (hknown v h.header))
  | carries r _ h =>
    have hpointer : r.pointer = p := Option.some.inj (h.pointer.symm.trans hp)
    rw [← hpointer]
    exact hknown _ h.header

/-! ## Broken off between two changes -/

/-- Saving the unit of a later build takes the parts from one record to none. -/
theorem Unmixed.take_unitSaved (h : Unmixed saved ps) {text : String}
    (hovertaken : (ps.saveUnit text).Overtaken v) (n : Nat) :
    Unmixed saved (ps.changed ((Event.unitSaved text).changes.take n)) := by
  rcases n with _ | _ | n
  · exact h
  · exact h
  · rw [List.take_of_length_le (Nat.le_add_left 2 n)]
    exact .overtaken v hovertaken

/-- **While a record is saved, its unit is there already**, and no pointer fits it but its own. -/
theorem Overtaken.take_recordSaved (h : ps.Overtaken v) (hunit : ps.unitText = some r.unitText)
    (hconsistent : r.isConsistent = true) (hr : r ∈ saved) (n : Nat) :
    Unmixed saved (ps.changed ((Event.recordSaved r).changes.take n)) := by
  have hheader : (some r.unitText).bind BuildUnit.parseHeader =
      ps.unitText.bind BuildUnit.parseHeader := by rw [hunit]
  rcases n with _ | _ | _ | _ | _ | n
  -- up to the pointer, the unit is ahead of the older one
  · exact .overtaken v h
  · exact .overtaken v h
  · exact .overtaken v ⟨h.header, h.lt⟩
  · exact .overtaken v ⟨(congrArg (Option.map Prod.fst) hheader).trans h.header, h.lt⟩
  · exact .carries r hr ⟨rfl, rfl, rfl, hconsistent⟩
  · rw [List.take_of_length_le (Nat.le_add_left 5 n)]
    exact .carries r hr ⟨rfl, rfl, rfl, hconsistent⟩

/-- The digest is removed first, which mixes nothing, and then the pointer. -/
theorem Unmixed.take_recordCleared (h : Unmixed saved ps) (n : Nat) :
    Unmixed saved (ps.changed (Event.recordCleared.changes.take n)) := by
  rcases n with _ | _ | n
  · exact h
  · cases h with
    | unpointed h => exact .unpointed h
    | overtaken v h => exact .overtaken v ⟨h.header, h.lt⟩
    | carries r hr h => exact .carries r hr ⟨h.generated, h.unitText, h.pointer, h.consistent⟩
  · rw [List.take_of_length_le (Nat.le_add_left 2 n)]
    exact .unpointed rfl

/-! ## Every moment of some events -/

/-- The changes up to a moment of some events: all that the first `done` events make, and the first
`operations` of the next one. -/
def changesUpTo (events : List Event) (done operations : Nat) : List Change :=
  (events.take done).flatMap Event.changes ++
    ((events[done]?).elim [] Event.changes).take operations

/-- Whether the parts are unmixed at every moment of some events. A record counts as saved as soon as
its saving has begun. -/
def UnmixedThrough : List ArtifactRecord → Parts → List Event → Prop
  | saved, ps, [] => Unmixed saved ps
  | saved, ps, e :: rest =>
    (∀ n, Unmixed (saved ++ e.saved) (ps.changed (e.changes.take n))) ∧
      UnmixedThrough (saved ++ e.saved) (ps.changed e.changes) rest

/-- **At any moment** of events throughout which the parts are unmixed, they are. -/
theorem UnmixedThrough.upTo {events : List Event} (h : UnmixedThrough saved ps events)
    (done operations : Nat) :
    Unmixed (saved ++ (events.take (done + 1)).flatMap Event.saved)
      (ps.changed (changesUpTo events done operations)) := by
  induction events generalizing saved ps done with
  | nil =>
    have hnow : Unmixed saved ps := h
    simpa [changesUpTo, changed] using hnow
  | cons e rest ih =>
    cases done with
    | zero => simpa [changesUpTo] using h.1 operations
    | succ done =>
      have hlater := ih h.2 done
      rw [List.append_assoc] at hlater
      rw [show changesUpTo (e :: rest) (done + 1) operations =
        e.changes ++ changesUpTo rest done operations by simp [changesUpTo], changed_append]
      exact hlater

theorem UnmixedThrough.atEnd {events : List Event} (h : UnmixedThrough saved ps events) :
    Unmixed (saved ++ events.flatMap Event.saved) (ps.changed (events.flatMap Event.changes)) := by
  have hend := h.upTo events.length 0
  rw [List.take_of_length_le (Nat.le_succ _)] at hend
  simpa [changesUpTo] using hend

theorem UnmixedThrough.cons_idle {e : Event} {rest : List Event} (hsaved : e.saved = [])
    (hchanges : e.changes = []) (h : UnmixedThrough saved ps rest)
    (hnow : Unmixed saved ps) : UnmixedThrough saved ps (e :: rest) := by
  refine ⟨fun n => ?_, ?_⟩
  · rw [hsaved, hchanges, List.append_nil, List.take_nil]
    exact hnow
  · rw [hsaved, hchanges, List.append_nil]
    exact h

theorem UnmixedThrough.append {first second : List Event} (hfirst : UnmixedThrough saved ps first)
    (hsecond : UnmixedThrough (saved ++ first.flatMap Event.saved)
      (ps.changed (first.flatMap Event.changes)) second) :
    UnmixedThrough saved ps (first ++ second) := by
  induction first generalizing saved ps with
  | nil => simpa [changed] using hsecond
  | cons e rest ih =>
    refine ⟨hfirst.1, ih hfirst.2 ?_⟩
    rw [List.flatMap_cons, List.flatMap_cons, ← List.append_assoc, changed_append] at hsecond
    exact hsecond

/-- Whatever is reported and cleared after a cycle leaves the parts unmixed. -/
theorem Unmixed.through_recordCleared (h : Unmixed saved ps) (rest : List Event)
    (hrest : rest = [] ∨ ∃ message, rest = [.reported message]) :
    UnmixedThrough saved ps (.recordCleared :: rest) := by
  have hcleared : Unmixed saved (ps.changed Event.recordCleared.changes) :=
    .unpointed rfl
  refine ⟨fun n => ?_, ?_⟩
  · rw [Event.saved, List.append_nil]
    exact h.take_recordCleared n
  · rw [Event.saved, List.append_nil]
    rcases hrest with rfl | ⟨message, rfl⟩
    · exact hcleared
    · exact .cons_idle rfl rfl hcleared hcleared

end Parts

/-! ## Cycles and calls -/

namespace Cache

open Parts

variable {around : Surroundings} {options : Options} {forced : Bool} {versions : VersionCounter}
  {generation : Nat} {o : Outcome} {saved : List ArtifactRecord} {ps : Parts}

/-- The unit of a cycle overtakes whatever pointer is there. -/
theorem overtaken_of_issue (hsound : versions.Sound) (hmixed : Unmixed saved ps)
    (hknown : ps.HeaderKnown versions) {version : BuildVersion} {after : VersionCounter}
    (hissue : versions.issue = (some version, after)) (digest : Digest) (companions : Companions)
    (source : String) :
    (ps.saveUnit (BuildUnit.assemble version digest companions source).text).Overtaken version := by
  obtain ⟨hnumber, hissuable, _⟩ := VersionCounter.of_issue_some hsound hissue
  refine ⟨headerVersion?_of_assemble hissuable rfl, fun p hp => ?_⟩
  have hle := UInt64.le_iff_toNat_le.mp (hmixed.pointer_le hknown hp)
  rw [UInt64.lt_iff_toNat_lt]
  omega

/-- The events of a cycle that compiles, up to the compiler. -/
theorem unmixedThrough_compile {unit : BuildUnit} {v : BuildVersion} {rest : List Event}
    (h : Unmixed saved ps) (hovertaken : (ps.saveUnit unit.text).Overtaken v)
    (hrest : UnmixedThrough saved (ps.saveUnit unit.text) rest) :
    UnmixedThrough saved ps (compileEvents unit ++ rest) := by
  refine .cons_idle rfl rfl ⟨fun n => ?_, ?_⟩ h
  · rw [Event.saved, List.append_nil]
    exact h.take_unitSaved hovertaken n
  · rw [Event.saved, List.append_nil]
    exact .cons_idle rfl rfl hrest (.overtaken v hovertaken)

/-- **A cycle leaves the parts unmixed at every moment.** -/
theorem Ends.unmixedThrough (h : Ends around options forced versions generation o)
    (hsound : versions.Sound) (hmixed : Unmixed saved ps) (hknown : ps.HeaderKnown versions) :
    UnmixedThrough saved ps o.events := by
  cases h with
  | schemaMissing | companionsMissing | modelsRejected | reuseRejected | reused => exact hmixed
  | generatorFailed | outputBlank | exhausted => exact .cons_idle rfl rfl hmixed hmixed
  | rejected schema companions _ source version _ _ _ hissue
  | misshapen schema companions _ source version _ _ _ _ hissue =>
    have hovertaken := overtaken_of_issue hsound hmixed hknown hissue
      (schema.digest companions) companions source
    have hthrough : UnmixedThrough saved ps (compileEvents _ ++ []) :=
      unmixedThrough_compile hmixed hovertaken (.overtaken version hovertaken)
    rwa [List.append_nil] at hthrough
  | built schema companions _ source version after module _ _ hissue =>
    have hovertaken := overtaken_of_issue hsound hmixed hknown hissue
      (schema.digest companions) companions source
    have hissuable := VersionCounter.isIssuable_of_issue hsound hissue
    have hconsistent := isConsistent_recordOf hissuable (schema.digest companions) companions source
      module
    refine unmixedThrough_compile hmixed hovertaken ⟨fun n => ?_, ?_⟩
    · exact hovertaken.take_recordSaved rfl hconsistent (by simp [Event.saved]) n
    · exact .carries _ (by simp [Event.saved]) ⟨rfl, rfl, rfl, hconsistent⟩

theorem UnitEvents.headerKnown {after : VersionCounter} {events : List Event}
    (h : UnitEvents versions after events) (hsound : versions.Sound)
    (hnotAfter : versions.NotAfter after) (hknown : ps.HeaderKnown versions) :
    (ps.changed (events.flatMap Event.changes)).HeaderKnown after := by
  have hissued {unit : BuildUnit} {digest companions source}
      (hunit : unit = .assemble unit.version digest companions source)
      (hissue : versions.issue = (some unit.version, after)) {qs : Parts}
      (hqs : qs.unitText = some unit.text) : qs.HeaderKnown after := by
    obtain ⟨_, hissuable, hinUse⟩ := VersionCounter.of_issue_some hsound hissue
    rw [hunit] at hqs
    intro w hw
    rw [headerVersion?_of_assemble hissuable hqs] at hw
    rw [← Option.some.inj hw, hinUse]
    exact UInt64.le_refl _
  cases h with
  | none generated =>
    cases generated <;> exact fun v hv => UInt64.le_trans (hknown v hv) hnotAfter.inUse_le
  | compiled unit digest companions source hunit hissue => exact hissued hunit hissue rfl
  | saved unit digest companions source record hunit hissue hrecord =>
    exact hissued hunit hissue (congrArg some hrecord)

end Cache

namespace Call

open Parts

variable {k : Call} {saved : List ArtifactRecord} {ps : Parts}

/-- **Every call leaves the parts unmixed at every moment.** -/
theorem unmixedThrough (hsound : k.cache.versions.Sound) (hmixed : Unmixed saved ps)
    (hknown : ps.HeaderKnown k.cache.versions) : UnmixedThrough saved ps k.events := by
  cases hbuilds : k.builds with
  | false =>
    rcases (kept_of_not_builds hbuilds).2 with hevents | hevents <;> rw [hevents]
    · exact hmixed
    · exact hmixed.through_recordCleared [] (.inl rfl)
  | true =>
    have hcycle := k.outcome_ends.unmixedThrough hsound hmixed hknown
    rcases events_of_builds hbuilds with hevents | ⟨message, hevents⟩ <;> rw [hevents]
    · exact hcycle.append (.cons_idle rfl rfl hcycle.atEnd hcycle.atEnd)
    · exact hcycle.append (hcycle.atEnd.through_recordCleared _ (.inr ⟨message, rfl⟩))

theorem headerKnown (hsound : k.cache.versions.Sound) (hknown : ps.HeaderKnown k.cache.versions) :
    (ps.changed (k.events.flatMap Event.changes)).HeaderKnown k.after.versions := by
  cases hbuilds : k.builds with
  | false =>
    rw [(kept_of_not_builds hbuilds).1.versions_eq]
    rcases (kept_of_not_builds hbuilds).2 with hevents | hevents <;> rw [hevents] <;> exact hknown
  | true =>
    have hends := k.outcome_ends
    have hcycle := hends.unitEvents.headerKnown hsound (hends.notAfter hsound) hknown
    rw [k.versions_of_builds hbuilds]
    -- what comes after the cycle does not touch the unit
    rcases events_of_builds hbuilds with hevents | ⟨message, hevents⟩
    all_goals
      rw [hevents, List.flatMap_append, changed_append]
      exact hcycle

end Call

end ModelCache
