import ModelCache.Proofs.Cache.Session

/-!
# Record stores

What a cache relies on when it keeps a record somewhere. The store may be memory or a directory;
saving may fail, and clearing may fail. What every store owes is little, and only about the unit.

That saving a record keeps the unit that is there is owed even if the saving fails halfway. A
directory pays this debt because the unit is written again with the same text, and because a write
that fails leaves the file as it was, which is an assumption about file systems (see `FileTree`). On a
disk where such a write cuts the file short, the unit can be lost and with it the law.

* **`RecordStore`** — a store, with three laws: a unit that was saved can be loaded, saving the
  record of the unit that is there keeps it, and so does clearing.
* **`RecordStore.run`** — the store after the events of a cache. Reports of failures do not go to
  the store.
* **`RecordStore.SavesUnits`** — no unit that is saved in the course of some events is lost.
* **`RecordStore.Clears`** — clearing succeeds, so that no record is left.
* **`RecordStore.loadUnit_cycle`** — after a cycle, the unit that it compiled can be loaded.
-/

namespace ModelCache

/-- Where a cache keeps its record. -/
structure RecordStore (σ : Type) where
  /-- The record, if there is a usable one. -/
  loadRecord : σ → Option ArtifactRecord
  /-- The last build unit. -/
  loadUnit : σ → Option String
  /-- Whether saving a unit succeeds, and the store after it. -/
  saveUnit : σ → String → Bool × σ
  /-- The store after saving a record, as far as that succeeds. -/
  saveRecord : σ → ArtifactRecord → σ
  /-- The store after making the record unusable, as far as that succeeds. -/
  clear : σ → σ
  loadUnit_saveUnit : ∀ s text,
    (saveUnit s text).1 = true → loadUnit (saveUnit s text).2 = some text
  loadUnit_saveRecord : ∀ s record,
    loadUnit s = some record.unitText → loadUnit (saveRecord s record) = some record.unitText
  loadUnit_clear : ∀ s text, loadUnit s = some text → loadUnit (clear s) = some text

namespace RecordStore

variable {σ : Type} (S : RecordStore σ)

/-- The store after an event. -/
def apply (s : σ) : Event → σ
  | .unitSaved text => (S.saveUnit s text).2
  | .recordSaved record => S.saveRecord s record
  | .recordCleared => S.clear s
  | .generated | .compiled _ | .reported _ | .reportCleared => s

/-- The store after some events. -/
def run (s : σ) (events : List Event) : σ := events.foldl S.apply s

/-- Whether every unit that is saved in the course of some events is saved without a failure. -/
def SavesUnits (s : σ) : List Event → Prop
  | [] => True
  | .unitSaved text :: rest =>
    (S.saveUnit s text).1 = true ∧ SavesUnits (S.saveUnit s text).2 rest
  | e :: rest => SavesUnits (S.apply s e) rest

/-- Whether no record is left after the store was cleared. -/
def Clears : Prop := ∀ s, S.loadRecord (S.clear s) = none

theorem run_cons (s : σ) (e : Event) (rest : List Event) :
    S.run s (e :: rest) = S.run (S.apply s e) rest := rfl

theorem run_append (s : σ) (before after : List Event) :
    S.run s (before ++ after) = S.run (S.run s before) after :=
  List.foldl_append

variable {S} in
theorem SavesUnits.of_append {s : σ} {before after : List Event}
    (h : S.SavesUnits s (before ++ after)) : S.SavesUnits s before := by
  induction before generalizing s with
  | nil => trivial
  | cons e rest ih =>
    cases e with
    | unitSaved text => exact ⟨h.1, ih h.2⟩
    | generated | compiled | recordSaved | recordCleared | reported | reportCleared =>
      exact ih (s := S.apply s _) h

theorem savesUnits_of_always (halways : ∀ s text, (S.saveUnit s text).1 = true) (s : σ)
    (events : List Event) : S.SavesUnits s events := by
  induction events generalizing s with
  | nil => trivial
  | cons e rest ih =>
    cases e with
    | unitSaved text => exact ⟨halways s text, ih _⟩
    | generated | compiled | recordSaved | recordCleared | reported | reportCleared => exact ih _

/-! ## A cycle and its store

Of everything that a cycle does at its store, only the saving of a unit bears on the unit that can be
loaded: a record that is saved afterwards carries that same unit. -/

open Cache (UnitEvents compileEvents compiledIn)

variable {versions after : VersionCounter} {events : List Event}

/-- A cycle that compiles nothing leaves the store alone. -/
theorem run_cycle_of_compiledIn (h : UnitEvents versions after events)
    (hnone : compiledIn events = []) (s : σ) : S.run s events = s := by
  cases h with
  | none generated => cases generated <;> rfl
  | compiled unit => cases hnone
  | saved unit digest companions source record => cases hnone

/-- The unit that a cycle compiles can be loaded afterwards, if it was saved at all. -/
theorem loadUnit_cycle (h : UnitEvents versions after events) {unit : BuildUnit}
    (hunit : .compiled unit ∈ events) {s : σ} (hsaved : (S.saveUnit s unit.text).1 = true) :
    S.loadUnit (S.run s events) = some unit.text := by
  cases h with
  | none generated => cases generated <;> simp at hunit
  | compiled compiled =>
    obtain rfl : unit = compiled := by simpa [compileEvents] using hunit
    exact S.loadUnit_saveUnit s unit.text hsaved
  | saved compiled digest companions source record _ _ hrecord =>
    obtain rfl : unit = compiled := by simpa [compileEvents] using hunit
    have hloaded := S.loadUnit_saveUnit s unit.text hsaved
    -- the record that is saved last carries this very unit
    have hkept := S.loadUnit_saveRecord (S.saveUnit s unit.text).2 record (by rw [hloaded, hrecord])
    rw [hrecord] at hkept
    exact hkept

/-- A unit that a cycle saves is saved without a failure if all are. -/
theorem SavesUnits.of_cycle {S : RecordStore σ} {s : σ} (hsaves : S.SavesUnits s events)
    (h : UnitEvents versions after events) {unit : BuildUnit} (hunit : .compiled unit ∈ events) :
    (S.saveUnit s unit.text).1 = true := by
  cases h with
  | none generated => cases generated <;> simp at hunit
  | compiled compiled =>
    obtain rfl : unit = compiled := by simpa [compileEvents] using hunit
    exact hsaves.1
  | saved compiled =>
    obtain rfl : unit = compiled := by simpa [compileEvents] using hunit
    exact hsaves.1

/-! ## A call and its store -/

/-- Clearing the record and reporting failures keep the unit. -/
theorem loadUnit_reported (S : RecordStore σ) {s : σ} {text message : String}
    (h : S.loadUnit s = some text) :
    S.loadUnit (S.run s [.recordCleared, .reported message]) = some text :=
  S.loadUnit_clear s text h

/-- The unit that a call compiles can be loaded afterwards, if no unit is lost. -/
theorem loadUnit_call_of_compiled {k : Call} {s : σ} (hsaves : S.SavesUnits s k.events)
    {unit : BuildUnit} (hbuilds : k.builds = true) (hunit : .compiled unit ∈ k.outcome.events) :
    S.loadUnit (S.run s k.events) = some unit.text := by
  have hcycle := k.outcome_ends.unitEvents
  rcases Call.events_of_builds hbuilds with hevents | ⟨message, hevents⟩
  all_goals
    rw [hevents] at hsaves ⊢
    have hloaded := S.loadUnit_cycle hcycle hunit (hsaves.of_append.of_cycle hcycle hunit)
    rw [run_append]
  · exact hloaded
  · exact S.loadUnit_reported hloaded

/-- A call that compiles nothing keeps the unit that can be loaded. -/
theorem loadUnit_call_of_not_compiled {k : Call} {s : σ} {text : String}
    (hnone : compiledIn k.events = []) (h : S.loadUnit s = some text) :
    S.loadUnit (S.run s k.events) = some text := by
  cases hbuilds : k.builds with
  | false =>
    rcases (Call.kept_of_not_builds hbuilds).2 with hevents | hevents <;> rw [hevents]
    · exact h
    · exact S.loadUnit_clear s text h
  | true =>
    have hquiet : compiledIn k.outcome.events = [] :=
      (Call.compiled_of_builds hbuilds).symm.trans hnone
    have hcycle := S.run_cycle_of_compiledIn k.outcome_ends.unitEvents hquiet s
    rcases Call.events_of_builds hbuilds with hevents | ⟨message, hevents⟩
    all_goals rw [hevents, run_append, hcycle]
    · exact h
    · exact S.loadUnit_reported h

end RecordStore

end ModelCache
