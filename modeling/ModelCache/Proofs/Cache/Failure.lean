import ModelCache.Proofs.Cache.Coherent
import ModelCache.Proofs.Store.Shelf

/-!
# A failed build harms nobody

A build can fail in many places, and what it has done by then differs: it may have taken a
generation, learned of versions or issued one, saved a unit and had it compiled. What is left of it
is the same every time.

* **`Call.Withstood`** — what is left of a build that failed: readers have what they had, nothing is
  current, the failure is on record, and the store keeps the last unit but no record.
* **`Session.builds_of_empty`** — as long as nobody asks for a set, an empty cache stays empty, so
  the next one who asks starts a build of their own.
* **`Session.withstands_failure`** — every failed build in every session is withstood.
-/

namespace ModelCache

variable {σ : Type} {S : RecordStore σ}

/-! ## What is left of a failed build -/

namespace Call

/-- What is left of a call `k` whose build failed with `e`, over a store `S` that was `s` before. -/
structure Withstood (k : Call) (e : BuildError) (S : RecordStore σ) (s : σ) : Prop where
  /-- A set that came from a module stays published. -/
  published_of_module : k.cache.published.module.isSome = true →
    k.after.published = k.cache.published
  /-- A set without a module gives way to an empty one of a greater generation. -/
  published_of_no_module : k.cache.published.module = none → ∃ generation,
    k.after.published = .empty generation ∧ k.cache.published.generation < generation
  state_eq : k.after.state = .empty
  digest_eq : k.after.digest = none
  lastError_eq : k.after.lastError = some e.describe
  /-- The failure is reported, after everything else. -/
  reported : k.events.getLast? = some (.reported e.describe)
  /-- The version counter does not move back. -/
  versions : k.cache.versions.NotAfter k.after.versions
  /-- The store has no record any more. -/
  record : S.loadRecord (S.run s k.events) = none
  /-- If nothing was compiled, the unit in the store is the one that was there. -/
  unit_of_not_compiled : Cache.compiledIn k.events = [] →
    ∀ text, S.loadUnit s = some text → S.loadUnit (S.run s k.events) = some text
  /-- The unit that was compiled is in the store, if it was saved at all. -/
  unit_of_compiled : ∀ unit, .compiled unit ∈ k.events → (S.saveUnit s unit.text).1 = true →
    S.loadUnit (S.run s k.events) = some unit.text
  /-- Who asked for the current set is told of the failure. -/
  ensure_eq : (k.cache.ensure k.around k.options).1 = .error e
  /-- Who asked for some set gets the published one. -/
  current_eq : (k.cache.current k.around k.options).1 = k.after.published

variable {k : Call} {e : BuildError}

theorem served_of_failed (hbuilds : k.builds = true) (hfail : k.outcome.result = .error e) :
    k.cache.ensure k.around k.options =
      (.error e, k.cache.fail k.outcome e,
        k.outcome.events ++ [.recordCleared, .reported e.describe]) := by
  rw [ensure_of_builds hbuilds, hfail]

theorem after_of_failed (hbuilds : k.builds = true) (hfail : k.outcome.result = .error e) :
    k.after = k.cache.fail k.outcome e := by
  have hwants : k.request.wantsSet = true := ((Bool.and_eq_true _ _).mp hbuilds).1
  rw [after, served_eq_ensure hwants, served_of_failed hbuilds hfail]

theorem events_of_failed (hbuilds : k.builds = true) (hfail : k.outcome.result = .error e) :
    k.events = k.outcome.events ++ [.recordCleared, .reported e.describe] := by
  have hwants : k.request.wantsSet = true := ((Bool.and_eq_true _ _).mp hbuilds).1
  rw [events, served_eq_ensure hwants, served_of_failed hbuilds hfail]

/-- The store after a failed build is the one that its cycle left, cleared. -/
theorem run_of_failed (hbuilds : k.builds = true) (hfail : k.outcome.result = .error e)
    (S : RecordStore σ) (s : σ) : S.run s k.events = S.clear (S.run s k.outcome.events) := by
  rw [events_of_failed hbuilds hfail, RecordStore.run_append]
  rfl

/-- **What is left of a failed build**, wherever in its cycle it failed. -/
theorem withstood (hclear : S.Clears) (hsound : k.cache.versions.Sound)
    (hgeneration : k.cache.published.generation ≤ k.cache.lastGeneration)
    (hbuilds : k.builds = true) (hfail : k.outcome.result = .error e) (s : σ) :
    k.Withstood e S s := by
  have hafter := after_of_failed hbuilds hfail
  have hrun := run_of_failed hbuilds hfail S s
  have hends := k.outcome_ends
  refine
    { published_of_module := fun hmodule => ?_
      published_of_no_module := fun hmodule => ?_
      state_eq := ?_
      digest_eq := ?_
      lastError_eq := ?_
      reported := ?_
      versions := ?_
      record := ?_
      unit_of_not_compiled := fun hnone text htext => ?_
      unit_of_compiled := fun unit hunit hsaved => ?_
      ensure_eq := ?_
      current_eq := ?_ }
  · rw [hafter, Cache.published_fail_of_module e hmodule]
  · refine ⟨k.outcome.generation + 1, ?_, ?_⟩
    · rw [hafter, Cache.published_fail_of_no_module e hmodule]
    · exact Nat.lt_succ_of_le (Nat.le_trans hgeneration hends.generation_le)
  · rw [hafter, Cache.state_fail]
  · rw [hafter, Cache.digest_fail]
  · rw [hafter, Cache.lastError_fail]
  · rw [events_of_failed hbuilds hfail, List.getLast?_append]
    rfl
  · rw [hafter, Cache.versions_fail]
    exact hends.notAfter hsound
  · -- clearing comes after everything that the cycle did
    rw [hrun]
    exact hclear _
  · have hquiet : Cache.compiledIn k.outcome.events = [] :=
      (compiled_of_builds hbuilds).symm.trans hnone
    rw [hrun, S.run_cycle_of_compiledIn hends.unitEvents hquiet]
    exact S.loadUnit_clear s text htext
  · have hcycle := S.loadUnit_cycle hends.unitEvents (mem_outcome_of_compiled hunit) hsaved
    rw [hrun]
    exact S.loadUnit_clear _ _ hcycle
  · rw [served_of_failed hbuilds hfail]
  · rw [hafter, Cache.current, served_of_failed hbuilds hfail]

end Call

/-! ## The next reader -/

namespace Session

/-- As long as nobody asks for a set, a cache without a current one stays so. -/
theorem state_run_of_not_wanted {s : Session} (hstate : s.cache.state = .empty)
    {requests : List (Surroundings × Request)} (hquiet : ∀ r ∈ requests, r.2.wantsSet = false) :
    (s.run requests).cache.state = .empty := by
  induction requests generalizing s with
  | nil => exact hstate
  | cons first rest ih =>
    obtain ⟨around, request⟩ := first
    -- who does not ask for a set does not start a build
    have hbuilds : (s.call around request).builds = false := by
      show (request.wantsSet && _) = false
      rw [hquiet (around, request) List.mem_cons_self, Bool.false_and]
    exact ih ((Call.kept_of_not_builds hbuilds).1.empty_iff.mpr hstate)
      fun r hr => hquiet r (List.mem_cons_of_mem _ hr)

/-- Who asks an empty cache for the current set starts a build, and is answered with what comes of
that very build. -/
theorem builds_of_empty {s : Session} (hstate : s.cache.state = .empty) (around : Surroundings) :
    (s.call around .ensure).builds = true ∧
      (s.cache.ensure around s.options).1 =
        (s.call around .ensure).outcome.result.map Prod.snd := by
  have hbuilds : (s.call around .ensure).builds = true := by
    show (true && decide (s.cache.state ≠ .valid)) = true
    rw [hstate]
    rfl
  refine ⟨hbuilds, ?_⟩
  have hserved : s.cache.ensure around s.options = _ := Call.ensure_of_builds hbuilds
  rw [hserved]
  cases (s.call around .ensure).outcome.result <;> rfl

/-! ## Every session -/

/-- **No failed build harms what is served.** Whatever a session has been through, and wherever in
its cycle a build fails, the failure is withstood; and after any calls that do not ask for a set, the
next one who asks for it starts a build of their own and is answered with what comes of that. -/
theorem withstands_failure (hclear : S.Clears) (options : Options) (record : Option ArtifactRecord)
    (unitText : Option String) (requests : List (Surroundings × Request)) (around : Surroundings)
    (request : Request) (e : BuildError) (store : σ) :
    let s := (start options record unitText).run requests
    let k := s.call around request
    k.builds = true → k.outcome.result = .error e →
      k.Withstood e S store ∧
        ∀ between around', (∀ r ∈ between, r.2.wantsSet = false) →
          let later := (s.next around request).run between
          (later.call around' .ensure).builds = true ∧
            (later.cache.ensure around' later.options).1 =
              (later.call around' .ensure).outcome.result.map Prod.snd := by
  intro s k hbuilds hfail
  have hcoherent : s.Coherent := run_coherent options record unitText requests
  have hsound : s.cache.versions.Sound := versions_sound options record unitText requests
  have hwithstood : k.Withstood e S store :=
    Call.withstood hclear hsound hcoherent.generation_le hbuilds hfail store
  refine ⟨hwithstood, fun between around' hquiet => ?_⟩
  exact builds_of_empty (state_run_of_not_wanted hwithstood.state_eq hquiet) around'

/-- Surroundings in which there is no schema. -/
def withoutSchema : Surroundings :=
  { Surroundings.fairWeather with schema := .error (.provider "out of reach") }

/-- A build that succeeded, a rebuild that is asked for, and a build that fails: what the first one
published is still there. -/
theorem withstands_failure_after_success :
    let s := (start {} none none).run [(.fairWeather, .ensure), (.fairWeather, .requestRebuild)]
    let k := s.call withoutSchema .ensure
    let e := BuildError.ofSchema (.provider "out of reach")
    k.cache.published.module.isSome = true ∧
      k.Withstood e (Bench.Shelf.recordStore .memory) ⟨.empty, none, .empty⟩ := by
  intro s k e
  have hbuilds : k.builds = true := by decide +kernel
  have hfail : k.outcome.result = .error e := rfl
  have hwithstood := withstands_failure (Bench.Shelf.recordStore_clears .memory) {} none none
    [(.fairWeather, .ensure), (.fairWeather, .requestRebuild)] withoutSchema .ensure e
    ⟨.empty, none, .empty⟩ hbuilds hfail
  exact ⟨by decide +kernel, hwithstood.1⟩

end Session

end ModelCache
