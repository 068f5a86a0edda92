import ModelCache.Proofs.Cache.Failure
import ModelCache.Proofs.History.Reuse
import ModelCache.Proofs.History.Versions

/-!
# A stored module is used again at most once

Nothing tells a cache that the record in the store is its own, and the wish for a rebuild is forgotten
as soon as the build starts. That a cache still never takes back what it was told to replace rests on
the store: whatever ends a build without a current set, and whatever makes a set stale, also makes the
record unusable. So once the first build was tried, or a rebuild was asked for, the next build finds
no record (`Call.Spends`), and this goes on for as long as the cache lives.

* **`Call.loadRecord_of_spends`** — after a call that spends the record, there is none for the next
  build.
* **`History.Spent`** — the invariant that ties a running cache to its store, and
  `History.Spent.next`, by which every move keeps it.
* **`History.reuses_once`** — only the first build of a cache publishes a stored module, and only if
  nothing was invalidated before; every later build that succeeds generates and compiles.
-/

namespace ModelCache

variable {σ : Type} {S : RecordStore σ}

namespace Call

/-! ## Calls after which the record is gone -/

/-- A call that spends the record of the store: it builds, or makes the record unusable. -/
def Spends (k : Call) : Prop := k.builds = true ∨ .recordCleared ∈ k.events

theorem spends_of_requestRebuild {k : Call} (h : k.request = .requestRebuild) : k.Spends := by
  refine .inr ?_
  unfold events served
  rw [h]
  exact List.mem_singleton_self _

/-- **What a call leaves for the next build.** A call that spends the record leaves none, unless it
leaves a current set, and then there is no next build before somebody makes the set stale. -/
theorem loadRecord_of_spends (hclear : S.Clears) {k : Call} (hspends : k.Spends)
    (hstate : k.after.state ≠ .valid) (store : σ) : S.loadRecord (S.run store k.events) = none := by
  unfold Spends at hspends
  have heffect := k.call_effect
  generalize k.after = after, k.events = events at heffect hspends hstate ⊢
  cases heffect with
  | idle hbuilds =>
    rcases hspends with hspends | hspends
    · rw [hbuilds] at hspends
      cases hspends
    · exact absurd hspends List.not_mem_nil
  | invalidated | rebuildRequested => exact hclear store
  | published => exact absurd rfl hstate
  | failed =>
    -- a failed build ends by making the record unusable
    rw [RecordStore.run_append]
    exact hclear _

/-- A call that does not spend the record changes nothing. -/
theorem unchanged_of_not_spends {k : Call} (h : ¬ k.Spends) : k.after = k.cache ∧ k.events = [] := by
  unfold Spends at h
  have heffect := k.call_effect
  generalize k.after = after, k.events = events at heffect h ⊢
  cases heffect with
  | idle => exact ⟨rfl, rfl⟩
  | invalidated | rebuildRequested => exact absurd (.inr (List.mem_singleton_self _)) h
  | published _ _ hbuilds | failed _ hbuilds => exact absurd (.inl hbuilds) h

/-- What a build takes from the store is there. -/
theorem Reuses.record_ne_none {k : Call} {m : Module} (h : k.Reuses m) : k.around.record ≠ none := by
  obtain ⟨_, _, record, _, hstored⟩ := h.stored
  rw [(Cache.of_stored?_eq_some hstored).1]
  exact Option.some_ne_none record

/-- **A build that finds no record and succeeds has generated and compiled.** -/
theorem regenerates_of_no_record {k : Call} (hbuilds : k.builds = true)
    (hrecord : k.around.record = none) {published : Digest × ModelSet}
    (hresult : k.outcome.result = .ok published) :
    .generated ∈ k.events ∧ ∃ unit, .compiled unit ∈ k.events := by
  have hdone : .generated ∈ k.outcome.events ∧ ∃ unit, .compiled unit ∈ k.outcome.events := by
    have hends := k.outcome_ends
    generalize k.outcome = o at hends hresult ⊢
    cases hends with
    | schemaMissing | companionsMissing | modelsRejected | generatorFailed | outputBlank | exhausted
    | rejected | reuseRejected | misshapen => cases hresult
    | reused _ _ record _ _ _ hstored =>
      rw [(Cache.of_stored?_eq_some hstored).1] at hrecord
      cases hrecord
    | built schema companions models source version => simp [Cache.compileEvents]
  obtain ⟨hgenerated, unit, hcompiled⟩ := hdone
  rcases events_of_builds hbuilds with hevents | ⟨message, hevents⟩
  all_goals
    rw [hevents]
    exact ⟨List.mem_append_left _ hgenerated, unit, List.mem_append_left _ hcompiled⟩

end Call

/-! ## Sessions -/

namespace Session

/-- No build of a session finds a record once the record was spent. -/
def FindsNone (s : Session) : Prop :=
  ∀ before k after, s.calls = before ++ k :: after → (∃ j ∈ before, j.Spends) → k.builds = true →
    k.around.record = none

/-- Only the first build of a session can publish a stored module. -/
structure ReusesOnce (s : Session) : Prop where
  /-- Before a stored module is published, nothing is built, no rebuild is asked for, and nothing is
  invalidated. -/
  first : ∀ before k after, s.calls = before ++ k :: after → ∀ m, k.Reuses m →
    ∀ j ∈ before, j.builds = false ∧ j.request ≠ .requestRebuild ∧ .recordCleared ∉ j.events
  /-- After a build was tried, or a rebuild was asked for, every build that succeeds has generated
  and compiled. -/
  regenerates : ∀ before k after, s.calls = before ++ k :: after →
    (∃ j ∈ before, j.builds = true ∨ j.request = .requestRebuild) → k.builds = true →
      ∀ published, k.outcome.result = .ok published →
        .generated ∈ k.events ∧ ∃ unit, .compiled unit ∈ k.events

theorem FindsNone.reusesOnce {s : Session} (h : s.FindsNone) : s.ReusesOnce where
  first before k after hcalls m hreuses j hj := by
    have hspent : ¬ j.Spends := fun hspends =>
      hreuses.record_ne_none (h before k after hcalls ⟨j, hj, hspends⟩ hreuses.builds)
    refine ⟨?_, fun hrequest => hspent (Call.spends_of_requestRebuild hrequest), fun hcleared =>
      hspent (.inr hcleared)⟩
    exact Bool.eq_false_iff.mpr fun hbuilds => hspent (.inl hbuilds)
  regenerates before k after hcalls hspent hbuilds published hresult := by
    obtain ⟨j, hj, hspends⟩ := hspent
    have hspends : j.Spends := hspends.elim .inl Call.spends_of_requestRebuild
    exact Call.regenerates_of_no_record hbuilds (h before k after hcalls ⟨j, hj, hspends⟩ hbuilds)
      hresult

end Session

/-! ## Histories -/

namespace History

/-- Once the record was spent by the cache that runs, the store has none, unless the cache has a
current set. -/
structure Spent (S : RecordStore σ) (h : History σ) : Prop where
  findsNone : ∀ s ∈ h.sessions, s.FindsNone
  in_store : ∀ s, h.running = some s → (∃ j ∈ s.calls, j.Spends) → s.cache.state ≠ .valid →
    S.loadRecord h.store = none

theorem begin_spent (store : σ) : Spent S (begin store) where
  findsNone _ hs := absurd hs List.not_mem_nil
  in_store _ hs := absurd hs.symm (Option.some_ne_none _)

theorem Spent.start {h : History σ} (hspent : Spent S h) (options : Options) :
    Spent S (h.next S (.start options)) := by
  refine ⟨fun s hs => ?_, fun s hs => ?_⟩
  · rcases List.mem_append.mp hs with hs | hs
    · exact hspent.findsNone s hs
    · -- the new session has no calls yet
      rw [List.mem_singleton.mp hs]
      intro before k after hcalls
      exact absurd hcalls.symm (List.append_ne_nil_of_right_ne_nil before (List.cons_ne_nil k after))
  · obtain rfl : h.opening S options = s := Option.some.inj hs
    rintro ⟨j, hj, _⟩
    exact absurd hj List.not_mem_nil

theorem Spent.call {h : History σ} (hclear : S.Clears) (hspent : Spent S h) (around : Surroundings)
    (request : Request) : Spent S (h.next S (.call around request)) := by
  cases hrunning : h.running with
  | none =>
    rw [next_call_of_none hrunning]
    exact hspent
  | some s =>
    have hstore := hspent.in_store s hrunning
    have hfinds := hspent.findsNone
    rw [sessions_of_running hrunning] at hfinds
    rw [next_call_of_some hrunning]
    -- what the call meets is the record of the store
    have hmeets : (h.meet S around).record = S.loadRecord h.store := rfl
    generalize h.meet S around = around at hmeets ⊢
    let k := s.call around request
    refine ⟨fun s' hs' => ?_, fun s' hs' hbefore hstate => ?_⟩
    · rcases List.mem_append.mp hs' with hs' | hs'
      · exact hfinds s' (List.mem_append_left _ hs')
      · rw [List.mem_singleton.mp hs']
        intro before k' after hcalls hbefore hbuilds
        rcases Session.split_concat hcalls with ⟨rfl, rfl⟩ | ⟨after', hcalls⟩
        · -- a call that builds has no current set, so the store has no record
          have hstate : s.cache.state ≠ .valid := by
            have hboth := (Bool.and_eq_true _ _).mp hbuilds
            exact of_decide_eq_true hboth.2
          exact hmeets.trans (hstore hbefore hstate)
        · exact hfinds s (by simp) before k' after' hcalls hbefore hbuilds
    · obtain rfl : s.next around request = s' := Option.some.inj hs'
      by_cases hspends : k.Spends
      · exact Call.loadRecord_of_spends hclear hspends hstate h.store
      · -- the call changes nothing, so the record was spent before
        obtain ⟨hafter, hevents⟩ := Call.unchanged_of_not_spends hspends
        obtain ⟨j, hj, hjspends⟩ := hbefore
        have hj : j ∈ s.calls := by
          rcases List.mem_append.mp hj with hj | hj
          · exact hj
          · rw [List.mem_singleton.mp hj] at hjspends
            exact absurd hjspends hspends
        have hsame : (s.next around request).cache = s.cache := hafter
        rw [hsame] at hstate
        show S.loadRecord (S.run h.store k.events) = none
        rw [hevents]
        exact hstore ⟨j, hj, hjspends⟩ hstate

theorem Spent.next {h : History σ} (hclear : S.Clears) (hspent : Spent S h) (m : Move) :
    Spent S (h.next S m) := by
  cases m with
  | start options => exact hspent.start options
  | call around request => exact hspent.call hclear around request

/-- **A stored module is used again at most once.** Whatever caches run one after another over a store
that can be cleared: each publishes a stored module in its first build only, and only if nothing was
invalidated and no rebuild was asked for until then. Every build that succeeds after another one, or
after a rebuild was asked for, has generated and compiled, however many builds failed in between. -/
theorem reuses_once (hclear : S.Clears) (store : σ) (moves : List Move) :
    ∀ s ∈ ((begin store).run S moves).sessions, s.ReusesOnce := by
  have hspent : Spent S ((begin store).run S moves) :=
    run_keeps (begin_spent store) (fun _ m hspent => hspent.next hclear m) moves
  exact fun s hs => (hspent.findsNone s hs).reusesOnce

/-! ## A rebuild that fails before it succeeds

The second cache of a history with two namespaces is told to build again, and cannot at first. -/

namespace Renaming

/-- The second cache once it has published what the first one made. -/
def settled : Session :=
  let h := (begin empty).run memory opening
  (h.opening memory { namespaceName := "B" }).next (h.meet memory (around (some built))) .ensure

/-- Somebody asks for a rebuild. -/
def asked : History Bench.Shelf := history.next memory (.call .fairWeather .requestRebuild)

def told : Session := settled.next (history.meet memory .fairWeather) .requestRebuild

/-- There is no schema to build from. -/
def failing : Call := told.call (asked.meet memory Session.withoutSchema) .ensure

def failed : History Bench.Shelf := asked.next memory (.call Session.withoutSchema .ensure)

/-- There is one again, and the stored module still can be loaded. -/
def retrying : Call :=
  (told.next (asked.meet memory Session.withoutSchema) .ensure).call
    (failed.meet memory (around (some built))) .ensure

theorem builds_failing : failing.builds = true := by
  -- whatever the state was, it is not `valid` once a rebuild was asked for
  have hstate : failing.cache.state ≠ .valid := Cache.state_requestRebuild second.after
  show (true && decide (failing.cache.state ≠ .valid)) = true
  rw [decide_eq_true hstate, Bool.and_self]

theorem after_failing :
    failing.after = failing.cache.fail failing.outcome (.ofSchema (.provider "out of reach")) :=
  Call.after_of_failed builds_failing rfl

/-- The failure has cleared the record. -/
theorem record_failed : memory.loadRecord failed.store = none := by
  show memory.loadRecord (memory.run asked.store failing.events) = none
  rw [Call.run_of_failed builds_failing rfl]
  exact Bench.Shelf.recordStore_clears .memory _

/-- No version but the first one has been heard of by then. -/
theorem issue_retrying :
    ∃ after, retrying.cache.versions.issue = (some ⟨2⟩, after) := by
  -- at its start the cache hears of the first version twice, from the record and from the unit
  have hunit : memory.loadUnit ((begin empty).run memory opening).store = some unit.text := by
    show memory.loadUnit (memory.run empty first.events) = _
    rw [events_first]
    rfl
  have hheader : BuildUnit.parseHeader unit.text = some (⟨1⟩, pages.digest sources) :=
    BuildUnit.parseHeader_assemble ..
  have hstart : second.cache.versions = (VersionCounter.fresh.observe ⟨1⟩).observe ⟨1⟩ := by
    show (Cache.start (memory.loadRecord _) (memory.loadUnit _)).versions = _
    rw [hunit, show memory.loadRecord _ = some record from record_second, Cache.start]
    dsimp only
    rw [Option.bind_some, hheader]
    rfl
  -- and twice more when it uses the stored module again, but the failing build issues none
  have hsecond : second.after.versions = (second.cache.versions.observe ⟨1⟩).observe ⟨1⟩ := by
    obtain ⟨set, -, houtcome⟩ := outcome_second
    rw [Call.versions_of_builds _ rfl, houtcome]
  have hretrying : retrying.cache.versions = second.after.versions := by
    show failing.after.versions = _
    rw [Call.versions_of_builds _ builds_failing]
    rfl
  rw [hretrying, hsecond, hstart]
  exact ⟨_, rfl⟩

/-- Up to the failure, only the first cache has compiled. -/
theorem compiled_failed : failed.compiled = [⟨1⟩] := by
  have hfirst : first.compiled = [⟨1⟩] := by
    rw [Call.compiled, events_first]
    rfl
  have hhistory : history.compiled = [⟨1⟩] := by
    show (first.compiled ++ []) ++ ((second.compiled ++ []) ++ []) = _
    rw [hfirst, compiled_second]
    rfl
  have hasked : asked.compiled = [⟨1⟩] := by
    rw [asked, compiled_call (s := settled) rfl, hhistory]
    rfl
  have hfailing : failing.compiled = [] := by
    rw [Call.compiled_of_builds builds_failing]
    rfl
  rw [failed, compiled_call (s := told) rfl, hasked]
  exact congrArg ([⟨1⟩] ++ ·) hfailing

/-- The build that succeeds in the end compiles: it is not forced, but there is no record. -/
theorem compiled_retrying : retrying.compiled = [⟨2⟩] := by
  have hforced : retrying.cache.forced = false := by
    show failing.after.forced = false
    rw [after_failing, Cache.forced_fail]
  have hbuilds : retrying.builds = true := by
    show (true && decide (failing.after.state ≠ .valid)) = true
    rw [after_failing, Cache.state_fail]
    rfl
  have hdrafts : Cache.Drafts retrying.around retrying.options retrying.cache.forced pages sources
      models "B page.rs Article Seo" :=
    ⟨⟨rfl, rfl⟩, Cache.stored?_of_no_record record_failed _, typeModels_pages, by decide +kernel,
      by decide +kernel⟩
  obtain ⟨after, hissue⟩ := issue_retrying
  rw [Call.compiled_of_builds hbuilds, Call.outcome, hdrafts.cycle_eq_of_set hissue rfl rfl]
  rfl

end Renaming

/-- The second of two caches publishes what the first one made. The rebuild that is asked for then
fails, but the next build does not go back to the stored module, which still can be loaded. -/
theorem reuses_once_before_failure :
    let moves := Renaming.moves ++
      [.call .fairWeather .requestRebuild, .call Session.withoutSchema .ensure,
        .call (Renaming.around (some Renaming.built)) .ensure]
    let h := (begin Renaming.empty).run Renaming.memory moves
    Renaming.second.Reuses Renaming.built ∧ h.compiled = [⟨1⟩, ⟨2⟩] ∧
      ∀ s ∈ h.sessions, s.ReusesOnce := by
  intro moves h
  have hclear : Renaming.memory.Clears := Bench.Shelf.recordStore_clears .memory
  refine ⟨Renaming.second_reuses, ?_, reuses_once hclear Renaming.empty moves⟩
  show (Renaming.failed.next Renaming.memory
    (.call (Renaming.around (some Renaming.built)) .ensure)).compiled = _
  rw [compiled_call rfl, Renaming.compiled_failed]
  exact congrArg ([⟨1⟩] ++ ·) Renaming.compiled_retrying

end History

end ModelCache
