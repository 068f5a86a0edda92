import ModelCache.Proofs.BuildUnit
import ModelCache.Proofs.History
import ModelCache.Proofs.Store.Shelf

/-!
# Versions across restarts

The version counter dies with its cache. What keeps the next cache from issuing the same versions
again is the unit in the store: it is saved before it is compiled, its header names its version, and
nothing but the next unit takes its place. So two anchors hold the versions of a history:

* **`History.Anchored.in_store`** — no version that was compiled is greater than the one in the
  header of the stored unit.
* **`History.Anchored.in_cache`** — nor is any greater than what the counter of the running cache
  knows to be in use.

A start takes the second anchor from the first, a build renews both, and any other call leaves them
where they are (`Anchored.next`). With what each session owes to the versions it knows of
(`Session.Numbers`) this gives **`History.numbers_builds`**.
-/

namespace ModelCache

/-- No step of the counter makes it forget what it knew. -/
theorem Cache.VersionStep.inUse_le {c after : VersionCounter} {learned compiled : List BuildVersion}
    (h : VersionStep c learned compiled after) (hsound : c.Sound) : c.inUse ≤ after.inUse := by
  cases h with
  | still => exact UInt64.le_refl _
  | learned v w =>
    exact ((c.notAfter_observe v).trans (VersionCounter.notAfter_observe _ w)).inUse_le
  | issued v after hissue =>
    have hafter := (VersionCounter.notAfter_issue hsound).inUse_le
    rwa [hissue] at hafter

/-- A step compiles nothing or a single unit. -/
theorem Cache.VersionStep.eq_singleton {c after : VersionCounter}
    {learned compiled : List BuildVersion} (h : VersionStep c learned compiled after)
    {v : BuildVersion} (hv : v ∈ compiled) : compiled = [v] := by
  cases h with
  | still | learned => exact absurd hv List.not_mem_nil
  | issued w => rw [List.mem_singleton.mp hv]

/-- What a call has compiled can be told from the unit in the store, if no unit is lost. -/
theorem Call.header_of_compiled {σ : Type} {S : RecordStore σ} {k : Call} {s : σ}
    (hsaves : S.SavesUnits s k.events) (hissuable : ∀ v ∈ k.compiled, v.isIssuable = true)
    {v : BuildVersion} (hv : v ∈ k.compiled) :
    ∃ text digest, S.loadUnit (S.run s k.events) = some text ∧
      BuildUnit.parseHeader text = some (v, digest) ∧ k.compiled = [v] := by
  cases hbuilds : k.builds with
  | false =>
    rw [compiled_of_not_builds hbuilds] at hv
    exact absurd hv List.not_mem_nil
  | true =>
    have hcompiled := hv
    rw [compiled_of_builds hbuilds, Cache.compiledIn, List.mem_filterMap] at hcompiled
    obtain ⟨e, he, heq⟩ := hcompiled
    cases e with
    | generated | unitSaved | recordSaved | recordCleared | reported | reportCleared => cases heq
    | compiled unit =>
      cases heq
      obtain ⟨digest, companions, source, hassemble⟩ := k.outcome_ends.unitEvents.assembled he
      refine ⟨unit.text, digest, S.loadUnit_call_of_compiled hsaves hbuilds he, ?_, ?_⟩
      · rw [hassemble, BuildUnit.parseHeader_assemble, if_pos]
        · rfl
        · exact hissuable _ hv
      · exact k.versionStep.eq_singleton hv

/-- The versions compiled in a session, oldest first. -/
def Session.compiled (s : Session) : List BuildVersion := s.calls.flatMap Call.compiled

theorem Session.compiled_next (s : Session) (around : Surroundings) (request : Request) :
    (s.next around request).compiled = s.compiled ++ (s.call around request).compiled := by
  unfold Session.compiled Session.next
  rw [List.flatMap_append, List.flatMap_singleton]

namespace History

variable {σ : Type} {S : RecordStore σ}

/-- The versions compiled in a history, oldest first. -/
def compiled (h : History σ) : List BuildVersion := h.sessions.flatMap Session.compiled

theorem compiled_start (h : History σ) (options : Options) :
    (h.next S (.start options)).compiled = h.compiled := by
  show (h.sessions ++ [h.opening S options]).flatMap Session.compiled = _
  rw [List.flatMap_append, List.flatMap_singleton]
  exact List.append_nil _

theorem compiled_call {h : History σ} {s : Session} (hrunning : h.running = some s)
    (around : Surroundings) (request : Request) :
    (h.next S (.call around request)).compiled =
      h.compiled ++ (s.call (h.meet S around) request).compiled := by
  rw [next_call_of_some hrunning]
  unfold compiled
  rw [sessions_of_running hrunning, List.flatMap_append, List.flatMap_singleton, List.append_assoc,
    ← s.compiled_next]
  show (h.ended ++ [_]).flatMap Session.compiled = _
  rw [List.flatMap_append, List.flatMap_singleton]

/-! ## The anchors -/

/-- The versions of a history go up, and both the store and the running cache know the last one. -/
structure Anchored (S : RecordStore σ) (h : History σ) : Prop where
  increasing : h.compiled.Pairwise fun v w => v.number < w.number
  in_store : ∀ v ∈ h.compiled, ∃ text w digest, S.loadUnit h.store = some text ∧
    BuildUnit.parseHeader text = some (w, digest) ∧ v.number ≤ w.number
  in_cache : ∀ s, h.running = some s → ∀ v ∈ h.compiled, v.number ≤ s.cache.versions.inUse
  numbers : ∀ s, h.running = some s → s.Numbers

theorem begin_anchored (store : σ) : Anchored S (begin store) where
  increasing := .nil
  in_store _ hv := absurd hv List.not_mem_nil
  in_cache _ hs := absurd hs.symm (Option.some_ne_none _)
  numbers _ hs := absurd hs.symm (Option.some_ne_none _)

/-- A cache that is started takes its anchor from the store. -/
theorem Anchored.start {h : History σ} (hanchored : Anchored S h) (options : Options) :
    Anchored S (h.next S (.start options)) := by
  refine ⟨?_, ?_, fun s hs v hv => ?_, fun s hs => ?_⟩
  · rw [compiled_start]
    exact hanchored.increasing
  · rw [compiled_start]
    exact hanchored.in_store
  · rw [compiled_start] at hv
    obtain ⟨text, w, digest, hload, hheader, hle⟩ := hanchored.in_store v hv
    obtain rfl : h.opening S options = s := Option.some.inj hs
    have hnumbers := Session.start_numbers options (S.loadRecord h.store) (S.loadUnit h.store)
    refine UInt64.le_trans hle (hnumbers.tracks.le_inUse w ?_ ?_)
    · -- the header is among what the session has heard at its start
      refine List.mem_append_left _ (List.mem_append_right _ ?_)
      show w ∈ (((S.loadUnit h.store).bind BuildUnit.parseHeader).map Prod.fst).toList
      rw [hload, Option.bind_some, hheader]
      exact List.mem_singleton_self w
    · exact BuildUnit.isIssuable_of_parseHeader hheader
  · obtain rfl : h.opening S options = s := Option.some.inj hs
    exact Session.start_numbers options _ _

/-- A call renews the anchors if it builds, and leaves them where they are if it does not. -/
theorem Anchored.call {h : History σ} (hanchored : Anchored S h) (around : Surroundings)
    (request : Request) (hsaves : S.SavesUnits h.store (h.events S (.call around request))) :
    Anchored S (h.next S (.call around request)) := by
  cases hrunning : h.running with
  | none =>
    rw [next_call_of_none hrunning]
    exact hanchored
  | some s =>
    have hnumbers := hanchored.numbers s hrunning
    rw [events, hrunning] at hsaves
    dsimp only at hsaves
    have hcompiled := compiled_call (S := S) hrunning around request
    rw [next_call_of_some hrunning] at hcompiled ⊢
    generalize h.meet S around = around at hsaves hcompiled ⊢
    have hstep := (s.call around request).versionStep
    have habove := hstep.above hnumbers.tracks
    -- whatever is compiled now is above all that the cache knows, and so above all before
    have hissuable : ∀ v ∈ (s.call around request).compiled, v.isIssuable = true :=
      fun v hv => (habove v hv).1
    have hpairwise : (s.call around request).compiled.Pairwise fun v w => v.number < w.number := by
      cases hnew : (s.call around request).compiled with
      | nil => exact .nil
      | cons w rest =>
        have hw : w ∈ (s.call around request).compiled := by rw [hnew]; exact List.mem_cons_self
        rw [← hnew, hstep.eq_singleton hw]
        exact List.pairwise_singleton _ w
    refine ⟨?_, ?_, fun s' hs' v hv => ?_, fun s' hs' => ?_⟩
    · -- over the whole history
      rw [hcompiled, List.pairwise_append]
      refine ⟨hanchored.increasing, hpairwise, fun v hv w hw => ?_⟩
      exact UInt64.lt_of_le_of_lt (hanchored.in_cache s hrunning v hv) (habove w hw).2.1
    · -- in the store: the unit stays unless another one is compiled, which then is there
      intro v hv
      rw [hcompiled] at hv
      cases hnew : (s.call around request).compiled with
      | nil =>
        rw [hnew, List.append_nil] at hv
        obtain ⟨text, w, digest, hload, hheader, hle⟩ := hanchored.in_store v hv
        exact ⟨text, w, digest, S.loadUnit_call_of_not_compiled hnew hload, hheader, hle⟩
      | cons w rest =>
        have hw : w ∈ (s.call around request).compiled := by rw [hnew]; exact List.mem_cons_self
        obtain ⟨text, digest, hload, hheader, honly⟩ := Call.header_of_compiled hsaves hissuable hw
        refine ⟨text, w, digest, hload, hheader, ?_⟩
        rw [honly] at hv
        rcases List.mem_append.mp hv with hv | hv
        · exact UInt64.le_of_lt
            (UInt64.lt_of_le_of_lt (hanchored.in_cache s hrunning v hv) (habove w hw).2.1)
        · rw [List.mem_singleton.mp hv]
          exact UInt64.le_refl _
    · -- in the cache: its counter tracks what it has compiled
      obtain rfl : s.next around request = s' := Option.some.inj hs'
      rw [hcompiled] at hv
      rcases List.mem_append.mp hv with hv | hv
      · exact UInt64.le_trans (hanchored.in_cache s hrunning v hv)
          (hstep.inUse_le hnumbers.tracks.sound)
      · refine (hstep.tracks hnumbers.tracks).le_inUse v ?_ (hissuable v hv)
        exact List.mem_append_right _ (List.mem_append_right _ hv)
    · obtain rfl : s.next around request = s' := Option.some.inj hs'
      exact hnumbers.next around request

theorem Anchored.next {h : History σ} (hanchored : Anchored S h) (m : Move)
    (hsaves : S.SavesUnits h.store (h.events S m)) : Anchored S (h.next S m) := by
  cases m with
  | start options => exact hanchored.start options
  | call around request => exact hanchored.call around request hsaves

/-! ## Every history -/

/-- **No version is ever used again.** Over one store in which no unit is lost, whatever caches run
one after another and whatever their calls meet: the versions of the units that are compiled go up
over the whole history, none of them is zero or the greatest word, and every call of every session
numbers its builds after all that the session knew to be used, as `Call.Numbers` lays down.

The store may fail to save a record and may fail to clear it. What it must not do is lose the unit over
that (`RecordStore.loadUnit_saveRecord`): in a directory, a write that fails is assumed to leave the
file as it was. -/
theorem numbers_builds (S : RecordStore σ) (store : σ) (moves : List Move)
    (hsaves : (begin store).SavesUnits S moves) :
    let h := (begin store).run S moves
    (h.compiled.Pairwise fun v w => v.number < w.number) ∧
      (∀ v ∈ h.compiled, v.number ≠ 0 ∧ v.number ≠ BuildVersion.maxWord) ∧
      ∀ s ∈ h.sessions, ∀ before k after, s.calls = before ++ k :: after →
        k.Numbers (s.usedBefore before) := by
  intro h
  have hanchored : Anchored S h :=
    run_induction (begin_anchored store) (fun _ m hsaved hanchored => hanchored.next m hsaved) hsaves
  have hnumbers : ∀ s ∈ h.sessions, s.Numbers := fun s hs => by
    obtain ⟨options, record, unitText, requests, rfl⟩ := run_sessions store moves s hs
    exact Session.run_numbers options record unitText requests
  refine ⟨hanchored.increasing, fun v hv => ?_, fun s hs => (hnumbers s hs).calls⟩
  obtain ⟨s, hs, hv⟩ := List.mem_flatMap.mp hv
  obtain ⟨k, hk, hv⟩ := List.mem_flatMap.mp hv
  obtain ⟨before, after, hcalls⟩ := List.append_of_mem hk
  exact (BuildVersion.isIssuable_iff v).mp (((hnumbers s hs).calls before k after hcalls).above v hv).1

/-- Two caches that run one after another over a store in memory: the second one, which was asked for
a rebuild, goes on where the first one stopped. -/
theorem numbers_builds_in_memory :
    let moves := [.start {}, .call .fairWeather .ensure, .start {},
      .call .fairWeather .requestRebuild, .call .fairWeather .ensure]
    let S := Bench.Shelf.recordStore .memory
    let h := (begin ⟨.empty, none, .empty⟩).run S moves
    h.compiled = [⟨1⟩, ⟨2⟩] ∧ (h.compiled.Pairwise fun v w => v.number < w.number) := by
  intro moves S h
  have hsaves : (begin ⟨.empty, none, .empty⟩).SavesUnits S moves :=
    savesUnits_of_always (fun _ _ => rfl) _ moves
  exact ⟨by decide +kernel, (numbers_builds S ⟨.empty, none, .empty⟩ moves hsaves).1⟩

end History

end ModelCache
