import ModelCache.Bench.Shelf
import ModelCache.Proofs.Cache.Session

/-!
# What always holds of a cache

A cache keeps its state, its published set, the digest, the last failure and the last generation
apart from each other, and each way that a call can go writes to some of them. That they go together
all the same is `Session.Coherent`, and every session has it:

* **`messageAfter`** — what a reporter in memory holds after some events.
* **`Cache.PublishedBy`** — the cache holds what a given build published.
* **`Session.Coherent.next`** — a call keeps a session coherent, by the five effects of a call.
* **`Session.run_coherent`** — the invariant, for every sequence of calls and whatever they meet.
-/

namespace ModelCache

open Bench (Shelf StoreSite)

/-! ## What reaches a reporter

Only the end of a build speaks to the reporter of failures, and what it says takes the place of
whatever was there before. -/

/-- Whether an event is meant for the reporter of failures. -/
def Event.isReport : Event → Bool
  | .reported _ | .reportCleared => true
  | .generated | .unitSaved _ | .compiled _ | .recordSaved _ | .recordCleared => false

/-- The message that a reporter in memory holds after some events, if it held none before. -/
def messageAfter (site : StoreSite) (parts : Parts) (files : FileTree) (events : List Event) :
    Option String :=
  (events.foldl (Shelf.apply site .memory) ⟨parts, none, files⟩).reported .memory

theorem message_apply (site : StoreSite) (shelf : Shelf) {e : Event} (he : e.isReport = false) :
    (shelf.apply site .memory e).message = shelf.message := by
  cases e with
  | reported | reportCleared => cases he
  | generated | compiled => rfl
  | unitSaved | recordSaved | recordCleared => cases site <;> rfl

theorem message_foldl (site : StoreSite) (shelf : Shelf) {events : List Event}
    (h : ∀ e ∈ events, e.isReport = false) :
    (events.foldl (Shelf.apply site .memory) shelf).message = shelf.message := by
  induction events generalizing shelf with
  | nil => rfl
  | cons e rest ih =>
    rw [List.foldl_cons, ih _ fun e' he' => h e' (List.mem_cons_of_mem e he')]
    exact message_apply site shelf (h e List.mem_cons_self)

/-- What is not meant for the reporter leaves it with what it has. -/
theorem messageAfter_append (site : StoreSite) (parts : Parts) (files : FileTree)
    (before : List Event) {events : List Event} (h : ∀ e ∈ events, e.isReport = false) :
    messageAfter site parts files (before ++ events) = messageAfter site parts files before := by
  unfold messageAfter
  rw [List.foldl_append]
  exact message_foldl site _ h

theorem messageAfter_reported (site : StoreSite) (parts : Parts) (files : FileTree)
    (before : List Event) (message : String) :
    messageAfter site parts files (before ++ [.reported message]) = some message := by
  unfold messageAfter
  rw [List.foldl_append]
  rfl

theorem messageAfter_reportCleared (site : StoreSite) (parts : Parts) (files : FileTree)
    (before : List Event) : messageAfter site parts files (before ++ [.reportCleared]) = none := by
  unfold messageAfter
  rw [List.foldl_append]
  rfl

/-! ## The invariant -/

/-- The cache holds what the build `k` published: a set with a module, and the digest of the
companion sources and the schema which that very build read. -/
structure Cache.PublishedBy (c : Cache) (k : Call) : Prop where
  result_eq : ∃ digest, k.outcome.result = .ok (digest, c.published) ∧ c.digest = some digest
  reads : ∃ schema companions,
    Cache.Reads k.around schema companions ∧ c.digest = some (schema.digest companions)
  module_isSome : c.published.module.isSome = true
  lastError_eq : c.lastError = none

namespace Session

/-- Everything that a session did outside, oldest first. -/
def events (s : Session) : List Event := s.calls.flatMap Call.events

/-- Why the last build of a session failed, if it did. -/
def lastFailure? (s : Session) : Option BuildError :=
  s.lastBuild?.bind fun k =>
    match k.outcome.result with
    | .error e => some e
    | .ok _ => none

/-- What holds of a session at any time. -/
structure Coherent (s : Session) : Prop where
  /-- Unless the cache is empty, it holds what its last build published. -/
  published : s.cache.state ≠ .empty → ∃ k, s.lastBuild? = some k ∧ s.cache.PublishedBy k
  /-- An empty cache has no digest. -/
  digest_of_empty : s.cache.state = .empty → s.cache.digest = none
  /-- The cache remembers a failure exactly if its last build failed, namely that one. -/
  lastError_eq : s.cache.lastError = s.lastFailure?.map BuildError.describe
  /-- The generation of the published set has been given out. -/
  generation_le : s.cache.published.generation ≤ s.cache.lastGeneration
  /-- A reporter of the session's own that started with nothing holds what the cache remembers. -/
  reported_eq : ∀ site parts files, messageAfter site parts files s.events = s.cache.lastError

theorem events_next (s : Session) (around : Surroundings) (request : Request) :
    (s.next around request).events = s.events ++ (s.call around request).events := by
  unfold events next
  rw [List.flatMap_append, List.flatMap_singleton]

/-- A session starts out coherent: nothing was published and nothing failed. -/
theorem start_coherent (options : Options) (record : Option ArtifactRecord)
    (unitText : Option String) : (start options record unitText).Coherent where
  published hstate := absurd rfl hstate
  digest_of_empty _ := rfl
  lastError_eq := rfl
  generation_le := Nat.le_refl 0
  reported_eq _ _ _ := rfl

variable {s : Session} {around : Surroundings} {request : Request}

/-- A call that builds nothing keeps the session coherent, since it keeps what the session was
coherent about. -/
theorem Coherent.next_of_not_builds (h : s.Coherent)
    (hbuilds : (s.call around request).builds = false) : (s.next around request).Coherent := by
  obtain ⟨hkept, hevents⟩ := Call.kept_of_not_builds hbuilds
  have hlast : (s.next around request).lastBuild? = s.lastBuild? := by
    rw [lastBuild?_next, hbuilds]
    rfl
  refine ⟨fun hstate => ?_, fun hstate => ?_, ?_, ?_, fun site parts files => ?_⟩
  · obtain ⟨k, hk, hpublished⟩ := h.published fun hempty => hstate (hkept.empty_iff.mpr hempty)
    refine ⟨k, hlast.trans hk, ?_⟩
    exact ⟨hkept.published_eq ▸ hkept.digest_eq ▸ hpublished.result_eq,
      hkept.digest_eq ▸ hpublished.reads, hkept.published_eq ▸ hpublished.module_isSome,
      hkept.lastError_eq.trans hpublished.lastError_eq⟩
  · exact hkept.digest_eq.trans (h.digest_of_empty (hkept.empty_iff.mp hstate))
  · rw [lastFailure?, hlast]
    exact hkept.lastError_eq.trans h.lastError_eq
  · exact hkept.published_eq ▸ hkept.lastGeneration_eq ▸ h.generation_le
  · rw [events_next, messageAfter_append, h.reported_eq]
    · exact hkept.lastError_eq.symm
    · rcases hevents with hevents | hevents <;> simp [hevents, Event.isReport]

/-- **A call keeps a session coherent.** -/
theorem Coherent.next (h : s.Coherent) (around : Surroundings) (request : Request) :
    (s.next around request).Coherent := by
  cases hbuilds : (s.call around request).builds with
  | false => exact h.next_of_not_builds hbuilds
  | true =>
    have hlast : (s.next around request).lastBuild? = some (s.call around request) := by
      rw [lastBuild?_next, hbuilds]
      rfl
    have hevents := s.events_next around request
    have heffect := (s.call around request).call_effect
    generalize hafter : (s.call around request).after = after at heffect
    generalize hdone : (s.call around request).events = done at heffect hevents
    have hcache : (s.next around request).cache = after := hafter
    cases heffect with
    | idle hnot | invalidated hnot | rebuildRequested hnot => rw [hbuilds] at hnot; cases hnot
    | published digest set _ hresult =>
      -- this build is the last one now, and the cache holds what it published
      obtain ⟨⟨schema, companions, hreads, rfl⟩, hmodule, hgeneration, _⟩ :=
        (s.call around request).outcome_ends.ok hresult
      refine ⟨fun _ => ⟨_, hlast, ?_⟩, fun hstate => ?_, ?_, ?_, fun site parts files => ?_⟩
      · rw [hcache]
        exact ⟨⟨_, hresult, rfl⟩, ⟨schema, companions, hreads, rfl⟩, hmodule, rfl⟩
      · rw [hcache] at hstate
        cases hstate
      · rw [hcache, lastFailure?, hlast, Option.bind_some, hresult]
        rfl
      · rw [hcache]
        exact Nat.le_of_eq hgeneration
      · rw [hevents, hcache, ← List.append_assoc]
        exact messageAfter_reportCleared site parts files _
    | failed e _ hresult =>
      -- the cache is empty now, so nothing is claimed about what is published
      have hgeneration := (s.call around request).outcome_ends.generation_le
      refine ⟨fun hstate => ?_, fun _ => ?_, ?_, ?_, fun site parts files => ?_⟩
      · rw [hcache, Cache.state_fail] at hstate
        exact absurd rfl hstate
      · rw [hcache, Cache.digest_fail]
      · rw [hcache, lastFailure?, hlast, Option.bind_some, hresult, Cache.lastError_fail]
        rfl
      · rw [hcache]
        exact Cache.generation_fail_le e (Nat.le_trans h.generation_le hgeneration)
      · rw [hevents, hcache, Cache.lastError_fail, List.append_cons, ← List.append_assoc]
        exact messageAfter_reported site parts files _ e.describe

/-- **Every session is coherent**, whatever cache it started over, whichever calls were made of it,
and whatever each of them met outside. -/
theorem run_coherent (options : Options) (record : Option ArtifactRecord)
    (unitText : Option String) (requests : List (Surroundings × Request)) :
    ((start options record unitText).run requests).Coherent :=
  run_induction (start_coherent options record unitText)
    (fun _ around request h => h.next around request) requests

end Session

end ModelCache
