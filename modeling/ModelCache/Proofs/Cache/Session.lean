import ModelCache.Proofs.Cache.Cycle

/-!
# Sessions

A session is the life of one cache, from its start to its end: what it was started over, and the
calls that were made of it. What a call finds outside the cache is any `Surroundings` whatever, so
that the generator, the compiler, the loader and the store can answer each call as they like.

* **`Call.Effect`** — what a call does to the cache and outside, one constructor for each way it can
  go; `call_effect` says that there are no others.
* **`Call.kept_of_not_builds`** — what a call that builds nothing leaves alone, all but the state.
* **`Session.run`** — a session after any sequence of calls, and `Session.run_induction`, by which
  what every call keeps holds of every session.
* **`Call.builds`** and **`Session.lastBuild?`** — which calls run a build cycle, and the last one
  that did.
* **`Session.versions_sound`** — the version counter of a cache is sound throughout.
-/

namespace ModelCache

/-! ## What a failed build leaves

`Cache.fail` writes a new cache down twice over, for a set with a module and for one without. Its
fields are read off here once. -/

namespace Cache

variable (c : Cache) (o : Outcome) (e : BuildError)

@[simp] theorem state_fail : (c.fail o e).state = .empty := by
  unfold fail
  dsimp only
  split <;> rfl

@[simp] theorem digest_fail : (c.fail o e).digest = none := by
  unfold fail
  dsimp only
  split <;> rfl

@[simp] theorem lastError_fail : (c.fail o e).lastError = some e.describe := by
  unfold fail
  dsimp only
  split <;> rfl

@[simp] theorem forced_fail : (c.fail o e).forced = false := by
  unfold fail
  dsimp only
  split <;> rfl

@[simp] theorem versions_fail : (c.fail o e).versions = o.versions := by
  unfold fail
  dsimp only
  split <;> rfl

variable {c o}

/-- A set that came from a module stays published. -/
theorem published_fail_of_module (h : c.published.module.isSome = true) :
    (c.fail o e).published = c.published := by
  unfold fail
  dsimp only
  rw [if_neg]
  rw [← Option.not_isSome, h]
  exact Bool.false_ne_true

/-- A set without a module gives way to an empty one of the next generation. -/
theorem published_fail_of_no_module (h : c.published.module = none) :
    (c.fail o e).published = .empty (o.generation + 1) := by
  unfold fail
  dsimp only
  rw [if_pos (by rw [h]; rfl)]

theorem generation_fail_le (h : c.published.generation ≤ o.generation) :
    (c.fail o e).published.generation ≤ (c.fail o e).lastGeneration := by
  unfold fail
  dsimp only
  split
  · exact Nat.le_refl _
  · exact h

theorem lastGeneration_le_fail (o : Outcome) (e : BuildError) :
    o.generation ≤ (c.fail o e).lastGeneration := by
  unfold fail
  dsimp only
  split
  · exact Nat.le_succ _
  · exact Nat.le_refl _

end Cache

/-! ## What a build leaves -/

namespace Cache

variable {c c' : Cache} {around : Surroundings} {options : Options} {events : List Event}

/-- A build that succeeds has read both of its inputs, and publishes a set of its own. -/
structure Renewed (c c' : Cache) (set : ModelSet) : Prop where
  state_eq : c'.state = .valid
  published_eq : c'.published = set
  generation_eq : set.generation = c.lastGeneration + 1
  lastGeneration_eq : c'.lastGeneration = c.lastGeneration + 1

theorem renewed_of_build {set : ModelSet} (h : c.build around options = (.ok set, c', events)) :
    Renewed c c' set ∧ ∃ schema companions, Reads around schema companions := by
  have hends := cycle_ends around options c.forced c.versions c.lastGeneration
  unfold build at h
  dsimp only at h
  split at h
  case h_1 digest set' hresult =>
    cases h
    obtain ⟨⟨schema, companions, hreads, -⟩, -, hset, hgeneration⟩ := hends.ok hresult
    exact ⟨⟨rfl, rfl, hset.trans hgeneration, hgeneration⟩, schema, companions, hreads⟩
  case h_2 => cases h

/-- A build that fails leaves no current set. -/
theorem outdated_of_build {e : BuildError} (h : c.build around options = (.error e, c', events)) :
    c'.state = .empty ∧ c.lastGeneration ≤ c'.lastGeneration := by
  have hends := cycle_ends around options c.forced c.versions c.lastGeneration
  unfold build at h
  dsimp only at h
  split at h
  case h_1 => cases h
  case h_2 e' hresult =>
    cases h
    exact ⟨state_fail .., Nat.le_trans hends.generation_le (lastGeneration_le_fail _ e)⟩

/-- A build after which there is a current set succeeded with that set. -/
theorem build_of_valid (h : (c.build around options).2.1.state = .valid) :
    c.build around options = (.ok (c.build around options).2.1.published,
      (c.build around options).2.1, (c.build around options).2.2) := by
  rcases hbuild : c.build around options with ⟨e | set, c', events⟩
  · rw [hbuild, (outdated_of_build hbuild).1] at h
    cases h
  · rw [(renewed_of_build hbuild).1.published_eq]

/-- A build after which there is no current set failed. -/
theorem build_of_not_valid (h : (c.build around options).2.1.state ≠ .valid) :
    ∃ e, c.build around options =
      (.error e, (c.build around options).2.1, (c.build around options).2.2) := by
  rcases hbuild : c.build around options with ⟨e | set, c', events⟩
  · exact ⟨e, rfl⟩
  · rw [hbuild] at h
    exact absurd (renewed_of_build hbuild).1.state_eq h

end Cache

/-! ## What a call that builds nothing leaves -/

namespace Cache

/-- A cache that differs from another one at most in what the next reader is to do. -/
structure Kept (c c' : Cache) : Prop where
  published_eq : c'.published = c.published
  versions_eq : c'.versions = c.versions
  digest_eq : c'.digest = c.digest
  lastGeneration_eq : c'.lastGeneration = c.lastGeneration
  lastError_eq : c'.lastError = c.lastError
  empty_iff : c'.state = .empty ↔ c.state = .empty

theorem Kept.refl (c : Cache) : c.Kept c := ⟨rfl, rfl, rfl, rfl, rfl, Iff.rfl⟩

theorem kept_requestRebuild (c : Cache) : c.Kept c.requestRebuild.1 := by
  refine ⟨rfl, rfl, rfl, rfl, rfl, ?_⟩
  unfold requestRebuild
  dsimp only
  split
  case isTrue hvalid => rw [hvalid]; exact ⟨nofun, nofun⟩
  case isFalse => exact Iff.rfl

theorem state_invalidate (c : Cache) : c.invalidate.1.state ≠ .valid := by
  unfold invalidate
  split
  case isTrue => exact nofun
  case isFalse hstate => exact hstate

theorem lastGeneration_invalidate (c : Cache) :
    c.invalidate.1.lastGeneration = c.lastGeneration := by
  unfold invalidate
  split <;> rfl

theorem state_requestRebuild (c : Cache) : c.requestRebuild.1.state ≠ .valid := by
  unfold requestRebuild
  dsimp only
  split
  case isTrue => exact nofun
  case isFalse hstate => exact hstate

end Cache

/-! ## Calls -/

/-- Surroundings in which every build succeeds: a schema without types, and a compiler that makes a
module of anything. -/
def Surroundings.fairWeather : Surroundings where
  schema := .ok []
  companions := .ok .empty
  record := none
  load _ := none
  generate _ _ _ := .ok "types"
  compile unit := .ok
    { location := ⟨"module"⟩, version := unit.version, marker := some unit.digest, types := [] }

/-- What a caller asks of a cache. -/
inductive Request where
  /-- The current set, or why it cannot be had. -/
  | ensure
  /-- Some set to read types from: the current one if it can be had. -/
  | read
  /-- To build again for the next reader. -/
  | invalidate
  /-- To build again for the next reader without the stored record. -/
  | requestRebuild
  /-- To take note of a change at a path. -/
  | pathChanged (path : Path)
  deriving DecidableEq

/-- Whether a caller asks for a set. -/
def Request.wantsSet : Request → Bool
  | .ensure | .read => true
  | .invalidate | .requestRebuild | .pathChanged _ => false

/-- A call of a cache: the cache as it was, what it found outside, and what it was asked. -/
structure Call where
  options : Options
  cache : Cache
  around : Surroundings
  request : Request

namespace Call

/-- The cache after a call, and what it did outside. -/
def served (k : Call) : Cache × List Event :=
  match k.request with
  | .ensure => (k.cache.ensure k.around k.options).2
  | .read => (k.cache.current k.around k.options).2
  | .invalidate => k.cache.invalidate
  | .requestRebuild => k.cache.requestRebuild
  | .pathChanged path => k.cache.pathChanged path

/-- The cache after a call. -/
def after (k : Call) : Cache := k.served.1

/-- What a call does outside. -/
def events (k : Call) : List Event := k.served.2

/-- Whether a call runs a build cycle. -/
def builds (k : Call) : Bool := k.request.wantsSet && k.cache.state ≠ .valid

/-- What comes of the build cycle that a call runs. -/
def outcome (k : Call) : Cache.Outcome :=
  Cache.cycle k.around k.options k.cache.forced k.cache.versions k.cache.lastGeneration

/-! ### What a call does -/

/-- The ways a call can go. -/
inductive Effect (k : Call) : Cache → List Event → Prop where
  | idle (hbuilds : k.builds = false) : Effect k k.cache []
  | invalidated (hbuilds : k.builds = false) (hstate : k.cache.state = .valid) :
      Effect k { k.cache with state := .stale } [.recordCleared]
  | rebuildRequested (hbuilds : k.builds = false) :
      Effect k k.cache.requestRebuild.1 [.recordCleared]
  | published (digest : Digest) (set : ModelSet) (hbuilds : k.builds = true)
      (hresult : k.outcome.result = .ok (digest, set)) :
      Effect k (Cache.publish k.outcome digest set) (k.outcome.events ++ [.reportCleared])
  | failed (e : BuildError) (hbuilds : k.builds = true) (hresult : k.outcome.result = .error e) :
      Effect k (k.cache.fail k.outcome e)
        (k.outcome.events ++ [.recordCleared, .reported e.describe])

theorem outcome_ends (k : Call) :
    Cache.Ends k.around k.options k.cache.forced k.cache.versions k.cache.lastGeneration k.outcome :=
  Cache.cycle_ends ..

theorem served_eq_ensure {k : Call} (h : k.request.wantsSet = true) :
    k.served = (k.cache.ensure k.around k.options).2 := by
  unfold served
  cases hrequest : k.request with
  | ensure => rfl
  | read =>
    -- such a reader is answered in another way, but the cache ends up the same
    show (k.cache.current k.around k.options).2 = _
    unfold Cache.current
    rcases k.cache.ensure k.around k.options with ⟨_ | set, cache, events⟩ <;> rfl
  | invalidate | requestRebuild | pathChanged => rw [hrequest] at h; cases h

/-- A call that builds is answered with what comes of the cycle. -/
theorem ensure_of_builds {k : Call} (h : k.builds = true) :
    k.cache.ensure k.around k.options =
      match k.outcome.result with
      | .ok (digest, set) =>
        (.ok set, Cache.publish k.outcome digest set, k.outcome.events ++ [.reportCleared])
      | .error e =>
        (.error e, k.cache.fail k.outcome e,
          k.outcome.events ++ [.recordCleared, .reported e.describe]) := by
  have hstate : k.cache.state ≠ .valid := by
    simp only [builds, Bool.and_eq_true, decide_eq_true_eq] at h
    exact h.2
  unfold Cache.ensure
  rw [if_neg hstate]
  rfl

/-- A call whose cycle succeeds publishes what comes of it. -/
theorem served_of_outcome {k : Call} (h : k.builds = true) {digest : Digest} {set : ModelSet}
    {versions : VersionCounter} {generation : Nat} {events : List Event}
    (houtcome : k.outcome = ⟨.ok (digest, set), versions, generation, events⟩) :
    k.served = (⟨.valid, set, versions, some digest, false, generation, none⟩,
      events ++ [.reportCleared]) := by
  have hwants : k.request.wantsSet = true := (Bool.and_eq_true_iff.mp h).1
  rw [served_eq_ensure hwants, ensure_of_builds h, houtcome]
  rfl

/-- An invalidation is a call that builds nothing, and acts on a current set only. -/
theorem effect_of_invalidate {k : Call} (hbuilds : k.builds = false)
    (hserved : k.served = k.cache.invalidate) : Effect k k.after k.events := by
  unfold after events
  rw [hserved, Cache.invalidate]
  split
  case isTrue hstate => exact .invalidated hbuilds hstate
  case isFalse => exact .idle hbuilds

/-- **A call goes in one of these ways.** -/
theorem call_effect (k : Call) : Effect k k.after k.events := by
  cases hwants : k.request.wantsSet with
  | true =>
    unfold after events
    rw [served_eq_ensure hwants]
    cases hbuilds : k.builds with
    | true =>
      rw [ensure_of_builds hbuilds]
      cases hresult : k.outcome.result with
      | ok published => exact .published published.1 published.2 hbuilds hresult
      | error e => exact .failed e hbuilds hresult
    | false =>
      have hstate : k.cache.state = .valid := by
        simpa [builds, hwants] using hbuilds
      unfold Cache.ensure
      rw [if_pos hstate]
      exact .idle hbuilds
  | false =>
    have hbuilds : k.builds = false := by rw [builds, hwants, Bool.false_and]
    cases hrequest : k.request with
    | ensure | read => rw [hrequest] at hwants; cases hwants
    | invalidate =>
      exact effect_of_invalidate hbuilds (by rw [served, hrequest])
    | requestRebuild =>
      have hserved : k.served = k.cache.requestRebuild := by rw [served, hrequest]
      unfold after events
      rw [hserved]
      exact .rebuildRequested hbuilds
    | pathChanged path =>
      have hserved : k.served = k.cache.pathChanged path := by rw [served, hrequest]
      -- a file of the cache's own does not count; any other one is an invalidation
      rw [Cache.pathChanged] at hserved
      split at hserved
      case isTrue =>
        unfold after events
        rw [hserved]
        exact .idle hbuilds
      case isFalse => exact effect_of_invalidate hbuilds hserved

/-- A build ends with a word to the reporter, after a failure also with the record made unusable. -/
theorem events_of_builds {k : Call} (hbuilds : k.builds = true) :
    k.events = k.outcome.events ++ [.reportCleared] ∨
      ∃ message, k.events = k.outcome.events ++ [.recordCleared, .reported message] := by
  have heffect := k.call_effect
  generalize k.after = after, k.events = events at heffect ⊢
  cases heffect with
  | idle hnot | invalidated hnot | rebuildRequested hnot => rw [hbuilds] at hnot; cases hnot
  | published => exact .inl rfl
  | failed e => exact .inr ⟨e.describe, rfl⟩

/-- The counter after a build is the one that its cycle left. -/
theorem versions_of_builds (k : Call) (hbuilds : k.builds = true) :
    k.after.versions = k.outcome.versions := by
  have heffect := k.call_effect
  generalize k.after = after, k.events = events at heffect ⊢
  cases heffect with
  | idle hnot | invalidated hnot | rebuildRequested hnot => rw [hbuilds] at hnot; cases hnot
  | published => rfl
  | failed => exact Cache.versions_fail _ _ _

/-- A call that builds nothing keeps all but the state, and does nothing outside except that it may
make the record unusable. -/
theorem kept_of_not_builds {k : Call} (hbuilds : k.builds = false) :
    k.cache.Kept k.after ∧ (k.events = [] ∨ k.events = [.recordCleared]) := by
  have heffect := k.call_effect
  generalize k.after = after, k.events = events at heffect ⊢
  cases heffect with
  | idle => exact ⟨.refl k.cache, .inl rfl⟩
  | invalidated _ hstate =>
    refine ⟨⟨rfl, rfl, rfl, rfl, rfl, ?_⟩, .inr rfl⟩
    rw [hstate]
    exact ⟨nofun, nofun⟩
  | rebuildRequested => exact ⟨Cache.kept_requestRebuild k.cache, .inr rfl⟩
  | published _ _ hbuilds' => rw [hbuilds'] at hbuilds; cases hbuilds
  | failed _ hbuilds' => rw [hbuilds'] at hbuilds; cases hbuilds

/-! ### What a call has compiled -/

/-- The versions of the units that a call hands to the compiler. -/
def compiled (k : Call) : List BuildVersion := Cache.compiledIn k.events

theorem compiled_of_builds {k : Call} (hbuilds : k.builds = true) :
    k.compiled = Cache.compiledIn k.outcome.events := by
  unfold compiled
  rcases events_of_builds hbuilds with hevents | ⟨message, hevents⟩
  · rw [hevents, Cache.compiledIn, List.filterMap_append]
    exact List.append_nil _
  · rw [hevents, Cache.compiledIn, List.filterMap_append]
    exact List.append_nil _

theorem compiled_of_not_builds {k : Call} (hbuilds : k.builds = false) : k.compiled = [] := by
  unfold compiled
  rcases (kept_of_not_builds hbuilds).2 with hevents | hevents <;> rw [hevents] <;> rfl

/-- What a call hands to the compiler it does so in its cycle. -/
theorem mem_outcome_of_compiled {k : Call} {unit : BuildUnit} (h : .compiled unit ∈ k.events) :
    .compiled unit ∈ k.outcome.events := by
  cases hbuilds : k.builds with
  | false =>
    rcases (kept_of_not_builds hbuilds).2 with hevents | hevents <;> rw [hevents] at h <;> simp at h
  | true =>
    rcases events_of_builds hbuilds with hevents | ⟨message, hevents⟩ <;> rw [hevents] at h <;>
      simpa using h

end Call

/-! ## Sessions -/

/-- The life of one cache so far. -/
structure Session where
  options : Options
  /-- The record that it was started over. -/
  record : Option ArtifactRecord
  /-- The last build unit that it was started over. -/
  unitText : Option String
  /-- The cache as it is now. -/
  cache : Cache
  /-- The calls that were made of it, oldest first. -/
  calls : List Call

namespace Session

/-- A cache that was just started. -/
def start (options : Options) (record : Option ArtifactRecord) (unitText : Option String) :
    Session :=
  { options, record, unitText, cache := Cache.start record unitText, calls := [] }

/-- The call that a request makes of the cache as it is now. -/
def call (s : Session) (around : Surroundings) (request : Request) : Call :=
  { options := s.options, cache := s.cache, around, request }

/-- The session after one more call. -/
def next (s : Session) (around : Surroundings) (request : Request) : Session :=
  { s with cache := (s.call around request).after, calls := s.calls ++ [s.call around request] }

/-- The session after some more calls. -/
def run (s : Session) (requests : List (Surroundings × Request)) : Session :=
  requests.foldl (fun s (around, request) => s.next around request) s

/-- What every call keeps holds after any number of calls. -/
theorem run_induction {P : Session → Prop} {s : Session} (hstart : P s)
    (hnext : ∀ s around request, P s → P (s.next around request)) :
    ∀ requests, P (s.run requests) := by
  intro requests
  induction requests generalizing s with
  | nil => exact hstart
  | cons first rest ih =>
    obtain ⟨around, request⟩ := first
    exact ih (hnext s around request hstart)

/-- Whether a session is one that was started and then called some number of times. -/
def Reached (s : Session) : Prop :=
  ∃ options record unitText requests, s = (start options record unitText).run requests

theorem reached_start (options : Options) (record : Option ArtifactRecord)
    (unitText : Option String) : (start options record unitText).Reached :=
  ⟨options, record, unitText, [], rfl⟩

theorem Reached.next {s : Session} (h : s.Reached) (around : Surroundings) (request : Request) :
    (s.next around request).Reached := by
  obtain ⟨options, record, unitText, requests, rfl⟩ := h
  refine ⟨options, record, unitText, requests ++ [(around, request)], ?_⟩
  unfold run
  rw [List.foldl_append]
  rfl

/-- The last call that ran a build cycle. -/
def lastBuild? (s : Session) : Option Call := (s.calls.filter Call.builds).getLast?

theorem lastBuild?_next (s : Session) (around : Surroundings) (request : Request) :
    (s.next around request).lastBuild? =
      if (s.call around request).builds then some (s.call around request) else s.lastBuild? := by
  unfold lastBuild? next
  rw [List.filter_append]
  cases hbuilds : (s.call around request).builds with
  | true => simp [hbuilds]
  | false => simp [hbuilds]

/-! ### The version counter of a session -/

theorem sound_start (record : Option ArtifactRecord) (unitText : Option String) :
    (Cache.start record unitText).versions.Sound := by
  unfold Cache.start
  dsimp only
  cases record with
  | none =>
    cases unitText.bind BuildUnit.parseHeader with
    | none => exact VersionCounter.sound_fresh
    | some header => exact VersionCounter.sound_fresh.observe _
  | some r =>
    have hrecord := VersionCounter.sound_fresh.observe r.pointer.version
    cases unitText.bind BuildUnit.parseHeader with
    | none => exact hrecord
    | some header => exact hrecord.observe _

/-- No call makes the counter unsound, whatever comes of it. -/
theorem sound_after {k : Call} (h : k.cache.versions.Sound) : k.after.versions.Sound := by
  cases hbuilds : k.builds with
  | false =>
    rw [(Call.kept_of_not_builds hbuilds).1.versions_eq]
    exact h
  | true =>
    rw [k.versions_of_builds hbuilds]
    exact k.outcome_ends.versionStep.sound h

theorem versions_sound (options : Options) (record : Option ArtifactRecord)
    (unitText : Option String) (requests : List (Surroundings × Request)) :
    ((start options record unitText).run requests).cache.versions.Sound :=
  run_induction (P := fun s => s.cache.versions.Sound) (sound_start record unitText)
    (fun s around request h => sound_after (k := s.call around request) h) requests

end Session

end ModelCache
