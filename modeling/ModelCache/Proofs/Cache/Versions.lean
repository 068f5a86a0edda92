import ModelCache.Proofs.Cache.Session

/-!
# The versions that a session uses

A cache knows a version to be used if it issued it, or learned of it: at its start from the stored
record and the header of the stored unit, later from a module that it finds good to use again. Its
counter keeps only the greatest, but that is enough:

* **`Session.usedBefore`** — all versions known to be used when some calls have been made.
* **`Call.Numbers`** — what a call owes to the versions used before: what it compiles is new and
  greater, and nothing is issued that is not compiled; if no version is left it fails and compiles
  nothing.
* **`Session.run_numbers`** — every call of every session numbers its builds like that. The counter
  tracks the used versions (`VersionCounter.Tracks`) from the start of the session on, and each call
  adds to both what it learns of and what it issues.
-/

namespace ModelCache

open VersionCounter (Exhausted)

/-! ## A step of the counter -/

/-- What a step of the counter learns of and issues is used from then on. -/
theorem Cache.VersionStep.tracks {c after : VersionCounter} {used learned compiled : List BuildVersion}
    (h : VersionStep c learned compiled after) (htracks : c.Tracks used) :
    after.Tracks (used ++ (learned ++ compiled)) := by
  cases h with
  | still =>
    rw [List.append_nil, List.append_nil]
    exact htracks
  | learned v w =>
    have hboth := (htracks.observe v).observe w
    rwa [List.append_assoc] at hboth
  | issued v after hissue =>
    rcases htracks.issue_cases with ⟨_, hnone, _⟩ | ⟨v', after', _, hsome, _, _, hafter, _⟩
    · rw [hissue] at hnone
      cases hnone
    · rw [hissue] at hsome
      cases hsome
      exact hafter

/-- What a step issues is issuable and greater than all that was used before. -/
theorem Cache.VersionStep.above {c after : VersionCounter} {used learned compiled : List BuildVersion}
    (h : VersionStep c learned compiled after) (htracks : c.Tracks used) :
    ∀ v ∈ compiled, v.isIssuable = true ∧ c.inUse < v.number ∧
      ∀ w ∈ used, w.isIssuable = true → w.number < v.number := by
  cases h with
  | still | learned => exact fun v hv => absurd hv List.not_mem_nil
  | issued v after hissue =>
    rcases htracks.issue_cases with ⟨_, hnone, _⟩ | ⟨v', after', _, hsome, hv, habove, _, hinUse⟩
    · rw [hissue] at hnone
      cases hnone
    · rw [hissue] at hsome
      cases hsome
      intro w hw
      rw [List.mem_singleton.mp hw]
      exact ⟨hv, hinUse, habove⟩

/-- The counter before and after a step tells what was issued, and that is what was compiled. -/
theorem Cache.VersionStep.issuedUpTo {c after : VersionCounter} {learned compiled : List BuildVersion}
    (h : VersionStep c learned compiled after) (hsound : c.Sound) :
    compiled = (c.issuedUpTo after).toList := by
  cases h with
  | still => rw [VersionCounter.issuedUpTo_of_next_eq rfl]; rfl
  | learned v w =>
    rw [VersionCounter.issuedUpTo_of_next_eq
      ((VersionCounter.observe_next _ w).trans (VersionCounter.observe_next c v))]
    rfl
  | issued v after hissue =>
    have hissued := VersionCounter.issuedUpTo_issue hsound
    rw [hissue] at hissued
    rw [hissued]
    rfl

/-! ## A call -/

/-- Whatever comes of a compilation, the unit was handed to the compiler under its version. -/
theorem Cache.compiledIn_compile (around : Surroundings) (companions : Companions) (digest : Digest)
    (source : String) (version : BuildVersion) (versions : VersionCounter) (generation : Nat) :
    compiledIn (compile around companions digest source version versions generation).events =
      [version] := by
  unfold compile
  dsimp only
  split
  case h_1 => rfl
  case h_2 module _ =>
    cases ModelSet.ofModule (generation + 1) module <;> rfl

namespace Call

/-- The versions that a call learns of. -/
def learned (k : Call) : List BuildVersion :=
  if k.builds then Cache.learned k.around k.cache.forced else []

/-- What a call does to the counter. -/
theorem versionStep (k : Call) :
    Cache.VersionStep k.cache.versions k.learned k.compiled k.after.versions := by
  cases hbuilds : k.builds with
  | false =>
    rw [learned, hbuilds, compiled_of_not_builds hbuilds,
      (kept_of_not_builds hbuilds).1.versions_eq]
    exact .still
  | true =>
    rw [learned, hbuilds, compiled_of_builds hbuilds, k.versions_of_builds hbuilds]
    exact k.outcome_ends.versionStep

/-- What a call owes to the versions that were used before. -/
structure Numbers (k : Call) (used : List BuildVersion) : Prop where
  /-- A version that is compiled could be issued, and is greater than all that were used. -/
  above : ∀ v ∈ k.compiled, v.isIssuable = true ∧
    ∀ w ∈ used, w.isIssuable = true → w.number < v.number
  /-- What is issued is compiled, and nothing else is. -/
  compiled_eq : k.compiled = (k.cache.versions.issuedUpTo k.after.versions).toList
  /-- A build that has source to compile but no version left fails and compiles nothing. -/
  of_exhausted : k.builds = true → ∀ schema companions models source,
    Cache.Drafts k.around k.options k.cache.forced schema companions models source →
      Exhausted used →
        k.outcome.result = .error (.versionsExhausted ⟨BuildVersion.maxWord - 1⟩) ∧
          k.compiled = []
  /-- A build that has source to compile and a version left compiles it. -/
  of_not_exhausted : k.builds = true → ∀ schema companions models source,
    Cache.Drafts k.around k.options k.cache.forced schema companions models source →
      ¬ Exhausted used → ∃ v, k.compiled = [v]

/-- **A call whose cache tracks the used versions numbers its builds properly.** -/
theorem numbers {k : Call} {used : List BuildVersion} (h : k.cache.versions.Tracks used) :
    k.Numbers used := by
  refine ⟨fun v hv => ?_, k.versionStep.issuedUpTo h.sound, ?_, ?_⟩
  · obtain ⟨hissuable, _, habove⟩ := k.versionStep.above h v hv
    exact ⟨hissuable, habove⟩
  · intro hbuilds schema companions models source hdrafts hexhausted
    -- the cycle comes to the counter, which has no version left
    rcases h.issue_cases with ⟨_, hissue, hlatest⟩ | ⟨_, _, hleft, _⟩
    · have houtcome : k.outcome = .failed (.versionsExhausted ⟨BuildVersion.maxWord - 1⟩)
          k.cache.versions k.cache.lastGeneration [.generated] := by
        rw [outcome, hdrafts.cycle_eq, hissue]
        dsimp only
        rw [hlatest]
        rfl
      rw [compiled_of_builds hbuilds, houtcome]
      exact ⟨rfl, rfl⟩
    · exact absurd hexhausted hleft
  · intro hbuilds schema companions models source hdrafts hleft
    rcases h.issue_cases with ⟨hexhausted, _⟩ | ⟨v, after, _, hissue, _⟩
    · exact absurd hexhausted hleft
    · refine ⟨v, ?_⟩
      rw [compiled_of_builds hbuilds, outcome, hdrafts.cycle_eq, hissue]
      exact Cache.compiledIn_compile ..

end Call

/-! ## A session -/

namespace Session

/-- The versions that a session learned of at its start. -/
def heardAtStart (s : Session) : List BuildVersion :=
  (s.record.map fun r => r.pointer.version).toList ++
    ((s.unitText.bind BuildUnit.parseHeader).map Prod.fst).toList

/-- The versions that a session knew to be used after some calls. -/
def usedBefore (s : Session) (before : List Call) : List BuildVersion :=
  s.heardAtStart ++ before.flatMap fun k => k.learned ++ k.compiled

/-- Every call of a session numbers its builds after all that was used before it. -/
structure Numbers (s : Session) : Prop where
  tracks : s.cache.versions.Tracks (s.usedBefore s.calls)
  calls : ∀ before k after, s.calls = before ++ k :: after → k.Numbers (s.usedBefore before)

theorem tracks_start (options : Options) (record : Option ArtifactRecord)
    (unitText : Option String) :
    (start options record unitText).cache.versions.Tracks
      ((start options record unitText).usedBefore []) := by
  unfold usedBefore heardAtStart start Cache.start
  dsimp only
  rw [List.flatMap_nil, List.append_nil]
  cases record with
  | none =>
    cases unitText.bind BuildUnit.parseHeader with
    | none => exact VersionCounter.tracks_fresh
    | some header => exact VersionCounter.tracks_fresh.observe _
  | some r =>
    have hrecord := VersionCounter.tracks_fresh.observe r.pointer.version
    cases unitText.bind BuildUnit.parseHeader with
    | none => exact hrecord
    | some header => exact hrecord.observe _

theorem start_numbers (options : Options) (record : Option ArtifactRecord)
    (unitText : Option String) : (start options record unitText).Numbers := by
  refine ⟨tracks_start options record unitText, fun before k after hcalls => ?_⟩
  exact absurd hcalls.symm (List.append_ne_nil_of_right_ne_nil before (List.cons_ne_nil k after))

/-- A list that got one longer was split at its new end, or where it could be split before. -/
theorem split_concat {α : Type} {l before after : List α} {a b : α}
    (h : l ++ [a] = before ++ b :: after) :
    l = before ∧ a = b ∨ ∃ after', l = before ++ b :: after' := by
  rcases List.eq_nil_or_concat after with rfl | ⟨after', c, rfl⟩
  · obtain ⟨hl, hab⟩ := List.append_inj' h rfl
    exact .inl ⟨hl, List.singleton_inj.mp hab⟩
  · refine .inr ⟨after', ?_⟩
    rw [List.concat_eq_append, ← List.cons_append, ← List.append_assoc] at h
    exact (List.append_inj' h rfl).1

theorem Numbers.next {s : Session} (h : s.Numbers) (around : Surroundings) (request : Request) :
    (s.next around request).Numbers := by
  refine ⟨?_, fun before k after hcalls => ?_⟩
  · have htracks := (s.call around request).versionStep.tracks h.tracks
    have hused : (s.next around request).usedBefore (s.next around request).calls =
        s.usedBefore s.calls ++ ((s.call around request).learned ++
          (s.call around request).compiled) := by
      unfold usedBefore Session.next
      rw [List.flatMap_append, List.flatMap_singleton, ← List.append_assoc]
      rfl
    rw [hused]
    exact htracks
  · -- the last call is the new one, and any other one was made before
    rcases split_concat hcalls with ⟨rfl, rfl⟩ | ⟨after', hbefore⟩
    · exact Call.numbers h.tracks
    · exact h.calls before k after' hbefore

/-- **Every session numbers its builds properly.** -/
theorem run_numbers (options : Options) (record : Option ArtifactRecord)
    (unitText : Option String) (requests : List (Surroundings × Request)) :
    ((start options record unitText).run requests).Numbers :=
  run_induction (start_numbers options record unitText)
    (fun _ around request h => h.next around request) requests

end Session

end ModelCache
