import ModelCache.Proofs.Callers.Invalidation
import ModelCache.Proofs.ModelSet

/-!
# The published sets in the order of time

Readers do not all get the current set: who cannot have it gets the one that is published, which may
be an old one, and a failed build may put an empty set in its place. Still nobody is ever set back. The
published set only ever gives way to one of a larger generation, and every set that a caller gets was
the published one at some moment of its call.

* **`Move.succeeds`** — the published set stays, or a whole one of a larger generation takes its place.
* **`Run.published_in_order`** — who calls after somebody has got a set gets that set or a later one,
  and only whole sets are ever got.
-/

namespace ModelCache

/-! ## Sets in order -/

namespace ModelSet

/-- A set was published before another one, or is the same. -/
structure NotAfter (A B : ModelSet) : Prop where
  generation_le : A.generation ≤ B.generation
  eq_of_generation : A.generation = B.generation → A = B

variable {A B C : ModelSet}

theorem NotAfter.refl (A : ModelSet) : A.NotAfter A := ⟨Nat.le_refl _, fun _ => rfl⟩

theorem NotAfter.of_lt (h : A.generation < B.generation) : A.NotAfter B :=
  ⟨Nat.le_of_lt h, fun heq => absurd heq (Nat.ne_of_lt h)⟩

theorem NotAfter.trans (h : A.NotAfter B) (h' : B.NotAfter C) : A.NotAfter C := by
  refine ⟨Nat.le_trans h.generation_le h'.generation_le, fun heq => ?_⟩
  have hle := h.generation_le
  have hle' := h'.generation_le
  rw [h.eq_of_generation (by omega), h'.eq_of_generation (by omega)]

end ModelSet

namespace Cache

/-- A whole set is published, of a generation that was given out. -/
structure Regular (c : Cache) : Prop where
  generation_le : c.published.generation ≤ c.lastGeneration
  whole : c.published.Whole

/-- What becomes of the published set in a cache where nothing is ever set back. -/
structure Succeeds (c c' : Cache) : Prop where
  regular : c'.Regular
  notAfter : c.published.NotAfter c'.published

variable {c : Cache}

theorem regular_start (record : Option ArtifactRecord) (unitText : Option String) :
    (start record unitText).Regular :=
  ⟨Nat.le_refl _, .inl rfl⟩

theorem Regular.succeeds_of_kept {c' : Cache} (h : c.Regular) (hkept : c.Kept c') :
    c.Succeeds c' where
  regular := by
    refine ⟨?_, ?_⟩
    · rw [hkept.published_eq, hkept.lastGeneration_eq]
      exact h.generation_le
    · rw [hkept.published_eq]
      exact h.whole
  notAfter := by
    rw [hkept.published_eq]
    exact .refl _

/-- A failed build leaves a set with a module alone, and replaces any other one by the next empty
one. -/
theorem Regular.succeeds_fail (h : c.Regular) {o : Outcome}
    (hgeneration : c.lastGeneration ≤ o.generation) (e : BuildError) :
    c.Succeeds (c.fail o e) := by
  have hle := generation_fail_le e (Nat.le_trans h.generation_le hgeneration)
  cases hmodule : c.published.module with
  | none =>
    have hpublished := published_fail_of_no_module (o := o) e hmodule
    have hlt : c.published.generation < (c.fail o e).published.generation := by
      rw [hpublished]
      exact Nat.lt_succ_of_le (Nat.le_trans h.generation_le hgeneration)
    have hwhole : (c.fail o e).published.Whole := by
      rw [hpublished]
      exact .inl rfl
    exact ⟨⟨hle, hwhole⟩, .of_lt hlt⟩
  | some m =>
    have hpublished := published_fail_of_module (c := c) (o := o) e (by rw [hmodule]; rfl)
    refine ⟨⟨hle, ?_⟩, ?_⟩
    · rw [hpublished]
      exact h.whole
    · rw [hpublished]
      exact .refl _

/-- **A build sets nobody back**, whether it succeeds or fails. -/
theorem Regular.succeeds_build (h : c.Regular) (around : Surroundings) (options : Options) :
    c.Succeeds (c.build around options).2.1 := by
  have hends := cycle_ends around options c.forced c.versions c.lastGeneration
  unfold build
  dsimp only
  split
  case h_1 digest set hresult =>
    obtain ⟨-, -, hset, hgeneration⟩ := hends.ok hresult
    obtain ⟨m, hm⟩ := hends.exists_ofModule hresult
    have hset' : set.generation = c.lastGeneration + 1 := hset.trans hgeneration
    have hwhole : set.Whole := .inr ⟨m, by rw [hset']; exact hm⟩
    exact ⟨⟨Nat.le_of_eq hset, hwhole⟩, .of_lt (by
      show c.published.generation < set.generation
      rw [hset']
      exact Nat.lt_succ_of_le h.generation_le)⟩
  case h_2 e hresult => exact h.succeeds_fail hends.generation_le e

end Cache

namespace Callers

/-! ## What callers obtain -/

/-- The set that an answer consists in, if it is one. -/
def Answer.set? : Answer → Option ModelSet
  | .current (.ok set) | .readable set => some set
  | .current (.error _) | .done | .status _ | .dependency _ => none

/-- The set that a caller has obtained, and goes away with. -/
def Phase.obtained? : Phase → Option ModelSet
  | .leaving _ answer => answer.bind Answer.set?
  | .away | .called _ | .missed _ _ | .building _ _ | .attaching => none

@[simp] theorem Answer.set?_given (set : ModelSet) (r : Request) :
    (Answer.given set r).set? = some set := by
  cases r <;> rfl

section Moves

variable {options : Options} {schema : Except SchemaError Schema}
  {companions : Except GenerationError Companions} {c c' : Cache} {phase phase' : Phase}
  {deed : Deed}

theorem Move.succeeds (h : Move options schema companions c phase deed c' phase')
    (hregular : c.Regular) : c.Succeeds c' := by
  cases h with
  | publish r progress around set _ events hread hbuild
  | fail r progress around e _ events hread hbuild =>
    have hsucceeds := hregular.succeeds_build around options
    rwa [hbuild] at hsucceeds
  | invalidate =>
    refine hregular.succeeds_of_kept ?_
    unfold Cache.invalidate
    split
    case isTrue hstate =>
      exact ⟨rfl, rfl, rfl, rfl, rfl, by rw [hstate]; exact ⟨nofun, nofun⟩⟩
    case isFalse => exact .refl c
  | requestRebuild => exact hregular.succeeds_of_kept c.kept_requestRebuild
  | _ => exact hregular.succeeds_of_kept (.refl c)

/-- What a caller has obtained is what it had before, or what is published now. -/
theorem Move.obtained (h : Move options schema companions c phase deed c' phase') {B : ModelSet}
    (hB : phase'.obtained? = some B) : phase.obtained? = some B ∨ c'.published = B := by
  cases h with
  | find | findLate =>
    simp only [Phase.obtained?, Option.bind_some, Answer.set?_given, Option.some.injEq] at hB
    exact .inr hB
  | publish r progress around set _ events hread hbuild =>
    simp only [Phase.obtained?, Option.bind_some, Answer.set?_given, Option.some.injEq] at hB
    rw [← hB]
    exact .inr (Cache.renewed_of_build hbuild).1.published_eq
  | fail r => cases r <;> cases hB
  | lookAgain => exact .inr (Option.some.inj hB)
  | release | releaseCompiler => exact .inl hB
  | _ => cases hB

/-- Who is answered with a set has obtained it. -/
theorem Move.obtained_of_returned {answer : Answer}
    (h : Move options schema companions c phase (.returned answer) c' phase') :
    phase.obtained? = answer.set? := by
  cases h with
  | finish => rfl

end Moves

/-! ## Nobody is set back -/

variable {ι : Type} {options : Options} {log : List (Label ι)} {l : Label ι} {w w' : World ι}
  {i j : ι} {A B : ModelSet}

/-- A set that was published at some time, and that no other one is mistaken for. -/
structure Known (A : ModelSet) (w : World ι) : Prop where
  notAfter : A.NotAfter w.cache.published
  eq_of_generation : ∀ j B, (w.phase j).obtained? = some B → A.generation = B.generation → A = B

/-- Everybody has obtained whole sets, and they were all published. -/
structure Orderly (w : World ι) : Prop where
  regular : w.cache.Regular
  whole : ∀ i A, (w.phase i).obtained? = some A → A.Whole
  known : ∀ i A, (w.phase i).obtained? = some A → Known A w

/-- A set was published at some time, and whatever a caller has obtained is at least as new. -/
structure Overtakes (j : ι) (A : ModelSet) (w : World ι) : Prop where
  notAfter : A.NotAfter w.cache.published
  obtained : ∀ B, (w.phase j).obtained? = some B → A.NotAfter B

variable [DecidableEq ι]

/-- After a step, what somebody has obtained was obtained before or is published now. -/
theorem Step.obtained (h : Step options w l w') (hB : (w'.phase j).obtained? = some B) :
    (w.phase j).obtained? = some B ∨ w'.cache.published = B := by
  cases h with
  | edit => exact .inl hB
  | move i deed c phase hmove =>
    change (Function.update w.phase i phase j).obtained? = some B at hB
    generalize hphase : Function.update w.phase i phase j = q at hB
    rcases eq_of_update hphase with ⟨rfl, rfl⟩ | ⟨-, rfl⟩
    · exact hmove.obtained hB
    · exact .inl hB

theorem Orderly.succeeds (horderly : Orderly w) (h : Step options w l w') :
    w.cache.Succeeds w'.cache := by
  cases h with
  | edit => exact horderly.regular.succeeds_of_kept (.refl _)
  | move i deed c phase hmove => exact hmove.succeeds horderly.regular

theorem Known.step (hknown : Known A w) (horderly : Orderly w) (h : Step options w l w') :
    Known A w' := by
  have hafter : A.NotAfter w'.cache.published :=
    hknown.notAfter.trans (horderly.succeeds h).notAfter
  refine ⟨hafter, fun j B hB => ?_⟩
  rcases h.obtained hB with hB | rfl
  · exact hknown.eq_of_generation j B hB
  · exact hafter.eq_of_generation

theorem Orderly.step (horderly : Orderly w) (h : Step options w l w') : Orderly w' := by
  have hsucceeds := horderly.succeeds h
  refine ⟨hsucceeds.regular, fun i A hA => ?_, fun i A hA => ?_⟩
  · rcases h.obtained hA with hA | rfl
    · exact horderly.whole i A hA
    · exact hsucceeds.regular.whole
  · rcases h.obtained hA with hA | rfl
    · exact (horderly.known i A hA).step horderly h
    · -- a set that is published now is not older than what anybody has obtained
      refine ⟨.refl _, fun j B hB heq => ?_⟩
      rcases h.obtained hB with hB | hB
      · exact (((horderly.known j B hB).step horderly h).notAfter.eq_of_generation heq.symm).symm
      · exact hB

theorem Overtakes.step (hovertakes : Overtakes j A w) (horderly : Orderly w)
    (h : Step options w l w') : Overtakes j A w' := by
  have hafter : A.NotAfter w'.cache.published :=
    hovertakes.notAfter.trans (horderly.succeeds h).notAfter
  refine ⟨hafter, fun B hB => ?_⟩
  rcases h.obtained hB with hB | rfl
  · exact hovertakes.obtained B hB
  · exact hafter

/-- Who has only just called has not obtained anything. -/
theorem Known.overtakes_of_called (hknown : Known A w') {errand : Errand}
    (h : Step options w (.did j (.called errand)) w') : Overtakes j A w' := by
  refine ⟨hknown.notAfter, fun B hB => ?_⟩
  obtain ⟨_, _, _, -, hphase, hmove⟩ := h.exists_move
  cases hmove with
  | call =>
    rw [hphase] at hB
    cases hB

variable {record : Option ArtifactRecord} {unitText : Option String}
  {schema : Except SchemaError Schema} {companions : Except GenerationError Companions}
  {u : World ι} {before after : List (Label ι)}

theorem Run.orderly (h : Run options (World.start record unitText schema companions) log w) :
    Orderly w :=
  h.keeps (P := fun _ w => Orderly w) [] (fun _ _ _ _ => Orderly.step)
    ⟨Cache.regular_start record unitText, nofun, nofun⟩

/-- What holds of an orderly world and is kept by every step from there on holds at the end. -/
theorem Orderly.keeps {P : World ι → Prop} (horderly : Orderly u)
    (hstep : ∀ w l w', Orderly w → P w → Step options w l w' → P w')
    (h : Run options u after w) (hP : P u) : Orderly w ∧ P w :=
  h.keeps (P := fun _ w => Orderly w ∧ P w) []
    (fun _ w l w' hw hl => ⟨hw.1.step hl, hstep w l w' hw.1 hw.2 hl⟩) ⟨horderly, hP⟩

/-- A set that somebody has obtained stays known. -/
theorem Orderly.known_of_obtained (horderly : Orderly u) (hA : (u.phase i).obtained? = some A)
    (h : Run options u after w) : Orderly w ∧ Known A w :=
  horderly.keeps (fun _ _ _ hw hknown hl => hknown.step hw hl) h (horderly.known i A hA)

/-- Who calls when somebody has obtained a set obtains that set or a later one. -/
theorem Orderly.overtakes (horderly : Orderly u) (hA : (u.phase i).obtained? = some A)
    (h : Run options u after w) {t : Nat} {errand : Errand}
    (hcalled : after[t]? = some (.did j (.called errand))) : Overtakes j A w := by
  obtain ⟨v, v', hwait, hcall, hrest⟩ := h.split hcalled
  obtain ⟨horderlyV, hknown⟩ := horderly.known_of_obtained hA hwait
  have hovertakes : Overtakes j A v' := (hknown.step horderlyV hcall).overtakes_of_called hcall
  exact ((horderlyV.step hcall).keeps (fun _ _ _ hw hlater hl => hlater.step hw hl) hrest
    hovertakes).2

/-- **Publication is monotonic.** Take any number of callers, and builds that succeed or fail in any
way. If somebody obtains a set when another caller has obtained one already, both are whole, and they
are the same if their generations are. Whoever calls only then obtains no older set. -/
theorem Run.published_in_order
    (hbefore : Run options (World.start record unitText schema companions) before u)
    (hA : (u.phase i).obtained? = some A) (hafter : Run options u after w)
    (hB : (w.phase j).obtained? = some B) :
    A.Whole ∧ B.Whole ∧ (A.generation = B.generation → A = B) ∧
      ((∃ (t : Nat) (errand : Errand), after[t]? = some (.did j (.called errand))) →
        A.generation ≤ B.generation) := by
  have horderly := hbefore.orderly
  obtain ⟨horderly', hknown⟩ := horderly.known_of_obtained hA hafter
  refine ⟨horderly.whole i A hA, horderly'.whole j B hB, hknown.eq_of_generation j B hB, ?_⟩
  rintro ⟨t, errand, hcalled⟩
  exact ((horderly.overtakes hA hafter hcalled).obtained B hB).generation_le

/-- Of two calls of which one is over when the other one is made, the later one is not answered with
an older set. -/
theorem Run.answered_in_order
    (h : Run options (World.start record unitText schema companions) log w)
    {errand errand' : Errand} {answer answer' : Answer} {t₁ t₂ t₃ t₄ : Nat}
    (hfirst : Spans log i errand t₁ t₂ answer) (hlt : t₂ < t₃)
    (hsecond : Spans log j errand' t₃ t₄ answer') (hA : answer.set? = some A)
    (hB : answer'.set? = some B) : A.NotAfter B := by
  have hlt' : t₂ < t₄ := Nat.lt_trans hlt hsecond.lt
  obtain ⟨u₄, _, hrun, hreturn', -⟩ := h.split hsecond.returned
  have hreturned : (log.take t₄)[t₂]? = some (.did i (.returned answer)) := by
    rw [List.getElem?_take_of_lt hlt', hfirst.returned]
  obtain ⟨u₂, v₂, hbefore, hreturn, hafter⟩ := hrun.split hreturned
  have hcalled : (Label.did i (.returned answer) :: (log.take t₄).drop (t₂ + 1))[t₃ - t₂]? =
      some (.did j (.called errand')) := by
    obtain ⟨n, rfl⟩ : ∃ n, t₃ = t₂ + 1 + n := ⟨t₃ - t₂ - 1, by omega⟩
    rw [show t₂ + 1 + n - t₂ = n + 1 by omega, List.getElem?_cons_succ, List.getElem?_drop,
      List.getElem?_take_of_lt hsecond.lt, hsecond.called]
  have hrest : Run options u₂ (.did i (.returned answer) :: (log.take t₄).drop (t₂ + 1)) u₄ :=
    ⟨v₂, hreturn, hafter⟩
  -- who is answered with a set has obtained it
  obtain ⟨_, _, _, hphase, -, hmove⟩ := hreturn.exists_move
  obtain ⟨_, _, _, hphase', -, hmove'⟩ := hreturn'.exists_move
  have hobtained : (u₂.phase i).obtained? = some A := by
    rw [hphase, hmove.obtained_of_returned, hA]
  have hobtained' : (u₄.phase j).obtained? = some B := by
    rw [hphase', hmove'.obtained_of_returned, hB]
  exact (hbefore.orderly.overtakes hobtained hrest hcalled).obtained B hobtained'

/-! ### A reader without a schema

One caller gets a set, and then the schema cannot be had any more. Another one wants a new build and
reads: the build fails, and the reader looks again. -/

namespace Degraded

open Interrupted (pair step_left step_right cold first)

def missing : Surroundings := { Surroundings.fairWeather with schema := .error (.provider "gone") }

/-- The cache when a new build is wanted. -/
def outdated : Cache := first.requestRebuild.1

/-- The cache after the build that fails. -/
def last : Cache := (outdated.build missing {}).2.1

/-- The first caller, up to the set that it obtains. -/
def serving : List (Label Bool) :=
  [ .did false (.called (.request .ensure)),
    .did false (.took .shared),
    .did false (.released .shared),
    .did false .tookCompiler,
    .did false (.took .exclusive),
    .did false .readSchema,
    .did false .readCompanions,
    .did false (.published first.published),
    .did false (.released .exclusive),
    .did false .releasedCompiler ]

/-- The second caller, up to the set that it obtains. -/
def degrading : List (Label Bool) :=
  [ .edited,
    .did true (.called (.request .requestRebuild)),
    .did true (.took .exclusive),
    .did true (.released .exclusive),
    .did true (.returned .done),
    .did true (.called (.request .read)),                 -- 5
    .did true (.took .shared),
    .did true (.released .shared),
    .did true .tookCompiler,
    .did true (.took .exclusive),
    .did true .readSchema,
    .did true (.failed (.ofSchema (.provider "gone"))),
    .did true (.released .exclusive),
    .did true .releasedCompiler,
    .did true (.took .shared) ]

def leaving : Phase := .leaving .free (some (.given first.published .ensure))

theorem run_serving : Run {} (World.start none none (.ok []) (.ok .empty)) serving
    (pair (.ok []) first leaving .away) := by
  have hcold : cold.state ≠ .valid := by decide
  have hfirst : cold.build .fairWeather {} =
      (.ok first.published, first, (cold.build .fairWeather {}).2.2) :=
    Cache.build_of_valid (by decide +kernel)
  have hstart : World.start none none (.ok []) (.ok .empty) = pair (.ok []) cold .away .away := by
    unfold World.start pair
    congr 1
    funext who
    cases who <;> rfl
  rw [hstart]
  exact
    ⟨_, step_left (.call _) (by decide),
      _, step_left (.miss _ rfl hcold) (by decide),
      _, step_left (.turnAway _) (by decide),
      _, step_left (.queue _) (by decide),
      _, step_left (.begin _ hcold) (by decide),
      _, step_left (.readSchema _) (by decide),
      _, step_left (.readCompanions _ _) (by decide),
      _, step_left (.publish _ _ .fairWeather _ _ _ ⟨rfl, rfl⟩ hfirst) (by decide),
      _, step_left (.release _ _ _) (by decide),
      _, step_left (.releaseCompiler _) (by decide), rfl⟩

theorem run_degrading : Run {} (pair (.ok []) first leaving .away) degrading
    (pair missing.schema last leaving (.leaving .shared (some (.readable last.published)))) := by
  have hstate : outdated.state ≠ .valid := Cache.state_requestRebuild first
  have hlast : outdated.build missing {} =
      (.error (.ofSchema (.provider "gone")), last, (outdated.build missing {}).2.2) := rfl
  exact
    ⟨_, .edit missing.schema (.ok .empty),
      _, step_right (.call _) (by decide),
      _, step_right .requestRebuild (by decide),
      _, step_right (.release _ _ _) (by decide),
      _, step_right (.finish _) (by decide),
      _, step_right (.call _) (by decide),
      _, step_right (.miss _ rfl hstate) (by decide),
      _, step_right (.turnAway _) (by decide),
      _, step_right (.queue _) (by decide),
      _, step_right (.begin _ hstate) (by decide),
      _, step_right (.readSchema _) (by decide),
      _, step_right (.fail _ _ missing _ _ _ ⟨⟨_, rfl⟩, rfl⟩ hlast) (by decide),
      _, step_right (.release _ _ _) (by decide),
      _, step_right (.releaseCompiler _) (by decide),
      _, step_right .lookAgain (by decide), rfl⟩

/-- The reader whose build failed gets the very set that the first caller got. -/
theorem same_set_after_failure :
    last.published = first.published ∧ first.published.Whole ∧
      first.published.generation ≤ last.published.generation := by
  obtain ⟨hwhole, -, hsame, hle⟩ :=
    run_serving.published_in_order (i := false) (j := true) rfl run_degrading rfl
  have hgeneration : first.published.generation = last.published.generation := by decide +kernel
  exact ⟨(hsame hgeneration).symm, hwhole, hle ⟨5, .request .read, rfl⟩⟩

end Degraded

end Callers

end ModelCache
