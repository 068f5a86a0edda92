import ModelCache.Proofs.Callers.Succession

/-!
# Callers in each other's way

Any number of callers can find at the same time that no set is current, and then each of them goes on
to build one. They queue up at the lock of the compiler, and whoever comes first builds. The others
look again before they build, so that they find what the first one made, unless that build failed: then
the next one tries.

* **`Guarded.step`** — nobody builds while a set is current.
* **`Calm`** — a run in which no current set is put out of date.
* **`Settled.step`** — a current set stays current in such a run, and no build begins.
* **`Run.builds_once`** — in such a run at most one build succeeds, nobody builds afterwards, and
  everybody who asks gets its set.
-/

namespace ModelCache

namespace Cache

/-! ## What a build asks for -/

/-- How often a build asks the generator and the compiler. -/
structure AsksOnce (events : List Event) : Prop where
  generator : events.count .generated ≤ 1
  compiler : (compiledIn events).length ≤ 1

theorem UnitEvents.asksOnce {versions after : VersionCounter} {events : List Event}
    (h : UnitEvents versions after events) : AsksOnce events := by
  cases h with
  | none generated => cases generated <;> exact ⟨by decide, by decide⟩
  | compiled unit | saved unit => exact ⟨by simp [compileEvents], by simp [compileEvents, compiledIn]⟩

/-- **A build asks the generator and the compiler at most once each.** -/
theorem asksOnce_build (around : Surroundings) (options : Options) (c : Cache) :
    AsksOnce (c.build around options).2.2 := by
  have hevents := (cycle_ends around options c.forced c.versions c.lastGeneration).unitEvents.asksOnce
  -- what a build does after its cycle is to tell the store and the reporter
  have happend (rest : List Event) (hgenerated : rest.count .generated = 0)
      (hcompiled : compiledIn rest = []) : AsksOnce
        ((cycle around options c.forced c.versions c.lastGeneration).events ++ rest) := by
    refine ⟨?_, ?_⟩
    · rw [List.count_append, hgenerated]
      exact hevents.generator
    · rw [compiledIn, List.filterMap_append, List.length_append]
      rw [compiledIn] at hcompiled
      rw [hcompiled]
      exact hevents.compiler
  unfold build
  dsimp only
  split
  case h_1 => exact happend _ (by decide) rfl
  case h_2 e _ => exact happend _ (by simp) rfl

end Cache

namespace Callers

variable {ι : Type} {options : Options} {log : List (Label ι)} {l : Label ι} {u w w' : World ι}
  {set : ModelSet}

/-! ## Who builds -/

/-- Whether something is done in the course of a build. -/
def Deed.builds : Deed → Bool
  | .readSchema | .readCompanions | .published _ | .failed _ => true
  | .called _ | .tookCompiler | .took _ | .released _ | .releasedCompiler | .looked | .gaveUp
  | .returned _ => false

section Moves

variable {schema : Except SchemaError Schema} {companions : Except GenerationError Companions}
  {c c' : Cache} {phase phase' : Phase} {deed : Deed}

theorem Move.building_of_builds (h : Move options schema companions c phase deed c' phase')
    (hdeed : deed.builds = true) : ∃ r progress, phase = .building r progress := by
  cases h with
  | readSchema | readCompanions | publish | fail => exact ⟨_, _, rfl⟩
  | _ => cases hdeed

/-- Who builds has been building, or has just seen that no set is current. -/
theorem Move.begins {r : Request} {progress : Progress}
    (h : Move options schema companions c phase deed c' (.building r progress)) :
    c.state ≠ .valid ∨ ∃ r progress, phase = .building r progress := by
  cases h with
  | begin _ hstate => exact .inl hstate
  | readSchema | readCompanions => exact .inr ⟨_, _, rfl⟩

/-- Only who builds or has come to invalidate changes the cache. -/
theorem Move.cache_eq (h : Move options schema companions c phase deed c' phase')
    (hbuilds : ∀ r progress, phase ≠ .building r progress)
    (hinvalidates : deed = .took .exclusive → ∀ r, phase ≠ .called (.request r)) : c' = c := by
  cases h with
  | publish | fail => exact absurd rfl (hbuilds _ _)
  | invalidate | requestRebuild => exact absurd rfl (hinvalidates rfl _)
  | _ => rfl

end Moves

/-- Nobody builds. -/
def Idle (w : World ι) : Prop := ∀ i r progress, w.phase i ≠ .building r progress

/-- The locks keep everybody apart, and nobody builds while a set is current. -/
structure Guarded (w : World ι) : Prop where
  excludes : Excludes w
  idle : w.cache.state = .valid → Idle w

/-- A set is current, and nobody builds. -/
structure Settled (set : ModelSet) (w : World ι) : Prop where
  state_eq : w.cache.state = .valid
  published_eq : w.cache.published = set
  idle : Idle w

theorem Guarded.settled (h : Guarded w) (hstate : w.cache.state = .valid)
    (hpublished : w.cache.published = set) : Settled set w :=
  ⟨hstate, hpublished, h.idle hstate⟩

variable [DecidableEq ι]

/-- **Nobody builds while a set is current.** -/
theorem Guarded.step (hguarded : Guarded w) (h : Step options w l w') : Guarded w' := by
  refine ⟨hguarded.excludes.step h, fun hstate => ?_⟩
  cases h with
  | edit => exact hguarded.idle hstate
  | move i deed c phase hmove hfree =>
    intro k r progress hk
    cases hmove.leaves with
    | same =>
      rcases eq_of_update hk with ⟨rfl, rfl⟩ | ⟨-, hk⟩
      · rcases hmove.begins with hold | ⟨r, progress, hbuilding⟩
        · exact hold hstate
        · exact hguarded.idle hstate k r progress hbuilding
      · exact hguarded.idle hstate k r progress hk
    | outdated _ _ _ hold => exact hold hstate
    | renewed set _ hrenewed =>
      obtain ⟨r', s, cs, hphase⟩ := hmove.building_of_published
      rcases eq_of_update hk with ⟨rfl, rfl⟩ | ⟨hki, hk⟩
      · rw [hphase] at hmove
        cases hmove
      · -- two that build would hold the same locks
        have hcompatible := hguarded.excludes i k (Ne.symm hki)
        rw [hphase, hk] at hcompatible
        exact absurd (hcompatible.compiler rfl) nofun

theorem Run.guarded {record : Option ArtifactRecord} {unitText : Option String}
    {schema : Except SchemaError Schema} {companions : Except GenerationError Companions}
    (h : Run options (World.start record unitText schema companions) log w) : Guarded w :=
  h.keeps (P := fun _ w => Guarded w) [] (fun _ _ _ _ => Guarded.step)
    ⟨fun _ _ _ => ⟨nofun, nofun, nofun⟩, fun _ => nofun⟩

/-! ## Calm -/

/-- A caller puts a current set out of date. -/
def Outdates (w : World ι) (l : Label ι) : Prop :=
  ∃ i r, l = .did i (.took .exclusive) ∧ w.phase i = .called (.request r) ∧ w.cache.state = .valid

/-- Any number of steps by which no current set is put out of date, with the log of what was done. -/
def Calm (options : Options) : World ι → List (Label ι) → World ι → Prop
  | w, [], w' => w = w'
  | w, l :: rest, w' => ¬ Outdates w l ∧ ∃ v, Step options w l v ∧ Calm options v rest w'

theorem Calm.keeps {P : List (Label ι) → World ι → Prop} (before : List (Label ι))
    (hstep : ∀ log w l w', P log w → Step options w l w' → ¬ Outdates w l → P (log ++ [l]) w')
    (h : Calm options w log w') (hstart : P before w) : P (before ++ log) w' := by
  induction log generalizing before w with
  | nil =>
    obtain rfl : w = w' := h
    rwa [List.append_nil]
  | cons l rest ih =>
    obtain ⟨hcalm, v, hfirst, hrest⟩ := h
    rw [List.append_cons]
    exact ih _ hrest (hstep before w l v hstart hfirst hcalm)

/-- As long as everybody only asks for sets, it is calm. -/
theorem Run.calm (h : Run options u log w)
    (hphases : ∀ i r, u.phase i = .called (.request r) → r.wantsSet = true)
    (hcalls : ∀ i r, .did i (.called (.request r)) ∈ log → r.wantsSet = true) :
    Calm options u log w := by
  induction log generalizing u with
  | nil => exact h
  | cons l rest ih =>
    obtain ⟨v, hstep, hrest⟩ := h
    refine ⟨?_, v, hstep, ih hrest ?_ fun i r hr => hcalls i r (.tail _ hr)⟩
    · rintro ⟨i, r, rfl, hphase, -⟩
      obtain ⟨_, _, _, rfl, -, hmove⟩ := hstep.exists_move
      have hwants := hphases i r hphase
      rw [hphase] at hmove
      cases hmove <;> cases hwants
    · intro i r hphase
      cases hstep with
      | edit => exact hphases i r hphase
      | move k deed c phase hmove =>
        rcases eq_of_update hphase with ⟨rfl, rfl⟩ | ⟨-, hphase⟩
        · generalize hbefore : u.phase i = before at hmove
          cases hmove with
          | call => exact hcalls i r (.head _)
          | heedPath path => exact absurd (hphases i _ hbefore) nofun
        · exact hphases i r hphase

/-- **A current set stays current as long as it is calm**, and nobody builds another one. -/
theorem Settled.step (hsettled : Settled set w) (hguarded : Guarded w) (h : Step options w l w')
    (hcalm : ¬ Outdates w l) :
    Settled set w' ∧ w'.cache = w.cache ∧ ∀ k deed, l = .did k deed → deed.builds = false := by
  have hcache : w'.cache = w.cache ∧ ∀ k deed, l = .did k deed → deed.builds = false := by
    cases h with
    | edit => exact ⟨rfl, nofun⟩
    | move i deed c phase hmove =>
      refine ⟨hmove.cache_eq (hsettled.idle i) fun hdeed r hphase => ?_, ?_⟩
      · exact hcalm ⟨i, r, by rw [hdeed], hphase, hsettled.state_eq⟩
      · rintro k deed' ⟨⟩
        refine Bool.eq_false_iff.mpr fun hbuilds => ?_
        obtain ⟨r, progress, hphase⟩ := hmove.building_of_builds hbuilds
        exact hsettled.idle i r progress hphase
  have hsettled' : Settled set w' :=
    (hguarded.step h).settled (by rw [hcache.1, hsettled.state_eq])
      (by rw [hcache.1, hsettled.published_eq])
  exact ⟨hsettled', hcache⟩

/-! ## Who asks, and who gets what -/

/-- A caller has not obtained anything by the beginning of a run, or calls again in its course. -/
def Asks (u : World ι) (log : List (Label ι)) (j : ι) (t : Nat) : Prop :=
  (u.phase j).obtained? = none ∨
    ∃ (s : Nat) (errand : Errand), s < t ∧ log[s]? = some (.did j (.called errand))

omit [DecidableEq ι] in
theorem Asks.of_concat {j : ι} {t : Nat} (h : Asks u (log ++ [l]) j t) (ht : t ≤ log.length) :
    Asks u log j t := by
  rcases h with h | ⟨s, errand, hs, hcalled⟩
  · exact .inl h
  · rcases getElem?_concat.mp hcalled with hcalled | ⟨rfl, -⟩
    · exact .inr ⟨s, errand, hs, hcalled⟩
    · omega

omit [DecidableEq ι] in
theorem Asks.of_concat_other {j : ι} (h : Asks u (log ++ [l]) j (log ++ [l]).length)
    (hl : ∀ errand, l ≠ .did j (.called errand)) : Asks u log j log.length := by
  rcases h with h | ⟨s, errand, -, hcalled⟩
  · exact .inl h
  · rcases getElem?_concat.mp hcalled with hcalled | ⟨-, heq⟩
    · exact .inr ⟨s, errand, (List.getElem?_eq_some_iff.mp hcalled).1, hcalled⟩
    · exact absurd heq (hl errand)

/-- What comes of the builds of a calm run. -/
structure Contended (u : World ι) (log : List (Label ι)) (w : World ι) : Prop where
  guarded : Guarded w
  published : ∀ (t : Nat) (k : ι) (set : ModelSet), log[t]? = some (.did k (.published set)) →
    Settled set w ∧ ∀ (t' : Nat) (k' : ι) (deed : Deed),
      log[t']? = some (.did k' deed) → deed.builds = true → t' ≤ t
  answering : ∀ j held set, w.phase j = .leaving held (some (.current (.ok set))) →
    Asks u log j log.length → Settled set w
  answered : ∀ (t : Nat) (j : ι) (set : ModelSet),
    log[t]? = some (.did j (.returned (.current (.ok set)))) → Asks u log j t → Settled set w
  undisturbed : u.cache.state = .valid → Settled u.cache.published w ∧ w.cache = u.cache ∧
    ∀ (t : Nat) (k : ι) (deed : Deed), log[t]? = some (.did k deed) → deed.builds = false

/-- Who is on the way out with the current set has only just found it, or was on the way out with it
before. -/
theorem Step.answering {j : ι} {held : Locks} (h : Step options w l w')
    (hj : w'.phase j = .leaving held (some (.current (.ok set)))) :
    (w'.cache.state = .valid ∧ w'.cache.published = set) ∨
      (∃ held', w.phase j = .leaving held' (some (.current (.ok set)))) ∧
        ∀ errand, l ≠ .did j (.called errand) := by
  cases h with
  | edit => exact .inr ⟨⟨held, hj⟩, nofun⟩
  | move i deed c phase hmove =>
    rcases eq_of_update hj with ⟨rfl, rfl⟩ | ⟨hji, hj⟩
    · rcases hmove.current_of_answer with hcurrent | hbefore
      · exact .inl hcurrent
      · refine .inr ⟨hbefore, ?_⟩
        obtain ⟨held', hbefore⟩ := hbefore
        rw [hbefore] at hmove
        rintro errand ⟨⟩
        cases hmove
    · exact .inr ⟨⟨held, hj⟩, fun errand heq => hji (Label.did.inj heq).1.symm⟩

theorem Contended.step (hcontended : Contended u log w) (h : Step options w l w')
    (hcalm : ¬ Outdates w l) : Contended u (log ++ [l]) w' := by
  have hguarded' := hcontended.guarded.step h
  have hstays {set : ModelSet} (hsettled : Settled set w) : Settled set w' :=
    (hsettled.step hcontended.guarded h hcalm).1
  refine ⟨hguarded', fun t k set ht => ?_, fun j held set hj hasks => ?_,
    fun t j set ht hasks => ?_, fun hstate => ?_⟩
  · rcases getElem?_concat.mp ht with ht | ⟨rfl, rfl⟩
    · obtain ⟨hsettled, hlast⟩ := hcontended.published t k set ht
      obtain ⟨hsettled', -, hbuilds⟩ := hsettled.step hcontended.guarded h hcalm
      refine ⟨hsettled', fun t' k' deed ht' hdeed => ?_⟩
      rcases getElem?_concat.mp ht' with ht' | ⟨-, heq⟩
      · exact hlast t' k' deed ht' hdeed
      · rw [hbuilds k' deed heq] at hdeed
        cases hdeed
    · -- the set that is published now is current
      have hnow : w'.cache.state = .valid ∧ w'.cache.published = set := by
        cases h with
        | move _ _ c phase hmove =>
          cases hmove.leaves with
          | same _ hdeed | outdated _ _ hdeed => exact absurd rfl (hdeed set)
          | renewed _ _ hrenewed => exact ⟨hrenewed.state_eq, hrenewed.published_eq⟩
      refine ⟨hguarded'.settled hnow.1 hnow.2, fun t' k' deed ht' _ => ?_⟩
      have hlt := (List.getElem?_eq_some_iff.mp ht').1
      rw [List.length_append, List.length_singleton] at hlt
      omega
  · rcases h.answering hj with ⟨hstate, hpublished⟩ | ⟨⟨held', hbefore⟩, hl⟩
    · exact hguarded'.settled hstate hpublished
    · exact hstays (hcontended.answering j held' set hbefore (hasks.of_concat_other hl))
  · rcases getElem?_concat.mp ht with ht | ⟨rfl, rfl⟩
    · exact hstays (hcontended.answered t j set ht
        (hasks.of_concat (Nat.le_of_lt (List.getElem?_eq_some_iff.mp ht).1)))
    · obtain ⟨_, _, _, hphase, -, hmove⟩ := h.exists_move
      cases hmove with
      | finish =>
        exact hstays (hcontended.answering j _ set hphase (hasks.of_concat (Nat.le_refl _)))
  · obtain ⟨hsettled, hcache, hnone⟩ := hcontended.undisturbed hstate
    obtain ⟨hsettled', hcache', hbuilds⟩ := hsettled.step hcontended.guarded h hcalm
    refine ⟨hsettled', hcache'.trans hcache, fun t k deed ht => ?_⟩
    rcases getElem?_concat.mp ht with ht | ⟨-, heq⟩
    · exact hnone t k deed ht
    · exact hbuilds k deed heq

omit [DecidableEq ι] in
theorem Guarded.contended (h : Guarded u) : Contended u [] u where
  guarded := h
  published := nofun
  answering j held set hj hasks := by
    rcases hasks with hnone | ⟨s, errand, hs, -⟩
    · rw [hj] at hnone
      cases hnone
    · exact absurd hs (Nat.not_lt_zero s)
  answered := nofun
  undisturbed hstate := ⟨h.settled hstate rfl, rfl, nofun⟩

/-! ## One build -/

/-- What a revision takes, however many callers want it at once. -/
structure BuildsOnce (u : World ι) (log : List (Label ι)) (w : World ι) : Prop where
  /-- At most one build succeeds. -/
  once : ∀ (t t' : Nat) (k k' : ι) (set set' : ModelSet), log[t]? = some (.did k (.published set)) →
    log[t']? = some (.did k' (.published set')) → t = t'
  /-- After a build that succeeds nobody goes on with another one or begins one. -/
  last : ∀ (t : Nat) (k : ι) (set : ModelSet), log[t]? = some (.did k (.published set)) →
    Idle w ∧ ∀ (t' : Nat) (k' : ι) (deed : Deed),
      log[t']? = some (.did k' deed) → deed.builds = true → t' ≤ t
  /-- Whoever has asked and gets the current set gets the one that is published in the end. -/
  same : ∀ (t : Nat) (j : ι) (set : ModelSet),
    log[t]? = some (.did j (.returned (.current (.ok set)))) → Asks u log j t →
      w.cache.state = .valid ∧ w.cache.published = set
  /-- If a set is current to begin with, nobody builds at all. -/
  none_if_current : u.cache.state = .valid → w.cache = u.cache ∧ Idle w ∧
    ∀ (t : Nat) (k : ι) (deed : Deed), log[t]? = some (.did k deed) → deed.builds = false

/-- **At most one build succeeds as long as it is calm.** Take any number of callers, in whatever
they are doing, and any order of their steps by which no current set is put out of date. Then builds
may fail, but after one that succeeds nobody builds any more, and everybody who asks gets its set. No
build asks the generator or the compiler more than once. -/
theorem Run.builds_once {record : Option ArtifactRecord} {unitText : Option String}
    {schema : Except SchemaError Schema} {companions : Except GenerationError Companions}
    {before : List (Label ι)}
    (hbefore : Run options (World.start record unitText schema companions) before u)
    (h : Calm options u log w) :
    BuildsOnce u log w ∧
      ∀ (c : Cache) (around : Surroundings), Cache.AsksOnce (c.build around options).2.2 := by
  have hcontended : Contended u log w :=
    h.keeps [] (fun _ _ _ _ => Contended.step) hbefore.guarded.contended
  refine ⟨⟨fun t t' k k' set set' ht ht' => ?_, fun t k set ht => ?_, fun t j set ht hasks => ?_,
    fun hstate => ?_⟩, fun c around => Cache.asksOnce_build around options c⟩
  · have hle := (hcontended.published t k set ht).2 t' k' _ ht' rfl
    have hle' := (hcontended.published t' k' set' ht').2 t k _ ht rfl
    omega
  · obtain ⟨hsettled, hlast⟩ := hcontended.published t k set ht
    exact ⟨hsettled.idle, hlast⟩
  · have hsettled := hcontended.answered t j set ht hasks
    exact ⟨hsettled.state_eq, hsettled.published_eq⟩
  · obtain ⟨hsettled, hcache, hnone⟩ := hcontended.undisturbed hstate
    exact ⟨hcache, hsettled.idle, hnone⟩

/-! ### Two callers in line

Both callers find that nothing is current. The first build fails, and then the schema is mended. The
second caller is in line already and builds, and the first one calls again. -/

namespace Queued

open Interrupted (pair step_left step_right cold)
open Degraded (missing)

/-- The cache after the build that fails. -/
def failed : Cache := (cold.build missing {}).2.1

/-- The cache after the build that succeeds. -/
def made : Cache := (failed.build .fairWeather {}).2.1

def deeds : List (Label Bool) :=
  [ .did false (.called (.request .ensure)),
    .did true (.called (.request .ensure)),
    .did false (.took .shared),
    .did true (.took .shared),
    .did true (.released .shared),
    .did false (.released .shared),
    .did false .tookCompiler,
    .did false (.took .exclusive),
    .did false .readSchema,
    .did false (.failed (.ofSchema (.provider "gone"))),
    .did false (.released .exclusive),
    .did false .releasedCompiler,
    .edited,
    .did true .tookCompiler,
    .did false (.returned (.current (.error (.ofSchema (.provider "gone"))))),
    .did true (.took .exclusive),
    .did true .readSchema,
    .did true .readCompanions,
    .did false (.called (.request .ensure)),
    .did true (.published made.published),                -- 19
    .did true (.released .exclusive),
    .did false (.took .shared),
    .did false (.released .shared),
    .did false (.returned (.current (.ok made.published))) ] -- 23

/-- The world in the end. -/
def last : World Bool :=
  pair (.ok []) made .away (.leaving .compiling (some (.given made.published .ensure)))

theorem run_deeds : Run {} (World.start none none missing.schema (.ok .empty)) deeds last := by
  have hcold : cold.state ≠ .valid := by decide
  have hfailed : cold.build missing {} =
      (.error (.ofSchema (.provider "gone")), failed, (cold.build missing {}).2.2) := rfl
  have hstate : failed.state ≠ .valid := by decide +kernel
  have hmade : failed.build .fairWeather {} =
      (.ok made.published, made, (failed.build .fairWeather {}).2.2) :=
    Cache.build_of_valid (by decide +kernel)
  have hvalid : made.state = .valid := by decide +kernel
  have hstart : World.start none none missing.schema (.ok .empty) =
      pair missing.schema cold .away .away := by
    unfold World.start pair
    congr 1
    funext who
    cases who <;> rfl
  rw [hstart]
  exact
    ⟨_, step_left (.call _) (by decide),
      _, step_right (.call _) (by decide),
      _, step_left (.miss _ rfl hcold) (by decide),
      _, step_right (.miss _ rfl hcold) (by decide),
      _, step_right (.turnAway _) (by decide),
      _, step_left (.turnAway _) (by decide),
      _, step_left (.queue _) (by decide),
      _, step_left (.begin _ hcold) (by decide),
      _, step_left (.readSchema _) (by decide),
      _, step_left (.fail _ _ missing _ _ _ ⟨⟨_, rfl⟩, rfl⟩ hfailed) (by decide),
      _, step_left (.release _ _ _) (by decide),
      _, step_left (.releaseCompiler _) (by decide),
      _, .edit (.ok []) (.ok .empty),
      _, step_right (.queue _) (by decide),
      _, step_left (.finish _) (by decide),
      _, step_right (.begin _ hstate) (by decide),
      _, step_right (.readSchema _) (by decide),
      _, step_right (.readCompanions _ _) (by decide),
      _, step_left (.call _) (by decide),
      _, step_right (.publish _ _ .fairWeather _ _ _ ⟨rfl, rfl⟩ hmade) (by decide),
      _, step_right (.release _ _ _) (by decide),
      _, step_left (.find _ rfl hvalid) (by decide),
      _, step_left (.release _ _ _) (by decide),
      _, step_left (.finish _) (by decide), rfl⟩

/-- The build that fails does not count, and the one that succeeds serves both callers. -/
theorem builds_once_after_failure :
    deeds[19]? = some (.did true (.published made.published)) ∧
      BuildsOnce (World.start none none missing.schema (.ok .empty)) deeds last := by
  have hasks : ∀ i r, .did i (.called (.request r)) ∈ deeds → r.wantsSet = true := by
    intro i r h
    simp only [deeds, List.mem_cons, Label.did.injEq, reduceCtorEq, Deed.called.injEq,
      Errand.request.injEq, and_false, false_or, List.not_mem_nil, or_false] at h
    rcases h with ⟨-, rfl⟩ | ⟨-, rfl⟩ | ⟨-, rfl⟩ <;> rfl
  have hstart : Run (ι := Bool) {} (World.start none none missing.schema (.ok .empty)) []
      (World.start none none missing.schema (.ok .empty)) := rfl
  exact ⟨rfl, (hstart.builds_once (run_deeds.calm nofun hasks)).1⟩

end Queued

end Callers

end ModelCache
