import ModelCache.Proofs.Callers.Publication

/-!
# No invalidation is lost

An invalidation does nothing to a cache without a current set, and a build does not look whether
somebody wants another one. Still nobody who asks for the current set after an invalidation gets one
whose inputs were read before it: the invalidation waits for the build that runs, and what is published
after it comes from a build that began after it.

* **`Fresh`** — what holds of every cache since some time: nothing that was read before that time is on
  its way to be published, or current. `Fresh.step` says that it stays so.
* **`Pending.step`** — an invalidation makes the cache fresh no later than it is over.
* **`Run.no_invalidation_lost`** — who asks for the current set after an invalidation is over gets one
  whose inputs were read after the invalidation began, and thus after every edit before it.
-/

namespace ModelCache

/-- Whether a request puts the current set out of date. -/
def Request.invalidates : Request → Bool
  | .invalidate | .requestRebuild => true
  | .pathChanged path => !path.isOwned
  | .ensure | .read => false

theorem Request.wantsSet_of_invalidates {r : Request} (h : r.invalidates = true) :
    r.wantsSet = false := by
  cases r with
  | ensure | read => cases h
  | invalidate | requestRebuild | pathChanged => rfl

namespace Callers

variable {ι : Type} {options : Options} {log : List (Label ι)} {t : Nat}

/-! ## What was read since some time -/

/-- What a build has read so far it has read after some time, and since then its caller did nothing. -/
def Progress.Since (t : Nat) (log : List (Label ι)) (k : ι) : Progress → Prop
  | .begun => True
  | .schemaRead _ => ∃ s, t < s ∧ log[s]? = some (.did k .readSchema) ∧ Quiet log k s log.length
  | .allRead _ _ => ∃ s c, t < s ∧ Reads log k s c ∧ Quiet log k c log.length

theorem Progress.Since.concat {progress : Progress} {k : ι} {l : Label ι}
    (h : progress.Since t log k) (hl : ∀ deed, l ≠ .did k deed) :
    progress.Since t (log ++ [l]) k := by
  cases progress with
  | begun => trivial
  | schemaRead schema =>
    obtain ⟨s, hs, hread, hquiet⟩ := h
    exact ⟨s, hs, getElem?_append hread [l], hquiet.concat hl⟩
  | allRead schema companions =>
    obtain ⟨s, c, hs, hreads, hquiet⟩ := h
    exact ⟨s, c, hs, hreads.append [l], hquiet.concat hl⟩

/-- A set was published by a build that read its inputs after some time. -/
def PublishedSince (t : Nat) (log : List (Label ι)) (set : ModelSet) : Prop :=
  ∃ k s c p, Publishes log k set s c p ∧ t < s

theorem PublishedSince.append {set : ModelSet} (h : PublishedSince t log set)
    (rest : List (Label ι)) : PublishedSince t (log ++ rest) set := by
  obtain ⟨k, s, c, p, hpublishes, hs⟩ := h
  exact ⟨k, s, c, p, hpublishes.append rest, hs⟩

/-! ## What a caller moves on to -/

section Moves

variable {schema : Except SchemaError Schema} {companions : Except GenerationError Companions}
  {c c' : Cache} {phase phase' : Phase} {deed : Deed}

/-- A caller that builds and has read since some time has still done so after its next read. -/
theorem Move.since {k : ι} {r : Request} {progress : Progress} (ht : t < log.length)
    (h : Move options schema companions c phase deed c' (.building r progress))
    (hsince : ∀ r progress, phase = .building r progress → progress.Since t log k) :
    progress.Since t (log ++ [.did k deed]) k := by
  have hnow : (log ++ [Label.did k deed])[log.length]? = some (.did k deed) :=
    List.getElem?_concat_length
  have hquiet :
      Quiet (log ++ [Label.did k deed]) k log.length (log ++ [Label.did k deed]).length := by
    intro u hu hu'
    rw [List.length_append, List.length_singleton] at hu'
    omega
  cases h with
  | begin => trivial
  | readSchema => exact ⟨log.length, ht, hnow, hquiet⟩
  | readCompanions r schema =>
    obtain ⟨s, hs, hread, hbefore⟩ := hsince r (.schemaRead (.ok schema)) rfl
    have hreads : Reads (log ++ [.did k .readCompanions]) k s log.length :=
      { schema := getElem?_append hread _
        companions := hnow
        lt := (List.getElem?_eq_some_iff.mp hread).1
        quiet := hbefore.append (Nat.le_refl _) _ }
    exact ⟨s, log.length, hs, hreads, hquiet⟩

/-- Only a build that has read everything publishes. -/
theorem Move.building_of_published {set : ModelSet}
    (h : Move options schema companions c phase (.published set) c' phase') :
    ∃ r s cs, phase = .building r (.allRead s cs) := by
  cases h with
  | publish r progress around _ _ events hread hbuild =>
    obtain ⟨s, cs, hreads⟩ := (Cache.renewed_of_build hbuild).2
    cases progress with
    | begun => exact hread.elim
    | schemaRead schema =>
      -- the schema was had, so it does not end the reads
      obtain ⟨⟨e, rfl⟩, haround⟩ := hread
      rw [hreads.schema_eq] at haround
      cases haround
    | allRead s cs => exact ⟨r, s, cs, rfl⟩

/-- What is given out as the current set is current when the answer is settled. -/
theorem Move.current_of_answer {held : Locks} {set : ModelSet}
    (h : Move options schema companions c phase deed c'
      (.leaving held (some (.current (.ok set))))) :
    (c'.state = .valid ∧ c'.published = set) ∨
      ∃ held', phase = .leaving held' (some (.current (.ok set))) := by
  have hgiven {set' : ModelSet} {r : Request} (h : Answer.given set' r = .current (.ok set)) :
      set' = set := by
    cases r <;> cases h
    rfl
  generalize hanswer : some (Answer.current (.ok set)) = answer at h
  cases h with
  | find r hwants hstate => exact .inl ⟨hstate, hgiven (Option.some.inj hanswer).symm⟩
  | findLate r hstate => exact .inl ⟨hstate, hgiven (Option.some.inj hanswer).symm⟩
  | publish r progress around set' _ events hread hbuild =>
    have hrenewed := (Cache.renewed_of_build hbuild).1
    obtain rfl : set' = set := hgiven (Option.some.inj hanswer).symm
    exact .inl ⟨hrenewed.state_eq, hrenewed.published_eq⟩
  | fail r => cases r <;> cases hanswer
  | release compiler mode => exact .inr ⟨⟨compiler, some mode⟩, rfl⟩
  | releaseCompiler => exact .inr ⟨.compiling, rfl⟩
  | _ => cases hanswer

/-- **An invalidation goes on to one of two things**: to what it comes down to, or to a cache without
a current set, alone with it. -/
theorem Move.invalidates {r : Request} (hr : r.invalidates = true)
    (h : Move options schema companions c (.called (.request r)) deed c' phase') :
    (∃ r', r'.invalidates = true ∧ phase' = .called (.request r')) ∨
      (c'.state ≠ .valid ∧ phase'.locks = .exclusive ∧ ∀ r progress, phase' ≠ .building r progress) := by
  cases h with
  | find _ hwants | miss _ hwants =>
    rw [Request.wantsSet_of_invalidates hr] at hwants
    cases hwants
  | invalidate => exact .inr ⟨c.state_invalidate, rfl, nofun⟩
  | requestRebuild => exact .inr ⟨c.state_requestRebuild, rfl, nofun⟩
  | ignorePath path howned =>
    rw [Request.invalidates, howned] at hr
    cases hr
  | heedPath => exact .inl ⟨.invalidate, rfl, rfl⟩

end Moves

/-! ## Caches without anything old -/

/-- Since some time, nothing that was read before it is on its way to be published, or current. -/
structure Fresh (t : Nat) (log : List (Label ι)) (w : World ι) : Prop where
  lt : t < log.length
  reads : ∀ k r progress, w.phase k = .building r progress → progress.Since t log k
  current : w.cache.state = .valid → PublishedSince t log w.cache.published

variable [DecidableEq ι] {w w' : World ι} {i j : ι} {l : Label ι}

/-- **A fresh cache stays fresh**, whatever anybody does. -/
theorem Fresh.step (hfresh : Fresh t log w) (h : Step options w l w') : Fresh t (log ++ [l]) w' := by
  have hlt : t < (log ++ [l]).length := by
    rw [List.length_append]
    exact Nat.lt_add_right _ hfresh.lt
  cases h with
  | edit schema companions =>
    refine ⟨hlt, fun k r progress hk => ?_, fun hstate => ?_⟩
    · exact (hfresh.reads k r progress hk).concat nofun
    · exact (hfresh.current hstate).append _
  | move i deed c phase hmove hfree =>
    refine ⟨hlt, fun k r progress hk => ?_, fun hstate => ?_⟩
    · rcases eq_of_update hk with ⟨rfl, rfl⟩ | ⟨hki, hk⟩
      · exact hmove.since hfresh.lt (hfresh.reads k)
      · exact (hfresh.reads k r progress hk).concat fun _ heq => hki (Label.did.inj heq).1.symm
    · cases hmove.leaves with
      | same => exact (hfresh.current hstate).append _
      | outdated _ _ _ hold => exact absurd hstate hold
      | renewed set _ hrenewed =>
        obtain ⟨r, s, cs, hphase⟩ := hmove.building_of_published
        obtain ⟨s, c', hs, hreads, hquiet⟩ := hfresh.reads i r _ hphase
        have hnow : (log ++ [Label.did i (.published set)])[log.length]? =
            some (.did i (.published set)) := List.getElem?_concat_length
        show PublishedSince t _ c.published
        rw [hrenewed.published_eq]
        exact ⟨i, s, c', log.length,
          { reads := hreads.append _
            published := hnow
            lt := (List.getElem?_eq_some_iff.mp hreads.companions).1
            quiet := hquiet.append (Nat.le_refl _) _ }, hs⟩

/-- Somebody has come to invalidate, or the cache is fresh already. -/
structure Pending (i : ι) (t : Nat) (log : List (Label ι)) (w : World ι) : Prop where
  lt : t < log.length
  called_or_fresh : (∃ r, r.invalidates = true ∧ w.phase i = .called (.request r)) ∨ Fresh t log w

/-- **What an invalidation does.** It has the cache for itself alone, so no build is under way, and it
leaves no current set: everything that is published later is read later. -/
theorem Pending.step (hpending : Pending i t log w) (h : Step options w l w') :
    Pending i t (log ++ [l]) w' := by
  have hlt : t < (log ++ [l]).length := by
    rw [List.length_append]
    exact Nat.lt_add_right _ hpending.lt
  refine ⟨hlt, ?_⟩
  rcases hpending.called_or_fresh with ⟨r, hr, hphase⟩ | hfresh
  · cases h with
    | edit => exact .inl ⟨r, hr, hphase⟩
    | move j deed c phase hmove hfree =>
      by_cases hij : i = j
      · subst hij
        rw [hphase] at hmove
        rcases hmove.invalidates hr with ⟨r', hr', hphase'⟩ | ⟨hstate, hlocks, hidle⟩
        · exact .inl ⟨r', hr', by rw [← hphase']; exact Function.update_self ..⟩
        · refine .inr ⟨hlt, fun k r progress hk => ?_, fun hvalid => absurd hvalid hstate⟩
          rcases eq_of_update hk with ⟨-, hbuilding⟩ | ⟨hki, hk⟩
          · exact absurd hbuilding (hidle r progress)
          · -- another caller that builds would hold the lock of the cache
            have hcompatible := hfree k hki
            rw [hlocks, hk] at hcompatible
            exact absurd (hcompatible.cache rfl) nofun
      · exact .inl ⟨r, hr, (Function.update_of_ne hij ..).trans hphase⟩
  · exact .inr (hfresh.step h)

/-- When somebody who came to invalidate leaves, the cache is fresh. -/
theorem Pending.fresh_of_returned (hpending : Pending i t log w) {a : Answer}
    (h : Step options w (.did i (.returned a)) w') : Fresh t (log ++ [.did i (.returned a)]) w' := by
  rcases hpending.called_or_fresh with ⟨r, -, hphase⟩ | hfresh
  · obtain ⟨_, _, _, rfl, -, hmove⟩ := h.exists_move
    rw [hphase] at hmove
    cases hmove
  · exact hfresh.step h

/-- The cache is fresh, and so is every answer of some caller. -/
structure Served (j : ι) (t : Nat) (log : List (Label ι)) (w : World ι) : Prop where
  fresh : Fresh t log w
  answer : ∀ held set, w.phase j = .leaving held (some (.current (.ok set))) →
    PublishedSince t log set

theorem Served.step (hserved : Served j t log w) (h : Step options w l w') :
    Served j t (log ++ [l]) w' := by
  have hfresh := hserved.fresh.step h
  refine ⟨hfresh, fun held set hj => ?_⟩
  cases h with
  | edit => exact (hserved.answer held set hj).append _
  | move i deed c phase hmove =>
    rcases eq_of_update hj with ⟨rfl, rfl⟩ | ⟨-, hj⟩
    · rcases hmove.current_of_answer with ⟨hstate, rfl⟩ | ⟨held', hbefore⟩
      · exact hfresh.current hstate
      · exact (hserved.answer held' set hbefore).append _
    · exact (hserved.answer held set hj).append _

/-- Who has only just called a fresh cache has no old answer. -/
theorem Fresh.served_of_called (hfresh : Fresh t log w) {errand : Errand}
    (h : Step options w (.did j (.called errand)) w') :
    Served j t (log ++ [.did j (.called errand)]) w' := by
  refine ⟨hfresh.step h, fun held set hj => ?_⟩
  obtain ⟨_, _, _, -, rfl, hmove⟩ := h.exists_move
  rw [hj] at hmove
  cases hmove

theorem Served.of_returned (hserved : Served j t log w) {set : ModelSet}
    (h : Step options w (.did j (.returned (.current (.ok set)))) w') : PublishedSince t log set := by
  obtain ⟨_, _, _, hphase, -, hmove⟩ := h.exists_move
  cases hmove with
  | finish => exact hserved.answer _ set hphase

/-! ## Calls one after another -/

variable {record : Option ArtifactRecord} {unitText : Option String}
  {schema : Except SchemaError Schema} {companions : Except GenerationError Companions}
  {r : Request} {t₁ t₂ t₃ t₄ : Nat} {answer : Answer} {set : ModelSet}

/-- **No invalidation is lost.** Take any number of callers, and edits at any time. If somebody asks
for the current set after an invalidation is over, and gets a set, then one build published it, and
that build read the schema and the companion sources after every edit before the invalidation. -/
theorem Run.no_invalidation_lost
    (h : Run options (World.start record unitText schema companions) log w)
    (hr : r.invalidates = true) (hinvalidated : Spans log i (.request r) t₁ t₂ answer)
    (hlt : t₂ < t₃) (hensured : Spans log j (.request .ensure) t₃ t₄ (.current (.ok set))) :
    ∃ k s c p, Publishes log k set s c p ∧ p < t₄ ∧
      (∀ k' p', log[p']? = some (.did k' (.published set)) → k' = k ∧ p' = p) ∧
      ∀ t, t < t₁ → log[t]? = some .edited → t < s ∧ t < c := by
  obtain ⟨u₄, v₄, hrun₄, hanswer, -⟩ := h.split hensured.returned
  obtain ⟨u₃, v₃, hrun₃, hensure, hkeep₃⟩ := hrun₄.cut hensured.called hensured.lt
  obtain ⟨u₂, v₂, hrun₂, hreturn, hkeep₂⟩ := hrun₃.cut hinvalidated.returned hlt
  obtain ⟨u₁, v₁, hrun₁, hcall, hkeep₁⟩ := hrun₂.cut hinvalidated.called hinvalidated.lt
  have hlength : (log.take t₁).length = t₁ := by
    rw [List.length_take]
    exact Nat.min_eq_left (Nat.le_of_lt (List.getElem?_eq_some_iff.mp hinvalidated.called).1)
  have hpending : Pending i t₁ (log.take t₂) u₂ := by
    refine hkeep₁ (Pending i t₁) (fun _ _ _ _ => Pending.step) ⟨by simp [hlength], .inl ⟨r, hr, ?_⟩⟩
    obtain ⟨_, _, _, -, hphase, hmove⟩ := hcall.exists_move
    cases hmove with
    | call => exact hphase
  have hfresh : Fresh t₁ (log.take t₃) u₃ :=
    hkeep₂ (Fresh t₁) (fun _ _ _ _ => Fresh.step) (hpending.fresh_of_returned hreturn)
  have hserved : Served j t₁ (log.take t₄) u₄ :=
    hkeep₃ (Served j t₁) (fun _ _ _ _ => Served.step) (hfresh.served_of_called hensure)
  obtain ⟨k, s, c, p, hpublishes, hs⟩ := hserved.of_returned hanswer
  have hp : p < t₄ :=
    Nat.lt_of_lt_of_le (List.getElem?_eq_some_iff.mp hpublishes.published).1 (List.length_take_le ..)
  have hpublishes : Publishes log k set s c p := by
    have := hpublishes.append (log.drop t₄)
    rwa [List.take_append_drop] at this
  refine ⟨k, s, c, p, hpublishes, hp, fun k' p' hp' => ?_, fun t ht _ => ?_⟩
  · obtain ⟨rfl, rfl⟩ := h.published_once hp' hpublishes.published
    exact ⟨rfl, rfl⟩
  · have := hpublishes.reads.lt
    omega

/-! ### An edit in the middle of a build

Two callers: one builds, and the schema is edited between its two reads. The other one invalidates
while the build is still under way, and then asks for the current set. -/

namespace Interrupted

/-- A world with two callers. -/
def pair (schema : Except SchemaError Schema) (c : Cache) (phase phase' : Phase) : World Bool :=
  { schema, companions := .ok .empty, cache := c, phase := fun who => bif who then phase' else phase }

variable {c c' : Cache} {phase phase' next : Phase} {deed : Deed}

theorem step_left (hmove : Move options schema (.ok .empty) c phase deed c' next)
    (hfree : next.locks.Compatible phase'.locks) :
    Step options (pair schema c phase phase') (.did false deed) (pair schema c' next phase') := by
  have hnext : pair schema c' next phase' = { pair schema c phase phase' with
      cache := c', phase := Function.update (pair schema c phase phase').phase false next } := by
    unfold pair
    congr 1
    funext who
    cases who <;> rfl
  rw [hnext]
  refine .move false deed c' next hmove fun j hj => ?_
  obtain rfl : j = true := eq_true_of_ne_false hj
  exact hfree

theorem step_right (hmove : Move options schema (.ok .empty) c phase' deed c' next)
    (hfree : next.locks.Compatible phase.locks) :
    Step options (pair schema c phase phase') (.did true deed) (pair schema c' phase next) := by
  have hnext : pair schema c' phase next = { pair schema c phase phase' with
      cache := c', phase := Function.update (pair schema c phase phase').phase true next } := by
    unfold pair
    congr 1
    funext who
    cases who <;> rfl
  rw [hnext]
  refine .move true deed c' next hmove fun j hj => ?_
  obtain rfl : j = false := eq_false_of_ne_true hj
  exact hfree

/-- The schema after the edit. -/
def edited : Schema := [{ aliasName := ⟨"home"⟩, kind := .content }]

def cold : Cache := Cache.start none none

/-- The cache after the build that was under way. -/
def first : Cache := (cold.build .fairWeather {}).2.1

def stale : Cache := first.invalidate.1

def around : Surroundings := { Surroundings.fairWeather with schema := .ok edited }

/-- The cache after the next build. -/
def second : Cache := (stale.build around {}).2.1

/-- What is done, with the times at which it is done. -/
def deeds : List (Label Bool) :=
  [ .did false (.called (.request .ensure)),
    .did false (.took .shared),
    .did false (.released .shared),
    .did false .tookCompiler,
    .did false (.took .exclusive),
    .did false .readSchema,
    .edited,                                              -- 6
    .did true (.called (.request .invalidate)),           -- 7
    .did false .readCompanions,
    .did false (.published first.published),
    .did false (.released .exclusive),
    .did true (.took .exclusive),
    .did true (.released .exclusive),
    .did true (.returned .done),                          -- 13
    .did true (.called (.request .ensure)),               -- 14
    .did true (.took .shared),
    .did true (.released .shared),
    .did false .releasedCompiler,
    .did true .tookCompiler,
    .did true (.took .exclusive),
    .did true .readSchema,
    .did true .readCompanions,
    .did true (.published second.published),
    .did true (.released .exclusive),
    .did true .releasedCompiler,
    .did true (.returned (.current (.ok second.published))) ] -- 25

theorem run_deeds : Run {} (World.start none none (.ok []) (.ok .empty)) deeds
    (pair (.ok edited) second (.leaving .free (some (.given first.published .ensure))) .away) := by
  have hcold : cold.state ≠ .valid := by decide
  have hstale : stale.state ≠ .valid := Cache.state_invalidate first
  have hfirst : cold.build .fairWeather {} =
      (.ok first.published, first, (cold.build .fairWeather {}).2.2) :=
    Cache.build_of_valid (by decide +kernel)
  have hsecond : stale.build around {} = (.ok second.published, second, (stale.build around {}).2.2) :=
    Cache.build_of_valid (by decide +kernel)
  have hstart : World.start none none (.ok []) (.ok .empty) = pair (.ok []) cold .away .away := by
    unfold World.start pair
    congr 1
    funext who
    cases who <;> rfl
  rw [hstart]
  exact
    ⟨_, step_left (.call _) (by decide),
      _, step_left (.miss _ rfl hcold) (by decide),
      _, step_left (.turnAway _) (by decide),
      _, step_left (.queue _) (by decide),
      _, step_left (.begin _ hcold) (by decide),
      _, step_left (.readSchema _) (by decide),
      _, .edit (.ok edited) (.ok .empty),
      _, step_right (.call _) (by decide),
      _, step_left (.readCompanions _ _) (by decide),
      _, step_left (.publish _ _ .fairWeather _ _ _ ⟨rfl, rfl⟩ hfirst) (by decide),
      _, step_left (.release _ _ _) (by decide),
      _, step_right .invalidate (by decide),
      _, step_right (.release _ _ _) (by decide),
      _, step_right (.finish _) (by decide),
      _, step_right (.call _) (by decide),
      _, step_right (.miss _ rfl hstale) (by decide),
      _, step_right (.turnAway _) (by decide),
      _, step_left (.releaseCompiler _) (by decide),
      _, step_right (.queue _) (by decide),
      _, step_right (.begin _ hstale) (by decide),
      _, step_right (.readSchema _) (by decide),
      _, step_right (.readCompanions _ _) (by decide),
      _, step_right (.publish _ _ around _ _ _ ⟨rfl, rfl⟩ hsecond) (by decide),
      _, step_right (.release _ _ _) (by decide),
      _, step_right (.releaseCompiler _) (by decide),
      _, step_right (.finish _) (by decide), rfl⟩

/-- The first call of the second caller. -/
theorem spans_invalidate : Spans deeds true (.request .invalidate) 7 13 .done where
  called := rfl
  returned := rfl
  lt := by omega
  open_until u hu hu' a := by
    have hcases : u = 8 ∨ u = 9 ∨ u = 10 ∨ u = 11 ∨ u = 12 := by omega
    rcases hcases with rfl | rfl | rfl | rfl | rfl <;> simp [deeds]

/-- The second call of the second caller. -/
theorem spans_ensure :
    Spans deeds true (.request .ensure) 14 25 (.current (.ok second.published)) where
  called := rfl
  returned := rfl
  lt := by omega
  open_until u hu hu' a := by
    have hcases : u = 15 ∨ u = 16 ∨ u = 17 ∨ u = 18 ∨ u = 19 ∨ u = 20 ∨ u = 21 ∨ u = 22 ∨
        u = 23 ∨ u = 24 := by omega
    rcases hcases with rfl | rfl | rfl | rfl | rfl | rfl | rfl | rfl | rfl | rfl <;> simp [deeds]

/-- The first caller read the schema before the edit, and published afterwards. -/
theorem publishes_first : Publishes deeds false first.published 5 8 9 where
  reads :=
    { schema := rfl
      companions := rfl
      lt := by omega
      quiet u hu hu' deed := by
        have hcases : u = 6 ∨ u = 7 := by omega
        rcases hcases with rfl | rfl <;> simp [deeds] }
  published := rfl
  lt := by omega
  quiet u hu hu' := by omega

/-- The build that the edit fell into publishes what it has read. The invalidation still gets the
second caller a set that was read later. -/
theorem second_read_after_edit :
    deeds[6]? = some .edited ∧ Publishes deeds false first.published 5 8 9 ∧
      ∃ k s c p, Publishes deeds k second.published s c p ∧ 6 < s ∧ 6 < c := by
  obtain ⟨k, s, c, p, hpublishes, -, -, hedits⟩ :=
    run_deeds.no_invalidation_lost rfl spans_invalidate (by omega) spans_ensure
  exact ⟨rfl, publishes_first, k, s, c, p, hpublishes, hedits 6 (by omega) rfl⟩

end Interrupted

end Callers

end ModelCache
