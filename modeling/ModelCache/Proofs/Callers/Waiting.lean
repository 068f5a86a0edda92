import ModelCache.Proofs.Callers.Succession

/-!
# Nobody waits for ever

A caller that waits for a lock waits for whoever holds it, and that caller may wait for another lock in
turn. On top of that, a lock need not let a reader in although only readers hold it, if somebody waits
to have it alone; and the compiler can call the cache back in the middle of a build. This module
shows that nobody ever waits in a circle.

* **`Phase.need?`** — the lock that a caller needs to go on. `Phase.need?_eq_cache` says that who needs
  the lock of the cache does not hold it, and at most the lock of the compiler.
* **`Crowd`** — a world together with who waits in line, and whose build was called back.
* **`Crowd.Orderly.step`** — what is always the case with those who wait.
* **`Crowd.Reaches.somebody_advances`** — as long as anybody is in a call, one of those who are can go on.
-/

namespace ModelCache.Callers

variable {options : Options}

/-! ## What a caller needs -/

/-- A lock that a caller can need. -/
inductive Need where
  | compiler
  | cache (mode : Mode)
  deriving DecidableEq

/-- The lock that a caller has to take next, if it cannot go on without. -/
def Phase.need? : Phase → Option Need
  | .called (.request .ensure) | .called (.request .read) | .called .status =>
    some (.cache .shared)
  | .called (.request .invalidate) | .called (.request .requestRebuild) => some (.cache .exclusive)
  | .called .compilation => some .compiler
  | .missed _ ⟨false, none⟩ => some .compiler
  | .missed _ ⟨true, none⟩ => some (.cache .exclusive)
  | .leaving ⟨false, none⟩ none => some (.cache .shared)
  | .away | .called (.request (.pathChanged _)) | .missed _ _ | .building _ _ | .attaching
  | .leaving _ _ => none

/-- What a caller can hold on the way to a build. -/
def Phase.OnTheWay : Phase → Prop
  | .missed _ held => held = .shared ∨ held = .free ∨ held = .compiling
  | .away | .called _ | .building _ _ | .attaching | .leaving _ _ => True

section Moves

variable {schema : Except SchemaError Schema} {companions : Except GenerationError Companions}
  {c c' : Cache} {phase phase' : Phase} {deed : Deed}

theorem Move.onTheWay (h : Move options schema companions c phase deed c' phase') :
    phase'.OnTheWay := by
  cases h with
  | miss => exact .inl rfl
  | turnAway => exact .inr (.inl rfl)
  | queue => exact .inr (.inr rfl)
  | _ => trivial

/-- Who needs the lock of the cache holds at most the lock of the compiler, and that only to have
the cache alone. -/
theorem Phase.need?_eq_cache {mode : Mode} (h : phase.need? = some (.cache mode)) :
    phase.locks.cache = none ∧ (phase.locks.compiler = true → mode = .exclusive) := by
  unfold need? at h
  split at h <;> cases h <;> exact ⟨rfl, by simp [locks, Locks.free]⟩

theorem Phase.need?_eq_compiler (h : phase.need? = some .compiler) : phase.locks = .free := by
  unfold need? at h
  split at h <;> cases h <;> rfl

/-- A build ends one way or the other once it has read everything. -/
theorem exists_end_of_build (options : Options) (schema : Except SchemaError Schema)
    (companions : Except GenerationError Companions) (c : Cache) (r : Request) {progress : Progress}
    (around : Surroundings) (hread : progress.Completed around) :
    ∃ deed c' phase', Move options schema companions c (.building r progress) deed c' phase' ∧
      deed.takes = false := by
  rcases hbuild : c.build around options with ⟨e | set, c', events⟩
  · exact ⟨_, _, _, .fail r progress around e c' events hread hbuild, rfl⟩
  · exact ⟨_, _, _, .publish r progress around set c' events hread hbuild, rfl⟩

/-- **Who is in a call and needs no lock has something to do.** -/
theorem exists_move_of_need?_eq_none (options : Options) (schema : Except SchemaError Schema)
    (companions : Except GenerationError Companions) (c : Cache) (haway : phase ≠ .away)
    (hway : phase.OnTheWay) (hneed : phase.need? = none) :
    ∃ deed c' phase', Move options schema companions c phase deed c' phase' ∧
      deed.takes = false := by
  cases phase with
  | away => exact absurd rfl haway
  | called errand =>
    cases errand with
    | request r =>
      cases r with
      | pathChanged path =>
        cases howned : path.isOwned with
        | true => exact ⟨_, _, _, .ignorePath path howned, rfl⟩
        | false => exact ⟨_, _, _, .heedPath path howned, rfl⟩
      | ensure | read | invalidate | requestRebuild => cases hneed
    | status | compilation => cases hneed
  | missed r held =>
    rcases hway with rfl | rfl | rfl
    · exact ⟨_, _, _, .turnAway r, rfl⟩
    · cases hneed
    · cases hneed
  | building r progress =>
    cases progress with
    | begun => exact ⟨_, _, _, .readSchema r, rfl⟩
    | schemaRead read =>
      cases read with
      | ok s => exact ⟨_, _, _, .readCompanions r s, rfl⟩
      | error e =>
        exact exists_end_of_build options schema companions c r
          { Surroundings.fairWeather with schema := .error e } ⟨⟨e, rfl⟩, rfl⟩
    | allRead s cs =>
      exact exists_end_of_build options schema companions c r
        { Surroundings.fairWeather with schema := .ok s, companions := cs } ⟨rfl, rfl⟩
  | attaching => exact ⟨_, _, _, .giveUp, rfl⟩
  | leaving held answer =>
    obtain ⟨compiler, mode⟩ := held
    cases mode with
    | some mode => exact ⟨_, _, _, .release compiler mode answer, rfl⟩
    | none =>
      cases compiler with
      | true => exact ⟨_, _, _, .releaseCompiler answer, rfl⟩
      | false =>
        cases answer with
        | some answer => exact ⟨_, _, _, .finish answer, rfl⟩
        | none => cases hneed

theorem exists_move_of_need?_eq_compiler (options : Options) (schema : Except SchemaError Schema)
    (companions : Except GenerationError Companions) (c : Cache)
    (hneed : phase.need? = some .compiler) :
    ∃ c' phase', Move options schema companions c phase .tookCompiler c' phase' ∧
      phase'.locks = .compiling := by
  unfold Phase.need? at hneed
  split at hneed <;> cases hneed
  · exact ⟨_, _, .compile, rfl⟩
  · exact ⟨_, _, .queue _, rfl⟩

theorem exists_move_of_need?_eq_cache (options : Options) (schema : Except SchemaError Schema)
    (companions : Except GenerationError Companions) (c : Cache) {mode : Mode}
    (hneed : phase.need? = some (.cache mode)) :
    ∃ c' phase', Move options schema companions c phase (.took mode) c' phase' ∧
      phase'.locks = ⟨phase.locks.compiler, some mode⟩ := by
  have hcurrent := Decidable.em (c.state = .valid)
  unfold Phase.need? at hneed
  split at hneed <;> cases hneed
  case h_1 | h_2 =>
    rcases hcurrent with hstate | hstate
    · exact ⟨_, _, .find _ rfl hstate, rfl⟩
    · exact ⟨_, _, .miss _ rfl hstate, rfl⟩
  case h_3 => exact ⟨_, _, .status, rfl⟩
  case h_4 => exact ⟨_, _, .invalidate, rfl⟩
  case h_5 => exact ⟨_, _, .requestRebuild, rfl⟩
  case h_8 =>
    rcases hcurrent with hstate | hstate
    · exact ⟨_, _, .findLate _ hstate, rfl⟩
    · exact ⟨_, _, .begin _ hstate, rfl⟩
  case h_9 => exact ⟨_, _, .lookAgain, rfl⟩

end Moves

/-! ## Waiting in line -/

variable {ι : Type}

/-- A world, and what callers are held up by besides the locks that others hold. -/
structure Crowd (ι : Type) where
  world : World ι
  /-- Who waits in line to have the cache alone. -/
  waiting : ι → Bool
  /-- In whose build the compiler has called the cache back. -/
  calledBack : ι → Bool

namespace Crowd

/-- A cache that was just started, and that nobody has called yet. -/
def start (record : Option ArtifactRecord) (unitText : Option String)
    (schema : Except SchemaError Schema) (companions : Except GenerationError Companions) :
    Crowd ι :=
  { world := .start record unitText schema companions
    waiting := fun _ => false
    calledBack := fun _ => false }

/-- Whether the lock of the cache lets a reader in, as far as those who wait are concerned. -/
abbrev Policy (ι : Type) := Crowd ι → ι → Prop

/-- A reader is only ever held up for somebody who waits. -/
def Policy.Lawful (policy : Policy ι) : Prop :=
  ∀ crowd i, (∀ j, crowd.waiting j = false) → policy crowd i

variable [DecidableEq ι]

/-- One caller goes on. The compiler calls back while the build has the cache alone, so that the
callback can do nothing but give up, and the build stands still until then. -/
inductive Advances (options : Options) (policy : Policy ι) (crowd : Crowd ι) (i : ι) :
    Crowd ι → Prop where
  | move (deed : Deed) (w : World ι) (hstep : Step options crowd.world (.did i deed) w)
      (hcalledBack : crowd.calledBack i = false)
      (hadmitted : deed = .took .shared → policy crowd i) :
      Advances options policy crowd i
        { crowd with world := w, waiting := Function.update crowd.waiting i false }
  | giveUp (hcalledBack : crowd.calledBack i = true) :
      Advances options policy crowd i
        { crowd with calledBack := Function.update crowd.calledBack i false }

/-- What can happen next. -/
inductive Next (options : Options) (policy : Policy ι) (crowd : Crowd ι) : Crowd ι → Prop where
  | advance (i : ι) (crowd' : Crowd ι) (h : Advances options policy crowd i crowd') :
      Next options policy crowd crowd'
  | edit (w : World ι) (hstep : Step options crowd.world .edited w) :
      Next options policy crowd { crowd with world := w }
  /-- A caller that needs the cache alone gets in line. -/
  | wait (i : ι) (hneed : (crowd.world.phase i).need? = some (.cache .exclusive)) :
      Next options policy crowd { crowd with waiting := Function.update crowd.waiting i true }
  /-- The compiler calls back in a build that has read everything. -/
  | callBack (i : ι) (r : Request) (schema : Schema)
      (companions : Except GenerationError Companions)
      (hphase : crowd.world.phase i = .building r (.allRead schema companions)) :
      Next options policy crowd
        { crowd with calledBack := Function.update crowd.calledBack i true }

/-- Any number of steps. -/
inductive Reaches (options : Options) (policy : Policy ι) : Crowd ι → Crowd ι → Prop where
  | refl (crowd : Crowd ι) : Reaches options policy crowd crowd
  | next {crowd crowd' crowd'' : Crowd ι} (hnext : Next options policy crowd crowd')
      (hrest : Reaches options policy crowd' crowd'') : Reaches options policy crowd crowd''

/-- The locks exclude each other, who waits in line needs the cache alone, and who is called back
builds. -/
structure Orderly (crowd : Crowd ι) : Prop where
  excludes : Excludes crowd.world
  onTheWay : ∀ i, (crowd.world.phase i).OnTheWay
  need : ∀ i, crowd.waiting i = true → (crowd.world.phase i).need? = some (.cache .exclusive)
  builds : ∀ i, crowd.calledBack i = true → ∃ r progress, crowd.world.phase i = .building r progress

variable {policy : Policy ι} {crowd crowd' : Crowd ι} {i : ι}

theorem Orderly.advances (h : crowd.Orderly) (hadvances : Advances options policy crowd i crowd') :
    crowd'.Orderly := by
  cases hadvances with
  | move deed w hstep hcalledBack =>
    refine ⟨h.excludes.step hstep, fun j => ?_, fun j hj => ?_, fun j hj => ?_⟩
    all_goals
      cases hstep with
      | move _ _ c phase hmove hfree => ?_
    · show (Function.update crowd.world.phase i phase j).OnTheWay
      by_cases hji : j = i
      · rw [hji, Function.update_self]
        exact hmove.onTheWay
      · rw [Function.update_of_ne hji]
        exact h.onTheWay j
    · show (Function.update crowd.world.phase i phase j).need? = _
      by_cases hji : j = i
      · -- who goes on no longer waits
        subst hji
        dsimp only at hj
        rw [Function.update_self] at hj
        cases hj
      · dsimp only at hj
        rw [Function.update_of_ne hji] at hj ⊢
        exact h.need j hj
    · have hji : j ≠ i := by
        rintro rfl
        rw [hcalledBack] at hj
        cases hj
      obtain ⟨r, progress, hphase⟩ := h.builds j hj
      exact ⟨r, progress, (Function.update_of_ne hji ..).trans hphase⟩
  | giveUp hcalledBack =>
    refine ⟨h.excludes, h.onTheWay, h.need, fun j hj => h.builds j ?_⟩
    dsimp only at hj
    by_cases hji : j = i
    · rw [hji, hcalledBack]
    · rwa [Function.update_of_ne hji] at hj

theorem Orderly.step (h : crowd.Orderly) (hnext : Next options policy crowd crowd') :
    crowd'.Orderly := by
  cases hnext with
  | advance i _ hadvances => exact h.advances hadvances
  | edit w hstep =>
    have hexcludes := h.excludes.step hstep
    cases hstep with
    | edit => exact ⟨hexcludes, h.onTheWay, h.need, h.builds⟩
  | wait i hneed =>
    refine ⟨h.excludes, h.onTheWay, fun j hj => ?_, h.builds⟩
    dsimp only at hj
    by_cases hji : j = i
    · rw [hji, hneed]
    · rw [Function.update_of_ne hji] at hj
      exact h.need j hj
  | callBack i r schema companions hphase =>
    refine ⟨h.excludes, h.onTheWay, h.need, fun j hj => ?_⟩
    dsimp only at hj
    by_cases hji : j = i
    · exact ⟨r, _, hji ▸ hphase⟩
    · rw [Function.update_of_ne hji] at hj
      exact h.builds j hj

omit [DecidableEq ι] in
theorem orderly_start (record : Option ArtifactRecord) (unitText : Option String)
    (schema : Except SchemaError Schema) (companions : Except GenerationError Companions) :
    (start record unitText schema companions : Crowd ι).Orderly where
  excludes _ _ _ := ⟨nofun, nofun, nofun⟩
  onTheWay _ := trivial
  need := nofun
  builds := nofun

theorem Orderly.reaches (h : crowd.Orderly) (hreaches : Reaches options policy crowd crowd') :
    crowd'.Orderly := by
  induction hreaches with
  | refl => exact h
  | next hnext _ ih => exact ih (h.step hnext)

/-! ## Who can go on -/

/-- Who needs no lock can go on, if only to give up what the compiler called back for. -/
theorem Orderly.advances_of_need?_eq_none (h : crowd.Orderly) (haway : crowd.world.phase i ≠ .away)
    (hneed : (crowd.world.phase i).need? = none) :
    ∃ crowd', Advances options policy crowd i crowd' := by
  cases hcalledBack : crowd.calledBack i with
  | true => exact ⟨_, .giveUp hcalledBack⟩
  | false =>
    obtain ⟨deed, c, phase, hmove, hdeed⟩ := exists_move_of_need?_eq_none options
      crowd.world.schema crowd.world.companions crowd.world.cache haway (h.onTheWay i) hneed
    obtain ⟨w, hstep⟩ := h.excludes.step_of_move hmove hdeed
    exact ⟨_, .move deed w hstep hcalledBack fun heq => by rw [heq] at hdeed; cases hdeed⟩

omit [DecidableEq ι] in
/-- Who needs a lock was not called back. -/
theorem Orderly.calledBack_eq_false (h : crowd.Orderly) {need : Need}
    (hneed : (crowd.world.phase i).need? = some need) : crowd.calledBack i = false := by
  refine Bool.eq_false_iff.mpr fun hcalledBack => ?_
  obtain ⟨r, progress, hphase⟩ := h.builds i hcalledBack
  rw [hphase] at hneed
  cases hneed

/-- Nobody holds the lock of the cache, so that one who needs it alone can have it. -/
theorem Orderly.advances_of_exclusive (h : crowd.Orderly)
    (hnobody : ∀ j, (crowd.world.phase j).locks.cache = none)
    (hneed : (crowd.world.phase i).need? = some (.cache .exclusive)) :
    ∃ crowd', Advances options policy crowd i crowd' := by
  obtain ⟨c, phase, hmove, hlocks⟩ := exists_move_of_need?_eq_cache options
    crowd.world.schema crowd.world.companions crowd.world.cache hneed
  refine ⟨_, .move _ _ (.move i _ c phase hmove fun j hj => ?_) (h.calledBack_eq_false hneed) nofun⟩
  rw [hlocks]
  exact ⟨(h.excludes i j (Ne.symm hj)).compiler, fun _ => hnobody j,
    fun hheld => by rw [hnobody j] at hheld; cases hheld⟩

/-- Nobody holds any lock, and nobody waits in line, so that everybody can go on. -/
theorem Orderly.advances_of_free (h : crowd.Orderly) (hpolicy : policy.Lawful)
    (hnobody : ∀ j, (crowd.world.phase j).locks = .free) (hline : ∀ j, crowd.waiting j = false)
    {need : Need} (hneed : (crowd.world.phase i).need? = some need) :
    ∃ crowd', Advances options policy crowd i crowd' := by
  have hfree (l : Locks) (j : ι) : l.Compatible (crowd.world.phase j).locks := by
    rw [hnobody j]
    exact ⟨fun _ => rfl, fun _ => rfl, nofun⟩
  cases need with
  | compiler =>
    obtain ⟨c, phase, hmove, -⟩ := exists_move_of_need?_eq_compiler options
      crowd.world.schema crowd.world.companions crowd.world.cache hneed
    exact ⟨_, .move _ _ (.move i _ c phase hmove fun j _ => hfree _ j)
      (h.calledBack_eq_false hneed) nofun⟩
  | cache mode =>
    obtain ⟨c, phase, hmove, -⟩ := exists_move_of_need?_eq_cache options
      crowd.world.schema crowd.world.companions crowd.world.cache hneed
    exact ⟨_, .move _ _ (.move i _ c phase hmove fun j _ => hfree _ j)
      (h.calledBack_eq_false hneed) fun _ => hpolicy crowd i hline⟩

omit [DecidableEq ι] in
/-- Who is away or needs a lock does not hold the lock of the cache, and the lock of the compiler
only if it needs to have the cache alone. -/
theorem held_of_need {phase : Phase} (h : phase ≠ .away → phase.need? ≠ none) :
    phase.locks.cache = none ∧
      (phase.locks.compiler = true → phase.need? = some (.cache .exclusive)) := by
  by_cases haway : phase = .away
  · rw [haway]
    exact ⟨rfl, nofun⟩
  · obtain ⟨need, hneed⟩ := Option.ne_none_iff_exists'.mp (h haway)
    cases need with
    | compiler =>
      rw [Phase.need?_eq_compiler hneed]
      exact ⟨rfl, nofun⟩
    | cache mode =>
      obtain ⟨hcache, hcompiler⟩ := Phase.need?_eq_cache hneed
      refine ⟨hcache, fun hheld => ?_⟩
      rw [hneed, hcompiler hheld]

/-- **There is no deadlock.** Take any number of callers, builds that succeed or fail in any way, a
compiler that calls back whenever it likes, and a lock that holds up readers for those who wait in
line in any way. Whatever has happened, as long as anybody is in a call, one of those who are can go
on. -/
theorem Reaches.somebody_advances {record : Option ArtifactRecord} {unitText : Option String}
    {schema : Except SchemaError Schema} {companions : Except GenerationError Companions}
    (hpolicy : policy.Lawful)
    (h : Reaches options policy (start record unitText schema companions) crowd)
    (hcall : crowd.world.phase i ≠ .away) :
    ∃ j crowd', crowd.world.phase j ≠ .away ∧ Advances options policy crowd j crowd' := by
  have horderly := (orderly_start record unitText schema companions).reaches h
  by_cases hneedless : ∃ j, crowd.world.phase j ≠ .away ∧ (crowd.world.phase j).need? = none
  · -- somebody needs no lock
    obtain ⟨j, haway, hneed⟩ := hneedless
    obtain ⟨crowd', hadvances⟩ := horderly.advances_of_need?_eq_none haway hneed
    exact ⟨j, crowd', haway, hadvances⟩
  · -- so that nobody holds the lock of the cache
    have hneeds (j : ι) : crowd.world.phase j ≠ .away → (crowd.world.phase j).need? ≠ none :=
      fun haway hneed => hneedless ⟨j, haway, hneed⟩
    have hnobody (j : ι) : (crowd.world.phase j).locks.cache = none := (held_of_need (hneeds j)).1
    by_cases halone : ∃ j, (crowd.world.phase j).need? = some (.cache .exclusive)
    · obtain ⟨j, hneed⟩ := halone
      obtain ⟨crowd', hadvances⟩ := horderly.advances_of_exclusive hnobody hneed
      refine ⟨j, crowd', ?_, hadvances⟩
      intro haway
      rw [haway] at hneed
      cases hneed
    · -- nor the lock of the compiler, and nobody waits in line
      have hfree (j : ι) : (crowd.world.phase j).locks = .free := by
        have hcompiler : (crowd.world.phase j).locks.compiler = false :=
          Bool.eq_false_iff.mpr fun hheld => halone ⟨j, (held_of_need (hneeds j)).2 hheld⟩
        have hcache := hnobody j
        generalize (crowd.world.phase j).locks = held at hcompiler hcache
        cases held
        cases hcompiler
        cases hcache
        rfl
      have hline (j : ι) : crowd.waiting j = false :=
        Bool.eq_false_iff.mpr fun hwaits => halone ⟨j, horderly.need j hwaits⟩
      obtain ⟨need, hneed⟩ := Option.ne_none_iff_exists'.mp (hneeds i hcall)
      obtain ⟨crowd', hadvances⟩ := horderly.advances_of_free hpolicy hfree hline hneed
      exact ⟨i, crowd', hcall, hadvances⟩

end Crowd

/-! ### A reader behind an invalidation

A lock that is as strict as can be lets no reader in while anybody waits in line. One caller reads, its
build is called back and fails, and before it has looked again another one gets in line. -/

namespace HeldUp

open Crowd
open Interrupted (pair step_left step_right cold)

def strict : Policy Bool := fun crowd _ => ∀ j, crowd.waiting j = false

def rejecting : Surroundings := { Surroundings.fairWeather with compile := fun _ => .error [] }

/-- The cache after the build that fails. -/
def failed : Cache := (cold.build rejecting {}).2.1

/-- Two callers of which only the first can be called back, and only the second can wait in line. -/
def crowd (c : Cache) (phase phase' : Phase) (waits calledBack : Bool) : Crowd Bool where
  world := pair (.ok []) c phase phase'
  waiting who := who && waits
  calledBack who := !who && calledBack

variable {c c' : Cache} {phase phase' next next' : Phase} {deed : Deed} {who : Bool}

theorem next_of_step (hstep : Step {} (pair (.ok []) c phase phase') (.did who deed)
      (pair (.ok []) c' next next')) :
    Next {} strict (crowd c phase phase' false false) (crowd c' next next' false false) := by
  have hnext : crowd c' next next' false false = { crowd c phase phase' false false with
      world := pair (.ok []) c' next next'
      waiting := Function.update (fun who => who && false) who false } := by
    unfold crowd
    congr 1
    funext other
    cases other <;> cases who <;> rfl
  rw [hnext]
  exact .advance who _ (.move deed _ hstep (by cases who <;> rfl) fun _ j => by cases j <;> rfl)

theorem next_waiting (hneed : phase'.need? = some (.cache .exclusive)) :
    Next {} strict (crowd c phase phase' false false) (crowd c phase phase' true false) := by
  have hnext : crowd c phase phase' true false = { crowd c phase phase' false false with
      waiting := Function.update (fun who => who && false) true true } := by
    unfold crowd
    congr 1
    funext who
    cases who <;> rfl
  rw [hnext]
  exact .wait true hneed

theorem next_calledBack (r : Request) (schema : Schema)
    (companions : Except GenerationError Companions) (calledBack : Bool) :
    Next {} strict (crowd c (.building r (.allRead schema companions)) phase' false calledBack)
      (crowd c (.building r (.allRead schema companions)) phase' false (!calledBack)) := by
  have hnext (b : Bool) : crowd c (.building r (.allRead schema companions)) phase' false (!b) =
      { crowd c (.building r (.allRead schema companions)) phase' false b with
        calledBack := Function.update (fun who => !who && b) false (!b) } := by
    unfold crowd
    congr 1
    funext who
    cases who <;> rfl
  rw [hnext]
  cases calledBack with
  | false => exact .callBack false r schema companions rfl
  | true => exact .advance false _ (.giveUp rfl)

/-- The first caller is about to look again, and the second one waits in line. -/
def last : Crowd Bool :=
  crowd failed (.leaving .free none) (.called (.request .invalidate)) true false

theorem reaches_last : Reaches {} strict (start none none (.ok []) (.ok .empty)) last := by
  have hcold : cold.state ≠ .valid := by decide
  obtain ⟨e, hfailed⟩ : ∃ e, cold.build rejecting {} =
      (.error e, failed, (cold.build rejecting {}).2.2) :=
    Cache.build_of_not_valid (by decide +kernel)
  have hfree : Locks.all.Compatible Phase.away.locks := by decide
  have hstart : start none none (.ok []) (.ok .empty) = crowd cold .away .away false false := by
    unfold start crowd World.start pair
    congr 1
    · congr 1
      funext who
      cases who <;> rfl
    · funext who
      cases who <;> rfl
    · funext who
      cases who <;> rfl
  rw [hstart]
  exact
    .next (next_of_step (step_left (.call (.request .read)) (by decide))) <|
    .next (next_of_step (step_left (.miss _ rfl hcold) (by decide))) <|
    .next (next_of_step (step_left (.turnAway _) (by decide))) <|
    .next (next_of_step (step_left (.queue _) (by decide))) <|
    .next (next_of_step (step_left (.begin _ hcold) (by decide))) <|
    .next (next_of_step (step_left (.readSchema _) (by decide))) <|
    .next (next_of_step (step_left (.readCompanions _ _) (by decide))) <|
    .next (next_calledBack _ _ _ false) <|
    .next (next_calledBack _ _ _ true) <|
    .next (next_of_step (step_left (.fail _ _ rejecting _ _ _ ⟨rfl, rfl⟩ hfailed) hfree)) <|
    .next (next_of_step (step_left (.release _ _ none) (by decide))) <|
    .next (next_of_step (step_left (.releaseCompiler none) (by decide))) <|
    .next (next_of_step (step_right (.call (.request .invalidate)) (by decide))) <|
    .next (next_waiting rfl) <|
    .refl _

/-- The reader is held up by the one in line, but not for ever: somebody can go on. -/
theorem held_up_not_stuck :
    (∀ crowd', ¬ Advances {} strict last false crowd') ∧
      ∃ who crowd', last.world.phase who ≠ .away ∧ Advances {} strict last who crowd' := by
  refine ⟨fun crowd' h => ?_, ?_⟩
  · cases h with
    | move deed w hstep _ hadmitted =>
      obtain ⟨_, _, _, rfl, -, hmove⟩ := hstep.exists_move
      have hphase : last.world.phase false = .leaving .free none := rfl
      rw [hphase] at hmove
      cases hmove with
      | lookAgain => exact absurd (hadmitted rfl true) nofun
    | giveUp hcalledBack => cases hcalledBack
  · have hlawful : Policy.Lawful strict := fun _ _ h => h
    exact Reaches.somebody_advances hlawful reaches_last (i := false) nofun

end HeldUp

end ModelCache.Callers
