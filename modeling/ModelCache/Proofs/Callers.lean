import Mathlib.Logic.Function.Basic
import ModelCache.Proofs.Cache.Session

/-!
# Callers side by side

A cache is called by any number of callers at once. Two locks keep them apart: the lock of the
compiler, which a build takes first, and the lock of the cache, which a build and an invalidation
take for themselves alone and everybody else shares. In between anything can happen, and the schema
and the companion sources can be edited at any time, also while a build reads them.

* **`Move`** — what a caller can do next, one constructor for each step between two points at which
  somebody else can get in: taking or releasing a lock, one of the two reads of a build, the rest of
  the build.
* **`Step`** — an edit, or a move of one caller for which the locks are free.
* **`Run`** — any interleaving of such steps, with the log of what was done. Positions in the log are
  points in time.
* **`Run.excludes`** and **`Excludes.step_of_move`** — the locks do exclude each other, and nobody waits
  except for a lock.
-/

namespace ModelCache

namespace Callers

/-! ## Locks -/

/-- How the lock of the cache is held. -/
inductive Mode where
  | shared
  | exclusive
  deriving DecidableEq

/-- The locks that a caller holds. -/
structure Locks where
  /-- The lock of the compiler. -/
  compiler : Bool
  cache : Option Mode
  deriving DecidableEq

namespace Locks

def free : Locks := ⟨false, none⟩

def compiling : Locks := ⟨true, none⟩

def shared : Locks := ⟨false, some .shared⟩

def exclusive : Locks := ⟨false, some .exclusive⟩

def all : Locks := ⟨true, some .exclusive⟩

/-- Whether two callers can hold these locks at the same time. -/
structure Compatible (l l' : Locks) : Prop where
  compiler : l.compiler = true → l'.compiler = false
  cache : l.cache = some .exclusive → l'.cache = none
  cache' : l'.cache = some .exclusive → l.cache = none

/-- Whether someone with the locks `l` holds none that is not among `l'`. -/
structure Within (l l' : Locks) : Prop where
  compiler : l.compiler = true → l'.compiler = true
  cache : l.cache = none ∨ l.cache = l'.cache

variable {l l' m : Locks}

instance : Decidable (l.Compatible l') :=
  decidable_of_iff ((l.compiler = true → l'.compiler = false) ∧
      (l.cache = some .exclusive → l'.cache = none) ∧ (l'.cache = some .exclusive → l.cache = none))
    ⟨fun ⟨h, h', h''⟩ => ⟨h, h', h''⟩, fun ⟨h, h', h''⟩ => ⟨h, h', h''⟩⟩

theorem Compatible.symm (h : l.Compatible l') : l'.Compatible l where
  compiler hl' := by
    cases hl : l.compiler with
    | false => rfl
    | true => rw [h.compiler hl] at hl'; cases hl'
  cache := h.cache'
  cache' := h.cache

theorem Compatible.mono (h : l'.Compatible m) (hl : l.Within l') : l.Compatible m where
  compiler hcompiler := h.compiler (hl.compiler hcompiler)
  cache hcache := by
    rcases hl.cache with heq | heq
    · rw [heq] at hcache
      cases hcache
    · exact h.cache (heq ▸ hcache)
  cache' hcache := by
    rcases hl.cache with heq | heq
    · exact heq
    · rw [heq]
      exact h.cache' hcache

end Locks

/-! ## What a caller does -/

/-- What a caller comes for. -/
inductive Errand where
  | request (r : Request)
  | status
  /-- A compilation of something else, to which the published module is attached. -/
  | compilation

/-- What a caller gets. -/
inductive Answer where
  | done
  /-- The current set, or why it cannot be had. -/
  | current (result : Except BuildError ModelSet)
  /-- Some set to read types from. -/
  | readable (set : ModelSet)
  | status (s : CacheStatus)
  | dependency (module : Option Module)

/-- The answer to someone who asked for a set and gets one. -/
def Answer.given (set : ModelSet) : Request → Answer
  | .ensure => .current (.ok set)
  | .read | .invalidate | .requestRebuild | .pathChanged _ => .readable set

/-- The answer to someone whose build failed. Who wants some set has none yet, and looks again. -/
def Answer.afterFailure (e : BuildError) : Request → Option Answer
  | .ensure => some (.current (.error e))
  | .read | .invalidate | .requestRebuild | .pathChanged _ => none

/-- How far a build has come with its two reads. -/
inductive Progress where
  | begun
  | schemaRead (schema : Except SchemaError Schema)
  | allRead (schema : Schema) (companions : Except GenerationError Companions)

/-- What a build has read is what the rest of it goes by. A schema that cannot be had ends the reads. -/
def Progress.Completed (around : Surroundings) : Progress → Prop
  | .begun => False
  | .schemaRead schema => (∃ e, schema = .error e) ∧ around.schema = schema
  | .allRead schema companions => around.schema = .ok schema ∧ around.companions = companions

/-- Where a caller is in a call. -/
inductive Phase where
  | away
  | called (errand : Errand)
  /-- On the way from the discovery that no set is current to a build. -/
  | missed (r : Request) (held : Locks)
  | building (r : Request) (progress : Progress)
  /-- About to attach the published module to some compilation. -/
  | attaching
  /-- On the way out. -/
  | leaving (held : Locks) (answer : Option Answer)

def Phase.locks : Phase → Locks
  | .away | .called _ => .free
  | .missed _ held => held
  | .building _ _ => .all
  | .attaching => .compiling
  | .leaving held _ => held

inductive Deed where
  | called (errand : Errand)
  | tookCompiler
  | took (mode : Mode)
  | released (mode : Mode)
  | releasedCompiler
  | readSchema
  | readCompanions
  | published (set : ModelSet)
  | failed (e : BuildError)
  /-- A path was looked at, to see whether the cache wrote it itself. -/
  | looked
  /-- The wait for the lock of the cache took too long. -/
  | gaveUp
  | returned (answer : Answer)

/-- What a caller can do next, if the schema and the companion sources are the given ones: from one
phase to the next, and from one cache to the next. Whoever changes the cache has it alone from
before to after the change, so that the change can be put where the lock is taken. -/
inductive Move (options : Options) (schema : Except SchemaError Schema)
    (companions : Except GenerationError Companions) (c : Cache) :
    Phase → Deed → Cache → Phase → Prop where
  | call (errand : Errand) :
      Move options schema companions c .away (.called errand) c (.called errand)
  | find (r : Request) (hwants : r.wantsSet = true) (hstate : c.state = .valid) :
      Move options schema companions c (.called (.request r)) (.took .shared)
        c (.leaving .shared (some (.given c.published r)))
  | miss (r : Request) (hwants : r.wantsSet = true) (hstate : c.state ≠ .valid) :
      Move options schema companions c (.called (.request r)) (.took .shared) c (.missed r .shared)
  | turnAway (r : Request) :
      Move options schema companions c (.missed r .shared) (.released .shared) c (.missed r .free)
  | queue (r : Request) :
      Move options schema companions c (.missed r .free) .tookCompiler c (.missed r .compiling)
  | findLate (r : Request) (hstate : c.state = .valid) :
      Move options schema companions c (.missed r .compiling) (.took .exclusive)
        c (.leaving .all (some (.given c.published r)))
  | begin (r : Request) (hstate : c.state ≠ .valid) :
      Move options schema companions c (.missed r .compiling) (.took .exclusive)
        c (.building r .begun)
  | readSchema (r : Request) :
      Move options schema companions c (.building r .begun) .readSchema
        c (.building r (.schemaRead schema))
  | readCompanions (r : Request) (s : Schema) :
      Move options schema companions c (.building r (.schemaRead (.ok s))) .readCompanions
        c (.building r (.allRead s companions))
  | publish (r : Request) (progress : Progress) (around : Surroundings) (set : ModelSet) (c' : Cache)
      (events : List Event) (hread : progress.Completed around)
      (hbuild : c.build around options = (.ok set, c', events)) :
      Move options schema companions c (.building r progress) (.published set)
        c' (.leaving .all (some (.given set r)))
  | fail (r : Request) (progress : Progress) (around : Surroundings) (e : BuildError) (c' : Cache)
      (events : List Event) (hread : progress.Completed around)
      (hbuild : c.build around options = (.error e, c', events)) :
      Move options schema companions c (.building r progress) (.failed e)
        c' (.leaving .all (Answer.afterFailure e r))
  | lookAgain :
      Move options schema companions c (.leaving .free none) (.took .shared)
        c (.leaving .shared (some (.readable c.published)))
  | invalidate :
      Move options schema companions c (.called (.request .invalidate)) (.took .exclusive)
        c.invalidate.1 (.leaving .exclusive (some .done))
  | requestRebuild :
      Move options schema companions c (.called (.request .requestRebuild)) (.took .exclusive)
        c.requestRebuild.1 (.leaving .exclusive (some .done))
  | ignorePath (path : Path) (howned : path.isOwned = true) :
      Move options schema companions c (.called (.request (.pathChanged path))) .looked
        c (.leaving .free (some .done))
  | heedPath (path : Path) (howned : path.isOwned = false) :
      Move options schema companions c (.called (.request (.pathChanged path))) .looked
        c (.called (.request .invalidate))
  | status :
      Move options schema companions c (.called .status) (.took .shared)
        c (.leaving .shared (some (.status c.status)))
  | compile :
      Move options schema companions c (.called .compilation) .tookCompiler c .attaching
  | attach :
      Move options schema companions c .attaching (.took .shared)
        c (.leaving ⟨true, some .shared⟩ (some (.dependency c.published.module)))
  | giveUp :
      Move options schema companions c .attaching .gaveUp
        c (.leaving .compiling (some (.dependency none)))
  | release (compiler : Bool) (mode : Mode) (answer : Option Answer) :
      Move options schema companions c (.leaving ⟨compiler, some mode⟩ answer) (.released mode)
        c (.leaving ⟨compiler, none⟩ answer)
  | releaseCompiler (answer : Option Answer) :
      Move options schema companions c (.leaving .compiling answer) .releasedCompiler
        c (.leaving .free answer)
  | finish (answer : Answer) :
      Move options schema companions c (.leaving .free (some answer)) (.returned answer) c .away

/-! ## Everybody together -/

variable {ι : Type}

/-- The cache, its callers, and what its builds read. -/
structure World (ι : Type) where
  schema : Except SchemaError Schema
  companions : Except GenerationError Companions
  cache : Cache
  phase : ι → Phase

/-- A cache that was just started, and that nobody has called yet. -/
def World.start (record : Option ArtifactRecord) (unitText : Option String)
    (schema : Except SchemaError Schema) (companions : Except GenerationError Companions) : World ι :=
  { schema, companions, cache := Cache.start record unitText, phase := fun _ => .away }

inductive Label (ι : Type) where
  /-- The schema or the companion sources were edited. -/
  | edited
  | did (who : ι) (deed : Deed)

/-! ## Times -/

variable {log : List (Label ι)} {l : Label ι}

/-- What was done in a log that has just grown was done before, or just now. -/
theorem getElem?_concat {t : Nat} {x : Label ι} :
    (log ++ [l])[t]? = some x ↔ log[t]? = some x ∨ t = log.length ∧ l = x := by
  rcases Nat.lt_trichotomy t log.length with h | rfl | h
  · rw [List.getElem?_append_left h]
    exact ⟨.inl, fun h' => h'.elim id fun h' => absurd h'.1 (Nat.ne_of_lt h)⟩
  · rw [List.getElem?_concat_length, List.getElem?_eq_none (Nat.le_refl _)]
    simp
  · rw [List.getElem?_eq_none (by simp; omega), List.getElem?_eq_none (Nat.le_of_lt h)]
    simp [Nat.ne_of_gt h]

theorem getElem?_append {l : Label ι} {u : Nat} (h : log[u]? = some l) (rest : List (Label ι)) :
    (log ++ rest)[u]? = some l := by
  rw [List.getElem?_append_left (List.getElem?_eq_some_iff.mp h).1, h]

/-- A call, by the times at which it is made and answered. -/
structure Spans (log : List (Label ι)) (i : ι) (errand : Errand) (t t' : Nat) (answer : Answer) :
    Prop where
  called : log[t]? = some (.did i (.called errand))
  returned : log[t']? = some (.did i (.returned answer))
  lt : t < t'
  open_until : ∀ u, t < u → u < t' → ∀ a, log[u]? ≠ some (.did i (.returned a))

/-! ## Runs -/

variable {options : Options} {w w' : World ι} [DecidableEq ι]

/-- One step of the world. A caller moves if nobody else holds a lock that stands in the way of those
that the caller holds afterwards. -/
inductive Step (options : Options) (w : World ι) : Label ι → World ι → Prop where
  | edit (schema : Except SchemaError Schema) (companions : Except GenerationError Companions) :
      Step options w .edited { w with schema, companions }
  | move (i : ι) (deed : Deed) (c : Cache) (phase : Phase)
      (hmove : Move options w.schema w.companions w.cache (w.phase i) deed c phase)
      (hfree : ∀ j, j ≠ i → phase.locks.Compatible (w.phase j).locks) :
      Step options w (.did i deed) { w with cache := c, phase := Function.update w.phase i phase }

/-- Any number of steps, with the log of what was done, oldest first. -/
def Run (options : Options) : World ι → List (Label ι) → World ι → Prop
  | w, [], w' => w = w'
  | w, l :: rest, w' => ∃ v, Step options w l v ∧ Run options v rest w'

/-- After a move, a caller is where it moved to, or is another one and where it was. -/
theorem eq_of_update {f : ι → Phase} {i k : ι} {p q : Phase} (h : Function.update f i p k = q) :
    k = i ∧ p = q ∨ k ≠ i ∧ f k = q := by
  by_cases hki : k = i
  · subst hki
    rw [Function.update_self] at h
    exact .inl ⟨rfl, h⟩
  · rw [Function.update_of_ne hki] at h
    exact .inr ⟨hki, h⟩

/-- What a caller did was a move of its own. -/
theorem Step.exists_move {i : ι} {deed : Deed} (h : Step options w (.did i deed) w') :
    ∃ phase c phase', w.phase i = phase ∧ w'.phase i = phase' ∧
      Move options w.schema w.companions w.cache phase deed c phase' := by
  cases h with
  | move _ _ c phase hmove => exact ⟨_, c, phase, rfl, Function.update_self .., hmove⟩

theorem run_append {before after : List (Label ι)} :
    Run options w (before ++ after) w' ↔
      ∃ v, Run options w before v ∧ Run options v after w' := by
  induction before generalizing w with
  | nil => simp [Run]
  | cons l rest ih => simp only [List.cons_append, Run, ih]; grind

/-- What is done at some time is a step between two parts of the run. -/
theorem Run.split (h : Run options w log w') {t : Nat} (ht : log[t]? = some l) :
    ∃ u v, Run options w (log.take t) u ∧ Step options u l v ∧ Run options v (log.drop (t + 1)) w' := by
  obtain ⟨hlt, rfl⟩ := List.getElem?_eq_some_iff.mp ht
  rw [← List.take_append_drop t log, run_append] at h
  obtain ⟨u, hbefore, hafter⟩ := h
  rw [List.drop_eq_getElem_cons hlt] at hafter
  obtain ⟨v, hstep, hrest⟩ := hafter
  exact ⟨u, v, hbefore, hstep, hrest⟩

/-- What every step keeps as the log goes on holds at the end. -/
theorem Run.keeps {P : List (Label ι) → World ι → Prop} (before : List (Label ι))
    (hstep : ∀ log w l w', P log w → Step options w l w' → P (log ++ [l]) w')
    (h : Run options w log w') (hstart : P before w) : P (before ++ log) w' := by
  induction log generalizing before w with
  | nil =>
    obtain rfl : w = w' := h
    rwa [List.append_nil]
  | cons l rest ih =>
    obtain ⟨v, hfirst, hrest⟩ := h
    rw [List.append_cons]
    exact ih _ hrest (hstep before w l v hstart hfirst)

/-- A run up to some time, cut at an earlier one: what holds right after that and is kept by every
step holds at the end. -/
theorem Run.cut {t t' : Nat} (h : Run options w (log.take t') w') (ht : log[t]? = some l)
    (hlt : t < t') :
    ∃ u v, Run options w (log.take t) u ∧ Step options u l v ∧
      ∀ P : List (Label ι) → World ι → Prop,
        (∀ log w l w', P log w → Step options w l w' → P (log ++ [l]) w') →
          P (log.take t ++ [l]) v → P (log.take t') w' := by
  have ht' : (log.take t')[t]? = some l := by rw [List.getElem?_take_of_lt hlt, ht]
  obtain ⟨u, v, hbefore, hstep, hafter⟩ := h.split ht'
  rw [List.take_take, Nat.min_eq_left (Nat.le_of_lt hlt)] at hbefore
  refine ⟨u, v, hbefore, hstep, fun P hkeep hstart => ?_⟩
  have hend := hafter.keeps _ hkeep hstart
  have hsucc : log.take t ++ [l] = (log.take t').take (t + 1) := by
    rw [List.take_take, Nat.min_eq_left hlt, List.take_add_one, ht]
    rfl
  rwa [hsucc, List.take_append_drop] at hend

/-! ### Locks in a run -/

/-- The locks that any two callers hold do not stand in each other's way. -/
def Excludes (w : World ι) : Prop :=
  ∀ i j, i ≠ j → (w.phase i).locks.Compatible (w.phase j).locks

theorem Excludes.step (hexcludes : Excludes w) (h : Step options w l w') : Excludes w' := by
  cases h with
  | edit => exact hexcludes
  | move i deed c phase hmove hfree =>
    intro j k hjk
    dsimp only
    by_cases hj : j = i
    · subst hj
      rw [Function.update_self, Function.update_of_ne (Ne.symm hjk)]
      exact hfree k (Ne.symm hjk)
    · by_cases hk : k = i
      · subst hk
        rw [Function.update_self, Function.update_of_ne hj]
        exact (hfree j hj).symm
      · rw [Function.update_of_ne hj, Function.update_of_ne hk]
        exact hexcludes j k hjk

/-- **Mutual exclusion.** At no time do two callers hold locks that exclude each other. -/
theorem Run.excludes {record : Option ArtifactRecord} {unitText : Option String}
    {schema : Except SchemaError Schema} {companions : Except GenerationError Companions}
    (h : Run options (World.start record unitText schema companions) log w) : Excludes w :=
  h.keeps (P := fun _ w => Excludes w) [] (fun _ _ _ _ => Excludes.step)
    fun _ _ _ => ⟨nofun, nofun, nofun⟩

/-- Whether something that a caller does is to take a lock. -/
def Deed.takes : Deed → Bool
  | .tookCompiler | .took _ => true
  | .called _ | .released _ | .releasedCompiler | .readSchema | .readCompanions | .published _
  | .failed _ | .looked | .gaveUp | .returned _ => false

theorem Move.within {schema : Except SchemaError Schema}
    {companions : Except GenerationError Companions} {c c' : Cache} {phase phase' : Phase}
    {deed : Deed} (h : Move options schema companions c phase deed c' phase')
    (hdeed : deed.takes = false) : phase'.locks.Within phase.locks := by
  cases h with
  | find | miss | queue | findLate | begin | lookAgain | invalidate | requestRebuild | status
  | compile | attach => cases hdeed
  | turnAway | release => exact ⟨id, .inl rfl⟩
  | releaseCompiler => exact ⟨nofun, .inl rfl⟩
  | _ => exact ⟨id, .inr rfl⟩

/-- **Only who takes a lock ever waits.** Everything else that a caller can do next it can do at
once. -/
theorem Excludes.step_of_move (hexcludes : Excludes w) {i : ι} {deed : Deed} {c : Cache}
    {phase : Phase} (hmove : Move options w.schema w.companions w.cache (w.phase i) deed c phase)
    (hdeed : deed.takes = false) : ∃ w', Step options w (.did i deed) w' :=
  ⟨_, .move i deed c phase hmove fun j hj =>
    (hexcludes i j (Ne.symm hj)).mono (hmove.within hdeed)⟩

end Callers

end ModelCache
