import ModelCache.Proofs.History.Start
import ModelCache.Proofs.Store.Unmixed

/-!
# Crashes

Caches run one after another over one cache directory, and any of them can be killed in the middle of
a call, between two file operations. Each single operation happens wholly or not at all, but a record
takes several, and so does clearing it. What a process leaves behind that is killed is found by the
next one that is started.

* **`Turn`** — a cache is started, or called, or called and killed in the course of it.
* **`History.play`** — a history after some turns, and `History.saving`, the records that a turn has
  begun to save.
* **`History.Guarded`** — the directory holds unmixed parts, and the cache that runs knows the version
  of the unit there. A start sees to it again (`Guarded.start`), and no call, finished or not, leaves
  anything else behind (`Guarded.call`, `Guarded.killed`).
* **`History.loadRecord_play`** — a record that can be loaded is one that a single turn was saving.
-/

namespace ModelCache

open Bench (Shelf StoreSite)

/-! ## Being killed -/

namespace Bench.Shelf

/-- What is left when a process is killed in the course of some events: the first `done` of them have
happened, and of the file operations of the next one the first `operations`. -/
def brokenOff (dir : Path) (s : Shelf) (events : List Event) (done operations : Nat) : Shelf :=
  let before := (recordStore (.directory dir)).run s (events.take done)
  let ops := ((events[done]?).elim [] (Disk.opsOf dir)).take operations
  { before with files := FileOp.runEach before.files ops }

variable {dir : Path} {s : Shelf} {ps : Parts}

open Disk (Holds)

theorem holds_brokenOff (h : Holds dir s.files ps) (events : List Event) (done operations : Nat) :
    Holds dir (s.brokenOff dir events done operations).files
      (ps.changed (Parts.changesUpTo events done operations)) := by
  have hrun := holds_run h (events.take done)
  unfold brokenOff Parts.changesUpTo
  rw [Parts.changed_append]
  cases events[done]? with
  | none => simpa [FileOp.runEach, Parts.changed] using hrun
  | some e =>
    dsimp only [Option.elim]
    rw [Disk.opsOf_eq, ← List.map_take]
    exact hrun.runEach _

end Bench.Shelf

/-- Something that happens over a cache directory. -/
inductive Turn where
  /-- A cache is started, or the one that runs is called and comes to the end of it. -/
  | move (m : Move)
  /-- The cache that runs is called, and its process is killed: of what the call does, the first
  `done` things have been done, and of the file operations of the next one the first `operations`. -/
  | killed (around : Surroundings) (request : Request) (done operations : Nat)

namespace History

variable (dir : Path)

/-- What a turn has begun to do at the store. -/
def begun (h : History Shelf) : Turn → List Event
  | .move m => h.events (Shelf.recordStore (.directory dir)) m
  | .killed around request done _ =>
    (h.events (Shelf.recordStore (.directory dir)) (.call around request)).take (done + 1)

/-- The records that a turn has begun to save. -/
def saving (h : History Shelf) (t : Turn) : List ArtifactRecord :=
  (h.begun dir t).flatMap Event.saved

/-- The history after a turn. A cache that was killed does not run any more. -/
def turn (h : History Shelf) : Turn → History Shelf
  | .move m => h.next (Shelf.recordStore (.directory dir)) m
  | .killed around request done operations =>
    let S := Shelf.recordStore (.directory dir)
    ⟨h.store.brokenOff dir (h.events S (.call around request)) done operations,
      (h.next S (.call around request)).sessions, none⟩

def play (h : History Shelf) (turns : List Turn) : History Shelf := turns.foldl (turn dir) h

/-- The records that some turns have begun to save, oldest first. -/
def allSaving : History Shelf → List Turn → List ArtifactRecord
  | _, [] => []
  | h, t :: rest => h.saving dir t ++ allSaving (h.turn dir t) rest

variable {dir} {saved : List ArtifactRecord} {ps : Parts} {h : History Shelf}

theorem mem_allSaving {r : ArtifactRecord} {turns : List Turn} (hr : r ∈ h.allSaving dir turns) :
    ∃ before t after, turns = before ++ t :: after ∧ r ∈ (h.play dir before).saving dir t := by
  induction turns generalizing h with
  | nil => cases hr
  | cons t rest ih =>
    rcases List.mem_append.mp hr with hr | hr
    · exact ⟨[], t, rest, rfl, hr⟩
    · obtain ⟨before, t', after, rfl, hmem⟩ := ih hr
      exact ⟨t :: before, t', after, rfl, hmem⟩

/-! ## One turn -/

/-- The directory holds parts that are unmixed, and the cache that runs knows how far their versions
have come. -/
structure Guarded (dir : Path) (saved : List ArtifactRecord) (ps : Parts) (h : History Shelf) :
    Prop where
  holds : Disk.Holds dir h.store.files ps
  unmixed : ps.Unmixed saved
  sound : ∀ s, h.running = some s → s.cache.versions.Sound
  known : ∀ s, h.running = some s → ps.HeaderKnown s.cache.versions

theorem Guarded.start (hguarded : Guarded dir saved ps h) (options : Options) :
    Guarded dir saved ps (h.next (Shelf.recordStore (.directory dir)) (.start options)) := by
  refine ⟨hguarded.holds, hguarded.unmixed, fun s hs => ?_, fun s hs v hv => ?_⟩
  · obtain rfl := Option.some.inj hs
    exact Session.sound_start _ _
  · obtain rfl := Option.some.inj hs
    -- the unit that is found at the start is the one among the parts
    have hheader : h.store.headerVersion? (.directory dir) = some v := by
      show ((Disk.loadUnit dir h.store.files).bind BuildUnit.parseHeader).map Prod.fst = some v
      rw [hguarded.holds.loadUnit]
      exact hv
    have hinUse := Shelf.inUse_start h.store (.directory dir)
    rw [hheader] at hinUse
    exact UInt64.le_of_eq hinUse.symm

theorem Guarded.unmixedThrough (hguarded : Guarded dir saved ps h) (around : Surroundings)
    (request : Request) :
    ps.UnmixedThrough saved
      (h.events (Shelf.recordStore (.directory dir)) (.call around request)) := by
  unfold events
  cases hrunning : h.running with
  | none => exact hguarded.unmixed
  | some s =>
    exact Call.unmixedThrough (hguarded.sound s hrunning) hguarded.unmixed
      (hguarded.known s hrunning)

theorem Guarded.call (hguarded : Guarded dir saved ps h) (around : Surroundings)
    (request : Request) :
    ∃ ps', Guarded dir (saved ++ h.saving dir (.move (.call around request))) ps'
      (h.next (Shelf.recordStore (.directory dir)) (.call around request)) := by
  have hunmixed := (hguarded.unmixedThrough around request).atEnd
  cases hrunning : h.running with
  | none =>
    rw [next_call_of_none hrunning]
    exact ⟨ps, hguarded.holds, hguarded.unmixed.mono fun r hr => List.mem_append_left _ hr,
      hguarded.sound, hguarded.known⟩
  | some s =>
    have hsound := hguarded.sound s hrunning
    have hknown := hguarded.known s hrunning
    have hholds := Shelf.holds_run hguarded.holds
      (h.events (Shelf.recordStore (.directory dir)) (.call around request))
    refine ⟨_, hholds, hunmixed, fun s' hs' => ?_, fun s' hs' => ?_⟩
    all_goals
      rw [next_call_of_some hrunning] at hs'
      obtain rfl := Option.some.inj hs'
    · exact Session.sound_after hsound
    · rw [events, hrunning]
      exact Call.headerKnown hsound hknown

/-- A cache that is killed leaves nothing behind that it would not have left at that moment. -/
theorem Guarded.killed (hguarded : Guarded dir saved ps h) (around : Surroundings)
    (request : Request) (done operations : Nat) :
    ∃ ps', Guarded dir (saved ++ h.saving dir (.killed around request done operations)) ps'
      (h.turn dir (.killed around request done operations)) := by
  have hholds := Shelf.holds_brokenOff hguarded.holds
    (h.events (Shelf.recordStore (.directory dir)) (.call around request)) done operations
  have hunmixed := (hguarded.unmixedThrough around request).upTo done operations
  exact ⟨_, hholds, hunmixed, fun s hs => absurd hs.symm (Option.some_ne_none s),
    fun s hs => absurd hs.symm (Option.some_ne_none s)⟩

/-- **One turn.** -/
theorem Guarded.turn (hguarded : Guarded dir saved ps h) (t : Turn) :
    ∃ ps', Guarded dir (saved ++ h.saving dir t) ps' (h.turn dir t) := by
  cases t with
  | move m =>
    cases m with
    | start options =>
      have hnone : h.saving dir (.move (.start options)) = [] := rfl
      rw [hnone, List.append_nil]
      exact ⟨ps, hguarded.start options⟩
    | call around request => exact hguarded.call around request
  | killed around request done operations => exact hguarded.killed around request done operations

/-! ## A single record in each turn -/

theorem saved_of_unitEvents {versions after : VersionCounter} {events : List Event}
    (h : Cache.UnitEvents versions after events) : (events.flatMap Event.saved).length ≤ 1 := by
  cases h with
  | none generated => cases generated <;> exact Nat.zero_le _
  | compiled => exact Nat.zero_le _
  | saved => exact Nat.le_refl _

/-- A call runs one build cycle at most, which saves one record at most. -/
theorem length_saved_call (k : Call) : (k.events.flatMap Event.saved).length ≤ 1 := by
  cases hbuilds : k.builds with
  | false =>
    rcases (Call.kept_of_not_builds hbuilds).2 with hevents | hevents <;> rw [hevents]
    · exact Nat.zero_le _
    · exact Nat.zero_le _
  | true =>
    have hcycle := saved_of_unitEvents k.outcome_ends.unitEvents
    rcases Call.events_of_builds hbuilds with hevents | ⟨message, hevents⟩
    all_goals
      rw [hevents, List.flatMap_append, List.length_append]
      exact hcycle

theorem length_saving (h : History Shelf) (t : Turn) : (h.saving dir t).length ≤ 1 := by
  have hcall (around : Surroundings) (request : Request) :
      ((h.events (Shelf.recordStore (.directory dir)) (.call around request)).flatMap
        Event.saved).length ≤ 1 := by
    unfold events
    cases h.running with
    | none => exact Nat.zero_le _
    | some s => exact length_saved_call _
  cases t with
  | move m =>
    cases m with
    | start options => exact Nat.zero_le _
    | call around request => exact hcall around request
  | killed around request done operations =>
    have hall := hcall around request
    unfold saving begun
    dsimp only
    rw [← List.take_append_drop (done + 1) (h.events _ (.call around request)),
      List.flatMap_append, List.length_append] at hall
    omega

/-! ## Any number of turns -/

theorem Guarded.play (hguarded : Guarded dir saved ps h) (turns : List Turn) :
    ∃ ps', Guarded dir (saved ++ h.allSaving dir turns) ps' (h.play dir turns) := by
  induction turns generalizing h saved ps with
  | nil =>
    rw [allSaving, List.append_nil]
    exact ⟨ps, hguarded⟩
  | cons t rest ih =>
    obtain ⟨ps', hturn⟩ := hguarded.turn t
    obtain ⟨ps'', hrest⟩ := ih hturn
    rw [List.append_assoc] at hrest
    exact ⟨ps'', hrest⟩

/-- **A crash never leaves a mixed record.** Let caches run one after another over a cache directory
that has no part of a record at first, with whatever schemas, companion sources, modules and requests,
and let their processes be killed between any two file operations. If a record can be loaded then, it
is in all its parts the record that one single turn was saving. -/
theorem loadRecord_play (dir : Path) (s : Shelf) (hvacant : Disk.Vacant dir s.files)
    (turns : List Turn) (r : ArtifactRecord)
    (hload : ((begin s).play dir turns).store.loadRecord (.directory dir) = some r) :
    ∃ before t after, turns = before ++ t :: after ∧
      ((begin s).play dir before).saving dir t = [r] := by
  have hbegin : Guarded dir [] .empty (begin s) :=
    ⟨hvacant.holds, .unpointed rfl, fun s hs => absurd hs.symm (Option.some_ne_none s),
      fun s hs => absurd hs.symm (Option.some_ne_none s)⟩
  obtain ⟨ps, hguarded⟩ := hbegin.play turns
  have hloaded : ps.loadRecord = some r := hguarded.holds.loadRecord.symm.trans hload
  obtain ⟨before, t, after, hturns, hr⟩ := mem_allSaving (hguarded.unmixed.mem_of_loadRecord hloaded)
  refine ⟨before, t, after, hturns, ?_⟩
  -- the turn has no other record to save
  obtain ⟨first, hfirst⟩ := List.length_eq_one_iff.mp
    (Nat.le_antisymm (length_saving _ t) (List.length_pos_of_mem hr))
  rw [hfirst] at hr ⊢
  rw [List.mem_singleton.mp hr]

theorem play_moves (h : History Shelf) (moves : List Move) (t : Turn) :
    h.play dir (moves.map .move ++ [t]) =
      (h.run (Shelf.recordStore (.directory dir)) moves).turn dir t := by
  unfold play run
  rw [List.foldl_append, List.foldl_map]
  rfl

/-- What a cache leaves behind that is killed can be told from memory. -/
theorem loadRecord_killed {s : Shelf} (hempty : s.parts = .empty)
    (hvacant : Disk.Vacant dir s.files) (moves : List Move) (around : Surroundings)
    (request : Request) (done operations : Nat) :
    let m := (begin s).run (Shelf.recordStore .memory) moves
    let events := m.events (Shelf.recordStore .memory) (.call around request)
    ((begin s).play dir (moves.map .move ++
        [.killed around request done operations])).store.loadRecord (.directory dir) =
      (m.store.parts.changed (Parts.changesUpTo events done operations)).loadRecord := by
  intro m events
  have halike := (alike_begin hempty hvacant).run moves
  have hevents : events = _ := halike.events_eq (.call around request)
  rw [play_moves, hevents]
  exact (Shelf.holds_brokenOff halike.holds _ done operations).loadRecord

/-- A cache builds, and its successor builds the same once more because the module is not to be found.
It is killed when it has written its pointer, but no digest. The older digest does as well, and what
is loaded is the newer record. -/
theorem loadRecord_play_halfway :
    let s : Shelf := ⟨.empty, none, Bench.emptyRoot⟩
    let turns := [.start {}, .call .fairWeather .ensure, .start {}].map Turn.move ++
      [.killed .fairWeather .ensure 3 4]
    let h := (begin s).play Bench.root turns
    Disk.Vacant Bench.root s.files ∧ ∃ r, h.store.loadRecord (.directory Bench.root) = some r ∧
      r.pointer.version = ⟨2⟩ ∧ ∃ before t after, turns = before ++ t :: after ∧
        ((begin s).play Bench.root before).saving Bench.root t = [r] := by
  intro s turns h
  have hvacant : Disk.Vacant Bench.root s.files := Disk.vacant_emptyRoot
  have hload := loadRecord_killed (s := s) rfl hvacant
    [.start {}, .call .fairWeather .ensure, .start {}] .fairWeather .ensure 3 4
  have hversion : (h.store.loadRecord (.directory Bench.root)).map (·.pointer.version) =
      some ⟨2⟩ := (congrArg _ hload).trans (by decide +kernel)
  obtain ⟨r, hr, hr2⟩ := Option.map_eq_some_iff.mp hversion
  exact ⟨hvacant, r, hr, hr2, loadRecord_play Bench.root s hvacant turns r hr⟩

end History

end ModelCache
