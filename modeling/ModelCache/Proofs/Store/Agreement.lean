import ModelCache.Bench
import ModelCache.Proofs.Directory
import ModelCache.Proofs.Store.Record

/-!
# A directory is as good as memory

What a store does to the parts of a record it does to one part after the other, and so it comes down
to a list of changes, which can be carried out in memory and in a directory. As long as a directory
holds the same parts as memory does, each change keeps this so. Then nothing that can be asked of a
store tells the two apart.

* **`Parts.Change`** — a single change, and `Event.changes`, the changes that an event makes.
* **`Disk.Vacant`** — a directory that is there, and no part in it.
* **`Disk.Holds`** — a directory in which the texts of the given parts are kept, and nothing where the
  missing ones would be. It is all that is needed for the record and the unit to be those in memory
  (`Holds.loadRecord`, `Holds.loadUnit`).
* **`Disk.Holds.run_change`** — a change of the directory is a change of the parts.
* **`Bench.Shelf.answers_agree`** — a store in memory and a store in a directory give the same
  answers, whatever they are asked to do.
* **`History.Alike`** — so caches do the same over either, and have the same sessions
  (`History.sessions_eq`).
-/

namespace ModelCache

/-! ## Changes of parts -/

/-- A part with its content. -/
inductive Piece where
  | generated (source : String)
  | unit (text : String)
  | digest (digest : Digest)
  | pointer (pointer : ModulePointer)

namespace Piece

def part : Piece → Part
  | generated _ => .generated
  | unit _ => .unit
  | digest _ => .digest
  | pointer _ => .pointer

/-- The text that the part is kept as. -/
def text : Piece → String
  | generated source => source
  | unit text => text
  | digest d => d.toText
  | pointer p => p.text

end Piece

/-- The parts of a record, in the order in which they are saved. -/
def ArtifactRecord.pieces (r : ArtifactRecord) : List Piece :=
  [.generated r.generated, .unit r.unitText, .pointer r.pointer, .digest r.digest]

namespace Parts

/-- The text that a part is kept as, if the part is there. -/
def text? (ps : Parts) : Part → Option String
  | .generated => ps.generated
  | .unit => ps.unitText
  | .digest => ps.digest.map Digest.toText
  | .pointer => ps.pointer.map ModulePointer.text

def put (ps : Parts) : Piece → Parts
  | .generated source => { ps with generated := some source }
  | .unit text => { ps with unitText := some text }
  | .digest d => { ps with digest := some d }
  | .pointer p => { ps with pointer := some p }

theorem text?_put (ps : Parts) (piece : Piece) (part : Part) :
    (ps.put piece).text? part = if part = piece.part then some piece.text else ps.text? part := by
  cases piece <;> cases part <;> rfl

theorem text?_remove (ps : Parts) (part other : Part) :
    (ps.remove part).text? other = if other = part then none else ps.text? other := by
  cases part <;> cases other <;> rfl

theorem has_eq (ps : Parts) (part : Part) : ps.has part = (ps.text? part).isSome := by
  cases part
  case digest | pointer => exact Option.isSome_map.symm
  all_goals rfl

/-- A single change of the parts, or of what they are kept in. -/
inductive Change where
  /-- The place that the parts are kept at is made. -/
  | make
  | put (piece : Piece)
  | remove (part : Part)

def change (ps : Parts) : Change → Parts
  | .make => ps
  | .put piece => ps.put piece
  | .remove part => ps.remove part

/-- The parts after some changes. -/
def changed (ps : Parts) (changes : List Change) : Parts := changes.foldl change ps

theorem changed_append (ps : Parts) (first second : List Change) :
    ps.changed (first ++ second) = (ps.changed first).changed second :=
  List.foldl_append

/-- The file operation that makes a change in a cache directory. -/
def Change.op (dir : Path) : Change → FileOp
  | make => .createDirectories dir
  | put piece => Disk.writePart dir piece.part piece.text
  | remove part => .remove (Disk.partPath dir part)

/-- Whether a change adds to what is kept. -/
def Change.adds : Change → Bool
  | make | put _ => true
  | remove _ => false

end Parts

/-- The changes that an event makes to what a store keeps. -/
def Event.changes : Event → List Parts.Change
  | .unitSaved text => [.make, .put (.unit text)]
  | .recordSaved r => .make :: r.pieces.map .put
  | .recordCleared => [.remove .digest, .remove .pointer]
  | .generated | .compiled _ | .reported _ | .reportCleared => []

theorem Parts.changed_unitSaved (ps : Parts) (text : String) :
    ps.changed (Event.unitSaved text).changes = ps.saveUnit text := rfl

theorem Parts.changed_recordSaved (ps : Parts) (r : ArtifactRecord) :
    ps.changed (Event.recordSaved r).changes = ps.saveRecord r := rfl

theorem Parts.changed_recordCleared (ps : Parts) :
    ps.changed Event.recordCleared.changes = ps.clear := rfl

namespace Disk

open FileTree FileOp

variable {dir : Path} {t : FileTree} {ps : Parts}

theorem saveUnitOps_eq (dir : Path) (text : String) :
    saveUnitOps dir text = (Event.unitSaved text).changes.map (·.op dir) := rfl

theorem saveRecordOps_eq_changes (dir : Path) (r : ArtifactRecord) :
    saveRecordOps dir r = (Event.recordSaved r).changes.map (·.op dir) := rfl

theorem clearOps_eq (dir : Path) : clearOps dir = Event.recordCleared.changes.map (·.op dir) := rfl

/-- The file operations that an event takes in a cache directory. -/
def opsOf (dir : Path) : Event → List FileOp
  | .unitSaved text => saveUnitOps dir text
  | .recordSaved r => saveRecordOps dir r
  | .recordCleared => clearOps dir
  | .generated | .compiled _ | .reported _ | .reportCleared => []

theorem opsOf_eq (dir : Path) (e : Event) : opsOf dir e = e.changes.map (·.op dir) := by
  cases e <;> rfl

/-! ## Parts in a directory -/

/-- A cache directory that is there and that has no part of a record in it. The path of each part can
be followed, which it could not if it were too long. -/
structure Vacant (dir : Path) (t : FileTree) : Prop where
  directory : t.isDirectory dir = true
  missing : ∀ part, t.Finds (partPath dir part) none

/-- A cache directory that is there and that has the given parts in it, and no others. -/
structure Holds (dir : Path) (t : FileTree) (ps : Parts) : Prop where
  directory : t.isDirectory dir = true
  part : ∀ part,
    t.Finds (partPath dir part) ((ps.text? part).map fun text => .file (Text.utf8 text))

theorem Vacant.holds (h : Vacant dir t) : Holds dir t .empty :=
  ⟨h.directory, fun part => by cases part <;> exact h.missing _⟩

/-- The directory that all paths on a bench start from is vacant at first. -/
theorem vacant_emptyRoot : Vacant Bench.root Bench.emptyRoot where
  directory := by decide +kernel
  missing part := by
    refine ⟨working Bench.rootName ++ [part.fileName], ?_, ?_⟩
    · cases part <;> rfl
    · cases part <;> rfl

namespace Holds

/-! ### What can be loaded -/

theorem readPart (h : Holds dir t ps) (part : Part) : Disk.readPart dir t part = ps.text? part := by
  have hfinds := h.part part
  unfold Disk.readPart
  cases htext : ps.text? part with
  | none =>
    rw [htext] at hfinds
    rw [readText_of_finds_none hfinds]
    rfl
  | some text =>
    rw [htext] at hfinds
    rw [readText_of_finds hfinds (namesDirectory_join dir part.plainName)]
    rfl

theorem loadUnit (h : Holds dir t ps) : Disk.loadUnit dir t = ps.unitText := h.readPart .unit

/-- **The record in the directory is the one in memory.** The digest and the pointer are read back
from their texts. -/
theorem loadRecord (h : Holds dir t ps) : Disk.loadRecord dir t = ps.loadRecord := by
  unfold Disk.loadRecord
  simp only [h.readPart]
  obtain ⟨generated, unitText, digest, pointer⟩ := ps
  cases generated with
  | none => rfl
  | some generated =>
    cases unitText with
    | none => rfl
    | some unitText =>
      cases digest with
      | none => rfl
      | some digest =>
        cases pointer with
        | none => simp [Parts.text?, Parts.loadRecord, Except.toOption]
        | some pointer =>
          simp [Parts.text?, Parts.loadRecord, Digest.parse_toText, Except.toOption,
            ModulePointer.parse?_text]

/-! ### Changes in a directory -/

/-- A directory holds what it held but for the part that was replaced. -/
theorem replaced {t' : FileTree} {ps' : Parts} (h : Holds dir t ps) (part : Part)
    (hreplaces : t.Replaces t' (partPath dir part)
      ((ps'.text? part).map fun text => .file (Text.utf8 text)))
    (hothers : ∀ other, other ≠ part → ps'.text? other = ps.text? other) : Holds dir t' ps' where
  directory := by
    refine hreplaces.isDirectory (h.part part) ?_ h.directory
    cases ps.text? part <;> nofun
  part other := by
    by_cases heq : other = part
    · subst heq
      exact hreplaces.here
    · -- it has a file of its own, under another name
      rw [hothers other heq]
      exact hreplaces.elsewhere (h.part other) fun a b ha hb =>
        locate_ne other.plainName part.plainName
          (fun hname => heq (Part.fileName_injective hname).symm) hb ha

theorem run_make (h : Holds dir t ps) : (createDirectories dir).run t = (.ok (), t) :=
  createDirectories_of_isDirectory h.directory

theorem run_put (h : Holds dir t ps) (piece : Piece) :
    ∃ t', (writePart dir piece.part piece.text).run t = (.ok (), t') ∧
      Holds dir t' (ps.put piece) := by
  have hold : ((ps.text? piece.part).map fun text => Entry.file (Text.utf8 text)) ≠
      some .directory := by
    cases ps.text? piece.part <;> nofun
  obtain ⟨t', hrun, hreplaces⟩ := replaces_write (h.part piece.part) hold
    (namesDirectory_join dir piece.part.plainName) (Text.utf8 piece.text)
  refine ⟨t', hrun, h.replaced piece.part ?_ fun other hne => ?_⟩
  · rw [Parts.text?_put, if_pos rfl]
    exact hreplaces
  · rw [Parts.text?_put, if_neg hne]

theorem run_remove (h : Holds dir t ps) (part : Part) :
    Holds dir ((remove (partPath dir part)).run t).2 (ps.remove part) := by
  have hfinds : t.Finds (partPath dir part) (((ps.text? part).map Text.utf8).map .file) := by
    rw [Option.map_map]
    exact h.part part
  refine h.replaced part ?_ fun other hne => ?_
  · rw [Parts.text?_remove, if_pos rfl]
    exact replaces_remove part.plainName part.fileName_ne_tmp hfinds
  · rw [Parts.text?_remove, if_neg hne]

/-- **A change of the directory is a change of the parts.** -/
theorem run_change (h : Holds dir t ps) (c : Parts.Change) :
    Holds dir ((c.op dir).run t).2 (ps.change c) := by
  cases c with
  | make =>
    show Holds dir ((createDirectories dir).run t).2 ps
    rw [h.run_make]
    exact h
  | put piece =>
    obtain ⟨t', hrun, hheld⟩ := h.run_put piece
    show Holds dir ((writePart dir piece.part piece.text).run t).2 (ps.put piece)
    rw [hrun]
    exact hheld
  | remove part => exact h.run_remove part

theorem run_adds (h : Holds dir t ps) {c : Parts.Change} (hc : c.adds = true) :
    ((c.op dir).run t).1 = .ok () := by
  cases c with
  | make => exact congrArg Prod.fst h.run_make
  | put piece =>
    obtain ⟨t', hrun, _⟩ := h.run_put piece
    exact congrArg Prod.fst hrun
  | remove part => cases hc

theorem runEach (h : Holds dir t ps) (changes : List Parts.Change) :
    Holds dir (FileOp.runEach t (changes.map (·.op dir))) (ps.changed changes) := by
  induction changes generalizing t ps with
  | nil => exact h
  | cons c rest ih => exact ih (h.run_change c)

theorem runWhileOk (h : Holds dir t ps) {changes : List Parts.Change}
    (hadds : ∀ c ∈ changes, c.adds = true) :
    FileOp.runWhileOk t (changes.map (·.op dir)) =
      (.ok (), FileOp.runEach t (changes.map (·.op dir))) := by
  induction changes generalizing t ps with
  | nil => rfl
  | cons c rest ih =>
    have hok := h.run_adds (hadds c List.mem_cons_self)
    have hrest := ih (h.run_change c) fun c' hc' => hadds c' (List.mem_cons_of_mem c hc')
    rw [List.map_cons, FileOp.runWhileOk]
    rcases hrun : (c.op dir).run t with ⟨_ | _, t'⟩
    · rw [hrun] at hok
      cases hok
    · rw [hrun] at hrest
      exact hrest.trans (by rw [FileOp.runEach, FileOp.runEach, List.foldl_cons, hrun])

theorem adds_unitSaved (text : String) : ∀ c ∈ (Event.unitSaved text).changes, c.adds = true := by
  simp [Event.changes, Parts.Change.adds]

theorem adds_recordSaved (r : ArtifactRecord) :
    ∀ c ∈ (Event.recordSaved r).changes, c.adds = true := by
  simp [Event.changes, ArtifactRecord.pieces, Parts.Change.adds]

theorem saveUnit (h : Holds dir t ps) (text : String) :
    (Disk.saveUnit dir t text).1 = .ok () ∧
      Holds dir (Disk.saveUnit dir t text).2 (ps.saveUnit text) := by
  unfold Disk.saveUnit
  rw [saveUnitOps_eq, h.runWhileOk (adds_unitSaved text), ← Parts.changed_unitSaved]
  exact ⟨rfl, h.runEach _⟩

theorem saveRecord (h : Holds dir t ps) (r : ArtifactRecord) :
    (Disk.saveRecord dir t r).1 = .ok () ∧
      Holds dir (Disk.saveRecord dir t r).2 (ps.saveRecord r) := by
  unfold Disk.saveRecord
  rw [saveRecordOps_eq_changes, h.runWhileOk (adds_recordSaved r), ← Parts.changed_recordSaved]
  exact ⟨rfl, h.runEach _⟩

theorem clear (h : Holds dir t ps) : Holds dir (Disk.clear dir t) ps.clear := by
  unfold Disk.clear
  rw [clearOps_eq, ← Parts.changed_recordCleared]
  exact h.runEach _

end Holds

end Disk

/-! ## What a store is asked, and its answers -/

namespace Bench

/-- What a store can be asked to do. -/
inductive StoreCall where
  | saveRecord (r : ArtifactRecord)
  | saveUnit (text : String)
  | clear
  | loadRecord
  | loadUnit
  /-- To lose a single part. -/
  | remove (part : Part)

inductive StoreAnswer where
  /-- Whether something could be saved. -/
  | saved (result : Except (Path × Fault) Unit)
  | cleared
  | record (r : Option ArtifactRecord)
  | unit (text : Option String)
  /-- Whether there was such a part. -/
  | removed (found : Bool)

namespace Shelf

/-- What the store at a site of a shelf answers, and the shelf afterwards. -/
def serve (site : StoreSite) (s : Shelf) : StoreCall → StoreAnswer × Shelf
  | .saveRecord r => (.saved (s.saveRecord r site).1, (s.saveRecord r site).2)
  | .saveUnit text => (.saved (s.saveUnit text site).1, (s.saveUnit text site).2)
  | .clear => (.cleared, s.clear site)
  | .loadRecord => (.record (s.loadRecord site), s)
  | .loadUnit => (.unit (s.loadUnit site), s)
  | .remove part => (.removed (s.remove part site).1, (s.remove part site).2)

/-- The answers to some calls, one after the other. -/
def answers (site : StoreSite) : Shelf → List StoreCall → List StoreAnswer
  | _, [] => []
  | s, call :: rest => (s.serve site call).1 :: answers site (s.serve site call).2 rest

/-- The shelf after some calls. -/
def served (site : StoreSite) (s : Shelf) (calls : List StoreCall) : Shelf :=
  calls.foldl (fun s call => (s.serve site call).2) s

variable {dir : Path} {m d : Shelf}

open Disk (Holds Vacant vacant_emptyRoot)

/-- A part is in the directory if it is in memory, and it is then removed from either. -/
theorem remove_agrees (h : Holds dir d.files m.parts) (part : Part) :
    (m.remove part .memory).1 = (d.remove part (.directory dir)).1 ∧
      Holds dir (d.remove part (.directory dir)).2.files (m.remove part .memory).2.parts := by
  have hheld := h.run_remove part
  have hfinds := h.part part
  show m.parts.has part = _ ∧ Holds dir _ (m.parts.remove part)
  rw [Parts.has_eq]
  unfold remove
  dsimp only
  rw [FileOp.run] at hheld
  cases htext : m.parts.text? part with
  | none =>
    rw [htext] at hfinds
    rw [FileTree.removeFile_of_finds_none hfinds] at hheld ⊢
    exact ⟨rfl, hheld⟩
  | some text =>
    rw [htext] at hfinds
    obtain ⟨t', hremoved, _⟩ :=
      FileTree.replaces_removeFile part.plainName part.fileName_ne_tmp hfinds
    change d.files.removeFile (Disk.partPath dir part) = .ok t' at hremoved
    rw [hremoved] at hheld ⊢
    exact ⟨rfl, hheld⟩

/-- **One call.** The two stores answer the same, and hold the same parts afterwards. -/
theorem serve_agrees (h : Holds dir d.files m.parts) (call : StoreCall) :
    (m.serve .memory call).1 = (d.serve (.directory dir) call).1 ∧
      Holds dir (d.serve (.directory dir) call).2.files (m.serve .memory call).2.parts := by
  cases call with
  | saveRecord r =>
    exact ⟨congrArg StoreAnswer.saved (h.saveRecord r).1.symm, (h.saveRecord r).2⟩
  | saveUnit text =>
    exact ⟨congrArg StoreAnswer.saved (h.saveUnit text).1.symm, (h.saveUnit text).2⟩
  | clear => exact ⟨rfl, h.clear⟩
  | loadRecord => exact ⟨congrArg StoreAnswer.record h.loadRecord.symm, h⟩
  | loadUnit => exact ⟨congrArg StoreAnswer.unit h.loadUnit.symm, h⟩
  | remove part =>
    exact ⟨congrArg StoreAnswer.removed (remove_agrees h part).1, (remove_agrees h part).2⟩

theorem answers_eq (h : Holds dir d.files m.parts) (calls : List StoreCall) :
    m.answers .memory calls = d.answers (.directory dir) calls := by
  induction calls generalizing m d with
  | nil => rfl
  | cons call rest ih =>
    obtain ⟨hanswer, hheld⟩ := serve_agrees h call
    rw [answers, answers, hanswer, ih hheld]

theorem served_agrees (h : Holds dir d.files m.parts) (calls : List StoreCall) :
    Holds dir (d.served (.directory dir) calls).files (m.served .memory calls).parts := by
  induction calls generalizing m d with
  | nil => exact h
  | cons call rest ih => exact ih (serve_agrees h call).2

theorem answers_saveRecord (m : Shelf) (r : ArtifactRecord) :
    m.answers .memory [.saveRecord r, .loadRecord] =
      [.saved (.ok ()), .record (if r.isConsistent then some r else none)] := rfl

/-- **A directory is as good as memory.** Ask a store in memory that is empty, and a store in a
directory without any part of a record, to do the same things, whatever they are: to save records and
units, consistent or not, to clear, to load, to lose parts. Their answers are the same throughout. And
a record that is loaded right after it was saved is, at either of them, that very record if it is
consistent, and otherwise no record. -/
theorem answers_agree (dir : Path) (s : Shelf) (hempty : s.parts = .empty)
    (hvacant : Vacant dir s.files) (calls : List StoreCall) :
    s.answers .memory calls = s.answers (.directory dir) calls ∧
      ∀ site ∈ [StoreSite.memory, .directory dir], ∀ r,
        (s.served site calls).answers site [.saveRecord r, .loadRecord] =
          [.saved (.ok ()), .record (if r.isConsistent then some r else none)] := by
  have hheld : Holds dir s.files s.parts := by
    rw [hempty]
    exact hvacant.holds
  refine ⟨answers_eq hheld calls, fun site hsite r => ?_⟩
  rw [List.mem_cons, List.mem_singleton] at hsite
  rcases hsite with rfl | rfl
  · exact answers_saveRecord _ r
  · rw [← answers_eq (served_agrees hheld calls)]
    exact answers_saveRecord _ r

/-- A record whose pointer takes every kind of escape, in a directory that is used for the first
time: it comes back, unless it has another version than its unit. -/
theorem answers_agree_in_root :
    let s : Shelf := ⟨.empty, none, emptyRoot⟩
    let calls := [.loadRecord, .remove .digest, .saveUnit "types", .loadUnit, .clear, .loadUnit]
    let digest := Digest.ofBytes []
    let r : ArtifactRecord :=
      { generated := "types"
        unitText := (BuildUnit.assemble ⟨7⟩ digest .empty "types").text
        digest
        pointer := ⟨⟨"a \\ \"é\"\n"⟩, ⟨7⟩⟩ }
    let site := StoreSite.directory root
    s.parts = .empty ∧ Vacant root s.files ∧ s.answers .memory calls = s.answers site calls ∧
      (s.served site calls).answers site [.saveRecord r, .loadRecord] =
        [.saved (.ok ()), .record (some r)] ∧
      (s.served site calls).answers site
          [.saveRecord { r with pointer := ⟨r.pointer.location, ⟨8⟩⟩ }, .loadRecord] =
        [.saved (.ok ()), .record none] := by
  intro s calls digest r site
  have hagree := answers_agree root s rfl vacant_emptyRoot calls
  have hsite : site ∈ [StoreSite.memory, site] := by simp
  have hheader : BuildUnit.parseHeader r.unitText = some (⟨7⟩, digest) :=
    BuildUnit.parseHeader_assemble ..
  refine ⟨rfl, vacant_emptyRoot, hagree.1, ?_, ?_⟩
  · rw [hagree.2 site hsite, if_pos]
    rw [ArtifactRecord.isConsistent, hheader]
    exact beq_self_eq_true _
  · rw [hagree.2 site hsite, if_neg]
    rw [ArtifactRecord.isConsistent, hheader]
    simp [r]

/-! ## What caches do at a store -/

theorem parts_run (m : Shelf) (events : List Event) :
    ((recordStore .memory).run m events).parts =
      m.parts.changed (events.flatMap Event.changes) := by
  induction events generalizing m with
  | nil => rfl
  | cons e rest ih =>
    have happlied : ((recordStore .memory).apply m e).parts = m.parts.changed e.changes := by
      cases e <;> rfl
    rw [List.flatMap_cons, Parts.changed_append, RecordStore.run_cons, ih, happlied]

theorem holds_run {ps : Parts} (h : Holds dir d.files ps) (events : List Event) :
    Holds dir ((recordStore (.directory dir)).run d events).files
      (ps.changed (events.flatMap Event.changes)) := by
  induction events generalizing d ps with
  | nil => exact h
  | cons e rest ih =>
    have happlied : Holds dir ((recordStore (.directory dir)).apply d e).files
        (ps.changed e.changes) := by
      cases e with
      | unitSaved text => exact (h.saveUnit text).2
      | recordSaved r => exact (h.saveRecord r).2
      | recordCleared => exact h.clear
      | generated | compiled | reported | reportCleared => exact h
    rw [List.flatMap_cons, Parts.changed_append, RecordStore.run_cons]
    exact ih happlied

end Shelf

end Bench

namespace History

open Bench (Shelf StoreSite)

/-- Two histories, the first over memory and the second over a directory, with the same sessions and
the same parts. -/
structure Alike (dir : Path) (m d : History Shelf) : Prop where
  holds : Disk.Holds dir d.store.files m.store.parts
  ended_eq : m.ended = d.ended
  running_eq : m.running = d.running

variable {dir : Path} {m d : History Shelf}

theorem Alike.meet_eq (h : Alike dir m d) (around : Surroundings) :
    m.meet (Shelf.recordStore .memory) around =
      d.meet (Shelf.recordStore (.directory dir)) around := by
  have hrecord : (Shelf.recordStore .memory).loadRecord m.store =
      (Shelf.recordStore (.directory dir)).loadRecord d.store := h.holds.loadRecord.symm
  rw [meet, meet, hrecord]

theorem Alike.events_eq (h : Alike dir m d) (move : Move) :
    m.events (Shelf.recordStore .memory) move =
      d.events (Shelf.recordStore (.directory dir)) move := by
  cases move with
  | start options => rfl
  | call around request => rw [events, events, h.running_eq, h.meet_eq]

theorem Alike.opening_eq (h : Alike dir m d) (options : Options) :
    m.opening (Shelf.recordStore .memory) options =
      d.opening (Shelf.recordStore (.directory dir)) options := by
  have hrecord : (Shelf.recordStore .memory).loadRecord m.store =
      (Shelf.recordStore (.directory dir)).loadRecord d.store := h.holds.loadRecord.symm
  have hunit : (Shelf.recordStore .memory).loadUnit m.store =
      (Shelf.recordStore (.directory dir)).loadUnit d.store := h.holds.loadUnit.symm
  rw [opening, opening, hrecord, hunit]

theorem Alike.next (h : Alike dir m d) (move : Move) :
    Alike dir (m.next (Shelf.recordStore .memory) move)
      (d.next (Shelf.recordStore (.directory dir)) move) := by
  cases move with
  | start options =>
    refine ⟨h.holds, ?_, congrArg some (h.opening_eq options)⟩
    show m.sessions = d.sessions
    rw [sessions, sessions, h.ended_eq, h.running_eq]
  | call around request =>
    refine ⟨?_, h.ended_eq, ?_⟩
    · show Disk.Holds dir
        ((Shelf.recordStore (.directory dir)).run d.store (d.events _ (.call around request))).files
        ((Shelf.recordStore .memory).run m.store (m.events _ (.call around request))).parts
      rw [Shelf.parts_run, h.events_eq]
      exact Shelf.holds_run h.holds _
    · rw [History.next, History.next, h.running_eq, h.meet_eq]

theorem Alike.run (h : Alike dir m d) (moves : List Move) :
    Alike dir (m.run (Shelf.recordStore .memory) moves)
      (d.run (Shelf.recordStore (.directory dir)) moves) := by
  induction moves generalizing m d with
  | nil => exact h
  | cons move rest ih => exact ih (h.next move)

theorem alike_begin {s : Shelf} (hempty : s.parts = .empty) (hvacant : Disk.Vacant dir s.files) :
    Alike dir (begin s) (begin s) := by
  refine ⟨?_, rfl, rfl⟩
  show Disk.Holds dir s.files s.parts
  rw [hempty]
  exact hvacant.holds

/-- **Nor can a cache tell the two apart.** Whatever caches run one after another, and whatever they
are asked and find: over a directory they have the very sessions that they have over memory. -/
theorem sessions_eq {s : Shelf} (hempty : s.parts = .empty) (hvacant : Disk.Vacant dir s.files)
    (moves : List Move) :
    ((begin s).run (Shelf.recordStore .memory) moves).sessions =
      ((begin s).run (Shelf.recordStore (.directory dir)) moves).sessions := by
  have halike := (alike_begin hempty hvacant).run moves
  rw [sessions, sessions, halike.ended_eq, halike.running_eq]

end History

end ModelCache
