import ModelCache.Proofs.Store.Agreement

/-!
# The files that a cache touches

What a cache does outside itself comes down to file operations, if it keeps its record in a directory
and reports failures in a file. They are about few files, whatever the directories are and wherever an
operation fails: those that have one of the five owned names.

* **`Event.fileOps`** — the operations that an event takes, and **`Event.touched`**, the files that
  they write or remove. `Shelf.files_apply` says that nothing else happens to the files.
* **`FileOp.Owned`** — the forms that these operations have (`Event.owned`). All that follows is
  derived from it.
* **`Event.touched_owned`** — what is touched has an owned name, and `Event.exists_touched`, each of
  these names is one of something that is touched.
* **`OthersKept`** — all other files stay as they are, and none comes into being
  (`Shelf.othersKept_apply`).
-/

namespace ModelCache

open FileTree (EndsIn)

/-! ## Owned names -/

theorem mem_ownedFiles {name : String} :
    name ∈ ownedFiles ↔ (∃ part : Part, part.fileName = name) ∨ name = errorFile := by
  constructor
  · unfold ownedFiles
    simp only [List.mem_cons, List.not_mem_nil, or_false]
    rintro (rfl | rfl | rfl | rfl | rfl)
    case inr.inr.inr.inr => exact .inr rfl
    all_goals exact .inl ⟨_, rfl⟩
  · rintro (⟨part, rfl⟩ | rfl)
    · cases part <;> decide
    · decide

theorem Part.fileName_owned (part : Part) : part.fileName ∈ ownedFiles :=
  mem_ownedFiles.mpr (.inl ⟨part, rfl⟩)

theorem errorFile_owned : errorFile ∈ ownedFiles := mem_ownedFiles.mpr (.inr rfl)

theorem plainName_of_owned {name : String} (h : name ∈ ownedFiles) : PlainName name := by
  rcases mem_ownedFiles.mp h with ⟨part, rfl⟩ | rfl
  · exact part.plainName
  · exact ⟨by decide, by decide, by decide, by decide⟩

theorem ne_tmp_of_owned {name : String} (h : name ∈ ownedFiles) : name ≠ "tmp" := by
  rintro rfl
  revert h
  decide

theorem Path.isOwned_iff {p : Path} :
    p.isOwned = true ↔ ∃ name ∈ ownedFiles, p.fileName? = some name := by
  unfold isOwned
  cases p.fileName? with
  | none => simp
  | some name => simp

/-! ## What an event does to files -/

/-- The operations that an event takes where failures are reported in a file. -/
def Disk.reportOpsOf (dir : Path) : Event → List FileOp
  | .reported message => reportOps dir message
  | .reportCleared => clearReportOps dir
  | .generated | .unitSaved _ | .compiled _ | .recordSaved _ | .recordCleared => []

namespace Event

variable {store reports : Path} {e : Event}

/-- The file operations that an event takes, in the directory of the record and in that of the
failures. -/
def fileOps (store reports : Path) (e : Event) : List FileOp :=
  Disk.opsOf store e ++ Disk.reportOpsOf reports e

/-- The files that an event writes or removes. -/
def touched (store reports : Path) (e : Event) : List Path :=
  (e.fileOps store reports).filterMap FileOp.file?

end Event

namespace Bench.Shelf

/-- **All that an event does to the files are its operations**, up to one that fails. -/
theorem files_apply (store reports : Path) (s : Shelf) (e : Event) :
    ∃ done, (s.apply (.directory store) (.directory reports) e).files =
      FileOp.runEach s.files ((e.fileOps store reports).take done) := by
  unfold Event.fileOps
  cases e with
  | generated | compiled => exact ⟨0, rfl⟩
  | unitSaved | recordSaved =>
    rw [Disk.reportOpsOf, List.append_nil]
    exact FileOp.runWhileOk_eq_runEach ..
  | reported => exact FileOp.runWhileOk_eq_runEach ..
  | recordCleared | reportCleared =>
    -- a removal that fails keeps no other one from being tried
    exact ⟨_, (congrArg (FileOp.runEach s.files) List.take_length).symm⟩

end Bench.Shelf

/-! ## What the operations are about -/

namespace FileOp

/-- What a cache does to files: it makes directories, and writes and removes files of its own. -/
inductive Owned : FileOp → Prop where
  | createDirectories (dir : Path) : Owned (.createDirectories dir)
  | write (dir : Path) {name : String} (hname : name ∈ ownedFiles) (content : List UInt8) :
      Owned (.write (dir.join ⟨name⟩) content)
  | remove (dir : Path) {name : String} (hname : name ∈ ownedFiles) :
      Owned (.remove (dir.join ⟨name⟩))

variable {op : FileOp}

theorem owned_change (dir : Path) (change : Parts.Change) : (change.op dir).Owned := by
  cases change with
  | make => exact .createDirectories dir
  | put piece => exact .write dir piece.part.fileName_owned _
  | remove part => exact .remove dir part.fileName_owned

theorem owned_of_mem_reportOpsOf {dir : Path} {e : Event} (h : op ∈ Disk.reportOpsOf dir e) :
    op.Owned := by
  cases e with
  | generated | unitSaved | compiled | recordSaved | recordCleared => cases h
  | reported message =>
    rcases List.mem_append.mp h with h | h
    · obtain ⟨parent, -, rfl⟩ := Option.map_eq_some_iff.mp (Option.mem_toList.mp h)
      exact .createDirectories parent
    · rw [List.mem_singleton.mp h]
      exact .write dir errorFile_owned _
  | reportCleared =>
    rw [List.mem_singleton.mp h]
    exact .remove dir errorFile_owned

/-- A file that is written or removed has an owned name. -/
theorem Owned.fileName? (h : op.Owned) {p : Path} (hp : op.file? = some p) :
    ∃ name ∈ ownedFiles, p.fileName? = some name := by
  cases h with
  | createDirectories => cases hp
  | write dir hname | remove dir hname =>
    cases hp
    exact ⟨_, hname, Path.fileName?_join dir (plainName_of_owned hname)⟩

/-- A text under any other name stays readable. -/
theorem Owned.keeps (h : op.Owned) {name : String} (hname : PlainName name)
    (hother : name ∉ ownedFiles) (dir : Path) (s : String) : op.Keeps (dir.join ⟨name⟩) s := by
  have hne {own : String} (hown : own ∈ ownedFiles) : own ≠ name := by
    rintro rfl
    exact hother hown
  cases h with
  | createDirectories made => exact keeps_createDirectories made _ s
  | write dir' hown content => exact keeps_write hname (plainName_of_owned hown) (hne hown) s content
  | remove dir' hown =>
    exact keeps_remove hname (plainName_of_owned hown) (hne hown) s (ne_tmp_of_owned hown)

/-- No file comes into being under any other name. -/
theorem Owned.get?_of_run (h : op.Owned) {t : FileTree} {a : Address} {content : List UInt8}
    (hget : (op.run t).2.get? a = some (.file content)) :
    t.get? a = some (.file content) ∨ ∃ name ∈ ownedFiles, EndsIn name a := by
  refine (FileOp.get?_of_run hget).imp_right fun ⟨p, hp, hlocate⟩ => ?_
  cases h with
  | createDirectories => cases hp
  | write dir hname | remove dir hname =>
    cases hp
    exact ⟨_, hname, FileTree.locate_endsIn (plainName_of_owned hname) hlocate⟩

end FileOp

namespace Event

variable {store reports : Path} {e : Event}

/-- **What an event does to files has one of these forms.** -/
theorem owned {op : FileOp} (h : op ∈ e.fileOps store reports) : op.Owned := by
  rcases List.mem_append.mp h with h | h
  · rw [Disk.opsOf_eq] at h
    obtain ⟨change, -, rfl⟩ := List.mem_map.mp h
    exact FileOp.owned_change store change
  · exact FileOp.owned_of_mem_reportOpsOf h

theorem touched_owned {p : Path} (h : p ∈ e.touched store reports) :
    ∃ name ∈ ownedFiles, p.fileName? = some name := by
  obtain ⟨op, hop, hp⟩ := List.mem_filterMap.mp h
  exact (owned hop).fileName? hp

theorem touched_recordSaved (store reports : Path) (r : ArtifactRecord) :
    (recordSaved r).touched store reports =
      [Part.generated, .unit, .pointer, .digest].map (Disk.partPath store) := rfl

theorem touched_reportCleared (store reports : Path) :
    reportCleared.touched store reports = [Disk.errorPath reports] := rfl

/-- **There is no name too many**: a record takes four files, and a failure the fifth. -/
theorem exists_touched (store reports : Path) {name : String} (h : name ∈ ownedFiles)
    (r : ArtifactRecord) :
    ∃ e ∈ [recordSaved r, reportCleared], ∃ p ∈ e.touched store reports,
      p.fileName? = some name := by
  have hname (dir : Path) := Path.fileName?_join dir (plainName_of_owned h)
  rcases mem_ownedFiles.mp h with ⟨part, rfl⟩ | rfl
  · refine ⟨recordSaved r, by simp, Disk.partPath store part, ?_, hname store⟩
    rw [touched_recordSaved]
    exact List.mem_map_of_mem (by cases part <;> decide)
  · refine ⟨reportCleared, by simp, Disk.errorPath reports, ?_, hname reports⟩
    rw [touched_reportCleared]
    exact List.mem_singleton_self _

end Event

/-! ## All other files -/

/-- Two trees with the same files, but for those of owned names: what could be read can still be
read, and every file was there before. -/
structure OthersKept (t t' : FileTree) : Prop where
  kept : ∀ (dir : Path) name text, PlainName name → name ∉ ownedFiles →
    t.readText (dir.join ⟨name⟩) = .ok text → t'.readText (dir.join ⟨name⟩) = .ok text
  noneAdded : ∀ a content, t'.get? a = some (.file content) →
    t.get? a = some (.file content) ∨ ∃ name ∈ ownedFiles, EndsIn name a

namespace OthersKept

variable {t t' t'' : FileTree}

theorem refl (t : FileTree) : OthersKept t t := ⟨fun _ _ _ _ _ h => h, fun _ _ h => .inl h⟩

theorem trans (h : OthersKept t t') (h' : OthersKept t' t'') : OthersKept t t'' where
  kept dir name text hname hother hread :=
    h'.kept dir name text hname hother (h.kept dir name text hname hother hread)
  noneAdded a content hget := by
    rcases h'.noneAdded a content hget with hget | howned
    · exact h.noneAdded a content hget
    · exact .inr howned

theorem run {op : FileOp} (h : op.Owned) (t : FileTree) : OthersKept t (op.run t).2 where
  kept dir _ text hname hother := h.keeps hname hother dir text t
  noneAdded _ _ := h.get?_of_run

/-- What each of several steps keeps all of them keep. -/
theorem foldl {α σ : Type} (files : σ → FileTree) {step : σ → α → σ} {steps : List α}
    (h : ∀ s, ∀ x ∈ steps, OthersKept (files s) (files (step s x))) (s : σ) :
    OthersKept (files s) (files (steps.foldl step s)) := by
  induction steps generalizing s with
  | nil => exact .refl _
  | cons first rest ih =>
    exact (h s first List.mem_cons_self).trans
      (ih (fun s x hx => h s x (List.mem_cons_of_mem first hx)) _)

end OthersKept

namespace Bench.Shelf

/-- **One event.** -/
theorem othersKept_apply (store reports : Path) (s : Shelf) (e : Event) :
    OthersKept s.files (s.apply (.directory store) (.directory reports) e).files := by
  obtain ⟨done, hdone⟩ := files_apply store reports s e
  rw [hdone]
  exact .foldl id (fun t op hop => .run (Event.owned (List.mem_of_mem_take hop)) t) s.files

end Bench.Shelf

end ModelCache
