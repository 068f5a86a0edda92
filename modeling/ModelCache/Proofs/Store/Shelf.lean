import ModelCache.Bench.Shelf
import ModelCache.Proofs.FileTree
import ModelCache.Proofs.Store

/-!
# The stores there are

A cache keeps its record in memory or in a directory, and both are record stores. In memory there is
nothing to it. On disk a record takes several files, each written and removed on its own, and the
directory may be spelled in any way and hold anything, so the laws come from what file operations
leave alone:

* **`Disk.keeps_unit`** — no operation on another part is to the detriment of the unit.
* **`Disk.loadRecord_clear`** — without a digest to read there is no record.
* **`Bench.Shelf.recordStore`** — the store at a site of a shelf.
-/

namespace ModelCache

/-! ## Parts in a directory -/

theorem Part.plainName (part : Part) : PlainName part.fileName := by
  cases part <;> exact ⟨by decide, by decide, by decide, by decide⟩

theorem Part.fileName_ne_tmp (part : Part) : part.fileName ≠ "tmp" := by
  cases part <;> decide

theorem Part.fileName_injective {part other : Part} (h : part.fileName = other.fileName) :
    part = other := by
  revert h
  cases part <;> cases other <;> decide

namespace Disk

open FileTree FileOp

variable {dir : Path} {t : FileTree}

theorem readPart_eq_some {part : Part} {s : String} :
    readPart dir t part = some s ↔ t.readText (partPath dir part) = .ok s := by
  unfold readPart
  cases t.readText (partPath dir part) <;> simp [Except.toOption]

/-- Writing another part keeps what can be read of a part. -/
theorem keeps_writePart {part other : Part} (hne : other ≠ part) (content s : String) :
    (writePart dir other content).Keeps (partPath dir part) s :=
  keeps_write part.plainName other.plainName (fun h => hne (Part.fileName_injective h)) s _

/-- Removing another part keeps what can be read of a part. -/
theorem keeps_removePart {part other : Part} (hne : other ≠ part) (s : String) :
    (remove (partPath dir other)).Keeps (partPath dir part) s :=
  keeps_remove part.plainName other.plainName (fun h => hne (Part.fileName_injective h)) s
    other.fileName_ne_tmp

/-! ## The unit on disk -/

/-- A unit whose saving succeeded can be loaded. -/
theorem loadUnit_saveUnit {text : String} (h : (saveUnit dir t text).1 = .ok ()) :
    loadUnit dir (saveUnit dir t text).2 = some text := by
  unfold saveUnit saveUnitOps at h ⊢
  rw [loadUnit, readPart_eq_some]
  rw [runWhileOk] at h ⊢
  -- the directory is made and then the file is written, and both have succeeded
  rcases hmade : (createDirectories dir).run t with ⟨_ | _, made⟩
  · rw [hmade] at h
    cases h
  · rw [hmade] at h
    dsimp only at h ⊢
    rw [runWhileOk] at h ⊢
    unfold writePart at h ⊢
    rw [run] at h ⊢
    cases hwrite : made.writeFile (partPath dir .unit) (Text.utf8 text) with
    | error f =>
      rw [hwrite] at h
      cases h
    | ok t' => exact readText_writeFile hwrite

/-- Every operation that saves a record keeps the record's own unit. -/
theorem keeps_unit (r : ArtifactRecord) :
    ∀ op ∈ saveRecordOps dir r, op.Keeps (partPath dir .unit) r.unitText := by
  unfold saveRecordOps
  simp only [List.mem_cons, List.not_mem_nil, or_false, forall_eq_or_imp, forall_eq]
  exact ⟨keeps_createDirectories _ _ _, keeps_writePart (by decide) _ _, keeps_write_self _ _,
    keeps_writePart (by decide) _ _, keeps_writePart (by decide) _ _⟩

theorem loadUnit_saveRecord {r : ArtifactRecord} (h : loadUnit dir t = some r.unitText) :
    loadUnit dir (saveRecord dir t r).2 = some r.unitText := by
  rw [loadUnit, readPart_eq_some] at h ⊢
  exact readText_runWhileOk (keeps_unit r) h

theorem loadUnit_clear {text : String} (h : loadUnit dir t = some text) :
    loadUnit dir (clear dir t) = some text := by
  rw [loadUnit, readPart_eq_some] at h ⊢
  refine readText_runEach ?_ h
  unfold clearOps
  simp only [List.mem_cons, List.not_mem_nil, or_false, forall_eq_or_imp, forall_eq]
  exact ⟨keeps_removePart (by decide) _, keeps_removePart (by decide) _⟩

/-! ## The record on disk -/

theorem loadRecord_of_no_digest (h : readPart dir t .digest = none) :
    loadRecord dir t = none := by
  unfold loadRecord
  rw [h]
  cases readPart dir t .generated with
  | none => rfl
  | some => cases readPart dir t .unit <;> rfl

/-- **A directory that was cleared has no record.** Either the digest was removed, or it could not be
read in the first place, and removing the pointer does not bring it back. -/
theorem loadRecord_clear (dir : Path) (t : FileTree) : loadRecord dir (clear dir t) = none := by
  refine loadRecord_of_no_digest (Option.eq_none_iff_forall_ne_some.mpr fun s hs => ?_)
  rw [readPart_eq_some] at hs
  exact readText_run_remove t _ s (readText_of_run_remove hs)

end Disk

/-! ## The store at a site -/

namespace Bench.Shelf

theorem loadUnit_saveUnit {s : Shelf} {text : String} (site : StoreSite)
    (h : (s.saveUnit text site).1.isOk = true) :
    (s.saveUnit text site).2.loadUnit site = some text := by
  cases site with
  | memory => rfl
  | directory dir =>
    refine (Disk.loadUnit_saveUnit ?_ : Disk.loadUnit dir (Disk.saveUnit dir s.files text).2 = _)
    unfold saveUnit withFiles at h
    cases hsaved : (Disk.saveUnit dir s.files text).1 with
    | ok => rfl
    | error => rw [hsaved] at h; cases h

theorem loadUnit_saveRecord {s : Shelf} {record : ArtifactRecord} (site : StoreSite)
    (h : s.loadUnit site = some record.unitText) :
    (s.saveRecord record site).2.loadUnit site = some record.unitText := by
  cases site with
  | memory => rfl
  | directory dir => exact (Disk.loadUnit_saveRecord h :
      Disk.loadUnit dir (Disk.saveRecord dir s.files record).2 = some record.unitText)

theorem loadUnit_clear {s : Shelf} {text : String} (site : StoreSite)
    (h : s.loadUnit site = some text) : (s.clear site).loadUnit site = some text := by
  cases site with
  | memory => exact h
  | directory dir => exact (Disk.loadUnit_clear h :
      Disk.loadUnit dir (Disk.clear dir s.files) = some text)

/-- The store at a site of a shelf. -/
def recordStore (site : StoreSite) : RecordStore Shelf where
  loadRecord s := s.loadRecord site
  loadUnit s := s.loadUnit site
  saveUnit s text := ((s.saveUnit text site).1.isOk, (s.saveUnit text site).2)
  saveRecord s record := (s.saveRecord record site).2
  clear s := s.clear site
  loadUnit_saveUnit _ _ := loadUnit_saveUnit site
  loadUnit_saveRecord _ _ := loadUnit_saveRecord site
  loadUnit_clear _ _ := loadUnit_clear site

/-- What a cache does at its store is carried out as the shelf carries it out. -/
theorem recordStore_apply (site : StoreSite) (s : Shelf) (e : Event) :
    (recordStore site).apply s e = s.apply site .nowhere e := by
  cases e <;> rfl

/-- Clearing a site of a shelf leaves no record there. -/
theorem recordStore_clears (site : StoreSite) : (recordStore site).Clears := by
  intro s
  cases site with
  | memory =>
    show s.parts.clear.loadRecord = none
    unfold Parts.clear Parts.loadRecord
    cases s.parts.generated with
    | none => rfl
    | some => cases s.parts.unitText <;> rfl
  | directory dir => exact Disk.loadRecord_clear dir s.files

end Bench.Shelf

end ModelCache
