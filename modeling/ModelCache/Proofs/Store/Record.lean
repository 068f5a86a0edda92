import ModelCache.Proofs.BuildUnit
import ModelCache.Proofs.History
import ModelCache.Proofs.Json.Codec
import ModelCache.Proofs.Store.Shelf

/-!
# A record that was saved can be loaded

In memory a record stays what it is. On disk it goes through four texts, and the pointer among them
through JSON. If every write of a save succeeds, and the parts belong together, the record is read
back as it was.

* **`ModulePointer.parse?_text`** — a pointer is read back from its text.
* **`BuildUnit.tells_identity`** — which records of a unit are consistent.
* **`Disk.loadRecord_saveRecord`** and **`Bench.Shelf.loadRecord_saveRecord`** — so is a record.
* **`History.SavesRecords`** — no record that is saved in the course of a history is lost.
-/

namespace ModelCache

/-! ## Pointers -/

theorem ModulePointer.parse?_text (p : ModulePointer) : parse? p.text = some p :=
  (ModulePointer.faithful.readsBack p).2

/-! ## Consistent records -/

theorem ArtifactRecord.isConsistent_iff {r : ArtifactRecord} :
    r.isConsistent = true ↔
      BuildUnit.parseHeader r.unitText = some (r.pointer.version, r.digest) :=
  beq_iff_eq

/-- The record of a cycle is consistent: the unit was put together for its version and its digest. -/
theorem Cache.isConsistent_recordOf {version : BuildVersion} (hissuable : version.isIssuable = true)
    (digest : Digest) (companions : Companions) (source : String) (module : Module) :
    (recordOf (.assemble version digest companions source) source module).isConsistent = true := by
  rw [ArtifactRecord.isConsistent_iff]
  show BuildUnit.parseHeader (BuildUnit.assemble version digest companions source).text = _
  rw [BuildUnit.parseHeader_assemble, if_pos hissuable]
  rfl

theorem Cache.checked_recordOf {version : BuildVersion} (hissuable : version.isIssuable = true)
    (digest : Digest) (companions : Companions) (source : String) (module : Module) :
    let record := recordOf (.assemble version digest companions source) source module
    record.checked = some record :=
  if_pos (isConsistent_recordOf hissuable digest companions source module)

/-- **A build unit tells its identity**, whatever sources follow its header and whatever lines are in
them. So a record of a unit is consistent exactly if the unit has a version that can be issued, and the
digest and the pointer beside it are of that version and of the digest of the unit. -/
theorem BuildUnit.tells_identity (v : BuildVersion) (d : Digest) (companions : Companions)
    (source : String) :
    parseHeader (assemble v d companions source).text =
        (if v.isIssuable then some (v, d) else none) ∧
      ∀ (generated : String) (digest : Digest) (pointer : ModulePointer),
        ArtifactRecord.isConsistent
            ⟨generated, (assemble v d companions source).text, digest, pointer⟩ = true ↔
          v.isIssuable = true ∧ digest = d ∧ pointer.version = v := by
  have hheader := parseHeader_assemble v d companions source
  refine ⟨hheader, fun generated digest pointer => ?_⟩
  rw [ArtifactRecord.isConsistent_iff, hheader]
  cases v.isIssuable with
  | false => simp
  | true => simp [and_comm, eq_comm]

/-! ## Texts that were written -/

namespace FileOp

open FileTree

/-- What is written by one of several operations that all succeed and keep it can be read then. -/
theorem readText_of_written {p : Path} {s : String} {ops : List FileOp}
    (hwritten : write p (Text.utf8 s) ∈ ops) (hkeeps : ∀ op ∈ ops, op.Keeps p s) {t : FileTree}
    (hok : (runWhileOk t ops).1 = .ok ()) : (runWhileOk t ops).2.readText p = .ok s := by
  induction ops generalizing t with
  | nil => cases hwritten
  | cons op rest ih =>
    have hrest : ∀ op' ∈ rest, op'.Keeps p s :=
      fun op' hop' => hkeeps op' (List.mem_cons_of_mem op hop')
    rw [runWhileOk] at hok ⊢
    rcases hrun : op.run t with ⟨_ | _, t'⟩
    · rw [hrun] at hok
      cases hok
    · rw [hrun] at hok
      rcases List.mem_cons.mp hwritten with rfl | hwritten
      · -- it is written now, and kept from here on
        rw [run] at hrun
        cases hwrite : t.writeFile p (Text.utf8 s) with
        | error f =>
          rw [hwrite] at hrun
          cases hrun
        | ok t'' =>
          rw [hwrite] at hrun
          cases hrun
          exact readText_runWhileOk hrest (readText_writeFile hwrite)
      · exact ih hwritten hrest hok

end FileOp

/-! ## Records on disk -/

/-- The text that a part of a record is kept as. -/
def ArtifactRecord.partText (r : ArtifactRecord) : Part → String
  | .generated => r.generated
  | .unit => r.unitText
  | .digest => r.digest.toText
  | .pointer => r.pointer.text

namespace Disk

open FileOp

variable {dir : Path} {t : FileTree} {r : ArtifactRecord}

theorem saveRecordOps_eq (dir : Path) (r : ArtifactRecord) :
    saveRecordOps dir r = .createDirectories dir ::
      [Part.generated, .unit, .pointer, .digest].map
        fun part => writePart dir part (r.partText part) := rfl

/-- Every operation that saves a record keeps every part of it. -/
theorem keeps_partText (r : ArtifactRecord) (part : Part) :
    ∀ op ∈ saveRecordOps dir r, op.Keeps (partPath dir part) (r.partText part) := by
  intro op hop
  rw [saveRecordOps_eq] at hop
  rcases List.mem_cons.mp hop with rfl | hop
  · exact keeps_createDirectories _ _ _
  · obtain ⟨other, -, rfl⟩ := List.mem_map.mp hop
    by_cases heq : other = part
    · rw [heq]
      exact keeps_write_self _ _
    · exact keeps_writePart heq _ _

theorem readPart_saveRecord (h : (saveRecord dir t r).1 = .ok ()) (part : Part) :
    readPart dir (saveRecord dir t r).2 part = some (r.partText part) := by
  have hwritten : writePart dir part (r.partText part) ∈ saveRecordOps dir r := by
    rw [saveRecordOps_eq]
    refine List.mem_cons_of_mem _ (List.mem_map.mpr ⟨part, ?_, rfl⟩)
    cases part <;> decide
  rw [readPart_eq_some]
  exact readText_of_written hwritten (keeps_partText r part) h

/-- **A record whose saving succeeded is read back.** -/
theorem loadRecord_saveRecord (h : (saveRecord dir t r).1 = .ok ())
    (hconsistent : r.checked = some r) :
    loadRecord dir (saveRecord dir t r).2 = some r := by
  have hread := readPart_saveRecord h
  unfold loadRecord
  rw [hread .generated, hread .unit, hread .digest, hread .pointer]
  simp only [ArtifactRecord.partText, Option.bind_eq_bind, Option.bind_some]
  rw [Digest.parse_toText, ModulePointer.parse?_text]
  exact hconsistent

end Disk

/-! ## Records at a site -/

namespace Bench.Shelf

variable {site : StoreSite}

theorem loadRecord_saveRecord {s : Shelf} {r : ArtifactRecord}
    (h : (s.saveRecord r site).1 = .ok ()) (hconsistent : r.checked = some r) :
    (s.saveRecord r site).2.loadRecord site = some r := by
  cases site with
  | memory => exact hconsistent
  | directory dir => exact Disk.loadRecord_saveRecord h hconsistent

/-- Whether every record that is saved in the course of some events is saved without a failure. -/
def SavesRecords (site : StoreSite) (s : Shelf) : List Event → Prop
  | [] => True
  | .recordSaved r :: rest =>
    (s.saveRecord r site).1 = .ok () ∧ SavesRecords site (s.saveRecord r site).2 rest
  | e :: rest => SavesRecords site ((recordStore site).apply s e) rest

theorem savesRecords_memory (s : Shelf) (events : List Event) : SavesRecords .memory s events := by
  induction events generalizing s with
  | nil => trivial
  | cons e rest ih =>
    cases e with
    | recordSaved r => exact ⟨rfl, ih _⟩
    | generated | unitSaved | compiled | recordCleared | reported | reportCleared => exact ih _

end Bench.Shelf

namespace History

open Bench (Shelf StoreSite)

/-- Whether every record that is saved in the course of some moves is saved without a failure. -/
def SavesRecords (site : StoreSite) (h : History Shelf) : List Move → Prop
  | [] => True
  | m :: rest =>
    h.store.SavesRecords site (h.events (Shelf.recordStore site) m) ∧
      SavesRecords site (h.next (Shelf.recordStore site) m) rest

/-- What every move keeps, as long as no record is lost, holds after any number of moves. -/
theorem run_saving {site : StoreSite} {P : History Shelf → Prop} {h : History Shelf}
    {moves : List Move} (hbegin : P h)
    (hnext : ∀ h m, h.store.SavesRecords site (h.events (Shelf.recordStore site) m) → P h →
      P (h.next (Shelf.recordStore site) m))
    (hsaves : h.SavesRecords site moves) : P (h.run (Shelf.recordStore site) moves) := by
  induction moves generalizing h with
  | nil => exact hbegin
  | cons m rest ih => exact ih (hnext h m hsaves.1 hbegin) hsaves.2

theorem savesRecords_memory (h : History Shelf) (moves : List Move) :
    h.SavesRecords .memory moves := by
  induction moves generalizing h with
  | nil => trivial
  | cons m rest ih => exact ⟨Shelf.savesRecords_memory _ _, ih _⟩

end History

end ModelCache
