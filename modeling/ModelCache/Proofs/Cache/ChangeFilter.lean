import ModelCache.Proofs.Bench
import ModelCache.Proofs.Cache.Session
import ModelCache.Proofs.Companion.Load
import ModelCache.Proofs.Store.Footprint

/-!
# The change filter

A cache is told of the files that change. If it keeps its record and its last failure in files, then
some of these changes are its own, and more so if companion sources lie in the same directory. It
tells them apart by the file name alone. A name that is missing in this filter would have the cache
build again because it has built, and a name too many would hide a companion source from it.

* **`CacheOnDisk`** — a cache with the files around it, and **`CacheOnDisk.run`**, what comes of calls
  and of changes that others make. A cache that runs on a bench over directories is one of these
  (`CacheOnDisk.next_ofBench`).
* **`Echoing`** — a run into which word of the cache's own files is put. It makes no difference
  (`run_echoing`), as a single word of such a file makes none (`next_of_owned`).
* **`CacheOnDisk.next_of_not_owned`** — word of any other file has a current set built again.
* **`CacheOnDisk.change_filter_exact`** — all of this together, for the files that are written and
  those that are read.
-/

namespace ModelCache

open Bench (Shelf)

/-! ## Caches on disk -/

/-- A cache that keeps its record in one directory and reports failures in a file of another one. -/
structure CacheOnDisk where
  options : Options
  /-- The directory of the record. -/
  store : Path
  /-- The directory of the file with the last failure. -/
  reports : Path
  cache : Cache
  /-- What there is besides the cache, the files above all. -/
  shelf : Shelf

/-- Something that happens to a cache on disk. -/
inductive Happening where
  /-- The cache is called. The companion sources and the record that it finds are those on disk. -/
  | call (around : Surroundings) (request : Request)
  /-- Somebody else changes the files. -/
  | edited (files : FileTree)

/-- Whether somebody asks the cache for a set. -/
def Happening.asks : Happening → Bool
  | .call _ request => request.wantsSet
  | .edited _ => false

/-- Two runs, the second of which has word put in of files that an event writes or removes, at any
moment and any number of times. Their paths may be spelled in any way that ends in the same name. -/
inductive Echoing (store reports : Path) : List Happening → List Happening → Prop where
  | nil : Echoing store reports [] []
  | happening (h : Happening) {quiet echoing : List Happening} :
      Echoing store reports quiet echoing → Echoing store reports (h :: quiet) (h :: echoing)
  | echo (around : Surroundings) {e : Event} {p q : Path} {quiet echoing : List Happening}
      (htouched : q ∈ e.touched store reports) (hname : p.fileName? = q.fileName?) :
      Echoing store reports quiet echoing →
        Echoing store reports quiet (.call around (.pathChanged p) :: echoing)

namespace CacheOnDisk

def record (w : CacheOnDisk) : Option ArtifactRecord := w.shelf.loadRecord (.directory w.store)

/-- What a call meets that is made of a cache on disk. -/
def meet (w : CacheOnDisk) (around : Surroundings) : Surroundings :=
  { around with
    companions := match w.options.companionDir with
      | some dir => Companions.load w.shelf.files dir w.options.companionExtension ownedFiles
      | none => .ok .empty
    record := w.record }

/-- The call that a request makes of the cache as it is now. -/
def call (w : CacheOnDisk) (around : Surroundings) (request : Request) : Call :=
  { options := w.options, cache := w.cache, around := w.meet around, request }

/-- Carries out what a call does, and puts the cache in its new state. -/
def settle (w : CacheOnDisk) (cache : Cache) (events : List Event) : CacheOnDisk :=
  { w with
    cache
    shelf := events.foldl (Shelf.apply (.directory w.store) (.directory w.reports)) w.shelf }

def next (w : CacheOnDisk) : Happening → CacheOnDisk
  | .call around request =>
    w.settle (w.call around request).after (w.call around request).events
  | .edited files => { w with shelf := { w.shelf with files } }

def run (w : CacheOnDisk) (happenings : List Happening) : CacheOnDisk := happenings.foldl next w

/-- The cache as it is when its set has to be built again: nothing else about it is different, and
there is no record to be found. -/
structure Outdated (w w' : CacheOnDisk) : Prop where
  eq : w' = { w with
    cache := { w.cache with state := .stale }
    shelf := w.shelf.clear (.directory w.store) }
  record : w'.record = none

variable {w : CacheOnDisk} {p : Path} {around : Surroundings} {request : Request}

theorem next_of_served {cache : Cache} {events : List Event}
    (h : (w.call around request).served = (cache, events)) :
    w.next (.call around request) = w.settle cache events := by
  show w.settle (w.call around request).served.1 (w.call around request).served.2 = _
  rw [h]

/-- A call that does nothing leaves everything as it is. -/
theorem next_of_idle (h : (w.call around request).served = (w.cache, [])) :
    w.next (.call around request) = w :=
  next_of_served h

/-! ## On a bench -/

/-- A cache on a bench that keeps its record and its failures in directories. -/
def ofBench (b : Bench) (r : Bench.Running) (store reports : Path) : CacheOnDisk :=
  ⟨r.options, store, reports, r.cache, b.shelf⟩

/-- **A call on a bench is a call of a cache on disk.** -/
theorem next_ofBench (b : Bench) (r : Bench.Running) {store reports : Path}
    (hstore : r.store = .directory store) (hreports : r.reports = .directory reports)
    (request : Request) :
    let k : Call := ⟨r.options, r.cache, b.surroundings r, request⟩
    (ofBench b r store reports).next (.call (b.surroundings r) request) =
      ofBench (b.settle r k.after k.events) { r with cache := k.after } store reports := by
  intro k
  have hmeet : (ofBench b r store reports).meet (b.surroundings r) = b.surroundings r := by
    unfold meet Bench.surroundings record
    rw [hstore]
    rfl
  have hcall : (ofBench b r store reports).call (b.surroundings r) request = k := by
    unfold call
    rw [hmeet]
    rfl
  unfold next
  dsimp only
  rw [hcall]
  unfold settle ofBench
  rw [Bench.shelf_settle, hstore, hreports]

/-! ## Word of a file -/

theorem next_of_owned (h : p.isOwned = true) (around : Surroundings) :
    w.next (.call around (.pathChanged p)) = w :=
  next_of_idle (if_pos h)

/-- **A change of another file has a current set built again.** -/
theorem next_of_not_owned (h : ∀ name ∈ ownedFiles, p.fileName? ≠ some name)
    (hvalid : w.cache.state = .valid) (around : Surroundings) :
    w.Outdated (w.next (.call around (.pathChanged p))) := by
  have hforeign : ¬ p.isOwned = true := by
    rw [Path.isOwned_iff]
    rintro ⟨name, howned, hname⟩
    exact h name howned hname
  have hserved : (w.call around (.pathChanged p)).served =
      ({ w.cache with state := .stale }, [.recordCleared]) :=
    (if_neg hforeign).trans (if_pos hvalid)
  rw [next_of_served hserved]
  exact ⟨rfl, Shelf.recordStore_clears (.directory w.store) w.shelf⟩

/-! ## Runs -/

/-- **Word of the cache's own files makes no difference**, wherever and however often it comes. -/
theorem run_echoing {quiet echoing : List Happening} (h : Echoing w.store w.reports quiet echoing) :
    w.run echoing = w.run quiet := by
  -- the directories are the same throughout a run
  generalize hstore : w.store = store, hreports : w.reports = reports at h
  induction h generalizing w with
  | nil => rfl
  | happening first _ ih =>
    cases first with
    | call | edited => exact ih hstore hreports
  | echo around htouched hname _ ih =>
    obtain ⟨name, howned, hlast⟩ := Event.touched_owned htouched
    have hown := Path.isOwned_iff.mpr ⟨name, howned, hname.trans hlast⟩
    show (w.next _).run _ = _
    rw [next_of_owned hown]
    exact ih hstore hreports

/-- A current set is not built again for those who ask for it. -/
theorem run_of_asking (hvalid : w.cache.state = .valid) {happenings : List Happening}
    (hasks : ∀ h ∈ happenings, h.asks = true) : w.run happenings = w := by
  induction happenings with
  | nil => rfl
  | cons first rest ih =>
    have hfirst : w.next first = w := by
      have hasks := hasks first List.mem_cons_self
      cases first with
      | edited => cases hasks
      | call around request =>
        refine next_of_idle ?_
        rw [Call.served_eq_ensure (show (w.call around request).request.wantsSet = true from hasks)]
        exact congrArg Prod.snd (if_pos hvalid)
    show (w.next first).run rest = w
    rw [hfirst]
    exact ih fun h hh => hasks h (List.mem_cons_of_mem _ hh)

/-- No call touches any other file. -/
theorem othersKept_next (w : CacheOnDisk) (around : Surroundings) (request : Request) :
    OthersKept w.shelf.files (w.next (.call around request)).shelf.files :=
  .foldl Shelf.files (fun s e _ => s.othersKept_apply w.store w.reports e) w.shelf

theorem othersKept_run (w : CacheOnDisk) (calls : List (Surroundings × Request)) :
    OthersKept w.shelf.files
      (w.run (calls.map fun (around, request) => .call around request)).shelf.files := by
  refine .foldl (fun w => w.shelf.files) (fun w h hh => ?_) w
  obtain ⟨⟨around, request⟩, -, rfl⟩ := List.mem_map.mp hh
  exact w.othersKept_next around request

/-! ## The filter -/

/-- No companion source that is loaded has an owned name. -/
theorem fileName?_ne_of_mem_load {files : FileTree} {dir : Path} {extension : String}
    {cs : Companions} {k : Companion} (hload : Companions.load files dir extension ownedFiles = .ok cs)
    (hk : k ∈ cs.files) (hplain : PlainName k.path.text) :
    ∀ own ∈ ownedFiles, (dir.join k.path).fileName? ≠ some own := by
  have hselects := Companions.selects_of_mem_load hload hk
  have hname : (dir.join k.path).fileName? = some k.path.text := Path.fileName?_join dir hplain
  rw [hname]
  rintro own howned ⟨⟩
  exact (Companions.selects_iff.mp hselects).1 howned

/-- **The change filter is exact.** The names in it are those of the files that an event of the cache
writes or removes. Word of such files makes no difference to any run, so that readers can ask for a
current set as often as they like without its being built again. Word of a companion source, as it is
loaded from its directory at whatever time, or of any other path, has a current set built again and
leaves no record to be found. No other file is touched by any call. -/
theorem change_filter_exact (w : CacheOnDisk) :
    (∀ name, name ∈ ownedFiles ↔
      ∃ e : Event, ∃ p ∈ e.touched w.store w.reports, p.fileName? = some name) ∧
    (∀ quiet echoing, Echoing w.store w.reports quiet echoing →
      w.run echoing = w.run quiet ∧
        (w.cache.state = .valid → (∀ h ∈ quiet, h.asks = true) → w.run echoing = w)) ∧
    (∀ around p, w.cache.state = .valid → (∀ name ∈ ownedFiles, p.fileName? ≠ some name) →
      w.Outdated (w.next (.call around (.pathChanged p)))) ∧
    (∀ around files dir cs, w.cache.state = .valid → w.options.companionDir = some dir →
      Companions.load files dir w.options.companionExtension ownedFiles = .ok cs →
      ∀ k ∈ cs.files, PlainName k.path.text →
        w.Outdated (w.next (.call around (.pathChanged (dir.join k.path))))) ∧
    ∀ calls : List (Surroundings × Request), OthersKept w.shelf.files
      (w.run (calls.map fun (around, request) => .call around request)).shelf.files := by
  refine ⟨fun name => ⟨fun howned => ?_, ?_⟩, fun quiet echoing hechoing => ?_, ?_, ?_,
    w.othersKept_run⟩
  · let record : ArtifactRecord := ⟨"", "", Schema.digest .empty [], ⟨⟨""⟩, ⟨0⟩⟩⟩
    obtain ⟨e, -, p, hp, hname⟩ := Event.exists_touched w.store w.reports howned record
    exact ⟨e, p, hp, hname⟩
  · rintro ⟨e, p, hp, hname⟩
    obtain ⟨own, howned, hown⟩ := Event.touched_owned hp
    cases hname.symm.trans hown
    exact howned
  · refine ⟨run_echoing hechoing, fun hvalid hasks => ?_⟩
    exact (run_echoing hechoing).trans (run_of_asking hvalid hasks)
  · exact fun around p hvalid hforeign => next_of_not_owned hforeign hvalid around
  · intro around files dir cs hvalid hdir hload k hk hplain
    exact next_of_not_owned (fileName?_ne_of_mem_load hload hk hplain) hvalid around

/-- A cache that keeps its record beside the companion sources. -/
def beside : CacheOnDisk where
  options := { companionDir := some ⟨"/models"⟩ }
  store := ⟨"/models"⟩
  reports := ⟨"/models"⟩
  cache := .start none none
  shelf := ⟨.empty, none, Companions.directoryOf [("page.rs", .file (Text.utf8 "impl Page"))]⟩

/-- It has built, and is told of a file of its own and of others with names that are not. -/
theorem change_filter_exact_beside :
    let ask : Happening := .call .fairWeather .ensure
    let told (path : String) : Happening := .call .fairWeather (.pathChanged ⟨path⟩)
    let w := beside.run [ask]
    w.cache.state = .valid ∧
      w.run [told "/models/models.hash", ask, told "/models//models.err/.", ask] = w ∧
      w.Outdated (w.next (told "/models/models.hash.bak")) ∧
      w.Outdated (w.next (told "/models/page.rs")) := by
  intro ask told w
  obtain ⟨-, hechoes, hothers, hcompanions, -⟩ := change_filter_exact w
  have hvalid : w.cache.state = .valid := by decide +kernel
  have hechoing : Echoing w.store w.reports [ask, ask]
      [told "/models/models.hash", ask, told "/models//models.err/.", ask] :=
    .echo (e := .recordCleared) (q := Disk.partPath w.store .digest) _ List.mem_cons_self
      (by decide +kernel)
      (.happening ask
        (.echo (e := .reportCleared) (q := Disk.errorPath w.reports) _ List.mem_cons_self
          (by decide +kernel) (.happening ask .nil)))
  have hload : Companions.load beside.shelf.files ⟨"/models"⟩ w.options.companionExtension ownedFiles =
      .ok ⟨[⟨⟨"page.rs"⟩, "impl Page"⟩]⟩ := by decide +kernel
  refine ⟨hvalid, (hechoes _ _ hechoing).2 hvalid (by simp [ask, Happening.asks, Request.wantsSet]),
    hothers _ _ hvalid (by decide +kernel), ?_⟩
  exact hcompanions .fairWeather beside.shelf.files ⟨"/models"⟩ _ hvalid rfl hload _ List.mem_cons_self
    ⟨by decide, by decide, by decide, by decide⟩

end CacheOnDisk

end ModelCache
