import ModelCache.Bench
import ModelCache.Proofs.History
import ModelCache.Proofs.Store.Shelf

/-!
# Caches on a bench

A cache on a bench keeps its record at a site of the shelf, and that site is a record store. So the
operations of the cache are the moves of a history, and what is shown of histories holds of a bench.
The one thing in the way is the last failure in memory: it is on the shelf, but no history knows of it.
`Shelf.silent` takes it off.

* **`Bench.Shelf.silent_foldl`** — events leave on the shelf what they leave in the store at the site.
* **`History.OnBench`** — a history stands where a bench stands, as far as one cache goes.
* **`History.onBench_start`**, **`History.OnBench.call`** — both moves keep to the bench, and
  **`History.OnBench.serves`** — so does any sequence of calls.

A cache that reports its failures to a file is left out here: that file is in the tree of the bench,
but no event of the store writes it.
-/

namespace ModelCache

namespace Bench

/-! ## The shelf of a bench -/

/-- A thing that a cache does is carried out on the shelf, and the caches that run are the same. -/
theorem take_frame (r : Running) (b : Bench) (e : Event) :
    (take r b e).shelf = b.shelf.apply r.store r.reports e ∧
      (take r b e).running = b.running := by
  cases e with
  | compiled unit =>
    show (b.takeUnit r unit).shelf = b.shelf ∧ (b.takeUnit r unit).running = b.running
    unfold takeUnit
    dsimp only
    split <;> exact ⟨rfl, rfl⟩
  | generated | unitSaved | recordSaved | recordCleared | reported | reportCleared =>
    exact ⟨rfl, rfl⟩

theorem foldl_take (r : Running) (b : Bench) (events : List Event) :
    (events.foldl (take r) b).shelf = events.foldl (Shelf.apply r.store r.reports) b.shelf ∧
      (events.foldl (take r) b).running = b.running := by
  induction events generalizing b with
  | nil => exact ⟨rfl, rfl⟩
  | cons e rest ih =>
    obtain ⟨hshelf, hrunning⟩ := take_frame r b e
    obtain ⟨hshelf', hrunning'⟩ := ih (take r b e)
    rw [hshelf] at hshelf'
    exact ⟨hshelf', hrunning'.trans hrunning⟩

theorem shelf_settle (b : Bench) (r : Running) (cache : Cache) (events : List Event) :
    (b.settle r cache events).shelf = events.foldl (Shelf.apply r.store r.reports) b.shelf :=
  (foldl_take r b events).1

/-- The cache that was called is found under its name in its new state. -/
theorem find?_settle {b : Bench} {r : Running} (h : b.find? r.name = some r) (cache : Cache)
    (events : List Event) : (b.settle r cache events).find? r.name = some { r with cache } := by
  unfold settle find? at *
  dsimp only
  rw [(foldl_take r b events).2, List.find?_map]
  -- the name of a cache is not changed with its state, so the same cache is found
  have hname : ((·.name == r.name) ∘ fun s : Running =>
      if s.serial = r.serial then { s with cache } else s) = (·.name == r.name) := by
    funext s
    dsimp only [Function.comp_apply]
    split <;> rfl
  rw [hname, h]
  exact congrArg some (if_pos rfl)

namespace Shelf

/-- The shelf without the last failure in memory. -/
def silent (s : Shelf) : Shelf := { s with message := none }

@[simp] theorem loadRecord_silent (s : Shelf) (site : StoreSite) :
    s.silent.loadRecord site = s.loadRecord site := by
  cases site <;> rfl

@[simp] theorem loadUnit_silent (s : Shelf) (site : StoreSite) :
    s.silent.loadUnit site = s.loadUnit site := by
  cases site <;> rfl

/-- Reports that go to no file make no other difference to the shelf. -/
theorem silent_apply (site : StoreSite) {reports : ReportSite}
    (hreports : ∀ dir, reports ≠ .directory dir) (s : Shelf) (e : Event) :
    (s.apply site reports e).silent = s.silent.apply site .nowhere e := by
  cases e with
  | unitSaved | recordSaved | recordCleared => cases site <;> rfl
  | generated | compiled => rfl
  | reported | reportCleared =>
    cases reports with
    | directory dir => exact absurd rfl (hreports dir)
    | memory | nowhere => rfl

/-- **Events leave on the shelf what they leave in the store.** -/
theorem silent_foldl (site : StoreSite) {reports : ReportSite}
    (hreports : ∀ dir, reports ≠ .directory dir) (s : Shelf) (events : List Event) :
    (events.foldl (apply site reports) s).silent = (recordStore site).run s.silent events := by
  induction events generalizing s with
  | nil => rfl
  | cons e rest ih =>
    rw [List.foldl_cons, ih, silent_apply site hreports, RecordStore.run_cons, recordStore_apply]

end Shelf

/-! ## Calls on a bench -/

/-- The bench after a call of the cache with a name. -/
def serve (name : String) (b : Bench) : Request → Bench
  | .ensure => (b.ensure name).2
  | .read => (b.current name).2
  | .invalidate => (b.invalidate name).2
  | .requestRebuild => (b.requestRebuild name).2
  | .pathChanged path => (b.pathChanged name path).2

/-- Every operation of a cache is a call of it whose events are carried out on the bench. -/
theorem serve_eq_settle {b : Bench} {r : Running} (h : b.find? r.name = some r)
    (request : Request) :
    let k : Call := ⟨r.options, r.cache, b.surroundings r, request⟩
    b.serve r.name request = b.settle r k.after k.events := by
  intro k
  cases request <;>
    · show (b.operate r.name _).2 = _
      unfold operate
      rw [h]
      rfl

end Bench

/-! ## Histories and benches -/

namespace History

open Bench (Running Shelf)
open Bench.Shelf (recordStore)

/-- A history that stands where a bench stands: the same shelf but for the last failure in memory, and
a session that goes on with the cache as it is on the bench. -/
structure OnBench (h : History Shelf) (b : Bench) (r : Running) : Prop where
  found : b.find? r.name = some r
  reports : ∀ dir, r.reports ≠ .directory dir
  store : h.store = b.shelf.silent
  session : ∃ s, h.running = some s ∧ s.options = r.options ∧ s.cache = r.cache

/-- **A start on a bench is a start of a history**, whatever the history was before. -/
theorem onBench_start {h : History Shelf} {b : Bench} (hstore : h.store = b.shelf.silent)
    (name : String) (options : Options) (site : Bench.StoreSite) {reports : Bench.ReportSite}
    (hreports : ∀ dir, reports ≠ .directory dir) :
    ∃ r : Running, r.name = name ∧ r.store = site ∧
      (h.next (recordStore site) (.start options)).OnBench
        (b.startWith name options site reports) r := by
  let cache := Cache.start (b.shelf.loadRecord site) (b.shelf.loadUnit site)
  let r : Running := ⟨name, b.started, cache, options, site, reports⟩
  refine ⟨r, rfl, rfl, ?_, hreports, hstore, _, rfl, rfl, ?_⟩
  · -- the caches that were there under the name have made room for it
    show (b.running.filter (·.name != name) ++ [r]).find? (·.name == name) = some r
    rw [List.find?_append, List.find?_eq_none.mpr]
    · simp [r]
    · intro s hs
      simpa using (List.mem_filter.mp hs).2
  · -- what the history loads is what is loaded from the shelf
    show Cache.start (h.store.loadRecord site) (h.store.loadUnit site) = cache
    rw [hstore, Shelf.loadRecord_silent, Shelf.loadUnit_silent]

/-- **A call on a bench is a call of a history.** -/
theorem OnBench.call {h : History Shelf} {b : Bench} {r : Running} (hon : h.OnBench b r)
    (request : Request) :
    ∃ cache, (h.next (recordStore r.store) (.call (b.surroundings r) request)).OnBench
      (b.serve r.name request) { r with cache } := by
  obtain ⟨s, hrunning, hoptions, hcache⟩ := hon.session
  -- the record that the call finds is the one on the shelf, with or without the last failure
  have hmeet : h.meet (recordStore r.store) (b.surroundings r) = b.surroundings r := by
    show { b.surroundings r with record := h.store.loadRecord r.store } = b.surroundings r
    rw [hon.store, Shelf.loadRecord_silent]
    rfl
  let k : Call := ⟨r.options, r.cache, b.surroundings r, request⟩
  have hcall : s.call (h.meet (recordStore r.store) (b.surroundings r)) request = k := by
    unfold Session.call
    rw [hmeet, hoptions, hcache]
  refine ⟨k.after, ?_⟩
  rw [next_call_of_some hrunning, Bench.serve_eq_settle hon.found, hcall]
  refine ⟨Bench.find?_settle hon.found _ _, hon.reports, ?_, _, rfl, hoptions, ?_⟩
  · rw [Bench.shelf_settle, Shelf.silent_foldl r.store hon.reports, hon.store]
  · show (s.call _ request).after = k.after
    rw [hcall]

/-- **Calls on a bench are calls of a history.** -/
theorem OnBench.serves {h : History Shelf} {b : Bench} {r : Running} (hon : h.OnBench b r)
    (requests : List Request) :
    ∃ (arounds : List Surroundings) (cache : Cache), arounds.length = requests.length ∧
      (h.run (recordStore r.store) (List.zipWith .call arounds requests)).OnBench
        (requests.foldl (Bench.serve r.name) b) { r with cache } := by
  induction requests generalizing h b r with
  | nil => exact ⟨[], r.cache, rfl, hon⟩
  | cons first rest ih =>
    -- the name and the site of a cache stay when its state changes
    obtain ⟨after, hnext⟩ := hon.call first
    obtain ⟨arounds, cache, hlength, hrest⟩ := ih hnext
    exact ⟨b.surroundings r :: arounds, cache, congrArg (· + 1) hlength, hrest⟩

end History

end ModelCache
