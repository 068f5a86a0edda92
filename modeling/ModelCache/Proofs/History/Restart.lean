import ModelCache.Proofs.Digest.Hash128
import ModelCache.Proofs.History.Reuse
import ModelCache.Proofs.History.Start
import ModelCache.Proofs.Schema.Listing
import ModelCache.Proofs.Store.Record

/-!
# A restart goes on where the last cache ended

While the published set of a cache is current, the store holds the record of the build that made or
found it (`Stored`), whatever went wrong before. The next cache over the store finds that record, and
if it reads the same and can load the same module, it publishes the same models and builds nothing.

* **`Call.stored_of_valid`** — after a build that succeeds, the store holds the record of its module.
* **`History.Backed`** — the invariant that ties a running cache with a current set to the store, and
  `History.Backed.next`, by which every move keeps it.
* **`History.restart_continues`** — so the first call for models after a restart goes on with what
  was published before, whatever the order in which content types are listed, and, as
  **`History.restart_refuses_relisted`** shows, up to the order of those of one spelling.
-/

namespace ModelCache

open Bench (Shelf StoreSite)

/-- The models of a module are the same in every generation. -/
theorem ModelSet.ofModule_generation {generation generation' : Nat} {module : Module}
    {set : ModelSet} (h : ofModule generation module = .ok set) :
    ofModule generation' module = .ok { set with generation := generation' } := by
  unfold ofModule at h ⊢
  cases hmodels : collect [] module.types with
  | error e =>
    rw [hmodels] at h
    cases h
  | ok models =>
    rw [hmodels] at h
    cases h
    rfl

/-! ## What a current set leaves in the store -/

namespace Call

/-- Where a call has a module from: it made it there, or the record that it found points there and
the loader had it. -/
def Finds (k : Call) (location : Path) (m : Module) : Prop :=
  (∃ unit, k.Makes unit m ∧ m.location = location) ∨
    ∃ record, k.around.record = some record ∧ record.pointer.location = location ∧
      k.around.load location = some m

theorem makes_of_compiled {k : Call} (hbuilds : k.builds = true) {unit : BuildUnit} {m : Module}
    (hunit : .compiled unit ∈ k.outcome.events) (hcompile : k.around.compile unit = .ok m) :
    k.Makes unit m := by
  refine ⟨?_, hcompile⟩
  rcases events_of_builds hbuilds with hevents | ⟨message, hevents⟩
  all_goals
    rw [hevents]
    exact List.mem_append_left _ hunit

/-- A cache has a current set from a call, and what is held for a record is the record of that set. -/
structure Stored (j : Call) (c : Cache) (held : Option ArtifactRecord) (record : ArtifactRecord)
    (module : Module) : Prop where
  held_eq : held = some record
  reads : ∃ schema companions, Cache.Reads j.around schema companions ∧
    record.digest = schema.digest companions
  digest_eq : c.digest = some record.digest
  published : ∃ generation, ModelSet.ofModule generation module = .ok c.published
  found : j.Finds record.pointer.location module
  marked : module.marker = some record.digest ∨
    ∃ unit, j.Makes unit module ∧ unit.digest = record.digest

/-- **What a build that succeeds leaves in the store**: the record of the module it published. If it
compiled the module, it saved the record. Otherwise the record was there before. -/
theorem stored_of_valid {site : StoreSite} {s : Shelf} {j : Call}
    (hsound : j.cache.versions.Sound) (hrecord : j.around.record = s.loadRecord site)
    (hsaves : s.SavesRecords site j.events) (hbuilds : j.builds = true)
    (hvalid : j.after.state = .valid) :
    ∃ record module, j.Stored j.after
      (((Shelf.recordStore site).run s j.events).loadRecord site) record module := by
  have heffect := j.call_effect
  have hmakes : ∀ unit m, .compiled unit ∈ j.outcome.events → j.around.compile unit = .ok m →
      j.Makes unit m := fun _ _ => makes_of_compiled hbuilds
  generalize j.after = after, j.events = events at heffect hsaves hvalid ⊢
  cases heffect with
  | idle hnot | invalidated hnot | rebuildRequested hnot => rw [hbuilds] at hnot; cases hnot
  | failed e => rw [Cache.state_fail] at hvalid; cases hvalid
  | published digest set _ hresult =>
    have hends := j.outcome_ends
    generalize j.outcome = o at hends hresult hsaves hmakes ⊢
    cases hends with
    | schemaMissing | companionsMissing | modelsRejected | generatorFailed | outputBlank | exhausted
    | rejected | reuseRejected | misshapen => cases hresult
    | reused schema companions record module set' hreads hstored hset =>
      obtain ⟨rfl, rfl⟩ := Prod.mk.inj (Except.ok.inj hresult)
      obtain ⟨hfound, hdigest, hload, hmarker⟩ := Cache.of_stored?_eq_some hstored
      -- nothing is written, so that the store holds what was found in it
      refine ⟨record, module, ?_, ⟨schema, companions, hreads, hdigest⟩, ?_, ⟨_, hset⟩,
        .inr ⟨record, hfound, rfl, hload⟩, .inl ?_⟩
      · rw [← hfound, hrecord]
        rfl
      · rw [hdigest]
        rfl
      · rw [hdigest]
        exact hmarker
    | built schema companions models source version _ module set' hdrafts hissue hcompile hset =>
      obtain ⟨rfl, rfl⟩ := Prod.mk.inj (Except.ok.inj hresult)
      have hissuable := VersionCounter.isIssuable_of_issue hsound hissue
      have hmade := hmakes (.assemble version (schema.digest companions) companions source) module
        (by simp [Cache.compileEvents]) hcompile
      refine ⟨Cache.recordOf (.assemble version (schema.digest companions) companions source) source
        module, module, ?_, ⟨schema, companions, hdrafts.reads, rfl⟩, rfl, ⟨_, hset⟩,
        .inl ⟨_, hmade, rfl⟩, .inr ⟨_, hmade, rfl⟩⟩
      exact Shelf.loadRecord_saveRecord hsaves.1 (Cache.checked_recordOf hissuable ..)

/-- A call that neither asks for a set nor for a rebuild changes nothing unless there is a current
set. -/
theorem unchanged_of_not_valid {k : Call} (hstate : k.cache.state ≠ .valid)
    (hrequest : k.request.wantsSet = false ∧ k.request ≠ .requestRebuild) :
    k.after = k.cache ∧ k.events = [] := by
  have hinvalidate : k.cache.invalidate = (k.cache, []) := by
    unfold Cache.invalidate
    rw [if_neg hstate]
  obtain ⟨hwants, hne⟩ := hrequest
  unfold after events served
  cases hrequest : k.request with
  | ensure | read => rw [hrequest] at hwants; cases hwants
  | requestRebuild => exact absurd hrequest hne
  | invalidate =>
    dsimp only
    rw [hinvalidate]
    exact ⟨rfl, rfl⟩
  | pathChanged path =>
    dsimp only
    unfold Cache.pathChanged
    split
    case isTrue => exact ⟨rfl, rfl⟩
    case isFalse =>
      rw [hinvalidate]
      exact ⟨rfl, rfl⟩

/-- A call that can use nothing stored fails with a schema that has no type models. -/
theorem ensure_of_no_models {k : Call} {schema : Schema} {companions : Companions} {e : SchemaError}
    (hbuilds : k.builds = true) (hreads : Cache.Reads k.around schema companions)
    (hnone : Cache.stored? k.around k.cache.forced (schema.digest companions) = none)
    (hmodels : schema.typeModels = .error e) :
    (k.cache.ensure k.around k.options).1 = .error (.ofSchema e) := by
  have hresult : k.outcome.result = .error (.ofSchema e) := by
    rw [Cache.stored?] at hnone
    unfold outcome Cache.cycle
    rw [hreads.schema_eq]
    dsimp only
    rw [hreads.companions_eq]
    dsimp only
    rw [hnone]
    dsimp only
    unfold Cache.rebuild
    rw [hmodels]
    rfl
  rw [ensure_of_builds hbuilds, hresult]

/-- A call serves what a cache has published, without building anything. -/
structure Continues (k : Call) (c : Cache) : Prop where
  /-- The answer is the set that is published then. -/
  answer : (k.cache.ensure k.around k.options).1 = .ok k.after.published
  valid : k.after.state = .valid
  notGenerated : .generated ∉ k.events
  notCompiled : ∀ unit, .compiled unit ∉ k.events
  module_eq : k.after.published.module = c.published.module
  /-- Every alias has the same type as before. -/
  models_eq : k.after.published.models = c.published.models
  digest_eq : k.after.digest = c.digest

theorem continues_of_stored {k : Call} {c : Cache} {record : ArtifactRecord} {module : Module}
    {schema : Schema} {companions : Companions} (hbuilds : k.builds = true)
    (hreads : Cache.Reads k.around schema companions)
    (hdigest : record.digest = schema.digest companions)
    (hstored : Cache.stored? k.around k.cache.forced record.digest = some (record, module))
    (hcdigest : c.digest = some record.digest) {generation : Nat}
    (hset : ModelSet.ofModule generation module = .ok c.published) : k.Continues c := by
  rw [hdigest] at hstored hcdigest
  have houtcome : k.outcome = _ :=
    Cache.cycle_of_stored_of_set hreads hstored (ModelSet.ofModule_generation hset)
  have hensure := ensure_of_builds hbuilds
  rw [houtcome] at hensure
  have hserved := served_of_outcome hbuilds houtcome
  have hafter : k.after = _ := congrArg Prod.fst hserved
  have hevents : k.events = [.reportCleared] := congrArg Prod.snd hserved
  refine ⟨?_, ?_, ?_, ?_, ?_, ?_, ?_⟩
  · rw [hensure, hafter]
  · rw [hafter]
  · rw [hevents]
    simp
  · rw [hevents]
    simp
  · rw [hafter]
  · rw [hafter]
  · rw [hafter, hcdigest]

end Call

/-! ## The store of a running cache -/

namespace History

variable {site : StoreSite}

/-- Whenever the running cache has a current set, the store holds its record. -/
structure Backed (site : StoreSite) (h : History Shelf) (s : Session) : Prop where
  sound : s.cache.versions.Sound
  stored : s.cache.state = .valid → ∃ j ∈ s.lastBuild?, ∃ record module,
    j.Stored s.cache (h.store.loadRecord site) record module

theorem Backed.call {h : History Shelf} {s : Session} (hbacked : h.Backed site s)
    (around : Surroundings) (request : Request)
    (hsaves : h.store.SavesRecords site
      (s.call (h.meet (Shelf.recordStore site) around) request).events) :
    let met := h.meet (Shelf.recordStore site) around
    Backed site ⟨(Shelf.recordStore site).run h.store (s.call met request).events, h.ended,
      some (s.next met request)⟩ (s.next met request) := by
  intro met
  refine ⟨Session.sound_after (k := s.call met request) hbacked.sound, fun hvalid => ?_⟩
  rw [Session.lastBuild?_next]
  cases hbuilds : (s.call met request).builds with
  | true =>
    have hrecord : (s.call met request).around.record = h.store.loadRecord site := rfl
    obtain ⟨record, module, hstored⟩ :=
      Call.stored_of_valid hbacked.sound hrecord hsaves hbuilds hvalid
    exact ⟨s.call met request, rfl, record, module, hstored⟩
  | false =>
    -- a call that builds nothing and leaves a current set has changed nothing
    have hsame : (s.call met request).after = s.cache ∧ (s.call met request).events = [] := by
      have heffect := (s.call met request).call_effect
      have hvalid : (s.call met request).after.state = .valid := hvalid
      generalize (s.call met request).after = after, (s.call met request).events = events
        at heffect hvalid
      cases heffect with
      | idle => exact ⟨rfl, rfl⟩
      | invalidated => cases hvalid
      | rebuildRequested => exact absurd hvalid (Cache.state_requestRebuild _)
      | published _ _ hnot | failed _ hnot => rw [hbuilds] at hnot; cases hnot
    obtain ⟨hafter, hevents⟩ := hsame
    have hcache : (s.next met request).cache = s.cache := hafter
    rw [hcache] at hvalid ⊢
    rw [hevents]
    exact hbacked.stored hvalid

/-- Every move keeps the store behind the cache that runs. -/
theorem Backed.next {h : History Shelf} {m : Move}
    (hsaves : h.store.SavesRecords site (h.events (Shelf.recordStore site) m))
    (hbacked : ∀ s, h.running = some s → h.Backed site s) :
    ∀ s, (h.next (Shelf.recordStore site) m).running = some s →
      (h.next (Shelf.recordStore site) m).Backed site s := by
  intro s hs
  cases m with
  | start options =>
    obtain rfl := Option.some.inj hs
    exact ⟨Session.sound_start _ _, nofun⟩
  | call around request =>
    cases hrunning : h.running with
    | none =>
      rw [next_call_of_none hrunning] at hs ⊢
      exact hbacked s hs
    | some current =>
      have hevents : h.events (Shelf.recordStore site) (.call around request) =
          (current.call (h.meet (Shelf.recordStore site) around) request).events := by
        unfold events
        rw [hrunning]
      rw [hevents] at hsaves
      rw [next_call_of_some hrunning] at hs ⊢
      obtain rfl := Option.some.inj hs
      exact (hbacked current hrunning).call around request hsaves

theorem run_backed {shelf : Shelf} {moves : List Move}
    (hsaves : (begin shelf).SavesRecords site moves) {s : Session}
    (hrunning : ((begin shelf).run (Shelf.recordStore site) moves).running = some s) :
    ((begin shelf).run (Shelf.recordStore site) moves).Backed site s :=
  run_saving (P := fun h => ∀ s, h.running = some s → h.Backed site s)
    (fun _ hnone => absurd hnone.symm (Option.some_ne_none _)) (fun _ _ => Backed.next) hsaves s
    hrunning

/-! ## Restarts -/

/-- The first call for models that a cache gets which is started in place of the one that runs, with
no request for a rebuild before it. -/
def FirstAsked (S : RecordStore σ) (h : History σ) (k : Call) : Prop :=
  ∃ options before fresh around request,
    (∀ asked ∈ before, asked.2.wantsSet = false ∧ asked.2 ≠ .requestRebuild) ∧
      (h.run S (Move.alone options before)).running = some fresh ∧ request.wantsSet = true ∧
        k = fresh.call ((h.run S (Move.alone options before)).meet S around) request

/-- A cache that ended with a current set, and the first call for models after a restart. `same` is
what the schemas have in common that the two have read. -/
structure Restart (same : Schema → Schema → Prop) (site : StoreSite) (shelf : Shelf)
    (moves : List Move) (ended : Session) (k : Call) : Prop where
  saves : (begin shelf).SavesRecords site moves
  running : ((begin shelf).run (Shelf.recordStore site) moves).running = some ended
  valid : ended.cache.state = .valid
  asked : ((begin shelf).run (Shelf.recordStore site) moves).FirstAsked (Shelf.recordStore site) k
  /-- The call reads the same as the last build did. -/
  reads : ∀ j ∈ ended.lastBuild?, ∀ schema companions, Cache.Reads j.around schema companions →
    ∃ schema', Cache.Reads k.around schema' companions ∧ same schema schema'
  /-- The module that is published can still be loaded from where it was found. -/
  loads : ∀ j ∈ ended.lastBuild?, ∀ location m, j.Finds location m →
    ended.cache.published.module = some m → k.around.load location = some m
  /-- A compiled module carries the digest of its unit. -/
  marker : ∀ j ∈ ended.lastBuild?, ∀ unit m, j.Makes unit m → m.marker = some unit.digest

/-- Calls that neither ask for a set nor for a rebuild change nothing before the first build. -/
theorem run_unasked {S : RecordStore σ} {h : History σ} {s : Session}
    (hrunning : h.running = some s) (hstate : s.cache.state ≠ .valid)
    {before : List (Surroundings × Request)}
    (hbefore : ∀ asked ∈ before, asked.2.wantsSet = false ∧ asked.2 ≠ .requestRebuild) :
    (h.run S (before.map fun (around, request) => .call around request)).store = h.store ∧
      ∃ s', (h.run S (before.map fun (around, request) => .call around request)).running = some s' ∧
        s'.cache = s.cache := by
  induction before generalizing h s with
  | nil => exact ⟨rfl, s, hrunning, rfl⟩
  | cons first rest ih =>
    obtain ⟨around, request⟩ := first
    obtain ⟨hafter, hevents⟩ := Call.unchanged_of_not_valid
      (k := s.call (h.meet S around) request) hstate (hbefore _ List.mem_cons_self)
    have hcache : (s.next (h.meet S around) request).cache = s.cache := hafter
    have hnext := next_call_of_some (S := S) hrunning around request
    rw [hevents] at hnext
    have hrest := ih (h := h.next S (.call around request)) (s := s.next (h.meet S around) request)
      (by rw [hnext]) (by rw [hcache]; exact hstate)
      fun asked hasked => hbefore asked (List.mem_cons_of_mem _ hasked)
    have hstore : (h.next S (.call around request)).store = h.store := by
      rw [hnext]
      rfl
    rw [hcache, hstore] at hrest
    exact hrest

/-- The first call for models meets the store as the last cache left it. -/
theorem FirstAsked.builds {S : RecordStore σ} {h : History σ} {k : Call}
    (hasked : h.FirstAsked S k) :
    k.builds = true ∧ k.cache.forced = false ∧ k.around.record = S.loadRecord h.store := by
  obtain ⟨options, before, fresh, around, request, hbefore, hrunning, hwants, rfl⟩ := hasked
  obtain ⟨hstore, s, hs, hcache⟩ := run_unasked (S := S) (h := h.next S (.start options)) rfl
    (show CacheState.empty ≠ .valid from nofun) hbefore
  have hfresh : fresh = s := Option.some.inj (hrunning.symm.trans hs)
  rw [← hfresh] at hcache
  have hstate : fresh.cache.state ≠ .valid := by
    rw [hcache]
    exact nofun
  refine ⟨?_, ?_, ?_⟩
  · show (request.wantsSet && decide (fresh.cache.state ≠ .valid)) = true
    rw [hwants, decide_eq_true hstate]
    rfl
  · show fresh.cache.forced = false
    rw [hcache]
    rfl
  · exact congrArg S.loadRecord hstore

/-- What counts of the schemas is their digest. -/
theorem Restart.continues {same : Schema → Schema → Prop} {site : StoreSite} {shelf : Shelf}
    {moves : List Move} {ended : Session} {k : Call} (h : Restart same site shelf moves ended k)
    (hdigest : ∀ schema schema' companions, Cache.Reads k.around schema' companions →
      same schema schema' → schema.digest companions = schema'.digest companions) :
    k.Continues ended.cache := by
  obtain ⟨j, hj, record, module, hstored⟩ := (run_backed h.saves h.running).stored h.valid
  obtain ⟨hbuilds, hforced, hrecord⟩ := h.asked.builds
  have hfound : k.around.record = some record := hrecord.trans hstored.held_eq
  -- what the two have read has one digest, which the record and the module carry
  obtain ⟨schema, companions, hreads, hread⟩ := hstored.reads
  obtain ⟨schema', hreads', hsame⟩ := h.reads j hj schema companions hreads
  rw [hdigest schema schema' companions hreads' hsame] at hread
  obtain ⟨generation, hset⟩ := hstored.published
  have hload := h.loads j hj _ _ hstored.found (Cache.ofModule_ok hset).2
  have hmarker : module.marker = some record.digest := by
    rcases hstored.marked with hmarker | ⟨unit, hmakes, hunit⟩
    · exact hmarker
    · rw [← hunit]
      exact h.marker j hj unit module hmakes
  have hreusable := Cache.stored?_eq_some hfound rfl hload hmarker
  rw [← hforced] at hreusable
  exact Call.continues_of_stored hbuilds hreads' hread hreusable hstored.digest_eq hset

/-- The record of inputs with another digest is not used. -/
theorem Restart.stored?_eq_none {same : Schema → Schema → Prop} {site : StoreSite} {shelf : Shelf}
    {moves : List Move} {ended : Session} {k : Call} (h : Restart same site shelf moves ended k)
    {digest : Digest} (hdigest : ∀ j ∈ ended.lastBuild?, ∀ schema companions,
      Cache.Reads j.around schema companions → schema.digest companions ≠ digest) :
    Cache.stored? k.around k.cache.forced digest = none := by
  obtain ⟨j, hj, record, module, hstored⟩ := (run_backed h.saves h.running).stored h.valid
  obtain ⟨schema, companions, hreads, hread⟩ := hstored.reads
  obtain ⟨-, -, hrecord⟩ := h.asked.builds
  cases hfound : Cache.stored? k.around k.cache.forced digest with
  | none => rfl
  | some found =>
    obtain ⟨record', module'⟩ := found
    obtain ⟨hrecord', hdigest', -⟩ := Cache.of_stored?_eq_some hfound
    obtain rfl := Option.some.inj (hrecord'.symm.trans (hrecord.trans hstored.held_eq))
    exact absurd (hread.symm.trans hdigest') (hdigest j hj schema companions hreads)

/-- **A restart goes on where the last cache ended.** Whatever happened over a store, in memory or on
disk, on which no record is lost: if the last cache ended with a current set, and the first call for
models of the next one reads the same and can load the module, then that call serves the same models
from that module and neither generates nor compiles anything. -/
theorem restart_continues {site : StoreSite} {shelf : Shelf} {moves : List Move} {ended : Session}
    {k : Call} (h : Restart Schema.SameListing site shelf moves ended k) : k.Continues ended.cache :=
  h.continues fun _ _ companions _ hsame => Schema.digest_of_sameListing hsame companions

/-! ## Three caches over one store

The first one builds for a schema `s`, the second one is asked for the models of `t`, the third one
for those of `u`. -/

namespace Relisting

/-- What the compiler makes of any unit. -/
def moduleOf (version : BuildVersion) (digest : Digest) : Module :=
  { location := ⟨"module"⟩, version, marker := some digest
    types := [⟨"Home", some ⟨"homePage"⟩, false, [TypeDecl.wrapping "Home"]⟩] }

/-- The module of the first build, if that is for `s`. -/
def built (s : Schema) : Module := moduleOf ⟨1⟩ (s.digest .empty)

/-- Surroundings with a schema, in which the module of the first build can be loaded. -/
def around (s schema : Schema) : Surroundings :=
  { Surroundings.fairWeather with
    schema := .ok schema
    load := fun location => if location = ⟨"module"⟩ then some (built s) else none
    compile := fun unit => .ok (moduleOf unit.version unit.digest) }

/-- A store in memory, with nothing in it. -/
def shelf : Shelf := ⟨.empty, none, .empty⟩

def opening (s : Schema) : List Move := Move.alone {} [(around s s, .ensure)]

def moves (s t : Schema) : List Move := opening s ++ Move.alone {} [(around s t, .ensure)]

/-- The call for the models of `schema` that the next cache gets after some moves. -/
def asking (moves : List Move) (s schema : Schema) : Call :=
  let h := (begin shelf).run (Shelf.recordStore .memory) moves
  (h.opening (Shelf.recordStore .memory) {}).call
    (h.meet (Shelf.recordStore .memory) (around s schema)) .ensure

/-- The life of that cache up to the call. -/
def session (moves : List Move) (s schema : Schema) : Session :=
  let h := (begin shelf).run (Shelf.recordStore .memory) moves
  (h.opening (Shelf.recordStore .memory) {}).next
    (h.meet (Shelf.recordStore .memory) (around s schema)) .ensure

variable {s t u : Schema} {models : List TypeModel}

theorem asking_opening (hmodels : s.typeModels = .ok models) :
    (asking [] s s).after.state = .valid ∧
      (asking [] s s).after.published.module = some (built s) := by
  have hdrafts : Cache.Drafts (asking [] s s).around {} false s .empty models "types" :=
    ⟨⟨rfl, rfl⟩, rfl, hmodels, rfl, by decide +kernel⟩
  have houtcome : (asking [] s s).outcome = _ := hdrafts.cycle_eq_of_set rfl rfl rfl
  have hafter : (asking [] s s).after = _ := congrArg Prod.fst (Call.served_of_outcome rfl houtcome)
  rw [hafter]
  exact ⟨rfl, rfl⟩

theorem running_asked (before : List Move) (s t : Schema) :
    ((begin shelf).run (Shelf.recordStore .memory)
      (before ++ Move.alone {} [(around s t, .ensure)])).running = some (session before s t) := by
  unfold run
  rw [List.foldl_append]
  rfl

/-- A cache that has published the module of the first build ends, and the next one is asked. -/
theorem restart {same : Schema → Schema → Prop} {before : List Move} (hsame : same t u)
    (hvalid : (asking before s t).after.state = .valid)
    (hmodule : (asking before s t).after.published.module = some (built s)) :
    Restart same .memory shelf (before ++ Move.alone {} [(around s t, .ensure)])
      (session before s t) (asking (before ++ Move.alone {} [(around s t, .ensure)]) s u) where
  saves := savesRecords_memory _ _
  running := running_asked before s t
  valid := hvalid
  asked := ⟨{}, [], _, around s u, .ensure, nofun, rfl, rfl, rfl⟩
  reads := by
    intro j hj schema companions hreads
    obtain rfl := Option.some.inj hj
    have hschema : t = schema := Except.ok.inj hreads.schema_eq
    have hcompanions : Companions.empty = companions := Except.ok.inj hreads.companions_eq
    subst hschema hcompanions
    exact ⟨u, ⟨rfl, rfl⟩, hsame⟩
  loads := by
    intro j hj location m hfinds hm
    obtain rfl := Option.some.inj hj
    have hm : (asking before s t).after.published.module = some m := hm
    rw [hmodule] at hm
    obtain rfl := Option.some.inj hm
    rcases hfinds with ⟨_, _, rfl⟩ | ⟨record, _, _, hload⟩
    · show (if (built s).location = ⟨"module"⟩ then some (built s) else none) = some (built s)
      exact if_pos rfl
    · exact hload
  marker := by
    intro j hj unit m hmakes
    obtain rfl := Option.some.inj hj
    have hcompile : Except.ok (moduleOf unit.version unit.digest) =
        (Except.ok m : Except (List Diagnostic) Module) := hmakes.2
    rw [← Except.ok.inj hcompile]
    rfl

/-- If `s` and `t` have one digest, the second cache publishes the module of the first one. -/
theorem restart_twice {same : Schema → Schema → Prop} (hmodels : s.typeModels = .ok models)
    (hdigest : s.digest .empty = t.digest .empty) (hsame : same t u) :
    Restart same .memory shelf (moves s t) (session (opening s) s t) (asking (moves s t) s u) := by
  obtain ⟨hvalid, hmodule⟩ := asking_opening hmodels
  have hfirst : Restart (fun s t => s.digest .empty = t.digest .empty) .memory shelf (opening s)
      (session [] s s) (asking (opening s) s t) := restart hdigest hvalid hmodule
  have hcontinues := hfirst.continues fun schema schema' companions hreads hsame => by
    have hcompanions : Companions.empty = companions := Except.ok.inj hreads.companions_eq
    rw [← hcompanions]
    exact hsame
  exact restart hsame hcontinues.valid (hcontinues.module_eq.trans hmodule)

/-- A content type with a name. -/
def named : ContentType :=
  { aliasName := ⟨"holePage"⟩, kind := .content
    properties := [⟨"name", "textbox", "String", {}⟩] }

/-- A content type with a price and a text, and with an editor of a name of its own. -/
def priced (spelling suffix : String) : ContentType :=
  let editor := "decimal........................................................................."
  { aliasName := ⟨spelling⟩, kind := .content
    properties := [⟨"price", editor ++ suffix ++ "+-r[", "Decimal", {}⟩,
      ⟨"text", "richtext", "Html", {}⟩] }

/-- A schema that has type models. -/
def agreed : Schema := [named, priced "homePage" "tile"]

/-- A schema that has none, as it lists two content types under one spelling. -/
def ambiguous : Schema := [named, priced "holePage" "time"]

theorem typeModels_agreed : ∃ models, agreed.typeModels = .ok models := by
  have hactive : Schema.active agreed = agreed := List.mergeSort_of_pairwise (by decide +kernel)
  exact Schema.exists_models hactive (by decide +kernel) (by decide +kernel)

/-- The bytes that are digested of a schema in order. -/
def bytesOf (s : Schema) : List UInt8 :=
  Field.stream (Companions.fields .empty ++ Schema.sortedFields s)

theorem hash_of_sorted {s : Schema} (hsorted : s.Pairwise fun a b => Schema.inOrder a b = true)
    (hlong : 240 < (bytesOf s).length) (hblock : (bytesOf s).length ≤ 1024) :
    Hash128.hash (Schema.digestInput .empty s).toByteArray = Hash128.hashDropping (bytesOf s) := by
  rw [Schema.digestInput_of_sorted hsorted]
  exact Hash128.hash_eq_hashDropping hlong hblock

theorem hash_agreed : Hash128.hash (Schema.digestInput .empty agreed).toByteArray =
    ⟨12180915627562071, 3057585962892499357⟩ := by
  rw [hash_of_sorted (by decide +kernel) (by decide +kernel) (by decide +kernel)]
  decide +kernel

theorem hash_ambiguous : Hash128.hash (Schema.digestInput .empty ambiguous).toByteArray =
    ⟨12180915627562071, 3057585962892499357⟩ := by
  rw [hash_of_sorted (by decide +kernel) (by decide +kernel) (by decide +kernel)]
  decide +kernel

theorem hash_reversed : Hash128.hash (Schema.digestInput .empty ambiguous.reverse).toByteArray =
    ⟨8042380485888758753, 6764119719975271262⟩ := by
  rw [hash_of_sorted (by decide +kernel) (by decide +kernel) (by decide +kernel)]
  decide +kernel

/-- **A collision.** The two schemas have one digest: what the other alias changes of the hash, the
other editor changes back. -/
theorem digest_collides : agreed.digest .empty = ambiguous.digest .empty := by
  rw [Schema.digest_eq, Schema.digest_eq]
  unfold Digest.ofBytes
  rw [hash_agreed, hash_ambiguous]

/-- The digest takes the order of the two content types with one alias. -/
theorem digest_reversed : ambiguous.digest .empty ≠ Schema.digest .empty ambiguous.reverse := by
  rw [Schema.digest_eq, Schema.digest_eq]
  unfold Digest.ofBytes
  rw [hash_ambiguous, hash_reversed]
  decide +kernel

/-- The first two caches find the schema without models agreeable, and the third one is asked for the
models of the same content types, listed the other way round. -/
def refused : Call := asking (moves agreed ambiguous) agreed ambiguous.reverse

theorem ensure_refused {same : Schema → Schema → Prop}
    (h : Restart same .memory shelf (moves agreed ambiguous)
      (session (opening agreed) agreed ambiguous) refused) :
    (refused.cache.ensure refused.around refused.options).1 =
      .error (.ofSchema (.aliasConflict "holePage" "holePage")) := by
  have hbuilds := h.asked.builds.1
  have hreads : Cache.Reads refused.around ambiguous.reverse .empty := ⟨rfl, rfl⟩
  refine Call.ensure_of_no_models hbuilds hreads
    (h.stored?_eq_none fun j hj schema companions hreads => ?_) rfl
  obtain rfl := Option.some.inj hj
  have hschema : ambiguous = schema := Except.ok.inj hreads.schema_eq
  have hcompanions : Companions.empty = companions := Except.ok.inj hreads.companions_eq
  rw [← hschema, ← hcompanions]
  exact digest_reversed

end Relisting

/-- The order of a schema that has type models does not matter. -/
theorem restart_continues_relisted :
    let s := Relisting.agreed
    Restart Schema.SameListing .memory Relisting.shelf (Relisting.moves s s)
        (Relisting.session (Relisting.opening s) s s)
        (Relisting.asking (Relisting.moves s s) s s.reverse) ∧
      (Relisting.asking (Relisting.moves s s) s s.reverse).Continues
        (Relisting.session (Relisting.opening s) s s).cache := by
  intro s
  obtain ⟨models, hmodels⟩ := Relisting.typeModels_agreed
  have hsame : s.SameListing s.reverse :=
    Schema.sameListing_of_perm (by decide +kernel) (List.reverse_perm _).symm
  have hrestart := Relisting.restart_twice hmodels rfl hsame
  exact ⟨hrestart, restart_continues hrestart⟩

/-- **The order of a schema that has none can matter.** Two schemas have one digest, and one of them
lists two content types under one spelling. A cache publishes its module as that of the other schema.
After a restart, with these two listed the other way round, the digest is another one, so that nothing
stored is used, and a schema with one alias twice has no type models. -/
theorem restart_refuses_relisted :
    let ended := Relisting.session (Relisting.opening Relisting.agreed) Relisting.agreed
      Relisting.ambiguous
    Restart List.Perm .memory Relisting.shelf (Relisting.moves Relisting.agreed Relisting.ambiguous)
        ended Relisting.refused ∧
      ¬ Relisting.refused.Continues ended.cache := by
  intro ended
  obtain ⟨models, hmodels⟩ := Relisting.typeModels_agreed
  have hrestart := Relisting.restart_twice hmodels Relisting.digest_collides
    (List.reverse_perm Relisting.ambiguous).symm
  refine ⟨hrestart, fun hcontinues => ?_⟩
  have hanswer := Relisting.ensure_refused hrestart
  rw [hcontinues.answer] at hanswer
  cases hanswer

end History

end ModelCache
