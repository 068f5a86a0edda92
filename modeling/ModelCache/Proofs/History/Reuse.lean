import ModelCache.Proofs.Cache.Versions
import ModelCache.Proofs.History
import ModelCache.Proofs.Schema.Digest
import ModelCache.Proofs.Schema.Order
import ModelCache.Proofs.Store.Record

/-!
# Reuse and regeneration

A cache that finds a stored module with the digest of its inputs publishes it without asking the
generator. This is right if the generator, asked now, would give the source that the module was
compiled from. Generator, compiler and loader are somebody else's, so what is relied on is laid down
first (`Trusted`), over the calls of all caches that ever ran over the store.

* **`Call.MakesFrom`** — what source a module was compiled from, and by which call.
* **`Call.Reuses`** — a call publishes a module without compiling anything.
* **`Call.Trusted.regenerates`** — whoever publishes a module again has read the same companion
  sources and, up to its order, the same schema as the call that compiled it, because both have the
  same digest. So the generator would be asked the same question, except for the namespace, which
  has no part in the digest.
* **`History.reuse_agrees`** — so reuse agrees with regeneration for the namespace of the cache that
  compiled the module, and, as **`History.reuse_keeps_namespace`** shows, not for any other.
-/

namespace ModelCache

namespace Call

/-! ## Making modules and using them again -/

/-- A call hands a unit to the compiler and gets a module for it. -/
def Makes (k : Call) (unit : BuildUnit) (m : Module) : Prop :=
  .compiled unit ∈ k.events ∧ k.around.compile unit = .ok m

/-- A call makes a module from source that it had generated. -/
def MakesFrom (k : Call) (source : String) (m : Module) : Prop :=
  ∃ schema companions models version,
    Cache.Drafts k.around k.options k.cache.forced schema companions models source ∧
      k.Makes (.assemble version (schema.digest companions) companions source) m

/-- A call publishes a module although it compiles nothing. -/
structure Reuses (k : Call) (m : Module) : Prop where
  builds : k.builds = true
  compiled_eq : k.compiled = []
  valid : k.after.state = .valid
  published : k.after.published.module = some m

/-- The generator gives `source` for what a call reads: for the companion sources and the type models
of the schema as they are then, and for the given namespace. -/
def Regenerates (k : Call)
    (generator : Companions → List TypeModel → String → Except GenerationError String)
    (namespaceName source : String) : Prop :=
  ∃ schema companions models, Cache.Reads k.around schema companions ∧
    schema.typeModels = .ok models ∧ generator companions models namespaceName = .ok source

/-- Every module that is made is made from some source. -/
theorem Makes.makesFrom {k : Call} {unit : BuildUnit} {m : Module} (h : k.Makes unit m) :
    ∃ source, k.MakesFrom source m := by
  obtain ⟨schema, companions, models, source, hdrafts, hunit⟩ :=
    k.outcome_ends.drafts_of_compiled (mem_outcome_of_compiled h.1)
  rw [hunit] at h
  exact ⟨source, schema, companions, models, unit.version, hdrafts, h⟩

/-- What a call uses again is what it found stored under the digest of what it read. -/
theorem Reuses.stored {k : Call} {m : Module} (h : k.Reuses m) :
    ∃ schema companions record, Cache.Reads k.around schema companions ∧
      Cache.stored? k.around k.cache.forced (schema.digest companions) = some (record, m) := by
  have hvalid := h.valid
  have hpublished := h.published
  have hcompiled := h.compiled_eq
  rw [compiled_of_builds h.builds] at hcompiled
  have heffect := k.call_effect
  generalize k.after = after, k.events = events at heffect hvalid hpublished
  cases heffect with
  | idle hnot | invalidated hnot | rebuildRequested hnot => rw [h.builds] at hnot; cases hnot
  | failed e => rw [Cache.state_fail] at hvalid; cases hvalid
  | published digest set hbuilds hresult =>
    obtain ⟨schema, companions, record, module, hreads, hstored, hmodule⟩ :=
      k.outcome_ends.stored_of_not_compiled hcompiled hresult
    have hsame : set.module = some m := hpublished
    rw [hmodule] at hsame
    rw [Option.some.inj hsame] at hstored
    exact ⟨schema, companions, record, hreads, hstored⟩

/-! ## What is relied on -/

/-- What is relied on outside a cache, over calls in the order in which they were made. -/
structure Trusted (calls : List Call)
    (generator : Companions → List TypeModel → String → Except GenerationError String) : Prop where
  /-- The generator is the same function all along. -/
  generate_eq : ∀ k ∈ calls, k.around.generate = generator
  /-- A module carries no digest but that of the unit it was compiled from. -/
  marker : ∀ k ∈ calls, ∀ unit m, k.Makes unit m → m.marker = none ∨ m.marker = some unit.digest
  /-- What is loaded from a location is a module that was made there before. -/
  load : ∀ before k after, calls = before ++ k :: after → ∀ location m,
    k.around.load location = some m →
      m.location = location ∧ ∃ j ∈ before, ∃ unit, j.Makes unit m
  /-- No two of the inputs that are read have the same digest unless they are the same bytes. -/
  no_collision : ∀ j ∈ calls, ∀ k ∈ calls, ∀ schema companions schema' companions',
    Cache.Reads j.around schema companions → Cache.Reads k.around schema' companions' →
      schema.digest companions = schema'.digest companions' →
        schema.digestInput companions = schema'.digestInput companions'
  /-- What is read can be addressed, so that every length fits into the word that stands for it. -/
  size : ∀ k ∈ calls, ∀ schema companions, Cache.Reads k.around schema companions →
    (schema.digestInput companions).length < 2 ^ 64

/-- Whenever a module is used again, it was made before, and the generator would now give the source
it was made from, for the namespace that belongs to the call that made it and the one that uses it. -/
def ReuseAgrees (calls : List Call)
    (generator : Companions → List TypeModel → String → Except GenerationError String)
    (namespaceOf : Call → Call → String) : Prop :=
  ∀ before k after, calls = before ++ k :: after → ∀ m, k.Reuses m →
    (∃ j ∈ before, ∃ source, j.MakesFrom source m) ∧
      ∀ j ∈ before, ∀ source, j.MakesFrom source m →
        k.Regenerates generator (namespaceOf j k) source

variable {calls : List Call}
  {generator : Companions → List TypeModel → String → Except GenerationError String}

/-- **Equal digests are of equal questions.** If a module that one call made carries the digest of
what another call reads, then the generator gives the other call the same source, provided that it is
asked for the same namespace. -/
theorem Trusted.regenerates (h : Trusted calls generator) {j k : Call} (hj : j ∈ calls)
    (hk : k ∈ calls) {source : String} {m : Module} (hmakes : j.MakesFrom source m)
    {schema : Schema} {companions : Companions} (hreads : Cache.Reads k.around schema companions)
    (hmarker : m.marker = some (schema.digest companions)) :
    k.Regenerates generator j.options.namespaceName source := by
  obtain ⟨schema', companions', models, version, hdrafts, hmade⟩ := hmakes
  -- the module carries the digest of its unit, which is that of what `j` read
  have hdigest : schema'.digest companions' = schema.digest companions := by
    rcases h.marker j hj _ m hmade with hnone | hsome
    · exact absurd (hnone.symm.trans hmarker) (Option.some_ne_none _).symm
    · exact Option.some.inj (hsome.symm.trans hmarker)
  -- so both have read the same, apart from the order of the schema
  have hinput := h.no_collision j hj k hk schema' companions' schema companions hdrafts.reads hreads
    hdigest
  have hsize := h.size j hj schema' companions' hdrafts.reads
  have hcompanions := (Schema.digestInput_injective hsize hinput).1
  have hperm := Schema.perm_of_digestInput hsize hinput
  refine ⟨schema, companions, models, hreads, ?_, ?_⟩
  · exact Schema.typeModels_of_perm hperm hdrafts.typeModels
  · rw [← hcompanions, ← h.generate_eq j hj]
    exact hdrafts.generated

end Call

namespace History

variable {σ : Type}

/-- The calls of all caches, oldest first. -/
def calls (h : History σ) : List Call := h.sessions.flatMap Session.calls

/-! ## A change of the namespace alone

Two caches over one store that read the same, the second with another namespace. What they read is a page
with a mixin of its own, and a source that comes with it. -/

namespace Renaming

/-- A page that mixes in a part with a title. -/
def pages : Schema :=
  [{ aliasName := ⟨"article"⟩, kind := .content, mixins := [⟨"SEO"⟩] },
    { aliasName := ⟨"seo"⟩, kind := .element, properties := [⟨"title", "textbox", "String", {}⟩] }]

def sources : Companions := ⟨[⟨⟨"page.rs"⟩, "impl Article"⟩]⟩

def models : List TypeModel :=
  [⟨⟨"article"⟩, .content, "Article", [], ["Seo"], false⟩,
    ⟨⟨"seo"⟩, .element, "Seo", [⟨"title", "Title", "textbox", "String"⟩], [], true⟩]

/-- A generator that writes down the namespace, the sources and the types that it is asked for. -/
def generator (companions : Companions) (models : List TypeModel) (namespaceName : String) :
    Except GenerationError String :=
  .ok (" ".intercalate (namespaceName :: companions.files.map (·.path.text) ++ models.map (·.typeName)))

/-- What the compiler makes of any unit. -/
def moduleOf (version : BuildVersion) (digest : Digest) : Module :=
  { location := ⟨"module"⟩, version, marker := some digest
    types := [⟨"Article", some ⟨"article"⟩, false, [TypeDecl.wrapping "Article"]⟩,
      ⟨"Seo", some ⟨"seo"⟩, false, [TypeDecl.wrapping "Seo"]⟩] }

/-- Surroundings in which `built` can be loaded. -/
def around (built : Option Module) : Surroundings where
  schema := .ok pages
  companions := .ok sources
  record := none
  load location := built.filter fun m => m.location = location
  generate := generator
  compile unit := .ok (moduleOf unit.version unit.digest)

/-- The module that the first cache makes. -/
def built : Module := moduleOf ⟨1⟩ (pages.digest sources)

/-- The first cache makes a module. -/
def opening : List Move := [.start { namespaceName := "A" }, .call (around none) .ensure]

/-- The second cache is asked for the models. -/
def moves : List Move :=
  opening ++ [.start { namespaceName := "B" }, .call (around (some built)) .ensure]

/-- The store of both. -/
abbrev memory : RecordStore Bench.Shelf := Bench.Shelf.recordStore .memory

/-- There is nothing in it at first. -/
def empty : Bench.Shelf := ⟨.empty, none, .empty⟩

/-- What happens over it. -/
def history : History Bench.Shelf := (begin empty).run memory moves

/-- The call of the first cache. -/
def first : Call :=
  ((begin empty).opening memory { namespaceName := "A" }).call
    ((begin empty).meet memory (around none)) .ensure

/-- The call of the second cache. -/
def second : Call :=
  let h := (begin empty).run memory opening
  (h.opening memory { namespaceName := "B" }).call (h.meet memory (around (some built))) .ensure

theorem calls_history : history.calls = [first, second] := rfl

/-! ### The first cache -/

theorem typeModels_pages : pages.typeModels = .ok models := by
  have hactive : Schema.active pages = pages := List.mergeSort_of_pairwise (by decide +kernel)
  have haliases : Schema.distinctAliases [] pages = .ok () := by decide +kernel
  rw [Schema.typeModels_eq, haliases, hactive]
  rfl

/-- What the generator writes for the first cache. -/
def source : String := "A page.rs Article Seo"

def unit : BuildUnit := .assemble ⟨1⟩ (pages.digest sources) sources source

/-- The record that the first cache saves. -/
def record : ArtifactRecord := Cache.recordOf unit source built

theorem outcome_first : ∃ set versions, ModelSet.ofModule 1 built = .ok set ∧
    first.outcome = ⟨.ok (pages.digest sources, set), versions, 1,
      Cache.compileEvents unit ++ [.recordSaved record]⟩ := by
  have hdrafts : Cache.Drafts first.around first.options first.cache.forced pages sources models source :=
    ⟨⟨rfl, rfl⟩, Cache.stored?_of_no_record rfl _, typeModels_pages, by decide +kernel,
      by decide +kernel⟩
  exact ⟨_, _, rfl, hdrafts.cycle_eq_of_set rfl rfl rfl⟩

theorem events_first :
    first.events = Cache.compileEvents unit ++ [.recordSaved record] ++ [.reportCleared] := by
  obtain ⟨set, versions, -, houtcome⟩ := outcome_first
  exact congrArg Prod.snd (Call.served_of_outcome rfl houtcome)

theorem first_makes : first.Makes unit built := by
  refine ⟨?_, rfl⟩
  rw [events_first]
  simp [Cache.compileEvents]

/-! ### The second cache -/

theorem record_second : second.around.record = some record := by
  -- the store holds what the events of the first call left in it
  show memory.loadRecord (memory.run empty first.events) = some record
  rw [events_first]
  have hchecked : record.checked = some record :=
    Cache.checked_recordOf (by decide) (pages.digest sources) sources source built
  let s := (memory.saveUnit empty unit.text).2
  have hsaved : (s.saveRecord record .memory).1 = .ok () := rfl
  exact Bench.Shelf.loadRecord_saveRecord hsaved hchecked

theorem outcome_second : ∃ set, ModelSet.ofModule 1 built = .ok set ∧
    second.outcome = ⟨.ok (pages.digest sources, set),
      (second.cache.versions.observe ⟨1⟩).observe ⟨1⟩, 1, []⟩ := by
  have hstored : Cache.stored? second.around second.cache.forced (pages.digest sources) =
      some (record, built) := Cache.stored?_eq_some record_second rfl rfl rfl
  exact ⟨_, rfl, Cache.cycle_of_stored_of_set ⟨rfl, rfl⟩ hstored rfl⟩

theorem compiled_second : second.compiled = [] := by
  obtain ⟨set, -, houtcome⟩ := outcome_second
  rw [Call.compiled_of_builds rfl, houtcome]
  rfl

theorem second_reuses : second.Reuses built := by
  obtain ⟨set, hset, houtcome⟩ := outcome_second
  have hafter : second.after = _ := congrArg Prod.fst (Call.served_of_outcome rfl houtcome)
  refine ⟨rfl, compiled_second, ?_, ?_⟩
  · rw [hafter]
  · rw [hafter]
    exact (Cache.ofModule_ok hset).2

/-! ### What is relied on -/

theorem eq_of_reads {k : Call} (hk : k ∈ [first, second]) {schema : Schema} {companions : Companions}
    (hreads : Cache.Reads k.around schema companions) : schema = pages ∧ companions = sources := by
  have hsame : Except.ok pages = k.around.schema ∧ Except.ok sources = k.around.companions := by
    rcases List.mem_cons.mp hk with rfl | hk
    · exact ⟨rfl, rfl⟩
    · rw [List.mem_singleton.mp hk]
      exact ⟨rfl, rfl⟩
  exact ⟨(Except.ok.inj (hsame.1.trans hreads.schema_eq)).symm,
    (Except.ok.inj (hsame.2.trans hreads.companions_eq)).symm⟩

theorem length_digestInput : (pages.digestInput sources).length < 2 ^ 64 := by
  rw [Schema.digestInput_of_sorted (by decide +kernel)]
  decide +kernel

/-- The first call finds nothing to load, and the second one what the first one made. -/
theorem trusted : Call.Trusted history.calls generator := by
  rw [calls_history]
  have hcases {P : Call → Prop} (hfirst : P first) (hsecond : P second) :
      ∀ k ∈ [first, second], P k := by
    intro k hk
    rcases List.mem_cons.mp hk with rfl | hk
    · exact hfirst
    · rw [List.mem_singleton.mp hk]
      exact hsecond
  refine ⟨hcases rfl rfl, ?_, ?_, ?_, ?_⟩
  · -- the compiler marks each module with the digest of its unit
    exact hcases (fun _ _ h => .inr (by rw [← Except.ok.inj h.2]; rfl))
      fun _ _ h => .inr (by rw [← Except.ok.inj h.2]; rfl)
  · intro before k after hcalls location m hload
    rcases Session.split_concat (l := [first]) hcalls with ⟨rfl, rfl⟩ | ⟨after', hcalls⟩
    · -- the second call loads what the first one made, from where that was put
      have hfound : (some built).filter (fun m => decide (m.location = location)) = some m := hload
      obtain ⟨hm, hlocation⟩ := Option.filter_eq_some_iff.mp hfound
      rw [← Option.some.inj hm] at hlocation ⊢
      exact ⟨of_decide_eq_true hlocation, first, List.mem_singleton_self first, unit, first_makes⟩
    · rcases Session.split_concat (l := []) hcalls with ⟨_, rfl⟩ | ⟨_, hcalls⟩
      · -- there is nothing that the first call could load
        cases hload
      · exact absurd hcalls (by simp)
  · -- all calls read the same
    intro j hj k hk schema companions schema' companions' hreadsj hreadsk _
    obtain ⟨rfl, rfl⟩ := eq_of_reads hj hreadsj
    obtain ⟨rfl, rfl⟩ := eq_of_reads hk hreadsk
    rfl
  · intro k hk schema companions hreads
    obtain ⟨rfl, rfl⟩ := eq_of_reads hk hreads
    exact length_digestInput

end Renaming

/-! ## Every history -/

/-- **Reuse agrees with regeneration.** Whatever caches run one after another over one store: when one
of them publishes a module without compiling, some earlier call made the module, and the source it
made it from is what the generator would give now for the current companion sources and the type
models of the current schema, asked for the namespace of the cache that made the module. -/
theorem reuse_agrees (S : RecordStore σ) (store : σ) (moves : List Move)
    (generator : Companions → List TypeModel → String → Except GenerationError String)
    (htrusted : Call.Trusted ((begin store).run S moves).calls generator) :
    Call.ReuseAgrees ((begin store).run S moves).calls generator
      fun j _ => j.options.namespaceName := by
  intro before k after hcalls m hreuses
  have hk : k ∈ ((begin store).run S moves).calls := by
    rw [hcalls]
    exact List.mem_append_right before List.mem_cons_self
  obtain ⟨schema, companions, record, hreads, hstored⟩ := hreuses.stored
  obtain ⟨_, _, hload, hmarker⟩ := Cache.of_stored?_eq_some hstored
  refine ⟨?_, fun j hj source hmakes => ?_⟩
  · -- the loader had the module from an earlier call
    obtain ⟨_, j, hj, unit, hmakes⟩ :=
      htrusted.load before k after hcalls record.pointer.location m hload
    exact ⟨j, hj, hmakes.makesFrom⟩
  · -- and whichever call that was, the marker ties it to what is read now
    have hjcalls : j ∈ ((begin store).run S moves).calls := by
      rw [hcalls]
      exact List.mem_append_left _ hj
    exact htrusted.regenerates hjcalls hk hmakes hreads hmarker

/-- The namespace that counts is the one of the cache that made the module: the second cache publishes
what was made for the first one. -/
theorem reuse_agrees_renamed :
    Call.Trusted Renaming.history.calls Renaming.generator ∧ Renaming.second.Reuses Renaming.built ∧
      Call.ReuseAgrees Renaming.history.calls Renaming.generator
        fun j _ => j.options.namespaceName :=
  ⟨Renaming.trusted, Renaming.second_reuses,
    reuse_agrees Renaming.memory Renaming.empty Renaming.moves Renaming.generator Renaming.trusted⟩

/-- **A change of the namespace alone goes unnoticed.** Reuse does not agree with regeneration for
the namespace of the cache that publishes: the generator would now write down another one. -/
theorem reuse_keeps_namespace :
    Call.Trusted Renaming.history.calls Renaming.generator ∧
      ¬ Call.ReuseAgrees Renaming.history.calls Renaming.generator
        fun _ k => k.options.namespaceName := by
  refine ⟨Renaming.trusted, fun hagrees => ?_⟩
  obtain ⟨⟨j, hj, source, hmakes⟩, hall⟩ :=
    hagrees [Renaming.first] Renaming.second [] Renaming.calls_history _ Renaming.second_reuses
  obtain ⟨_, _, _, hreads, hmodels, hnow⟩ := hall j hj source hmakes
  obtain ⟨_, _, _, _, hdrafts, _⟩ := hmakes
  obtain rfl := List.mem_singleton.mp hj
  -- both are asked about the same pages and sources
  obtain ⟨rfl, rfl⟩ := Renaming.eq_of_reads (by simp) hreads
  obtain ⟨rfl, rfl⟩ := Renaming.eq_of_reads (by simp) hdrafts.reads
  obtain rfl := Except.ok.inj (Renaming.typeModels_pages.symm.trans hmodels)
  obtain rfl := Except.ok.inj (Renaming.typeModels_pages.symm.trans hdrafts.typeModels)
  -- one source would have to begin with either namespace
  have hsame : Renaming.generator Renaming.sources Renaming.models "A" =
      Renaming.generator Renaming.sources Renaming.models "B" := hdrafts.generated.trans hnow.symm
  exact absurd (Except.ok.inj hsame) (by decide +kernel)

end History

end ModelCache
