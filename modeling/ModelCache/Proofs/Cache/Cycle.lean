import ModelCache.Cache
import ModelCache.Proofs.Version

/-!
# How a build cycle ends

`Cache.cycle` is a chain of steps, each of which can end it. This module says once what can come of
the chain, so that no later proof has to walk through it again.

* **`Cache.stored?`** — the record and the module that a cycle may publish again.
* **`Cache.Drafts`** — a cycle gets as far as having source to compile.
* **`Cache.Ends`** — the ways a cycle ends, one constructor each, with what had to be the case for
  it; `cycle_ends` says that there are no others.

From these come the facts that hold whichever way a cycle ends: what it does to the version counter
and the generation (`Ends.notAfter`, `Ends.generation_le`, `Ends.versionStep`), what a published set
has to do with its inputs (`Ends.ok`), and what happens to a unit (`Ends.unitEvents`).
-/

namespace ModelCache.Cache

/-! ## The stages of a cycle -/

/-- The record and the module that a cycle may publish again: those with the digest of its inputs,
unless it must not use them. -/
def stored? (around : Surroundings) (forced : Bool) (digest : Digest) :
    Option (ArtifactRecord × Module) :=
  if forced then none else reusable? around digest

/-- What a cycle reads first. -/
structure Reads (around : Surroundings) (schema : Schema) (companions : Companions) : Prop where
  schema_eq : around.schema = .ok schema
  companions_eq : around.companions = .ok companions

/-- A cycle that gets as far as having `source` to compile: nothing stored could be used, and the
generator gave something for the type models. -/
structure Drafts (around : Surroundings) (options : Options) (forced : Bool) (schema : Schema)
    (companions : Companions) (models : List TypeModel) (source : String) : Prop where
  reads : Reads around schema companions
  notStored : stored? around forced (schema.digest companions) = none
  typeModels : schema.typeModels = .ok models
  generated : around.generate companions models options.namespaceName = .ok source
  notBlank : Text.isBlankText source = false

/-- The record that a cycle saves. -/
def recordOf (unit : BuildUnit) (source : String) (module : Module) : ArtifactRecord :=
  { generated := source, unitText := unit.text, digest := unit.digest
    pointer := { location := module.location, version := unit.version } }

/-- What a cycle does outside before it hears from the compiler. -/
def compileEvents (unit : BuildUnit) : List Event :=
  [.generated, .unitSaved unit.text, .compiled unit]

/-! ## The ends of a cycle -/

/-- The ways a build cycle ends. The first six failures come before a version is issued. -/
inductive Ends (around : Surroundings) (options : Options) (forced : Bool)
    (versions : VersionCounter) (generation : Nat) : Outcome → Prop where
  | schemaMissing (e : SchemaError) (hschema : around.schema = .error e) :
      Ends around options forced versions generation (.failed (.ofSchema e) versions generation [])
  | companionsMissing (schema : Schema) (e : GenerationError) (hschema : around.schema = .ok schema)
      (hcompanions : around.companions = .error e) :
      Ends around options forced versions generation (.failed (.generation e) versions generation [])
  | reuseRejected (schema : Schema) (companions : Companions) (record : ArtifactRecord)
      (module : Module) (e : BuildError) (hreads : Reads around schema companions)
      (hstored : stored? around forced (schema.digest companions) = some (record, module))
      (hset : ModelSet.ofModule (generation + 1) module = .error e) :
      Ends around options forced versions generation
        (.failed e ((versions.observe record.pointer.version).observe module.version)
          (generation + 1) [])
  | reused (schema : Schema) (companions : Companions) (record : ArtifactRecord) (module : Module)
      (set : ModelSet) (hreads : Reads around schema companions)
      (hstored : stored? around forced (schema.digest companions) = some (record, module))
      (hset : ModelSet.ofModule (generation + 1) module = .ok set) :
      Ends around options forced versions generation
        ⟨.ok (schema.digest companions, set),
          (versions.observe record.pointer.version).observe module.version, generation + 1, []⟩
  | modelsRejected (schema : Schema) (companions : Companions) (e : SchemaError)
      (hreads : Reads around schema companions)
      (hstored : stored? around forced (schema.digest companions) = none)
      (hmodels : schema.typeModels = .error e) :
      Ends around options forced versions generation (.failed (.ofSchema e) versions generation [])
  | generatorFailed (schema : Schema) (companions : Companions) (models : List TypeModel)
      (e : GenerationError) (hreads : Reads around schema companions)
      (hstored : stored? around forced (schema.digest companions) = none)
      (hmodels : schema.typeModels = .ok models)
      (hsource : around.generate companions models options.namespaceName = .error e) :
      Ends around options forced versions generation
        (.failed (.generation e) versions generation [.generated])
  | outputBlank (schema : Schema) (companions : Companions) (models : List TypeModel)
      (source : String) (hreads : Reads around schema companions)
      (hstored : stored? around forced (schema.digest companions) = none)
      (hmodels : schema.typeModels = .ok models)
      (hsource : around.generate companions models options.namespaceName = .ok source)
      (hblank : Text.isBlankText source = true) :
      Ends around options forced versions generation
        (.failed (.generation .emptyOutput) versions generation [.generated])
  | exhausted (schema : Schema) (companions : Companions) (models : List TypeModel)
      (source : String) (after : VersionCounter)
      (hdrafts : Drafts around options forced schema companions models source)
      (hissue : versions.issue = (none, after)) :
      Ends around options forced versions generation
        (.failed (.versionsExhausted (after.latest.getD ⟨0⟩)) after generation [.generated])
  | rejected (schema : Schema) (companions : Companions) (models : List TypeModel)
      (source : String) (version : BuildVersion) (after : VersionCounter)
      (diagnostics : List Diagnostic)
      (hdrafts : Drafts around options forced schema companions models source)
      (hissue : versions.issue = (some version, after))
      (hcompile : around.compile
        (.assemble version (schema.digest companions) companions source) = .error diagnostics) :
      Ends around options forced versions generation
        (.failed (.compilation diagnostics
            (BuildUnit.assemble version (schema.digest companions) companions source).text)
          after generation
          (compileEvents (.assemble version (schema.digest companions) companions source)))
  | misshapen (schema : Schema) (companions : Companions) (models : List TypeModel)
      (source : String) (version : BuildVersion) (after : VersionCounter) (module : Module)
      (e : BuildError)
      (hdrafts : Drafts around options forced schema companions models source)
      (hissue : versions.issue = (some version, after))
      (hcompile : around.compile
        (.assemble version (schema.digest companions) companions source) = .ok module)
      (hset : ModelSet.ofModule (generation + 1) module = .error e) :
      Ends around options forced versions generation
        (.failed e after (generation + 1)
          (compileEvents (.assemble version (schema.digest companions) companions source)))
  | built (schema : Schema) (companions : Companions) (models : List TypeModel)
      (source : String) (version : BuildVersion) (after : VersionCounter) (module : Module)
      (set : ModelSet)
      (hdrafts : Drafts around options forced schema companions models source)
      (hissue : versions.issue = (some version, after))
      (hcompile : around.compile
        (.assemble version (schema.digest companions) companions source) = .ok module)
      (hset : ModelSet.ofModule (generation + 1) module = .ok set) :
      Ends around options forced versions generation
        ⟨.ok (schema.digest companions, set), after, generation + 1,
          compileEvents (.assemble version (schema.digest companions) companions source) ++
            [.recordSaved (recordOf
              (.assemble version (schema.digest companions) companions source) source module)]⟩

variable {around : Surroundings} {options : Options} {forced : Bool} {versions : VersionCounter}
  {generation : Nat}

/-- The chain from a draft onwards: a version, the compiler, the types of the module. -/
theorem rebuild_ends {schema : Schema} {companions : Companions}
    (hreads : Reads around schema companions)
    (hstored : stored? around forced (schema.digest companions) = none) :
    Ends around options forced versions generation
      (rebuild around options schema companions (schema.digest companions) versions generation) := by
  unfold rebuild
  cases hmodels : schema.typeModels with
  | error e => exact .modelsRejected schema companions e hreads hstored hmodels
  | ok models =>
    dsimp only
    cases hsource : around.generate companions models options.namespaceName with
    | error e => exact .generatorFailed schema companions models e hreads hstored hmodels hsource
    | ok source =>
      dsimp only
      cases hblank : Text.isBlankText source with
      | true =>
        rw [if_pos rfl]
        exact .outputBlank schema companions models source hreads hstored hmodels hsource hblank
      | false =>
        rw [if_neg Bool.false_ne_true]
        have hdrafts : Drafts around options forced schema companions models source :=
          ⟨hreads, hstored, hmodels, hsource, hblank⟩
        rcases hissue : versions.issue with ⟨_ | version, after⟩
        · exact .exhausted schema companions models source after hdrafts hissue
        · dsimp only
          unfold compile
          cases hcompile : around.compile
              (.assemble version (schema.digest companions) companions source) with
          | error diagnostics =>
            dsimp only
            rw [hcompile]
            exact .rejected schema companions models source version after diagnostics hdrafts hissue
              hcompile
          | ok module =>
            dsimp only
            rw [hcompile]
            dsimp only
            cases hset : ModelSet.ofModule (generation + 1) module with
            | error e =>
              exact .misshapen schema companions models source version after module e hdrafts hissue
                hcompile hset
            | ok set =>
              exact .built schema companions models source version after module set hdrafts hissue
                hcompile hset

/-- **A cycle ends in one of these ways.** -/
theorem cycle_ends (around : Surroundings) (options : Options) (forced : Bool)
    (versions : VersionCounter) (generation : Nat) :
    Ends around options forced versions generation
      (cycle around options forced versions generation) := by
  unfold cycle
  cases hschema : around.schema with
  | error e => exact .schemaMissing e hschema
  | ok schema =>
    dsimp only
    cases hcompanions : around.companions with
    | error e => exact .companionsMissing schema e hschema hcompanions
    | ok companions =>
      dsimp only
      have hreads : Reads around schema companions := ⟨hschema, hcompanions⟩
      cases hstored : stored? around forced (schema.digest companions) with
      | none =>
        -- nothing stored can be used
        rw [stored?] at hstored
        rw [hstored]
        exact rebuild_ends hreads hstored
      | some found =>
        -- a stored module is published, if its types fit together
        obtain ⟨record, module⟩ := found
        have hstored' := hstored
        rw [stored?] at hstored'
        rw [hstored']
        dsimp only
        unfold reuse
        cases hset : ModelSet.ofModule (generation + 1) module with
        | error e =>
          exact .reuseRejected schema companions record module e hreads hstored hset
        | ok set => exact .reused schema companions record module set hreads hstored hset

/-- A draft decides how the cycle goes on: it takes a version, or there is none left to take. -/
theorem Drafts.cycle_eq {schema : Schema} {companions : Companions} {models : List TypeModel}
    {source : String} (h : Drafts around options forced schema companions models source) :
    cycle around options forced versions generation =
      match versions.issue with
      | (none, after) =>
        .failed (.versionsExhausted (after.latest.getD ⟨0⟩)) after generation [.generated]
      | (some version, after) =>
        compile around companions (schema.digest companions) source version after generation := by
  have hstored := h.notStored
  rw [stored?] at hstored
  unfold cycle
  rw [h.reads.schema_eq]
  dsimp only
  rw [h.reads.companions_eq]
  dsimp only
  rw [hstored]
  dsimp only
  unfold rebuild
  rw [h.typeModels]
  dsimp only
  rw [h.generated]
  dsimp only
  exact if_neg (by rw [h.notBlank]; exact Bool.false_ne_true)

/-- A draft that compiles, to a module whose types fit together, is published. -/
theorem Drafts.cycle_eq_of_set {schema : Schema} {companions : Companions} {models : List TypeModel}
    {source : String} (h : Drafts around options forced schema companions models source)
    {version : BuildVersion} {after : VersionCounter} (hissue : versions.issue = (some version, after))
    {module : Module} (hcompile : around.compile
      (.assemble version (schema.digest companions) companions source) = .ok module)
    {set : ModelSet} (hset : ModelSet.ofModule (generation + 1) module = .ok set) :
    cycle around options forced versions generation =
      ⟨.ok (schema.digest companions, set), after, generation + 1,
        compileEvents (.assemble version (schema.digest companions) companions source) ++
          [.recordSaved (recordOf (.assemble version (schema.digest companions) companions source)
            source module)]⟩ := by
  rw [h.cycle_eq, hissue]
  dsimp only
  unfold compile
  dsimp only
  rw [hcompile]
  dsimp only
  rw [hset]
  rfl

/-! ## What every cycle moves up

Neither the counter nor the generation ever moves back, whichever way a cycle ends. -/

variable {o : Outcome}

/-- No cycle makes the counter forget what it knew. -/
theorem Ends.notAfter (h : Ends around options forced versions generation o)
    (hsound : versions.Sound) : versions.NotAfter o.versions := by
  have hissued {answer after} (hissue : versions.issue = (answer, after)) :
      versions.NotAfter after := by
    have hafter := VersionCounter.notAfter_issue hsound
    rwa [hissue] at hafter
  cases h with
  | schemaMissing | companionsMissing | modelsRejected | generatorFailed | outputBlank =>
    exact .refl versions
  | reuseRejected | reused =>
    exact (VersionCounter.notAfter_observe _ _).trans (VersionCounter.notAfter_observe _ _)
  | exhausted _ _ _ _ _ _ hissue | rejected _ _ _ _ _ _ _ _ hissue
  | misshapen _ _ _ _ _ _ _ _ _ hissue | built _ _ _ _ _ _ _ _ _ hissue => exact hissued hissue

/-- A generation that was given out is never given out again. -/
theorem Ends.generation_le (h : Ends around options forced versions generation o) :
    generation ≤ o.generation := by
  cases h with
  | schemaMissing | companionsMissing | modelsRejected | generatorFailed | outputBlank | exhausted
  | rejected => exact Nat.le_refl _
  | reuseRejected | reused | misshapen | built => exact Nat.le_succ _

/-! ## What a cycle publishes -/

theorem ofModule_ok {set : ModelSet} {module : Module}
    (h : ModelSet.ofModule generation module = .ok set) :
    set.generation = generation ∧ set.module = some module := by
  unfold ModelSet.ofModule at h
  cases hmodels : ModelSet.collect [] module.types with
  | error e =>
    rw [hmodels] at h
    cases h
  | ok models =>
    rw [hmodels] at h
    cases h
    exact ⟨rfl, rfl⟩

/-- **What a cycle publishes.** The digest is that of the inputs which this very cycle read, and the
set came from a module and has a generation of its own. -/
theorem Ends.ok (h : Ends around options forced versions generation o) {digest : Digest}
    {set : ModelSet} (hresult : o.result = .ok (digest, set)) :
    (∃ schema companions, Reads around schema companions ∧ digest = schema.digest companions) ∧
      set.module.isSome = true ∧ set.generation = o.generation ∧ o.generation = generation + 1 := by
  cases h with
  | schemaMissing | companionsMissing | modelsRejected | generatorFailed | outputBlank | exhausted
  | rejected | reuseRejected | misshapen => cases hresult
  | reused schema companions record module set hreads hstored hset =>
    obtain ⟨rfl, rfl⟩ := Prod.mk.inj (Except.ok.inj hresult)
    obtain ⟨hgeneration, hmodule⟩ := ofModule_ok hset
    exact ⟨⟨schema, companions, hreads, rfl⟩, by rw [hmodule]; rfl, hgeneration, rfl⟩
  | built schema companions models source version after module set hdrafts hissue hcompile hset =>
    obtain ⟨rfl, rfl⟩ := Prod.mk.inj (Except.ok.inj hresult)
    obtain ⟨hgeneration, hmodule⟩ := ofModule_ok hset
    exact ⟨⟨schema, companions, hdrafts.reads, rfl⟩, by rw [hmodule]; rfl, hgeneration, rfl⟩

/-- A set that a cycle publishes is all that its module has to offer. -/
theorem Ends.exists_ofModule (h : Ends around options forced versions generation o) {digest : Digest}
    {set : ModelSet} (hresult : o.result = .ok (digest, set)) :
    ∃ module, ModelSet.ofModule (generation + 1) module = .ok set := by
  cases h with
  | schemaMissing | companionsMissing | modelsRejected | generatorFailed | outputBlank | exhausted
  | rejected | reuseRejected | misshapen => cases hresult
  | reused schema companions record module set hreads hstored hset =>
    obtain ⟨rfl, rfl⟩ := Prod.mk.inj (Except.ok.inj hresult)
    exact ⟨module, hset⟩
  | built schema companions models source version after module set hdrafts hissue hcompile hset =>
    obtain ⟨rfl, rfl⟩ := Prod.mk.inj (Except.ok.inj hresult)
    exact ⟨module, hset⟩

/-- What may be published again has the digest twice over: in the record and in the module. -/
theorem of_stored?_eq_some {digest : Digest} {record : ArtifactRecord} {module : Module}
    (h : stored? around forced digest = some (record, module)) :
    around.record = some record ∧ record.digest = digest ∧
      around.load record.pointer.location = some module ∧ module.marker = some digest := by
  unfold stored? reusable? at h
  cases forced with
  | true => cases h
  | false =>
    rw [if_neg Bool.false_ne_true] at h
    cases hrecord : around.record with
    | none => rw [hrecord] at h; cases h
    | some found =>
      rw [hrecord, Option.bind_eq_bind, Option.bind_some] at h
      by_cases hdigest : found.digest = digest
      · rw [if_pos hdigest] at h
        cases hload : around.load found.pointer.location with
        | none => rw [hload] at h; cases h
        | some loaded =>
          rw [hload, Option.bind_eq_bind, Option.bind_some] at h
          by_cases hmarker : loaded.marker = some digest
          · rw [if_pos hmarker] at h
            cases h
            exact ⟨rfl, hdigest, hload, hmarker⟩
          · rw [if_neg hmarker] at h
            cases h
      · rw [if_neg hdigest] at h
        cases h

/-- A module is taken if the record and the module both carry the digest. -/
theorem stored?_eq_some {digest : Digest} {record : ArtifactRecord} {module : Module}
    (hrecord : around.record = some record) (hdigest : record.digest = digest)
    (hload : around.load record.pointer.location = some module)
    (hmarker : module.marker = some digest) :
    stored? around false digest = some (record, module) := by
  unfold stored? reusable?
  rw [if_neg Bool.false_ne_true, hrecord, Option.bind_eq_bind, Option.bind_some, if_pos hdigest,
    hload, Option.bind_eq_bind, Option.bind_some, if_pos hmarker]
  rfl

/-- A cycle that finds a module to use again publishes it or fails with what is wrong with it. -/
theorem cycle_of_stored {schema : Schema} {companions : Companions} {record : ArtifactRecord}
    {module : Module} (hreads : Reads around schema companions)
    (hstored : stored? around forced (schema.digest companions) = some (record, module)) :
    cycle around options forced versions generation =
      reuse (schema.digest companions) record module versions generation := by
  rw [stored?] at hstored
  unfold cycle
  rw [hreads.schema_eq]
  dsimp only
  rw [hreads.companions_eq]
  dsimp only
  rw [hstored]

theorem cycle_of_stored_of_set {schema : Schema} {companions : Companions} {record : ArtifactRecord}
    {module : Module} (hreads : Reads around schema companions)
    (hstored : stored? around forced (schema.digest companions) = some (record, module))
    {set : ModelSet} (hset : ModelSet.ofModule (generation + 1) module = .ok set) :
    cycle around options forced versions generation =
      ⟨.ok (schema.digest companions, set),
        (versions.observe record.pointer.version).observe module.version, generation + 1, []⟩ := by
  rw [cycle_of_stored hreads hstored, reuse, hset]
  rfl

/-- Without a record there is nothing to use again. -/
theorem stored?_of_no_record (h : around.record = none) (digest : Digest) :
    stored? around forced digest = none := by
  unfold stored? reusable?
  rw [h]
  cases forced <;> rfl

/-! ## What a cycle does with versions

The versions that a cycle learns of are those of the record and the module that it finds good to use
again, even if the types of the module then turn out not to fit together. -/

/-- The versions that a cycle learns of from what is stored. -/
def learned (around : Surroundings) (forced : Bool) : List BuildVersion :=
  match around.schema, around.companions with
  | .ok schema, .ok companions =>
    match stored? around forced (schema.digest companions) with
    | some (record, module) => [record.pointer.version, module.version]
    | none => []
  | _, _ => []

theorem learned_of_reads {schema : Schema} {companions : Companions}
    (h : Reads around schema companions) :
    learned around forced =
      match stored? around forced (schema.digest companions) with
      | some (record, module) => [record.pointer.version, module.version]
      | none => [] := by
  unfold learned
  rw [h.schema_eq, h.companions_eq]

/-- The versions of the units that are compiled in the course of some events. -/
def compiledIn (events : List Event) : List BuildVersion :=
  events.filterMap fun
    | .compiled unit => some unit.version
    | _ => none

/-- What a cycle that learns of some versions and compiles under others does to the counter. -/
inductive VersionStep (versions : VersionCounter) :
    (learned compiled : List BuildVersion) → VersionCounter → Prop where
  | still : VersionStep versions [] [] versions
  | learned (v w : BuildVersion) :
      VersionStep versions [v, w] [] ((versions.observe v).observe w)
  | issued (v : BuildVersion) (after : VersionCounter) (hissue : versions.issue = (some v, after)) :
      VersionStep versions [] [v] after

/-- A step of the counter keeps it sound. -/
theorem VersionStep.sound {learned compiled : List BuildVersion} {after : VersionCounter}
    (h : VersionStep versions learned compiled after) (hsound : versions.Sound) : after.Sound := by
  cases h with
  | still => exact hsound
  | learned v w => exact (hsound.observe v).observe w
  | issued v after hissue =>
    have hafter := hsound.issue
    rwa [hissue] at hafter

theorem Ends.versionStep (h : Ends around options forced versions generation o) :
    VersionStep versions (learned around forced) (compiledIn o.events) o.versions := by
  cases h with
  | schemaMissing e hschema =>
    rw [learned, hschema]
    exact .still
  | companionsMissing schema e hschema hcompanions =>
    rw [learned, hschema, hcompanions]
    exact .still
  | reuseRejected schema companions record module e hreads hstored
  | reused schema companions record module set hreads hstored =>
    rw [learned_of_reads hreads, hstored]
    exact .learned record.pointer.version module.version
  | modelsRejected schema companions e hreads hstored
  | generatorFailed schema companions models e hreads hstored
  | outputBlank schema companions models source hreads hstored =>
    rw [learned_of_reads hreads, hstored]
    exact .still
  | exhausted schema companions models source after hdrafts hissue =>
    rw [learned_of_reads hdrafts.reads, hdrafts.notStored,
      VersionCounter.eq_of_issue_none hissue]
    exact .still
  | rejected schema companions models source version after _ hdrafts hissue
  | misshapen schema companions models source version after _ _ hdrafts hissue
  | built schema companions models source version after _ _ hdrafts hissue =>
    rw [learned_of_reads hdrafts.reads, hdrafts.notStored]
    exact .issued version after hissue

/-! ## What a cycle does with units

Only a cycle that was issued a version touches a unit, and then it saves the very unit that it
compiles. The record of a cycle carries that unit too. -/

/-- The events of a cycle, by what happens to a unit. -/
inductive UnitEvents (versions after : VersionCounter) : List Event → Prop where
  | none (generated : Bool) :
      UnitEvents versions after (if generated then [.generated] else [])
  | compiled (unit : BuildUnit) (digest : Digest) (companions : Companions) (source : String)
      (hunit : unit = .assemble unit.version digest companions source)
      (hissue : versions.issue = (some unit.version, after)) :
      UnitEvents versions after (compileEvents unit)
  | saved (unit : BuildUnit) (digest : Digest) (companions : Companions) (source : String)
      (record : ArtifactRecord)
      (hunit : unit = .assemble unit.version digest companions source)
      (hissue : versions.issue = (some unit.version, after))
      (hrecord : record.unitText = unit.text) :
      UnitEvents versions after (compileEvents unit ++ [.recordSaved record])

/-- A unit that is compiled was put together for its version. -/
theorem UnitEvents.assembled {after : VersionCounter} {events : List Event}
    (h : UnitEvents versions after events) {unit : BuildUnit} (hunit : .compiled unit ∈ events) :
    ∃ digest companions source, unit = .assemble unit.version digest companions source := by
  cases h with
  | none generated => cases generated <;> simp at hunit
  | compiled compiled digest companions source hassemble
  | saved compiled digest companions source record hassemble =>
    obtain rfl : unit = compiled := by simpa [compileEvents] using hunit
    exact ⟨digest, companions, source, hassemble⟩

/-- A unit that is compiled was put together from the draft of the cycle. -/
theorem Ends.drafts_of_compiled (h : Ends around options forced versions generation o)
    {unit : BuildUnit} (hunit : .compiled unit ∈ o.events) :
    ∃ schema companions models source,
      Drafts around options forced schema companions models source ∧
        unit = .assemble unit.version (schema.digest companions) companions source := by
  cases h with
  | schemaMissing | companionsMissing | modelsRejected | reuseRejected | reused =>
    exact absurd hunit List.not_mem_nil
  | generatorFailed | outputBlank | exhausted =>
    simp [Outcome.failed] at hunit
  | rejected schema companions models source version _ _ hdrafts
  | misshapen schema companions models source version _ _ _ hdrafts
  | built schema companions models source version _ _ _ hdrafts =>
    obtain rfl : unit = .assemble version (schema.digest companions) companions source := by
      simpa [compileEvents, Outcome.failed] using hunit
    exact ⟨schema, companions, models, source, hdrafts, rfl⟩

/-- A cycle that succeeds and compiles nothing publishes the module that was stored. -/
theorem Ends.stored_of_not_compiled (h : Ends around options forced versions generation o)
    (hcompiled : compiledIn o.events = []) {digest : Digest} {set : ModelSet}
    (hresult : o.result = .ok (digest, set)) :
    ∃ schema companions record module, Reads around schema companions ∧
      stored? around forced (schema.digest companions) = some (record, module) ∧
        set.module = some module := by
  cases h with
  | schemaMissing | companionsMissing | modelsRejected | generatorFailed | outputBlank | exhausted
  | rejected | reuseRejected | misshapen => cases hresult
  | reused schema companions record module set hreads hstored hset =>
    obtain ⟨rfl, rfl⟩ := Prod.mk.inj (Except.ok.inj hresult)
    exact ⟨schema, companions, record, module, hreads, hstored, (ofModule_ok hset).2⟩
  | built => exact absurd hcompiled (List.cons_ne_nil _ _)

theorem Ends.unitEvents (h : Ends around options forced versions generation o) :
    UnitEvents versions o.versions o.events := by
  cases h with
  | schemaMissing | companionsMissing | modelsRejected | reuseRejected | reused => exact .none false
  | generatorFailed | outputBlank | exhausted => exact .none true
  | rejected schema companions _ source version _ _ _ hissue
  | misshapen schema companions _ source version _ _ _ _ hissue =>
    exact .compiled (.assemble version (schema.digest companions) companions source) _ _ _ rfl hissue
  | built schema companions _ source version _ module _ _ hissue =>
    exact .saved (.assemble version (schema.digest companions) companions source) _ _ _ _ rfl hissue
      rfl

end ModelCache.Cache
