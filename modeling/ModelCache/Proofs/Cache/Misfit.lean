import ModelCache.Proofs.Cache.Session

/-!
# What a stored module can spoil

A stored record is there to save work, so whatever is wrong with it should only cost that work. Four
of five ways to look for a stored module end like that: there is no record, it has another digest,
nothing can be loaded, or what is loaded carries another digest or none. The cycle then goes on as if
nothing was stored (`cycle_of_not_stored`). In the fifth way the module is taken, and from there on
the cycle hangs on its types.

* **`Cache.Misfit`** — a stored module that carries the right digest, but whose types do not fit
  together.
* **`Cache.succeeds_unless_misfit`** — a cycle that would succeed without a stored record succeeds
  with it exactly if there is no misfit, and otherwise it fails with what is wrong with the misfit.
* **`Cache.misfit_spoils`** — the latter does happen.
-/

namespace ModelCache

/-- The same surroundings without a stored record. -/
def Surroundings.withoutRecord (around : Surroundings) : Surroundings :=
  { around with record := none }

namespace Cache

variable {around : Surroundings} {options : Options} {forced : Bool} {versions : VersionCounter}
  {generation : Nat}

/-- A stored module that a cycle takes for its digests and then rejects, with `e`, for its types. -/
def Misfit (around : Surroundings) (forced : Bool) (generation : Nat) (e : BuildError) : Prop :=
  ∃ schema companions record module, Reads around schema companions ∧
    stored? around forced (schema.digest companions) = some (record, module) ∧
      ModelSet.ofModule (generation + 1) module = .error e

theorem stored?_withoutRecord (around : Surroundings) (forced : Bool) (digest : Digest) :
    stored? around.withoutRecord forced digest = none := by
  cases forced <;> rfl

/-- **A miss is nothing but a miss.** A cycle that finds nothing to use again goes on as if nothing
was stored. -/
theorem cycle_of_not_stored
    (h : ∀ schema companions, Reads around schema companions →
      stored? around forced (schema.digest companions) = none) :
    cycle around options forced versions generation =
      cycle around.withoutRecord options forced versions generation := by
  unfold cycle
  rw [show around.withoutRecord.schema = around.schema from rfl,
    show around.withoutRecord.companions = around.companions from rfl]
  cases hschema : around.schema with
  | error e => rfl
  | ok schema =>
    dsimp only
    cases hcompanions : around.companions with
    | error e => rfl
    | ok companions =>
      dsimp only
      -- neither cycle finds anything, and nothing else depends on the record
      have hmiss := h schema companions ⟨hschema, hcompanions⟩
      have hbare := stored?_withoutRecord around forced (schema.digest companions)
      rw [stored?] at hmiss hbare
      rw [hmiss, hbare]
      rfl

/-- **When a stored record spoils a cycle.** If a cycle would succeed without it, then with it the
cycle succeeds too, whatever is stored and whatever is loaded, unless a misfit is loaded. A misfit
fails the cycle. -/
theorem succeeds_unless_misfit (around : Surroundings) (options : Options) (forced : Bool)
    (versions : VersionCounter) (generation : Nat)
    (hbare : (cycle around.withoutRecord options forced versions generation).result.isOk = true) :
    let o := cycle around options forced versions generation
    (o.result.isOk = true ↔ ¬ ∃ e, Misfit around forced generation e) ∧
      ∀ e, Misfit around forced generation e → o.result = .error e := by
  intro o
  have hfails : ∀ e, Misfit around forced generation e → o.result = .error e := by
    rintro e ⟨schema, companions, record, module, hreads, hstored, hset⟩
    have ho : o = reuse (schema.digest companions) record module versions generation :=
      cycle_of_stored hreads hstored
    rw [ho, reuse, hset]
    rfl
  refine ⟨⟨fun hok hmisfit => ?_, fun hnone => ?_⟩, hfails⟩
  · obtain ⟨e, he⟩ := hmisfit
    rw [hfails e he] at hok
    cases hok
  · by_cases hmiss : ∀ schema companions, Reads around schema companions →
        stored? around forced (schema.digest companions) = none
    · have ho : o = cycle around.withoutRecord options forced versions generation :=
        cycle_of_not_stored hmiss
      rw [ho]
      exact hbare
    · -- something is found, and since it is no misfit, it is published
      simp only [Classical.not_forall] at hmiss
      obtain ⟨schema, companions, hreads, hfound⟩ := hmiss
      obtain ⟨⟨record, module⟩, hstored⟩ := Option.ne_none_iff_exists'.mp hfound
      have ho : o = reuse (schema.digest companions) record module versions generation :=
        cycle_of_stored hreads hstored
      rw [ho, reuse]
      cases hset : ModelSet.ofModule (generation + 1) module with
      | ok set => rfl
      | error e => exact absurd ⟨e, schema, companions, record, module, hreads, hstored, hset⟩ hnone

/-! ## Stored modules, good and bad -/

/-- What a cycle over an empty schema finds if a module with the given marker and types is stored
under the very digest of its inputs. -/
def storing (marker : Option Digest) (types : List TypeDecl) : Surroundings :=
  let digest := Schema.digest .empty []
  { Surroundings.fairWeather with
    record := some
      { generated := "types", unitText := (BuildUnit.assemble ⟨1⟩ digest .empty "types").text, digest
        pointer := { location := ⟨"module"⟩, version := ⟨1⟩ } }
    load := fun location => some { location, version := ⟨1⟩, marker, types } }

/-- A module that lost its marker does no harm, whatever its types are. -/
theorem succeeds_without_marker :
    let types := [⟨"Page", none, false, []⟩]
    (cycle (storing none types).withoutRecord {} false (.observe .fresh ⟨1⟩) 0).result.isOk = true ∧
      (cycle (storing none types) {} false (.observe .fresh ⟨1⟩) 0).result.isOk = true := by
  intro types
  have hbare : (cycle (storing none types).withoutRecord {} false
      (.observe .fresh ⟨1⟩) 0).result.isOk = true := by decide +kernel
  refine ⟨hbare, (succeeds_unless_misfit _ _ _ _ _ hbare).1.mpr ?_⟩
  rintro ⟨e, schema, companions, record, module, _, hstored, _⟩
  obtain ⟨_, _, hload, hmarker⟩ := of_stored?_eq_some hstored
  rw [← Option.some.inj hload] at hmarker
  cases hmarker

/-- **A misfit spoils a cycle.** Without the record the cycle would succeed, and with it the cycle
fails for the type of a module that nobody asked for. -/
theorem misfit_spoils :
    let around := storing (some (Schema.digest .empty [])) [⟨"Page", none, false, []⟩]
    (cycle around.withoutRecord {} false (.observe .fresh ⟨1⟩) 0).result.isOk = true ∧
      (cycle around {} false (.observe .fresh ⟨1⟩) 0).result = .error (.shape "Page" 0) := by
  intro around
  refine ⟨by decide +kernel, ?_⟩
  have hreads : Reads around [] .empty := ⟨rfl, rfl⟩
  rw [cycle_of_stored hreads (stored?_eq_some rfl rfl rfl rfl)]
  rfl

end Cache

end ModelCache
