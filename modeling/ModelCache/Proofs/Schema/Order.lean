import ModelCache.Schema.TypeModel

/-!
# Type models do not depend on the order of a schema

The checks on aliases come first and look at the schema as it was listed. A schema that passes them
has a different key for each content type, so that putting the content types in the order of their
keys leaves nothing of the order in which they were listed. Everything that comes after the checks
on aliases looks at the ordered list alone.

* **`Schema.Distinct`** — what the checks on aliases check, without an order.
* **`Schema.active_of_perm`** — the ordered list is the same for every order of a distinct schema.
* **`Schema.typeModels_perm`** — so are the type models, and every fault but one of aliases.
-/

namespace ModelCache.Schema

/-! ## Distinct aliases -/

/-- The keys of the aliases of a schema, in order. -/
def keys (s : Schema) : List String := s.map (·.aliasName.key)

/-- Every alias has something in it, and no two are the same. -/
structure Distinct (s : Schema) : Prop where
  notBlank : ∀ t ∈ s, Text.isBlankText t.aliasName.spelling = false
  nodup : (keys s).Nodup

theorem get?_eq_none {s : Schema} {key : String} : get? s key = none ↔ key ∉ keys s := by
  unfold get? keys
  rw [List.find?_eq_none, List.mem_map]
  constructor
  · rintro h ⟨t, ht, rfl⟩
    exact h t ht (beq_self_eq_true _)
  · intro h t ht hbeq
    exact h ⟨t, ht, eq_of_beq hbeq⟩

theorem distinctAliases_eq_ok {seen : List ContentType} {s : Schema} :
    distinctAliases seen s = .ok () ↔ Distinct s ∧ ∀ key ∈ keys s, key ∉ keys seen := by
  induction s generalizing seen with
  | nil => exact ⟨fun _ => ⟨⟨nofun, List.nodup_nil⟩, nofun⟩, fun _ => rfl⟩
  | cons t rest ih =>
    rw [distinctAliases]
    cases hblank : Text.isBlankText t.aliasName.spelling with
    | true =>
      rw [if_pos rfl]
      refine ⟨nofun, fun ⟨hdistinct, _⟩ => ?_⟩
      rw [hdistinct.notBlank t List.mem_cons_self] at hblank
      cases hblank
    | false =>
      rw [if_neg Bool.false_ne_true]
      cases hget : get? seen t.aliasName.key with
      | some first =>
        refine ⟨nofun, fun ⟨_, hnew⟩ => ?_⟩
        have hnone := get?_eq_none.mpr (hnew t.aliasName.key List.mem_cons_self)
        rw [hget] at hnone
        cases hnone
      | none =>
        dsimp only
        rw [ih]
        have hnew := get?_eq_none.mp hget
        constructor
        · rintro ⟨hdistinct, hrest⟩
          refine ⟨⟨?_, ?_⟩, ?_⟩
          · intro u hu
            rcases List.mem_cons.mp hu with rfl | hu
            · exact hblank
            · exact hdistinct.notBlank u hu
          · refine List.nodup_cons.mpr ⟨fun hmem => ?_, hdistinct.nodup⟩
            exact hrest _ hmem List.mem_cons_self
          · intro key hkey
            rcases List.mem_cons.mp hkey with rfl | hkey
            · exact hnew
            · exact fun hmem => hrest key hkey (List.mem_cons_of_mem _ hmem)
        · rintro ⟨hdistinct, hall⟩
          obtain ⟨hfirst, hnodup⟩ := List.nodup_cons.mp hdistinct.nodup
          refine ⟨⟨fun u hu => hdistinct.notBlank u (List.mem_cons_of_mem t hu), hnodup⟩, ?_⟩
          intro key hkey hmem
          rcases List.mem_cons.mp hmem with rfl | hmem
          · exact hfirst hkey
          · exact hall key (List.mem_cons_of_mem _ hkey) hmem

theorem Distinct.perm {s s' : Schema} (h : Distinct s) (hperm : s.Perm s') : Distinct s' where
  notBlank t ht := h.notBlank t (hperm.mem_iff.mpr ht)
  nodup := (hperm.map _).nodup h.nodup

/-! ## Content types in the order of their keys -/

/-- Whether content types are in the order of their keys. -/
def byKey (a b : ContentType) : Bool := (compare a.aliasName b.aliasName).isLE

theorem byKey_trans (a b c : ContentType) (hab : byKey a b = true) (hbc : byKey b c = true) :
    byKey a c = true :=
  (Std.TransCmp.isLE_trans hab hbc :
    (compare a.aliasName.key c.aliasName.key).isLE = true)

theorem byKey_total (a b : ContentType) : (byKey a b || byKey b a) = true := by
  have hswap : compare a.aliasName.key b.aliasName.key =
      (compare b.aliasName.key a.aliasName.key).swap := Std.OrientedCmp.eq_swap
  show ((compare a.aliasName.key b.aliasName.key).isLE ||
    (compare b.aliasName.key a.aliasName.key).isLE) = true
  rw [hswap]
  cases compare b.aliasName.key a.aliasName.key <;> rfl

theorem key_eq_of_byKey {a b : ContentType} (hab : byKey a b = true) (hba : byKey b a = true) :
    a.aliasName.key = b.aliasName.key := by
  have heq : compare a.aliasName.key b.aliasName.key = .eq := Std.OrientedCmp.isLE_antisymm hab hba
  exact Std.LawfulEqCmp.eq_of_compare heq

theorem active_eq (s : Schema) :
    active s = (s.filter (!·.directives.ignore)).mergeSort byKey := rfl

/-- Content types with different keys have only one order by key. -/
theorem eq_of_key {s : Schema} (h : (keys s).Nodup) {t u : ContentType} (ht : t ∈ s) (hu : u ∈ s)
    (hkey : t.aliasName.key = u.aliasName.key) : t = u := by
  induction s with
  | nil => cases ht
  | cons first rest ih =>
    obtain ⟨hfirst, hrest⟩ := List.nodup_cons.mp h
    rcases List.mem_cons.mp ht with rfl | htrest <;> rcases List.mem_cons.mp hu with rfl | hurest
    · rfl
    · exact absurd (List.mem_map.mpr ⟨u, hurest, hkey.symm⟩) hfirst
    · exact absurd (List.mem_map.mpr ⟨t, htrest, hkey⟩) hfirst
    · exact ih hrest htrest hurest

/-- **The ordered list leaves nothing of the order of the schema.** -/
theorem active_of_perm {s s' : Schema} (h : (keys s).Nodup) (hperm : s.Perm s') :
    active s = active s' := by
  rw [active_eq, active_eq]
  have hactive : (s.filter (!·.directives.ignore)).Perm (s'.filter (!·.directives.ignore)) :=
    hperm.filter _
  -- both lists are in the order of their keys, which leave no choice as they are distinct
  refine List.Perm.eq_of_pairwise ?_ (List.pairwise_mergeSort byKey_trans byKey_total _)
    (List.pairwise_mergeSort byKey_trans byKey_total _) ?_
  · intro a b ha hb hab hba
    have ha := (List.mem_filter.mp (List.mem_mergeSort.mp ha)).1
    have hb := hperm.mem_iff.mpr (List.mem_filter.mp (List.mem_mergeSort.mp hb)).1
    exact eq_of_key h ha hb (key_eq_of_byKey hab hba)
  · exact (List.mergeSort_perm _ byKey).trans (hactive.trans (List.mergeSort_perm _ byKey).symm)

/-! ## Type models -/

theorem typeModels_eq (s : Schema) :
    typeModels s = (distinctAliases [] s).bind fun _ => modelsOf (active s) := rfl

/-- A schema has type models if its ordered list has. -/
theorem exists_models {s types : Schema} (hactive : active s = types)
    (haliases : distinctAliases [] s = .ok ()) (hmodels : (modelsOf types).isOk = true) :
    ∃ models, typeModels s = .ok models := by
  rw [typeModels_eq, haliases, hactive]
  show ∃ models, modelsOf types = .ok models
  cases hmodelsOf : modelsOf types with
  | ok models => exact ⟨models, rfl⟩
  | error e =>
    rw [hmodelsOf] at hmodels
    cases hmodels

theorem of_typeModels_ok {s : Schema} {models : List TypeModel} (h : typeModels s = .ok models) :
    distinctAliases [] s = .ok () ∧ modelsOf (active s) = .ok models := by
  rw [typeModels_eq] at h
  cases haliases : distinctAliases [] s with
  | error e =>
    rw [haliases] at h
    cases h
  | ok =>
    rw [haliases] at h
    exact ⟨rfl, h⟩

/-- What passes the checks on aliases comes to the same in every order. -/
theorem typeModels_eq_of_perm {s s' : Schema} (hperm : s.Perm s')
    (h : distinctAliases [] s = .ok ()) : typeModels s = typeModels s' := by
  have hdistinct := (distinctAliases_eq_ok.mp h).1
  have h' : distinctAliases [] s' = .ok () :=
    distinctAliases_eq_ok.mpr ⟨hdistinct.perm hperm, fun _ _ => List.not_mem_nil⟩
  rw [typeModels_eq, typeModels_eq, h, h', active_of_perm hdistinct.nodup hperm]

/-- **The type models of a schema are those of every order of it.** -/
theorem typeModels_of_perm {s s' : Schema} (hperm : s.Perm s') {models : List TypeModel}
    (h : typeModels s = .ok models) : typeModels s' = .ok models := by
  rwa [typeModels_eq_of_perm hperm (of_typeModels_ok h).1] at h

/-! ## Faults -/

/-- Whether a fault is one of aliases. Only the checks for these see how a schema was listed. -/
def isAliasFault : SchemaError → Bool
  | .emptyAlias | .aliasConflict .. => true
  | .provider _ | .typeNameCollision .. | .unknownMixin .. | .mixinCycle _
  | .duplicateProperty .. => false

theorem isAliasFault_of_distinctAliases {seen : List ContentType} {s : Schema} {e : SchemaError}
    (h : distinctAliases seen s = .error e) : isAliasFault e = true := by
  induction s generalizing seen with
  | nil => cases h
  | cons t rest ih =>
    rw [distinctAliases] at h
    split at h
    case isTrue =>
      cases h
      rfl
    case isFalse =>
      split at h
      case h_1 =>
        cases h
        rfl
      case h_2 => exact ih h

theorem typeModels_error_of_perm {s s' : Schema} (hperm : s.Perm s') {e : SchemaError}
    (he : isAliasFault e = false) (h : typeModels s = .error e) : typeModels s' = .error e := by
  cases haliases : distinctAliases [] s with
  | error e' =>
    rw [typeModels_eq, haliases] at h
    cases h
    rw [isAliasFault_of_distinctAliases haliases] at he
    cases he
  | ok => rwa [typeModels_eq_of_perm hperm haliases] at h

/-- **How a schema is listed does not matter.** In every order it has the same type models, or a
fault. A fault that is not one of aliases is the same in every order, with the names in it. -/
theorem typeModels_perm {s s' : Schema} (hperm : s.Perm s') :
    (∀ models, typeModels s = .ok models ↔ typeModels s' = .ok models) ∧
    ((∃ e, typeModels s = .error e) ↔ ∃ e, typeModels s' = .error e) ∧
    ∀ e, isAliasFault e = false → (typeModels s = .error e ↔ typeModels s' = .error e) := by
  have hok (models : List TypeModel) : typeModels s = .ok models ↔ typeModels s' = .ok models :=
    ⟨typeModels_of_perm hperm, typeModels_of_perm hperm.symm⟩
  refine ⟨hok, ?_, fun e he =>
    ⟨typeModels_error_of_perm hperm he, typeModels_error_of_perm hperm.symm he⟩⟩
  cases hs : typeModels s with
  | ok models => rw [(hok models).mp hs]
  | error e =>
    refine ⟨fun _ => ?_, fun _ => ⟨e, rfl⟩⟩
    cases hs' : typeModels s' with
    | ok models =>
      rw [(hok models).mpr hs'] at hs
      cases hs
    | error e' => exact ⟨e', rfl⟩

/-- Two content types that mix each other in, the other way round. The same one is named. -/
theorem typeModels_perm_cycle :
    let s : Schema := [{ aliasName := ⟨"page"⟩, kind := .content, mixins := [⟨"SEO"⟩] },
      { aliasName := ⟨"seo"⟩, kind := .content, mixins := [⟨"Page"⟩] }]
    s.Perm s.reverse ∧ typeModels s = .error (.mixinCycle "page") ∧
      typeModels s.reverse = .error (.mixinCycle "page") := by
  intro s
  have hperm : s.Perm s.reverse := (List.reverse_perm s).symm
  have hactive : active s = s := List.mergeSort_of_pairwise (by decide +kernel)
  have haliases : distinctAliases [] s = .ok () := rfl
  have hcycle : typeModels s = .error (.mixinCycle "page") := by
    rw [typeModels_eq, haliases, hactive]
    rfl
  exact ⟨hperm, hcycle, ((typeModels_perm hperm).2.2 _ rfl).mp hcycle⟩

end ModelCache.Schema
