import ModelCache.Proofs.Schema.Order

/-!
# Content types and their mixins

The content types that are not left out form a graph: an edge leads from each of them to each of its
mixins, whatever the spelling. So its nodes are the keys of the content types. Before the checks
along mixins come those on type names and on single mixins. What passes them is a graph without
loose ends, in which every look-up has an answer.

* **`Schema.Mixes`** — the edges of the graph.
* **`Schema.Resolved`** — the graph has one content type for each node and no loose ends.
* **`Schema.claimNames_eq_ok`**, **`Schema.resolveMixins_eq_ok`** — what the two checks check,
  without an order.
-/

namespace ModelCache.Schema

variable {s types : Schema} {t : ContentType} {key : String}

/-! ## Look-ups -/

theorem mem_keys : key ∈ keys types ↔ ∃ t ∈ types, t.aliasName.key = key := List.mem_map

theorem lookUp_of_mem (hnodup : (keys types).Nodup) (ht : t ∈ types) :
    lookUp types t.aliasName.key = .ok t := by
  unfold lookUp
  cases hget : get? types t.aliasName.key with
  | none => exact absurd (mem_keys.mpr ⟨t, ht, rfl⟩) (get?_eq_none.mp hget)
  | some u =>
    have hkey : u.aliasName.key = t.aliasName.key := by simpa using List.find?_some hget
    -- the look-up finds the first one with the key, and there is only one
    obtain rfl := eq_of_key hnodup (List.mem_of_find?_eq_some hget) ht hkey
    rfl

/-! ## The graph -/

/-- A content type with the first key has a mixin with the second one. -/
def Mixes (types : Schema) (key mixin : String) : Prop :=
  ∃ t ∈ types, t.aliasName.key = key ∧ ∃ m ∈ t.mixins, m.key = mixin

/-- No two content types have the same key, and their mixins are among them. -/
structure Resolved (types : Schema) : Prop where
  nodup : (keys types).Nodup
  closed : ∀ t ∈ types, ∀ m ∈ t.mixins, m.key ∈ keys types

theorem Mixes.exists_mixin (h : Mixes types t.aliasName.key key) (hnodup : (keys types).Nodup)
    (ht : t ∈ types) : ∃ m ∈ t.mixins, m.key = key := by
  obtain ⟨u, hu, hkey, hmixin⟩ := h
  obtain rfl := eq_of_key hnodup hu ht hkey
  exact hmixin

/-! ## The content types that are not left out -/

theorem active_perm (s : Schema) : (active s).Perm (s.filter (!·.directives.ignore)) :=
  List.mergeSort_perm _ byKey

theorem Distinct.nodup_active (h : Distinct s) : (keys (active s)).Nodup :=
  ((active_perm s).map _).nodup_iff.mpr ((List.filter_sublist.map _).nodup h.nodup)

/-- They stand in the order of their keys, each above the one before. -/
theorem Distinct.increasing (h : Distinct s) :
    (active s).Pairwise fun t u => t.aliasName.key < u.aliasName.key := by
  have hsorted : (active s).Pairwise fun t u => byKey t u = true :=
    List.pairwise_mergeSort byKey_trans byKey_total _
  have hdifferent : (active s).Pairwise fun t u => t.aliasName.key ≠ u.aliasName.key :=
    List.pairwise_map.mp h.nodup_active
  refine (hsorted.and hdifferent).imp fun {t u} ⟨hle, hne⟩ => ?_
  have hcompare : (compareOfLessAndEq t.aliasName.key u.aliasName.key).isLE = true := hle
  refine Decidable.byContradiction fun hlt => ?_
  rw [compareOfLessAndEq, if_neg hlt, if_neg hne] at hcompare
  cases hcompare

/-! ## The checks before those along mixins -/

theorem claimNames_eq_ok {claimed l : List ContentType} : claimNames claimed l = .ok () ↔
    (l.map (·.typeName)).Nodup ∧ ∀ t ∈ l, ∀ u ∈ claimed, u.typeName ≠ t.typeName := by
  induction l generalizing claimed with
  | nil => exact ⟨fun _ => ⟨List.nodup_nil, nofun⟩, fun _ => rfl⟩
  | cons t rest ih =>
    rw [claimNames]
    cases hfind : claimed.find? (·.typeName == t.typeName) with
    | some first =>
      refine ⟨nofun, fun ⟨_, hnew⟩ => ?_⟩
      have hname : first.typeName = t.typeName := by simpa using List.find?_some hfind
      exact absurd hname (hnew t List.mem_cons_self first (List.mem_of_find?_eq_some hfind))
    | none =>
      have hnew : ∀ u ∈ claimed, u.typeName ≠ t.typeName := by simpa using hfind
      dsimp only
      rw [ih, List.map_cons, List.nodup_cons, List.mem_map]
      constructor
      · rintro ⟨hnodup, hrest⟩
        refine ⟨⟨fun ⟨u, hu, hname⟩ => ?_, hnodup⟩, ?_⟩
        · exact hrest u hu t List.mem_cons_self hname.symm
        · intro u hu v hv
          rcases List.mem_cons.mp hu with rfl | hu
          · exact hnew v hv
          · exact hrest u hu v (List.mem_cons_of_mem t hv)
      · rintro ⟨⟨hfirst, hnodup⟩, hall⟩
        refine ⟨hnodup, fun u hu v hv hname => ?_⟩
        rcases List.mem_cons.mp hv with rfl | hv
        · exact hfirst ⟨u, hu, hname.symm⟩
        · exact hall u (List.mem_cons_of_mem t hu) v hv hname

theorem resolveMixins_eq_ok {l : List ContentType} : resolveMixins types l = .ok () ↔
    ∀ t ∈ l, ∀ m ∈ t.mixins, m.key ∈ keys types := by
  induction l with
  | nil => exact ⟨fun _ => nofun, fun _ => rfl⟩
  | cons t rest ih =>
    rw [resolveMixins]
    cases hfind : t.mixins.find? fun m => (get? types m.key).isNone with
    | some m =>
      refine ⟨nofun, fun h => ?_⟩
      have hnone : get? types m.key = none := by simpa using List.find?_some hfind
      exact absurd (h t List.mem_cons_self m (List.mem_of_find?_eq_some hfind))
        (get?_eq_none.mp hnone)
    | none =>
      have hthere : ∀ m ∈ t.mixins, m.key ∈ keys types := by
        intro m hm
        have hsome := List.find?_eq_none.mp hfind m hm
        refine Decidable.byContradiction fun hmissing => hsome ?_
        rw [get?_eq_none.mpr hmissing]
        rfl
      dsimp only
      rw [ih]
      exact ⟨fun h => List.forall_mem_cons.mpr ⟨hthere, h⟩, fun h => (List.forall_mem_cons.mp h).2⟩

end ModelCache.Schema
