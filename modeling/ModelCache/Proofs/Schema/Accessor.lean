import Mathlib.Data.List.Nodup
import Mathlib.Logic.Relation
import ModelCache.Proofs.Schema.Mixins

/-!
# What a content type ends up with

A content type takes over what it can be led to along mixins, itself included. `reach` lists that,
each content type once, so that a property that comes in over several mixins is one property. Two
accessors may then have one name only if they stand for one property. A property is told by the
content type that declares it and by its alias, so a content type that declares a property twice
passes the check.

* **`Schema.TakesOver`** — what a content type takes over, as a list without repetitions.
* **`Schema.exists_takesOver`** — `reach` comes to an end with such a list.
* **`Schema.ToldApart`** — the accessors that a content type ends up with are of one property if
  they are of one name.
* **`Schema.checkedAccessors`** — the check finds out whether that is so.
-/

open Relation (ReflTransGen)

namespace ModelCache.Schema

variable {types : Schema} {t : ContentType} {visited stack : List String} {us : List ContentType}

/-! ## The bound -/

/-- How many mixins those content types have that are not visited. -/
def mixinsLeft (visited : List String) : List ContentType → Nat
  | [] => 0
  | t :: rest =>
    (if t.aliasName.key ∈ visited then 0 else t.mixins.length) + mixinsLeft visited rest

theorem mixinsLeft_cons_le (visited : List String) (key : String) (l : List ContentType) :
    mixinsLeft (key :: visited) l ≤ mixinsLeft visited l := by
  induction l with
  | nil => exact Nat.le_refl 0
  | cons t rest ih =>
    rw [mixinsLeft, mixinsLeft]
    by_cases hmem : t.aliasName.key ∈ visited
    · rw [if_pos hmem, if_pos (List.mem_cons_of_mem key hmem)]
      omega
    · rw [if_neg hmem]
      split <;> omega

/-- Visiting a content type leaves its mixins out of account. -/
theorem mixinsLeft_visit {l : List ContentType} (ht : t ∈ l) (hnew : t.aliasName.key ∉ visited) :
    mixinsLeft (t.aliasName.key :: visited) l + t.mixins.length ≤ mixinsLeft visited l := by
  induction l with
  | nil => cases ht
  | cons first rest ih =>
    rw [mixinsLeft, mixinsLeft]
    rcases List.mem_cons.mp ht with rfl | ht
    · have hrest := mixinsLeft_cons_le visited t.aliasName.key rest
      rw [if_pos List.mem_cons_self, if_neg hnew]
      omega
    · have hrest := ih ht
      by_cases hmem : first.aliasName.key ∈ visited
      · rw [if_pos hmem, if_pos (List.mem_cons_of_mem _ hmem)]
        omega
      · rw [if_neg hmem]
        split <;> omega

theorem reachBound_eq (types : Schema) : reachBound types = mixinsLeft [] types + 2 := by
  unfold reachBound
  induction types with
  | nil => rfl
  | cons t rest ih =>
    rw [List.foldr_cons, ih, mixinsLeft, if_neg List.not_mem_nil]
    omega

/-! ## What is reached -/

/-- The content types in a list are what the stack leads to and was not visited. -/
structure Reached (types : Schema) (visited stack : List String) (us : List ContentType) :
    Prop where
  mem : ∀ u ∈ us, u ∈ types
  nodup : us.Nodup
  unvisited : ∀ u ∈ us, u.aliasName.key ∉ visited
  led : ∀ u ∈ us, ∃ key ∈ stack, ReflTransGen (Mixes types) key u.aliasName.key
  covers : ∀ key ∈ stack, key ∈ visited ∨ key ∈ keys us
  closed : ∀ key ∈ keys us, ∀ mixin, Mixes types key mixin → mixin ∈ visited ∨ mixin ∈ keys us

/-- The step of `reach` that takes a content type over and puts its mixins onto the stack. -/
theorem Reached.cons (hnodup : (keys types).Nodup) (ht : t ∈ types)
    (hnew : t.aliasName.key ∉ visited)
    (h : Reached types (t.aliasName.key :: visited)
      ((t.mixins.map Alias.key).reverse ++ stack) us) :
    Reached types visited (t.aliasName.key :: stack) (t :: us) where
  mem := List.forall_mem_cons.mpr ⟨ht, h.mem⟩
  nodup := List.nodup_cons.mpr ⟨fun hmem => h.unvisited t hmem List.mem_cons_self, h.nodup⟩
  unvisited := List.forall_mem_cons.mpr
    ⟨hnew, fun u hu hmem => h.unvisited u hu (List.mem_cons_of_mem _ hmem)⟩
  led := by
    refine List.forall_mem_cons.mpr ⟨⟨_, List.mem_cons_self, .refl⟩, fun u hu => ?_⟩
    obtain ⟨key, hkey, hled⟩ := h.led u hu
    rcases List.mem_append.mp hkey with hkey | hkey
    · obtain ⟨m, hm, rfl⟩ := List.mem_map.mp (List.mem_reverse.mp hkey)
      exact ⟨_, List.mem_cons_self, hled.head ⟨t, ht, rfl, m, hm, rfl⟩⟩
    · exact ⟨key, List.mem_cons_of_mem _ hkey, hled⟩
  covers key hkey := by
    rcases List.mem_cons.mp hkey with rfl | hkey
    · exact .inr List.mem_cons_self
    · rcases h.covers key (List.mem_append_right _ hkey) with hmem | hmem
      · rcases List.mem_cons.mp hmem with rfl | hmem
        · exact .inr List.mem_cons_self
        · exact .inl hmem
      · exact .inr (List.mem_cons_of_mem _ hmem)
  closed key hkey mixin hmixes := by
    -- its own mixins are on the stack, and those of the others are accounted for already
    have hnext : mixin ∈ t.aliasName.key :: visited ∨ mixin ∈ keys us := by
      rcases List.mem_cons.mp hkey with rfl | hkey
      · obtain ⟨m, hm, rfl⟩ := hmixes.exists_mixin hnodup ht
        refine h.covers _ (List.mem_append_left _ ?_)
        exact List.mem_reverse.mpr (List.mem_map_of_mem hm)
      · exact h.closed key hkey mixin hmixes
    rcases hnext with hmem | hmem
    · rcases List.mem_cons.mp hmem with rfl | hmem
      · exact .inr List.mem_cons_self
      · exact .inl hmem
    · exact .inr (List.mem_cons_of_mem _ hmem)

/-- **How `reach` ends.** Each key taken from the stack uses up one of the bound. -/
theorem exists_reached (h : Resolved types) {fuel : Nat} (hstack : ∀ key ∈ stack, key ∈ keys types)
    (hfuel : stack.length + mixinsLeft visited types < fuel) :
    ∃ us, reach types fuel visited stack = .ok us ∧ Reached types visited stack us := by
  induction fuel generalizing visited stack with
  | zero => exact absurd hfuel (Nat.not_lt_zero _)
  | succ fuel ih =>
    cases stack with
    | nil => exact ⟨[], by rw [reach], ⟨nofun, List.nodup_nil, nofun, nofun, nofun, nofun⟩⟩
    | cons key stack =>
      obtain ⟨hkey, hrest⟩ := List.forall_mem_cons.mp hstack
      rw [List.length_cons] at hfuel
      rw [reach]
      by_cases hvisited : key ∈ visited
      · -- the key came onto the stack over several mixins
        rw [if_pos hvisited]
        have hleft : stack.length + mixinsLeft visited types < fuel := by omega
        obtain ⟨us, hreach, hreached⟩ := ih hrest hleft
        refine ⟨us, hreach, { hreached with
          led := fun u hu => ?_
          covers := List.forall_mem_cons.mpr ⟨.inl hvisited, hreached.covers⟩ }⟩
        obtain ⟨k, hk, hled⟩ := hreached.led u hu
        exact ⟨k, List.mem_cons_of_mem key hk, hled⟩
      · obtain ⟨t, ht, rfl⟩ := mem_keys.mp hkey
        rw [if_neg hvisited, lookUp_of_mem h.nodup ht]
        have hnext : ∀ k ∈ (t.mixins.map Alias.key).reverse ++ stack, k ∈ keys types := by
          intro k hk
          rcases List.mem_append.mp hk with hk | hk
          · obtain ⟨m, hm, rfl⟩ := List.mem_map.mp (List.mem_reverse.mp hk)
            exact h.closed t ht m hm
          · exact hrest k hk
        -- the mixins come onto the stack but are no longer left
        have hleft : ((t.mixins.map Alias.key).reverse ++ stack).length +
            mixinsLeft (t.aliasName.key :: visited) types < fuel := by
          have hvisit := mixinsLeft_visit ht hvisited
          rw [List.length_append, List.length_reverse, List.length_map]
          omega
        obtain ⟨us, hreach, hreached⟩ := ih hnext hleft
        refine ⟨t :: us, ?_, hreached.cons h.nodup ht hvisited⟩
        show Except.bind (reach types fuel _ _) _ = _
        rw [hreach]
        rfl

/-! ## What a content type takes over -/

/-- The list has each content type that one takes over once. A content type takes itself over. -/
structure TakesOver (types : Schema) (t : ContentType) (us : List ContentType) : Prop where
  nodup : us.Nodup
  mem_iff : ∀ u, u ∈ us ↔ u ∈ types ∧ ReflTransGen (Mixes types) t.aliasName.key u.aliasName.key

theorem Reached.takesOver (hnodup : (keys types).Nodup)
    (h : Reached types [] [t.aliasName.key] us) : TakesOver types t us := by
  refine ⟨h.nodup, fun u => ⟨fun hu => ⟨h.mem u hu, ?_⟩, fun ⟨hu, hled⟩ => ?_⟩⟩
  · obtain ⟨key, hkey, hled⟩ := h.led u hu
    exact List.mem_singleton.mp hkey ▸ hled
  · have hmem : ∀ key, ReflTransGen (Mixes types) t.aliasName.key key → key ∈ keys us := by
      intro key hled
      induction hled with
      | refl => exact (h.covers _ List.mem_cons_self).resolve_left List.not_mem_nil
      | tail _ hmixes ih => exact (h.closed _ ih _ hmixes).resolve_left List.not_mem_nil
    obtain ⟨v, hv, hkey⟩ := mem_keys.mp (hmem _ hled)
    exact eq_of_key hnodup (h.mem v hv) hu hkey ▸ hv

/-- **What a content type ends up with.** -/
theorem exists_takesOver (h : Resolved types) (ht : t ∈ types) :
    ∃ us, TakesOver types t us ∧ accessors types t = .ok (us.flatMap ownAccessors) := by
  have hstack : ∀ key ∈ [t.aliasName.key], key ∈ keys types := fun key hkey =>
    List.mem_singleton.mp hkey ▸ mem_keys.mpr ⟨t, ht, rfl⟩
  have hbound : [t.aliasName.key].length + mixinsLeft [] types < reachBound types := by
    rw [reachBound_eq, List.length_singleton]
    omega
  obtain ⟨us, hreach, hreached⟩ := exists_reached h hstack hbound
  refine ⟨us, hreached.takesOver h.nodup, ?_⟩
  rw [accessors, hreach]
  rfl

/-! ## Names -/

/-- Accessors of one name are one accessor. -/
def OnePerName (l : List Accessor) : Prop := ∀ a ∈ l, ∀ b ∈ l, a.name = b.name → a = b

theorem OnePerName.of_subset {l l' : List Accessor} (h : OnePerName l') (hsub : l ⊆ l') :
    OnePerName l :=
  fun a ha b hb => h a (hsub ha) b (hsub hb)

theorem OnePerName.cons {a : Accessor} {l : List Accessor} (h : OnePerName l)
    (hnew : ∀ b ∈ l, b.name ≠ a.name) : OnePerName (a :: l) := by
  intro b hb c hc hname
  rcases List.mem_cons.mp hb with rfl | hbl <;> rcases List.mem_cons.mp hc with rfl | hcl
  · rfl
  · exact absurd hname.symm (hnew c hcl)
  · exact absurd hname (hnew b hbl)
  · exact h b hbl c hcl hname

theorem clash?_eq_none {seen l : List Accessor} (hseen : OnePerName seen) :
    clash? seen l = none ↔ OnePerName (seen ++ l) := by
  induction l generalizing seen with
  | nil => exact ⟨fun _ => by rwa [List.append_nil], fun _ => rfl⟩
  | cons a rest ih =>
    rw [clash?]
    cases hfind : seen.find? (·.name == a.name) with
    | some b =>
      have hb : b ∈ seen := List.mem_of_find?_eq_some hfind
      have hname : b.name = a.name := by simpa using List.find?_some hfind
      dsimp only
      split
      case isTrue heq =>
        -- the accessor was seen before
        subst heq
        rw [ih hseen]
        exact ⟨fun h => h.of_subset (by simp [hb]), fun h => h.of_subset (by simp)⟩
      case isFalse hne =>
        refine ⟨nofun, fun h => absurd ?_ hne⟩
        exact h b (List.mem_append_left _ hb) a (List.mem_append_right _ List.mem_cons_self) hname
    | none =>
      have hnew : ∀ b ∈ seen, b.name ≠ a.name := by simpa using hfind
      dsimp only
      rw [ih (hseen.cons hnew)]
      exact ⟨fun h => h.of_subset (by simp), fun h => h.of_subset (by simp)⟩

/-- Properties with one accessor name that a content type ends up with are declared by one content
type, under one alias. -/
def ToldApart (types : Schema) (t : ContentType) : Prop :=
  ∀ us, TakesOver types t us → ∀ u ∈ us, ∀ v ∈ us, ∀ p ∈ u.ownProperties, ∀ q ∈ v.ownProperties,
    p.name = q.name → u = v ∧ p.aliasName = q.aliasName

theorem onePerName_iff (h : Resolved types) (htakes : TakesOver types t us) :
    OnePerName (us.flatMap ownAccessors) ↔ ToldApart types t := by
  constructor
  · intro hone vs hvs u hu v hv p hp q hq hname
    -- two lists of what a content type takes over have the same members
    have hmem : ∀ w, w ∈ vs → w ∈ us := fun w hw => (htakes.mem_iff w).mpr ((hvs.mem_iff w).mp hw)
    have heq := hone ⟨p.name, u.aliasName.key, p.aliasName⟩
      (List.mem_flatMap.mpr ⟨u, hmem u hu, List.mem_map.mpr ⟨p, hp, rfl⟩⟩)
      ⟨q.name, v.aliasName.key, q.aliasName⟩
      (List.mem_flatMap.mpr ⟨v, hmem v hv, List.mem_map.mpr ⟨q, hq, rfl⟩⟩) hname
    obtain ⟨-, howner, hproperty⟩ := Accessor.mk.inj heq
    have hu' := ((hvs.mem_iff u).mp hu).1
    have hv' := ((hvs.mem_iff v).mp hv).1
    exact ⟨eq_of_key h.nodup hu' hv' howner, hproperty⟩
  · intro htold a ha b hb hname
    obtain ⟨u, hu, ha⟩ := List.mem_flatMap.mp ha
    obtain ⟨p, hp, rfl⟩ := List.mem_map.mp ha
    obtain ⟨v, hv, hb⟩ := List.mem_flatMap.mp hb
    obtain ⟨q, hq, rfl⟩ := List.mem_map.mp hb
    obtain ⟨rfl, hproperty⟩ := htold us htakes u hu v hv p hp q hq hname
    exact Accessor.mk.injEq .. ▸ ⟨hname, rfl, hproperty⟩

/-! ## The check -/

/-- How the check of the accessors ends. -/
inductive CheckedAccessors (types : Schema) (l : List ContentType) : Except Stop Unit → Prop
  | toldApart : (∀ t ∈ l, ToldApart types t) → CheckedAccessors types l (.ok ())
  | clash {t : ContentType} {name : String} : t ∈ l → ¬ ToldApart types t →
      CheckedAccessors types l (.error (.fault (.duplicateProperty t.aliasName.spelling name)))

theorem checkedAccessors (h : Resolved types) {l : List ContentType} (hl : ∀ t ∈ l, t ∈ types) :
    CheckedAccessors types l (checkAccessors types l) := by
  induction l with
  | nil => exact .toldApart nofun
  | cons t rest ih =>
    obtain ⟨ht, hrest⟩ := List.forall_mem_cons.mp hl
    obtain ⟨us, htakes, haccessors⟩ := exists_takesOver h ht
    have hnone : clash? [] (us.flatMap ownAccessors) = none ↔ ToldApart types t :=
      (clash?_eq_none fun _ ha => absurd ha List.not_mem_nil).trans (onePerName_iff h htakes)
    rw [checkAccessors, haccessors]
    dsimp only [bind, Except.bind]
    cases hclash : clash? [] (us.flatMap ownAccessors) with
    | some a =>
      refine .clash List.mem_cons_self fun htold => ?_
      rw [hnone.mpr htold] at hclash
      cases hclash
    | none =>
      have hfirst := hnone.mp hclash
      have hends := ih hrest
      dsimp only
      cases hcheck : checkAccessors types rest with
      | ok =>
        rw [hcheck] at hends
        obtain ⟨htold⟩ := hends
        exact .toldApart (List.forall_mem_cons.mpr ⟨hfirst, htold⟩)
      | error stop =>
        rw [hcheck] at hends
        cases hends with
        | clash hu hclash => exact .clash (List.mem_cons_of_mem t hu) hclash

end ModelCache.Schema
