import Mathlib.Data.List.Pairwise
import ModelCache.Companion

/-!
# Companion sources do not depend on the order of a directory

Sources are put where their paths belong, so that it makes no difference which of two sources comes
first, as long as they have different paths. Paths are the same if their components are, however they
are spelled, and the order of paths is the order of their components:

* **`Path.compare_eq_iff`** — paths compare equal exactly if they have the same components.
* **`Companions.insertInto_comm`** — two sources with different paths can be added in either order.
* **`Companions.ofList_perm`** — so can any number of them.
* **`Companions.mem_ofList`** and **`Companions.ascending_ofList`** — and they are all there then, in
  the order of their paths.
-/

namespace ModelCache

namespace Path

/-! ## The order of paths -/

/-- The name of a component, if it is a name. -/
def Component.nameText : Component → String
  | .name n => n
  | .root | .here | .up => ""

/-- Components are compared by their kinds, and names among themselves by their texts. -/
theorem Component.compare_eq_lex : Component.compare =
    compareLex (compareOn Component.compare.rank) (compareOn Component.nameText) := by
  funext a b
  cases a <;> cases b <;> rfl

instance : Std.TransCmp Component.compare := by
  rw [Component.compare_eq_lex]
  infer_instance

instance : Std.LawfulEqCmp Component.compare where
  compare_self := Std.ReflCmp.compare_self
  eq_of_compare {a b} h := by
    cases a with
    | name n =>
      cases b with
      | name m => rw [Std.LawfulEqCmp.eq_of_compare (show Ord.compare n m = .eq from h)]
      | root | here | up => cases h
    | root | here | up => cases b <;> first | rfl | cases h

instance : Std.TransCmp Path.compare :=
  have hlex : Std.TransCmp (List.compareLex Component.compare) := inferInstance
  { eq_swap := hlex.eq_swap
    isLE_trans := hlex.isLE_trans }

theorem compare_eq_iff {p q : Path} : p.compare q = .eq ↔ p.components = q.components := by
  rw [compare]
  exact Std.LawfulEqCmp.compare_eq_iff_eq

theorem same_comm (p q : Path) : p.same q = q.same p := BEq.comm

theorem same_eq_false_iff {p q : Path} : p.same q = false ↔ p.compare q ≠ .eq := by
  rw [Ne, compare_eq_iff, same, beq_eq_false_iff_ne]

end Path

namespace Companions

open Std (OrientedCmp TransCmp)

/-! ## The order in which sources are added -/

/-- **Two sources with different paths can be added in either order.** -/
theorem insertInto_comm {p q : Path} (h : p.compare q ≠ .eq) (s t : String)
    (files : List Companion) :
    insertInto q t (insertInto p s files) = insertInto p s (insertInto q t files) := by
  have hgt {a b : Path} (hlt : a.compare b = .lt) : b.compare a = .gt := OrientedCmp.gt_of_lt hlt
  induction files with
  | nil =>
    cases hpq : p.compare q with
    | lt => simp [insertInto, hpq, hgt hpq]
    | eq => exact absurd hpq h
    | gt => simp [insertInto, hpq, OrientedCmp.lt_of_gt hpq]
  | cons c rest ih =>
    -- where the two paths stand to the first one that is there says how they stand to each other
    cases hp : p.compare c.path with
    | lt =>
      cases hq : q.compare c.path with
      | lt =>
        cases hpq : p.compare q with
        | lt => simp [insertInto, hp, hq, hpq, hgt hpq]
        | eq => exact absurd hpq h
        | gt => simp [insertInto, hp, hq, hpq, OrientedCmp.lt_of_gt hpq]
      | eq =>
        have hlt : p.compare q = .lt := TransCmp.lt_of_lt_of_eq hp (OrientedCmp.eq_symm hq)
        simp [insertInto, hp, hq, hgt hlt]
      | gt =>
        have hlt : p.compare q = .lt := TransCmp.lt_trans hp (OrientedCmp.lt_of_gt hq)
        simp [insertInto, hp, hq, hgt hlt]
    | eq =>
      cases hq : q.compare c.path with
      | lt =>
        have hlt : q.compare p = .lt := TransCmp.lt_of_lt_of_eq hq (OrientedCmp.eq_symm hp)
        simp [insertInto, hp, hq, hgt hlt]
      | eq => exact absurd (TransCmp.eq_trans hp (OrientedCmp.eq_symm hq)) h
      | gt => simp [insertInto, hp, hq]
    | gt =>
      cases hq : q.compare c.path with
      | lt =>
        have hlt : q.compare p = .lt := TransCmp.lt_trans hq (OrientedCmp.lt_of_gt hp)
        simp [insertInto, hp, hq, hgt hlt]
      | eq => simp [insertInto, hp, hq]
      | gt => simp [insertInto, hp, hq, ih]

/-- **Sources with different paths come to the same in whatever order they are listed.** -/
theorem ofList_perm {files files' : List (Path × String)}
    (hpaths : files.Pairwise fun a b => a.1.same b.1 = false) (hperm : files.Perm files') :
    ofList files = ofList files' := by
  have hsymm : Std.Symm fun a b : Path × String => a.1.same b.1 = false :=
    ⟨fun _ _ hab => Path.same_comm _ _ ▸ hab⟩
  refine hperm.foldl_eq' (fun a ha b hb cs => ?_) empty
  by_cases hab : a = b
  · rw [hab]
  · have hne : a.1.compare b.1 ≠ .eq :=
      Path.same_eq_false_iff.mp (hpaths.forall ha hb hab)
    exact congrArg Companions.mk (insertInto_comm hne a.2 b.2 cs.files)

/-! ## What is there, and in which order -/

/-- Whether sources stand in the order of their paths, and each path stands there once. -/
def Ascending (files : List Companion) : Prop :=
  files.Pairwise fun a b => a.path.compare b.path = .lt

variable {p : Path} {t : String} {files : List Companion} {cs : Companions} {k : Companion}

/-- A source with a path of its own joins those that are there. -/
theorem mem_insertInto (h : ∀ c ∈ files, p.compare c.path ≠ .eq) :
    k ∈ insertInto p t files ↔ k = ⟨p, t⟩ ∨ k ∈ files := by
  induction files with
  | nil => rw [insertInto, List.mem_singleton]; simp
  | cons c rest ih =>
    rw [insertInto]
    cases hpc : p.compare c.path with
    | lt => exact List.mem_cons
    | eq => exact absurd hpc (h c List.mem_cons_self)
    | gt =>
      dsimp only
      rw [List.mem_cons, ih fun c' hc' => h c' (List.mem_cons_of_mem c hc'), List.mem_cons]
      exact or_left_comm

/-- The paths after an insertion are the one that was inserted and those that were there. A source that
is replaced keeps its own spelling of the path. -/
theorem path_of_mem_insertInto (hk : k ∈ insertInto p t files) :
    k.path = p ∨ ∃ c ∈ files, k.path = c.path := by
  induction files with
  | nil =>
    obtain rfl := List.mem_singleton.mp hk
    exact .inl rfl
  | cons c rest ih =>
    rw [insertInto] at hk
    cases hpc : p.compare c.path with
    | lt =>
      rw [hpc] at hk
      rcases List.mem_cons.mp hk with rfl | hk
      · exact .inl rfl
      · exact .inr ⟨k, hk, rfl⟩
    | eq =>
      rw [hpc] at hk
      rcases List.mem_cons.mp hk with rfl | hk
      · exact .inr ⟨c, List.mem_cons_self, rfl⟩
      · exact .inr ⟨k, List.mem_cons_of_mem c hk, rfl⟩
    | gt =>
      rw [hpc] at hk
      rcases List.mem_cons.mp hk with rfl | hk
      · exact .inr ⟨k, List.mem_cons_self, rfl⟩
      · rcases ih hk with heq | ⟨c', hc', heq⟩
        · exact .inl heq
        · exact .inr ⟨c', List.mem_cons_of_mem c hc', heq⟩

theorem ascending_insertInto (h : Ascending files) (p : Path) (t : String) :
    Ascending (insertInto p t files) := by
  induction files with
  | nil => exact List.pairwise_singleton _ _
  | cons c rest ih =>
    obtain ⟨hfirst, hrest⟩ := List.pairwise_cons.mp h
    rw [insertInto]
    cases hpc : p.compare c.path with
    | lt =>
      refine List.pairwise_cons.mpr ⟨fun k hk => ?_, h⟩
      rcases List.mem_cons.mp hk with rfl | hk
      · exact hpc
      · exact TransCmp.lt_trans hpc (hfirst k hk)
    | eq => exact List.pairwise_cons.mpr ⟨hfirst, hrest⟩
    | gt =>
      refine List.pairwise_cons.mpr ⟨fun k hk => ?_, ih hrest⟩
      rcases path_of_mem_insertInto hk with heq | ⟨c', hc', heq⟩
      · rw [heq]
        exact OrientedCmp.lt_of_gt hpc
      · rw [heq]
        exact hfirst c' hc'

/-- Adding sources keeps the order of paths. -/
theorem ascending_foldl (h : Ascending cs.files) (added : List (Path × String)) :
    Ascending (added.foldl (fun cs (path, text) => cs.insert path text) cs).files := by
  induction added generalizing cs with
  | nil => exact h
  | cons f rest ih =>
    have hinserted : Ascending (cs.insert f.1 f.2).files := ascending_insertInto h f.1 f.2
    exact ih hinserted

/-- Sources with paths of their own join those that are there. -/
theorem mem_foldl {added : List (Path × String)}
    (hpaths : added.Pairwise fun a b => a.1.same b.1 = false)
    (hnew : ∀ f ∈ added, ∀ c ∈ cs.files, f.1.compare c.path ≠ .eq) :
    k ∈ (added.foldl (fun cs (path, text) => cs.insert path text) cs).files ↔
      k ∈ cs.files ∨ (k.path, k.text) ∈ added := by
  induction added generalizing cs with
  | nil => simp
  | cons f rest ih =>
    obtain ⟨hfirst, hrest⟩ := List.pairwise_cons.mp hpaths
    have hmem {k : Companion} : k ∈ (cs.insert f.1 f.2).files ↔ k = ⟨f.1, f.2⟩ ∨ k ∈ cs.files :=
      mem_insertInto (hnew f List.mem_cons_self)
    have hnew' : ∀ f' ∈ rest, ∀ c ∈ (cs.insert f.1 f.2).files, f'.1.compare c.path ≠ .eq := by
      intro f' hf' c hc
      rcases hmem.mp hc with rfl | hc
      · rw [← Path.same_eq_false_iff, Path.same_comm]
        exact hfirst f' hf'
      · exact hnew f' (List.mem_cons_of_mem f hf') c hc
    have hfile : k = ⟨f.1, f.2⟩ ↔ (k.path, k.text) = f := by
      obtain ⟨path, text⟩ := k
      obtain ⟨path', text'⟩ := f
      simp
    rw [List.foldl_cons, ih hrest hnew', hmem, hfile, List.mem_cons, or_comm (a := (_ = f)),
      or_assoc]

/-- **Sources are kept in the order of their paths**, however they are listed. -/
theorem ascending_ofList (added : List (Path × String)) : Ascending (ofList added).files :=
  ascending_foldl List.Pairwise.nil added

/-- **Sources with different paths are all kept**, and nothing else is. -/
theorem mem_ofList {added : List (Path × String)}
    (hpaths : added.Pairwise fun a b => a.1.same b.1 = false) :
    k ∈ (ofList added).files ↔ (k.path, k.text) ∈ added := by
  have hnew : ∀ f ∈ added, ∀ c ∈ empty.files, f.1.compare c.path ≠ .eq :=
    fun _ _ _ hc => absurd hc List.not_mem_nil
  rw [ofList, mem_foldl hpaths hnew]
  exact or_iff_right List.not_mem_nil

end Companions

end ModelCache
