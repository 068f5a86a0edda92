import ModelCache.Proofs.Companion
import ModelCache.Proofs.Schema.Digest
import ModelCache.Proofs.Schema.Order

/-!
# What the digest takes of the order of a schema

The digest puts content types in order by their aliases. Where two of them are listed under one
spelling, nothing decides between them but the order in which they were listed, and that is what the
sorting keeps. So the digest of a schema depends on this much of the order and on no more:

* **`Schema.SameListing`** — two schemas list the same content types under every spelling, in the
  same order.
* **`Schema.digest_of_sameListing`** — they have one digest.
* **`Schema.Unambiguous`** — a spelling tells the content type that is listed under it. Then any order
  will do (`Schema.sameListing_of_unambiguous`), and then only (`Schema.unambiguous_of_perm`).
* **`Schema.digest_of_perm`** — what this comes to for the digest, which takes nothing of the order in
  which companion sources are listed.
-/

namespace ModelCache.Schema

/-- The content types that are listed under a spelling. -/
def listed (s : Schema) (spelling : String) : Schema :=
  s.filter fun t => t.aliasName.spelling = spelling

/-- Two schemas list the same under every spelling. -/
def SameListing (s s' : Schema) : Prop := ∀ spelling, s.listed spelling = s'.listed spelling

/-! ## The order of the digest -/

/-- Content types compared by their aliases, and by spelling where these are the same. -/
def compareTypes : ContentType → ContentType → Ordering :=
  compareLex (compareOn fun t => t.aliasName.key) (compareOn fun t => t.aliasName.spelling)

instance : Std.TransCmp compareTypes :=
  inferInstanceAs (Std.TransCmp (compareLex (compareOn _) (compareOn _)))

theorem inOrder_eq (a b : ContentType) : inOrder a b = (compareTypes a b).isLE := rfl

theorem inOrder_trans (a b c : ContentType) (hab : inOrder a b = true) (hbc : inOrder b c = true) :
    inOrder a c = true := by
  rw [inOrder_eq] at hab hbc ⊢
  exact Std.TransCmp.isLE_trans hab hbc

theorem inOrder_total (a b : ContentType) : (inOrder a b || inOrder b a) = true := by
  have hswap : compareTypes a b = (compareTypes b a).swap := Std.OrientedCmp.eq_swap
  rw [inOrder_eq, inOrder_eq, hswap]
  cases compareTypes b a <;> rfl

/-- Only one spelling can stand on both sides of another. -/
theorem spelling_eq_of_inOrder {a b : ContentType} (hab : inOrder a b = true)
    (hba : inOrder b a = true) : a.aliasName.spelling = b.aliasName.spelling := by
  rw [inOrder_eq] at hab hba
  have heq : compareTypes a b = .eq := Std.OrientedCmp.isLE_antisymm hab hba
  have hspelling : compare a.aliasName.spelling b.aliasName.spelling = .eq :=
    (Ordering.then_eq_eq.mp heq).2
  exact Std.LawfulEqCmp.eq_of_compare hspelling

theorem inOrder_of_spelling {a b : ContentType}
    (h : a.aliasName.spelling = b.aliasName.spelling) : inOrder a b = true := by
  have hrefl := inOrder_total a a
  rw [Bool.or_self] at hrefl
  have halias : a.aliasName = b.aliasName := Alias.eq_of_spelling h
  unfold inOrder at hrefl ⊢
  rw [← halias]
  exact hrefl

/-! ## Sorting keeps what is listed under a spelling -/

theorem mem_listed {s : Schema} {spelling : String} {t : ContentType} :
    t ∈ s.listed spelling ↔ t ∈ s ∧ t.aliasName.spelling = spelling := by
  unfold listed
  rw [List.mem_filter, decide_eq_true_eq]

theorem listed_cons_self (t : ContentType) (s : Schema) :
    listed (t :: s) t.aliasName.spelling = t :: s.listed t.aliasName.spelling :=
  List.filter_cons_of_pos (decide_eq_true rfl)

theorem listed_cons_of_ne {t : ContentType} {spelling : String}
    (h : t.aliasName.spelling ≠ spelling) (s : Schema) :
    listed (t :: s) spelling = s.listed spelling :=
  List.filter_cons_of_neg (by rw [decide_eq_true_eq]; exact h)

theorem listed_mergeSort (s : Schema) (spelling : String) :
    listed (s.mergeSort inOrder) spelling = s.listed spelling := by
  have hsorted : (s.listed spelling).Pairwise fun a b => inOrder a b = true := by
    refine List.pairwise_of_forall_mem_list fun a ha b hb => inOrder_of_spelling ?_
    rw [(mem_listed.mp ha).2, (mem_listed.mp hb).2]
  -- the sorting is stable, so that it keeps what was in order before
  have hkept : (s.listed spelling).Sublist (s.mergeSort inOrder) :=
    List.sublist_mergeSort inOrder_trans inOrder_total hsorted List.filter_sublist
  have hwithin : (s.listed spelling).Sublist (listed (s.mergeSort inOrder) spelling) := by
    have hfilter := hkept.filter fun t => t.aliasName.spelling = spelling
    rw [listed, List.filter_filter] at hfilter
    simp only [Bool.and_self] at hfilter
    exact hfilter
  have hperm : (listed (s.mergeSort inOrder) spelling).Perm (s.listed spelling) :=
    (List.mergeSort_perm s inOrder).filter _
  exact (hwithin.eq_of_length hperm.length_eq.symm).symm

theorem SameListing.mem {s s' : Schema} (h : SameListing s s') {t : ContentType} (ht : t ∈ s) :
    t ∈ s' := by
  have hlisted : t ∈ s.listed t.aliasName.spelling := mem_listed.mpr ⟨ht, rfl⟩
  rw [h] at hlisted
  exact (mem_listed.mp hlisted).1

/-- **Lists in order that list the same under every spelling are the same.** -/
theorem eq_of_sameListing {s s' : Schema} (hs : s.Pairwise fun a b => inOrder a b = true)
    (hs' : s'.Pairwise fun a b => inOrder a b = true) (h : SameListing s s') : s = s' := by
  induction s generalizing s' with
  | nil =>
    cases s' with
    | nil => rfl
    | cons t' rest' =>
      have hfirst := h t'.aliasName.spelling
      rw [listed_cons_self] at hfirst
      cases hfirst
  | cons t rest ih =>
    cases s' with
    | nil =>
      have hfirst := h t.aliasName.spelling
      rw [listed_cons_self] at hfirst
      cases hfirst
    | cons t' rest' =>
      obtain ⟨hleast, hrest⟩ := List.pairwise_cons.mp hs
      obtain ⟨hleast', hrest'⟩ := List.pairwise_cons.mp hs'
      -- each of the two first ones is somewhere in the other list
      have hmem : t ∈ t' :: rest' := h.mem List.mem_cons_self
      have hmem' : t' ∈ t :: rest := SameListing.mem (fun spelling => (h spelling).symm)
        List.mem_cons_self
      have hspelling : t.aliasName.spelling = t'.aliasName.spelling := by
        rcases List.mem_cons.mp hmem with rfl | hmem
        · rfl
        · rcases List.mem_cons.mp hmem' with rfl | hmem'
          · rfl
          · exact spelling_eq_of_inOrder (hleast t' hmem') (hleast' t hmem)
      have hfirst := h t.aliasName.spelling
      rw [listed_cons_self, hspelling, listed_cons_self] at hfirst
      obtain rfl := (List.cons.inj hfirst).1
      refine congrArg (t :: ·) (ih hrest hrest' fun spelling => ?_)
      by_cases heq : t.aliasName.spelling = spelling
      · rw [← heq]
        exact (List.cons.inj hfirst).2
      · have hspelled := h spelling
        rwa [listed_cons_of_ne heq, listed_cons_of_ne heq] at hspelled

/-! ## The digest -/

theorem mergeSort_of_sameListing {s s' : Schema} (h : SameListing s s') :
    s.mergeSort inOrder = s'.mergeSort inOrder := by
  refine eq_of_sameListing (List.pairwise_mergeSort inOrder_trans inOrder_total s)
    (List.pairwise_mergeSort inOrder_trans inOrder_total s') fun spelling => ?_
  rw [listed_mergeSort, listed_mergeSort]
  exact h spelling

/-- **Schemas that list the same under every spelling have one digest.** -/
theorem digest_of_sameListing {s s' : Schema} (h : SameListing s s') (companions : Companions) :
    s.digest companions = s'.digest companions := by
  unfold digest
  rw [fields_eq, fields_eq, mergeSort_of_sameListing h]

theorem sameListing_of_digestInput {companions companions' : Companions} {s s' : Schema}
    (hfits : Addressable companions s) (hfits' : Addressable companions' s')
    (h : digestInput companions s = digestInput companions' s') : SameListing s s' := by
  intro spelling
  rw [← listed_mergeSort s, ← listed_mergeSort s', (sorted_of_digestInput hfits hfits' h).2]

/-! ## Orders that make no difference -/

/-- Whether a spelling tells the content type that is listed under it. -/
def Unambiguous (s : Schema) : Prop :=
  ∀ t ∈ s, ∀ u ∈ s, t.aliasName.spelling = u.aliasName.spelling → t = u

theorem unambiguous_of_nodup {s : Schema} (h : (keys s).Nodup) : s.Unambiguous := by
  intro t ht u hu hspelling
  have halias : t.aliasName = u.aliasName := Alias.eq_of_spelling hspelling
  exact eq_of_key h ht hu (congrArg Alias.key halias)

theorem sameListing_of_unambiguous {s s' : Schema} (h : s.Unambiguous) (hperm : s.Perm s') :
    SameListing s s' := by
  intro spelling
  have hlisted : (s.listed spelling).Perm (s'.listed spelling) := hperm.filter _
  -- whatever is listed under the spelling is one and the same, so that it has no order
  have hone : ∀ t u, t ∈ s.listed spelling → u ∈ s'.listed spelling → True → True → t = u := by
    intro t u ht hu _ _
    obtain ⟨ht, htspelling⟩ := mem_listed.mp ht
    obtain ⟨hu, huspelling⟩ := mem_listed.mp hu
    exact h t ht u (hperm.mem_iff.mpr hu) (htspelling.trans huspelling.symm)
  exact hlisted.eq_of_pairwise hone (List.pairwise_of_forall fun _ _ => trivial)
    (List.pairwise_of_forall fun _ _ => trivial)

theorem sameListing_of_perm {s s' : Schema} (h : (keys s).Nodup) (hperm : s.Perm s') :
    SameListing s s' :=
  sameListing_of_unambiguous (unambiguous_of_nodup h) hperm

/-- A schema that lists the same in every order has no spelling for two content types: either of them
could come first. -/
theorem unambiguous_of_perm {s : Schema} (h : ∀ s' : Schema, s.Perm s' → SameListing s s') :
    s.Unambiguous := by
  -- what is listed first under a spelling if it is taken to the front
  have hfirst : ∀ t ∈ s, ∃ rest, s.listed t.aliasName.spelling = t :: rest := by
    intro t ht
    obtain ⟨before, after, hsplit⟩ := List.append_of_mem ht
    have hfront : s.Perm (t :: (before ++ after)) := hsplit ▸ List.perm_middle
    exact ⟨_, (h _ hfront t.aliasName.spelling).trans (listed_cons_self t _)⟩
  intro t ht u hu hspelling
  obtain ⟨rest, htfirst⟩ := hfirst t ht
  obtain ⟨rest', hufirst⟩ := hfirst u hu
  rw [hspelling, hufirst] at htfirst
  exact (List.cons.inj htfirst).1.symm

/-- **What the digest takes of the order in which its inputs are listed.** Of the companion sources, as
long as they have different paths, it takes none. Of the schema it takes none but the order of content
types that are listed under one spelling. So it is the same for every order of a schema in which a
spelling tells the content type, and for no other schema is its input the same for every order. -/
theorem digest_of_perm {files files' : List (Path × String)}
    (hpaths : files.Pairwise fun a b => a.1.same b.1 = false) (hfiles : files.Perm files')
    (s : Schema) :
    (∀ s' : Schema, s.Perm s' → SameListing s s' →
      s.digest (.ofList files) = s'.digest (.ofList files')) ∧
    (s.Unambiguous → ∀ s' : Schema, s.Perm s' →
      s.digest (.ofList files) = s'.digest (.ofList files')) ∧
    (Addressable (.ofList files) s →
      ((∀ s' : Schema, s.Perm s' →
        digestInput (.ofList files) s = digestInput (.ofList files') s') ↔ s.Unambiguous)) := by
  rw [← Companions.ofList_perm hpaths hfiles]
  refine ⟨fun s' _ hlisting => digest_of_sameListing hlisting _,
    fun h s' hperm => digest_of_sameListing (sameListing_of_unambiguous h hperm) _,
    fun hfits => ⟨fun h => ?_, fun h s' hperm => ?_⟩⟩
  · refine unambiguous_of_perm fun s' hperm => ?_
    exact sameListing_of_digestInput hfits (hfits.perm hperm) (h s' hperm)
  · unfold digestInput
    rw [fields_eq, fields_eq, mergeSort_of_sameListing (sameListing_of_unambiguous h hperm)]

/-- Companion sources and content types the other way round. The two aliases are the same, but they
are spelled in different ways. -/
theorem digest_of_perm_reversed :
    let files : List (Path × String) := [(⟨"b.rs"⟩, "b"), (⟨"./a.rs"⟩, "a")]
    let schema : Schema :=
      [{ aliasName := ⟨"page"⟩, kind := .content }, { aliasName := ⟨"Page"⟩, kind := .element }]
    (files.Pairwise fun a b => a.1.same b.1 = false) ∧ files.Perm files.reverse ∧
      schema.Unambiguous ∧ schema.Perm schema.reverse ∧
        schema.digest (.ofList files) = Schema.digest (.ofList files.reverse) schema.reverse := by
  intro files schema
  have hpaths : files.Pairwise fun a b => a.1.same b.1 = false := by decide +kernel
  have hfiles : files.Perm files.reverse := (List.reverse_perm files).symm
  have hperm : schema.Perm schema.reverse := (List.reverse_perm schema).symm
  have hunambiguous : schema.Unambiguous := by
    intro t ht u hu hspelling
    simp only [schema, List.mem_cons, List.not_mem_nil, or_false] at ht hu
    rcases ht with rfl | rfl <;> rcases hu with rfl | rfl
    · rfl
    · exact absurd hspelling (by decide)
    · exact absurd hspelling (by decide)
    · rfl
  exact ⟨hpaths, hfiles, hunambiguous, hperm,
    (digest_of_perm hpaths hfiles schema).2.1 hunambiguous schema.reverse hperm⟩

/-- **The digest takes the order of two content types of one spelling.** -/
theorem digest_takes_order :
    let home : ContentType := { aliasName := ⟨"home"⟩, kind := .content }
    let copy : ContentType := { aliasName := ⟨"home"⟩, kind := .element }
    [home, copy].Perm [copy, home] ∧
      Schema.digest .empty [home, copy] ≠ Schema.digest .empty [copy, home] := by
  intro home copy
  refine ⟨List.Perm.swap .., ?_⟩
  rw [digest_eq, digest_eq, digestInput_pair, digestInput_pair]
  decide +kernel

end ModelCache.Schema
