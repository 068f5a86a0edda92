import ModelCache.Proofs.Digest.Field
import ModelCache.Schema.Digest

/-!
# What a digest stands for

A digest is taken to stand for what was digested. What that is can be told exactly from the bytes
that are digested: the companion sources with their paths as spelled, and the content types with
everything in them, in the order that the digest puts them in. The order in which the schema lists
them is the only thing that is lost.

* **`Companions.delimits_fields`** and **`ContentType.delimits_fields`** — each part of the input
  tells the value it was made of, down to single directives.
* **`Schema.Addressable`** — every length in an input fits into the word that stands for it. That is
  so if the whole input is below `2 ^ 64` bytes (`Schema.addressable_of_length`).
* **`Schema.digestInput_unambiguous`** — equal inputs are of the same companion sources and of the same
  content types.
-/

open ModelCache.Field (Short Delimits delimits_mark delimits_flag delimits_text)

namespace ModelCache

theorem Alias.eq_of_spelling {a b : Alias} (h : a.spelling = b.spelling) : a = b := by
  obtain ⟨a⟩ := a
  obtain ⟨b⟩ := b
  exact congrArg Alias.mk h

theorem ContentKind.mark_injective {k l : ContentKind} (h : k.mark = l.mark) : k = l := by
  revert h
  cases k <;> cases l <;> decide

/-! ## The parts of the input -/

theorem Directives.delimits_fields : Delimits (fun _ => True) Directives.fields := by
  have hrename : Delimits (fun _ => True)
      fun name : Option String => (Directives.fields ⟨name, false⟩).tail := by
    have hoption : Delimits _ fun name : Option String => (Directives.fields ⟨name, false⟩).tail :=
      delimits_text.option rfl fun _ => rfl
    exact hoption.mono fun _ _ _ _ => trivial
  have hparts := (delimits_flag.append hrename).comp (i := fun d : Directives => (d.ignore, d.rename))
    fun d e h => by
      cases d
      cases e
      obtain ⟨rfl, rfl⟩ := Prod.mk.inj h
      rfl
  exact hparts.mono fun _ _ => ⟨trivial, trivial⟩

theorem Property.delimits_fields : Delimits (fun _ => True) Property.fields := by
  have hparts := (delimits_text.append (delimits_text.append (delimits_text.append
    Directives.delimits_fields))).comp
      (i := fun p : Property => (p.aliasName, p.editor, p.valueType, p.directives)) fun p q h => by
    cases p
    cases q
    simp only [Prod.mk.injEq] at h
    obtain ⟨rfl, rfl, rfl, rfl⟩ := h
    rfl
  exact hparts.mono fun _ _ => ⟨trivial, trivial, trivial, trivial⟩

/-- Whether the lists in a content type are so short that their lengths fit into a word. -/
structure ContentType.ShortLists (t : ContentType) : Prop where
  properties : t.properties.length < 2 ^ 64
  mixins : t.mixins.length < 2 ^ 64

theorem ContentType.delimits_fields : Delimits ContentType.ShortLists ContentType.fields := by
  have hkind := delimits_mark.comp fun _ _ h => ContentKind.mark_injective h
  have hmixins := (delimits_text.comp fun _ _ h => Alias.eq_of_spelling h).list
  have hparts := (delimits_text.append (hkind.append (Directives.delimits_fields.append
    (Property.delimits_fields.list.append hmixins)))).comp
      (i := fun t : ContentType =>
        (t.aliasName.spelling, t.kind, t.directives, t.properties, t.mixins)) fun t u h => by
    cases t
    cases u
    simp only [Prod.mk.injEq] at h
    obtain ⟨halias, rfl, rfl, rfl, rfl⟩ := h
    obtain rfl := Alias.eq_of_spelling halias
    rfl
  -- the same fields, put together in the order in which they are told apart
  have hfields : ContentType.fields = fun t : ContentType => [.text t.aliasName.spelling] ++
      ([.mark t.kind.mark] ++ (t.directives.fields ++
        ((.count t.properties.length :: t.properties.flatMap Property.fields) ++
          (.count t.mixins.length :: t.mixins.flatMap fun m => [.text m.spelling])))) := by
    funext t
    unfold ContentType.fields
    rw [List.map_eq_flatMap]
    simp only [List.append_assoc, List.cons_append, List.nil_append]
  rw [hfields]
  exact hparts.mono fun t ht =>
    ⟨trivial, trivial, trivial, ⟨ht.properties, fun _ _ => trivial⟩, ht.mixins, fun _ _ => trivial⟩

theorem ContentType.properties_sublist (t : ContentType) :
    (t.properties.flatMap Property.fields).Sublist t.fields := by
  unfold ContentType.fields
  grind

theorem ContentType.mixins_sublist (t : ContentType) :
    (t.mixins.flatMap fun m => [.text m.spelling]).Sublist t.fields := by
  unfold ContentType.fields
  rw [← List.map_eq_flatMap]
  grind

theorem Companion.delimits_fields :
    Delimits (fun _ => True) fun c : Companion => [.text c.path.text, .text c.text] := by
  have hparts := (delimits_text.append delimits_text).comp
    (i := fun c : Companion => (c.path.text, c.text)) fun c d h => by
      obtain ⟨⟨_⟩, _⟩ := c
      obtain ⟨⟨_⟩, _⟩ := d
      obtain ⟨rfl, rfl⟩ := Prod.mk.inj h
      rfl
  exact hparts.mono fun _ _ => ⟨trivial, trivial⟩

theorem Companions.delimits_fields : Delimits (fun cs => cs.size < 2 ^ 64) Companions.fields := by
  have hparts := (Companion.delimits_fields.list.mark_cons companionsMark).comp
    (i := Companions.files) fun cs ds h => by
      cases cs
      cases ds
      exact congrArg Companions.mk h
  exact hparts.mono fun _ hsize => ⟨hsize, fun _ _ => trivial⟩

namespace Schema

/-- The bytes that the digest of companion sources and a schema is computed from. -/
def digestInput (companions : Companions) (s : Schema) : List UInt8 :=
  Field.stream (companions.fields ++ s.fields)

/-- The fields of a list of content types as they stand in the input, in the order of the digest. -/
def sortedFields (types : List ContentType) : List Field :=
  .mark schemaMark :: .count types.length :: types.flatMap ContentType.fields

theorem fields_eq (s : Schema) : s.fields = sortedFields (s.mergeSort inOrder) := by
  rw [fields, sortedFields, List.length_mergeSort]

/-- What is in order already stands in the input as it is. -/
theorem digestInput_of_sorted {s : Schema} (h : s.Pairwise fun a b => inOrder a b = true)
    (companions : Companions) :
    s.digestInput companions = Field.stream (companions.fields ++ sortedFields s) := by
  rw [digestInput, fields_eq, List.mergeSort_of_pairwise h]

theorem delimits_sortedFields :
    Delimits (fun types => types.length < 2 ^ 64 ∧ ∀ t ∈ types, t.ShortLists) sortedFields :=
  ContentType.delimits_fields.list.mark_cons schemaMark

theorem digest_eq (companions : Companions) (s : Schema) :
    s.digest companions = Digest.ofBytes (digestInput companions s) := rfl

/-! ## The whole input -/

/-- Whether every length in the input of a digest fits into the word that stands for it: those of all
texts, and those of all lists. -/
structure Addressable (companions : Companions) (s : Schema) : Prop where
  texts : Short (companions.fields ++ s.fields)
  companions : companions.size < 2 ^ 64
  types : s.length < 2 ^ 64
  lists : ∀ t ∈ s, t.ShortLists

theorem mem_fields {s : Schema} {f : Field} :
    f ∈ s.fields ↔ f = .mark schemaMark ∨ f = .count s.length ∨ ∃ t ∈ s, f ∈ t.fields := by
  simp only [fields, List.mem_cons, List.mem_flatMap, List.mem_mergeSort]

/-- Whether the lengths fit has nothing to do with the order in which content types are listed. -/
theorem Addressable.perm {companions : Companions} {s s' : Schema} (h : Addressable companions s)
    (hperm : s.Perm s') : Addressable companions s' where
  texts data hdata := h.texts data (by
    simp only [List.mem_append, mem_fields, hperm.length_eq, hperm.mem_iff] at hdata ⊢
    exact hdata)
  companions := h.companions
  types := hperm.length_eq ▸ h.types
  lists t ht := h.lists t (hperm.mem_iff.mpr ht)

/-- **The input tells what was digested**: the companion sources, and the content types in the order
of the digest. -/
theorem sorted_of_digestInput {companions companions' : Companions} {s s' : Schema}
    (hfits : Addressable companions s) (hfits' : Addressable companions' s')
    (h : digestInput companions s = digestInput companions' s') :
    companions = companions' ∧ s.mergeSort inOrder = s'.mergeSort inOrder := by
  unfold digestInput at h
  have htexts := hfits.texts
  have htexts' := hfits'.texts
  rw [fields_eq] at h htexts htexts'
  -- nothing follows the input
  rw [fields_eq, ← List.append_nil (Field.stream _)] at h
  rw [← List.append_nil (Field.stream (companions'.fields ++ _))] at h
  have hlists {c : Companions} {u : Schema} (hu : Addressable c u) :
      (u.mergeSort inOrder).length < 2 ^ 64 ∧ ∀ t ∈ u.mergeSort inOrder, t.ShortLists :=
    ⟨by rw [List.length_mergeSort]; exact hu.types,
      fun t ht => hu.lists t (List.mem_mergeSort.mp ht)⟩
  have hpair := (Companions.delimits_fields.append delimits_sortedFields)
    (companions, s.mergeSort inOrder) (companions', s'.mergeSort inOrder)
    ⟨hfits.companions, hlists hfits⟩ ⟨hfits'.companions, hlists hfits'⟩ htexts htexts' [] [] h
  exact Prod.mk.inj hpair.1

theorem perm_of_mergeSort {s s' : Schema} (h : s.mergeSort inOrder = s'.mergeSort inOrder) :
    s.Perm s' := by
  have hperm := (List.mergeSort_perm s inOrder).symm
  rw [h] at hperm
  exact hperm.trans (List.mergeSort_perm s' inOrder)

/-! ### Inputs that can be addressed as a whole -/

theorem length_lt_of_sublist {α : Type} {f : α → List Field} (hne : ∀ a, f a ≠ []) {l : List α}
    {fields : List Field} (hsub : (l.flatMap f).Sublist fields)
    (h : (Field.stream fields).length < 2 ^ 64) : l.length < 2 ^ 64 :=
  Nat.lt_of_le_of_lt (Nat.le_trans (Field.length_le_stream hne l) (Field.length_stream_le hsub)) h

theorem types_sublist (s : Schema) :
    ((s.mergeSort inOrder).flatMap ContentType.fields).Sublist s.fields :=
  (List.sublist_cons_self _ _).trans (List.sublist_cons_self _ _)

theorem fields_sublist {s : Schema} {t : ContentType} (ht : t ∈ s) : t.fields.Sublist s.fields := by
  have hmem : t ∈ s.mergeSort inOrder := List.mem_mergeSort.mpr ht
  have hin := (List.singleton_sublist.mpr hmem).flatMap ContentType.fields
  rw [List.flatMap_singleton] at hin
  exact hin.trans s.types_sublist

/-- Whatever is in an input of fewer than `2 ^ 64` bytes is shorter than that. -/
theorem addressable_of_length {companions : Companions} {s : Schema}
    (h : (digestInput companions s).length < 2 ^ 64) : Addressable companions s := by
  have hschema : (Field.stream s.fields).length < 2 ^ 64 :=
    Nat.lt_of_le_of_lt (Field.length_stream_le (List.sublist_append_right _ _)) h
  refine ⟨Field.short_of_stream h, ?_, ?_, fun t ht => ?_⟩
  · have hsub : (companions.files.flatMap fun c => [.text c.path.text, .text c.text]).Sublist
        (companions.fields ++ s.fields) :=
      ((List.sublist_cons_self _ _).trans (List.sublist_cons_self _ _)).trans
        (List.sublist_append_left _ _)
    exact length_lt_of_sublist (fun _ => List.cons_ne_nil _ _) hsub h
  · have hsorted := length_lt_of_sublist (fun t => by simp [ContentType.fields]) s.types_sublist
      hschema
    rwa [List.length_mergeSort] at hsorted
  · have hin := fields_sublist ht
    exact ⟨length_lt_of_sublist (fun _ => List.cons_ne_nil _ _)
        ((ContentType.properties_sublist t).trans hin) hschema,
      length_lt_of_sublist (fun _ => List.cons_ne_nil _ _)
        ((ContentType.mixins_sublist t).trans hin) hschema⟩

/-- Inputs of fewer than `2 ^ 64` bytes tell what was digested. -/
theorem digestInput_injective {companions companions' : Companions} {s s' : Schema}
    (hsize : (digestInput companions s).length < 2 ^ 64)
    (h : digestInput companions s = digestInput companions' s') :
    companions = companions' ∧ s.mergeSort inOrder = s'.mergeSort inOrder :=
  sorted_of_digestInput (addressable_of_length hsize) (addressable_of_length (h ▸ hsize)) h

/-- Equal inputs are of schemas that differ at most in the order of their content types. -/
theorem perm_of_digestInput {companions companions' : Companions} {s s' : Schema}
    (hsize : (digestInput companions s).length < 2 ^ 64)
    (h : digestInput companions s = digestInput companions' s') : s.Perm s' :=
  perm_of_mergeSort (digestInput_injective hsize h).2

/-- **The input of a digest is unambiguous.** If every length fits into a word, then equal bytes are
of the same companion sources, in the same order and each with its path as spelled, and of the same
content types, each with everything in it, in whatever order they are listed. So whoever changes more
than that order changes the digest, unless two different inputs have one hash. -/
theorem digestInput_unambiguous {companions companions' : Companions} {s s' : Schema}
    (hfits : Addressable companions s) (hfits' : Addressable companions' s') :
    (digestInput companions s = digestInput companions' s' → companions = companions' ∧ s.Perm s') ∧
      (s.digest companions = s'.digest companions' → (companions = companions' ∧ s.Perm s') ∨
        digestInput companions s ≠ digestInput companions' s' ∧
          Digest.ofBytes (digestInput companions s) =
            Digest.ofBytes (digestInput companions' s')) := by
  have htold (h : digestInput companions s = digestInput companions' s') :
      companions = companions' ∧ s.Perm s' := by
    obtain ⟨hcompanions, hsorted⟩ := sorted_of_digestInput hfits hfits' h
    exact ⟨hcompanions, perm_of_mergeSort hsorted⟩
  refine ⟨htold, fun hdigest => ?_⟩
  by_cases h : digestInput companions s = digestInput companions' s'
  · exact .inl (htold h)
  · exact .inr ⟨h, hdigest⟩

/-- The input of two content types, which can be computed. -/
theorem digestInput_pair (companions : Companions) (t u : ContentType) :
    digestInput companions [t, u] = Field.stream (companions.fields ++
      sortedFields (if inOrder t u then [t, u] else [u, t])) := by
  have hsorted : [t, u].mergeSort inOrder = if inOrder t u then [t, u] else [u, t] := by
    simp [List.mergeSort, List.merge, List.MergeSort.Internal.splitInTwo]
  rw [digestInput, fields_eq, hsorted]

/-- Two content types in either order, with texts that look like marks and counts. -/
theorem digestInput_unambiguous_relisted :
    let home : ContentType :=
      { aliasName := ⟨"home"⟩, kind := .content, mixins := [⟨"SEO"⟩]
        properties :=
          [⟨"a", "\x01", "\x00\x00", .renamed ""⟩, ⟨"a\x01", "", "\x00\x00", .ignored⟩] }
    let seo : ContentType := { aliasName := ⟨"seo"⟩, kind := .element }
    let companions : Companions := ⟨[⟨⟨"./a.rs"⟩, "\x5C"⟩]⟩
    Addressable companions [home, seo] ∧ Addressable companions [seo, home] ∧
      digestInput companions [home, seo] = digestInput companions [seo, home] ∧
        [home, seo].Perm [seo, home] := by
  intro home seo companions
  have hfits : Addressable companions [home, seo] := addressable_of_length (by
    rw [digestInput_pair]
    decide +kernel)
  have hsame : digestInput companions [home, seo] = digestInput companions [seo, home] := by
    rw [digestInput_pair, digestInput_pair]
    decide +kernel
  have hfits' : Addressable companions [seo, home] := hfits.perm (List.Perm.swap ..)
  exact ⟨hfits, hfits', hsame, ((digestInput_unambiguous hfits hfits').1 hsame).2⟩

end Schema

end ModelCache
