import Mathlib.Data.List.Induction
import Mathlib.Data.List.Pairwise
import ModelCache.ModelSet
import ModelCache.Proofs.Correspondence

/-!
# Which modules can be published

The types of a module are taken over one by one, in the order in which the module registers them.
Abstract ones are passed over. The others have to fit together, and the first one that does not fit
is what the failure is about.

* **`TypeDecl.Fit`** — declarations that fit together: each concrete type has one constructor that
  takes an element, and an alias of its own.
* **`TypeDecl.FirstFault`** — what is wrong with the first declaration that breaks one of these rules.
  Declarations fit, or there is such a one, and never both (`fit_or_firstFault`, `Fit.not_firstFault`).
* **`ModelSet.Offers`** — a set that has what the declarations say, and nothing else.
* **`ModelSet.ofModule_exact`** — the declarations that fit make such a set, and all others end in the
  failure that is about the first of them.
* **`ModelSet.Whole`** — a set without anything, or all of one module; there are no others.
-/

namespace ModelCache

namespace TypeDecl

/-! ## Declarations that fit together -/

/-- The alias of the content type that a type is for. A type that is declared without an alias is for
the content type of its own name. -/
inductive IsFor (d : TypeDecl) : Alias → Prop
  | declared {a : Alias} (h : d.declaredAlias = some a) : IsFor d a
  | named (h : d.declaredAlias = none) : IsFor d ⟨d.typeName⟩

/-- How many constructors take an element. -/
def elementConstructors (d : TypeDecl) : Nat :=
  d.constructors.countP fun
    | .element _ => true
    | .other _ => false

/-- The declarations of types that are to be published. -/
def concrete (ds : List TypeDecl) : List TypeDecl := ds.filter fun d => !d.isAbstract

/-- Each concrete type has one constructor that takes an element, and an alias of its own. -/
structure Fit (ds : List TypeDecl) : Prop where
  one_constructor : ∀ d ∈ concrete ds, d.elementConstructors = 1
  distinct : (concrete ds).Pairwise fun c d => ∀ a b, c.IsFor a → d.IsFor b → (a == b) = false

/-- The ways in which a concrete type can fail to fit behind the declarations `before` it. -/
inductive Breaks (before : List TypeDecl) (d : TypeDecl) : BuildError → Prop
  | shape (h : d.elementConstructors ≠ 1) :
      Breaks before d (.shape d.typeName d.elementConstructors)
  | aliasConflict (first : TypeDecl) {a b : Alias} (h : d.elementConstructors = 1)
      (hfirst : first ∈ concrete before) (hfor : first.IsFor a) (hfor' : d.IsFor b)
      (hsame : (a == b) = true) : Breaks before d (.aliasConflict b.key first.typeName d.typeName)

/-- The declarations up to some concrete one fit together, and that one does not fit. -/
def FirstFault (ds : List TypeDecl) (e : BuildError) : Prop :=
  ∃ before d after, ds = before ++ d :: after ∧ Fit before ∧ d.isAbstract = false ∧ Breaks before d e

variable {ds before after : List TypeDecl} {d d' : TypeDecl} {e : BuildError} {a : Alias}

/-! ### One alias and one constructor -/

/-- Every type is for one alias. -/
theorem isFor_iff : d.IsFor a ↔ d.aliasName = a := by
  unfold aliasName
  constructor
  · intro h
    cases h with
    | declared h => rw [h, Option.getD_some]
    | named h => rw [h, Option.getD_none]
  · rintro rfl
    cases h : d.declaredAlias with
    | none => exact .named h
    | some a => exact .declared h

/-- Two types are for different aliases if these two are different, as there are no others. -/
theorem differ_iff : (∀ a b, d.IsFor a → d'.IsFor b → (a == b) = false) ↔
    (d.aliasName == d'.aliasName) = false := by
  simp only [isFor_iff]
  exact ⟨fun h => h _ _ rfl rfl, by rintro h _ _ rfl rfl; exact h⟩

theorem fit_iff : Fit ds ↔ (∀ d ∈ concrete ds, d.elementConstructors = 1) ∧
    (concrete ds).Pairwise fun a b => (a.aliasName == b.aliasName) = false := by
  simp only [← differ_iff]
  exact ⟨fun ⟨hone, hdistinct⟩ => ⟨hone, hdistinct⟩, fun ⟨hone, hdistinct⟩ => ⟨hone, hdistinct⟩⟩

theorem length_wrappers (d : TypeDecl) : d.wrappers.length = d.elementConstructors := by
  rw [wrappers, List.length_filterMap_eq_countP]
  refine List.countP_congr fun c _ => ?_
  cases c <;> rfl

theorem filterMap_wrap?_eq_nil_iff {cs : List Constructor} :
    cs.filterMap Constructor.wrap? = [] ↔ ∀ wrap, .element wrap ∉ cs := by
  rw [List.filterMap_eq_nil_iff]
  constructor
  · intro h wrap hmem
    cases h _ hmem
  · intro h c hc
    cases c with
    | element wrap => exact absurd hc (h wrap)
    | other params => rfl

/-- The only constructor that takes an element, with all the others around it. -/
theorem wrappers_eq_singleton_iff {wrap : Element → Model} : d.wrappers = [wrap] ↔
    ∃ before after, d.constructors = before ++ .element wrap :: after ∧
      ∀ other, .element other ∉ before ++ after := by
  unfold wrappers
  simp only [← filterMap_wrap?_eq_nil_iff, List.filterMap_append, List.append_eq_nil_iff]
  constructor
  · intro h
    obtain ⟨before, c, after, hconstructors, hbefore, hc, hafter⟩ := List.filterMap_eq_cons_iff.mp h
    -- the one that is kept takes an element, as the others are not kept
    obtain ⟨wrap, rfl⟩ | ⟨params, rfl⟩ : (∃ wrap, c = .element wrap) ∨ ∃ params, c = .other params := by
      cases c <;> simp
    · cases hc
      exact ⟨before, after, hconstructors, List.filterMap_eq_nil_iff.mpr hbefore, hafter⟩
    · cases hc
  · rintro ⟨before, after, hconstructors, hbefore, hafter⟩
    rw [hconstructors, List.filterMap_append, hbefore]
    exact congrArg (wrap :: ·) hafter

/-! ### Behind other declarations -/

theorem concrete_append (ds ds' : List TypeDecl) :
    concrete (ds ++ ds') = concrete ds ++ concrete ds' := List.filter_append ..

theorem concrete_cons_of_abstract (h : d.isAbstract = true) (ds : List TypeDecl) :
    concrete (d :: ds) = concrete ds := by
  simp [concrete, h]

theorem concrete_cons (h : d.isAbstract = false) (ds : List TypeDecl) :
    concrete (d :: ds) = d :: concrete ds := by
  simp [concrete, h]

theorem fit_nil : Fit [] := ⟨nofun, .nil⟩

theorem Fit.of_append (h : Fit (before ++ after)) : Fit before := by
  obtain ⟨hone, hdistinct⟩ := h
  rw [concrete_append] at hone hdistinct
  exact ⟨fun d hd => hone d (List.mem_append_left _ hd), (List.pairwise_append.mp hdistinct).1⟩

/-- An alias tells which declaration it is of. -/
theorem Fit.eq_of_key (hfit : Fit ds) (hd : d ∈ concrete ds) (hd' : d' ∈ concrete ds)
    (hkey : d.aliasName.key = d'.aliasName.key) : d = d' := by
  have hsymm : Std.Symm fun a b : TypeDecl => (a.aliasName == b.aliasName) = false :=
    ⟨fun a b h => by
      rw [Bool.eq_false_iff, Ne, Alias.beq_iff_key_eq] at h ⊢
      exact fun heq => h heq.symm⟩
  -- two declarations would be told apart by their aliases, in whichever order they stand
  by_contra hne
  have hpair := (fit_iff.mp hfit).2.forall hd hd' hne
  rw [(Alias.beq_iff_key_eq _ _).mpr hkey] at hpair
  cases hpair

theorem fit_concat_of_abstract (h : d.isAbstract = true) : Fit (ds ++ [d]) ↔ Fit ds := by
  have heq : concrete (ds ++ [d]) = concrete ds := by
    rw [concrete_append, concrete_cons_of_abstract h]
    exact List.append_nil _
  refine ⟨Fit.of_append, fun ⟨hone, hdistinct⟩ => ⟨?_, ?_⟩⟩
  · rw [heq]; exact hone
  · rw [heq]; exact hdistinct

/-- What a concrete type has to be like to fit behind others. -/
theorem fit_concat (h : d.isAbstract = false) : Fit (ds ++ [d]) ↔
    Fit ds ∧ d.elementConstructors = 1 ∧
      ∀ first ∈ concrete ds, (first.aliasName == d.aliasName) = false := by
  have heq : concrete (ds ++ [d]) = concrete ds ++ [d] := by
    rw [concrete_append, concrete_cons h]
    rfl
  constructor
  · intro hfit
    refine ⟨hfit.of_append, hfit.one_constructor d (by simp [heq]), fun first hfirst => ?_⟩
    have hdistinct := hfit.distinct
    rw [heq, List.pairwise_append] at hdistinct
    exact differ_iff.mp (hdistinct.2.2 first hfirst d List.mem_cons_self)
  · rintro ⟨hfit, hone, hfree⟩
    refine ⟨?_, ?_⟩
    · rw [heq]
      intro d' hd'
      rcases List.mem_append.mp hd' with hd' | hd'
      · exact hfit.one_constructor d' hd'
      · rw [List.mem_singleton.mp hd']
        exact hone
    · rw [heq]
      refine List.pairwise_append.mpr ⟨hfit.distinct, List.pairwise_singleton .., ?_⟩
      intro first hfirst d' hd'
      rw [List.mem_singleton.mp hd']
      exact differ_iff.mpr (hfree first hfirst)

/-- A concrete type fits behind declarations that fit, or breaks a rule. -/
theorem Fit.concat_or_breaks (hfit : Fit ds) (hd : d.isAbstract = false) :
    Fit (ds ++ [d]) ∨ ∃ e, Breaks ds d e := by
  by_cases hone : d.elementConstructors = 1
  · -- the right number of constructors: it is a question of the alias
    by_cases hfree : ∀ first ∈ concrete ds, (first.aliasName == d.aliasName) = false
    · exact .inl ((fit_concat hd).mpr ⟨hfit, hone, hfree⟩)
    · obtain ⟨first, hfirst, hsame⟩ :
          ∃ first ∈ concrete ds, (first.aliasName == d.aliasName) = true := by
        simpa using hfree
      exact .inr ⟨_, .aliasConflict first hone hfirst (isFor_iff.mpr rfl) (isFor_iff.mpr rfl) hsame⟩
  · exact .inr ⟨_, .shape hone⟩

theorem Breaks.not_fit (h : Breaks ds d e) (hd : d.isAbstract = false) : ¬ Fit (ds ++ [d]) := by
  intro hfit
  obtain ⟨-, hone, hfree⟩ := (fit_concat hd).mp hfit
  cases h with
  | shape hne => exact hne hone
  | aliasConflict first _ hfirst hfor hfor' hsame =>
    rw [differ_iff.mpr (hfree first hfirst) _ _ hfor hfor'] at hsame
    cases hsame

theorem Fit.not_firstFault (hfit : Fit ds) : ¬ FirstFault ds e := by
  rintro ⟨before, d, after, rfl, -, hd, hbreaks⟩
  rw [List.append_cons] at hfit
  exact hbreaks.not_fit hd hfit.of_append

/-- Declarations fit together, or there is a first one that does not fit. -/
theorem fit_or_firstFault (ds : List TypeDecl) : Fit ds ∨ ∃ e, FirstFault ds e := by
  -- a fault is about what stands before a declaration, so the list grows at its end
  induction ds using List.reverseRecOn with
  | nil => exact .inl fit_nil
  | append_singleton ds d ih =>
    rcases ih with hfit | ⟨e, before, d', after, rfl, hbefore, hd', hbreaks⟩
    · cases hd : d.isAbstract with
      | true => exact .inl ((fit_concat_of_abstract hd).mpr hfit)
      | false =>
        rcases hfit.concat_or_breaks hd with hconcat | ⟨e, hbreaks⟩
        · exact .inl hconcat
        · exact .inr ⟨e, ds, d, [], rfl, hfit, hd, hbreaks⟩
    · -- the first fault stays the first one, whatever is declared behind it
      exact .inr ⟨e, before, d', after ++ [d], by simp, hbefore, hd', hbreaks⟩

end TypeDecl

namespace ModelSet

open TypeDecl (Fit Breaks FirstFault concrete concrete_append concrete_cons concrete_cons_of_abstract)

variable {ds before after : List TypeDecl} {d : TypeDecl} {e : BuildError}
  {models : List ModelDescriptor} {x : ModelDescriptor} {key : String}

/-! ## Descriptors of declarations -/

/-- A descriptor has the alias, the name and the only element constructor of a declared type. -/
structure Describes (d : TypeDecl) (x : ModelDescriptor) : Prop where
  isFor : d.IsFor x.aliasName
  typeName : x.typeName = d.typeName
  /-- No constructor before or after that one takes an element. -/
  wrap : ∃ before after, d.constructors = before ++ .element x.wrap :: after ∧
    ∀ other, .element other ∉ before ++ after

theorem describes_iff : Describes d x ↔
    x.aliasName = d.aliasName ∧ x.typeName = d.typeName ∧ d.wrappers = [x.wrap] := by
  rw [TypeDecl.wrappers_eq_singleton_iff, eq_comm, ← TypeDecl.isFor_iff]
  exact ⟨fun ⟨hfor, hname, hwrap⟩ => ⟨hfor, hname, hwrap⟩,
    fun ⟨hfor, hname, hwrap⟩ => ⟨hfor, hname, hwrap⟩⟩

theorem Describes.aliasName (h : Describes d x) : x.aliasName = d.aliasName :=
  (describes_iff.mp h).1

theorem Describes.eq {y : ModelDescriptor} (hx : Describes d x) (hy : Describes d y) : x = y := by
  obtain ⟨xAlias, xName, xWrap⟩ := x
  obtain ⟨yAlias, yName, yWrap⟩ := y
  obtain ⟨rfl, rfl, hxwrap⟩ := describes_iff.mp hx
  obtain ⟨rfl, rfl, hywrap⟩ := describes_iff.mp hy
  rw [hxwrap] at hywrap
  cases hywrap
  rfl

theorem mem_of_withKey? (h : withKey? models key = some x) : x ∈ models ∧ x.aliasName.key = key :=
  ⟨List.mem_of_find?_eq_some h, by simpa using List.find?_some h⟩

/-- **What is found under a key** among the descriptors of declarations that fit. -/
theorem withKey?_eq_some_iff (hfit : Fit ds) (hmodels : List.Forall₂ Describes (concrete ds) models) :
    withKey? models key = some x ↔ ∃ d ∈ concrete ds, d.aliasName.key = key ∧ Describes d x := by
  have hfound {y : ModelDescriptor} (hy : withKey? models key = some y) :
      ∃ d ∈ concrete ds, d.aliasName.key = key ∧ Describes d y := by
    obtain ⟨hmem, hkey⟩ := mem_of_withKey? hy
    obtain ⟨d, hd, hdescribes⟩ := exists_of_mem_right hmodels hmem
    exact ⟨d, hd, by rw [← hdescribes.aliasName, hkey], hdescribes⟩
  refine ⟨hfound, ?_⟩
  rintro ⟨d, hd, hkey, hdescribes⟩
  cases hy : withKey? models key with
  | none =>
    -- the declaration has a descriptor, which would have been found
    obtain ⟨y, hmem, hy'⟩ := exists_of_mem_left hmodels hd
    have hne := List.find?_eq_none.mp hy y hmem
    rw [hy'.aliasName, hkey] at hne
    simp at hne
  | some y =>
    -- what is found is of a declaration with the same key, and that is this one
    obtain ⟨d', hd', hkey', hy'⟩ := hfound hy
    have heq : d' = d := hfit.eq_of_key hd' hd (hkey'.trans hkey.symm)
    rw [hdescribes.eq (heq ▸ hy')]

theorem withKey?_eq_none_iff (hmodels : List.Forall₂ Describes (concrete ds) models) :
    withKey? models key = none ↔ ∀ d ∈ concrete ds, d.aliasName.key ≠ key := by
  constructor
  · intro hnone d hd hkey
    obtain ⟨x, hmem, hx⟩ := exists_of_mem_left hmodels hd
    have hne := List.find?_eq_none.mp hnone x hmem
    rw [hx.aliasName, hkey] at hne
    simp at hne
  · intro hfree
    refine List.find?_eq_none.mpr fun x hmem => ?_
    obtain ⟨d, hd, hx⟩ := exists_of_mem_right hmodels hmem
    rw [hx.aliasName]
    simpa using hfree d hd

/-! ## Taking over the declarations

One lemma for each thing that can happen to the next declaration. -/

theorem collect_cons_of_abstract (hd : d.isAbstract = true) (models : List ModelDescriptor)
    (rest : List TypeDecl) : collect models (d :: rest) = collect models rest := by
  rw [collect, if_pos hd]

theorem collect_cons_of_shape (hd : d.isAbstract = false) (hshape : d.elementConstructors ≠ 1)
    (models : List ModelDescriptor) (rest : List TypeDecl) :
    collect models (d :: rest) = .error (.shape d.typeName d.elementConstructors) := by
  rw [← TypeDecl.length_wrappers] at hshape ⊢
  rw [collect, if_neg (by simp [hd])]
  split
  case h_1 wrap hwrap => rw [hwrap] at hshape; exact absurd rfl hshape
  case h_2 => rfl

theorem collect_cons_of_taken (hd : d.isAbstract = false) (hone : d.elementConstructors = 1)
    (htaken : withKey? models d.aliasName.key = some x) (rest : List TypeDecl) :
    collect models (d :: rest) = .error (.aliasConflict d.aliasName.key x.typeName d.typeName) := by
  rw [← TypeDecl.length_wrappers] at hone
  obtain ⟨wrap, hwrap⟩ := List.length_eq_one_iff.mp hone
  rw [collect, if_neg (by simp [hd])]
  simp only [hwrap, htaken]

theorem collect_cons (hd : d.isAbstract = false) (hone : d.elementConstructors = 1)
    (hfree : withKey? models d.aliasName.key = none) :
    ∃ x, Describes d x ∧ ∀ rest, collect models (d :: rest) = collect (models ++ [x]) rest := by
  rw [← TypeDecl.length_wrappers] at hone
  obtain ⟨wrap, hwrap⟩ := List.length_eq_one_iff.mp hone
  refine ⟨⟨d.aliasName, d.typeName, wrap⟩, describes_iff.mpr ⟨rfl, rfl, hwrap⟩, fun rest => ?_⟩
  rw [collect, if_neg (by simp [hd])]
  simp only [hwrap, hfree]

/-- Declarations that fit are taken over, whatever comes behind them. -/
theorem exists_collect (hfit : Fit ds) : ∃ models, List.Forall₂ Describes (concrete ds) models ∧
    ∀ rest, collect [] (ds ++ rest) = collect models rest := by
  induction ds using List.reverseRecOn with
  | nil => exact ⟨[], .nil, fun _ => rfl⟩
  | append_singleton ds d ih =>
    obtain ⟨models, hmodels, hcollect⟩ := ih hfit.of_append
    have hnext (rest : List TypeDecl) : collect [] (ds ++ [d] ++ rest) = collect models (d :: rest) := by
      rw [List.append_assoc, hcollect]
      rfl
    cases hd : d.isAbstract with
    | true =>
      refine ⟨models, ?_, fun rest => ?_⟩
      · rw [concrete_append, concrete_cons_of_abstract hd]
        simpa [concrete] using hmodels
      · rw [hnext, collect_cons_of_abstract hd]
    | false =>
      obtain ⟨-, hone, hfree⟩ := (TypeDecl.fit_concat hd).mp hfit
      have hnone : withKey? models d.aliasName.key = none := by
        refine (withKey?_eq_none_iff hmodels).mpr fun first hfirst hkey => ?_
        have hne := hfree first hfirst
        rw [(Alias.beq_iff_key_eq _ _).mpr hkey] at hne
        cases hne
      obtain ⟨x, hx, hstep⟩ := collect_cons hd hone hnone
      refine ⟨models ++ [x], ?_, fun rest => ?_⟩
      · rw [concrete_append, concrete_cons hd]
        exact List.rel_append hmodels (.cons hx .nil)
      · rw [hnext, hstep]

/-- The first declaration that does not fit ends it. -/
theorem collect_of_firstFault (h : FirstFault ds e) : collect [] ds = .error e := by
  obtain ⟨before, d, after, rfl, hfit, hd, hbreaks⟩ := h
  obtain ⟨models, hmodels, hcollect⟩ := exists_collect hfit
  rw [hcollect]
  cases hbreaks with
  | shape hshape => exact collect_cons_of_shape hd hshape models after
  | aliasConflict first hone hfirst hfor hfor' hsame =>
    obtain ⟨x, -, hx⟩ := exists_of_mem_left hmodels hfirst
    rw [TypeDecl.isFor_iff] at hfor hfor'
    subst hfor hfor'
    have htaken : withKey? models d.aliasName.key = some x :=
      (withKey?_eq_some_iff hfit hmodels).mpr
        ⟨first, hfirst, (Alias.beq_iff_key_eq _ _).mp hsame, hx⟩
    rw [collect_cons_of_taken hd hone htaken after, hx.typeName]

/-! ## The set of a module -/

/-- A set has what the declarations say, and nothing else. -/
structure Offers (s : ModelSet) (ds : List TypeDecl) : Prop where
  /-- There is one descriptor for each concrete type. -/
  models : List.Forall₂ Describes (concrete ds) s.models
  /-- Every spelling of an alias leads to the descriptor of its type. -/
  lookup_iff : ∀ spelling x, s.lookup spelling = some x ↔
    ∃ d ∈ concrete ds, ∃ a, d.IsFor a ∧ (a == ⟨spelling⟩) = true ∧ Describes d x
  /-- The concrete types, and no others, have a type of lists. -/
  listTypes_iff : ∀ name list, s.listTypes.lookup name = some list ↔
    (∃ d ∈ concrete ds, d.typeName = name) ∧ list = s!"{TypeExpr.listName}<{name}>"

theorem lookup_listTypesOf (models : List ModelDescriptor) (name list : String) :
    (listTypesOf models).lookup name = some list ↔
      (∃ x ∈ models, x.typeName = name) ∧ list = s!"{TypeExpr.listName}<{name}>" := by
  induction models with
  | nil => simp [listTypesOf]
  | cons x rest ih =>
    show ((x.typeName, x.listTypeName) :: listTypesOf rest).lookup name = some list ↔ _
    by_cases hname : name = x.typeName
    · subst hname
      simp [ModelDescriptor.listTypeName, eq_comm]
    · have hne : (name == x.typeName) = false := by simp [hname]
      rw [List.lookup_cons, hne]
      refine ih.trans (and_congr_left fun _ => ?_)
      have hhead : x.typeName ≠ name := fun h => hname h.symm
      simp [hhead]

theorem offers_of_forall₂ {s : ModelSet} (hfit : Fit ds)
    (hmodels : List.Forall₂ Describes (concrete ds) s.models)
    (hlistTypes : s.listTypes = listTypesOf s.models) : s.Offers ds := by
  refine ⟨hmodels, fun spelling x => ?_, fun name list => ?_⟩
  · refine (withKey?_eq_some_iff hfit hmodels).trans ?_
    simp only [Alias.beq_iff_key_eq, TypeDecl.isFor_iff, exists_eq_left']
    rfl
  · rw [hlistTypes, lookup_listTypesOf]
    refine and_congr_left fun _ => ⟨?_, ?_⟩
    · rintro ⟨x, hx, hname⟩
      obtain ⟨d, hd, hdescribes⟩ := exists_of_mem_right hmodels hx
      exact ⟨d, hd, by rw [← hdescribes.typeName, hname]⟩
    · rintro ⟨d, hd, hname⟩
      obtain ⟨x, hx, hdescribes⟩ := exists_of_mem_left hmodels hd
      exact ⟨x, hx, by rw [hdescribes.typeName, hname]⟩

variable {generation : Nat} {m : Module} {s : ModelSet}

theorem ofModule_of_fit (hfit : Fit m.types) (generation : Nat) : ∃ s,
    ofModule generation m = .ok s ∧ s.generation = generation ∧ s.module = some m ∧
      s.Offers m.types := by
  obtain ⟨models, hmodels, hcollect⟩ := exists_collect hfit
  have hall : collect [] m.types = .ok models := by
    have hnil := hcollect []
    rwa [List.append_nil] at hnil
  refine ⟨⟨generation, models, listTypesOf models, some m⟩, ?_, rfl, rfl, ?_⟩
  · rw [ofModule, hall]
    rfl
  · exact offers_of_forall₂ hfit hmodels rfl

theorem ofModule_of_firstFault (h : FirstFault m.types e) (generation : Nat) :
    ofModule generation m = .error e := by
  rw [ofModule, collect_of_firstFault h]
  rfl

theorem fit_of_ofModule (h : ofModule generation m = .ok s) : Fit m.types := by
  rcases TypeDecl.fit_or_firstFault m.types with hfit | ⟨e, hfault⟩
  · exact hfit
  · rw [ofModule_of_firstFault hfault] at h
    cases h

theorem offers_of_ofModule (h : ofModule generation m = .ok s) :
    s.generation = generation ∧ s.module = some m ∧ s.Offers m.types := by
  obtain ⟨s', hs', hoffers⟩ := ofModule_of_fit (fit_of_ofModule h) generation
  rw [h] at hs'
  cases hs'
  exact hoffers

/-- **Which modules make a set, what it is, and what the failure is about otherwise.** -/
theorem ofModule_exact (generation : Nat) (m : Module) :
    ((∃ s, ofModule generation m = .ok s) ↔ Fit m.types) ∧
      (∀ s, ofModule generation m = .ok s →
        s.generation = generation ∧ s.module = some m ∧ s.Offers m.types) ∧
      ∀ e, ofModule generation m = .error e ↔ FirstFault m.types e := by
  refine ⟨⟨fun ⟨s, hs⟩ => fit_of_ofModule hs, fun hfit => ?_⟩, fun s hs => offers_of_ofModule hs,
    fun e => ⟨fun he => ?_, fun hfault => ofModule_of_firstFault hfault generation⟩⟩
  · obtain ⟨s, hs, -⟩ := ofModule_of_fit hfit generation
    exact ⟨s, hs⟩
  · rcases TypeDecl.fit_or_firstFault m.types with hfit | ⟨e', hfault⟩
    · obtain ⟨s, hs, -⟩ := ofModule_of_fit hfit generation
      rw [hs] at he
      cases he
    · rw [ofModule_of_firstFault hfault] at he
      cases he
      exact hfault

/-! ## Whole sets -/

/-- A set without anything, or all that some module has to offer. -/
def Whole (s : ModelSet) : Prop :=
  s = .empty s.generation ∨ ∃ m, ofModule s.generation m = .ok s

/-- The declarations of the module that a set came from, if it came from one. -/
def declarations (s : ModelSet) : List TypeDecl := (s.module.map Module.types).getD []

theorem whole_of_ofModule (h : ofModule generation m = .ok s) : s.Whole :=
  .inr ⟨m, by rw [(offers_of_ofModule h).1]; exact h⟩

theorem Whole.offers (h : s.Whole) : s.Offers s.declarations := by
  rcases h with hempty | ⟨m, hm⟩
  · rw [hempty]
    exact offers_of_forall₂ TypeDecl.fit_nil .nil rfl
  · obtain ⟨-, hmodule, hoffers⟩ := offers_of_ofModule hm
    rw [declarations, hmodule]
    exact hoffers

end ModelSet

end ModelCache
