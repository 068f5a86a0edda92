import ModelCache.Proofs.Correspondence
import ModelCache.Proofs.Schema.Accessor
import ModelCache.Proofs.Schema.Cycle

/-!
# From a schema to its type models

Once a schema has passed the checks on aliases, type names and single mixins, its type models come
out, or the search for cycles or the check of the accessors finds a fault. There is no other way for
it to end, as every key that is looked up is there and both searches end within their bounds.

* **`Schema.Modelled`** — the three ways to end.
* **`Schema.mixinCycle_exact`** — a cycle is found if there is one, and only then.
* **`Schema.names_distinct_iff`** — the accessors that a generated type ends up with have different
  names, unless a content type declares a property twice.
* **`Schema.typeModels_faithful`** — what type models keep of the content types.
-/

open Relation (TransGen)

namespace ModelCache.Schema

variable {s types : Schema} {t : ContentType} {models : List TypeModel}

/-! ## The model of a content type -/

theorem exists_mapM {α β : Type} {f : α → Except Stop β} {R : α → β → Prop} {l : List α}
    (h : ∀ a ∈ l, ∃ b, f a = .ok b ∧ R a b) : ∃ bs, l.mapM f = .ok bs ∧ List.Forall₂ R l bs := by
  induction l with
  | nil => exact ⟨[], rfl, .nil⟩
  | cons a rest ih =>
    obtain ⟨⟨b, hb, hR⟩, hrest⟩ := List.forall_mem_cons.mp h
    obtain ⟨bs, hbs, hRs⟩ := ih hrest
    refine ⟨b :: bs, ?_, .cons hR hRs⟩
    rw [List.mapM_cons, hb, hbs]
    rfl

/-- What the model of a property is. Its accessor has the name that the property is renamed to, or else
its alias in camel case. -/
structure DepictsProperty (p : Property) (q : PropertyModel) : Prop where
  aliasName : q.aliasName = p.aliasName
  name : q.name = p.directives.rename.getD (Text.upperCamelCase p.aliasName)
  editor : q.editor = p.editor
  valueType : q.valueType = p.valueType

/-- What the model of a content type is, given all that are not left out and what names a mixin. -/
structure Depicts (types : List ContentType) (named : Alias → String → Prop) (t : ContentType)
    (m : TypeModel) : Prop where
  aliasName : m.aliasName = t.aliasName
  kind : m.kind = t.kind
  typeName : m.typeName = t.directives.rename.getD (Text.upperCamelCase t.aliasName.spelling)
  /-- Its own properties that are not left out, in the order in which it declares them. -/
  properties : List.Forall₂ DepictsProperty (t.properties.filter (!·.directives.ignore)) m.properties
  mixins : List.Forall₂ named t.mixins m.mixins
  isMixin : m.isMixin = true ↔ ∃ u ∈ types, ∃ a ∈ u.mixins, (a == t.aliasName) = true

theorem depictsProperty_model (p : Property) : DepictsProperty p p.model := ⟨rfl, rfl, rfl, rfl⟩

theorem DepictsProperty.eq_model {p : Property} {q : PropertyModel} (h : DepictsProperty p q) :
    q = p.model := by
  obtain ⟨aliasName, name, editor, valueType⟩ := q
  obtain ⟨rfl, rfl, rfl, rfl⟩ := h
  rfl

theorem Depicts.ownProperties {named : Alias → String → Prop} {m : TypeModel}
    (h : Depicts types named t m) : m.properties = t.ownProperties := by
  -- the models of the properties are determined one by one, and so is the list of them
  have hmap := map_eq_of_forall₂ (g := id) h.properties fun p q hq => hq.eq_model
  rwa [List.map_id] at hmap

/-- The content type of an alias generates a type of the name. -/
def Generates (types : List ContentType) (a : Alias) (name : String) : Prop :=
  ∃ u ∈ types, u.aliasName.key = a.key ∧ u.typeName = name

theorem exists_nameOf (hnodup : (keys types).Nodup) {a : Alias} (ha : a.key ∈ keys types) :
    ∃ name, nameOf types a = .ok name ∧ Generates types a name := by
  obtain ⟨u, hu, hkey⟩ := mem_keys.mp ha
  refine ⟨u.typeName, ?_, u, hu, hkey, rfl⟩
  rw [nameOf, ← hkey, lookUp_of_mem hnodup hu]
  rfl

theorem exists_modelOf (h : Resolved types) (ht : t ∈ types) :
    ∃ m, modelOf types t = .ok m ∧ Depicts types (Generates types) t m := by
  obtain ⟨names, hnames, hmixins⟩ :=
    exists_mapM fun a ha => exists_nameOf h.nodup (h.closed t ht a ha)
  have hname : nameOf types t.aliasName = .ok t.typeName := by
    rw [nameOf, lookUp_of_mem h.nodup ht]
    rfl
  have hproperties : List.Forall₂ DepictsProperty (t.properties.filter (!·.directives.ignore))
      t.ownProperties :=
    List.forall₂_map_right_iff.mpr (List.forall₂_same.mpr fun p _ => depictsProperty_model p)
  refine ⟨_, by rw [modelOf, hname, hnames]; rfl, rfl, rfl, rfl, hproperties, hmixins, ?_⟩
  simp only [List.any_eq_true]

/-! ## How it ends -/

/-- What becomes of content types that have passed the checks before those along mixins: they have
models, or one of them takes itself over, or one ends up with accessors of one name. -/
inductive Modelled (types : Schema) : Except Stop (List TypeModel) → Prop
  | models {models : List TypeModel} : (∀ t ∈ types, Grounded types t.aliasName.key) →
      (∀ t ∈ types, ToldApart types t) →
      List.Forall₂ (Depicts types (Generates types)) types models → Modelled types (.ok models)
  | cycle {t : ContentType} : t ∈ types → TransGen (Mixes types) t.aliasName.key t.aliasName.key →
      Modelled types (.error (.fault (.mixinCycle t.aliasName.spelling)))
  | clash {t : ContentType} {name : String} : (∀ t ∈ types, Grounded types t.aliasName.key) →
      t ∈ types → ¬ ToldApart types t →
      Modelled types (.error (.fault (.duplicateProperty t.aliasName.spelling name)))

theorem modelled (hnodup : (keys types).Nodup) (hnames : claimNames [] types = .ok ())
    (hmixins : resolveMixins types types = .ok ()) : Modelled types (modelsIn types) := by
  have h : Resolved types := ⟨hnodup, resolveMixins_eq_ok.mp hmixins⟩
  have hcycles := checkedCycles h
  have haccessors := checkedAccessors h fun t (ht : t ∈ types) => ht
  unfold modelsIn
  rw [hnames, hmixins]
  show Modelled types (Except.bind (checkCycles types) _)
  cases hcheck : checkCycles types with
  | error stop =>
    rw [hcheck] at hcycles
    cases hcycles with
    | cycle ht hcycle => exact .cycle ht hcycle
  | ok =>
    rw [hcheck] at hcycles
    obtain ⟨hgrounded⟩ := hcycles
    show Modelled types (Except.bind (checkAccessors types types) _)
    cases hcheck : checkAccessors types types with
    | error stop =>
      rw [hcheck] at haccessors
      cases haccessors with
      | clash ht hclash => exact .clash hgrounded ht hclash
    | ok =>
      rw [hcheck] at haccessors
      obtain ⟨htold⟩ := haccessors
      obtain ⟨models, hmodels, hdepicts⟩ := exists_mapM fun t ht => exists_modelOf h ht
      show Modelled types (types.mapM (modelOf types))
      rw [hmodels]
      exact .models hgrounded htold hdepicts

/-- What a schema with type models is like. -/
structure Accepted (s : Schema) (models : List TypeModel) : Prop where
  distinct : Distinct s
  typeNames : ((active s).map (·.typeName)).Nodup
  resolved : Resolved (active s)
  grounded : ∀ t ∈ active s, Grounded (active s) t.aliasName.key
  toldApart : ∀ t ∈ active s, ToldApart (active s) t
  depicts : List.Forall₂ (Depicts (active s) (Generates (active s))) (active s) models

/-- What has models has passed the checks before those along mixins. -/
theorem of_modelsOf_ok (h : modelsOf types = .ok models) : claimNames [] types = .ok () ∧
    resolveMixins types types = .ok () ∧ modelsIn types = .ok models := by
  unfold modelsOf at h
  cases hmodels : modelsIn types with
  | error stop =>
    rw [hmodels] at h
    cases stop <;> cases h
  | ok models' =>
    rw [hmodels] at h
    obtain rfl : models' = models := Except.ok.inj h
    unfold modelsIn at hmodels
    cases hnames : claimNames [] types with
    | error e =>
      rw [hnames] at hmodels
      cases hmodels
    | ok =>
      cases hmixins : resolveMixins types types with
      | error e =>
        rw [hnames, hmixins] at hmodels
        cases hmodels
      | ok => exact ⟨rfl, rfl, rfl⟩

theorem accepted_of_typeModels (h : typeModels s = .ok models) : Accepted s models := by
  obtain ⟨haliases, hmodelsOf⟩ := of_typeModels_ok h
  obtain ⟨hnames, hmixins, hmodels⟩ := of_modelsOf_ok hmodelsOf
  have hdistinct := (distinctAliases_eq_ok.mp haliases).1
  have hends := modelled hdistinct.nodup_active hnames hmixins
  rw [hmodels] at hends
  cases hends with
  | models hgrounded htold hdepicts =>
    exact ⟨hdistinct, (claimNames_eq_ok.mp hnames).1,
      ⟨hdistinct.nodup_active, resolveMixins_eq_ok.mp hmixins⟩, hgrounded, htold, hdepicts⟩

/-! ## Cycles -/

theorem no_cycle_of_grounded (h : ∀ t ∈ types, Grounded types t.aliasName.key) :
    ¬ ∃ key, TransGen (Mixes types) key key := by
  rintro ⟨key, hcycle⟩
  obtain ⟨t, ht, rfl⟩ := mem_keys.mp (mem_keys_of_cycle hcycle)
  exact (h t ht).not_cyclic hcycle

/-- **The search for cycles is exact and comes to an end.** Take any schema that passes the checks
on aliases, type names and single mixins. The search ends within every bound above the number of
content types, and the bound has no part in how it ends. Neither the search nor the check of the
accessors nor the making of the models looks up a key that is not there. A cycle is reported exactly
if there is one, and then the content type that is named is on one. -/
theorem mixinCycle_exact (haliases : distinctAliases [] s = .ok ())
    (hnames : claimNames [] (active s) = .ok ())
    (hmixins : resolveMixins (active s) (active s) = .ok ()) :
    (∀ fuel, (active s).length < fuel → visitAll (active s) fuel ≠ .error .unfinished ∧
      visitAll (active s) fuel = visitAll (active s) ((active s).length + 1)) ∧
    ((∀ key, modelsIn (active s) ≠ .error (.missing key)) ∧
      modelsIn (active s) ≠ .error .unfinished) ∧
    ((∃ a, typeModels s = .error (.mixinCycle a)) ↔
      ∃ key, TransGen (Mixes (active s)) key key) ∧
    ∀ a, typeModels s = .error (.mixinCycle a) →
      ∃ t ∈ active s, t.aliasName.spelling = a ∧
        TransGen (Mixes (active s)) t.aliasName.key t.aliasName.key := by
  have hnodup := (distinctAliases_eq_ok.mp haliases).1.nodup_active
  have hresolved : Resolved (active s) := ⟨hnodup, resolveMixins_eq_ok.mp hmixins⟩
  have hmodels : typeModels s = modelsOf (active s) := by rw [typeModels_eq, haliases]; rfl
  have hends := modelled hnodup hnames hmixins
  refine ⟨fun fuel hfuel => ⟨fun hunfinished => ?_, visitAll_eq_of_le hresolved hfuel⟩, ?_⟩
  · have hsearched := searched_visitAll hresolved hfuel
    rw [hunfinished] at hsearched
    cases hsearched
  · rw [hmodels, modelsOf]
    cases hresult : modelsIn (active s) with
    | ok models =>
      rw [hresult] at hends
      cases hends with
      | models hgrounded =>
        have hnone := no_cycle_of_grounded hgrounded
        exact ⟨⟨nofun, nofun⟩, ⟨nofun, fun hcycle => absurd hcycle hnone⟩, nofun⟩
    | error stop =>
      rw [hresult] at hends
      cases hends with
      | cycle ht hcycle =>
        refine ⟨⟨nofun, nofun⟩, ⟨fun _ => ⟨_, hcycle⟩, fun _ => ⟨_, rfl⟩⟩, fun a ha => ?_⟩
        cases ha
        exact ⟨_, ht, rfl, hcycle⟩
      | clash hgrounded =>
        have hnone := no_cycle_of_grounded hgrounded
        exact ⟨⟨nofun, nofun⟩, ⟨nofun, fun hcycle => absurd hcycle hnone⟩, nofun⟩

/-- A content type without properties, to make examples of. -/
def bare (spelling : String) (mixins : List Alias) : ContentType :=
  { aliasName := ⟨spelling⟩, kind := .content, mixins }

/-- Two content types that mix each other in, each in a spelling of its own, and one above them. -/
theorem mixinCycle_exact_pair :
    let s : Schema := [bare "home" [⟨"page"⟩], bare "page" [⟨"SEO"⟩], bare "seo" [⟨"Page"⟩]]
    distinctAliases [] s = .ok () ∧ claimNames [] (active s) = .ok () ∧
      resolveMixins (active s) (active s) = .ok () ∧ typeModels s = .error (.mixinCycle "page") ∧
        ∃ t ∈ active s, t.aliasName.spelling = "page" ∧
          TransGen (Mixes (active s)) t.aliasName.key t.aliasName.key := by
  intro s
  have hactive : active s = s := List.mergeSort_of_pairwise (by decide +kernel)
  have haliases : distinctAliases [] s = .ok () := by decide +kernel
  have hnames : claimNames [] (active s) = .ok () := by rw [hactive]; decide +kernel
  have hmixins : resolveMixins (active s) (active s) = .ok () := by rw [hactive]; decide +kernel
  have hcycle : typeModels s = .error (.mixinCycle "page") := by
    rw [typeModels_eq, haliases, hactive]
    rfl
  exact ⟨haliases, hnames, hmixins, hcycle,
    (mixinCycle_exact haliases hnames hmixins).2.2.2 "page" hcycle⟩

/-! ## Accessors -/

theorem nodup_names_iff {l : List PropertyModel}
    (h : ∀ p ∈ l, ∀ q ∈ l, p.name = q.name → p.aliasName = q.aliasName) :
    (l.map (·.name)).Nodup ↔ (l.map fun p => (p.aliasName, p.name)).Nodup := by
  unfold List.Nodup
  rw [List.pairwise_map, List.pairwise_map]
  refine List.Pairwise.iff_of_mem fun {p q} hp hq => not_congr ⟨fun hname => ?_, fun hpair => ?_⟩
  · rw [hname, h p hp q hq hname]
  · exact (Prod.mk.inj hpair).2

theorem ToldApart.nodup_names_iff (h : ToldApart types t) {us : List ContentType}
    (htakes : TakesOver types t us) :
    (us.flatMap fun u => u.ownProperties.map (·.name)).Nodup ↔
      ∀ u ∈ us, (u.ownProperties.map fun p => (p.aliasName, p.name)).Nodup := by
  rw [List.nodup_flatMap]
  -- different content types share no name, so all depends on each of them alone
  have hdisjoint : us.Pairwise (Function.onFun List.Disjoint fun u =>
      u.ownProperties.map (·.name)) := by
    refine htakes.nodup.imp_of_mem fun {u v} hu hv hne name hname hname' => ?_
    obtain ⟨p, hp, hpname⟩ := List.mem_map.mp hname
    obtain ⟨q, hq, hqname⟩ := List.mem_map.mp hname'
    exact hne (h us htakes u hu v hv p hp q hq (hpname.trans hqname.symm)).1
  have hown (u : ContentType) (hu : u ∈ us) : (u.ownProperties.map (·.name)).Nodup ↔
      (u.ownProperties.map fun p => (p.aliasName, p.name)).Nodup :=
    Schema.nodup_names_iff fun p hp q hq hname => (h us htakes u hu u hu p hp q hq hname).2
  constructor
  · exact fun ⟨hnodup, _⟩ u hu => (hown u hu).mp (hnodup u hu)
  · exact fun hpairs => ⟨fun u hu => (hown u hu).mpr (hpairs u hu), hdisjoint⟩

/-- **The accessors of a generated type.** Let a content type of an accepted schema end up with
properties of whatever it takes over. Those with one accessor name are declared by one content type
under one alias. So all the names are different exactly if nothing it takes over declares one
property twice under one name. -/
theorem names_distinct_iff (h : typeModels s = .ok models) {m : TypeModel} (hm : m ∈ models) :
    ∃ t ∈ active s, m.aliasName = t.aliasName ∧ ToldApart (active s) t ∧
      (∃ us, TakesOver (active s) t us) ∧
      (∀ us, TakesOver (active s) t us → ((us.flatMap fun u => u.ownProperties.map (·.name)).Nodup ↔
        ∀ u ∈ us, (u.ownProperties.map fun p => (p.aliasName, p.name)).Nodup)) ∧
      ((m.properties.map (·.name)).Nodup ↔
        (m.properties.map fun p => (p.aliasName, p.name)).Nodup) := by
  have haccepted := accepted_of_typeModels h
  obtain ⟨t, ht, hdepicts⟩ := exists_of_mem_right haccepted.depicts hm
  obtain ⟨us, htakes, -⟩ := exists_takesOver haccepted.resolved ht
  have htold := haccepted.toldApart t ht
  refine ⟨t, ht, hdepicts.aliasName, htold, ⟨us, htakes⟩, fun _ => htold.nodup_names_iff, ?_⟩
  have hself : t ∈ us := (htakes.mem_iff t).mpr ⟨ht, .refl⟩
  rw [hdepicts.ownProperties]
  exact nodup_names_iff fun p hp q hq hname => (htold us htakes t hself t hself p hp q hq hname).2

/-- A property that comes in over two mixins. -/
def diamond : Schema :=
  [{ bare "base" [] with properties := [⟨"title", "textbox", "String", {}⟩] },
    bare "leaf" [⟨"left"⟩, ⟨"right"⟩], bare "left" [⟨"base"⟩], bare "right" [⟨"base"⟩]]

/-- Whatever the leaf of the diamond takes over brings accessors of different names. -/
theorem names_distinct_diamond : ∃ models m, typeModels diamond = .ok models ∧ m ∈ models ∧
    ∃ t ∈ active diamond, t.aliasName.spelling = "leaf" ∧ ∃ us, TakesOver (active diamond) t us ∧
      (us.flatMap fun u => u.ownProperties.map (·.name)).Nodup := by
  have hactive : active diamond = diamond := List.mergeSort_of_pairwise (by decide +kernel)
  obtain ⟨models, hmodels⟩ := exists_models hactive (by decide +kernel) (by decide +kernel)
  have hpairs : ∀ u ∈ diamond, (u.ownProperties.map fun p => (p.aliasName, p.name)).Nodup := by
    decide +kernel
  have hleaf : bare "leaf" [⟨"left"⟩, ⟨"right"⟩] ∈ active diamond := by
    rw [hactive]
    exact List.mem_cons_of_mem _ List.mem_cons_self
  obtain ⟨m, hm, hdepicts⟩ := exists_of_mem_left (accepted_of_typeModels hmodels).depicts hleaf
  obtain ⟨t, ht, haliasName, -, ⟨us, htakes⟩, hnames, -⟩ := names_distinct_iff hmodels hm
  refine ⟨models, m, hmodels, hm, t, ht, ?_, us, htakes, ?_⟩
  · rw [← haliasName, hdepicts.aliasName]
    rfl
  · exact (hnames us htakes).mpr fun u hu => hpairs u (hactive ▸ ((htakes.mem_iff u).mp hu).1)

/-- **A property declared twice is accepted**, and a generated type ends up with two accessors of
one name. -/
theorem names_repeated :
    let title : Property := ⟨"title", "textbox", "String", {}⟩
    let s : Schema := [{ bare "home" [] with properties := [title, title] }]
    ∃ models, typeModels s = .ok models ∧ ∃ m ∈ models, ¬ (m.properties.map (·.name)).Nodup := by
  intro title s
  have hactive : active s = s := List.mergeSort_of_pairwise (by decide +kernel)
  obtain ⟨models, hmodels⟩ := exists_models hactive (by decide +kernel) (by decide +kernel)
  have hdepicts := (accepted_of_typeModels hmodels).depicts
  rw [hactive] at hdepicts
  obtain ⟨m, hm, hdepict⟩ := exists_of_mem_left hdepicts List.mem_cons_self
  refine ⟨models, hmodels, m, hm, ?_⟩
  rw [hdepict.ownProperties]
  decide +kernel

/-! ## The list of models -/

/-- What type models keep of a schema. -/
structure Faithful (s : Schema) (models : List TypeModel) : Prop where
  /-- There is one for each content type that is not left out, and a mixin is named as its model. -/
  entries : ∃ types : List ContentType, types.Perm (s.filter (!·.directives.ignore)) ∧
    List.Forall₂ (Depicts types fun a name =>
      ∃ n ∈ models, (n.aliasName == a) = true ∧ n.typeName = name) types models
  increasing : models.Pairwise fun m n => m.aliasName.key < n.aliasName.key
  typeNames : (models.map (·.typeName)).Nodup
  /-- Following mixins comes to an end. -/
  ends : ∀ m ∈ models, Acc (fun n m => n ∈ models ∧ n.typeName ∈ m.mixins) m

theorem Accepted.named (h : Accepted s models) {a : Alias} {name : String}
    (hname : Generates (active s) a name) :
    ∃ n ∈ models, (n.aliasName == a) = true ∧ n.typeName = name := by
  obtain ⟨u, hu, hkey, hname⟩ := hname
  obtain ⟨n, hn, hdepicts⟩ := exists_of_mem_left h.depicts hu
  refine ⟨n, hn, ?_, hdepicts.typeName.trans hname⟩
  rw [Alias.beq_iff_key_eq, hdepicts.aliasName, hkey]

/-- A mixin named in a model is the mixin of the content type. -/
theorem Accepted.mixes (h : Accepted s models) {u : ContentType} {m n : TypeModel}
    (hm : Depicts (active s) (Generates (active s)) t m) (ht : t ∈ active s)
    (hn : Depicts (active s) (Generates (active s)) u n) (hu : u ∈ active s)
    (hname : n.typeName ∈ m.mixins) :
    Mixes (active s) t.aliasName.key u.aliasName.key := by
  obtain ⟨a, ha, v, hv, hkey, hvname⟩ := exists_of_mem_right hm.mixins hname
  -- a type name tells the content type, as no two generate types of one name
  have heq : v = u := List.inj_on_of_nodup_map h.typeNames hv hu (hvname.trans hn.typeName)
  exact ⟨t, ht, rfl, a, ha, heq ▸ hkey.symm⟩

theorem Accepted.ends (h : Accepted s models) {m : TypeModel} (hm : m ∈ models) :
    Acc (fun n m => n ∈ models ∧ n.typeName ∈ m.mixins) m := by
  obtain ⟨t, ht, hdepicts⟩ := exists_of_mem_right h.depicts hm
  -- the way down from the model follows the way down from its content type
  have hgrounded := h.grounded t ht
  generalize hkey : t.aliasName.key = key at hgrounded
  induction hgrounded generalizing t m with
  | intro key _ ih =>
    subst hkey
    refine Acc.intro m fun n ⟨hn, hname⟩ => ?_
    obtain ⟨u, hu, hdepicts'⟩ := exists_of_mem_right h.depicts hn
    exact ih _ (h.mixes hdepicts ht hdepicts' hu hname) hn u hu hdepicts' rfl

/-- **Type models are a faithful image of the schema.** There is one for each content type that is
not left out, in the order of the keys, with the properties and mixins of the content type. They
have different type names, so that a mixin's name tells which model it is, and following mixins
ends. -/
theorem typeModels_faithful (h : typeModels s = .ok models) : Faithful s models := by
  have haccepted := accepted_of_typeModels h
  have hdepicts := haccepted.depicts
  have hentries := hdepicts.imp fun t m (hm : Depicts _ _ t m) =>
    { hm with mixins := hm.mixins.imp fun a name => haccepted.named }
  refine ⟨⟨active s, active_perm s, hentries⟩, ?_, ?_, fun m => haccepted.ends⟩
  · have hkeys : models.map (·.aliasName.key) = (active s).map (·.aliasName.key) :=
      map_eq_of_forall₂ hdepicts fun t m hm => by rw [hm.aliasName]
    have hincreasing := List.pairwise_map.mpr haccepted.distinct.increasing
    rw [← hkeys] at hincreasing
    exact List.pairwise_map.mp hincreasing
  · rw [map_eq_of_forall₂ hdepicts fun t m hm => hm.typeName]
    exact haccepted.typeNames

/-- A content type that is left out, and one that is renamed and mixed in under another spelling, by a
content type with a property that is renamed and one that is left out. -/
theorem typeModels_faithful_renamed :
    let article := ((bare "article" [⟨"SEO"⟩]).withProperty
      ⟨"title", "textbox", "String", .renamed "Heading"⟩).withProperty
      ⟨"draft", "toggle", "Boolean", .ignored⟩
    let s : Schema := [article, (bare "legacy" [⟨"nowhere"⟩]).withDirectives .ignored,
      (bare "seo" []).withDirectives (.renamed "Meta")]
    ∃ models, typeModels s = .ok models ∧ Faithful s models := by
  intro article s
  have hactive : active s = s.filter (!·.directives.ignore) :=
    List.mergeSort_of_pairwise (by decide +kernel)
  obtain ⟨models, hmodels⟩ := exists_models hactive (by decide +kernel) (by decide +kernel)
  exact ⟨models, hmodels, typeModels_faithful hmodels⟩

end ModelCache.Schema
