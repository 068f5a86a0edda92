import ModelCache.Proofs.ModelSet.Readers

/-!
# What becomes of placeholders

Mapping a type expression is substitution: a placeholder gives way to the name of the type published
for its alias, and the rest stays. A list of a placeholder takes a way of its own, by the table of list
types, and comes out as a single name instead of a generic type; nobody who reads the written type can
tell.

* **`TypeExpr.substitute`** — replacing placeholders by names, and nothing else.
* **`ModelSet.mapType_generic`** — the two ways of a generic type.
* **`ModelSet.typeNameFor_eq`** — mapping names a placeholder by the type published for its alias,
  although it lower-cases the alias twice.
* **`ModelSet.mapType_substitutes`** — the mapped expression has no placeholder left, is mapped to
  itself, and is written as the substituted one.
-/

namespace ModelCache

/-! ## Expressions and their arguments -/

namespace TypeExpr

/-- Induction over an expression, with the arguments of a generic type taken one by one. -/
@[induction_eliminator]
theorem induct {motive : TypeExpr → Prop} (model : ∀ a, motive (.model a))
    (named : ∀ name, motive (.named name))
    (generic : ∀ name args, (∀ e ∈ args, motive e) → motive (.generic name args))
    (array : ∀ item, motive item → motive (.array item)) (t : TypeExpr) : motive t :=
  @TypeExpr.rec motive (fun args => ∀ e ∈ args, motive e) model named generic array nofun
    (fun _ _ hhead hrest => List.forall_mem_cons.mpr ⟨hhead, hrest⟩) t

theorem anyPlaceholders_eq (es : List TypeExpr) : anyPlaceholders es = es.any hasPlaceholders := by
  induction es with
  | nil => rfl
  | cons e rest ih => rw [anyPlaceholders, ih, List.any_cons]

theorem texts_eq (es : List TypeExpr) : texts es = es.map text := by
  induction es with
  | nil => rfl
  | cons e rest ih => rw [texts, ih, List.map_cons]

mutual

/-- The expression with every placeholder replaced by a name for its alias. -/
def substitute (name : Alias → String) : TypeExpr → TypeExpr
  | .model a => .named (name a)
  | .named n => .named n
  | .generic n args => .generic n (substituteAll name args)
  | .array item => .array (item.substitute name)

def substituteAll (name : Alias → String) : List TypeExpr → List TypeExpr
  | [] => []
  | e :: rest => e.substitute name :: substituteAll name rest

end

theorem substituteAll_eq (name : Alias → String) (es : List TypeExpr) :
    substituteAll name es = es.map (substitute name) := by
  induction es with
  | nil => rfl
  | cons e rest ih => rw [substituteAll, ih, List.map_cons]

end TypeExpr

namespace ModelSet

open TypeExpr (substitute)

variable {s : ModelSet}

/-! ## Names of published types -/

/-- The name of the type that is published for an alias, or else the one for elements as they are. -/
def publishedName (s : ModelSet) (a : Alias) : String :=
  ((s.models.find? fun x => x.aliasName == a).map ModelDescriptor.typeName).getD
    TypeExpr.backingElement

theorem typeNameFor_eq (s : ModelSet) (a : Alias) : s.typeNameFor a = s.publishedName a := by
  rw [typeNameFor, lookup_key, lookup_spelling]
  rfl

/-- A type that can be found has its type of lists in the table. -/
theorem Whole.listTypes_of_lookup (h : s.Whole) {spelling : String} {x : ModelDescriptor}
    (hx : s.lookup spelling = some x) : s.listTypes.lookup x.typeName = some x.listTypeName := by
  obtain ⟨d, hd, -, -, -, hdescribes⟩ := (h.offers.lookup_iff spelling x).mp hx
  exact (h.offers.listTypes_iff _ _).mpr ⟨⟨d, hd, hdescribes.typeName.symm⟩, rfl⟩

/-! ## The mapping -/

theorem mapTypes_eq (s : ModelSet) (es : List TypeExpr) : s.mapTypes es = es.map s.mapType := by
  induction es with
  | nil => rfl
  | cons e rest ih => rw [mapTypes, ih, List.map_cons]

/-- What has a list type of its own: a list of one placeholder that has a type. -/
theorem listCounterpart?_eq_some {name list : String} {args : List TypeExpr} :
    s.listCounterpart? name args = some list ↔
      ∃ a x, name = TypeExpr.listName ∧ args = [.model a] ∧ s.lookup a.key = some x ∧
        s.listTypes.lookup x.typeName = some list := by
  constructor
  · intro h
    unfold listCounterpart? at h
    split at h
    case h_1 a =>
      split at h
      case isTrue hname =>
        obtain ⟨x, hx, hlist⟩ := Option.bind_eq_some_iff.mp h
        exact ⟨a, x, hname, rfl, hx, hlist⟩
      case isFalse => cases h
    case h_2 => cases h
  · rintro ⟨a, x, rfl, rfl, hx, hlist⟩
    show (if TypeExpr.listName = TypeExpr.listName then _ else none) = some list
    rw [if_pos rfl, hx]
    exact hlist

/-- A generic type becomes the name of a list type, or keeps its name and has its arguments mapped. -/
theorem mapType_generic (s : ModelSet) (name : String) (args : List TypeExpr) :
    (∃ list, s.listCounterpart? name args = some list ∧
        s.mapType (.generic name args) = .named list) ∨
      s.mapType (.generic name args) = .generic name (args.map s.mapType) := by
  rw [mapType]
  cases h : s.listCounterpart? name args with
  | none => exact .inr (by rw [mapTypes_eq])
  | some list => exact .inl ⟨list, rfl, rfl⟩

theorem hasPlaceholders_mapType (s : ModelSet) (t : TypeExpr) :
    (s.mapType t).hasPlaceholders = false := by
  induction t with
  | model a => rfl
  | named name => rfl
  | generic name args ih =>
    rcases s.mapType_generic name args with ⟨list, -, hmap⟩ | hmap
    · rw [hmap]
      rfl
    · rw [hmap, TypeExpr.hasPlaceholders, TypeExpr.anyPlaceholders_eq, List.any_map]
      exact List.any_eq_false.mpr fun e he => by simp [ih e he]
  | array item ih =>
    rw [mapType, TypeExpr.hasPlaceholders]
    exact ih

/-- Where there is nothing to replace, nothing changes. -/
theorem mapType_of_no_placeholders {t : TypeExpr} (h : t.hasPlaceholders = false) :
    s.mapType t = t := by
  induction t with
  | model a => cases h
  | named name => rfl
  | generic name args ih =>
    rw [TypeExpr.hasPlaceholders, TypeExpr.anyPlaceholders_eq] at h
    have hargs : ∀ e ∈ args, e.hasPlaceholders = false := by simpa using h
    rcases s.mapType_generic name args with ⟨list, hlist, -⟩ | hmap
    · -- the shortcut needs a placeholder
      obtain ⟨a, -, -, rfl, -, -⟩ := listCounterpart?_eq_some.mp hlist
      cases hargs _ List.mem_cons_self
    · rw [hmap]
      congr 1
      conv_rhs => rw [← List.map_id args]
      exact List.map_congr_left fun e he => ih e he (hargs e he)
  | array item ih =>
    rw [mapType, ih h]

/-- **A mapped type is written as the substituted one**, also where it is the name of a list type. -/
theorem Whole.text_mapType (h : s.Whole) (t : TypeExpr) :
    (s.mapType t).text = (t.substitute s.publishedName).text := by
  induction t with
  | model a =>
    show s.typeNameFor a = s.publishedName a
    exact s.typeNameFor_eq a
  | named name => rfl
  | generic name args ih =>
    rcases s.mapType_generic name args with ⟨list, hlist, hmap⟩ | hmap
    · obtain ⟨a, x, rfl, rfl, hx, htable⟩ := listCounterpart?_eq_some.mp hlist
      have hname : s.publishedName a = x.typeName := by
        rw [← typeNameFor_eq, typeNameFor, hx]
        rfl
      rw [h.listTypes_of_lookup hx] at htable
      cases htable
      rw [hmap]
      show x.listTypeName =
        TypeExpr.listName ++ "<" ++ ", ".intercalate [s.publishedName a] ++ ">"
      rw [hname]
      rfl
    · rw [hmap, TypeExpr.substitute, TypeExpr.text, TypeExpr.text, TypeExpr.texts_eq,
        TypeExpr.texts_eq, TypeExpr.substituteAll_eq, List.map_map, List.map_map]
      have hargs : args.map (TypeExpr.text ∘ s.mapType) =
          args.map (TypeExpr.text ∘ substitute s.publishedName) :=
        List.map_congr_left fun e he => ih e he
      rw [hargs]
  | array item ih =>
    rw [mapType, TypeExpr.substitute, TypeExpr.text, TypeExpr.text, ih]

/-- **Mapping is substitution, once and for all.** -/
theorem mapType_substitutes (h : s.Whole) (t : TypeExpr) :
    (s.mapType t).hasPlaceholders = false ∧ s.mapType (s.mapType t) = s.mapType t ∧
      (t.hasPlaceholders = false → s.mapType t = t) ∧
      (s.mapType t).text = (t.substitute s.publishedName).text :=
  ⟨s.hasPlaceholders_mapType t, mapType_of_no_placeholders (s.hasPlaceholders_mapType t),
    mapType_of_no_placeholders, h.text_mapType t⟩

/-- A list of pages takes the shortcut, a list of posts, which no type is published for, does not. -/
theorem mapType_substitutes_lists :
    let t : TypeExpr :=
      .generic "Map" [.listOf (.model ⟨"σελιδες"⟩), .array (.listOf (.model ⟨"post"⟩)), .named "String"]
    greekSet.Whole ∧ (greekSet.mapType t).hasPlaceholders = false ∧
      greekSet.mapType (greekSet.mapType t) = greekSet.mapType t ∧
      (greekSet.mapType t).text = (t.substitute greekSet.publishedName).text ∧
      (t.substitute greekSet.publishedName).text =
        "Map<List<Page>, [List<PublishedElement>], String>" ∧
      greekSet.mapType (.listOf (.named "Page")) = .listOf (.named "Page") := by
  intro t
  obtain ⟨hnone, hstable, -, htext⟩ := mapType_substitutes whole_greekSet t
  have hlist := (mapType_substitutes whole_greekSet (.listOf (.named "Page"))).2.2.1 rfl
  exact ⟨whole_greekSet, hnone, hstable, htext, by decide +kernel, hlist⟩

end ModelSet

end ModelCache
