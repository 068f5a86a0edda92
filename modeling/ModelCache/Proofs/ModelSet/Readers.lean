import ModelCache.Proofs.ModelSet
import ModelCache.Proofs.Text.Lowercase

/-!
# One alias, many spellings

Readers of a set come with an alias as somebody spelled it, with its key, or with an element whose
content type has one. Each of them lower-cases what it is given, which may be in small letters already.

* **`ModelSet.lookup_key`** — the key of an alias leads where all its spellings lead.
* **`ModelList.foldl_push`** — elements that are added to a list stand there in order, each wrapped as
  the list wraps them.
* **`ModelSet.readers_agree`** — so instances, lists and type names of one alias have to do with one
  descriptor, the one of the type that the module declares for the alias.
-/

namespace ModelCache

/-! ## Lists of instances -/

/-- An element, wrapped if there is a way to wrap it. -/
def Instance.wrapped (wrap : Option (Element → Model)) (e : Element) : Instance :=
  match wrap with
  | some wrap => .typed (wrap e)
  | none => .untyped e

@[simp] theorem Instance.isTyped_wrapped (wrap : Option (Element → Model)) (e : Element) :
    (wrapped wrap e).isTyped = wrap.isSome := by
  cases wrap <;> rfl

theorem ModelList.push_eq (l : ModelList) (e : Element) :
    l.push e = { l with items := l.items ++ [Instance.wrapped l.wrap e] } := by
  unfold push Instance.wrapped
  cases l.wrap <;> rfl

theorem ModelList.foldl_push (l : ModelList) (es : List Element) :
    es.foldl push l = { l with items := l.items ++ es.map (Instance.wrapped l.wrap) } := by
  induction es generalizing l with
  | nil => simp
  | cons e rest ih => rw [List.foldl_cons, ih, push_eq, List.append_assoc]; rfl

namespace ModelSet

open TypeDecl (concrete)

variable {s : ModelSet} {a b : Alias}

/-! ## Look-ups -/

theorem lookup_spelling (s : ModelSet) (a : Alias) :
    s.lookup a.spelling = s.models.find? fun x => x.aliasName == a := rfl

/-- The key of an alias is one of its spellings. -/
theorem key_beq (a : Alias) : ((⟨a.key⟩ : Alias) == a) = true :=
  (Alias.beq_iff_key_eq _ _).mpr (Text.lowercase_lowercase a.spelling)

theorem lookup_of_beq (s : ModelSet) (h : (a == b) = true) :
    s.lookup a.spelling = s.lookup b.spelling :=
  congrArg (withKey? s.models) ((Alias.beq_iff_key_eq a b).mp h)

theorem lookup_key (s : ModelSet) (a : Alias) : s.lookup a.key = s.lookup a.spelling :=
  s.lookup_of_beq (key_beq a)

/-- An alias is found if the module declares a concrete type for it. -/
theorem Whole.isSome_lookup (h : s.Whole) (a : Alias) : (s.lookup a.spelling).isSome = true ↔
    ∃ m, s.module = some m ∧ ∃ d ∈ concrete m.types, ∃ c, d.IsFor c ∧ (c == a) = true := by
  rw [Option.isSome_iff_exists]
  constructor
  · rintro ⟨x, hx⟩
    obtain ⟨d, hd, c, hfor, hsame, -⟩ := (h.offers.lookup_iff a.spelling x).mp hx
    rw [declarations] at hd
    cases hmodule : s.module with
    | none => rw [hmodule] at hd; cases hd
    | some m => rw [hmodule] at hd; exact ⟨m, rfl, d, hd, c, hfor, hsame⟩
  · rintro ⟨m, hmodule, d, hd, c, hfor, hsame⟩
    have hdeclared : d ∈ concrete s.declarations := by
      rw [declarations, hmodule]
      exact hd
    obtain ⟨x, -, hx⟩ := exists_of_mem_left h.offers.models hdeclared
    exact ⟨x, (h.offers.lookup_iff a.spelling x).mpr ⟨d, hdeclared, c, hfor, hsame, hx⟩⟩

/-! ## Readers -/

theorem createInstance_eq (s : ModelSet) (e : Element) : s.createInstance e =
    Instance.wrapped ((s.lookup e.contentType.spelling).map ModelDescriptor.wrap) e := by
  rw [createInstance, lookup_key]
  cases s.lookup e.contentType.spelling <;> rfl

theorem wrap_createList (s : ModelSet) (spelling : String) :
    (s.createList spelling).wrap = (s.lookup spelling).map ModelDescriptor.wrap := by
  rw [createList]
  cases s.lookup spelling <;> rfl

theorem items_createList (s : ModelSet) (spelling : String) : (s.createList spelling).items = [] := by
  rw [createList]
  cases s.lookup spelling <;> rfl

theorem itemType_createList (s : ModelSet) (a : Alias) :
    (s.createList a.spelling).itemType = s.typeNameFor a := by
  rw [createList, typeNameFor, lookup_key]
  cases s.lookup a.spelling <;> rfl

/-- What the readers of a set say about two spellings of an alias. -/
structure Agrees (s : ModelSet) (a b : Alias) : Prop where
  lookup_eq : s.lookup a.spelling = s.lookup b.spelling
  /-- The key is a spelling too, so that all the rest is true of it as well. -/
  key : ((⟨a.key⟩ : Alias) == a) = true ∧ s.lookup a.key = s.lookup b.spelling
  /-- There is a type if the module declares one, and it is the one that is declared. -/
  declared : ((s.lookup a.spelling).isSome = true ↔
      ∃ m, s.module = some m ∧ ∃ d ∈ concrete m.types, ∃ c, d.IsFor c ∧ (c == a) = true) ∧
    ∀ m x, s.module = some m → s.lookup a.spelling = some x →
      ∃ d ∈ concrete m.types, ∃ c, d.IsFor c ∧ (c == a) = true ∧ Describes d x
  isTyped : ∀ e : Element, (e.contentType == a) = true →
    (s.createInstance e).isTyped = (s.createList b.spelling).isTyped
  mapType : s.mapType (.model a) = .named (s.createList b.spelling).itemType
  /-- Elements come out of a list in order, all wrapped by the descriptor, or all as they are. -/
  items : ∀ es : List Element, (es.foldl ModelList.push (s.createList b.spelling)).items =
    es.map (Instance.wrapped ((s.lookup a.spelling).map ModelDescriptor.wrap))

/-- **All readers agree about an alias**, whoever spelled it in which way. -/
theorem readers_agree (h : s.Whole) (hab : (a == b) = true) : s.Agrees a b := by
  have hlookup := s.lookup_of_beq hab
  refine ⟨hlookup, ⟨key_beq a, (s.lookup_key a).trans hlookup⟩, ⟨h.isSome_lookup a, ?_⟩, ?_, ?_, ?_⟩
  · intro m x hmodule hx
    have hfound := (h.offers.lookup_iff a.spelling x).mp hx
    rwa [declarations, hmodule] at hfound
  · intro e he
    rw [createInstance_eq, Instance.isTyped_wrapped, ModelList.isTyped, wrap_createList,
      s.lookup_of_beq he, hlookup]
  · show TypeExpr.named (s.typeNameFor a) = .named (s.createList b.spelling).itemType
    rw [itemType_createList, typeNameFor, typeNameFor, lookup_key, lookup_key, hlookup]
  · intro es
    rw [ModelList.foldl_push, items_createList, wrap_createList, hlookup]
    rfl

/-! ## A module with Greek aliases

A capital sigma at the end of a word has a small form of its own. -/

def greek : Module where
  location := ⟨"models.v3"⟩
  version := ⟨3⟩
  marker := none
  types :=
    [⟨"Base", none, true, []⟩, ⟨"Home", none, false, [TypeDecl.wrapping "Home"]⟩,
      ⟨"Page", some ⟨"ΣΕΛΙΔΕΣ"⟩, false, [.other ["String"], TypeDecl.wrapping "Page"]⟩]

def greekSet : ModelSet where
  generation := 1
  models := [⟨⟨"Home"⟩, "Home", fun e => ⟨"Home", e⟩⟩, ⟨⟨"ΣΕΛΙΔΕΣ"⟩, "Page", fun e => ⟨"Page", e⟩⟩]
  listTypes := [("Home", "List<Home>"), ("Page", "List<Page>")]
  module := some greek

theorem ofModule_greek : ofModule 1 greek = .ok greekSet := rfl

theorem whole_greekSet : greekSet.Whole := whole_of_ofModule ofModule_greek

theorem readers_agree_greek :
    greekSet.Whole ∧ ((⟨"Σελιδες"⟩ : Alias) == ⟨"ΣΕΛΙΔΕΣ"⟩) = true ∧
      greekSet.Agrees ⟨"Σελιδες"⟩ ⟨"ΣΕΛΙΔΕΣ"⟩ ∧ (greekSet.createList "ΣΕΛΙΔΕΣ").itemType = "Page" := by
  have hsame : ((⟨"Σελιδες"⟩ : Alias) == ⟨"ΣΕΛΙΔΕΣ"⟩) = true := by decide +kernel
  exact ⟨whole_greekSet, hsame, readers_agree whole_greekSet hsame, by decide +kernel⟩

end ModelSet

end ModelCache
