import ModelCache.Diagnostic.Codec
import ModelCache.Proofs.Json
import ModelCache.Schema.Codec
import ModelCache.Store

/-!
# Values are read back from JSON

A value goes through JSON in two steps each way: it is encoded, and the encoding is written; the text
is read, and what was read is decoded. Writing and reading are undone for every `Json` without
numerals of its own, so what is left to show of a type is that decoding undoes encoding.

* **`Fields.of?_record`** — a record is taken apart into the fields it was put together from.
* **`Faithful`** — encoding loses nothing: one lemma for each way of putting forms together, and one
  for each type.
* **`forms_read_back`** — a value of any of the types that are kept or exchanged in JSON is read back
  from both texts of it.
-/

namespace ModelCache

namespace Json

variable {α : Type} {encode : α → Json} {decode : Json → Option α}

/-! ## What is written in full -/

theorem plain_array {items : List Json} : (array items).Plain ↔ ∀ item ∈ items, item.Plain := by
  show PlainItems items ↔ _
  induction items with
  | nil => simp [PlainItems]
  | cons item rest ih => rw [PlainItems, ih, List.forall_mem_cons]

theorem plain_record {members : List (String × Json)} :
    (record members).Plain ↔ ∀ m ∈ members, m.2.Plain := by
  show PlainMembers (members.map fun m => (some m.1, m.2)) ↔ _
  induction members with
  | nil => simp [PlainMembers]
  | cons m rest ih =>
    rw [List.map_cons, PlainMembers, ih, List.forall_mem_cons]
    exact and_iff_right rfl

/-! ## Records -/

theorem Fields.named?_of_nodup (names : List String) {members : List (String × Json)}
    (hnames : ∀ m ∈ members, m.1 ∈ names) (hnodup : (members.map Prod.fst).Nodup) :
    named? names (members.map fun m => (some m.1, m.2)) = some members := by
  induction members with
  | nil => rfl
  | cons m rest ih =>
    obtain ⟨name, value⟩ := m
    rw [List.map_cons, List.nodup_cons] at hnodup
    have hrest := ih (fun m hm => hnames m (List.mem_cons_of_mem _ hm)) hnodup.2
    -- a field is refused only if there is one of its name behind it
    have hfresh : rest.any (·.1 == name) = false := by
      rw [List.any_eq_false]
      intro m hm heq
      exact hnodup.1 (List.mem_map.mpr ⟨m, hm, eq_of_beq heq⟩)
    rw [List.map_cons, named?, hrest, Option.bind_eq_bind, Option.bind_some,
      if_pos (hnames (name, value) List.mem_cons_self), hfresh]
    rfl

/-- **A record is taken apart into the fields it was put together from.** -/
theorem Fields.of?_record {names : List String} {members : List (String × Json)}
    (hnames : members.map Prod.fst = names) (hnodup : names.Nodup) :
    of? names (record members) = some ⟨false, members⟩ := by
  subst hnames
  rw [record, of?, named?_of_nodup _ (fun m hm => List.mem_map_of_mem hm) hnodup]
  rfl

/-! ## Forms that lose nothing -/

/-- Every value is decoded from its form in JSON, and the form can be written. -/
structure Faithful (encode : α → Json) (decode : Json → Option α) : Prop where
  plain (a : α) : (encode a).Plain
  decode_encode (a : α) : decode (encode a) = some a

/-- Every value is read back from both texts of its form. -/
def ReadsBack (encode : α → Json) (decode : Json → Option α) : Prop :=
  ∀ a, (read (encode a).compact).bind decode = some a ∧
    (read (encode a).indented).bind decode = some a

theorem Faithful.readsBack (h : Faithful encode decode) : ReadsBack encode decode := by
  intro a
  rw [read_compact (h.plain a), read_indented (h.plain a), Option.bind_some]
  exact ⟨h.decode_encode a, h.decode_encode a⟩

theorem faithful_text : Faithful text text? := ⟨fun _ => rfl, fun _ => rfl⟩

/-- Names stand for what they name, if no two are alike. -/
theorem faithful_variant {name : α → String} {ofName? : String → Option α}
    (h : ∀ a, ofName? (name a) = some a) :
    Faithful (fun a => text (name a)) fun j => j.variant?.bind ofName? :=
  ⟨fun _ => rfl, h⟩

theorem below?_natural {bound n : Nat} (h : n < bound) : below? bound (.natural n) = some n :=
  if_pos h

/-- Numbers stand for what they count, if all of them are below the bound. -/
theorem faithful_natural {bound : Nat} {number : α → Nat} {ofNumber : Nat → α}
    (hbound : ∀ a, number a < bound) (h : ∀ a, ofNumber (number a) = a) :
    Faithful (fun a => natural (number a)) fun j => (j.below? bound).map ofNumber where
  plain _ := trivial
  decode_encode a := by
    rw [below?_natural (hbound a), Option.map_some, h]

theorem Faithful.list (h : Faithful encode decode) :
    Faithful (fun as => array (as.map encode)) (list? decode) where
  plain as := by
    refine plain_array.mpr fun item hitem => ?_
    obtain ⟨a, _, rfl⟩ := List.mem_map.mp hitem
    exact h.plain a
  decode_encode as := by
    unfold list?
    dsimp only
    induction as with
    | nil => rfl
    | cons a rest ih =>
      rw [List.map_cons, List.mapM_cons, h.decode_encode a, ih]
      rfl

/-- Absence can be told from every value that has a form other than `null`. -/
theorem Faithful.optional (h : Faithful encode decode) (hnull : ∀ a, encode a ≠ .null) :
    Faithful (Json.optional encode) (nullable? decode) where
  plain a := by
    cases a with
    | none => trivial
    | some a => exact h.plain a
  decode_encode a := by
    cases a with
    | none => rfl
    | some a =>
      show nullable? decode (encode a) = some (some a)
      unfold nullable?
      split
      case h_1 heq => exact absurd heq (hnull a)
      case h_2 => rw [h.decode_encode a, Option.map_some]

end Json

open Json (Faithful Fields)

/-! ## Diagnostics -/

theorem Severity.faithful : Faithful Severity.toJson Severity.ofJson? :=
  Json.faithful_variant fun s => by cases s <;> rfl

theorem Category.faithful : Faithful Category.toJson Category.ofJson? :=
  Json.faithful_variant fun c => by cases c <;> rfl

theorem Code.faithful : Faithful Code.toJson Code.ofJson? where
  plain c := by simp [toJson, Json.plain_record, Category.faithful.plain, Json.Plain]
  decode_encode c := by
    have hfields : Fields.of? ["category", "number"] c.toJson = some ⟨false, _⟩ :=
      Fields.of?_record rfl (by decide)
    have hnumber := Json.below?_natural c.number.toNat_lt
    unfold ofJson?
    rw [hfields]
    simp [Fields.required?, List.lookup_cons, Category.faithful.decode_encode, hnumber]

theorem Location.faithful : Faithful Location.toJson Location.ofJson? where
  plain l := by simp [toJson, Json.plain_record, Json.faithful_text.plain, Json.Plain]
  decode_encode l := by
    have hfields : Fields.of? ["file", "line", "column"] l.toJson = some ⟨false, _⟩ :=
      Fields.of?_record rfl (by decide)
    have hline := Json.below?_natural l.line.toNat_lt
    have hcolumn := Json.below?_natural l.column.toNat_lt
    unfold ofJson?
    rw [hfields]
    simp [Fields.required?, List.lookup_cons, Json.faithful_text.decode_encode, hline, hcolumn]

theorem Diagnostic.faithful : Faithful Diagnostic.toJson Diagnostic.ofJson? := by
  have hlocation := Location.faithful.optional nofun
  have hnotes := Json.faithful_text.list
  constructor
  case plain =>
    intro d
    simp [toJson, Json.plain_record, Severity.faithful.plain, Code.faithful.plain,
      Json.faithful_text.plain, hlocation.plain, hnotes.plain]
  case decode_encode =>
    intro d
    have hfields : Fields.of? ["severity", "code", "message", "location", "notes"] d.toJson =
        some ⟨false, _⟩ := Fields.of?_record rfl (by decide)
    unfold ofJson?
    rw [hfields]
    simp [Fields.required?, Fields.defaulted?, List.lookup_cons, Severity.faithful.decode_encode,
      Code.faithful.decode_encode, Json.faithful_text.decode_encode, hlocation.decode_encode,
      hnotes.decode_encode]

/-! ## Schemas -/

/-- An alias keeps its spelling, which is more than what makes it the same alias. -/
theorem Alias.faithful : Faithful Alias.toJson Alias.ofJson? := ⟨fun _ => rfl, fun _ => rfl⟩

theorem ContentKind.faithful : Faithful ContentKind.toJson ContentKind.ofJson? :=
  Json.faithful_variant fun k => by cases k <;> rfl

/-- An empty name to rename to is a text, and so it is not taken for none. -/
theorem Directives.faithful : Faithful Directives.toJson Directives.ofJson? := by
  have hrename := Json.faithful_text.optional nofun
  constructor
  case plain =>
    intro d
    simp [toJson, Json.plain_record, hrename.plain, Json.Plain]
  case decode_encode =>
    intro d
    have hfields : Fields.of? ["rename", "ignore"] d.toJson = some ⟨false, _⟩ :=
      Fields.of?_record rfl (by decide)
    unfold ofJson?
    rw [hfields]
    simp [Fields.defaulted?, List.lookup_cons, hrename.decode_encode, Json.bool?]

theorem Property.faithful : Faithful Property.toJson Property.ofJson? where
  plain p := by
    simp [toJson, Json.plain_record, Json.faithful_text.plain, Directives.faithful.plain]
  decode_encode p := by
    have hfields : Fields.of? ["alias", "editor", "value_type", "directives"] p.toJson =
        some ⟨false, _⟩ := Fields.of?_record rfl (by decide)
    unfold ofJson?
    rw [hfields]
    simp [Fields.required?, Fields.defaulted?, List.lookup_cons, Json.faithful_text.decode_encode,
      Directives.faithful.decode_encode]

theorem ContentType.faithful : Faithful ContentType.toJson ContentType.ofJson? := by
  have hproperties := Property.faithful.list
  have hmixins := Alias.faithful.list
  constructor
  case plain =>
    intro t
    simp [toJson, Json.plain_record, Alias.faithful.plain, ContentKind.faithful.plain,
      hproperties.plain, hmixins.plain, Directives.faithful.plain]
  case decode_encode =>
    intro t
    have hfields : Fields.of? ["alias", "kind", "properties", "mixins", "directives"] t.toJson =
        some ⟨false, _⟩ := Fields.of?_record rfl (by decide)
    unfold ofJson?
    rw [hfields]
    simp [Fields.required?, Fields.defaulted?, List.lookup_cons, Alias.faithful.decode_encode,
      ContentKind.faithful.decode_encode, hproperties.decode_encode, hmixins.decode_encode,
      Directives.faithful.decode_encode]

/-! ## Records of builds -/

theorem BuildVersion.faithful : Faithful BuildVersion.toJson BuildVersion.ofJson? :=
  Json.faithful_natural (fun v => v.number.toNat_lt) fun v => by rw [UInt64.ofNat_toNat]

theorem Digest.faithful : Faithful Digest.toJson Digest.ofJson? := by
  have hbytes : Faithful (fun b : UInt8 => Json.natural b.toNat)
      fun j => (j.below? UInt8.size).map UInt8.ofNat :=
    Json.faithful_natural (fun b => b.toNat_lt) fun b => UInt8.ofNat_toNat
  constructor
  case plain => exact fun d => hbytes.list.plain d.bytes.toList
  case decode_encode =>
    intro d
    unfold ofJson? toJson
    rw [hbytes.list.decode_encode d.bytes.toList, Option.bind_some, ofByteList?_toList]

theorem ModulePointer.faithful : Faithful ModulePointer.toJson ModulePointer.ofJson? where
  plain p := by
    simp [toJson, Json.plain_record, Json.faithful_text.plain, BuildVersion.faithful.plain]
  decode_encode p := by
    have hfields : Fields.of? ["location", "version"] p.toJson = some ⟨false, _⟩ :=
      Fields.of?_record rfl (by decide)
    unfold ofJson?
    rw [hfields]
    simp [Fields.required?, List.lookup_cons, Json.faithful_text.decode_encode,
      BuildVersion.faithful.decode_encode]

/-! ## All of them -/

/-- **A value is read back from its JSON**, compact or indented, with every part of it as it was: the
spelling of an alias as well as what makes it the same alias, an empty text as well as none, and
every number up to the greatest one. -/
theorem Json.forms_read_back :
    ReadsBack ContentType.toJson ContentType.ofJson? ∧
      ReadsBack Property.toJson Property.ofJson? ∧
      ReadsBack Directives.toJson Directives.ofJson? ∧
      ReadsBack ContentKind.toJson ContentKind.ofJson? ∧
      ReadsBack Alias.toJson Alias.ofJson? ∧
      ReadsBack Diagnostic.toJson Diagnostic.ofJson? ∧
      ReadsBack Location.toJson Location.ofJson? ∧
      ReadsBack Code.toJson Code.ofJson? ∧
      ReadsBack Category.toJson Category.ofJson? ∧
      ReadsBack Severity.toJson Severity.ofJson? ∧
      ReadsBack ModulePointer.toJson ModulePointer.ofJson? ∧
      ReadsBack BuildVersion.toJson BuildVersion.ofJson? ∧
      ReadsBack Digest.toJson Digest.ofJson? :=
  ⟨ContentType.faithful.readsBack, Property.faithful.readsBack, Directives.faithful.readsBack,
    ContentKind.faithful.readsBack, Alias.faithful.readsBack, Diagnostic.faithful.readsBack,
    Location.faithful.readsBack, Code.faithful.readsBack, Category.faithful.readsBack,
    Severity.faithful.readsBack, ModulePointer.faithful.readsBack,
    BuildVersion.faithful.readsBack, Digest.faithful.readsBack⟩

end ModelCache
