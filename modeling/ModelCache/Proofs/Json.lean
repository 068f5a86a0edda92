import Mathlib.Data.List.TakeDrop
import ModelCache.Json.Reader
import ModelCache.Json.Writer
import ModelCache.Proofs.Text

/-!
# JSON texts are read back

Between the parts of a value there may be any blanks, so that one value has many texts. `Spells` says
which texts are of which value, for values that a text is written for at all. The reader is shown to
understand every such text, and a writer only has to be shown to write one.

* **`string?_escaped`** and **`number?_decimalDigits`** — strings and numbers are read back.
* **`Spells.value?_eq`** — a text of a value is read as that value, whatever comes behind it.
* **`read_indented`** and **`read_compact`** — what is written in either form is read back.
-/

namespace ModelCache.Json

/-! ## Strings -/

/-- The piece that a character is written as. -/
def pieceOf (c : Char) : Piece :=
  if c.toNat < 0x20 ∧ c ∉ ['\x08', '\x0c', '\n', '\r', '\t'] then .unit c.toNat else .char c

theorem hexUnit?_hexDigit : ∀ n : Fin 32,
    hexUnit? '0' '0' (Text.hexDigit (n / 16)) (Text.hexDigit (n % 16)) = some n.val := by decide

/-- A character with an escape of one letter. -/
theorem pieces?_short {c e : Char} (he : e ≠ 'u') (h : shortEscape? e = some c) (rest : List Char) :
    pieces? ('\\' :: e :: rest) = (pieces? rest).map fun (ps, r) => (.char c :: ps, r) := by
  have hescape : pieces? ('\\' :: e :: rest) =
      (shortEscape? e).bind fun c => (pieces? rest).bind fun (ps, r) => some (.char c :: ps, r) := by
    rw [pieces?]
    · rfl
    · intro a b c d rest' heq
      exact fun _ => absurd heq he
  rw [hescape, h, Option.bind_some]
  cases pieces? rest <;> rfl

theorem pieces?_escapeChar (c : Char) (rest : List Char) :
    pieces? (escapeChar c ++ rest) = (pieces? rest).map fun (ps, r) => (pieceOf c :: ps, r) := by
  unfold escapeChar
  split
  case isTrue h => subst h; exact pieces?_short (by decide) rfl rest
  case isFalse hquote =>
  split
  case isTrue h => subst h; exact pieces?_short (by decide) rfl rest
  case isFalse hslash =>
  split
  case isTrue h => subst h; exact pieces?_short (by decide) rfl rest
  case isFalse hback =>
  split
  case isTrue h => subst h; exact pieces?_short (by decide) rfl rest
  case isFalse hfeed =>
  split
  case isTrue h => subst h; exact pieces?_short (by decide) rfl rest
  case isFalse hline =>
  split
  case isTrue h => subst h; exact pieces?_short (by decide) rfl rest
  case isFalse hreturn =>
  split
  case isTrue h => subst h; exact pieces?_short (by decide) rfl rest
  case isFalse htab =>
  split
  case isTrue hcontrol =>
    have hunit := hexUnit?_hexDigit ⟨c.toNat, hcontrol⟩
    have hpiece : pieceOf c = .unit c.toNat := by
      simp [pieceOf, hcontrol, hback, hfeed, hline, hreturn, htab]
    cases hrest : pieces? rest <;> simp [pieces?, hunit, hrest, hpiece]
  case isFalse hcontrol =>
    have hpiece : pieceOf c = .char c := by simp [pieceOf, hcontrol]
    cases hrest : pieces? rest <;> simp [pieces?, hslash, hcontrol, hrest, hpiece]

theorem spell?_unit {u : Nat} (hleading : isLeading u = false) (htrailing : isTrailing u = false)
    (ps : List Piece) : spell? (.unit u :: ps) = (spell? ps).map (Char.ofNat u :: ·) := by
  cases ps with
  | nil => simp [spell?, hleading, htrailing]
  | cons p rest =>
    cases p with
    | char c => simp [spell?, hleading, htrailing]
    | unit v => simp [spell?, hleading, htrailing]

theorem spell?_pieceOf (c : Char) (ps : List Piece) :
    spell? (pieceOf c :: ps) = (spell? ps).map (c :: ·) := by
  unfold pieceOf
  split
  case isTrue h =>
    have hlt := h.1
    have hleading : isLeading c.toNat = false := by simp [isLeading]; omega
    have htrailing : isTrailing c.toNat = false := by simp [isTrailing]; omega
    rw [spell?_unit hleading htrailing, Char.ofNat_toNat]
  case isFalse => rw [spell?]

/-- **A string is read back.** -/
theorem string?_escaped (s : String) (rest : List Char) :
    string? (s.toList.flatMap escapeChar ++ '"' :: rest) = some (some s, rest) := by
  have hpieces (cs : List Char) :
      pieces? (cs.flatMap escapeChar ++ '"' :: rest) = some (cs.map pieceOf, rest) := by
    induction cs with
    | nil => rfl
    | cons c cs ih =>
      rw [List.flatMap_cons, List.append_assoc, pieces?_escapeChar, ih]
      rfl
  have hspell (cs : List Char) : spell? (cs.map pieceOf) = some cs := by
    induction cs with
    | nil => rfl
    | cons c cs ih =>
      rw [List.map_cons, spell?_pieceOf, ih]
      rfl
  rw [string?, hpieces, Option.map_some]
  dsimp only
  rw [hspell, Option.map_some, String.ofList_toList]

/-! ## Numbers -/

/-- A number ends before these characters. -/
def Stops (cs : List Char) : Prop :=
  ∀ c ∈ cs.head?, c.isDigit = false ∧ c ≠ '.' ∧ c ≠ 'e' ∧ c ≠ 'E'

theorem digitChar_ne_zero : ∀ n : Fin 10, n.val ≠ 0 → n.val.digitChar ≠ '0' := by decide

theorem head?_decimalDigits {n : Nat} (h : n ≠ 0) : (Text.decimalDigits n).head? ≠ some '0' := by
  unfold Text.decimalDigits
  induction n using Nat.strongRecOn with
  | ind n ih =>
    by_cases hn : n < 10
    · rw [Nat.toDigits_of_lt_base hn, List.head?_cons]
      exact fun heq => digitChar_ne_zero ⟨n, hn⟩ h (Option.some.inj heq)
    · have hfirst := ih (n / 10) (by omega) (by omega)
      rw [Nat.toDigits_of_base_le (by decide) (by omega), List.head?_append]
      cases hdigits : Nat.toDigits 10 (n / 10) with
      | nil => exact absurd hdigits Nat.toDigits_ne_nil
      | cons c rest => rwa [hdigits] at hfirst

/-- **A number is read back.** -/
theorem number?_decimalDigits (n : Nat) {rest : List Char} (h : Stops rest) :
    number? (Text.decimalDigits n ++ rest) = some (.natural n, rest) := by
  have hdigit := fun c => Text.isDigit_of_mem_decimalDigits (n := n) (c := c)
  have hspan : digits? (Text.decimalDigits n ++ rest) = some (Text.decimalDigits n, rest) := by
    have hstop : rest.takeWhile Char.isDigit = [] ∧ rest.dropWhile Char.isDigit = rest := by
      cases rest with
      | nil => exact ⟨rfl, rfl⟩
      | cons c cs => simp [(h c rfl).1]
    rw [digits?, List.span_eq_takeWhile_dropWhile, List.takeWhile_append_of_pos hdigit,
      List.dropWhile_append_of_pos hdigit, hstop.1, hstop.2, List.append_nil]
    cases hdigits : Text.decimalDigits n with
    | nil => exact absurd hdigits Nat.toDigits_ne_nil
    | cons => rfl
  have hwhole : whole? (Text.decimalDigits n ++ rest) = some (Text.decimalDigits n, rest) := by
    have hzero : ¬ ((Text.decimalDigits n).head? = some '0' ∧ (Text.decimalDigits n).length ≠ 1) := by
      rintro ⟨hhead, hlength⟩
      by_cases hn : n = 0
      · exact hlength (by rw [hn]; rfl)
      · exact head?_decimalDigits hn hhead
    simp only [whole?, hspan, Option.bind_eq_bind, Option.bind_some, if_neg hzero]
    rfl
  have hfraction : fraction? rest = some ([], rest) := by
    cases rest with
    | nil => rfl
    | cons c cs => simp [fraction?, (h c rfl).2.1]
  have hexponent : exponent? rest = some ([], rest) := by
    cases rest with
    | nil => rfl
    | cons c cs => simp [exponent?, (h c rfl).2.2.1, (h c rfl).2.2.2]
  have hsign : ∀ cs, Text.decimalDigits n ++ rest ≠ '-' :: cs := by
    intro cs heq
    cases hdigits : Text.decimalDigits n with
    | nil => exact absurd hdigits Nat.toDigits_ne_nil
    | cons c ds =>
      rw [hdigits, List.cons_append, List.cons.injEq] at heq
      have hminus := hdigit '-' (by rw [hdigits, heq.1]; exact List.mem_cons_self)
      cases hminus
  unfold number?
  split
  case h_1 sign cs heq =>
    have hsigned : ([], Text.decimalDigits n ++ rest) = (sign, cs) := by
      rw [← heq]
      split
      case h_1 cs' hminus => exact absurd hminus (hsign cs')
      case h_2 => rfl
    cases hsigned
    simp only [hwhole, hfraction, hexponent, Option.bind_eq_bind, Option.bind_some]
    rw [if_pos ⟨trivial, trivial, trivial⟩, Text.decimal?_decimalDigits]
    rfl

/-! ## Texts of a value -/

/-- Nothing but blanks. -/
def Blank (cs : List Char) : Prop := ∀ c ∈ cs, isSpace c = true

mutual

/-- A text is one of a value. -/
inductive Spells : List Char → Json → Prop where
  | null : Spells ['n', 'u', 'l', 'l'] .null
  | yes : Spells ['t', 'r', 'u', 'e'] (.bool true)
  | no : Spells ['f', 'a', 'l', 's', 'e'] (.bool false)
  | natural (n : Nat) : Spells (Text.decimalDigits n) (.natural n)
  | string (s : String) : Spells (quote s) (.string (some s))
  | emptyArray : Spells ['[', ']'] (.array [])
  | array {cs : List Char} {items : List Json} (h : SpellsItems cs items) :
      Spells ('[' :: (cs ++ [']'])) (.array items)
  | emptyObject : Spells ['\x7b', '\x7d'] (.object [])
  | object {cs : List Char} {members : List (Option String × Json)} (h : SpellsMembers cs members) :
      Spells ('\x7b' :: (cs ++ ['\x7d'])) (.object members)

/-- A text is one of some items, of which there is at least one. -/
inductive SpellsItems : List Char → List Json → Prop where
  | last {before cs after : List Char} {item : Json} (hbefore : Blank before) (h : Spells cs item)
      (hafter : Blank after) : SpellsItems (before ++ (cs ++ after)) [item]
  | more {before cs after rest : List Char} {item : Json} {items : List Json}
      (hbefore : Blank before) (h : Spells cs item) (hafter : Blank after)
      (hrest : SpellsItems rest items) :
      SpellsItems (before ++ (cs ++ (after ++ ',' :: rest))) (item :: items)

/-- A text is one of some members, of which there is at least one. -/
inductive SpellsMembers : List Char → List (Option String × Json) → Prop where
  | last {before between cs after : List Char} {name : String} {value : Json}
      (hbefore : Blank before) (hbetween : Blank between) (h : Spells cs value)
      (hafter : Blank after) :
      SpellsMembers (before ++ (quote name ++ ':' :: (between ++ (cs ++ after))))
        [(some name, value)]
  | more {before between cs after rest : List Char} {name : String} {value : Json}
      {members : List (Option String × Json)} (hbefore : Blank before) (hbetween : Blank between)
      (h : Spells cs value) (hafter : Blank after) (hrest : SpellsMembers rest members) :
      SpellsMembers (before ++ (quote name ++ ':' :: (between ++ (cs ++ (after ++ ',' :: rest)))))
        ((some name, value) :: members)

end

/-! ### Blanks are skipped -/

theorem skipSpace_append {blanks : List Char} (h : Blank blanks) (cs : List Char) :
    skipSpace (blanks ++ cs) = skipSpace cs :=
  List.dropWhile_append_of_pos h

theorem skipSpace_cons {c : Char} (h : isSpace c = false) (cs : List Char) :
    skipSpace (c :: cs) = c :: cs := by
  rw [skipSpace, List.dropWhile_cons, h, if_neg Bool.false_ne_true]

theorem skipSpace_skipSpace (cs : List Char) : skipSpace (skipSpace cs) = skipSpace cs := by
  unfold skipSpace
  induction cs with
  | nil => rfl
  | cons c cs ih =>
    rw [List.dropWhile_cons]
    split
    · exact ih
    · next h => rw [List.dropWhile_cons, if_neg h]

theorem value?_skipSpace (fuel : Nat) (cs : List Char) :
    value? fuel (skipSpace cs) = value? fuel cs := by
  cases fuel with
  | zero => rfl
  | succ fuel => rw [value?, value?, skipSpace_skipSpace]

theorem items?_skipSpace (fuel : Nat) (cs : List Char) :
    items? fuel (skipSpace cs) = items? fuel cs := by
  cases fuel with
  | zero => rfl
  | succ fuel => rw [items?, items?, value?_skipSpace]

theorem members?_skipSpace (fuel : Nat) (cs : List Char) :
    members? fuel (skipSpace cs) = members? fuel cs := by
  cases fuel with
  | zero => rfl
  | succ fuel => rw [members?, members?, skipSpace_skipSpace]

/-! ### The reader understands every text -/

theorem exists_decimalDigits (n : Nat) :
    ∃ c cs, Text.decimalDigits n = c :: cs ∧ c.isDigit = true := by
  cases hdigits : Text.decimalDigits n with
  | nil => exact absurd hdigits Nat.toDigits_ne_nil
  | cons c cs =>
    have hdigit := Text.isDigit_of_mem_decimalDigits (n := n) (c := c)
      (by rw [hdigits]; exact List.mem_cons_self)
    exact ⟨c, cs, rfl, hdigit⟩

theorem isSpace_of_isDigit {c : Char} (h : c.isDigit = true) : isSpace c = false := by
  refine Bool.eq_false_iff.mpr fun hspace => ?_
  simp only [isSpace, Bool.or_eq_true, decide_eq_true_eq] at hspace
  rcases hspace with ((rfl | rfl) | rfl) | rfl <;> cases h

/-- A value does not begin with a blank or a closing bracket. -/
theorem Spells.head {cs : List Char} {j : Json} (h : Spells cs j) :
    ∃ c rest, cs = c :: rest ∧ isSpace c = false ∧ c ≠ ']' := by
  cases h with
  | natural n =>
    obtain ⟨c, rest, hcs, hdigit⟩ := exists_decimalDigits n
    refine ⟨c, rest, hcs, isSpace_of_isDigit hdigit, ?_⟩
    rintro rfl
    cases hdigit
  | null | yes | no | string | emptyArray | array | emptyObject | object =>
    exact ⟨_, _, rfl, by decide, by decide⟩

theorem Spells.skipSpace_eq {cs : List Char} {j : Json} (h : Spells cs j) (rest : List Char) :
    skipSpace (cs ++ rest) = cs ++ rest := by
  obtain ⟨c, cs', rfl, hspace, -⟩ := h.head
  exact skipSpace_cons hspace _

theorem SpellsItems.skipSpace_ne {cs : List Char} {items : List Json} (h : SpellsItems cs items)
    (rest rest' : List Char) : skipSpace (cs ++ rest) ≠ ']' :: rest' := by
  have hfirst {before cs after : List Char} {item : Json} (hbefore : Blank before)
      (h : Spells cs item) : skipSpace (before ++ (cs ++ after)) ≠ ']' :: rest' := by
    obtain ⟨c, cs', rfl, hspace, hne⟩ := h.head
    rw [skipSpace_append hbefore, List.cons_append, skipSpace_cons hspace]
    exact fun heq => hne (List.cons.inj heq).1
  cases h with
  | last hbefore h =>
    rw [List.append_assoc, List.append_assoc]
    exact hfirst hbefore h
  | more hbefore h =>
    rw [List.append_assoc, List.append_assoc]
    exact hfirst hbefore h

theorem SpellsMembers.skipSpace_ne {cs : List Char} {members : List (Option String × Json)}
    (h : SpellsMembers cs members) (rest rest' : List Char) :
    skipSpace (cs ++ rest) ≠ '\x7d' :: rest' := by
  cases h with
  | last hbefore | more hbefore =>
    rw [List.append_assoc, skipSpace_append hbefore]
    exact fun heq => absurd (List.cons.inj heq).1 (by decide)

theorem stops_blank {after : List Char} (hafter : Blank after) {c : Char} (hc : c.isDigit = false)
    (hc' : c ≠ '.' ∧ c ≠ 'e' ∧ c ≠ 'E') (rest : List Char) : Stops (after ++ c :: rest) := by
  cases after with
  | nil =>
    rintro _ ⟨⟩
    exact ⟨hc, hc'⟩
  | cons d ds =>
    rintro _ ⟨⟩
    have hspace := hafter d List.mem_cons_self
    simp only [isSpace, Bool.or_eq_true, decide_eq_true_eq] at hspace
    rcases hspace with ((rfl | rfl) | rfl) | rfl <;> decide

theorem value?_decimalDigits (n fuel : Nat) {rest : List Char} (h : Stops rest) :
    value? (fuel + 1) (Text.decimalDigits n ++ rest) = some (.natural n, rest) := by
  have hnumber := number?_decimalDigits n h
  have hskip := (Spells.natural n).skipSpace_eq rest
  obtain ⟨c, cs, hcs, hdigit⟩ := exists_decimalDigits n
  rw [hcs] at hnumber hskip ⊢
  rw [value?, hskip]
  split
  case h_7 => exact hnumber
  all_goals
    next heq =>
      rw [List.cons_append, List.cons.injEq] at heq
      rw [heq.1] at hdigit
      cases hdigit

theorem value?_quote (fuel : Nat) (s : String) (rest : List Char) :
    value? (fuel + 1) (quote s ++ rest) = some (.string (some s), rest) := by
  have hopen : value? (fuel + 1) (quote s ++ rest) =
      (string? (s.toList.flatMap escapeChar ++ ['"'] ++ rest)).map
        fun found => (.string found.1, found.2) := rfl
  rw [hopen, List.append_assoc, List.singleton_append, string?_escaped]
  rfl

theorem value?_array (fuel : Nat) {rest : List Char} (h : ∀ r, skipSpace rest ≠ ']' :: r) :
    value? (fuel + 1) ('[' :: rest) =
      (items? fuel rest).map fun found => (.array found.1, found.2) := by
  rw [value?, skipSpace_cons (by decide)]
  split
  case h_5 rest' heq =>
    rw [(List.cons.inj heq).2] at h ⊢
    split
    case h_1 r heq => exact absurd heq (h r)
    case h_2 => rw [items?_skipSpace]
  case h_7 hbracket _ => exact absurd rfl (hbracket rest)
  all_goals
    next heq => exact absurd (List.cons.inj heq).1 (by decide)

theorem value?_object (fuel : Nat) {rest : List Char} (h : ∀ r, skipSpace rest ≠ '\x7d' :: r) :
    value? (fuel + 1) ('\x7b' :: rest) =
      (members? fuel rest).map fun found => (.object found.1, found.2) := by
  rw [value?, skipSpace_cons (by decide)]
  split
  case h_6 rest' heq =>
    rw [(List.cons.inj heq).2] at h ⊢
    split
    case h_1 r heq => exact absurd heq (h r)
    case h_2 => rw [members?_skipSpace]
  case h_7 hbracket => exact absurd rfl (hbracket rest)
  all_goals
    next heq => exact absurd (List.cons.inj heq).1 (by decide)

section Items

variable {fuel : Nat} {cs rest after : List Char} {item : Json}

theorem items?_last (h : value? fuel cs = some (item, after ++ ']' :: rest)) (hafter : Blank after) :
    items? (fuel + 1) cs = some ([item], rest) := by
  rw [items?, h, Option.bind_eq_bind, Option.bind_some]
  dsimp only
  rw [skipSpace_append hafter, skipSpace_cons (by decide)]
  rfl

theorem items?_more (h : value? fuel cs = some (item, after ++ ',' :: rest)) (hafter : Blank after) :
    items? (fuel + 1) cs = (items? fuel rest).map fun found => (item :: found.1, found.2) := by
  rw [items?, h, Option.bind_eq_bind, Option.bind_some]
  dsimp only
  rw [skipSpace_append hafter, skipSpace_cons (by decide)]
  show (items? fuel rest).bind (fun found => some (item :: found.1, found.2)) = _
  cases items? fuel rest <;> rfl

/-- A member ends at the closing brace or at the comma in front of the next one. -/
theorem members?_quote (h : value? fuel cs = some (item, after)) (name : String) :
    (∀ r, skipSpace after = '\x7d' :: r →
        members? (fuel + 1) (quote name ++ ':' :: cs) = some ([(some name, item)], r)) ∧
      ∀ r, skipSpace after = ',' :: r →
        members? (fuel + 1) (quote name ++ ':' :: cs) =
          (members? fuel r).map fun found => ((some name, item) :: found.1, found.2) := by
  refine ⟨fun r hr => ?_, fun r hr => ?_⟩
  all_goals
    rw [members?, quote, List.cons_append, skipSpace_cons (by decide)]
    split
    case h_2 hquote => exact absurd rfl (hquote _)
    case' h_1 named heq =>
      rw [← (List.cons.inj heq).2, List.append_assoc, List.singleton_append, string?_escaped,
        Option.bind_eq_bind, Option.bind_some]
      dsimp only
      rw [skipSpace_cons (by decide)]
      split
    case h_2 hcolon => exact absurd rfl (hcolon _)
    case' h_1 behind heq =>
      rw [← (List.cons.inj heq).2, h, Option.bind_eq_bind, Option.bind_some]
      dsimp only
      rw [hr]
  · rfl
  · show (members? fuel r).bind (fun found => some ((some name, item) :: found.1, found.2)) = _
    cases members? fuel r <;> rfl

theorem members?_last (h : value? fuel cs = some (item, after ++ '\x7d' :: rest))
    (hafter : Blank after) (name : String) :
    members? (fuel + 1) (quote name ++ ':' :: cs) = some ([(some name, item)], rest) := by
  refine (members?_quote h name).1 rest ?_
  rw [skipSpace_append hafter, skipSpace_cons (by decide)]

theorem members?_more (h : value? fuel cs = some (item, after ++ ',' :: rest)) (hafter : Blank after)
    (name : String) :
    members? (fuel + 1) (quote name ++ ':' :: cs) =
      (members? fuel rest).map fun found => ((some name, item) :: found.1, found.2) := by
  refine (members?_quote h name).2 rest ?_
  rw [skipSpace_append hafter, skipSpace_cons (by decide)]

end Items

mutual

/-- **A text of a value is read as that value**, whatever comes behind it. -/
theorem Spells.value?_eq {cs : List Char} {j : Json} (h : Spells cs j) {fuel : Nat}
    (hfuel : cs.length < fuel) {rest : List Char} (hrest : Stops rest) :
    value? fuel (cs ++ rest) = some (j, rest) := by
  obtain ⟨fuel, rfl⟩ : ∃ n, fuel = n + 1 := ⟨fuel - 1, by omega⟩
  match h with
  | .null | .yes | .no | .emptyArray | .emptyObject => rfl
  | .natural n => exact value?_decimalDigits n fuel hrest
  | .string s => exact value?_quote fuel s rest
  | .array h =>
    rw [List.length_cons, List.length_append, List.length_singleton] at hfuel
    rw [List.cons_append, List.append_assoc, List.singleton_append, value?_array fuel
      (h.skipSpace_ne _), h.items?_eq (by omega)]
    rfl
  | .object h =>
    rw [List.length_cons, List.length_append, List.length_singleton] at hfuel
    rw [List.cons_append, List.append_assoc, List.singleton_append, value?_object fuel
      (h.skipSpace_ne _), h.members?_eq (by omega)]
    rfl

theorem SpellsItems.items?_eq {cs : List Char} {items : List Json} (h : SpellsItems cs items)
    {fuel : Nat} (hfuel : cs.length + 1 < fuel) (rest : List Char) :
    items? fuel (cs ++ ']' :: rest) = some (items, rest) := by
  obtain ⟨fuel, rfl⟩ : ∃ n, fuel = n + 1 := ⟨fuel - 1, by omega⟩
  match h with
  | .last hbefore h hafter =>
    simp only [List.length_append] at hfuel
    simp only [List.append_assoc]
    rw [← items?_skipSpace, skipSpace_append hbefore, items?_skipSpace]
    have hstops := stops_blank hafter (c := ']') (by decide) (by decide) rest
    exact items?_last (h.value?_eq (by omega) hstops) hafter
  | @SpellsItems.more _ _ _ more _ _ hbefore h hafter hmore =>
    simp only [List.length_append, List.length_cons] at hfuel
    simp only [List.append_assoc, List.cons_append]
    rw [← items?_skipSpace, skipSpace_append hbefore, items?_skipSpace]
    have hstops := stops_blank hafter (c := ',') (by decide) (by decide) (more ++ ']' :: rest)
    rw [items?_more (h.value?_eq (by omega) hstops) hafter, hmore.items?_eq (by omega) rest]
    rfl

theorem SpellsMembers.members?_eq {cs : List Char} {members : List (Option String × Json)}
    (h : SpellsMembers cs members) {fuel : Nat} (hfuel : cs.length + 1 < fuel) (rest : List Char) :
    members? fuel (cs ++ '\x7d' :: rest) = some (members, rest) := by
  obtain ⟨fuel, rfl⟩ : ∃ n, fuel = n + 1 := ⟨fuel - 1, by omega⟩
  match h with
  | @SpellsMembers.last _ _ _ _ name _ hbefore hbetween h hafter =>
    simp only [List.length_append, List.length_cons] at hfuel
    simp only [List.append_assoc, List.cons_append]
    rw [← members?_skipSpace, skipSpace_append hbefore, members?_skipSpace]
    have hstops := stops_blank hafter (c := '\x7d') (by decide) (by decide) rest
    have hvalue : value? fuel _ = _ := h.value?_eq (by omega) hstops
    rw [← value?_skipSpace, ← skipSpace_append hbetween, value?_skipSpace] at hvalue
    exact members?_last hvalue hafter name
  | @SpellsMembers.more _ _ _ _ more name _ _ hbefore hbetween h hafter hmore =>
    simp only [List.length_append, List.length_cons] at hfuel
    simp only [List.append_assoc, List.cons_append]
    rw [← members?_skipSpace, skipSpace_append hbefore, members?_skipSpace]
    have hstops := stops_blank hafter (c := ',') (by decide) (by decide) (more ++ '\x7d' :: rest)
    have hvalue : value? fuel _ = _ := h.value?_eq (by omega) hstops
    rw [← value?_skipSpace, ← skipSpace_append hbetween, value?_skipSpace] at hvalue
    rw [members?_more hvalue hafter name, hmore.members?_eq (by omega) rest]
    rfl

end

/-- **A text of a value is a text of no other one.** -/
theorem Spells.readChars_eq {cs : List Char} {j : Json} (h : Spells cs j) :
    readChars cs = some j := by
  have hvalue : value? (cs.length + 1) (cs ++ []) = some (j, []) :=
    h.value?_eq (Nat.lt_succ_self _) nofun
  rw [List.append_nil] at hvalue
  rw [readChars, hvalue]
  rfl

/-! ## The indented form -/

mutual

/-- A value without numerals other than numbers, and in which every string has a text. -/
def Plain : Json → Prop
  | .null | .bool _ | .natural _ => True
  | .numeral _ => False
  | .string s => s.isSome = true
  | .array items => PlainItems items
  | .object members => PlainMembers members

def PlainItems : List Json → Prop
  | [] => True
  | item :: rest => Plain item ∧ PlainItems rest

def PlainMembers : List (Option String × Json) → Prop
  | [] => True
  | (name, value) :: rest => name.isSome = true ∧ Plain value ∧ PlainMembers rest

end

theorem blank_newLine (depth : Nat) : Blank (newLine depth) := by
  intro c hc
  rcases List.mem_cons.mp hc with rfl | hc
  · rfl
  · rw [List.eq_of_mem_replicate hc]
    rfl

theorem blank_nil : Blank [] := fun _ hc => absurd hc List.not_mem_nil

theorem blank_space : Blank [' '] := by
  intro c hc
  rw [List.mem_singleton.mp hc]
  rfl

mutual

theorem spells_indented (depth : Nat) (j : Json) (h : j.Plain) : Spells (indentedChars depth j) j := by
  match j with
  | .null => exact .null
  | .bool true => exact .yes
  | .bool false => exact .no
  | .natural n => exact .natural n
  | .numeral s => exact h.elim
  | .string none => cases h
  | .string (some s) => exact .string s
  | .array [] => exact .emptyArray
  | .array (item :: rest) =>
    have hitems := spellsItems_indented (depth + 1) (item :: rest) h (List.cons_ne_nil _ _)
      (blank_newLine depth)
    rw [indentedChars, ← List.append_assoc]
    exact .array hitems
  | .object [] => exact .emptyObject
  | .object (member :: rest) =>
    have hmembers := spellsMembers_indented (depth + 1) (member :: rest) h (List.cons_ne_nil _ _)
      (blank_newLine depth)
    rw [indentedChars, ← List.append_assoc]
    exact .object hmembers

theorem spellsItems_indented (depth : Nat) (items : List Json) (h : PlainItems items)
    (hne : items ≠ []) {after : List Char} (hafter : Blank after) :
    SpellsItems (indentedItems depth items ++ after) items := by
  match items with
  | [] => exact absurd rfl hne
  | [item] =>
    rw [indentedItems, List.append_assoc]
    exact .last (blank_newLine depth) (spells_indented depth item h.1) hafter
  | item :: next :: rest =>
    have hrest := spellsItems_indented depth (next :: rest) h.2 (List.cons_ne_nil _ _) hafter
    rw [indentedItems, List.append_assoc, List.append_assoc, List.cons_append]
    exact .more (blank_newLine depth) (spells_indented depth item h.1) blank_nil hrest

theorem spellsMembers_indented (depth : Nat) (members : List (Option String × Json))
    (h : PlainMembers members) (hne : members ≠ []) {after : List Char} (hafter : Blank after) :
    SpellsMembers (indentedMembers depth members ++ after) members := by
  match members with
  | [] => exact absurd rfl hne
  | (none, _) :: _ => cases h.1
  | [(some name, value)] =>
    have hvalue := spells_indented depth value h.2.1
    simp only [indentedMembers, quoteName, Option.getD_some, List.append_assoc, List.cons_append]
    exact .last (blank_newLine depth) blank_space hvalue hafter
  | (some name, value) :: next :: rest =>
    have hvalue := spells_indented depth value h.2.1
    have hrest := spellsMembers_indented depth (next :: rest) h.2.2 (List.cons_ne_nil _ _) hafter
    simp only [indentedMembers, quoteName, Option.getD_some, List.append_assoc, List.cons_append]
    exact .more (blank_newLine depth) blank_space hvalue blank_nil hrest

end

/-- **What is written in the indented form is read back.** -/
theorem read_indented {j : Json} (h : j.Plain) : read j.indented = some j := by
  rw [read, indented, String.toList_ofList]
  exact (spells_indented 0 j h).readChars_eq

/-! ## The compact form -/

mutual

theorem spells_compact (j : Json) (h : j.Plain) : Spells (compactChars j) j := by
  match j with
  | .null => exact .null
  | .bool true => exact .yes
  | .bool false => exact .no
  | .natural n => exact .natural n
  | .numeral s => exact h.elim
  | .string none => cases h
  | .string (some s) => exact .string s
  | .array [] => exact .emptyArray
  | .array (item :: rest) =>
    exact .array (spellsItems_compact (item :: rest) h (List.cons_ne_nil _ _))
  | .object [] => exact .emptyObject
  | .object (member :: rest) =>
    exact .object (spellsMembers_compact (member :: rest) h (List.cons_ne_nil _ _))

theorem spellsItems_compact (items : List Json) (h : PlainItems items) (hne : items ≠ []) :
    SpellsItems (compactItems items) items := by
  match items with
  | [] => exact absurd rfl hne
  | [item] =>
    have hitem : SpellsItems ([] ++ (compactChars item ++ [])) [item] :=
      .last blank_nil (spells_compact item h.1) blank_nil
    rwa [List.append_nil] at hitem
  | item :: next :: rest =>
    have hrest := spellsItems_compact (next :: rest) h.2 (List.cons_ne_nil _ _)
    exact .more blank_nil (spells_compact item h.1) blank_nil hrest

theorem spellsMembers_compact (members : List (Option String × Json)) (h : PlainMembers members)
    (hne : members ≠ []) : SpellsMembers (compactMembers members) members := by
  match members with
  | [] => exact absurd rfl hne
  | (none, _) :: _ => cases h.1
  | [(some name, value)] =>
    have hmember : SpellsMembers ([] ++ (quote name ++ ':' :: ([] ++ (compactChars value ++ []))))
        [(some name, value)] := .last blank_nil blank_nil (spells_compact value h.2.1) blank_nil
    rwa [List.append_nil] at hmember
  | (some name, value) :: next :: rest =>
    have hrest := spellsMembers_compact (next :: rest) h.2.2 (List.cons_ne_nil _ _)
    exact .more blank_nil blank_nil (spells_compact value h.2.1) blank_nil hrest

end

/-- **What is written in the compact form is read back.** -/
theorem read_compact {j : Json} (h : j.Plain) : read j.compact = some j := by
  rw [read, compact, String.toList_ofList]
  exact (spells_compact j h).readChars_eq

end ModelCache.Json
