import Mathlib.Data.List.Forall2
import ModelCache.Diagnostic.Render
import ModelCache.Proofs.Text
import ModelCache.Proofs.Text.Line

/-!
# Rendered diagnostics quote the right line

A diagnostic with a place is rendered with the line of source text there. Whether it is, which line it
is, and where the caret below it stands is said here without the arithmetic that finds them.

* **`Quote`** and **`Quote.Points`** — three lines of output, and what they show: the line behind its
  number, and one caret with as many characters in front of it as the character at the column has.
* **`Rendered`** — a diagnostic as it is rendered: with a quote exactly if the text has the line.
* **`renderAll_quotes`** — diagnostics are rendered so, one after the other.
* **`quoted_outside`** — a text has no line at the number zero, but the number counts as one.
-/

namespace ModelCache.Diagnostic

/-! ## What a quote shows -/

/-- The three lines of output that quote a line of source text. -/
structure Quote where
  above : List Char
  quoted : List Char
  below : List Char

namespace Quote

def chars (q : Quote) : List Char := q.above ++ '\n' :: (q.quoted ++ '\n' :: (q.below ++ ['\n']))

def text (q : Quote) : String := String.ofList q.chars

/-- The line of a quote that the content stands in, and the caret that points into it. -/
structure Points (q : Quote) (l : Location) (content : List Char) : Prop where
  quoted : q.quoted = Text.decimalDigits l.line.toNat ++ (' ' :: '|' :: ' ' :: content)
  /-- The quote consists of three lines, and there is nothing but the caret and the gutter in the
  first and the third. -/
  above_blank : ∀ c ∈ q.above, c = ' ' ∨ c = '|'
  below_blank : ∀ c ∈ q.below, c = ' ' ∨ c = '|' ∨ c = '^'
  not_mem_quoted : '\n' ∉ q.quoted
  one_caret : q.below.count '^' = 1
  /-- Behind what is in front of the content, there are as many characters in front of the caret as in
  front of the column. -/
  aligned : q.below.idxOf '^' + content.length = q.quoted.length + (l.column.toNat - 1)
  /-- So the caret stands below the character at the column. -/
  pointed : q.quoted[q.below.idxOf '^']? = content[l.column.toNat - 1]?

end Quote

/-! ## What a diagnostic is rendered as -/

def heading (d : Diagnostic) : String := s!"{d.severity.word}[{d.code.text}]: {d.message}\n"

def placeLine (d : Diagnostic) : String :=
  (d.location.map fun l => "  --> " ++ l.text ++ "\n").getD ""

def noteLines (d : Diagnostic) : String :=
  String.join (d.notes.map fun note => s!"   = note: {note}\n")

/-- A text and the quote in it are what a diagnostic is rendered as if the source text has the given
lines. Lines count from one, and the number zero counts as one. -/
structure Rendered (ls : List (List Char)) (d : Diagnostic) (text : String) (quote : Option Quote) :
    Prop where
  text_eq : text = d.heading ++ d.placeLine ++ (quote.map Quote.text).getD "" ++ d.noteLines
  quotes_iff : quote.isSome = true ↔ ∃ l, d.location = some l ∧ max 1 l.line.toNat ≤ ls.length
  points : ∀ q ∈ quote, ∃ l content, d.location = some l ∧ ls[max 1 l.line.toNat - 1]? = some content ∧
    q.Points l content

/-! ## The quote that is made -/

/-- What stands in front of the caret. -/
def margin (l : Location) : List Char :=
  List.replicate (Text.decimalDigits l.line.toNat).length ' ' ++
    (' ' :: '|' :: ' ' :: List.replicate (l.column.toNat - 1) ' ')

/-- The quote of a line of source text. -/
def quoteOf (l : Location) (content : List Char) : Quote where
  above := List.replicate (Text.decimalDigits l.line.toNat).length ' ' ++ [' ', '|']
  quoted := Text.decimalDigits l.line.toNat ++ (' ' :: '|' :: ' ' :: content)
  below := margin l ++ ['^']

theorem text_quoteOf (l : Location) (content : List Char) :
    (quoteOf l content).text =
      quoteLine l.line.toNat l.column.toNat (String.ofList content) := by
  have hnumber : toString l.line.toNat = String.ofList (Text.decimalDigits l.line.toNat) :=
    Nat.toString_eq_ofList_toDigits
  rw [Quote.text, ← String.toList_inj, String.toList_ofList, quoteLine, hnumber]
  simp [Quote.chars, quoteOf, margin, spaces]

theorem mem_margin {l : Location} {c : Char} (h : c ∈ margin l) : c = ' ' ∨ c = '|' := by
  rw [margin, List.mem_append, List.mem_cons, List.mem_cons, List.mem_cons] at h
  rcases h with h | rfl | rfl | rfl | h
  · exact .inl (List.eq_of_mem_replicate h)
  · exact .inl rfl
  · exact .inr rfl
  · exact .inl rfl
  · exact .inl (List.eq_of_mem_replicate h)

theorem caret_not_mem_margin (l : Location) : '^' ∉ margin l := by
  intro h
  rcases mem_margin h with h | h <;> cases h

/-- The caret is the first character behind the margin. -/
theorem idxOf_below (l : Location) (content : List Char) :
    (quoteOf l content).below.idxOf '^' =
      (Text.decimalDigits l.line.toNat).length + 3 + (l.column.toNat - 1) := by
  show (margin l ++ ['^']).idxOf '^' = _
  rw [List.idxOf_append_of_notMem (caret_not_mem_margin l), List.idxOf_cons_self]
  simp [margin]
  omega

/-- **The quote shows the line and points at the column.** -/
theorem points_quoteOf {l : Location} {content : List Char} (h : '\n' ∉ content) :
    (quoteOf l content).Points l content where
  quoted := rfl
  above_blank c hc := by
    rcases List.mem_append.mp hc with hc | hc
    · exact .inl (List.eq_of_mem_replicate hc)
    · simpa using hc
  below_blank c hc := by
    rcases List.mem_append.mp hc with hc | hc
    · exact (mem_margin hc).imp_right .inl
    · exact .inr (.inr (List.mem_singleton.mp hc))
  not_mem_quoted := by
    intro hfeed
    rcases List.mem_append.mp hfeed with hdigit | hfeed
    · cases Text.isDigit_of_mem_decimalDigits hdigit
    · exact h (by simpa using hfeed)
  one_caret := by
    show (margin l ++ ['^']).count '^' = 1
    rw [List.count_append, List.count_eq_zero_of_not_mem (caret_not_mem_margin l)]
    rfl
  aligned := by
    rw [idxOf_below]
    simp only [quoteOf, List.length_append, List.length_cons]
    omega
  pointed := by
    rw [idxOf_below, Nat.add_assoc]
    show (Text.decimalDigits l.line.toNat ++ (' ' :: '|' :: ' ' :: content))[_]? = _
    rw [List.getElem?_append_right (Nat.le_add_right _ _), Nat.add_sub_cancel_left, Nat.add_comm 3]
    rfl

/-! ## Rendering -/

theorem sourceLine?_eq {source : String} {ls : List (List Char)}
    (h : Text.Lined source.toList ls) (n : Nat) :
    sourceLine? source n = (ls[n - 1]?).map String.ofList := by
  rw [sourceLine?, Text.lines_of_lined h]

/-- **A diagnostic is rendered as its text says**, with a quote if the text has the line. -/
theorem rendered_render {source : String} {ls : List (List Char)}
    (h : Text.Lined source.toList ls) (d : Diagnostic) :
    ∃ quote, Rendered ls d (render (some source) d) quote := by
  cases hlocation : d.location with
  | none =>
    refine ⟨none, ?_, ?_, nofun⟩
    · rw [render, placeLine, hlocation]
      simp [heading, noteLines]
    · simp [hlocation]
  | some l =>
    have hindex : max 1 l.line.toNat - 1 = l.line.toNat - 1 := by omega
    have hrender : render (some source) d = d.heading ++ d.placeLine ++
        ((ls[l.line.toNat - 1]?).map fun content => (quoteOf l content).text).getD "" ++
        d.noteLines := by
      have hquote : (fun content => (quoteOf l content).text) =
          quoteLine l.line.toNat l.column.toNat ∘ String.ofList :=
        funext fun content => text_quoteOf l content
      rw [render, placeLine, hlocation, hquote, ← Option.map_map, ← sourceLine?_eq h]
      simp [heading, noteLines, renderLocation, String.append_assoc]
    cases hline : ls[l.line.toNat - 1]? with
    | none =>
      rw [hline] at hrender
      refine ⟨none, hrender, ?_, nofun⟩
      have hlength := List.getElem?_eq_none_iff.mp hline
      simp [hlocation]
      omega
    | some content =>
      rw [hline] at hrender
      refine ⟨some (quoteOf l content), hrender, ?_, ?_⟩
      · have hlength := (List.getElem?_eq_some_iff.mp hline).1
        simp [hlocation]
        omega
      · rintro _ ⟨⟩
        refine ⟨l, content, hlocation, by rw [hindex, hline], points_quoteOf ?_⟩
        exact h.not_mem (List.mem_of_getElem? hline)

/-- **Diagnostics quote the right line.** Each is rendered with the line at its place, if the text has
one there, and with a caret below the column. -/
theorem renderAll_quotes {source : String} {ls : List (List Char)}
    (h : Text.Lined source.toList ls) (ds : List Diagnostic) :
    ∃ parts : List (String × Option Quote),
      renderAll (some source) ds = String.join (parts.map Prod.fst) ∧
      List.Forall₂ (fun d part => Rendered ls d part.1 part.2) ds parts := by
  choose quote hquote using rendered_render h
  refine ⟨ds.map fun d => (render (some source) d, quote d), ?_, ?_⟩
  · rw [renderAll, List.map_map]
    rfl
  · rw [List.forall₂_map_right_iff, List.forall₂_same]
    exact fun d _ => hquote d

/-- A line with a number of two digits, and one beyond the end of the text. -/
theorem renderAll_quotes_last :
    let source := "model Home\r\n\n\n\n\n\n\n\n\nprop Title: Text"
    let ls := "model Home".toList :: (List.replicate 8 [] ++ ["prop Title: Text".toList])
    let problem := plain .error ⟨.error, 412⟩ "unknown type"
    Text.Lined source.toList ls ∧
      ∃ (text text' : String) (quote : Quote),
        renderAll (some source) [problem.withLocation ⟨"unit.src", 10, 6⟩,
            problem.withLocation ⟨"unit.src", 11, 1⟩] = String.join [text, text'] ∧
          Rendered ls (problem.withLocation ⟨"unit.src", 10, 6⟩) text (some quote) ∧
          quote.quoted[quote.below.idxOf '^']? = some 'T' ∧
          Rendered ls (problem.withLocation ⟨"unit.src", 11, 1⟩) text' none := by
  intro source ls problem
  have hlined : Text.Lined source.toList ls := Text.lined_iff.mpr (by decide)
  refine ⟨hlined, ?_⟩
  obtain ⟨parts, htext, hparts⟩ := renderAll_quotes hlined
    [problem.withLocation ⟨"unit.src", 10, 6⟩, problem.withLocation ⟨"unit.src", 11, 1⟩]
  obtain _ | ⟨hfirst, hparts⟩ := hparts
  obtain _ | ⟨hsecond, hparts⟩ := hparts
  obtain _ | _ := hparts
  rename_i first second
  obtain ⟨text, _ | quote⟩ := first
  · cases hfirst.quotes_iff.mpr ⟨_, rfl, by decide⟩
  obtain ⟨text', _ | quote'⟩ := second
  · refine ⟨text, text', quote, htext, hfirst, ?_, hsecond⟩
    obtain ⟨l, content, hl, hline, hpoints⟩ := hfirst.points quote rfl
    cases hl
    cases hline
    exact hpoints.pointed
  · obtain ⟨l, hl, hle⟩ := hsecond.quotes_iff.mp rfl
    cases hl
    exact absurd hle (by decide)

/-- **A line is quoted for a place outside the text.** No line has the number zero. -/
theorem quoted_outside :
    let source := "model Home\n"
    let ls := ["model Home".toList]
    let l : Location := ⟨"unit.src", 0, 1⟩
    let d := (plain .error ⟨.error, 412⟩ "unknown type").withLocation l
    Text.Lined source.toList ls ∧ ¬ (1 ≤ l.line.toNat ∧ l.line.toNat ≤ ls.length) ∧
      render (some source) d =
        d.heading ++ d.placeLine ++ "  |\n0 | model Home\n  | ^\n" ++ d.noteLines :=
  ⟨Text.lined_iff.mpr (by decide), by decide, by decide +kernel⟩

end ModelCache.Diagnostic
