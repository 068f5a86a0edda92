import ModelCache.Text.Line

/-!
# What the lines of a text are

A line ends at the first line feed, and a carriage return directly before the line feed belongs to its
end. The last line may lack an end, but then it is not empty. These rules take a text apart in one way
only, and that is how `lines` takes it apart.

* **`LineEnd`** — how a line ends.
* **`Lined`** — the lines that a text consists of, by these rules alone.
* **`lined_iff`** — `lines` gives these lines and no others.
-/

namespace ModelCache.Text

variable {c : Char} {line ending rest cs : List Char} {ls : List (List Char)}

/-! ## The rules -/

/-- How a line ends, and what can come behind its end. -/
inductive LineEnd (line : List Char) : (ending rest : List Char) → Prop where
  /-- A line feed alone: there is no carriage return in front that belongs to it. -/
  | feed (rest : List Char) (h : line.getLast? ≠ some '\r') : LineEnd line ['\n'] rest
  | returnFeed (rest : List Char) : LineEnd line ['\r', '\n'] rest
  /-- The text ends before the line does. -/
  | missing (h : line ≠ []) : LineEnd line [] []

/-- The lines that a text consists of. -/
inductive Lined : List Char → List (List Char) → Prop where
  | nil : Lined [] []
  | cons {line ending rest : List Char} {ls : List (List Char)} (hline : '\n' ∉ line)
      (hend : LineEnd line ending rest) (hrest : Lined rest ls) :
      Lined (line ++ (ending ++ rest)) (line :: ls)

theorem Lined.not_mem (h : Lined cs ls) (hmem : line ∈ ls) : '\n' ∉ line := by
  induction h with
  | nil => cases hmem
  | cons hline _ _ ih =>
    rcases List.mem_cons.mp hmem with rfl | hmem
    · exact hline
    · exact ih hmem

/-! ## One line after the other -/

/-- A character in front of a line belongs to it, unless it is or begins an end. -/
theorem lines_cons (hc : c ≠ '\n') (hend : c = '\r' → cs.head? ≠ some '\n')
    (hlines : lines cs = line :: ls) : lines (c :: cs) = (c :: line) :: ls := by
  rw [lines, hlines]
  · exact hc
  · rintro rest rfl rfl
    exact hend rfl rfl

theorem lines_singleton (hc : c ≠ '\n') : lines [c] = [[c]] := by
  rw [lines, lines]
  · exact hc
  · intro rest _ heq
    cases heq

/-- **What ends as a line does is the first line.** -/
theorem lines_of_lineEnd (hline : '\n' ∉ line) (h : LineEnd line ending rest) :
    lines (line ++ (ending ++ rest)) = line :: lines rest := by
  induction line with
  | nil =>
    cases h with
    | feed => exact lines.eq_2 rest
    | returnFeed => exact lines.eq_3 rest
    | missing hne => exact absurd rfl hne
  | cons c line ih =>
    have hc : c ≠ '\n' := fun heq => hline (heq ▸ List.mem_cons_self)
    have hline' : '\n' ∉ line := fun hmem => hline (List.mem_cons_of_mem c hmem)
    have hhead : line.head? ≠ some '\n' := fun heq => hline' (List.mem_of_head? heq)
    cases h with
    | feed _ hlast =>
      cases line with
      | nil =>
        -- the line feed is next, and so the character is no carriage return
        refine lines_cons hc (fun hreturn => absurd ?_ hlast) (lines.eq_2 rest)
        rw [hreturn]
        rfl
      | cons c' line =>
        rw [List.getLast?_cons_cons] at hlast
        exact lines_cons hc (fun _ => hhead) (ih hline' (.feed rest hlast))
    | returnFeed =>
      refine lines_cons hc (fun _ => ?_) (ih hline' (.returnFeed rest))
      cases line with
      | nil => exact nofun
      | cons => exact hhead
    | missing =>
      cases line with
      | nil => exact lines_singleton hc
      | cons c' line =>
        exact lines_cons hc (fun _ => hhead) (ih hline' (.missing (List.cons_ne_nil _ _)))

theorem lines_of_lined (h : Lined cs ls) : lines cs = ls := by
  induction h with
  | nil => rw [lines]
  | cons hline hend _ ih => rw [lines_of_lineEnd hline hend, ih]

/-! ## Every text consists of lines -/

/-- A line ends as it did when a character is put in front of it. -/
theorem LineEnd.cons (h : LineEnd line ending rest)
    (hend : c = '\r' → (line ++ (ending ++ rest)).head? ≠ some '\n') :
    LineEnd (c :: line) ending rest := by
  cases h with
  | feed _ hlast =>
    refine .feed rest ?_
    cases line with
    | nil => exact fun heq => hend (Option.some.inj heq) rfl
    | cons c' line => rwa [List.getLast?_cons_cons]
  | returnFeed => exact .returnFeed rest
  | missing => exact .missing (List.cons_ne_nil _ _)

theorem Lined.cons_char (h : Lined cs (line :: ls)) (hc : c ≠ '\n')
    (hend : c = '\r' → cs.head? ≠ some '\n') : Lined (c :: cs) ((c :: line) :: ls) := by
  cases h with
  | cons hline hlineEnd hrest =>
    refine .cons ?_ (hlineEnd.cons hend) hrest
    rw [List.mem_cons, not_or]
    exact ⟨Ne.symm hc, hline⟩

theorem lined_lines (cs : List Char) : Lined cs (lines cs) := by
  induction cs using lines.induct with
  | case1 => rw [lines]; exact .nil
  | case2 rest ih =>
    rw [lines]
    exact .cons List.not_mem_nil (.feed rest nofun) ih
  | case3 rest ih =>
    rw [lines]
    exact .cons List.not_mem_nil (.returnFeed rest) ih
  | case4 c rest hc hend hnone ih =>
    rw [hnone] at ih
    cases ih
    rw [lines_singleton hc]
    exact .cons (fun hmem => hc (List.mem_singleton.mp hmem).symm) (.missing (List.cons_ne_nil _ _)) .nil
  | case5 c rest hc hend line ls hlines ih =>
    have hend' : c = '\r' → rest.head? ≠ some '\n' := by
      intro hreturn hfeed
      obtain ⟨others, rfl⟩ := List.head?_eq_some_iff.mp hfeed
      exact hend others hreturn rfl
    rw [hlines] at ih
    rw [lines_cons hc hend' hlines]
    exact ih.cons_char hc hend'

/-- **The lines of a text are what the rules say**, and the rules leave no choice. -/
theorem lined_iff : Lined cs ls ↔ lines cs = ls :=
  ⟨lines_of_lined, fun h => h ▸ lined_lines cs⟩

end ModelCache.Text
