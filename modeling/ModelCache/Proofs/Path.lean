import ModelCache.Path

/-!
# Paths behind directories

A directory is spelled as its user likes, and so is a path that is taken from it. Joining keeps both
spellings, so what counts is what it does to the components:

* **`Path.onward`** — what a relative path adds behind a directory: its components, but for a dot at
  the start, which says nothing there.
* **`components_join_of_relative`** — the components of a relative path behind a directory, however
  the directory is spelled.
* **`PlainName`** — a name that is read as itself between slashes.
* **`components_join`** — such a name adds exactly one component, even where no directory is spelled,
  and is the file name (`fileName?_join`).
* **`extensionOf?_eq_some_iff`** — which names have a given extension.
-/

namespace ModelCache

/-- A name that is read as itself between slashes. -/
structure PlainName (name : String) : Prop where
  noSlash : '/' ∉ name.toList
  ne_nil : name.toList ≠ []
  ne_dot : name.toList ≠ ['.']
  ne_dots : name.toList ≠ ['.', '.']

namespace Path

variable {name : String} {p q : Path}

/-! ## Components -/

theorem piece?_of_plain (h : PlainName name) : piece? name.toList = some (.name name) := by
  unfold piece?
  split
  case h_1 heq => exact absurd heq h.ne_nil
  case h_2 heq => exact absurd heq h.ne_dot
  case h_3 heq => exact absurd heq h.ne_dots
  case h_4 => rw [String.ofList_toList]

/-- No piece between slashes stands for a dot at the start. -/
theorem ne_here_of_piece? {piece : List Char} {c : Component} (h : piece? piece = some c) :
    c ≠ .here := by
  unfold piece? at h
  split at h <;> cases h <;> nofun

/-- The components that a first piece stands for, alone or with others behind it. -/
def leading (first : List Char) (alone : Bool) : List Component :=
  if alone = false ∧ first = [] then [.root]
  else if first = ['.'] then [.here]
  else (piece? first).toList

theorem componentsOf_eq {cs first : List Char} {rest : List (List Char)}
    (h : cs.splitOn '/' = first :: rest) :
    componentsOf cs = leading first rest.isEmpty ++ rest.filterMap piece? := by
  unfold componentsOf leading
  rw [h]
  simp

/-- What stands behind a slash makes no difference to what stands in front of it. -/
theorem componentsOf_append (cs behind : List Char) {first : List Char} {rest : List (List Char)}
    (hcs : cs.splitOn '/' = first :: rest) :
    componentsOf (cs ++ '/' :: behind) =
      leading first false ++ rest.filterMap piece? ++ (behind.splitOn '/').filterMap piece? := by
  have hsplit : (cs ++ '/' :: behind).splitOn '/' = first :: (rest ++ behind.splitOn '/') := by
    rw [List.splitOn_append_cons_self, hcs]
    rfl
  have hmore : (rest ++ behind.splitOn '/').isEmpty = false := by
    rw [List.isEmpty_eq_false_iff]
    exact List.append_ne_nil_of_right_ne_nil _ (List.splitOn_ne_nil _ _)
  rw [componentsOf_eq hsplit, hmore, List.filterMap_append, List.append_assoc]

theorem eq_nil_of_splitOn {cs : List Char} (h : cs.splitOn '/' = [[]]) : cs = [] := by
  have hjoined : ['/'].intercalate (cs.splitOn '/') = cs := List.intercalate_splitOn '/'
  rw [h] at hjoined
  exact hjoined.symm

/-! ## Relative paths -/

/-- What a relative path adds behind a directory: a dot at the start says nothing there. -/
def onward (p : Path) : List Component := p.components.dropWhile (· = .here)

theorem not_isAbsolute_of_plain (h : PlainName name) : (Path.mk name).isAbsolute = false := by
  unfold isAbsolute
  cases hchars : name.toList with
  | nil => rfl
  | cons c rest =>
    have hc : c ≠ '/' := fun he => h.noSlash (by rw [hchars, he]; exact List.mem_cons_self)
    simpa using hc

/-- Nothing but a first piece that is alone is empty at the start of a relative path. -/
theorem rest_eq_nil_of_relative (h : p.isAbsolute = false) {rest : List (List Char)}
    (hsplit : p.text.toList.splitOn '/' = [] :: rest) : rest = [] := by
  have hjoined : ['/'].intercalate (p.text.toList.splitOn '/') = p.text.toList :=
    List.intercalate_splitOn '/'
  rw [hsplit] at hjoined
  cases rest with
  | nil => rfl
  | cons second more =>
    -- more pieces behind an empty first one make an absolute path
    unfold isAbsolute at h
    rw [← hjoined] at h
    simp [List.intercalate] at h

/-- A relative path adds what its pieces stand for. -/
theorem onward_of_relative (h : p.isAbsolute = false) :
    p.onward = (p.text.toList.splitOn '/').filterMap piece? := by
  unfold onward components
  cases hsplit : p.text.toList.splitOn '/' with
  | nil => exact absurd hsplit (List.splitOn_ne_nil _ _)
  | cons first rest =>
    have hkept (pieces : List (List Char)) :
        (pieces.filterMap piece?).dropWhile (· = .here) = pieces.filterMap piece? := by
      cases hpieces : pieces.filterMap piece? with
      | nil => rfl
      | cons c more =>
        obtain ⟨piece, -, hpiece⟩ :=
          List.mem_filterMap.mp (by rw [hpieces]; exact List.mem_cons_self)
        rw [List.dropWhile_cons, if_neg (by simpa using ne_here_of_piece? hpiece)]
    rw [componentsOf_eq hsplit]
    unfold leading
    by_cases hdot : first = ['.']
    · subst hdot
      rw [if_neg (by simp), if_pos rfl, List.filterMap_cons]
      exact hkept rest
    · rw [if_neg, if_neg hdot]
      · have hpieces := hkept (first :: rest)
        rw [List.filterMap_cons] at hpieces ⊢
        cases hfirst : piece? first with
        | none => rw [hfirst] at hpieces; exact hpieces
        | some c => rw [hfirst] at hpieces; exact hpieces
      · rintro ⟨halone, rfl⟩
        rw [rest_eq_nil_of_relative h hsplit] at halone
        cases halone

/-! ## Joining -/

/-- How a relative path is written behind a directory: alone if the directory is spelled with
nothing, and otherwise behind exactly one more slash than what is left of the spelling. -/
theorem text_join (dir : Path) (h : q.isAbsolute = false) :
    (dir.text.toList = [] ∧ (dir.join q).text.toList = q.text.toList) ∨
      ∃ cs : List Char, (dir.text.toList = cs ++ ['/'] ∨ dir.text.toList = cs ∧ cs ≠ []) ∧
        (dir.join q).text.toList = cs ++ '/' :: q.text.toList := by
  unfold join
  rw [if_neg (by rw [h]; exact Bool.false_ne_true)]
  -- a slash is added unless the directory's spelling has one at its end
  cases hlast : dir.text.toList.getLast? with
  | none =>
    have hnil : dir.text.toList = [] := List.getLast?_eq_none_iff.mp hlast
    have hempty : dir.text = "" := String.toList_eq_nil_iff.mp hnil
    refine .inl ⟨hnil, ?_⟩
    rw [hempty]
    simp
  | some c =>
    obtain ⟨cs, hcs⟩ := List.getLast?_eq_some_iff.mp hlast
    have hne : dir.text.isEmpty = false := by
      rw [String.isEmpty_eq_false_iff]
      intro hempty
      rw [hempty] at hcs
      simp at hcs
    refine .inr ?_
    by_cases hc : c = '/'
    · subst hc
      refine ⟨cs, .inl hcs, ?_⟩
      simp [hne, hcs]
    · refine ⟨dir.text.toList, .inr ⟨rfl, by rw [hcs]; simp⟩, ?_⟩
      simp [hne, hc]

/-- **What a relative path adds to a directory**, if that is spelled with anything at all. -/
theorem components_join_of_relative {dir : Path} (hdir : dir.text ≠ "") (h : q.isAbsolute = false) :
    (dir.join q).components = dir.components ++ q.onward := by
  rw [onward_of_relative h]
  unfold components
  rcases text_join dir h with ⟨hnil, -⟩ | ⟨cs, hspelling, hjoined⟩
  · exact absurd (String.toList_eq_nil_iff.mp hnil) hdir
  · cases hcs : cs.splitOn '/' with
    | nil => exact absurd hcs (List.splitOn_ne_nil _ _)
    | cons first rest =>
      -- with or without a slash at the end, the pieces in front are the directory's
      rw [hjoined, componentsOf_append cs _ hcs]
      congr 1
      rcases hspelling with hspelling | ⟨hspelling, hne⟩
      · rw [hspelling, componentsOf_append cs [] hcs]
        simp [piece?]
      · rw [hspelling, componentsOf_eq hcs]
        -- an empty first piece that is alone would be an empty spelling
        have hleading : leading first rest.isEmpty = leading first false := by
          cases rest with
          | cons => rfl
          | nil =>
            unfold leading
            have hfirst : first ≠ [] := by
              rintro rfl
              exact hne (eq_nil_of_splitOn hcs)
            simp [hfirst]
        rw [hleading]

theorem join_of_absolute {dir : Path} (h : q.isAbsolute = true) : dir.join q = q := if_pos h

theorem join_of_empty {dir : Path} (h : dir.text = "") : dir.join q = q := by
  unfold join
  rw [h]
  split
  · rfl
  · simp

theorem components_of_plain (h : PlainName name) : (Path.mk name).components = [.name name] := by
  have hsplit := List.splitOn_eq_singleton h.noSlash
  unfold components
  rw [componentsOf_eq hsplit]
  unfold leading
  rw [if_neg (by simp), if_neg h.ne_dot, piece?_of_plain h]
  rfl

/-- **A plain name adds one component.** -/
theorem components_join (dir : Path) (h : PlainName name) :
    (dir.join ⟨name⟩).components = dir.components ++ [.name name] := by
  by_cases hdir : dir.text = ""
  · have hcomponents : dir.components = [] := by
      unfold components
      rw [hdir]
      rfl
    rw [join_of_empty hdir, components_of_plain h, hcomponents]
    rfl
  · rw [components_join_of_relative hdir (not_isAbsolute_of_plain h), onward,
      components_of_plain h]
    rfl

theorem fileName?_join (dir : Path) (h : PlainName name) :
    (dir.join ⟨name⟩).fileName? = some name := by
  unfold fileName?
  rw [components_join dir h, List.getLast?_concat]

/-! ## Extensions -/

/-- **What stands behind the last dot of a name is its extension**, so no extension has a dot in it,
and something stands in front of that dot. -/
theorem extensionOf?_eq_some_iff {extension : String} :
    extensionOf? name = some extension ↔
      '.' ∉ extension.toList ∧ ∃ stem, stem ≠ "" ∧ name = stem ++ "." ++ extension := by
  unfold extensionOf?
  dsimp only
  constructor
  · intro h
    split at h
    · cases h
    case isFalse hstem =>
      cases h
      have hparts := List.takeWhile_append_dropWhile (p := (· ≠ '.')) (l := name.toList.reverse)
      have hdotless : '.' ∉ name.toList.reverse.takeWhile (· ≠ '.') := fun hdot => by
        simpa using List.all_eq_true.mp List.all_takeWhile _ hdot
      cases hdrop : name.toList.reverse.dropWhile (· ≠ '.') with
      | nil => exact absurd (by rw [hdrop]; rfl) hstem
      | cons c rest =>
        -- the first character from behind that is not passed over is the dot
        have hdot : c = '.' := by
          have hhead := List.head?_dropWhile_not (· ≠ '.') name.toList.reverse
          rw [hdrop] at hhead
          simpa using hhead
        subst hdot
        rw [hdrop, List.drop_one, List.tail_cons] at hstem
        refine ⟨by simpa using hdotless, String.ofList rest.reverse, ?_, ?_⟩
        · intro hempty
          have hnil := congrArg String.toList hempty
          exact hstem (by simpa using hnil)
        · have hname := congrArg List.reverse hparts
          rw [hdrop, List.reverse_reverse] at hname
          apply String.toList_injective
          simpa using hname.symm
  · rintro ⟨hdotless, stem, hstem, rfl⟩
    have hchars : (stem ++ "." ++ extension).toList.reverse =
        extension.toList.reverse ++ '.' :: stem.toList.reverse := by
      simp
    have hpassed : ∀ c ∈ extension.toList.reverse, decide (c ≠ '.') = true := by
      intro c hc
      rw [decide_eq_true_eq]
      rintro rfl
      exact hdotless (List.mem_reverse.mp hc)
    have hstem' : stem.toList.reverse ≠ [] := by simpa using hstem
    rw [hchars, List.dropWhile_append_of_pos hpassed, List.takeWhile_append_of_pos hpassed]
    simp [hstem']

end Path

end ModelCache
