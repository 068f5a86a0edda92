import ModelCache.FileTree
import ModelCache.Proofs.Path

/-!
# What file operations leave alone

A text that can be read stays readable through operations that are about other files. Three things
could go wrong, and each is dealt with once:

* The way to the file could be cut. **`follow_mono`** — a way leads through directories alone, so it
  stays open as long as these stay. **`follow_prune`** — removing a file cuts no way, because no way
  leads through a file.
* The file itself could be another one's place. **`EndsIn`** — a plain name can be told from the end
  of the place that it leads to, so files with different plain names are at different places,
  whatever directories they are in.
* The content could change. **`get?_put`** and **`get?_prune`** say what stands where afterwards.

**`FileOp.keeps_write`** and **`FileOp.keeps_remove`** put them together for one operation, and
**`FileOp.readText_runWhileOk`** for a list of them. Nor does an operation bring forth a file that it
is not about: **`FileOp.get?_of_run`**.
-/

namespace ModelCache.FileTree

variable {t t' : FileTree} {a b : Address}

/-! ## What stands at a place -/

theorem ne_nil_of_get? (h : t.get? a ≠ some .directory) : a ≠ [] := by
  rintro rfl
  exact h rfl

/-- A list of places in which one place has got another entry. -/
theorem lookup_replace (entries : List (Address × Entry)) (a b : Address) (e : Entry) :
    (entries.map fun (c, old) => if c = a then (c, e) else (c, old)).lookup b =
      if b = a then (entries.lookup b).map fun _ => e else entries.lookup b := by
  induction entries with
  | nil => simp
  | cons entry rest ih =>
    obtain ⟨c, old⟩ := entry
    rw [List.map_cons]
    by_cases hbc : b = c
    · subst hbc
      by_cases hba : b = a <;> simp [hba]
    · have hbeq : (b == c) = false := by simpa using hbc
      by_cases hca : c = a <;> simp [hca, List.lookup_cons, hbeq, ih]
      subst hca
      simp [hbc, hbeq]

theorem lookup_filter (entries : List (Address × Entry)) (keep : Address → Bool) (b : Address) :
    (entries.filter fun (c, _) => keep c).lookup b =
      if keep b then entries.lookup b else none := by
  induction entries with
  | nil => simp
  | cons entry rest ih =>
    obtain ⟨c, old⟩ := entry
    by_cases hbc : b = c
    · subst hbc
      cases hkeep : keep b <;> simp [hkeep, ih]
    · have hbeq : (b == c) = false := by simpa using hbc
      cases hkeep : keep c <;> simp [hkeep, List.lookup_cons, hbeq, ih]

/-- What stands at a place after something was put at one. -/
theorem get?_put (t : FileTree) (ha : a ≠ []) (e : Entry) :
    (t.put a e).get? b = if b = a then some e else t.get? b := by
  by_cases hb : b = []
  · subst hb
    rw [if_neg ha.symm]
    rfl
  · unfold get?
    rw [if_neg hb, if_neg hb]
    unfold put
    split
    case isTrue hany =>
      -- the place has an entry, which is replaced
      rw [lookup_replace]
      by_cases hba : b = a
      · subst hba
        rw [if_pos rfl, if_pos rfl]
        obtain ⟨old, hold⟩ : ∃ old, t.entries.lookup b = some old := by
          rw [← Option.isSome_iff_exists, List.lookup_isSome_iff]
          simpa [BEq.comm] using hany
        rw [hold]
        rfl
      · rw [if_neg hba, if_neg hba]
    case isFalse hany =>
      -- the place has none yet and gets one behind all others
      rw [List.lookup_append]
      by_cases hba : b = a
      · subst hba
        have hnone : t.entries.lookup b = none := by
          rw [List.lookup_eq_none_iff]
          intro entry hentry
          rw [bne_iff_ne]
          rintro rfl
          exact hany (List.any_eq_true.mpr ⟨entry, hentry, BEq.rfl⟩)
        simp [hnone]
      · have hbeq : (b == a) = false := by simpa using hba
        simp [hba, List.lookup_cons, hbeq]

/-- What stands at a place after one was taken away with all that is below it. -/
theorem get?_prune (t : FileTree) (a : Address) (hb : b ≠ []) :
    (t.prune a).get? b = if a <+: b then none else t.get? b := by
  have hfilter := lookup_filter t.entries (fun c => !a.isPrefixOf c) b
  unfold get? prune
  rw [if_neg hb, if_neg hb]
  refine hfilter.trans ?_
  by_cases h : a <+: b
  · rw [if_pos h, List.isPrefixOf_iff_prefix.mpr h]
    rfl
  · have hfalse : a.isPrefixOf b = false := by
      rw [← Bool.not_eq_true, List.isPrefixOf_iff_prefix]
      exact h
    rw [if_neg h, hfalse]
    rfl

theorem get?_of_get?_prune {e : Entry} (h : (t.prune a).get? b = some e) : t.get? b = some e := by
  by_cases hb : b = []
  · subst hb
    exact h
  · rw [get?_prune t a hb] at h
    split at h
    · cases h
    · exact h

/-! ## Following a way -/

theorem follow_cons {cs : List Path.Component} {c : Path.Component} {x : Address}
    (h : t.follow a (c :: cs) = .ok x) :
    t.get? a = some .directory ∧ ∃ b, step a c = .ok b ∧ t.follow b cs = .ok x := by
  rw [follow] at h
  split at h
  case h_1 => cases h
  case h_2 => cases h
  case h_3 hdirectory =>
    split at h
    case h_1 => cases h
    case h_2 b hstep => exact ⟨hdirectory, b, hstep, h⟩

theorem follow_step {cs : List Path.Component} {c : Path.Component}
    (hdirectory : t.get? a = some .directory) (hstep : step a c = .ok b) :
    t.follow a (c :: cs) = t.follow b cs := by
  rw [follow, hdirectory]
  dsimp only
  rw [hstep]

/-- **A way stays open as long as its directories stay.** -/
theorem follow_mono (h : ∀ x, t.get? x = some .directory → t'.get? x = some .directory)
    {cs : List Path.Component} {x : Address} (hfollow : t.follow a cs = .ok x) :
    t'.follow a cs = .ok x := by
  induction cs generalizing a with
  | nil => exact hfollow
  | cons c rest ih =>
    obtain ⟨hdirectory, b, hstep, hrest⟩ := follow_cons hfollow
    rw [follow_step (h a hdirectory) hstep]
    exact ih hrest

/-- A step from outside what is below a place does not lead below it, only to the place itself. -/
theorem step_of_not_below {c : Path.Component} {x y : Address} (hx : ¬ b <+: x) (hb : b ≠ [])
    (hstep : step x c = .ok y) : b <+: y → y = b := by
  intro hbelow
  unfold step at hstep
  split at hstep
  case h_1 =>
    cases hstep
    exact absurd (List.prefix_nil.mp hbelow) hb
  case h_2 =>
    cases hstep
    exact absurd hbelow hx
  case h_3 =>
    cases hstep
    exact absurd (hbelow.trans (List.dropLast_prefix x)) hx
  case h_4 n =>
    split at hstep
    · cases hstep
    · cases hstep
      rcases List.prefix_concat_iff.mp hbelow with heq | hbelow
      · exact heq.symm
      · exact absurd hbelow hx

/-- **Removing a file cuts no way.** No way leads through a file, so one that starts outside of what
is below the file stays outside, unless it ends at the file itself. -/
theorem follow_prune {content : List UInt8} (hfile : t.get? b = some (.file content))
    (hstart : b <+: a → a = b) {cs : List Path.Component} {x : Address}
    (hfollow : t.follow a cs = .ok x) : (t.prune b).follow a cs = .ok x ∧ (b <+: x → x = b) := by
  have hb : b ≠ [] := ne_nil_of_get? (by rw [hfile]; nofun)
  induction cs generalizing a with
  | nil =>
    cases hfollow
    exact ⟨rfl, hstart⟩
  | cons c rest ih =>
    obtain ⟨hdirectory, d, hstep, hrest⟩ := follow_cons hfollow
    -- the way goes on from a directory, so it has not come to the file
    have hoff : ¬ b <+: a := fun hbelow => by
      rw [hstart hbelow, hfile] at hdirectory
      cases hdirectory
    have hdirectory' : (t.prune b).get? a = some .directory := by
      by_cases ha : a = []
      · subst ha
        rfl
      · rw [get?_prune t b ha, if_neg hoff]
        exact hdirectory
    rw [follow_step hdirectory' hstep]
    exact ih (step_of_not_below hoff hb hstep) hrest

/-- The last step of a way is made from a directory. -/
theorem follow_concat {cs : List Path.Component} {c : Path.Component} {x : Address}
    (h : t.follow a (cs ++ [c]) = .ok x) :
    ∃ b, t.follow a cs = .ok b ∧ t.get? b = some .directory ∧ step b c = .ok x := by
  induction cs generalizing a with
  | nil =>
    obtain ⟨hdirectory, b, hstep, hnil⟩ := follow_cons h
    cases hnil
    exact ⟨a, rfl, hdirectory, hstep⟩
  | cons d rest ih =>
    obtain ⟨hdirectory, b, hstep, hrest⟩ := follow_cons h
    obtain ⟨e, hfollow, hlast⟩ := ih hrest
    exact ⟨e, (follow_step hdirectory hstep).trans hfollow, hlast⟩

/-! ## Where a path leads -/

theorem locate_eq_ok {p : Path} (h : t.locate p = .ok a) :
    checkSpelling p = .ok () ∧
      ∃ start rest, enter p.components = .ok (start, rest) ∧ t.follow start rest = .ok a := by
  unfold locate at h
  cases hspelling : checkSpelling p with
  | error f => rw [hspelling] at h; cases h
  | ok u =>
    cases henter : enter p.components with
    | error f => rw [hspelling, henter] at h; cases h
    | ok entered =>
      rw [hspelling, henter] at h
      exact ⟨rfl, entered.1, entered.2, rfl, h⟩

theorem locate_of_follow {p : Path} {start : Address} {rest : List Path.Component}
    (hspelling : checkSpelling p = .ok ()) (henter : enter p.components = .ok (start, rest)) :
    t.locate p = t.follow start rest := by
  unfold locate
  rw [hspelling, henter]
  rfl

/-- The place of a path stays the same as long as the directories stay. -/
theorem locate_mono (h : ∀ x, t.get? x = some .directory → t'.get? x = some .directory) {p : Path}
    (hlocate : t.locate p = .ok a) : t'.locate p = .ok a := by
  obtain ⟨hspelling, start, rest, henter, hfollow⟩ := locate_eq_ok hlocate
  rw [locate_of_follow hspelling henter]
  exact follow_mono h hfollow

/-- A place whose last name is the given one, or stands for the working directory of that name. -/
def EndsIn (name : String) (a : Address) : Prop :=
  ∃ above : Address, a = above ++ [name] ∨ a = above ++ ["/" ++ name]

/-- The end of a place tells the name, as no plain name has a slash in it. -/
theorem EndsIn.eq {name other : String} (h : EndsIn name a) (h' : EndsIn other a)
    (hname : PlainName name) (hother : PlainName other) : name = other := by
  -- the two forms of a place differ by a slash, which no plain name has
  have hslash {n m : String} (hn : PlainName n) : n ≠ "/" ++ m := by
    rintro rfl
    exact hn.noSlash (by simp)
  obtain ⟨above, h⟩ := h
  obtain ⟨above', h'⟩ := h'
  rcases h with rfl | rfl <;> rcases h' with h' | h' <;>
    have hlast := (List.append_inj_right' h' rfl) <;> rw [List.singleton_inj] at hlast
  · exact hlast
  · exact absurd hlast (hslash hname)
  · exact absurd hlast.symm (hslash hother)
  · have hchars := congrArg String.toList hlast
    exact String.toList_injective (by simpa using hchars)

theorem follow_name {cs : List Path.Component} {name : String} {x : Address}
    (h : t.follow a (cs ++ [.name name]) = .ok x) : ∃ above, x = above ++ [name] := by
  obtain ⟨b, _, _, hstep⟩ := follow_concat h
  rw [step] at hstep
  split at hstep
  · cases hstep
  · cases hstep
    exact ⟨b, rfl⟩

/-- A last name is entered with the rest of the way, unless the way starts with it. -/
theorem enter_name {cs rest : List Path.Component} {name : String} {start : Address}
    (h : enter (cs ++ [.name name]) = .ok (start, rest)) :
    start = working name ∧ rest = [] ∨ ∃ cs', rest = cs' ++ [.name name] := by
  induction cs with
  | nil =>
    rw [List.nil_append, enter] at h
    split at h
    · cases h
    · cases h
      exact .inl ⟨rfl, rfl⟩
  | cons c cs ih =>
    rw [List.cons_append] at h
    cases c with
    | root => cases h; exact .inr ⟨cs, rfl⟩
    | here => exact ih h
    | up => cases h
    | name n =>
      rw [enter] at h
      split at h
      · cases h
      · cases h
        exact .inr ⟨cs, rfl⟩

/-- **The place of a plain name ends in that name**, whatever directory it is in. -/
theorem locate_endsIn {dir : Path} {name : String} (hname : PlainName name)
    (h : t.locate (dir.join ⟨name⟩) = .ok a) : EndsIn name a := by
  obtain ⟨_, start, rest, henter, hfollow⟩ := locate_eq_ok h
  rw [Path.components_join dir hname] at henter
  rcases enter_name henter with ⟨rfl, rfl⟩ | ⟨cs, rfl⟩
  · cases hfollow
    exact ⟨temporary, .inr rfl⟩
  · obtain ⟨above, rfl⟩ := follow_name hfollow
    exact ⟨above, .inl rfl⟩

/-- A way starts at the top or at a working directory. -/
theorem enter_start {cs rest : List Path.Component} {start : Address}
    (h : enter cs = .ok (start, rest)) : start = [] ∨ ∃ n, start = working n := by
  induction cs with
  | nil => cases h; exact .inl rfl
  | cons c cs ih =>
    cases c with
    | root => cases h; exact .inl rfl
    | here => exact ih h
    | up => cases h
    | name n =>
      rw [enter] at h
      split at h
      · cases h
      · cases h
        exact .inr ⟨n, rfl⟩

/-- A file with a plain name is never above the place where a way starts. -/
theorem below_start {dir : Path} {name : String} {cs rest : List Path.Component}
    {start : Address} {content : List UInt8} (hname : PlainName name) (htmp : name ≠ "tmp")
    (hlocate : t.locate (dir.join ⟨name⟩) = .ok b) (hfile : t.get? b = some (.file content))
    (henter : enter cs = .ok (start, rest)) : b <+: start → start = b := by
  intro hbelow
  have hb : b ≠ [] := ne_nil_of_get? (by rw [hfile]; nofun)
  rcases enter_start henter with rfl | ⟨n, rfl⟩
  · exact absurd (List.prefix_nil.mp hbelow) hb
  · rcases List.prefix_concat_iff.mp hbelow with heq | hbelow
    · exact heq.symm
    · -- only the directory of temporary files itself is left
      rcases List.prefix_concat_iff.mp (show b <+: [] ++ ["tmp"] from hbelow) with heq | hnil
      · subst heq
        obtain ⟨above, heq | heq⟩ := locate_endsIn hname hlocate
        · exact absurd (List.singleton_inj.mp (List.append_inj_right' heq rfl)).symm htmp
        · have hchars := congrArg String.toList
            (List.singleton_inj.mp (List.append_inj_right' heq rfl))
          simp at hchars
      · exact absurd (List.prefix_nil.mp hnil) hb

/-- A path leads where it did after a file with a plain name was removed, and not below that file. -/
theorem locate_prune {dir p : Path} {name : String} {content : List UInt8} (hname : PlainName name)
    (htmp : name ≠ "tmp") (hfilePath : t.locate (dir.join ⟨name⟩) = .ok b)
    (hfile : t.get? b = some (.file content)) (hlocate : t.locate p = .ok a) :
    (t.prune b).locate p = .ok a ∧ (b <+: a → a = b) := by
  obtain ⟨hspelling, start, rest, henter, hfollow⟩ := locate_eq_ok hlocate
  rw [locate_of_follow hspelling henter]
  exact follow_prune hfile (below_start hname htmp hfilePath hfile henter) hfollow

/-! ## Reading, writing and removing -/

theorem readText_eq_ok {p : Path} {s : String} :
    t.readText p = .ok s ↔ ∃ a content, t.locate p = .ok a ∧ t.get? a = some (.file content) ∧
      namesDirectory p = false ∧ Text.ofUtf8? content = some s := by
  unfold readText readFile
  constructor
  · intro h
    cases hlocate : t.locate p with
    | error f => rw [hlocate] at h; cases h
    | ok a =>
      rw [hlocate] at h
      rcases hget : t.get? a with _ | _ | content
      · simp [hget, bind, Except.bind] at h
      · simp [hget, bind, Except.bind] at h
      · cases hdir : namesDirectory p with
        | true => simp [hget, hdir, bind, Except.bind] at h
        | false =>
          refine ⟨a, content, rfl, hget, rfl, ?_⟩
          cases htext : Text.ofUtf8? content with
          | none => simp [hget, hdir, htext, bind, Except.bind] at h
          | some s' =>
            simp only [hget, hdir, htext, bind, Except.bind, Bool.false_eq_true, if_false,
              Except.ok.injEq] at h
            rw [h]
  · rintro ⟨a, content, hlocate, hget, hdir, htext⟩
    simp [hlocate, hget, hdir, htext, bind, Except.bind]

theorem writeFile_eq_ok {p : Path} {content : List UInt8} (h : t.writeFile p content = .ok t') :
    ∃ a, t.locate p = .ok a ∧ t.get? a ≠ some .directory ∧ namesDirectory p = false ∧
      t' = t.put a (.file content) := by
  unfold writeFile at h
  cases hlocate : t.locate p with
  | error f => rw [hlocate] at h; cases h
  | ok a =>
    rw [hlocate] at h
    rcases hget : t.get? a with _ | _ | old <;> cases hdir : namesDirectory p <;>
      simp only [hget, hdir, bind, Except.bind, Bool.false_eq_true, if_false, if_true, reduceCtorEq,
        Except.ok.injEq] at h
    · exact ⟨a, rfl, by rw [hget]; nofun, rfl, h.symm⟩
    · exact ⟨a, rfl, by rw [hget]; nofun, rfl, h.symm⟩

theorem removeFile_eq_ok {p : Path} (h : t.removeFile p = .ok t') :
    ∃ a content, t.locate p = .ok a ∧ t.get? a = some (.file content) ∧ t' = t.prune a := by
  unfold removeFile at h
  cases hlocate : t.locate p with
  | error f => rw [hlocate] at h; cases h
  | ok a =>
    rw [hlocate] at h
    rcases hget : t.get? a with _ | _ | old <;> cases hdir : namesDirectory p <;>
      simp only [hget, hdir, bind, Except.bind, Bool.false_eq_true, if_false, if_true, reduceCtorEq,
        Except.ok.injEq] at h
    exact ⟨a, old, rfl, hget, h.symm⟩

/-- Writing replaces no directory, so the directories stay. -/
theorem get?_put_directory {content : List UInt8} (ha : t.get? a ≠ some .directory) :
    ∀ x, t.get? x = some .directory → (t.put a (.file content)).get? x = some .directory := by
  intro x hx
  rw [get?_put t (ne_nil_of_get? ha), if_neg]
  · exact hx
  · rintro rfl
    exact ha hx

/-- **What was written can be read.** -/
theorem readText_writeFile {p : Path} {s : String} (h : t.writeFile p (Text.utf8 s) = .ok t') :
    t'.readText p = .ok s := by
  obtain ⟨a, hlocate, hget, hdir, rfl⟩ := writeFile_eq_ok h
  rw [readText_eq_ok]
  refine ⟨a, Text.utf8 s, locate_mono (get?_put_directory hget) hlocate, ?_, hdir,
    Text.ofUtf8?_utf8 s⟩
  rw [get?_put t (ne_nil_of_get? hget), if_pos rfl]

/-! ### Making directories -/

/-- A tree that has everything that another one has. -/
def Grows (t t' : FileTree) : Prop := ∀ a e, t.get? a = some e → t'.get? a = some e

/-- A tree that has everything that another one has, and beyond that nothing but directories. -/
structure AddsDirectories (t t' : FileTree) : Prop where
  grows : t.Grows t'
  files : ∀ a content, t'.get? a = some (.file content) → t.get? a = some (.file content)

theorem AddsDirectories.refl (t : FileTree) : t.AddsDirectories t :=
  ⟨fun _ _ h => h, fun _ _ h => h⟩

theorem AddsDirectories.trans {t'' : FileTree} (h : t.AddsDirectories t')
    (h' : t'.AddsDirectories t'') : t.AddsDirectories t'' :=
  ⟨fun a e hget => h'.grows a e (h.grows a e hget),
    fun a content hget => h.files a content (h'.files a content hget)⟩

theorem addsDirectories_makeDirectory (h : t.makeDirectory a = .ok t') : t.AddsDirectories t' := by
  unfold makeDirectory at h
  split at h
  case h_1 => cases h; exact .refl t
  case h_2 => cases h
  case h_3 hnone =>
    cases h
    have ha : a ≠ [] := ne_nil_of_get? (by rw [hnone]; nofun)
    refine ⟨fun b e hget => ?_, fun b content hget => ?_⟩
    · rw [get?_put t ha, if_neg]
      · exact hget
      · rintro rfl
        rw [hnone] at hget
        cases hget
    · rw [get?_put t ha] at hget
      split at hget
      · cases hget
      · exact hget

theorem addsDirectories_makeDirectories (t : FileTree) (a : Address) (cs : List Path.Component) :
    t.AddsDirectories (t.makeDirectories a cs).2 := by
  induction cs generalizing t a with
  | nil =>
    rw [makeDirectories]
    split
    case h_1 hmade => exact addsDirectories_makeDirectory hmade
    case h_2 => exact .refl t
  | cons c rest ih =>
    rw [makeDirectories]
    split
    case h_1 => exact .refl t
    case h_2 hmade _ => exact addsDirectories_makeDirectory hmade
    case h_3 hmade _ => exact (addsDirectories_makeDirectory hmade).trans (ih _ _)

theorem addsDirectories_createDirectories (t : FileTree) (p : Path) :
    t.AddsDirectories (t.createDirectories p).2 := by
  unfold createDirectories
  dsimp only
  split
  case h_1 => exact .refl t
  case h_2 => exact .refl t
  case h_3 start rest _ _ =>
    have hmakes := addsDirectories_makeDirectories t start rest
    split
    case h_1 hmade => rwa [hmade] at hmakes
    case h_2 => exact hmakes

theorem Grows.readText (h : t.Grows t') {p : Path} {s : String} (hread : t.readText p = .ok s) :
    t'.readText p = .ok s := by
  obtain ⟨a, content, hlocate, hget, hdir, htext⟩ := readText_eq_ok.mp hread
  exact readText_eq_ok.mpr
    ⟨a, content, locate_mono (fun x => h x .directory) hlocate, h a _ hget, hdir, htext⟩

/-! ### Removing -/

/-- What can be read after something was taken away could be read before. -/
theorem readText_of_prune {p : Path} {s : String} (h : (t.prune a).readText p = .ok s) :
    t.readText p = .ok s := by
  obtain ⟨b, content, hlocate, hget, hdir, htext⟩ := readText_eq_ok.mp h
  exact readText_eq_ok.mpr
    ⟨b, content, locate_mono (fun x => get?_of_get?_prune) hlocate, get?_of_get?_prune hget, hdir,
      htext⟩

/-- A file that was removed cannot be read, nor could it be if removing it failed. -/
theorem readText_run_remove (t : FileTree) (p : Path) (s : String) :
    ((FileOp.remove p).run t).2.readText p ≠ .ok s := by
  intro h
  rw [FileOp.run] at h
  cases hremove : t.removeFile p with
  | ok t' =>
    rw [hremove] at h
    obtain ⟨a, content, hlocate, hget, rfl⟩ := removeFile_eq_ok hremove
    obtain ⟨b, content', hlocate', hget', _⟩ := readText_eq_ok.mp h
    -- the path still leads to where the file was, and nothing is there
    have hsame := locate_mono (fun x => get?_of_get?_prune) hlocate'
    rw [hlocate] at hsame
    cases hsame
    rw [get?_prune t a (ne_nil_of_get? (by rw [hget]; nofun)), if_pos (List.prefix_refl a)] at hget'
    cases hget'
  | error f =>
    rw [hremove] at h
    -- what can be read is a file, and removing a file does not fail
    obtain ⟨a, content, hlocate, hget, hdir, _⟩ := readText_eq_ok.mp h
    simp [removeFile, hlocate, hget, hdir, bind, Except.bind] at hremove

theorem readText_of_run_remove {p q : Path} {s : String}
    (h : ((FileOp.remove q).run t).2.readText p = .ok s) : t.readText p = .ok s := by
  rw [FileOp.run] at h
  cases hremove : t.removeFile q with
  | ok t' =>
    rw [hremove] at h
    obtain ⟨a, content, _, _, rfl⟩ := removeFile_eq_ok hremove
    exact readText_of_prune h
  | error f =>
    rw [hremove] at h
    exact h

end ModelCache.FileTree

namespace ModelCache.FileOp

open FileTree

/-! ## Operations that keep a text

An operation keeps a text at a path if it leaves the text readable there. A list of such operations
keeps it too, wherever the list is broken off. -/

/-- Whether a text at a path is still readable there after the operation. -/
def Keeps (op : FileOp) (p : Path) (s : String) : Prop :=
  ∀ t, t.readText p = .ok s → (op.run t).2.readText p = .ok s

theorem keeps_createDirectories (dir p : Path) (s : String) :
    (createDirectories dir).Keeps p s :=
  fun t h => (addsDirectories_createDirectories t dir).grows.readText h

/-- Writing the text again keeps it, even if the writing fails. -/
theorem keeps_write_self (p : Path) (s : String) : (write p (Text.utf8 s)).Keeps p s := by
  intro t h
  rw [run]
  cases hwrite : t.writeFile p (Text.utf8 s) with
  | ok t' => exact readText_writeFile hwrite
  | error f => exact h

section Names

variable {dir dir' : Path} {name other : String} (hname : PlainName name) (hother : PlainName other)
  (hne : other ≠ name) (s : String)

include hname hother hne

/-- Files with different plain names are at different places. -/
theorem locate_ne {t : FileTree} {a b : Address} (ha : t.locate (dir.join ⟨name⟩) = .ok a)
    (hb : t.locate (dir'.join ⟨other⟩) = .ok b) : a ≠ b := by
  rintro rfl
  exact hne ((locate_endsIn hother hb).eq (locate_endsIn hname ha) hother hname)

/-- **Writing a file of another name keeps a text.** -/
theorem keeps_write (content : List UInt8) :
    (write (dir'.join ⟨other⟩) content).Keeps (dir.join ⟨name⟩) s := by
  intro t h
  rw [run]
  cases hwrite : t.writeFile (dir'.join ⟨other⟩) content with
  | error f => exact h
  | ok t' =>
    obtain ⟨b, hlocate', hget', _, rfl⟩ := writeFile_eq_ok hwrite
    obtain ⟨a, old, hlocate, hget, hdir, htext⟩ := readText_eq_ok.mp h
    refine readText_eq_ok.mpr
      ⟨a, old, locate_mono (get?_put_directory hget') hlocate, ?_, hdir, htext⟩
    rw [get?_put t (ne_nil_of_get? hget'), if_neg (locate_ne hname hother hne hlocate hlocate')]
    exact hget

/-- **Removing a file of another name keeps a text.** -/
theorem keeps_remove (htmp : other ≠ "tmp") :
    (remove (dir'.join ⟨other⟩)).Keeps (dir.join ⟨name⟩) s := by
  intro t h
  rw [run]
  cases hremove : t.removeFile (dir'.join ⟨other⟩) with
  | error f => exact h
  | ok t' =>
    obtain ⟨b, removed, hlocate', hget', rfl⟩ := removeFile_eq_ok hremove
    obtain ⟨a, content, hlocate, hget, hdir, htext⟩ := readText_eq_ok.mp h
    -- the way to the text does not lead through the file that is removed
    obtain ⟨hpruned, hbelow⟩ := locate_prune hother htmp hlocate' hget' hlocate
    refine readText_eq_ok.mpr ⟨a, content, hpruned, ?_, hdir, htext⟩
    rw [get?_prune t b (ne_nil_of_get? (by rw [hget]; nofun)), if_neg]
    · exact hget
    · exact fun h => locate_ne hname hother hne hlocate hlocate' (hbelow h)

end Names

/-! ### Files that come anew -/

/-- The file that an operation writes or removes. Making directories is about none. -/
def file? : FileOp → Option Path
  | createDirectories _ => none
  | write p _ => some p
  | remove p => some p

/-- **A file that is there after an operation was there before**, unless it is the one that the
operation writes. -/
theorem get?_of_run {op : FileOp} {t : FileTree} {a : Address} {content : List UInt8}
    (h : (op.run t).2.get? a = some (.file content)) :
    t.get? a = some (.file content) ∨ ∃ p, op.file? = some p ∧ t.locate p = .ok a := by
  cases op with
  | createDirectories dir => exact .inl ((addsDirectories_createDirectories t dir).files a content h)
  | write p written =>
    rw [run] at h
    cases hwrite : t.writeFile p written with
    | error f => rw [hwrite] at h; exact .inl h
    | ok t' =>
      obtain ⟨b, hlocate, hget, _, rfl⟩ := writeFile_eq_ok hwrite
      rw [hwrite] at h
      dsimp only at h
      rw [get?_put t (ne_nil_of_get? hget)] at h
      split at h
      case isTrue hsame => exact .inr ⟨p, rfl, by rw [hsame]; exact hlocate⟩
      case isFalse => exact .inl h
  | remove p =>
    rw [run] at h
    cases hremove : t.removeFile p with
    | error f => rw [hremove] at h; exact .inl h
    | ok t' =>
      obtain ⟨b, removed, _, _, rfl⟩ := removeFile_eq_ok hremove
      rw [hremove] at h
      exact .inl (get?_of_get?_prune h)

/-! ### Several operations -/

/-- Operations up to the first one that fails are a first part of them, carried out whatever
happens. -/
theorem runWhileOk_eq_runEach (t : FileTree) (ops : List FileOp) :
    ∃ done, (runWhileOk t ops).2 = runEach t (ops.take done) := by
  induction ops generalizing t with
  | nil => exact ⟨0, rfl⟩
  | cons op rest ih =>
    rw [runWhileOk]
    rcases hrun : op.run t with ⟨_ | _, t'⟩
    · refine ⟨1, ?_⟩
      rw [List.take_succ_cons, List.take_zero, runEach, List.foldl_cons, hrun]
      rfl
    · obtain ⟨done, hdone⟩ := ih t'
      refine ⟨done + 1, hdone.trans ?_⟩
      rw [List.take_succ_cons, runEach, runEach, List.foldl_cons, hrun]

/-- Operations that keep a text keep it, whether others of them fail or not. -/
theorem readText_runEach {p : Path} {s : String} {ops : List FileOp}
    (hops : ∀ op ∈ ops, op.Keeps p s) {t : FileTree} (h : t.readText p = .ok s) :
    (runEach t ops).readText p = .ok s := by
  induction ops generalizing t with
  | nil => exact h
  | cons op rest ih =>
    exact ih (fun op' hop' => hops op' (List.mem_cons_of_mem op hop'))
      (hops op List.mem_cons_self t h)

/-- Operations that keep a text, up to the first one that fails, keep it. -/
theorem readText_runWhileOk {p : Path} {s : String} {ops : List FileOp}
    (hops : ∀ op ∈ ops, op.Keeps p s) {t : FileTree} (h : t.readText p = .ok s) :
    (runWhileOk t ops).2.readText p = .ok s := by
  obtain ⟨done, hdone⟩ := runWhileOk_eq_runEach t ops
  rw [hdone]
  exact readText_runEach (fun op hop => hops op (List.mem_of_mem_take hop)) h

end ModelCache.FileOp
