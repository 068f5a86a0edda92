import ModelCache.Proofs.FileTree

/-!
# Files in a directory that is there

A file with a plain name, in a directory that is there, can always be written, and it can be removed
if it is there. The tree that comes of it differs from the one before in that file alone.

* **`createDirectories_of_isDirectory`** — making the directory once more changes nothing.
* **`Finds`** — a path can be followed, and what stands at its end, if anything does. This tells an
  end where nothing stands from a path that leads nowhere.
* **`Replaces`** — another tree, in which something else stands at the end of one path.
* **`replaces_write`** and **`replaces_remove`** — what is written then stands there, and after a
  removal nothing does.
-/

namespace ModelCache.FileTree

variable {t t' : FileTree} {a b : Address} {p q : Path} {e : Option Entry}

/-! ## What stands at the end of a path -/

/-- Whether a path can be followed and an entry, or nothing, stands where it leads. -/
def Finds (t : FileTree) (p : Path) (e : Option Entry) : Prop :=
  ∃ a, t.locate p = .ok a ∧ t.get? a = e

theorem isDirectory_iff : t.isDirectory p = true ↔ t.Finds p (some .directory) := by
  unfold isDirectory find? Finds
  cases hlocate : t.locate p with
  | error f => simp
  | ok a =>
    rcases hget : t.get? a with _ | _ | content
    · simp [hget]
    · simp [hget]
    · by_cases hdir : namesDirectory p = true <;> simp [hget, hdir]

theorem namesDirectory_join (dir : Path) {name : String} (h : PlainName name) :
    namesDirectory (dir.join ⟨name⟩) = false := by
  have hidle : Path.isIdle name.toList = false := by simp [Path.isIdle, h.ne_nil, h.ne_dot]
  unfold namesDirectory
  rcases Path.text_join dir (Path.not_isAbsolute_of_plain h) with ⟨_, hjoined⟩ | ⟨cs, _, hjoined⟩
  · rw [hjoined, List.splitOn_eq_singleton h.noSlash]
    exact hidle
  · rw [hjoined, List.splitOn_append_cons_self, List.splitOn_eq_singleton h.noSlash,
      List.getLast?_concat]
    exact hidle

theorem readText_of_finds_none (h : t.Finds p none) : t.readText p = .error .missing := by
  obtain ⟨a, hlocate, hget⟩ := h
  simp [readText, readFile, hlocate, hget, bind, Except.bind]

theorem readText_of_finds {s : String} (h : t.Finds p (some (.file (Text.utf8 s))))
    (hp : namesDirectory p = false) : t.readText p = .ok s := by
  obtain ⟨a, hlocate, hget⟩ := h
  exact readText_eq_ok.mpr ⟨a, Text.utf8 s, hlocate, hget, hp, Text.ofUtf8?_utf8 s⟩

/-! ## Making a directory that is there -/

theorem makeDirectories_of_follow {cs : List Path.Component} (hfollow : t.follow a cs = .ok b)
    (hdirectory : t.get? b = some .directory) : t.makeDirectories a cs = (.ok (), t) := by
  have hmade {x : Address} (hx : t.get? x = some .directory) : t.makeDirectory x = .ok t := by
    rw [makeDirectory, hx]
  induction cs generalizing a with
  | nil =>
    cases hfollow
    rw [makeDirectories, hmade hdirectory]
  | cons c rest ih =>
    obtain ⟨hhere, d, hstep, hrest⟩ := follow_cons hfollow
    rw [makeDirectories, hmade hhere, hstep]
    exact ih hrest

/-- A way without its last component is entered where the way is, unless nothing of it is left: then
it is entered at the top. -/
theorem enter_concat {cs rest : List Path.Component} {c : Path.Component} {start : Address}
    (h : enter (cs ++ [c]) = .ok (start, rest)) :
    enter cs = .ok ([], []) ∨ ∃ rest', rest = rest' ++ [c] ∧ enter cs = .ok (start, rest') := by
  induction cs with
  | nil => exact .inl rfl
  | cons d cs ih =>
    rw [List.cons_append] at h
    cases d with
    | root => cases h; exact .inr ⟨cs, rfl, rfl⟩
    | here => exact ih h
    | up => cases h
    | name n =>
      rw [enter] at h ⊢
      split at h
      · cases h
      case isFalse hshort =>
        cases h
        exact .inr ⟨cs, rfl, if_neg hshort⟩

/-- A directory that is there lies in one that is there. -/
theorem makeDirectories_dropLast {cs rest : List Path.Component} {start : Address}
    (henter : enter cs = .ok (start, rest)) (hfollow : t.follow start rest = .ok b) :
    ∃ start' rest', enter cs.dropLast = .ok (start', rest') ∧
      t.makeDirectories start' rest' = (.ok (), t) := by
  rcases List.eq_nil_or_concat cs with rfl | ⟨cs, c, rfl⟩
  · exact ⟨[], [], rfl, rfl⟩
  · rw [List.concat_eq_append] at henter ⊢
    rw [List.dropLast_concat]
    rcases enter_concat henter with htop | ⟨rest', rfl, henter'⟩
    · exact ⟨[], [], htop, rfl⟩
    · obtain ⟨d, hway, hdirectory, _⟩ := follow_concat hfollow
      exact ⟨start, rest', henter', makeDirectories_of_follow hway hdirectory⟩

/-- **Making a directory that is there changes nothing**, however it is spelled. -/
theorem createDirectories_of_isDirectory (h : t.isDirectory p = true) :
    t.createDirectories p = (.ok (), t) := by
  obtain ⟨a, hlocate, hdirectory⟩ := isDirectory_iff.mp h
  obtain ⟨hspelling, start, rest, henter, hfollow⟩ := locate_eq_ok hlocate
  unfold createDirectories
  cases hdot : p.endsInDot with
  | false => simp [hspelling, henter, makeDirectories_of_follow hfollow hdirectory]
  | true =>
    -- only what is above is made, and the directory has to be there
    obtain ⟨start', rest', henter', hmade⟩ := makeDirectories_dropLast henter hfollow
    have hrequired : t.requireDirectory p = .ok () := by
      simp [requireDirectory, hlocate, hdirectory, bind, Except.bind]
    simp [hspelling, henter', hmade, hrequired]

/-! ## Replacing a file -/

/-- Whether something, or nothing, stands at the end of a path in another tree, in which all else is
as it was: what other paths lead to, and that they lead there. -/
structure Replaces (t t' : FileTree) (p : Path) (e : Option Entry) : Prop where
  here : t'.Finds p e
  elsewhere : ∀ {q e'}, t.Finds q e' →
    (∀ a b, t.locate p = .ok a → t.locate q = .ok b → b ≠ a) → t'.Finds q e'

theorem Replaces.refl (h : t.Finds p e) : t.Replaces t p e := ⟨h, fun hq _ => hq⟩

/-- A directory stays if something else than a directory is replaced. -/
theorem Replaces.isDirectory {old : Option Entry} (h : t.Replaces t' p e) (hold : t.Finds p old)
    (hfile : old ≠ some .directory) (hq : t.isDirectory q = true) : t'.isDirectory q = true := by
  rw [isDirectory_iff] at hq ⊢
  refine h.elsewhere hq fun a b ha hb => ?_
  rintro rfl
  obtain ⟨x, hx, hget⟩ := hold
  obtain ⟨y, hy, hget'⟩ := hq
  rw [ha] at hx
  rw [hb] at hy
  cases hx
  cases hy
  exact hfile (hget.symm.trans hget')

/-- **A file can be written where no directory is.** -/
theorem replaces_write {old : Option Entry} (h : t.Finds p old) (hfile : old ≠ some .directory)
    (hp : namesDirectory p = false) (content : List UInt8) :
    ∃ t', (FileOp.write p content).run t = (.ok (), t') ∧
      t.Replaces t' p (some (.file content)) := by
  obtain ⟨a, hlocate, hget⟩ := h
  have ha : t.get? a ≠ some .directory := by rwa [hget]
  have hwritten : t.writeFile p content = .ok (t.put a (.file content)) := by
    unfold writeFile
    rw [hlocate]
    rcases hentry : t.get? a with _ | _ | before
    · simp [hentry, hp, bind, Except.bind]
    · exact absurd hentry ha
    · simp [hentry, hp, bind, Except.bind]
  refine ⟨t.put a (.file content), by rw [FileOp.run, hwritten], ?_, ?_⟩
  · refine ⟨a, locate_mono (get?_put_directory ha) hlocate, ?_⟩
    rw [get?_put t (ne_nil_of_get? ha), if_pos rfl]
  · rintro q e' ⟨b, hlocate', hget'⟩ hne
    refine ⟨b, locate_mono (get?_put_directory ha) hlocate', ?_⟩
    rw [get?_put t (ne_nil_of_get? ha), if_neg (hne a b hlocate hlocate'), hget']

theorem removeFile_of_finds_none (h : t.Finds p none) : t.removeFile p = .error .missing := by
  obtain ⟨a, hlocate, hget⟩ := h
  simp [removeFile, hlocate, hget, bind, Except.bind]

section Removing

variable {dir : Path} {name : String} (hname : PlainName name) (htmp : name ≠ "tmp")

include hname htmp

/-- **A file with a plain name can be removed.** -/
theorem replaces_removeFile {content : List UInt8}
    (h : t.Finds (dir.join ⟨name⟩) (some (.file content))) :
    ∃ t', t.removeFile (dir.join ⟨name⟩) = .ok t' ∧ t.Replaces t' (dir.join ⟨name⟩) none := by
  obtain ⟨a, hlocate, hfile⟩ := h
  have ha : a ≠ [] := ne_nil_of_get? (by rw [hfile]; nofun)
  have hremoved : t.removeFile (dir.join ⟨name⟩) = .ok (t.prune a) := by
    simp [removeFile, hlocate, hfile, namesDirectory_join dir hname, bind, Except.bind]
  refine ⟨t.prune a, hremoved, ?_, ?_⟩
  · refine ⟨a, (locate_prune hname htmp hlocate hfile hlocate).1, ?_⟩
    rw [get?_prune t a ha, if_pos (List.prefix_refl a)]
  · rintro q e' ⟨b, hlocate', hget'⟩ hne
    obtain ⟨hpruned, hbelow⟩ := locate_prune hname htmp hlocate hfile hlocate'
    refine ⟨b, hpruned, ?_⟩
    by_cases hb : b = []
    · subst hb
      exact hget'
    · rw [get?_prune t a hb, if_neg fun h => hne a b hlocate hlocate' (hbelow h), hget']

/-- **After a removal nothing is there**, whether there was a file or not. -/
theorem replaces_remove {old : Option (List UInt8)}
    (h : t.Finds (dir.join ⟨name⟩) (old.map .file)) :
    t.Replaces ((FileOp.remove (dir.join ⟨name⟩)).run t).2 (dir.join ⟨name⟩) none := by
  rw [FileOp.run]
  cases old with
  | none =>
    rw [removeFile_of_finds_none h]
    exact .refl h
  | some content =>
    obtain ⟨t', hremoved, hreplaces⟩ := replaces_removeFile hname htmp h
    rw [hremoved]
    exact hreplaces

end Removing

end ModelCache.FileTree
