import ModelCache.Companion.Load
import ModelCache.Proofs.Companion
import ModelCache.Proofs.Config
import ModelCache.Store

/-!
# Which companion sources a directory has

A directory lists its entries in any order. What is loaded of them are the files with the extension,
in the order of their paths, and nothing depends on the listing.

An extension is what stands behind the last dot of a name. A configured extension that has a dot in it
passes for a bare one, and no name has it.

* **`Companions.Listed`** — what every directory of texts lists.
* **`Companions.load_eq`** — what is loaded of a listing.
* **`Companions.load_exact`** — that this is the same for every order, and which files it has.
-/

namespace ModelCache.Companions

variable {listing listing' : List (String × Entry)} {extension : String} {exclude : List String}

/-- What a directory of texts lists: names that differ, each of which is a plain one, and texts where
there are files. -/
structure Listed (listing : List (String × Entry)) : Prop where
  distinct : listing.Pairwise fun a b => a.1 ≠ b.1
  plain : ∀ entry ∈ listing, PlainName entry.1
  texts : ∀ name content, (name, .file content) ∈ listing →
    ∃ text, Text.ofUtf8? content = some text

theorem Listed.perm (h : Listed listing) (hperm : listing'.Perm listing) : Listed listing' where
  distinct := hperm.symm.pairwise h.distinct Ne.symm
  plain entry hentry := h.plain entry (hperm.mem_iff.mp hentry)
  texts name content hfile := h.texts name content (hperm.mem_iff.mp hfile)

/-! ## The sources in a listing -/

/-- The source in an entry of a directory, if there is one to be loaded. -/
def source? (extension : String) (exclude : List String) : String × Entry → Option (Path × String)
  | (_, .directory) => none
  | (name, .file content) =>
    if selects extension exclude name then
      (Text.ofUtf8? content).map fun text => (⟨name⟩, text)
    else none

theorem source?_eq_some_iff {entry : String × Entry} {path : Path} {text : String} :
    source? extension exclude entry = some (path, text) ↔
      ∃ content, entry = (path.text, .file content) ∧ Text.ofUtf8? content = some text ∧
        selects extension exclude path.text = true := by
  constructor
  · intro h
    obtain ⟨name, _ | content⟩ := entry
    · cases h
    · rw [source?] at h
      split at h
      case isTrue hselects =>
        obtain ⟨s, hs, heq⟩ := Option.map_eq_some_iff.mp h
        cases heq
        exact ⟨content, rfl, hs, hselects⟩
      case isFalse => cases h
  · rintro ⟨content, rfl, htext, hselects⟩
    rw [source?, if_pos hselects, htext]
    rfl

/-- The sources in a listing. -/
def sources (extension : String) (exclude : List String) (listing : List (String × Entry)) :
    List (Path × String) :=
  listing.filterMap (source? extension exclude)

/-- Files of different names have different paths. -/
theorem Listed.paths (h : Listed listing) (extension : String) (exclude : List String) :
    (sources extension exclude listing).Pairwise fun a b => a.1.same b.1 = false := by
  have hplain : listing.Pairwise fun a b => a.1 ≠ b.1 ∧ PlainName a.1 ∧ PlainName b.1 :=
    h.distinct.imp_of_mem fun ha hb hne => ⟨hne, h.plain _ ha, h.plain _ hb⟩
  refine hplain.filterMap _ ?_
  rintro a b ⟨hne, ha, hb⟩ ⟨p, s⟩ hp ⟨q, s'⟩ hq
  obtain ⟨_, rfl, -⟩ := source?_eq_some_iff.mp hp
  obtain ⟨_, rfl, -⟩ := source?_eq_some_iff.mp hq
  rw [← Bool.not_eq_true, Path.same_iff]
  have hcomponents {p : Path} (hp : PlainName p.text) : p.components = [.name p.text] :=
    Path.components_of_plain hp
  rw [hcomponents ha, hcomponents hb]
  simpa using hne

/-! ## What is loaded -/

variable {t : FileTree} {dir : Path}

theorem addListed_eq (htexts : ∀ name content, (name, .file content) ∈ listing →
      ∃ text, Text.ofUtf8? content = some text) (cs : Companions) :
    addListed dir extension exclude cs listing =
      .ok ((sources extension exclude listing).foldl
        (fun cs (path, text) => cs.insert path text) cs) := by
  induction listing generalizing cs with
  | nil => rfl
  | cons entry rest ih =>
    have hrest := ih fun name content hfile => htexts name content (List.mem_cons_of_mem _ hfile)
    obtain ⟨name, _ | content⟩ := entry
    · exact hrest cs
    · obtain ⟨text, htext⟩ := htexts name content List.mem_cons_self
      rw [addListed, sources, List.filterMap_cons, source?]
      split
      case isTrue =>
        rw [htext]
        exact hrest (cs.insert ⟨name⟩ text)
      case isFalse => exact hrest cs

theorem selects_of_mem_addListed {cs loaded : Companions}
    (h : addListed dir extension exclude cs listing = .ok loaded)
    (hselects : ∀ k ∈ cs.files, selects extension exclude k.path.text = true) :
    ∀ k ∈ loaded.files, selects extension exclude k.path.text = true := by
  induction listing generalizing cs with
  | nil =>
    cases h
    exact hselects
  | cons entry rest ih =>
    obtain ⟨name, _ | content⟩ := entry
    · exact ih h hselects
    · rw [addListed] at h
      split at h
      case isTrue hname =>
        split at h
        case h_1 text htext =>
          -- the source that is added has the name, and all others were there before
          refine ih h fun k hk => ?_
          rcases path_of_mem_insertInto hk with heq | ⟨c, hc, heq⟩
          · rw [heq]
            exact hname
          · rw [heq]
            exact hselects c hc
        case h_2 => cases h
      case isFalse => exact ih h hselects

/-- No source is loaded that is left out, whatever else is in the directory. -/
theorem selects_of_mem_load {cs : Companions} (h : load t dir extension exclude = .ok cs)
    {k : Companion} (hk : k ∈ cs.files) : selects extension exclude k.path.text = true := by
  unfold load at h
  split at h
  case h_1 => exact selects_of_mem_addListed h nofun k hk
  case h_2 =>
    cases h
    cases hk
  case h_3 => cases h

/-- **What is loaded of a directory are the sources in its listing.** -/
theorem load_eq (hlist : t.list dir = .ok listing) (h : Listed listing) :
    load t dir extension exclude = .ok (ofList (sources extension exclude listing)) := by
  unfold load
  rw [hlist]
  exact addListed_eq h.texts empty

/-- A source that is loaded is a file with the extension, and not one that is left out. -/
theorem mem_sources_iff {path : Path} {text : String} :
    (path, text) ∈ sources extension exclude listing ↔
      ∃ content, (path.text, .file content) ∈ listing ∧ Text.ofUtf8? content = some text ∧
        selects extension exclude path.text = true := by
  unfold sources
  simp only [List.mem_filterMap, source?_eq_some_iff]
  constructor
  · rintro ⟨_, hentry, content, rfl, htext, hselects⟩
    exact ⟨content, hentry, htext, hselects⟩
  · rintro ⟨content, hentry, htext, hselects⟩
    exact ⟨_, hentry, content, rfl, htext, hselects⟩

theorem selects_iff {name : String} :
    selects extension exclude name = true ↔ name ∉ exclude ∧ '.' ∉ extension.toList ∧
      ∃ stem, stem ≠ "" ∧ name = stem ++ "." ++ extension := by
  unfold selects
  rw [Bool.and_eq_true, beq_iff_eq, Path.extensionOf?_eq_some_iff, and_comm]
  simp

/-- **What is loaded of a directory.** Companion sources are loaded, and they are the same however a
directory lists its entries. They come in the order of their paths, each once. These are the files
whose name consists of a stem, a dot and the extension, as long as the stem is not empty, the
extension itself has no dot in it and the name is not left out; each comes with its text. -/
theorem load_exact (h : Listed listing) (extension : String) (exclude : List String) :
    ∃ cs : Companions,
      (∀ t dir listing', t.list dir = .ok listing' → listing'.Perm listing →
        load t dir extension exclude = .ok cs) ∧
      cs.files.Pairwise (fun a b => a.path.compare b.path = .lt) ∧
      ∀ k : Companion, k ∈ cs.files ↔
        ∃ content, (k.path.text, .file content) ∈ listing ∧ Text.ofUtf8? content = some k.text ∧
          k.path.text ∉ exclude ∧ '.' ∉ extension.toList ∧
            ∃ stem, stem ≠ "" ∧ k.path.text = stem ++ "." ++ extension := by
  refine ⟨ofList (sources extension exclude listing), fun t dir listing' hlist hperm => ?_,
    ascending_ofList _, fun k => ?_⟩
  · rw [load_eq hlist (h.perm hperm)]
    refine congrArg Except.ok (ofList_perm ((h.perm hperm).paths extension exclude) ?_)
    exact hperm.filterMap _
  · simp only [mem_ofList (h.paths extension exclude), mem_sources_iff, selects_iff]

/-- The tree with one directory of texts, at the top. -/
def directoryOf (listing : List (String × Entry)) : FileTree :=
  ⟨(["models"], .directory) :: listing.map fun (name, e) => (["models", name], e)⟩

theorem list_directoryOf (listing : List (String × Entry)) :
    (directoryOf listing).list ⟨"/models"⟩ = .ok listing := by
  have hchildren : (directoryOf listing).children ["models"] = listing := by
    show (listing.map fun (name, e) => (["models", name], e)).filterMap _ = listing
    induction listing with
    | nil => rfl
    | cons entry rest ih => exact congrArg (entry :: ·) ih
  show Except.ok ((directoryOf listing).children ["models"]) = _
  rw [hchildren]

/-- A directory that is listed in two orders, with names that come close to the extension. -/
theorem load_exact_relisted :
    let file (text : String) : Entry := .file (Text.utf8 text)
    let listing := [("b.rs", file "b"), (".rs", file "hidden"), ("c.rs", .directory),
      ("a.tar.rs", file "a"), ("models.hash", file "digest")]
    let dir : Path := ⟨"/models"⟩
    Listed listing ∧ ∃ cs, load (directoryOf listing) dir "rs" ownedFiles = .ok cs ∧
      load (directoryOf listing.reverse) dir "rs" ownedFiles = .ok cs ∧
      ⟨⟨"a.tar.rs"⟩, "a"⟩ ∈ cs.files ∧ ∀ text, ⟨⟨".rs"⟩, text⟩ ∉ cs.files := by
  intro file listing dir
  have hlisted : Listed listing := by
    refine ⟨by decide, fun entry hentry => ?_, fun name content hfile => ?_⟩
    · simp only [listing, List.mem_cons, List.not_mem_nil, or_false] at hentry
      rcases hentry with rfl | rfl | rfl | rfl | rfl <;>
        exact ⟨by decide, by decide, by decide, by decide⟩
    · simp only [listing, file, List.mem_cons, List.not_mem_nil, or_false, Prod.mk.injEq,
        Entry.file.injEq, reduceCtorEq, and_false, false_or] at hfile
      rcases hfile with ⟨-, rfl⟩ | ⟨-, rfl⟩ | ⟨-, rfl⟩ | ⟨-, rfl⟩ <;>
        exact ⟨_, Text.ofUtf8?_utf8 _⟩
  obtain ⟨cs, hload, -, hmem⟩ := load_exact hlisted "rs" ownedFiles
  refine ⟨hlisted, cs, hload _ dir listing (list_directoryOf _) (.refl _),
    hload _ dir listing.reverse (list_directoryOf _) listing.reverse_perm, ?_,
    fun text hhidden => ?_⟩
  · rw [hmem]
    exact ⟨Text.utf8 "a", by simp [listing, file], Text.ofUtf8?_utf8 _, by decide, by decide,
      "a.tar", by decide, rfl⟩
  · -- its name has nothing in front of the dot
    obtain ⟨_, -, -, -, -, stem, hstem, hname⟩ := (hmem _).mp hhidden
    have hlength : ".rs".length = (stem ++ "." ++ "rs").length := congrArg String.length hname
    rw [String.length_append, String.length_append, show ".rs".length = 3 by decide,
      show ".".length = 1 by decide, show "rs".length = 2 by decide] at hlength
    exact hstem (String.length_eq_zero_iff.mp (by omega))

/-- An extension with a dot in it is accepted, and nothing is loaded by it. -/
theorem load_nothing_by_dotted_extension :
    let text := "[models]\ncompanion_extension = \"gen.rs\"\n"
    let listing := [("page.gen.rs", Entry.file (Text.utf8 "impl Page"))]
    ∃ c, Config.parse text = .ok c ∧ "page.gen.rs" = "page" ++ "." ++ c.models.companionExtension ∧
      load (directoryOf listing) ⟨"/models"⟩ c.models.companionExtension ownedFiles =
        .ok .empty := by
  intro text listing
  have h : Config.parse text = .ok { models := { companionExtension := "gen.rs" } } :=
    Config.parse_eq_ok (by decide +kernel)
  refine ⟨_, h, rfl, ?_⟩
  rfl

end ModelCache.Companions
