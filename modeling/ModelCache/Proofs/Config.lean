import ModelCache.Config.Reader
import ModelCache.Proofs.Path

/-!
# What a valid configuration grants

A configuration that is read has passed every check. Its directories differ as they are spelled, and
that is all that is checked: they are taken from a root directory later. There a dot at the start of
a relative path no longer counts, and an absolute path may spell out where a relative one leads.

* **`Config.Valid`** — the checks, which the defaults pass, and `Config.valid_of_parse`.
* **`Path.join_same_iff`** — when two different paths lead to the same place from a root.
* **`Config.directories_meet_iff`** — so the directories of a configuration are apart but for these
  cases.
-/

namespace ModelCache

/-! ## Two paths from a root -/

namespace Path

variable {root p q : Path}

theorem same_iff : p.same q = true ↔ p.components = q.components := beq_iff_eq

/-- Whether two different paths lead to the same place from a root: two relative ones that add the
same to it, or an absolute one that spells out where a relative one leads. -/
def Meet (root p q : Path) : Prop :=
  (p.isAbsolute = false ∧ q.isAbsolute = false ∧ p.onward = q.onward) ∨
  (p.isAbsolute = true ∧ q.isAbsolute = false ∧ p.components = root.components ++ q.onward) ∨
  (p.isAbsolute = false ∧ q.isAbsolute = true ∧ q.components = root.components ++ p.onward)

/-- **Different paths lead to the same place** exactly if they meet there, and the root is spelled
with anything at all. -/
theorem join_same_iff (h : p.same q = false) (root : Path) :
    (root.join p).same (root.join q) = true ↔ root.text ≠ "" ∧ Meet root p q := by
  have hne : p.components ≠ q.components := by
    rw [← Bool.not_eq_true, same_iff] at h
    exact h
  rw [same_iff]
  unfold Meet
  by_cases hroot : root.text = ""
  · rw [join_of_empty hroot, join_of_empty hroot]
    exact iff_of_false hne fun hmeet => hmeet.1 hroot
  · cases hp : p.isAbsolute <;> cases hq : q.isAbsolute
    · rw [components_join_of_relative hroot hp, components_join_of_relative hroot hq,
        List.append_cancel_left_eq]
      simp [hroot]
    · rw [components_join_of_relative hroot hp, join_of_absolute hq, eq_comm]
      simp [hroot]
    · rw [components_join_of_relative hroot hq, join_of_absolute hp]
      simp [hroot]
    · rw [join_of_absolute hp, join_of_absolute hq]
      simp [hne]

end Path

/-! ## Checks -/

namespace Config

variable {c : Config}

/-- What is checked of a configuration. -/
structure Valid (c : Config) : Prop where
  cacheDir_ne : c.models.cacheDir.text ≠ ""
  namespaceName_ne : c.models.namespaceName ≠ ""
  bare : isBareExtension c.models.companionExtension = true
  apart : c.models.cacheDir.same c.models.companionDir = false

/-- The defaults pass the checks. -/
theorem valid_default : Valid {} := ⟨by decide, by decide, by decide, by decide⟩

theorem validate_eq_ok_iff {c' : Config} : c.validate = .ok c' ↔ c.Valid ∧ c = c' := by
  unfold validate
  dsimp only
  constructor
  · intro h
    split at h
    · cases h
    case isFalse hcache =>
      split at h
      · cases h
      case isFalse hnamespace =>
        split at h
        · cases h
        case isFalse hbare =>
          split at h
          · cases h
          case isFalse hsame =>
            exact ⟨⟨hcache, hnamespace, by simpa using hbare, by simpa using hsame⟩,
              Except.ok.inj h⟩
  · rintro ⟨hvalid, rfl⟩
    rw [if_neg hvalid.cacheDir_ne, if_neg hvalid.namespaceName_ne, if_neg (by simp [hvalid.bare]),
      if_neg (by simp [hvalid.apart])]

/-- A configuration that is read has passed the checks. -/
theorem valid_of_parse {text : String} (h : parse text = .ok c) : c.Valid := by
  unfold parse at h
  split at h
  · cases h
  · split at h
    · cases h
    · obtain ⟨hvalid, rfl⟩ := validate_eq_ok_iff.mp h
      exact hvalid

/-- What a text is read as, from the configuration alone. -/
theorem parse_eq_ok {text : String} (h : (parse text).toOption = some c) : parse text = .ok c := by
  cases hread : parse text with
  | error e => rw [hread] at h; cases h
  | ok c' =>
    rw [hread] at h
    exact congrArg Except.ok (Option.some.inj h)

/-! ## Directories -/

/-- **When the directories of a configuration are apart.** The cache directory and the companion
directory of a configuration that is read are different as they are spelled. From a root directory
they are different as well, unless they meet there: both are relative and differ by a dot at the start
alone, or one of them is absolute and spells out where the other leads from this very root. -/
theorem directories_meet_iff {text : String} (h : parse text = .ok c) (root : Path) :
    c.models.cacheDir.same c.models.companionDir = false ∧
      ((c.resolvedCacheDir root).same (c.resolvedCompanionDir root) = true ↔
        root.text ≠ "" ∧ Path.Meet root c.models.cacheDir c.models.companionDir) := by
  have hvalid := valid_of_parse h
  exact ⟨hvalid.apart, Path.join_same_iff hvalid.apart root⟩

/-- Directories that both begin with a dot, and whose last parts differ. -/
theorem directories_meet_iff_sources :
    let text := "[models]\ncache_dir = \"./src//cache/\"\ncompanion_dir = \"./src/models\"\n"
    let root : Path := ⟨"/srv/site"⟩
    ∃ c, parse text = .ok c ∧
      (c.resolvedCacheDir root).same (c.resolvedCompanionDir root) = false := by
  intro text root
  have h : parse text = .ok
      { models := { cacheDir := ⟨"./src//cache/"⟩, companionDir := ⟨"./src/models"⟩ } } :=
    parse_eq_ok (by decide +kernel)
  refine ⟨_, h, ?_⟩
  rw [← Bool.not_eq_true, (directories_meet_iff h root).2]
  rintro ⟨-, hmeet⟩
  revert hmeet
  unfold Path.Meet
  decide +kernel

/-- A dot at the start makes a difference to the checks, and none to where a directory is. -/
theorem directories_meet_behind_dot :
    let text := "[models]\ncache_dir = \"./models\"\ncompanion_dir = \"models\"\n"
    let root : Path := ⟨"/srv/site"⟩
    ∃ c, parse text = .ok c ∧
      (c.resolvedCacheDir root).same (c.resolvedCompanionDir root) = true := by
  refine ⟨{ models := { cacheDir := ⟨"./models"⟩, companionDir := ⟨"models"⟩ } },
    parse_eq_ok ?_, ?_⟩
  · decide +kernel
  · decide +kernel

end Config

end ModelCache
