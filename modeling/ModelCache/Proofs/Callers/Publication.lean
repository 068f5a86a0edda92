import ModelCache.Proofs.Callers

/-!
# Builds in a run

A build is spread out over the log of a run: its reads are steps of their own, and others get in
between. Still everything about it is in the log, and since generations only go up, the set that it
publishes names it.

* **`Publishes`** — a build that publishes a set, by the times of its reads and of the publication.
* **`Move.leaves`** — what a move does to the published set and the generations.
* **`Run.published_once`** — no set is published twice.
-/

namespace ModelCache.Callers

variable {ι : Type} {log : List (Label ι)} {l : Label ι} {options : Options} {w w' : World ι}

/-! ## Builds by their times -/

/-- A caller does nothing between two times. -/
def Quiet (log : List (Label ι)) (k : ι) (t t' : Nat) : Prop :=
  ∀ u, t < u → u < t' → ∀ deed, log[u]? ≠ some (.did k deed)

/-- A build by the times of its reads: all that the caller does between them is to read. -/
structure Reads (log : List (Label ι)) (k : ι) (s c : Nat) : Prop where
  schema : log[s]? = some (.did k .readSchema)
  companions : log[c]? = some (.did k .readCompanions)
  lt : s < c
  quiet : Quiet log k s c

/-- A build that publishes a set, by the times of its reads and of the publication: all that the
caller does between them is to read. -/
structure Publishes (log : List (Label ι)) (k : ι) (set : ModelSet) (s c p : Nat) : Prop where
  reads : Reads log k s c
  published : log[p]? = some (.did k (.published set))
  lt : c < p
  quiet : Quiet log k c p

theorem Quiet.append {k : ι} {u u' : Nat} (h : Quiet log k u u') (hle : u' ≤ log.length)
    (rest : List (Label ι)) : Quiet (log ++ rest) k u u' := by
  intro v hv hv' deed
  rw [List.getElem?_append_left (Nat.lt_of_lt_of_le hv' hle)]
  exact h v hv hv' deed

/-- A caller stays quiet as long as others do something. -/
theorem Quiet.concat {k : ι} {u : Nat} (h : Quiet log k u log.length)
    (hl : ∀ deed, l ≠ .did k deed) : Quiet (log ++ [l]) k u (log ++ [l]).length := by
  intro v hv hv' deed hdid
  rcases getElem?_concat.mp hdid with hdid | ⟨-, heq⟩
  · exact h v hv (List.getElem?_eq_some_iff.mp hdid).1 deed hdid
  · exact hl deed heq

theorem Reads.append {k : ι} {s c : Nat} (h : Reads log k s c) (rest : List (Label ι)) :
    Reads (log ++ rest) k s c where
  schema := getElem?_append h.schema rest
  companions := getElem?_append h.companions rest
  lt := h.lt
  quiet := h.quiet.append (Nat.le_of_lt (List.getElem?_eq_some_iff.mp h.companions).1) rest

theorem Publishes.append {k : ι} {set : ModelSet} {s c p : Nat} (h : Publishes log k set s c p)
    (rest : List (Label ι)) : Publishes (log ++ rest) k set s c p where
  reads := h.reads.append rest
  published := getElem?_append h.published rest
  lt := h.lt
  quiet := h.quiet.append (Nat.le_of_lt (List.getElem?_eq_some_iff.mp h.published).1) rest

/-! ## Publications

The generation of a set tells it from every other one, so that it makes sense to speak of the build
that published it. -/

/-- What a move leaves of the cache. -/
inductive Leaves (c : Cache) : Deed → Cache → Prop where
  | same (deed : Deed) (hdeed : ∀ set, deed ≠ .published set) : Leaves c deed c
  | outdated (deed : Deed) (c' : Cache) (hdeed : ∀ set, deed ≠ .published set)
      (hstate : c'.state ≠ .valid) (hgeneration : c.lastGeneration ≤ c'.lastGeneration) :
      Leaves c deed c'
  | renewed (set : ModelSet) (c' : Cache) (hrenewed : c.Renewed c' set) :
      Leaves c (.published set) c'

theorem Move.leaves {schema : Except SchemaError Schema}
    {companions : Except GenerationError Companions} {c c' : Cache} {phase phase' : Phase}
    {deed : Deed} (h : Move options schema companions c phase deed c' phase') :
    Leaves c deed c' := by
  cases h with
  | publish r progress around set _ events hread hbuild =>
    exact .renewed set c' (Cache.renewed_of_build hbuild).1
  | fail r progress around e _ events hread hbuild =>
    obtain ⟨hstate, hgeneration⟩ := Cache.outdated_of_build hbuild
    exact .outdated _ c' nofun (by rw [hstate]; exact nofun) hgeneration
  | invalidate =>
    exact .outdated _ _ nofun c.state_invalidate (Nat.le_of_eq c.lastGeneration_invalidate.symm)
  | requestRebuild =>
    exact .outdated _ _ nofun c.state_requestRebuild (Nat.le_refl _)
  | _ => exact .same _ nofun

/-- Later publications have larger generations. -/
structure Rising (log : List (Label ι)) (w : World ι) : Prop where
  le : ∀ (t : Nat) (k : ι) (set : ModelSet), log[t]? = some (.did k (.published set)) →
    set.generation ≤ w.cache.lastGeneration
  lt : ∀ (t t' : Nat) (k k' : ι) (set set' : ModelSet),
    log[t]? = some (.did k (.published set)) → log[t']? = some (.did k' (.published set')) →
      t < t' → set.generation < set'.generation

/-- A step that publishes nothing, and gives out no generation that was given out before. -/
theorem Rising.silent (hrising : Rising log w) (hl : ∀ k set, l ≠ .did k (.published set))
    (hgeneration : w.cache.lastGeneration ≤ w'.cache.lastGeneration) : Rising (log ++ [l]) w' := by
  have hlog : ∀ (t : Nat) (k : ι) (set : ModelSet), (log ++ [l])[t]? = some (.did k (.published set)) →
      log[t]? = some (.did k (.published set)) := fun t k set h =>
    (getElem?_concat.mp h).elim id fun h => absurd h.2 (hl k set)
  exact ⟨fun t k set h => Nat.le_trans (hrising.le t k set (hlog t k set h)) hgeneration,
    fun t t' k k' set set' h h' => hrising.lt t t' k k' set set' (hlog _ _ _ h) (hlog _ _ _ h')⟩

variable [DecidableEq ι]

theorem Rising.step (hrising : Rising log w) (h : Step options w l w') : Rising (log ++ [l]) w' := by
  cases h with
  | edit => exact hrising.silent nofun (Nat.le_refl _)
  | move i deed c phase hmove =>
    have hlabel (hdeed : ∀ set, deed ≠ .published set) (k : ι) (set : ModelSet) :
        Label.did i deed ≠ .did k (.published set) := fun h => hdeed set (Label.did.inj h).2
    cases hmove.leaves with
    | same _ hdeed => exact hrising.silent (hlabel hdeed) (Nat.le_refl _)
    | outdated _ _ hdeed _ hgeneration => exact hrising.silent (hlabel hdeed) hgeneration
    | renewed set _ hrenewed =>
      have hset : set.generation = w.cache.lastGeneration + 1 := hrenewed.generation_eq
      have hlast : c.lastGeneration = w.cache.lastGeneration + 1 := hrenewed.lastGeneration_eq
      refine ⟨fun t k set' ht => ?_, fun t t' k k' set₁ set₂ ht ht' hlt => ?_⟩
      · show set'.generation ≤ c.lastGeneration
        rcases getElem?_concat.mp ht with ht | ⟨-, heq⟩
        · have := hrising.le t k set' ht
          omega
        · cases heq
          omega
      · rcases getElem?_concat.mp ht' with ht' | ⟨rfl, heq⟩
        · rcases getElem?_concat.mp ht with ht | ⟨rfl, -⟩
          · exact hrising.lt t t' k k' set₁ set₂ ht ht' hlt
          · have := (List.getElem?_eq_some_iff.mp ht').1
            omega
        · -- the set that is published now is newer than any before
          cases heq
          rcases getElem?_concat.mp ht with ht | ⟨rfl, -⟩
          · have := hrising.le t k set₁ ht
            omega
          · omega

/-- **No set is published twice.** -/
theorem Run.published_once {record : Option ArtifactRecord} {unitText : Option String}
    {schema : Except SchemaError Schema} {companions : Except GenerationError Companions}
    (h : Run options (World.start record unitText schema companions) log w) {t t' : Nat} {k k' : ι}
    {set : ModelSet} (ht : log[t]? = some (.did k (.published set)))
    (ht' : log[t']? = some (.did k' (.published set))) : t = t' ∧ k = k' := by
  have hstart : Rising [] (World.start record unitText schema companions : World ι) :=
    ⟨nofun, nofun⟩
  have hrising : Rising log w := h.keeps [] (fun _ _ _ _ => Rising.step) hstart
  obtain rfl : t = t' := by
    rcases Nat.lt_trichotomy t t' with hlt | heq | hlt
    · exact absurd (hrising.lt t t' k k' set set ht ht' hlt) (Nat.lt_irrefl _)
    · exact heq
    · exact absurd (hrising.lt t' t k' k set set ht' ht hlt) (Nat.lt_irrefl _)
  rw [ht] at ht'
  cases ht'
  exact ⟨rfl, rfl⟩

end ModelCache.Callers
