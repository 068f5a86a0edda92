import Mathlib.Logic.Relation
import ModelCache.Proofs.Schema.Mixins

/-!
# The search for cycles

The search goes down from every content type in turn, and what it has marked for one it does not go
through again for the next. It is exact: it stops at a content type that takes itself over if there
is one, and goes through all of them otherwise. It looks up no key that is not there, and it goes no
deeper than there are content types.

* **`Schema.Grounded`** — going down from a key comes to an end. That is what the mark `done` stands
  for.
* **`Schema.Searched`** — how a search ends: at a content type on a cycle, or with more marks that
  say what they stand for.
* **`Schema.searched_visit`** — a visit ends so, given that what is marked `visiting` is above it.
* **`Schema.searched_visitAll`** — the whole search ends so.
* **`Schema.visitAll_eq_of_le`** — a larger bound makes no difference.
-/

open Relation (TransGen)

namespace ModelCache.Schema

variable {types : Schema} {marks marks' marks'' : Marks} {covered covered' : List String}
  {key : String}

/-! ## Marks

A list of marks is read from the front, so setting a mark hides an older one of the same key. On the
way down a key is marked `visiting`, on the way back `done`. The invariant of the search says what the
two mean: what is `visiting` lies above the key at hand, and what is `done` is grounded. -/

/-- Going down from a key, from mixin to mixin, comes to an end whichever way it goes. -/
def Grounded (types : Schema) (key : String) : Prop :=
  Acc (fun mixin key => Mixes types key mixin) key

/-- What is grounded does not take itself over. -/
theorem Grounded.not_cyclic (h : Grounded types key) : ¬ TransGen (Mixes types) key key := by
  -- the induction is on the way down by any number of steps, as the cycle is such a way
  have hacc := Acc.transGen h
  induction hacc with
  | intro key _ ih =>
    intro hcycle
    have hswapped := Relation.transGen_swap.mpr hcycle
    exact ih key hswapped (h.inv_of_transGen hswapped) hcycle

/-- The mark `done` stands for what is grounded. -/
def Founded (types : Schema) (marks : Marks) : Prop :=
  ∀ key, marks.lookup key = some .done → Grounded types key

/-- The second marks come after the first ones, with all the keys in the list marked `done`. What is
marked `visiting` is the same. -/
structure Covers (types : Schema) (marks : Marks) (covered : List String) (marks' : Marks) :
    Prop where
  visiting : ∀ key, marks'.lookup key = some .visiting ↔ marks.lookup key = some .visiting
  done : ∀ key, marks.lookup key = some .done → marks'.lookup key = some .done
  covered : ∀ key ∈ covered, marks'.lookup key = some .done
  founded : Founded types marks'

/-- Nothing was done, and nothing is covered by it. -/
theorem Covers.refl (h : Founded types marks) : Covers types marks [] marks :=
  ⟨fun _ => Iff.rfl, fun _ hdone => hdone, nofun, h⟩

/-- Two stretches of a search cover together what each of them covers: a later stretch takes no mark
`done` away. -/
theorem Covers.trans (h : Covers types marks covered marks')
    (h' : Covers types marks' covered' marks'') :
    Covers types marks (covered ++ covered') marks'' where
  visiting key := (h'.visiting key).trans (h.visiting key)
  done key hdone := h'.done key (h.done key hdone)
  covered key hkey := by
    rcases List.mem_append.mp hkey with hkey | hkey
    · exact h'.done key (h.covered key hkey)
    · exact h'.covered key hkey
  founded := h'.founded

/-- A new mark is the one that is found for its key, and makes no difference to the others. -/
theorem lookup_mark (marks : Marks) (mark : Mark) (key k : String) :
    List.lookup k ((key, mark) :: marks) = if k = key then some mark else marks.lookup k := by
  by_cases hk : k = key
  · subst hk
    rw [if_pos rfl, List.lookup_cons_self]
  · rw [if_neg hk, List.lookup_cons, beq_false_of_ne hk]

/-- Going below a key: nothing new is said to be grounded. -/
theorem Founded.enter (h : Founded types marks) : Founded types ((key, .visiting) :: marks) := by
  intro k hk
  rw [lookup_mark] at hk
  split at hk
  case isTrue =>
    -- the key itself is `visiting`, not `done`
    cases hk
  case isFalse => exact h k hk

/-- Coming back from below a key that had no mark: it is grounded, and not `visiting` any more. -/
theorem Covers.leave (hmark : marks.lookup key = none) (hground : Grounded types key)
    (h : Covers types ((key, .visiting) :: marks) covered marks') :
    Covers types marks [key] ((key, .done) :: marks') where
  visiting k := by
    rw [lookup_mark]
    split
    case isTrue heq =>
      -- the key is `visiting` neither before, as it had no mark, nor afterwards
      simp [heq, hmark]
    case isFalse hne => rw [h.visiting, lookup_mark, if_neg hne]
  done k hk := by
    rw [lookup_mark]
    split
    case isTrue => rfl
    case isFalse hne =>
      refine h.done k ?_
      rwa [lookup_mark, if_neg hne]
  covered k hk := by
    obtain rfl := List.mem_singleton.mp hk
    rw [lookup_mark, if_pos rfl]
  founded k hk := by
    rw [lookup_mark] at hk
    split at hk
    case isTrue heq =>
      -- this is the one new mark `done`
      exact heq ▸ hground
    case isFalse => exact h.founded k hk

/-! ## How much there is left to visit

Every level of the search sets a mark before it goes further down, so the number of content types
without one is what its bound is measured against. -/

/-- How many content types have no mark. -/
def unmarked (types : Schema) (marks : Marks) : Nat :=
  (keys types).countP fun key => (marks.lookup key).isNone

/-- There are no more content types to visit than there are. -/
theorem unmarked_le_length : unmarked types marks ≤ types.length := by
  have hle : unmarked types marks ≤ (keys types).length := List.countP_le_length
  rwa [keys, List.length_map] at hle

/-- A search only sets marks, so that there is never more left to visit afterwards. -/
theorem Covers.unmarked_le (h : Covers types marks covered marks') :
    unmarked types marks' ≤ unmarked types marks := by
  refine List.countP_mono_left fun key _ hnone => ?_
  cases hmark : marks.lookup key with
  | none => rfl
  | some mark =>
    -- what had a mark has the same one still, whichever it is
    have hsome : marks'.lookup key = some mark := by
      cases mark with
      | visiting => exact (h.visiting key).mpr hmark
      | done => exact h.done key hmark
    rw [hsome] at hnone
    cases hnone

/-- Marking a content type that had no mark leaves less to visit. -/
theorem unmarked_cons_lt (hkey : key ∈ keys types) (hnone : marks.lookup key = none) (mark : Mark) :
    unmarked types ((key, mark) :: marks) < unmarked types marks := by
  obtain ⟨before, after, hkeys⟩ := List.append_of_mem hkey
  -- nothing before or after the key loses its mark, and the key itself gets one
  have hmono (l : List String) : l.countP (fun k => (List.lookup k ((key, mark) :: marks)).isNone) ≤
      l.countP fun k => (marks.lookup k).isNone := by
    refine List.countP_mono_left fun k _ h => ?_
    rw [lookup_mark] at h
    split at h
    · -- the key has a mark now, so it is not counted
      cases h
    · exact h
  have hbefore := hmono before
  have hafter := hmono after
  unfold unmarked
  rw [hkeys, List.countP_append, List.countP_append, List.countP_cons, List.countP_cons]
  rw [lookup_mark, if_pos rfl, hnone]
  simp only [Option.isNone_some, Option.isNone_none, Bool.false_eq_true, if_true, if_false]
  omega

/-! ## How a search ends -/

/-- A search from some marks has gone through the keys in a list, or it has stopped at a content
type that takes itself over. -/
inductive Searched (types : Schema) (marks : Marks) (covered : List String) :
    Except Stop Marks → Prop
  | through {marks' : Marks} : Covers types marks covered marks' →
      Searched types marks covered (.ok marks')
  | cycle {t : ContentType} : t ∈ types → TransGen (Mixes types) t.aliasName.key t.aliasName.key →
      Searched types marks covered (.error (.fault (.mixinCycle t.aliasName.spelling)))

/-- **One search after the other.** If a step ends as a search does, whatever stretch of the search
came before it, then so do all steps in a row. -/
theorem searched_foldlM {α : Type} {keyOf : α → String} {f : Marks → α → Except Stop Marks}
    {l : List α} (hfounded : Founded types marks)
    (hstep : ∀ a ∈ l, ∀ marks', Covers types marks [] marks' →
      Searched types marks' [keyOf a] (f marks' a)) :
    Searched types marks (l.map keyOf) (l.foldlM f marks) := by
  -- the marks change from step to step, so the induction is for all of them
  induction l generalizing marks with
  | nil => exact .through (.refl hfounded)
  | cons a rest ih =>
    rw [List.foldlM_cons, List.map_cons]
    have hfirst := hstep a List.mem_cons_self marks (.refl hfounded)
    cases hf : f marks a with
    | error stop =>
      -- the first step has stopped at a cycle, and the others are not taken
      rw [hf] at hfirst
      cases hfirst with
      | cycle ht hcycle => exact .cycle ht hcycle
    | ok first =>
      rw [hf] at hfirst
      obtain ⟨hcovers⟩ := hfirst
      -- what comes after the marks of the rest comes after those at the start
      have hrest := ih hcovers.founded fun b hb marks' hmarks' => by
        refine hstep b (List.mem_cons_of_mem a hb) marks' ?_
        exact { hcovers.trans hmarks' with covered := nofun }
      show Searched types marks (keyOf a :: rest.map keyOf) (rest.foldlM f first)
      cases hlast : rest.foldlM f first with
      | error stop =>
        rw [hlast] at hrest
        cases hrest with
        | cycle ht hcycle => exact .cycle ht hcycle
      | ok last =>
        rw [hlast] at hrest
        obtain ⟨hlast⟩ := hrest
        exact .through (hcovers.trans hlast)

/-! ## A visit -/

/-- The step that goes down: from a content type without a mark to its mixins. -/
theorem visit_of_unmarked {t : ContentType} {fuel : Nat} (hmark : marks.lookup key = none)
    (hfound : lookUp types key = .ok t) : visit types (fuel + 1) marks key =
      (t.mixins.foldlM (fun marks m => visit types fuel marks m.key)
        ((key, .visiting) :: marks)).map ((key, .done) :: ·) := by
  rw [visit, hmark, hfound]
  show Except.bind (t.mixins.foldlM (fun marks m => visit types fuel marks m.key) _) _ = _
  cases t.mixins.foldlM (fun marks m => visit types fuel marks m.key) ((key, .visiting) :: marks)
  · rfl
  · rfl

/-- A content type is grounded once its mixins are. -/
theorem grounded_of_mixins {t : ContentType} (hnodup : (keys types).Nodup) (ht : t ∈ types)
    (h : ∀ m ∈ t.mixins, Grounded types m.key) : Grounded types t.aliasName.key := by
  refine Acc.intro _ fun mixin hmixes => ?_
  obtain ⟨m, hm, rfl⟩ := hmixes.exists_mixin hnodup ht
  exact h m hm

/-- **How a visit ends.** Whatever is marked `visiting` is above the key, so that meeting such a
mark is going round in a circle. The marks use the bound up, as each level of the search sets one.
-/
theorem searched_visit (h : Resolved types) {fuel : Nat} (hkey : key ∈ keys types)
    (hfuel : unmarked types marks < fuel) (hfounded : Founded types marks)
    (habove : ∀ k, marks.lookup k = some .visiting → TransGen (Mixes types) k key) :
    Searched types marks [key] (visit types fuel marks key) := by
  induction fuel generalizing marks key with
  | zero =>
    -- a bound of zero is not above any number of content types
    exact absurd hfuel (Nat.not_lt_zero _)
  | succ fuel ih =>
    obtain ⟨t, ht, rfl⟩ := mem_keys.mp hkey
    have hfound := lookUp_of_mem h.nodup ht
    cases hmark : marks.lookup t.aliasName.key with
    | some mark =>
      rw [visit, hmark]
      cases mark with
      | done =>
        -- it was gone through before, and is not gone through again
        refine .through { Covers.refl hfounded with covered := fun k hk => ?_ }
        obtain rfl := List.mem_singleton.mp hk
        exact hmark
      | visiting =>
        -- it lies above itself
        rw [hfound]
        exact .cycle ht (habove _ hmark)
    | none =>
      rw [visit_of_unmarked hmark hfound]
      let entered : Marks := (t.aliasName.key, .visiting) :: marks
      -- the mixins are gone through in a row, each with the content type above it
      have hbelow : Searched types entered (t.mixins.map Alias.key)
          (t.mixins.foldlM (fun marks m => visit types fuel marks m.key) entered) := by
        refine searched_foldlM hfounded.enter fun m hm marks' hcovers => ?_
        have hedge : Mixes types t.aliasName.key m.key := ⟨t, ht, rfl, m, hm, rfl⟩
        refine ih (h.closed t ht m hm) ?_ hcovers.founded fun k hk => ?_
        · -- the mark of the content type pays for going down
          have hentered : unmarked types entered < unmarked types marks :=
            unmarked_cons_lt hkey hmark .visiting
          have hle := hcovers.unmarked_le
          omega
        · -- above a mixin are the content type and what is above that
          rw [hcovers.visiting, lookup_mark] at hk
          split at hk
          case isTrue heq => exact heq ▸ .single hedge
          case isFalse => exact (habove k hk).tail hedge
      cases hresult : t.mixins.foldlM (fun marks m => visit types fuel marks m.key) entered with
      | error stop =>
        -- a cycle that is found below the content type is the answer
        rw [hresult] at hbelow
        cases hbelow with
        | cycle hu hcycle => exact .cycle hu hcycle
      | ok left =>
        rw [hresult] at hbelow
        obtain ⟨hcovers⟩ := hbelow
        -- all the mixins are marked `done` by now, so the content type may be too
        have hground : Grounded types t.aliasName.key :=
          grounded_of_mixins h.nodup ht fun m hm =>
            hcovers.founded _ (hcovers.covered _ (List.mem_map_of_mem hm))
        exact .through (hcovers.leave hmark hground)

/-- **How the search ends.** It has gone through all content types, or stopped at one on a cycle. -/
theorem searched_visitAll (h : Resolved types) {fuel : Nat} (hfuel : types.length < fuel) :
    Searched types [] (keys types) (visitAll types fuel) := by
  have hfounded : Founded types [] := fun _ => nofun
  refine searched_foldlM hfounded fun t ht marks' hcovers => ?_
  refine searched_visit h (mem_keys.mpr ⟨t, ht, rfl⟩) ?_ hcovers.founded fun k hk => ?_
  · exact Nat.lt_of_le_of_lt unmarked_le_length hfuel
  · -- nothing is being visited between two visits
    cases (hcovers.visiting k).mp hk

/-! ## The bound

A search that has come to an end did not meet its bound, so it goes the same way with a larger one.
The induction is on the smaller bound; at each level the two searches do the same at the key and go
down to the same mixins. -/

/-- Two rows of steps come to the same if their steps do wherever those of the first one end. -/
theorem foldlM_eq_of_finished {α : Type} {f g : Marks → α → Except Stop Marks} {l : List α}
    (hstep : ∀ marks a, f marks a ≠ .error .unfinished → g marks a = f marks a)
    (h : l.foldlM f marks ≠ .error .unfinished) : l.foldlM g marks = l.foldlM f marks := by
  induction l generalizing marks with
  | nil => rfl
  | cons a rest ih =>
    rw [List.foldlM_cons] at h
    rw [List.foldlM_cons, List.foldlM_cons]
    -- a first step that does not end would keep the row from ending
    have hfirst : f marks a ≠ .error .unfinished := fun hunfinished => h (by rw [hunfinished]; rfl)
    rw [hstep marks a hfirst]
    cases hf : f marks a with
    | error stop => rfl
    | ok first =>
      rw [hf] at h
      exact ih h

/-- A visit that ends within its bound ends the same within a larger one. -/
theorem visit_eq_of_le {fuel fuel' : Nat} (hle : fuel ≤ fuel')
    (h : visit types fuel marks key ≠ .error .unfinished) :
    visit types fuel' marks key = visit types fuel marks key := by
  induction fuel generalizing fuel' marks key with
  | zero => exact absurd rfl h
  | succ fuel ih =>
    obtain ⟨fuel', rfl⟩ : ∃ n, fuel' = n + 1 := ⟨fuel' - 1, by omega⟩
    cases hmark : marks.lookup key with
    | some mark =>
      -- neither search goes further down
      rw [visit, visit, hmark]
      cases mark <;> rfl
    | none =>
      cases hfound : lookUp types key with
      | error stop => rw [visit, visit, hmark, hfound]; rfl
      | ok t =>
        rw [visit_of_unmarked hmark hfound] at h
        rw [visit_of_unmarked hmark hfound, visit_of_unmarked hmark hfound]
        congr 1
        have hstep (marks : Marks) (m : Alias) (hfinished : visit types fuel marks m.key ≠ _) :=
          ih (Nat.le_of_succ_le_succ hle) hfinished
        refine foldlM_eq_of_finished hstep fun hunfinished => h ?_
        rw [hunfinished]
        rfl

/-- **The bound takes no part in the search**, as long as it is above the number of content types.
-/
theorem visitAll_eq_of_le (h : Resolved types) {fuel : Nat} (hfuel : types.length < fuel) :
    visitAll types fuel = visitAll types (types.length + 1) := by
  refine foldlM_eq_of_finished (fun marks t => visit_eq_of_le hfuel) fun hunfinished => ?_
  have hends := searched_visitAll h (Nat.lt_succ_self types.length)
  rw [visitAll, hunfinished] at hends
  cases hends

/-! ## The check -/

/-- Only a content type takes mixins over, so every key on a cycle is one of a content type. -/
theorem mem_keys_of_cycle (h : TransGen (Mixes types) key key) : key ∈ keys types := by
  obtain ⟨_, ⟨t, ht, hkey, _⟩, _⟩ := Relation.TransGen.head'_iff.mp h
  exact mem_keys.mpr ⟨t, ht, hkey⟩

/-- How the check ends. -/
inductive CheckedCycles (types : Schema) : Except Stop Unit → Prop
  | grounded : (∀ t ∈ types, Grounded types t.aliasName.key) → CheckedCycles types (.ok ())
  | cycle {t : ContentType} : t ∈ types → TransGen (Mixes types) t.aliasName.key t.aliasName.key →
      CheckedCycles types (.error (.fault (.mixinCycle t.aliasName.spelling)))

/-- **How the check ends.** Either going down comes to an end from every content type, or the check
names one that takes itself over. -/
theorem checkedCycles (h : Resolved types) : CheckedCycles types (checkCycles types) := by
  have hends := searched_visitAll h (Nat.lt_succ_self types.length)
  unfold checkCycles
  cases hresult : visitAll types (types.length + 1) with
  | error stop =>
    rw [hresult] at hends
    cases hends with
    | cycle ht hcycle => exact .cycle ht hcycle
  | ok marks =>
    rw [hresult] at hends
    obtain ⟨hcovers⟩ := hends
    -- every content type is covered, so it is marked `done`, and that mark stands for grounded
    refine .grounded fun t ht => hcovers.founded _ (hcovers.covered _ ?_)
    exact mem_keys.mpr ⟨t, ht, rfl⟩

end ModelCache.Schema
