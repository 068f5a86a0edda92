import ModelCache.Proofs.Cache.Versions
import ModelCache.Proofs.Store

/-!
# Histories of a store

Caches that run one after another over the same store, which nobody else touches. Each is started
over what the store then holds, finds the stored record there when it builds, and leaves in the store
what its calls do to it. Everything else that a call meets is open.

* **`History.next`** — a cache is started, in place of the one that runs, or the one that runs is
  called.
* **`History.run_induction`** — what every move keeps holds of every history; `SavesUnits` limits
  this to histories in which no unit that is saved is lost.
* **`History.run_sessions`** — every session of a history is a session as such, so that what holds of
  all sessions holds of those of a history.
-/

namespace ModelCache

/-- Something that happens over a store. -/
inductive Move where
  /-- A cache is started. The one that ran before has ended. -/
  | start (options : Options)
  /-- The cache that runs is called. The record that it finds is the store's. -/
  | call (around : Surroundings) (request : Request)

/-- Caches that run one after another over one store. -/
structure History (σ : Type) where
  /-- What the store holds. -/
  store : σ
  /-- The sessions that have ended, oldest first. -/
  ended : List Session
  /-- The session that goes on. -/
  running : Option Session

namespace History

variable {σ : Type} (S : RecordStore σ)

/-- All sessions, oldest first. -/
def sessions (h : History σ) : List Session := h.ended ++ h.running.toList

/-- A store over which no cache has run yet. -/
def begin (store : σ) : History σ := ⟨store, [], none⟩

/-- What a call meets that is made over the store. -/
def meet (h : History σ) (around : Surroundings) : Surroundings :=
  { around with record := S.loadRecord h.store }

/-- The session that a start begins. -/
def opening (h : History σ) (options : Options) : Session :=
  .start options (S.loadRecord h.store) (S.loadUnit h.store)

/-- What a move does at the store. -/
def events (h : History σ) : Move → List Event
  | .start _ => []
  | .call around request =>
    match h.running with
    | some s => (s.call (h.meet S around) request).events
    | none => []

/-- The history after a move. -/
def next (h : History σ) : Move → History σ
  | .start options => ⟨h.store, h.sessions, some (h.opening S options)⟩
  | .call around request =>
    { h with
      store := S.run h.store (h.events S (.call around request))
      running := h.running.map fun s => s.next (h.meet S around) request }

/-- The history after some moves. -/
def run (h : History σ) (moves : List Move) : History σ := moves.foldl (next S) h

/-- Whether every unit that is saved in the course of some moves is saved without a failure. -/
def SavesUnits (h : History σ) : List Move → Prop
  | [] => True
  | m :: rest => S.SavesUnits h.store (h.events S m) ∧ SavesUnits (h.next S m) rest

variable {S}

/-- What every move keeps, as long as no unit is lost, holds after any number of moves. -/
theorem run_induction {P : History σ → Prop} {h : History σ} {moves : List Move} (hbegin : P h)
    (hnext : ∀ h m, S.SavesUnits h.store (h.events S m) → P h → P (h.next S m))
    (hsaves : h.SavesUnits S moves) : P (h.run S moves) := by
  induction moves generalizing h with
  | nil => exact hbegin
  | cons m rest ih => exact ih (hnext h m hsaves.1 hbegin) hsaves.2

/-- What every move keeps holds after any number of moves. -/
theorem run_keeps {P : History σ → Prop} {h : History σ} (hbegin : P h)
    (hnext : ∀ h m, P h → P (h.next S m)) (moves : List Move) : P (h.run S moves) := by
  induction moves generalizing h with
  | nil => exact hbegin
  | cons m rest ih => exact ih (hnext h m hbegin)

/-- A store that never fails to save a unit loses none. -/
theorem savesUnits_of_always (halways : ∀ s text, (S.saveUnit s text).1 = true) (h : History σ)
    (moves : List Move) : h.SavesUnits S moves := by
  induction moves generalizing h with
  | nil => trivial
  | cons m rest ih => exact ⟨S.savesUnits_of_always halways h.store _, ih (h.next S m)⟩

/-- A call that no session goes on for changes nothing. -/
theorem next_call_of_none {h : History σ} (hrunning : h.running = none) (around : Surroundings)
    (request : Request) : h.next S (.call around request) = h := by
  unfold next events
  rw [hrunning]
  obtain ⟨store, ended, running⟩ := h
  cases hrunning
  rfl

theorem sessions_of_running {h : History σ} {s : Session} (hrunning : h.running = some s) :
    h.sessions = h.ended ++ [s] := by
  rw [sessions, hrunning]
  rfl

theorem next_call_of_some {h : History σ} {s : Session} (hrunning : h.running = some s)
    (around : Surroundings) (request : Request) :
    h.next S (.call around request) =
      ⟨S.run h.store (s.call (h.meet S around) request).events, h.ended,
        some (s.next (h.meet S around) request)⟩ := by
  unfold next events
  rw [hrunning]
  rfl

/-! ## Sessions of a history -/

/-- Every session of a history is a session as such. -/
theorem run_sessions (store : σ) (moves : List Move) :
    ∀ s ∈ ((begin store).run S moves).sessions, s.Reached := by
  refine run_keeps (P := fun h => ∀ s ∈ h.sessions, s.Reached)
    (fun s hs => absurd hs List.not_mem_nil) (fun h m hall => ?_) moves
  -- a start adds a session, and a call changes none but the running one
  cases m with
  | start options =>
    intro s hs
    rcases List.mem_append.mp hs with hs | hs
    · exact hall s hs
    · rw [List.mem_singleton.mp hs]
      exact Session.reached_start options (S.loadRecord h.store) (S.loadUnit h.store)
  | call around request =>
    cases hrunning : h.running with
    | none =>
      rw [next_call_of_none hrunning]
      exact hall
    | some current =>
      rw [next_call_of_some hrunning]
      rw [sessions_of_running hrunning] at hall
      intro s hs
      rcases List.mem_append.mp hs with hs | hs
      · exact hall s (List.mem_append_left _ hs)
      · rw [List.mem_singleton.mp hs]
        exact (hall current (by simp)).next _ _

end History

end ModelCache
