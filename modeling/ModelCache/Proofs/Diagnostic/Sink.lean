import Mathlib.Data.List.Perm.Subperm
import Mathlib.Logic.Function.Basic
import ModelCache.Diagnostic.Sink

/-!
# Nothing that is reported gets lost

A sink is shared by any number of threads. To take a diagnostic is two steps, and between them other
threads report, drain, copy and ask. So the count and the list do not agree at every moment. What they
do agree with is the log: the count with the first steps, the list and all that was drained with the
second ones, and the second steps of a thread with its first ones, but for a report that the thread is
in the middle of.

The count is a natural number here. A word agrees with it as long as not more errors are reported than
it can hold.

* **`Step`** and **`Run`** — any interleaving of what the threads do, with the log of it.
* **`Sound`** — the agreement with the log. **`Sound.step`** and **`Run.sound`** — it lasts.
* **`Run.account`** — what follows for those who look on, and for who ends the compilation.
-/

namespace ModelCache.Sink

/-! ## What threads do -/

/-- What a thread does with a sink in one step, and what it gets for it. -/
inductive Deed where
  /-- The first step of taking a diagnostic. -/
  | counted (d : Diagnostic)
  /-- The second step. -/
  | appended (d : Diagnostic)
  | drained (ds : List Diagnostic)
  | copied (ds : List Diagnostic)
  | asked (errors : Nat)

namespace Deed

def report? : Deed → Option Diagnostic
  | counted d => some d
  | appended _ | drained _ | copied _ | asked _ => none

def entry? : Deed → Option Diagnostic
  | appended d => some d
  | counted _ | drained _ | copied _ | asked _ => none

/-- What was taken out of the sink. -/
def taken : Deed → List Diagnostic
  | drained ds => ds
  | counted _ | appended _ | copied _ | asked _ => []

/-- What the thread got to see. -/
def seen : Deed → List Diagnostic
  | drained ds | copied ds => ds
  | counted _ | appended _ | asked _ => []

end Deed

section Log

variable {ι : Type} (log : List (ι × Deed)) (i : ι) (deed : Deed)

/-- What was reported, and by whom. -/
def reports : List (ι × Diagnostic) := log.filterMap fun (i, deed) => deed.report?.map (i, ·)

/-- What was put in the list, and by whom. -/
def entries : List (ι × Diagnostic) := log.filterMap fun (i, deed) => deed.entry?.map (i, ·)

def reported : List Diagnostic := (reports log).map Prod.snd

def entered : List Diagnostic := (entries log).map Prod.snd

def drained : List Diagnostic := log.flatMap (·.2.taken)

def seen : List Diagnostic := log.flatMap (·.2.seen)

@[simp] theorem reports_concat :
    reports (log ++ [(i, deed)]) = reports log ++ (deed.report?.map (i, ·)).toList := by
  rw [reports, List.filterMap_append]
  cases deed <;> rfl

@[simp] theorem entries_concat :
    entries (log ++ [(i, deed)]) = entries log ++ (deed.entry?.map (i, ·)).toList := by
  rw [entries, List.filterMap_append]
  cases deed <;> rfl

@[simp] theorem reported_concat : reported (log ++ [(i, deed)]) = reported log ++ deed.report?.toList := by
  rw [reported, reports_concat, List.map_append]
  cases deed <;> rfl

@[simp] theorem entered_concat : entered (log ++ [(i, deed)]) = entered log ++ deed.entry?.toList := by
  rw [entered, entries_concat, List.map_append]
  cases deed <;> rfl

@[simp] theorem drained_concat : drained (log ++ [(i, deed)]) = drained log ++ deed.taken := by
  rw [drained, List.flatMap_append, List.flatMap_singleton]
  rfl

@[simp] theorem seen_concat : seen (log ++ [(i, deed)]) = seen log ++ deed.seen := by
  rw [seen, List.flatMap_append, List.flatMap_singleton]
  rfl

end Log

/-! ## Threads side by side -/

/-- A sink, and the diagnostic that each thread is in the middle of reporting, if it is. -/
structure Shared (ι : Type) where
  sink : Sink
  midway : ι → Option Diagnostic

namespace Shared

variable {ι : Type}

def start : Shared ι := ⟨empty, fun _ => none⟩

/-- Every report has been completed. -/
def Quiet (w : Shared ι) : Prop := ∀ i, w.midway i = none

end Shared

variable {ι : Type} [DecidableEq ι] {log before after : List (ι × Deed)} {w w' : Shared ι} {i : ι}
  {deed : Deed} {n : Nat}

/-- One step of one thread. A thread does one thing at a time, and so it completes a report before it
does anything else. -/
inductive Step (w : Shared ι) (i : ι) : Deed → Shared ι → Prop where
  | count (d : Diagnostic) (hidle : w.midway i = none) :
      Step w i (.counted d) ⟨w.sink.count d, Function.update w.midway i (some d)⟩
  | append (d : Diagnostic) (hmidway : w.midway i = some d) :
      Step w i (.appended d) ⟨w.sink.append d, Function.update w.midway i none⟩
  | drain (hidle : w.midway i = none) :
      Step w i (.drained w.sink.takeAll.1) { w with sink := w.sink.takeAll.2 }
  | copy (hidle : w.midway i = none) : Step w i (.copied w.sink.stored) w
  | ask (hidle : w.midway i = none) : Step w i (.asked w.sink.errors) w

/-- Any number of steps, from an empty sink on, with the log of what was done, oldest first. -/
inductive Run : List (ι × Deed) → Shared ι → Prop where
  | start : Run [] .start
  | step {log : List (ι × Deed)} {w w' : Shared ι} {i : ι} {deed : Deed} (h : Run log w)
      (hstep : Step w i deed w') : Run (log ++ [(i, deed)]) w'

/-- Every moment of a run is the end of a run. -/
theorem Run.exists_before (h : Run log w) (hlog : log = before ++ (i, deed) :: after) :
    ∃ v v', Run before v ∧ Step v i deed v' := by
  induction h generalizing after with
  | start => exact absurd hlog (by simp)
  | step h hstep ih =>
    rcases List.eq_nil_or_concat after with rfl | ⟨after, last, rfl⟩
    · obtain ⟨rfl, heq⟩ := List.append_inj' hlog rfl
      cases heq
      exact ⟨_, _, h, hstep⟩
    · rw [List.concat_eq_append, ← List.cons_append, ← List.append_assoc] at hlog
      obtain ⟨rfl, -⟩ := List.append_inj' hlog rfl
      exact ih rfl

/-! ## Agreement with the log -/

/-- A sink and the threads that share it are where the log says. -/
structure Sound (log : List (ι × Deed)) (w : Shared ι) : Prop where
  errors_eq : w.sink.errors = Diagnostic.errorCount (reported log)
  /-- The list was drained from the front, and nothing was left out or taken twice. -/
  stored_eq : drained log ++ w.sink.stored = entered log
  /-- A thread has put in the list what it reported, in the order in which it did. -/
  in_order (i : ι) : (reports log).filter (·.1 = i) =
    (entries log).filter (·.1 = i) ++ (w.midway i).toList.map (i, ·)
  seen_subset : seen log ⊆ entered log

theorem sound_start : Sound ([] : List (ι × Deed)) .start where
  errors_eq := rfl
  stored_eq := rfl
  in_order _ := rfl
  seen_subset := List.Subset.refl _

@[simp] theorem stored_count (s : Sink) (d : Diagnostic) : (s.count d).stored = s.stored := by
  unfold count
  split <;> rfl

theorem errors_count (s : Sink) (d : Diagnostic) :
    (s.count d).errors = s.errors + Diagnostic.errorCount [d] := by
  unfold count Diagnostic.errorCount
  rw [List.countP_singleton]
  split <;> rfl

theorem errorCount_append (ds ds' : List Diagnostic) :
    Diagnostic.errorCount (ds ++ ds') = Diagnostic.errorCount ds + Diagnostic.errorCount ds' :=
  List.countP_append

/-- A thread that goes on to something else has nothing half reported, before and after. -/
theorem Sound.in_order_of_idle (h : Sound log w) (hreport : deed.report? = none)
    (hentry : deed.entry? = none) (j : ι) :
    (reports (log ++ [(i, deed)])).filter (·.1 = j) =
      (entries (log ++ [(i, deed)])).filter (·.1 = j) ++ (w.midway j).toList.map (j, ·) := by
  rw [reports_concat, entries_concat, hreport, hentry]
  simpa using h.in_order j

theorem Sound.stored_subset (h : Sound log w) : w.sink.stored ⊆ entered log := by
  rw [← h.stored_eq]
  exact List.subset_append_right _ _

/-- **Every step keeps the agreement.** -/
theorem Sound.step (h : Sound log w) (hstep : Step w i deed w') :
    Sound (log ++ [(i, deed)]) w' := by
  cases hstep with
  | count d hidle =>
    refine ⟨?_, ?_, fun j => ?_, ?_⟩
    · rw [reported_concat, errorCount_append, ← h.errors_eq]
      exact errors_count _ _
    · simpa [Deed.taken, Deed.entry?] using h.stored_eq
    · -- the thread had nothing half reported, and now has this diagnostic
      by_cases hj : j = i
      · subst hj
        simp [Deed.report?, Deed.entry?, h.in_order, hidle]
      · simp [Deed.report?, Deed.entry?, h.in_order, Function.update_of_ne hj, Ne.symm hj]
    · simpa [Deed.seen, Deed.entry?] using h.seen_subset
  | append d hmidway =>
    refine ⟨?_, ?_, fun j => ?_, ?_⟩
    · simpa [Deed.report?, append] using h.errors_eq
    · simp [Deed.taken, Deed.entry?, append, ← h.stored_eq]
    · -- what the thread had half reported is what it puts in the list
      by_cases hj : j = i
      · subst hj
        simp [Deed.report?, Deed.entry?, h.in_order, hmidway]
      · simp [Deed.report?, Deed.entry?, h.in_order, Function.update_of_ne hj, Ne.symm hj]
    · rw [seen_concat, entered_concat]
      exact List.append_subset.mpr
        ⟨List.Subset.trans h.seen_subset (List.subset_append_left _ _), List.nil_subset _⟩
  | drain hidle =>
    refine ⟨?_, ?_, h.in_order_of_idle rfl rfl, ?_⟩
    · simpa [Deed.report?, takeAll] using h.errors_eq
    · simpa [Deed.taken, Deed.entry?, takeAll] using h.stored_eq
    · simpa [Deed.seen, Deed.entry?, takeAll] using ⟨h.seen_subset, h.stored_subset⟩
  | copy hidle =>
    refine ⟨?_, ?_, h.in_order_of_idle rfl rfl, ?_⟩
    · simpa [Deed.report?] using h.errors_eq
    · simpa [Deed.taken, Deed.entry?] using h.stored_eq
    · simpa [Deed.seen, Deed.entry?] using ⟨h.seen_subset, h.stored_subset⟩
  | ask hidle =>
    refine ⟨?_, ?_, h.in_order_of_idle rfl rfl, ?_⟩
    · simpa [Deed.report?] using h.errors_eq
    · simpa [Deed.taken, Deed.entry?] using h.stored_eq
    · simpa [Deed.seen, Deed.entry?] using h.seen_subset

/-- **Every run keeps the agreement.** -/
theorem Run.sound (h : Run log w) : Sound log w := by
  induction h with
  | start => exact sound_start
  | step _ hstep ih => exact ih.step hstep

/-! ## What follows -/

/-- Of each diagnostic, a thread has put in the list as many as it reported, or one less if it is in the
middle of reporting it. -/
theorem Sound.count_reports (h : Sound log w) (p : ι × Diagnostic) :
    (reports log).count p =
      (entries log).count p + ((w.midway p.1).toList.map (p.1, ·)).count p := by
  have hthread (l : List (ι × Diagnostic)) : (l.filter (·.1 = p.1)).count p = l.count p :=
    List.count_filter (decide_eq_true rfl)
  rw [← hthread, h.in_order, List.count_append, hthread]

/-- An error is counted before it is put in the list. -/
theorem Sound.errorCount_entered_le (h : Sound log w) :
    Diagnostic.errorCount (entered log) ≤ w.sink.errors := by
  have hsubperm : List.Subperm (entries log) (reports log) := by
    refine List.subperm_ext_iff.mpr fun p _ => ?_
    rw [h.count_reports]
    exact Nat.le_add_right _ _
  rw [h.errors_eq, Diagnostic.errorCount, Diagnostic.errorCount, entered, reported, List.countP_map,
    List.countP_map]
  exact hsubperm.countP_le _

/-- What was reported has been put in the list, once every report is completed. -/
theorem Sound.entered_perm (h : Sound log w) (hquiet : w.Quiet) :
    (entered log).Perm (reported log) := by
  refine List.Perm.map Prod.snd (List.perm_iff_count.mpr fun p => ?_)
  rw [h.count_reports, hquiet]
  rfl

theorem errorCount_pos_iff {ds : List Diagnostic} :
    0 < Diagnostic.errorCount ds ↔ ∃ d ∈ ds, d.severity.isError = true :=
  List.countP_pos_iff

theorem Sound.errors_pos_of_seen (h : Sound log w) {d : Diagnostic} (hd : d ∈ seen log)
    (herror : d.severity.isError = true) : 0 < w.sink.errors :=
  Nat.lt_of_lt_of_le (errorCount_pos_iff.mpr ⟨d, h.seen_subset hd, herror⟩)
    h.errorCount_entered_le

theorem Sound.hasErrors_eq (h : Sound log w) :
    w.sink.hasErrors = (reported log).any (·.severity.isError) := by
  rw [hasErrors, h.errors_eq, Bool.eq_iff_iff, decide_eq_true_iff, List.any_eq_true]
  exact errorCount_pos_iff

/-- What can be told from a sink that threads share. -/
structure Account (log : List (ι × Deed)) (w : Shared ι) : Prop where
  /-- The count is of the errors reported, drained or not. -/
  counted : w.sink.errors = Diagnostic.errorCount (reported log)
  /-- The errors that were drained and those in the list have all been counted. -/
  covered : Diagnostic.errorCount (drained log) + Diagnostic.errorCount w.sink.stored ≤ w.sink.errors
  /-- Once an error was seen in a list, the sink has errors. -/
  has_errors : ∀ d ∈ seen log, d.severity.isError = true → w.sink.hasErrors = true
  /-- Who asks is told how many errors were reported until then, and so not none after one was seen. -/
  answered : ∀ before after i n, log = before ++ (i, .asked n) :: after →
    n = Diagnostic.errorCount (reported before) ∧
      ∀ d ∈ seen before, d.severity.isError = true → 0 < n
  /-- In the end, everything that was reported was drained or is handed out, and it was so once. The
  compilation failed exactly if an error was reported. -/
  finished : w.Quiet → ∃ rest, (drained log ++ rest).Perm (reported log) ∧
    w.sink.finish = if (reported log).any (·.severity.isError) then .error rest else .ok rest

/-- **Nothing that is reported gets lost**, whatever the threads do and in whatever order. -/
theorem Run.account (h : Run log w) : Account log w where
  counted := h.sound.errors_eq
  covered := by
    rw [← errorCount_append, h.sound.stored_eq]
    exact h.sound.errorCount_entered_le
  has_errors d hd herror := decide_eq_true (h.sound.errors_pos_of_seen hd herror)
  answered before after i n hlog := by
    obtain ⟨v, v', hbefore, hstep⟩ := h.exists_before hlog
    cases hstep with
    | ask => exact ⟨hbefore.sound.errors_eq, fun d => hbefore.sound.errors_pos_of_seen⟩
  finished hquiet := by
    refine ⟨w.sink.stored, ?_, ?_⟩
    · rw [h.sound.stored_eq]
      exact h.sound.entered_perm hquiet
    · rw [finish, h.sound.hasErrors_eq]

/-! ## Two threads -/

namespace TwoThreads

def problem : Diagnostic := .plain .error ⟨.error, 412⟩ "unknown type"

def remark : Diagnostic := .plain .warning ⟨.warning, 3⟩ "unused import"

/-- The second thread reports and looks on while the first one is in the middle of a report, and
drains the list before it reports once more. -/
def deeds : List (Bool × Deed) :=
  [(false, .counted problem), (true, .counted remark), (true, .appended remark),
    (true, .copied [remark]), (true, .asked 1), (false, .appended problem),
    (true, .drained [remark, problem]), (true, .counted remark), (true, .appended remark)]

theorem exists_run : ∃ w, Run deeds w ∧ w.Quiet ∧ w.sink = ⟨[remark], 1⟩ := by
  have h := Run.start.step (.count (i := false) problem rfl)
  have h := h.step (.count (i := true) remark rfl)
  have h := h.step (.append (i := true) remark rfl)
  have h := h.step (.copy (i := true) rfl)
  have h := h.step (.ask (i := true) rfl)
  have h := h.step (.append (i := false) problem rfl)
  have h := h.step (.drain (i := true) rfl)
  have h := h.step (.count (i := true) remark rfl)
  have h := h.step (.append (i := true) remark rfl)
  exact ⟨_, h, fun i => by cases i <;> rfl, rfl⟩

/-- The error was drained, and only the second remark is left. Still the compilation has failed, and
nothing is missing. -/
theorem account_after_drain :
    ∃ w, Run deeds w ∧ w.Quiet ∧ w.sink.errors = 1 ∧ w.sink.hasErrors = true ∧
      ∃ rest, (drained deeds ++ rest).Perm [problem, remark, remark] ∧
        w.sink.finish = .error rest := by
  obtain ⟨w, hrun, hquiet, -⟩ := exists_run
  have haccount := hrun.account
  obtain ⟨rest, hperm, hfinish⟩ := haccount.finished hquiet
  exact ⟨w, hrun, hquiet, haccount.counted, haccount.has_errors problem (by decide) rfl, rest, hperm,
    hfinish⟩

end TwoThreads

end ModelCache.Sink
