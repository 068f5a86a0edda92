import ModelCache.Diagnostic

/-!
# Collecting diagnostics

A sink takes the diagnostics of one compilation. It keeps the number of errors apart from the list,
so that draining the list does not forget that there were errors. Taking a diagnostic is two steps,
first the count and then the list, because several threads may report at once; the steps of one
report can have steps of others between them.
-/

namespace ModelCache

/-- What has been reported so far. -/
structure Sink where
  /-- The diagnostics that have not been drained, oldest first. -/
  stored : List Diagnostic
  /-- How many errors were reported, drained or not. -/
  errors : Nat
  deriving DecidableEq, Repr

namespace Sink

def empty : Sink := ⟨[], 0⟩

/-- The first step of taking a diagnostic: an error is counted. -/
def count (s : Sink) (d : Diagnostic) : Sink :=
  if d.severity.isError then { s with errors := s.errors + 1 } else s

/-- The second step of taking a diagnostic: it is put at the end of the list. -/
def append (s : Sink) (d : Diagnostic) : Sink := { s with stored := s.stored ++ [d] }

/-- Takes a diagnostic, with nothing in between. -/
def emit (s : Sink) (d : Diagnostic) : Sink := (s.count d).append d

def hasErrors (s : Sink) : Bool := s.errors > 0

/-- Hands out the stored diagnostics and forgets them; the count stays. -/
def takeAll (s : Sink) : List Diagnostic × Sink := (s.stored, { s with stored := [] })

/-- Ends the compilation, which failed if an error was ever counted. Either way the diagnostics that
were not drained are handed out. -/
def finish (s : Sink) : Except (List Diagnostic) (List Diagnostic) :=
  if s.hasErrors then .error s.stored else .ok s.stored

end Sink

end ModelCache
