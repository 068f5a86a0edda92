import ModelCache.Diagnostic
import ModelCache.Text.Line

/-!
# Rendered diagnostics

A diagnostic takes a block of lines: its severity, code and message; the place it is about; the line
of the source text at that place, if the text is at hand and has such a line, framed by a gutter as
wide as the line number and with a caret below the column; and its notes.

Lines and columns count from one. A line or column number of zero is treated as one.
-/

namespace ModelCache.Diagnostic

def spaces (n : Nat) : String := String.ofList (List.replicate n ' ')

/-- The line of a source text at a line number. -/
def sourceLine? (source : String) (line : Nat) : Option String :=
  ((Text.lines source.toList)[line - 1]?).map String.ofList

/-- A line of source text with its number and a caret below a column. -/
def quoteLine (line column : Nat) (content : String) : String :=
  let number := toString line
  let gutter := spaces number.length
  gutter ++ " |\n" ++ number ++ " | " ++ content ++ "\n" ++
    gutter ++ " | " ++ spaces (column - 1) ++ "^\n"

/-- The place of a diagnostic, with the line of the source text there if it is to be quoted. -/
def renderLocation (source : Option String) (l : Location) : String :=
  let quote := (source.bind (sourceLine? · l.line.toNat)).map
    (quoteLine l.line.toNat l.column.toNat)
  "  --> " ++ l.text ++ "\n" ++ quote.getD ""

/-- A diagnostic as a block of lines, with lines quoted from the source text if one is given. -/
def render (source : Option String) (d : Diagnostic) : String :=
  s!"{d.severity.word}[{d.code.text}]: {d.message}\n" ++
    ((d.location.map (renderLocation source)).getD "") ++
    String.join (d.notes.map fun note => s!"   = note: {note}\n")

def renderAll (source : Option String) (ds : List Diagnostic) : String :=
  String.join (ds.map (render source))

end ModelCache.Diagnostic
