/-!
# Lines

A text is a sequence of lines, each ended by a line feed, which the last one may lack. A carriage
return directly before the line feed belongs to the line end. The empty text has no line, and
nothing follows a final line feed.
-/

namespace ModelCache.Text

/-- The lines of a text, without their ends. -/
def lines : List Char → List (List Char)
  | [] => []
  | '\n' :: rest => [] :: lines rest
  | '\r' :: '\n' :: rest => [] :: lines rest
  | c :: rest =>
    match lines rest with
    | [] => [[c]]
    | line :: others => (c :: line) :: others

def endLine (s : String) : String := if s.toList.getLast? = some '\n' then s else s ++ "\n"

/-- What follows a given beginning, if the text has it. -/
def after? : (start text : List Char) → Option (List Char)
  | [], cs => some cs
  | _ :: _, [] => none
  | a :: start, c :: cs => if a = c then after? start cs else none

/-- What follows a given beginning is what was put behind it. -/
@[simp] theorem after?_append (start cs : List Char) : after? start (start ++ cs) = some cs := by
  induction start with
  | nil => rfl
  | cons a start ih => simp [after?, ih]

end ModelCache.Text
