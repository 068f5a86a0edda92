import ModelCache.Diagnostic
import ModelCache.Json.Record

/-!
# Diagnostics in JSON

Every part of a diagnostic is a record in the order of its fields; severities and categories are
written by name. A diagnostic without a place has `null` there, and written as an object it may
leave the place out altogether.
-/

namespace ModelCache

open Json (Fields)

namespace Severity

def name : Severity → String
  | note => "Note"
  | warning => "Warning"
  | error => "Error"

def ofName? : String → Option Severity
  | "Note" => some note
  | "Warning" => some warning
  | "Error" => some error
  | _ => none

def toJson (s : Severity) : Json := .text s.name

def ofJson? (j : Json) : Option Severity := j.variant?.bind ofName?

end Severity

namespace Category

def name : Category → String
  | error => "Error"
  | warning => "Warning"
  | model => "Model"

def ofName? : String → Option Category
  | "Error" => some error
  | "Warning" => some warning
  | "Model" => some model
  | _ => none

def toJson (c : Category) : Json := .text c.name

def ofJson? (j : Json) : Option Category := j.variant?.bind ofName?

end Category

namespace Code

def toJson (c : Code) : Json :=
  .record [("category", c.category.toJson), ("number", .natural c.number.toNat)]

def ofJson? (j : Json) : Option Code := do
  let fs ← Fields.of? ["category", "number"] j
  let category ← fs.required? "category" Category.ofJson?
  let number ← fs.required? "number" (Json.below? UInt16.size)
  return { category, number := .ofNat number }

end Code

namespace Location

def toJson (l : Location) : Json :=
  .record [("file", .text l.file), ("line", .natural l.line.toNat),
    ("column", .natural l.column.toNat)]

def ofJson? (j : Json) : Option Location := do
  let fs ← Fields.of? ["file", "line", "column"] j
  let file ← fs.required? "file" Json.text?
  let line ← fs.required? "line" (Json.below? UInt32.size)
  let column ← fs.required? "column" (Json.below? UInt32.size)
  return { file, line := .ofNat line, column := .ofNat column }

end Location

namespace Diagnostic

def toJson (d : Diagnostic) : Json :=
  .record [("severity", d.severity.toJson), ("code", d.code.toJson), ("message", .text d.message),
    ("location", .optional Location.toJson d.location), ("notes", .array (d.notes.map .text))]

def ofJson? (j : Json) : Option Diagnostic := do
  let fs ← Fields.of? ["severity", "code", "message", "location", "notes"] j
  let severity ← fs.required? "severity" Severity.ofJson?
  let code ← fs.required? "code" Code.ofJson?
  let message ← fs.required? "message" Json.text?
  let location ←
    if fs.positional then fs.required? "location" (Json.nullable? Location.ofJson?)
    else fs.defaulted? "location" none (Json.nullable? Location.ofJson?)
  let notes ← fs.required? "notes" (Json.list? Json.text?)
  return { severity, code, message, location, notes }

end Diagnostic

end ModelCache
