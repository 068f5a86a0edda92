/-!
# TOML documents

A TOML text is a sequence of statements: headers, which open a table, and pairs, which put a value
under a key of the table that is open. Keys may be dotted, and so name tables inside tables.

`Toml.Value` is what a document denotes. The document under construction is made of `Node`s, which
remember how each table came about, because that decides who may still add to it:

* a table with a header of its own takes no second header;
* a table that only appears on the way to another header may still get its own;
* a table that only appears in a dotted key takes further dotted keys, and no header;
* an inline table takes nothing at all, and neither does any other value;
* an array of tables takes further headers with double brackets, and whatever else names it means
  its last element.
-/

namespace ModelCache.Toml

/-- What a TOML text denotes. Fractions and times are of no use to anyone here, so nothing is kept
of them but their kind. -/
inductive Value where
  | string (s : String)
  /-- An integer of 64 bits. -/
  | integer (n : Int)
  /-- A number with a fraction or an exponent, infinite, or not a number. -/
  | float
  | boolean (b : Bool)
  /-- A date, a time, or both. -/
  | dateTime
  | array (items : List Value)
  /-- A table of values by key. -/
  | table (entries : List (String × Value))
  deriving Repr

/-- How a table came about. -/
inductive Origin where
  /-- By a header of its own. -/
  | header
  /-- On the way to another header. -/
  | passing
  /-- As part of a dotted key. -/
  | dotted
  deriving DecidableEq, Repr

/-- A part of a document under construction. -/
inductive Node where
  | value (v : Value)
  | table (origin : Origin) (entries : List (String × Node))
  /-- The elements of an array of tables, last one first. -/
  | tables (elements : List (List (String × Node)))
  deriving Repr

/-- A statement of a document. -/
inductive Statement where
  /-- A header, with its key. -/
  | header (key : List String)
  /-- A header of an array of tables, with its key. -/
  | arrayHeader (key : List String)
  /-- A pair: the parts of the key before the last one, the last one, and the value. -/
  | pair (path : List String) (key : String) (value : Value)
  deriving Repr

/-- Keys with what stands under them, in the order in which they came. -/
abbrev Entries := List (String × Node)

namespace Entries

/-- Puts a node under a key that may be present already. -/
def set (es : Entries) (key : String) (n : Node) : Entries :=
  match es with
  | [] => [(key, n)]
  | (k, m) :: rest => if k = key then (k, n) :: rest else (k, m) :: set rest key n

end Entries

/-- Changes the table that a path leads to, and makes the tables on the way that are missing; `make`
says how those come about. A dotted key does not lead through tables with headers of their own. -/
def updateAt (make : Origin) (change : Origin → Entries → Option Entries) :
    (path : List String) → Origin → Entries → Option Entries
  | [], origin, es => change origin es
  | key :: path, _, es =>
    match es.lookup key with
    | none => (updateAt make change path make []).map fun sub => es.set key (.table make sub)
    | some (.table origin sub) =>
      if make = .dotted ∧ origin = .header then none
      else (updateAt make change path origin sub).map fun sub => es.set key (.table origin sub)
    | some (.tables (last :: before)) =>
      (updateAt make change path .header last).map fun last => es.set key (.tables (last :: before))
    | some _ => none

/-- Puts a pair into a table: the tables that its dotted key names must come from dotted keys, and
nothing may stand under the key yet. -/
def addPair (path : List String) (key : String) (v : Node) (es : Entries) : Option Entries :=
  updateAt .dotted (fun origin es =>
    if (path ≠ [] ∧ origin ≠ .dotted) ∨ (es.lookup key).isSome then none
    else some (es.set key v)) path .header es

/-- Opens the table of a header: a new one, or one that appeared on the way to another header. -/
def openTable (key : String) (_ : Origin) (es : Entries) : Option Entries :=
  match es.lookup key with
  | none => some (es.set key (.table .header []))
  | some (.table .passing sub) => some (es.set key (.table .header sub))
  | some _ => none

/-- Opens a new element of an array of tables. -/
def openElement (key : String) (_ : Origin) (es : Entries) : Option Entries :=
  match es.lookup key with
  | none => some (es.set key (.tables [[]]))
  | some (.tables elements) => some (es.set key (.tables ([] :: elements)))
  | some _ => none

/-- Carries out statements on a document whose open table is the one that `here` leads to. -/
def build (here : List String) (doc : Entries) : List Statement → Option Entries
  | [] => some doc
  | .header key :: rest => do
    let doc ← updateAt .passing (openTable (key.getLastD "")) key.dropLast .header doc
    build key doc rest
  | .arrayHeader key :: rest => do
    let doc ← updateAt .passing (openElement (key.getLastD "")) key.dropLast .header doc
    build key doc rest
  | .pair path key v :: rest => do
    let doc ← updateAt .passing (fun _ es => addPair path key (.value v) es) here .header doc
    build here doc rest

mutual

/-- What a finished node denotes. -/
def Node.toValue : Node → Value
  | .value v => v
  | .table _ entries => .table (entryValues entries)
  | .tables elements => .array (elementValues elements).reverse

def entryValues : List (String × Node) → List (String × Value)
  | [] => []
  | (key, n) :: rest => (key, n.toValue) :: entryValues rest

/-- What the finished elements of an array of tables denote. -/
def elementValues : List (List (String × Node)) → List Value
  | [] => []
  | es :: rest => .table (entryValues es) :: elementValues rest

end

/-- What a sequence of statements denotes: the entries of the table at the top. -/
def ofStatements? (statements : List Statement) : Option (List (String × Value)) :=
  (build [] [] statements).map entryValues

/-- What the pairs of an inline table denote. They follow the rules of pairs in an open table. -/
def inlineTable? (pairs : List (List String × String × Value)) : Option Value :=
  (pairs.foldlM (fun es (path, key, v) => addPair path key (.value v) es) []).map
    fun es => .table (entryValues es)

end ModelCache.Toml
