import ModelCache.Path
import ModelCache.Text.Utf8

/-!
# File trees

Files and directories, as a value. A path is followed component by component, and every component
but the last must lead to a directory. A path that starts with a slash is followed from the top of
the tree. Any other path starts with the name of a working directory, which lies among the temporary
files. A path can climb out of a working directory, up to the top and no further, but it cannot come
back by the directory's name: nothing but the start of a path stands for it.

What can go wrong is a `Fault`. An operation that fails leaves the tree as it is, with two
exceptions, which therefore always give the tree they leave: making several directories in a row may
have made the first of them, and removing a directory with all that is in it empties the directory
before it fails.

In particular a write that fails leaves the old file. This is an assumption: a file system can cut a
file short and then fail to fill it, as when a disk is full, and that is left out. So is everything
else that a file system does in the middle of an operation.

Where a path leads depends on its components alone. Its spelling matters at the end: a slash or a
dot there asks for a directory. The dot stands for an entry of that directory, so a directory can be
neither made nor removed under a spelling that ends in a dot.
-/

namespace ModelCache

/-- What can go wrong with files. -/
inductive Fault where
  /-- There is nothing at the path. -/
  | missing
  /-- A directory was needed, and there is a file. -/
  | notDirectory
  /-- A file was needed, and there is a directory. -/
  | isDirectory
  /-- There is a file where a directory was to be made. -/
  | alreadyExists
  /-- A directory was to be removed, and there is something in it. -/
  | notEmpty
  /-- A directory was to be removed under a spelling that ends in a dot. -/
  | dotAtEnd
  /-- A name or a whole path is longer than it may be. -/
  | nameTooLong
  /-- The path has a zero character in it. -/
  | zeroInPath
  /-- The content is no text. -/
  | notText
  deriving DecidableEq, Repr

def Fault.message : Fault → String
  | missing => "No such file or directory (os error 2)"
  | notDirectory => "Not a directory (os error 20)"
  | isDirectory => "Is a directory (os error 21)"
  | alreadyExists => "File exists (os error 17)"
  | notEmpty => "Directory not empty (os error 39)"
  | dotAtEnd => "Invalid argument (os error 22)"
  | nameTooLong => "File name too long (os error 36)"
  | zeroInPath => "file name contained an unexpected NUL byte"
  | notText => "stream did not contain valid UTF-8"

/-- What stands at a place in a tree. -/
inductive Entry where
  | directory
  | file (content : List UInt8)
  deriving DecidableEq, Repr

/-- A place in a tree: the names that lead to it from the top. -/
abbrev Address := List String

/-- Files and directories. -/
structure FileTree where
  /-- What there is, apart from the top itself. -/
  entries : List (Address × Entry)
  deriving Repr

namespace FileTree

def empty : FileTree := ⟨[]⟩

/-! ## Places -/

def get? (t : FileTree) (a : Address) : Option Entry :=
  if a = [] then some .directory else t.entries.lookup a

def put (t : FileTree) (a : Address) (e : Entry) : FileTree :=
  if t.entries.any (·.1 == a) then
    ⟨t.entries.map fun (b, old) => if b = a then (b, e) else (b, old)⟩
  else ⟨t.entries ++ [(a, e)]⟩

/-- The tree without a place and all that is below it. -/
def prune (t : FileTree) (a : Address) : FileTree :=
  ⟨t.entries.filter fun (b, _) => !a.isPrefixOf b⟩

/-- The tree without all that is below a place. -/
def clearOut (t : FileTree) (a : Address) : FileTree :=
  ⟨t.entries.filter fun (b, _) => b = a || !a.isPrefixOf b⟩

/-- The names of what is directly at a place, with what stands there. -/
def children (t : FileTree) (a : Address) : List (String × Entry) :=
  t.entries.filterMap fun (b, e) =>
    match b.getLast? with
    | some name => if b.dropLast = a then some (name, e) else none
    | none => none

/-! ## Following paths -/

/-- The number of bytes that a name may have. -/
def longestName : Nat := 255

/-- The number of bytes that the spelling of a path may have. -/
def longestPath : Nat := 4095

def temporary : Address := ["tmp"]

/-- The working directory that a path begins in if it starts with a name. Its own name has a slash
in it, which no path can spell, so that no path reaches the directory by that name. -/
def working (name : String) : Address := temporary ++ ["/" ++ name]

/-- Where the components of a path start to be followed, and which of them are left. A path that
starts with a double dot leads nowhere, as there is no directory yet to climb out of. -/
def enter : List Path.Component → Except Fault (Address × List Path.Component)
  | [] => .ok ([], [])
  | .root :: rest => .ok ([], rest)
  | .here :: rest => enter rest
  | .up :: _ => .error .missing
  | .name n :: rest =>
    if longestName < n.utf8ByteSize then .error .nameTooLong else .ok (working n, rest)

/-- The place that a component leads to from a place that a directory stands at. The top is above
itself. -/
def step (a : Address) : Path.Component → Except Fault Address
  | .root => .ok []
  | .here => .ok a
  | .up => .ok a.dropLast
  | .name n => if longestName < n.utf8ByteSize then .error .nameTooLong else .ok (a ++ [n])

/-- The place that components lead to from a place. Nothing need stand there. -/
def follow (t : FileTree) (a : Address) : List Path.Component → Except Fault Address
  | [] => .ok a
  | c :: rest =>
    match t.get? a with
    | none => .error .missing
    | some (.file _) => .error .notDirectory
    | some .directory =>
      match step a c with
      | .error f => .error f
      | .ok b => t.follow b rest

/-- Whether a path can be followed as it is spelled, wherever it leads. -/
def checkSpelling (p : Path) : Except Fault Unit :=
  if '\x00' ∈ p.text.toList then .error .zeroInPath
  else if longestPath < p.text.utf8ByteSize then .error .nameTooLong
  else .ok ()

/-- The place that a path leads to. -/
def locate (t : FileTree) (p : Path) : Except Fault Address := do
  checkSpelling p
  let (start, rest) ← enter p.components
  t.follow start rest

/-- Whether the spelling of a path ends so that only a directory can be meant. -/
def namesDirectory (p : Path) : Bool :=
  match (p.text.toList.splitOn '/').getLast? with
  | some last => Path.isIdle last
  | none => true

/-- What stands where a path leads. -/
def find? (t : FileTree) (p : Path) : Option Entry :=
  match t.locate p with
  | .error _ => none
  | .ok a =>
    match t.get? a with
    | some (.file content) => if namesDirectory p then none else some (.file content)
    | found => found

def isDirectory (t : FileTree) (p : Path) : Bool := t.find? p == some .directory

/-! ## Reading -/

def readFile (t : FileTree) (p : Path) : Except Fault (List UInt8) := do
  let a ← t.locate p
  match t.get? a with
  | none => .error .missing
  | some .directory => .error .isDirectory
  | some (.file content) => if namesDirectory p then .error .notDirectory else .ok content

def readText (t : FileTree) (p : Path) : Except Fault String := do
  let content ← t.readFile p
  match Text.ofUtf8? content with
  | some s => .ok s
  | none => .error .notText

/-- What is directly in a directory, by name. -/
def list (t : FileTree) (p : Path) : Except Fault (List (String × Entry)) := do
  let a ← t.locate p
  match t.get? a with
  | none => .error .missing
  | some (.file _) => .error .notDirectory
  | some .directory => .ok (t.children a)

/-! ## Writing -/

/-- The tree with a content in a file, which is made if there is none. -/
def writeFile (t : FileTree) (p : Path) (content : List UInt8) : Except Fault FileTree := do
  let a ← t.locate p
  match t.get? a with
  | some .directory => .error .isDirectory
  | some (.file _) =>
    if namesDirectory p then .error .notDirectory else .ok (t.put a (.file content))
  | none => if namesDirectory p then .error .isDirectory else .ok (t.put a (.file content))

/-- Makes the directory at a place, unless it is there. -/
def makeDirectory (t : FileTree) (a : Address) : Except Fault FileTree :=
  match t.get? a with
  | some .directory => .ok t
  | some (.file _) => .error .alreadyExists
  | none => .ok (t.put a .directory)

/-- Makes the directory at a place and those that components lead through from there, as far as they
are missing. -/
def makeDirectories (t : FileTree) (a : Address) :
    List Path.Component → Except Fault Unit × FileTree
  | [] =>
    match t.makeDirectory a with
    | .ok made => (.ok (), made)
    | .error f => (.error f, t)
  | c :: rest =>
    match t.makeDirectory a, step a c with
    | .error _, _ => (.error .notDirectory, t)
    | .ok made, .error f => (.error f, made)
    | .ok made, .ok b => made.makeDirectories b rest

/-- The entry that a path leads to has to be a directory. -/
def requireDirectory (t : FileTree) (p : Path) : Except Fault Unit := do
  let a ← t.locate p
  match t.get? a with
  | none => .error .missing
  | some (.file _) => .error .notDirectory
  | some .directory => .ok ()

/-- Makes the directory that a path leads to, and those on the way. Under a spelling that ends in a
dot only those on the way are made, and the directory has to be there already. -/
def createDirectories (t : FileTree) (p : Path) : Except Fault Unit × FileTree :=
  let way := if p.endsInDot then p.components.dropLast else p.components
  match checkSpelling p, enter way with
  | .error f, _ | _, .error f => (.error f, t)
  | .ok (), .ok (start, rest) =>
    match t.makeDirectories start rest with
    | (.ok (), made) => (if p.endsInDot then made.requireDirectory p else .ok (), made)
    | failed => failed

def removeFile (t : FileTree) (p : Path) : Except Fault FileTree := do
  let a ← t.locate p
  match t.get? a with
  | none => .error .missing
  | some .directory => .error .isDirectory
  | some (.file _) => if namesDirectory p then .error .notDirectory else .ok (t.prune a)

def removeDirectory (t : FileTree) (p : Path) : Except Fault FileTree := do
  let a ← t.locate p
  match t.get? a with
  | none => .error .missing
  | some (.file _) => .error .notDirectory
  | some .directory =>
    if p.endsInDot then .error .dotAtEnd
    else if p.components.getLast? = some .up || t.children a ≠ [] then .error .notEmpty
    else .ok (t.prune a)

/-- Removes a file, or a directory and all that is in it. The directory is emptied before it is
removed. A path that leads through something that was in it then leads nowhere, which is as good as
removed, although the empty directory stays. -/
def removeTree (t : FileTree) (p : Path) : Except Fault Unit × FileTree :=
  match t.locate p with
  | .error f => (.error f, t)
  | .ok a =>
    match t.get? a with
    | some .directory =>
      let emptied := t.clearOut a
      match emptied.removeDirectory p with
      | .ok left => (.ok (), left)
      | .error .missing => (.ok (), emptied)
      | .error f => (.error f, emptied)
    | _ =>
      match t.removeFile p with
      | .ok left => (.ok (), left)
      | .error f => (.error f, t)

end FileTree

/-! ## Operations as values -/

/-- A single change of a file tree. Each happens wholly or not at all, apart from the making of
several directories. -/
inductive FileOp where
  /-- Makes a directory and those on the way to it. -/
  | createDirectories (path : Path)
  | write (path : Path) (content : List UInt8)
  | remove (path : Path)
  deriving DecidableEq, Repr

namespace FileOp

def path : FileOp → Path
  | createDirectories p => p
  | write p _ => p
  | remove p => p

/-- Whether the operation succeeds on a tree, and the tree after it. -/
def run (t : FileTree) : FileOp → Except Fault Unit × FileTree
  | createDirectories p => t.createDirectories p
  | write p content =>
    match t.writeFile p content with
    | .ok t' => (.ok (), t')
    | .error f => (.error f, t)
  | remove p =>
    match t.removeFile p with
    | .ok t' => (.ok (), t')
    | .error f => (.error f, t)

/-- Carries out operations one after the other up to the first one that fails, and names that one's
path and fault. -/
def runWhileOk (t : FileTree) : List FileOp → Except (Path × Fault) Unit × FileTree
  | [] => (.ok (), t)
  | op :: rest =>
    match op.run t with
    | (.ok (), t') => runWhileOk t' rest
    | (.error f, t') => (.error (op.path, f), t')

/-- Carries out every one of the operations, whether others fail or not. -/
def runEach (t : FileTree) (ops : List FileOp) : FileTree := ops.foldl (fun t op => (op.run t).2) t

end FileOp

end ModelCache
