import ModelCache.Bench
import ModelCache.Config.Reader

/-!
# Files on the bench

What happens to the files below the root of a bench when nobody but an operator or an editor is at
work, the configurations and companion sources that are read from them, and the watching of a
companion directory: whatever changes directly in it is a change for the cache that has it watched.
-/

namespace ModelCache.Bench

/-! ## Changing files -/

def withFiles (b : Bench) (files : FileTree) : Bench := { b with shelf := { b.shelf with files } }

/-- Makes a directory and those on the way to it. The answer is whether it is there afterwards. -/
def makeDirectory (b : Bench) (p : Path) : Bool × Bench :=
  let (made, files) := b.shelf.files.createDirectories p
  (made.isOk, b.withFiles files)

/-- Writes a file, and makes the directories on the way to it. The answer is whether that
succeeded. -/
def writeFile (b : Bench) (p : Path) (content : List UInt8) : Bool × Bench :=
  let (made, after) := match p.parent? with
    | some parent => b.makeDirectory parent
    | none => (true, b)
  match made, after.shelf.files.writeFile p content with
  | true, .ok files => (true, after.withFiles files)
  | _, _ => (false, after)

/-- Removes a file, or a directory with all that is in it. The answer is whether that succeeded. -/
def removeTree (b : Bench) (p : Path) : Bool × Bench :=
  let (removed, files) := b.shelf.files.removeTree p
  (removed.isOk, b.withFiles files)

/-- Everything below the root, with names relative to it. -/
def listing (b : Bench) : List (String × Entry) :=
  b.shelf.files.entries.filterMap fun (address, entry) =>
    match (FileTree.working rootName).isPrefixOf? address with
    | some (name :: rest) => some ("/".intercalate (name :: rest), entry)
    | _ => none

/-! ## Reading files -/

def loadCompanions (b : Bench) (dir : Path) (extension : String) (exclude : List String) :
    Except GenerationError Companions :=
  Companions.load b.shelf.files dir extension exclude

def loadConfig (b : Bench) (dir : Path) : Except ConfigError Config :=
  match b.shelf.files.readText (dir.join ⟨configFile⟩) with
  | .ok text => Config.parse text
  | .error fault => .error (.io fault.message)

/-! ## Watching -/

/-- Whether a configuration has a companion directory watched: watching is enabled, and there is
such a directory. -/
def isWatched (b : Bench) (config : Config) : Bool :=
  config.watch.enabled && b.shelf.files.isDirectory (config.resolvedCompanionDir root)

/-- Whether a path leads to something directly in a directory. -/
def isDirectlyIn (b : Bench) (dir p : Path) : Bool :=
  match b.shelf.files.locate dir, b.shelf.files.locate p with
  | .ok d, .ok a => a ≠ [] && a.dropLast = d
  | _, _ => false

/-- Writes a file while a cache has the companion directory of a configuration watched. The answer
is whether it was. -/
def writeWatched (b : Bench) (name : String) (config : Config) (p : Path) (content : List UInt8) :
    Option Bool × Bench :=
  let watched := b.isWatched config
  let (written, after) := b.writeFile p content
  let seen := watched && written && after.isDirectlyIn (config.resolvedCompanionDir root) p
  match b.find? name, seen with
  | none, _ => (none, b)
  | some _, false => (some watched, after)
  | some _, true => (some watched, (after.pathChanged name p).2)

end ModelCache.Bench
