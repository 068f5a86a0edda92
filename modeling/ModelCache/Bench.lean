import ModelCache.Bench.Compiler
import ModelCache.Bench.Generator
import ModelCache.Bench.Shelf
import ModelCache.Companion.Load

/-!
# The bench

A host in which caches run beside each other, with everything that a cache needs from outside: a
schema, an outline generator, a line compiler that keeps its modules, and a shelf for records,
failures and files. All of it can be changed between operations, so that a sequence of operations
plays a scenario: restarts, failing collaborators, files that were tampered with.

* Caches are started under names. A cache started under the name of another one takes its place.
* `Bench.operate` runs an operation of a cache: the cache sees the bench as it was before
  (`Bench.surroundings`), and what it did is carried out afterwards, in order (`Bench.settle`).
* When the compiler nests compilations, every other cache attaches its published module to the
  compilation of a unit. A cache never attaches its module to its own build.
* A published set can be held, to ask later whether it still is the current one.
-/

namespace ModelCache

namespace Bench

/-- A cache that runs on a bench. -/
structure Running where
  /-- The name it was started under. -/
  name : String
  /-- How many caches were started before it. -/
  serial : Nat
  cache : Cache
  options : Options
  /-- Where it keeps its record. -/
  store : StoreSite
  /-- Where it reports failures. -/
  reports : ReportSite

/-- A published set that is held under a label. -/
structure HeldSet where
  label : String
  /-- The serial number of the cache that published it. -/
  serial : Nat
  set : ModelSet

end Bench

/-- A host in which caches run. -/
structure Bench where
  /-- Where caches keep their record if they are not configured otherwise. -/
  store : Bench.StoreSite
  /-- Where caches report failures if they are not configured otherwise. -/
  reports : Bench.ReportSite
  /-- The directory of companion sources if caches are not configured otherwise. -/
  companionDir : Path
  schema : Schema
  /-- Why no schema is served, if none is. -/
  schemaFault : Option String
  generator : Bench.Generator
  compiler : Bench.Compiler
  /-- The modules that were compiled, as they are now. -/
  modules : List Module
  /-- What outlives caches. -/
  shelf : Bench.Shelf
  /-- The caches, in the order in which they were started. -/
  running : List Bench.Running
  /-- How many caches were ever started. -/
  started : Nat
  /-- The held sets, newest first. -/
  held : List Bench.HeldSet
  /-- How often the generator was asked. -/
  generatorCalls : Nat
  /-- The versions of the units that were compiled, oldest first. -/
  compiledVersions : List BuildVersion
  /-- How many modules nested compilations took in. -/
  nestedDependencies : Nat

namespace Bench

/-! ## Setting up -/

/-- The name of the directory that all paths on a bench start from. -/
def rootName : String := "<root>"

/-- The directory that all paths on a bench start from. -/
def root : Path := ⟨rootName⟩

/-- The path that a spelling relative to the root denotes. -/
def place (relative : String) : Path := root.join ⟨relative⟩

def emptyRoot : FileTree :=
  (FileTree.empty.put FileTree.temporary .directory).put (FileTree.working rootName) .directory

def new (onDisk fileReports : Bool) (cacheDir companionDir : String) (schema : Schema) : Bench :=
  { store := if onDisk then .directory (place cacheDir) else .memory
    reports := if fileReports then .directory (place cacheDir) else .memory
    companionDir := place companionDir
    schema
    schemaFault := none
    generator := {}
    compiler := {}
    modules := []
    shelf := ⟨.empty, none, emptyRoot⟩
    running := []
    started := 0
    held := []
    generatorCalls := 0
    compiledVersions := []
    nestedDependencies := 0 }

/-! ## Modules -/

def module? (b : Bench) (location : Path) : Option Module :=
  b.modules.find? (·.location.same location)

/-- Keeps a module in place of one at the same location. -/
def putModule (b : Bench) (m : Module) : Bench :=
  { b with modules := b.modules.filter (!·.location.same m.location) ++ [m] }

/-- Changes the module at a location. The answer is whether there is one. -/
def alterModule (b : Bench) (location : Path) (change : Module → Module) : Bool × Bench :=
  ((b.module? location).isSome,
    { b with modules := b.modules.map fun m => if m.location.same location then change m else m })

/-- Removes the module at a location. The answer is whether there was one. -/
def deleteModule (b : Bench) (location : Path) : Bool × Bench :=
  ((b.module? location).isSome,
    { b with modules := b.modules.filter (!·.location.same location) })

/-! ## What caches find and what they do -/

def find? (b : Bench) (name : String) : Option Running := b.running.find? (·.name == name)

/-- The modules that the given caches attach to somebody else's compilation. -/
def attached (caches : List Running) : List Module := caches.filterMap (·.cache.published.module)

/-- What a cache finds on the bench. -/
def surroundings (b : Bench) (r : Running) : Surroundings where
  schema := match b.schemaFault with
    | some reason => .error (.provider reason)
    | none => .ok b.schema
  companions := match r.options.companionDir with
    | some dir => Companions.load b.shelf.files dir r.options.companionExtension ownedFiles
    | none => .ok .empty
  record := b.shelf.loadRecord r.store
  load := b.module?
  generate := b.generator.generate
  compile := b.compiler.compile

/-- Takes note of a unit that a cache hands to the compiler, and keeps its module if one comes out
of it. -/
def takeUnit (b : Bench) (r : Running) (unit : BuildUnit) : Bench :=
  let others := b.running.filter (·.serial ≠ r.serial)
  let nested := if b.compiler.nested then (attached others).length else 0
  let noted : Bench :=
    { b with
      compiledVersions := b.compiledVersions ++ [unit.version]
      nestedDependencies := b.nestedDependencies + nested }
  match b.compiler.compile unit with
  | .ok m => noted.putModule m
  | .error _ => noted

/-- Carries out something that a cache does. -/
def take (r : Running) (b : Bench) : Event → Bench
  | .generated => { b with generatorCalls := b.generatorCalls + 1 }
  | .compiled unit => b.takeUnit r unit
  | event => { b with shelf := b.shelf.apply r.store r.reports event }

/-- Carries out what a cache does, and puts the cache in its new state in its place. -/
def settle (b : Bench) (r : Running) (cache : Cache) (events : List Event) : Bench :=
  let after := events.foldl (take r) b
  { after with
    running := after.running.map fun s => if s.serial = r.serial then { s with cache } else s }

/-- Runs an operation of the cache with a name, if there is one. -/
def operate (b : Bench) (name : String)
    (operation : Surroundings → Options → Cache → α × Cache × List Event) : Option α × Bench :=
  match b.find? name with
  | none => (none, b)
  | some r =>
    match operation (b.surroundings r) r.options r.cache with
    | (answer, cache, events) => (some answer, b.settle r cache events)

/-! ## Operations of caches -/

def startWith (b : Bench) (name : String) (options : Options) (store : StoreSite)
    (reports : ReportSite) : Bench :=
  let cache := Cache.start (b.shelf.loadRecord store) (b.shelf.loadUnit store)
  let r : Running := { name, serial := b.started, cache, options, store, reports }
  { b with running := b.running.filter (·.name != name) ++ [r], started := b.started + 1 }

/-- Starts a cache at the sites of the bench, with companion sources or without them. -/
def start (b : Bench) (name : String) (namespaceName extension : Option String)
    (withCompanions : Bool) : Bench :=
  let plain : Options := {}
  let options : Options :=
    { plain with
      namespaceName := namespaceName.getD plain.namespaceName
      companionDir := if withCompanions then some b.companionDir else none
      companionExtension := extension.getD plain.companionExtension }
  b.startWith name options b.store b.reports

/-- Starts a cache as a configuration lays down, unless it says that there is none. The answer is
whether a cache was started. -/
def startConfigured (b : Bench) (name : String) (config : Config) : Bool × Bench :=
  if config.models.enabled then
    let dir := config.resolvedCacheDir root
    let reports := if config.build.writeErrorFile then .directory dir else .nowhere
    (true, b.startWith name (.ofConfig config root) (.directory dir) reports)
  else (false, b)

/-- Ends a cache. The answer is whether there was one. -/
def drop (b : Bench) (name : String) : Bool × Bench :=
  ((b.find? name).isSome, { b with running := b.running.filter (·.name != name) })

/-- The current set of a cache, after a build if it takes one. -/
def ensure (b : Bench) (name : String) : Option (Except BuildError ModelSet) × Bench :=
  b.operate name Cache.ensure

/-- What a number of readers get that ask for the current set one after the other. -/
def ensureTimes (b : Bench) (name : String) : Nat → List (Except BuildError ModelSet) × Bench
  | 0 => ([], b)
  | n + 1 =>
    match b.ensure name with
    | (some answer, after) =>
      let (answers, last) := after.ensureTimes name n
      (answer :: answers, last)
    | (none, after) => ([], after)

/-- What a reader of a cache works with: its current set, or else the published one. -/
def current (b : Bench) (name : String) : Option ModelSet × Bench := b.operate name Cache.current

/-- Has the next reader of a cache start a build. -/
def invalidate (b : Bench) (name : String) : Option Unit × Bench :=
  b.operate name fun _ _ c => ((), c.invalidate)

/-- Has the next reader of a cache start a build that does not use the record. -/
def requestRebuild (b : Bench) (name : String) : Option Unit × Bench :=
  b.operate name fun _ _ c => ((), c.requestRebuild)

def pathChanged (b : Bench) (name : String) (p : Path) : Option Unit × Bench :=
  b.operate name fun _ _ c => ((), c.pathChanged p)

/-- The modules that take part in a compilation that is none of the caches' own. -/
def dependencies (b : Bench) : List Module := attached b.running

/-! ## Held sets -/

/-- Holds the current set of a cache under a label. -/
def hold (b : Bench) (name label : String) : Option (Except BuildError ModelSet) × Bench :=
  match b.find? name, b.ensure name with
  | some r, (some (.ok set), after) =>
    (some (.ok set), { after with held := ⟨label, r.serial, set⟩ :: after.held })
  | _, other => other

def held? (b : Bench) (label : String) : Option HeldSet := b.held.find? (·.label == label)

/-- Whether a held set is what a cache now has as its current set. -/
def isCurrent (b : Bench) (name : String) (h : HeldSet) : Bool × Bench :=
  match b.find? name, b.ensure name with
  | some r, (some (.ok set), after) =>
    (r.serial == h.serial && set.generation == h.set.generation, after)
  | _, (_, after) => (false, after)

end Bench

end ModelCache
