import ModelCache.Path

/-!
# Configuration

What a site lays down about its models, in three sections: where models are cached, where companion
sources lie and how models are named; how a build behaves; and whether companion sources are
watched. Everything has a default.

A configuration is valid if the cache directory and the namespace are not empty, the companion
extension is a bare one, and the two directories differ. The checks are made in this order.
-/

namespace ModelCache

/-- Where models are cached and which companion sources become part of them. -/
structure ModelsSection where
  enabled : Bool := true
  /-- The directory of the cached sources, the digest and the pointer to the module. -/
  cacheDir : Path := ⟨"models-cache"⟩
  companionDir : Path := ⟨"models"⟩
  /-- The extension of companion sources, without the dot. -/
  companionExtension : String := "rs"
  namespaceName : String := "Models"
  deriving DecidableEq, Repr

/-- How a build behaves. -/
structure BuildSection where
  /-- How many milliseconds another compilation waits for the models before it goes on without. -/
  callbackTimeout : Nat := 250
  writeErrorFile : Bool := true
  deriving DecidableEq, Repr

/-- Whether companion sources are watched for changes. -/
structure WatchSection where
  enabled : Bool := true
  deriving DecidableEq, Repr

/-- What a site lays down about its models. -/
structure Config where
  models : ModelsSection := {}
  build : BuildSection := {}
  watch : WatchSection := {}
  deriving DecidableEq, Repr

/-- Why there is no configuration. -/
inductive ConfigError where
  | io (cause : String)
  /-- The text is not TOML, or has values of the wrong kind. -/
  | parse (cause : String)
  /-- Something that must not be empty is. -/
  | missingField (field : String)
  /-- A value is not allowed. -/
  | invalid (complaint : String)
  deriving DecidableEq, Repr

def ConfigError.message : ConfigError → String
  | io cause => s!"failed to read configuration: {cause}"
  | parse cause => s!"failed to parse configuration: {cause}"
  | missingField field => s!"missing required field: {field}"
  | invalid complaint => s!"validation error: {complaint}"

namespace Config

/-- An extension without a dot in front, and not empty. -/
def isBareExtension (extension : String) : Bool :=
  match extension.toList with
  | [] => false
  | c :: _ => c ≠ '.'

def validate (c : Config) : Except ConfigError Config :=
  let m := c.models
  if m.cacheDir.text = "" then .error (.missingField "models.cache_dir")
  else if m.namespaceName = "" then .error (.missingField "models.namespace")
  else if !isBareExtension m.companionExtension then
    .error (.invalid
      s!"models.companion_extension must be a bare extension, got '{m.companionExtension}'")
  else if m.cacheDir.same m.companionDir then
    .error (.invalid "models.cache_dir and models.companion_dir must differ")
  else .ok c

/-- The cache directory of a site with the given root directory. -/
def resolvedCacheDir (c : Config) (root : Path) : Path := root.join c.models.cacheDir

/-- The companion directory of a site with the given root directory. -/
def resolvedCompanionDir (c : Config) (root : Path) : Path := root.join c.models.companionDir

end Config

/-- The name of the configuration file in the root directory of a site. -/
def configFile : String := "models.toml"

end ModelCache
