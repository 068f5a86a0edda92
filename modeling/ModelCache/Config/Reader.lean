import ModelCache.Config
import ModelCache.Toml.Reader

/-!
# Reading configurations

The sections are tables of a TOML text. A section may also be given as an array of its values in
order, of which those at the end may be missing and those beyond the last one are ignored. Unknown
keys are ignored, missing ones have their defaults, and a value of the wrong kind is an error.
-/

namespace ModelCache

open Toml (Value)

namespace Config

/-- The values of a section with the given keys, in the order of the keys. -/
def sectionValues? (keys : List String) : Value → Option (List (Option Value))
  | .table entries => some (keys.map fun key => entries.lookup key)
  | .array items => some ((List.range keys.length).map (items[·]?))
  | .dateTime => some (keys.map fun _ => none)
  | _ => none

/-- A value with a default, decoded. -/
def decoded? (default : α) (decode : Value → Option α) : Option Value → Option α
  | none => some default
  | some v => decode v

def boolean? : Value → Option Bool
  | .boolean b => some b
  | _ => none

def text? : Value → Option String
  | .string s => some s
  | _ => none

def natural? : Value → Option Nat
  | .integer n => if 0 ≤ n then some n.toNat else none
  | _ => none

def models? (v : Value) : Option ModelsSection := do
  let keys := ["enabled", "cache_dir", "companion_dir", "companion_extension", "namespace"]
  let d : ModelsSection := {}
  match ← sectionValues? keys v with
  | [enabled, cacheDir, companionDir, extension, namespaceName] =>
    return {
      enabled := ← decoded? d.enabled boolean? enabled
      cacheDir := ← decoded? d.cacheDir (fun v => (text? v).map Path.mk) cacheDir
      companionDir := ← decoded? d.companionDir (fun v => (text? v).map Path.mk) companionDir
      companionExtension := ← decoded? d.companionExtension text? extension
      namespaceName := ← decoded? d.namespaceName text? namespaceName }
  | _ => none

def build? (v : Value) : Option BuildSection := do
  let d : BuildSection := {}
  match ← sectionValues? ["callback_timeout_ms", "write_error_file"] v with
  | [timeout, errorFile] =>
    return {
      callbackTimeout := ← decoded? d.callbackTimeout natural? timeout
      writeErrorFile := ← decoded? d.writeErrorFile boolean? errorFile }
  | _ => none

def watch? (v : Value) : Option WatchSection := do
  let d : WatchSection := {}
  match ← sectionValues? ["enabled"] v with
  | [enabled] => return { enabled := ← decoded? d.enabled boolean? enabled }
  | _ => none

/-- The configuration that the entries of a document denote, valid or not. -/
def ofEntries? (entries : List (String × Value)) : Option Config := do
  let models ← decoded? {} models? (entries.lookup "models")
  let build ← decoded? {} build? (entries.lookup "build")
  let watch ← decoded? {} watch? (entries.lookup "watch")
  return { models, build, watch }

def parse (text : String) : Except ConfigError Config :=
  match Toml.read text with
  | none => .error (.parse "the text is not a TOML document")
  | some entries =>
    match ofEntries? entries with
    | none => .error (.parse "a value has the wrong kind")
    | some config => config.validate

end Config

end ModelCache
