import ModelCache.BuildError
import ModelCache.Companion
import ModelCache.FileTree

/-!
# Loading companion sources

Companion sources are the files directly in the companion directory that have the configured
extension and are not among the excluded names. A directory that does not exist has none. What
cannot be read stops the build.
-/

namespace ModelCache.Companions

/-- Whether a file of the given name is a companion source. -/
def selects (extension : String) (exclude : List String) (name : String) : Bool :=
  Path.extensionOf? name == some extension && !exclude.contains name

/-- Adds the sources among the entries of a directory, in the order of the listing. -/
def addListed (dir : Path) (extension : String) (exclude : List String) (cs : Companions) :
    List (String × Entry) → Except GenerationError Companions
  | [] => .ok cs
  | (_, .directory) :: rest => addListed dir extension exclude cs rest
  | (name, .file content) :: rest =>
    if selects extension exclude name then
      match Text.ofUtf8? content with
      | some text => addListed dir extension exclude (cs.insert ⟨name⟩ text) rest
      | none => .error (.companion (dir.join ⟨name⟩).text Fault.notText.message)
    else addListed dir extension exclude cs rest

def load (t : FileTree) (dir : Path) (extension : String) (exclude : List String) :
    Except GenerationError Companions :=
  match t.list dir with
  | .ok listing => addListed dir extension exclude empty listing
  | .error .missing => .ok empty
  | .error f => .error (.companion dir.text f.message)

end ModelCache.Companions
