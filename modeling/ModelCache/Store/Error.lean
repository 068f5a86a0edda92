import ModelCache.Path

/-!
# Failures to keep a record

A record that cannot be kept costs a rebuild after the next restart, and nothing else: the build
that made it has succeeded.
-/

namespace ModelCache

/-- Why a record could not be kept. -/
inductive StoreError where
  | io (path : Path) (cause : String)
  /-- The pointer could not be written down. -/
  | serialization (reason : String)
  deriving DecidableEq, Repr

def StoreError.message : StoreError → String
  | io path cause => s!"cache I/O error at {path}: {cause}"
  | serialization reason => s!"serialization error: {reason}"

end ModelCache
