/-!
# Build versions

The number that tells one compiled module from every other. A host cannot unload a module, so two
builds must never share a version. Versions are words; zero is never issued, and the greatest word
neither, because nothing could follow it.

The counter starts at one. It also learns of versions in use from outside, from stored records and
reused modules, and issues only versions above all of them. When no version is left it issues none.
-/

namespace ModelCache

/-- The version of a build. -/
structure BuildVersion where
  number : UInt64
  deriving DecidableEq, Repr

namespace BuildVersion

def maxWord : UInt64 := 0xFFFFFFFFFFFFFFFF

/-- Whether a version could have been issued. -/
def isIssuable (v : BuildVersion) : Bool := v.number ≠ 0 && v.number ≠ maxWord

def text (v : BuildVersion) : String := toString v.number.toNat

instance : ToString BuildVersion := ⟨text⟩

def inspect (v : BuildVersion) : String := s!"BuildVersion({v})"

end BuildVersion

/-- What is known about versions in use. -/
structure VersionCounter where
  /-- The least version that was never issued here. -/
  next : UInt64
  /-- The greatest version known to be in use; zero if none is. -/
  inUse : UInt64
  deriving DecidableEq, Repr

namespace VersionCounter

/-- A counter that knows of no version in use. -/
def fresh : VersionCounter := ⟨1, 0⟩

/-- Learns that a version is in use. A version that could not have been issued is none. -/
def observe (c : VersionCounter) (v : BuildVersion) : VersionCounter :=
  if v.isIssuable then { c with inUse := max c.inUse v.number } else c

/-- Issues a version above all that are in use, if one is left. -/
def issue (c : VersionCounter) : Option BuildVersion × VersionCounter :=
  if c.inUse = BuildVersion.maxWord then (none, c)
  else
    let version := max c.next (c.inUse + 1)
    if version = BuildVersion.maxWord then (none, c)
    else (some ⟨version⟩, ⟨version + 1, version⟩)

/-- The greatest version known to be in use. -/
def latest (c : VersionCounter) : Option BuildVersion :=
  if 0 < c.inUse then some ⟨c.inUse⟩ else none

end VersionCounter

end ModelCache
