import ModelCache.BuildUnit
import ModelCache.Proofs.Text

/-!
# A build unit tells its identity

The two header lines are the first two lines of a unit, whatever comes behind them, because neither
a version nor a digest is written with a line end in it. So the identity of a unit can be read back
from its text alone:

* **`Digest.parse_toText`** — a digest is read back from its text.
* **`BuildUnit.parseHeader_assemble`** — the header of a unit names its version and its digest,
  unless the version could not have been issued.
-/

namespace ModelCache

namespace Digest

theorem toList_toText (d : Digest) : d.toText.toList = d.bytes.toList.flatMap Text.hexByte := by
  rw [toText, Text.hexText, String.toList_ofList]

/-- **A digest is read back from its text.** -/
theorem parse_toText (d : Digest) : parse d.toText = .ok d := by
  have hdigit {c : Char} (hc : c ∈ d.bytes.toList.flatMap Text.hexByte) :
      Text.isBlank c = false ∧ c.toNat < 128 := by
    obtain ⟨n, rfl⟩ := Text.mem_flatMap_hexByte hc
    exact ⟨Text.isBlank_hexDigit n, Text.toNat_hexDigit_lt n⟩
  -- digits are no blanks, so trimming takes nothing away, and they are ASCII
  unfold parse
  rw [toList_toText, Text.trimChars_of_not_blank fun c hc => (hdigit hc).1]
  dsimp only
  rw [if_pos (List.all_eq_true.mpr fun c hc => decide_eq_true (hdigit hc).2),
    Text.hexBytes?_flatMap_hexByte, Option.bind_some, ofByteList?_toList]

end Digest

namespace BuildVersion

theorem toList_text (v : BuildVersion) : v.text.toList = Text.decimalDigits v.number.toNat := by
  rw [text, Nat.toString_eq_ofList_toDigits, String.toList_ofList]
  rfl

end BuildVersion

namespace BuildUnit

/-! ## The header lines -/

theorem headerVersion?_line (v : BuildVersion) :
    headerVersion? (versionHeader.toList ++ v.text.toList) = some v := by
  unfold headerVersion?
  rw [Text.after?_append, BuildVersion.toList_text]
  have hread := Text.boundedDecimal?_decimalDigits v.number.toNat_lt
  rw [Option.bind_eq_bind, Option.bind_some, show UInt64.size = 2 ^ 64 from rfl, hread,
    Option.bind_eq_bind, Option.bind_some, UInt64.ofNat_toNat]
  rfl

theorem headerDigest?_line (d : Digest) :
    headerDigest? (digestHeader.toList ++ d.toText.toList) = some d := by
  unfold headerDigest?
  rw [Text.after?_append, Option.bind_eq_bind, Option.bind_some, String.ofList_toList,
    Digest.parse_toText]
  rfl

theorem not_mem_version {c : Char} (hheader : c ∉ versionHeader.toList) (hdigit : c.isDigit = false)
    (v : BuildVersion) : c ∉ versionHeader.toList ++ v.text.toList := by
  rw [List.mem_append, BuildVersion.toList_text]
  rintro (hc | hc)
  · exact hheader hc
  · rw [Text.isDigit_of_mem_decimalDigits hc] at hdigit
    cases hdigit

theorem not_mem_digest {c : Char} (hheader : c ∉ digestHeader.toList)
    (hdigit : Text.isBlank c = true) (d : Digest) :
    c ∉ digestHeader.toList ++ d.toText.toList := by
  rw [List.mem_append, Digest.toList_toText]
  rintro (hc | hc)
  · exact hheader hc
  · obtain ⟨n, rfl⟩ := Text.mem_flatMap_hexByte hc
    rw [Text.isBlank_hexDigit n] at hdigit
    cases hdigit

/-- The first two lines of a text with a header are the header lines, whatever comes behind. -/
theorem lines_header (v : BuildVersion) (d : Digest) (rest : List Char) :
    Text.lines ((header v d).toList ++ rest) =
      (versionHeader.toList ++ v.text.toList) :: (digestHeader.toList ++ d.toText.toList) ::
        Text.lines rest := by
  have hshape : (header v d).toList ++ rest =
      (versionHeader.toList ++ v.text.toList) ++
        '\n' :: ((digestHeader.toList ++ d.toText.toList) ++ '\n' :: rest) := by
    simp [header, String.toList_append]
  rw [hshape,
    Text.lines_append (not_mem_version (by decide) (by decide) v)
      (not_mem_version (by decide) (by decide) v),
    Text.lines_append (not_mem_digest (by decide) (by decide) d)
      (not_mem_digest (by decide) (by decide) d)]

/-- **A unit tells its identity.** A version that could not have been issued counts as no header. -/
theorem parseHeader_assemble (v : BuildVersion) (d : Digest) (companions : Companions)
    (generated : String) :
    parseHeader (assemble v d companions generated).text =
      if v.isIssuable then some (v, d) else none := by
  unfold parseHeader assemble
  dsimp only
  rw [String.toList_append, String.toList_append, List.append_assoc, lines_header]
  dsimp only
  rw [headerVersion?_line, headerDigest?_line]
  rfl

/-- A header that is read names a version that could have been issued. -/
theorem isIssuable_of_parseHeader {text : String} {v : BuildVersion} {d : Digest}
    (h : parseHeader text = some (v, d)) : v.isIssuable = true := by
  unfold parseHeader at h
  split at h
  case h_1 first second _ _ =>
    rw [Option.bind_eq_bind, Option.bind_eq_some_iff] at h
    obtain ⟨v', _, h⟩ := h
    rw [Option.bind_eq_bind, Option.bind_eq_some_iff] at h
    obtain ⟨d', _, h⟩ := h
    -- the last check before a header is given out
    split at h
    case isTrue hissuable =>
      cases h
      exact hissuable
    case isFalse => cases h
  case h_2 => cases h

end BuildUnit

end ModelCache
