/-!
# Texts as bytes

The UTF-8 form of a text as a list of bytes, and the text that a list of bytes spells.
-/

namespace ModelCache.Text

def utf8 (s : String) : List UInt8 := s.toList.flatMap String.utf8EncodeChar

/-- The text that some bytes spell, if they are well-formed UTF-8. -/
def ofUtf8? (bytes : List UInt8) : Option String := String.fromUTF8? bytes.toByteArray

theorem toByteArray_utf8 (s : String) : (utf8 s).toByteArray = s.toByteArray :=
  String.utf8Encode_toList

/-- The bytes of a text spell that text. -/
@[simp] theorem ofUtf8?_utf8 (s : String) : ofUtf8? (utf8 s) = some s := by
  have valid : s.toByteArray.IsValidUTF8 := s.isValidUTF8
  rw [ofUtf8?, toByteArray_utf8, String.fromUTF8?, dif_pos valid]
  rfl

end ModelCache.Text
