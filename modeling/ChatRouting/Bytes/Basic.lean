/-!
# Byte strings

Keys, files and the input of a hash are lists of bytes. A text has its bytes in UTF-8.
-/

namespace ChatRouting

/-- A string of bytes. -/
abbrev Bytes := List UInt8

namespace Bytes

/-- The bytes of a text. -/
def ofText (s : String) : Bytes :=
  s.toList.flatMap String.utf8EncodeChar

/-- The text of a byte string that is well-formed UTF-8. -/
def text? (bytes : Bytes) : Option String :=
  String.fromUTF8? ⟨bytes.toArray⟩

end Bytes

end ChatRouting
