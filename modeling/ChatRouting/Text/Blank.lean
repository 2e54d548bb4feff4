/-!
# Blank characters and trimming

A character is blank when it has the Unicode property `White_Space`. Names, ids,
timestamps and script lines are trimmed of blank characters at both ends before
they are used, and of nothing else: a zero-width space or a byte order mark stays.
-/

namespace ChatRouting.Text

/-- The twenty-five characters with the property `White_Space`. -/
def isBlank (c : Char) : Bool :=
  ('\t' ≤ c && c ≤ '\r') || c == ' ' || c == '\u0085' || c == '\u00a0' || c == '\u1680'
    || ('\u2000' ≤ c && c ≤ '\u200a') || c == '\u2028' || c == '\u2029' || c == '\u202f'
    || c == '\u205f' || c == '\u3000'

/-- The list without its leading blank characters. -/
def dropBlank (cs : List Char) : List Char :=
  cs.dropWhile isBlank

/-- The list without its leading and trailing blank characters. -/
def trimChars (cs : List Char) : List Char :=
  (dropBlank (dropBlank cs).reverse).reverse

/-- The text without its leading and trailing blank characters. -/
def trim (s : String) : String :=
  String.ofList (trimChars s.toList)

end ChatRouting.Text
