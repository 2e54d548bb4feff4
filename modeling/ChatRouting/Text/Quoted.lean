import ChatRouting.Text.Printable
import ChatRouting.Text.Combining
import ChatRouting.Text.Ignorable

/-!
# Quoted text

A text between double quotes, as error messages show it. The quote and the backslash
are escaped, the four common controls have letters, and every other character that
would not show on its own is written `\u{…}` by its number in hexadecimal.
-/

namespace ChatRouting.Text

/-- The lowercase hexadecimal digits of a number, without leading zeros. -/
def hexNumber (n : Nat) : List Char :=
  Nat.toDigits 16 n

/-- The form of one character between the quotes. -/
def quoteChar (c : Char) : List Char :=
  if c = '"' then ['\\', '"']
  else if c = '\\' then ['\\', '\\']
  else if c = '\n' then ['\\', 'n']
  else if c = '\r' then ['\\', 'r']
  else if c = '\t' then ['\\', 't']
  else if c = '\x00' then ['\\', '0']
  else if isCombining c || isIgnorable c || !isPrintable c then
    ['\\', 'u', '\x7b'] ++ hexNumber c.toNat ++ ['\x7d']
  else [c]

/-- The text between double quotes. -/
def quoted (s : String) : String :=
  String.ofList ('"' :: s.toList.flatMap quoteChar ++ ['"'])

end ChatRouting.Text
