import ChatRouting.Json.Basic
import ChatRouting.Bytes.Hex

/-!
# Writing JSON text

Two forms of one value: compact, without blanks, and indented by two spaces a level.
Both escape the quote, the backslash and the characters below the space, and write every
other character as it is, so the compact form stays on one line.

## Main definitions

* `Json.compact`: the form of one line
* `Json.pretty`: the indented form
-/

namespace ChatRouting.Json

namespace Writer

/-- The form of one character of a string literal. -/
def escape (c : Char) : List Char :=
  if c = '"' then ['\\', '"']
  else if c = '\\' then ['\\', '\\']
  else if c = '\n' then ['\\', 'n']
  else if c = '\r' then ['\\', 'r']
  else if c = '\t' then ['\\', 't']
  else if c = '\x08' then ['\\', 'b']
  else if c = '\x0c' then ['\\', 'f']
  else if c < ' ' then
    ['\\', 'u', '0', '0', Hex.digit (c.toNat / 16), Hex.digit (c.toNat % 16)]
  else [c]

/-- A string literal. One that denotes no text is written as a lone surrogate. -/
def literal : Literal → List Char
  | some s => '"' :: s.toList.flatMap escape ++ ['"']
  | none => "\"\\ud800\"".toList

/-- The digits of a number. -/
def digits (n : Nat) : List Char :=
  Nat.toDigits 10 n

/-- An integer with its sign. -/
def int (i : Int) : List Char :=
  if i < 0 then '-' :: digits i.natAbs else digits i.natAbs

/-- A number. -/
def numeral (n : Numeral) : List Char :=
  (if n.negative then ['-'] else []) ++ digits n.whole
    ++ (if n.decimals = [] then [] else '.' :: n.decimals.flatMap digits)
    ++ match n.exponent with
      | none => []
      | some e => 'e' :: int e

mutual
/-- The compact form of a value. -/
def value : Json → List Char
  | .null => "null".toList
  | .bool true => "true".toList
  | .bool false => "false".toList
  | .number n => numeral n
  | .string s => literal s
  | .array [] => "[]".toList
  | .array (v :: rest) => '[' :: value v ++ items rest
  | .object [] => "\x7b\x7d".toList
  | .object ((k, v) :: rest) => '\x7b' :: literal k ++ ':' :: value v ++ members rest

/-- The items after the first, and the closing bracket. -/
def items : List Json → List Char
  | [] => [']']
  | v :: rest => ',' :: value v ++ items rest

/-- The members after the first, and the closing brace. -/
def members : List (Literal × Json) → List Char
  | [] => ['\x7d']
  | (k, v) :: rest => ',' :: literal k ++ ':' :: value v ++ members rest
end

/-- The start of a line at a level. -/
def lineStart (level : Nat) : List Char :=
  '\n' :: List.replicate (2 * level) ' '

mutual
/-- The indented form of a value that starts at a level. -/
def prettyValue (level : Nat) : Json → List Char
  | .array [] => "[]".toList
  | .array (v :: rest) =>
    '[' :: lineStart (level + 1) ++ prettyValue (level + 1) v ++ prettyItems level rest
  | .object [] => "\x7b\x7d".toList
  | .object ((k, v) :: rest) =>
    '\x7b' :: lineStart (level + 1) ++ literal k ++ ':' :: ' ' :: prettyValue (level + 1) v
      ++ prettyMembers level rest
  | v => value v

/-- The indented items after the first, and the closing bracket. -/
def prettyItems (level : Nat) : List Json → List Char
  | [] => lineStart level ++ [']']
  | v :: rest =>
    ',' :: lineStart (level + 1) ++ prettyValue (level + 1) v ++ prettyItems level rest

/-- The indented members after the first, and the closing brace. -/
def prettyMembers (level : Nat) : List (Literal × Json) → List Char
  | [] => lineStart level ++ ['\x7d']
  | (k, v) :: rest =>
    ',' :: lineStart (level + 1) ++ literal k ++ ':' :: ' ' :: prettyValue (level + 1) v
      ++ prettyMembers level rest
end

end Writer

/-- The compact form of a value. -/
def compact (v : Json) : String :=
  String.ofList (Writer.value v)

/-- The indented form of a value. -/
def pretty (v : Json) : String :=
  String.ofList (Writer.prettyValue 0 v)

end ChatRouting.Json
