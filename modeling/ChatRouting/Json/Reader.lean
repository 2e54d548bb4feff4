import ChatRouting.Json.Basic
import ChatRouting.Bytes.Hex

/-!
# Reading JSON text

The grammar of RFC 8259: one value, with spaces, tabs, line feeds and carriage returns
around it and between its parts. A string literal is read as a list of units, plain
characters and numbered escapes; two escapes that form a surrogate pair denote one
character, and a surrogate that stands alone leaves the literal without a text.

The recursion over values is bounded by a number that the length of the text gives:
every second step takes a character.

## Main definitions

* `Json.Reader.TextUnit.join`: the text that units denote
* `Json.Reader.value`: one value and the rest of the text
* `Json.parse`: the value of a whole text
-/

namespace ChatRouting.Json

namespace Reader

/-- The blank characters of the grammar. -/
def isSpace (c : Char) : Bool :=
  c == ' ' || c == '\n' || c == '\t' || c == '\r'

/-- The text without leading blanks. -/
def skipSpace (cs : List Char) : List Char :=
  cs.dropWhile isSpace

/-! ### Strings -/

/-- A part of a string literal: a character, or the number of a numbered escape. -/
inductive TextUnit where
  | char (c : Char)
  | code (n : Nat)

/-- The characters that units denote, if no surrogate stands alone. -/
def TextUnit.join : List TextUnit → Option (List Char)
  | [] => some []
  | .char c :: rest => (join rest).map (c :: ·)
  | .code n :: .code m :: rest =>
    if 0xd800 ≤ n ∧ n ≤ 0xdbff then
      if 0xdc00 ≤ m ∧ m ≤ 0xdfff then
        (join rest).map (Char.ofNat (0x10000 + (n - 0xd800) * 0x400 + (m - 0xdc00)) :: ·)
      else none
    else if 0xdc00 ≤ n ∧ n ≤ 0xdfff then none
    else (join (.code m :: rest)).map (Char.ofNat n :: ·)
  | .code n :: rest =>
    if 0xd800 ≤ n ∧ n ≤ 0xdfff then none else (join rest).map (Char.ofNat n :: ·)

/-- The number that four hexadecimal digits stand for. -/
def code? (a b c d : Char) : Option Nat := do
  let a ← Hex.digitValue? a
  let b ← Hex.digitValue? b
  let c ← Hex.digitValue? c
  let d ← Hex.digitValue? d
  return ((a * 16 + b) * 16 + c) * 16 + d

/-- The character of an escape of two characters. -/
def shortEscape? (c : Char) : Option Char :=
  if c = '"' ∨ c = '\\' ∨ c = '/' then some c
  else if c = 'b' then some '\x08'
  else if c = 'f' then some '\x0c'
  else if c = 'n' then some '\n'
  else if c = 'r' then some '\r'
  else if c = 't' then some '\t'
  else none

/-- The units of a literal after its opening quote, and the text after its closing one. -/
def units : List Char → Option (List TextUnit × List Char)
  | [] => none
  | '"' :: rest => some ([], rest)
  | '\\' :: 'u' :: a :: b :: c :: d :: rest => do
    let n ← code? a b c d
    let (us, rest) ← units rest
    return (.code n :: us, rest)
  | '\\' :: e :: rest => do
    let c ← shortEscape? e
    let (us, rest) ← units rest
    return (.char c :: us, rest)
  | c :: rest => do
    if c < ' ' then none
    let (us, rest) ← units rest
    return (.char c :: us, rest)

/-- The literal after an opening quote. -/
def literal (cs : List Char) : Option (Literal × List Char) := do
  let (us, rest) ← units cs
  return ((TextUnit.join us).map String.ofList, rest)

/-! ### Numbers -/

/-- The digits that a text starts with, and the rest. -/
def digits (cs : List Char) : List Nat × List Char :=
  ((cs.takeWhile Char.isDigit).map fun c => c.toNat - 48, cs.dropWhile Char.isDigit)

/-- The number that digits write, the highest first. -/
def ofDigits (ds : List Nat) : Nat :=
  ds.foldl (fun n d => n * 10 + d) 0

/-- The whole part: a zero alone, or digits that start with another. -/
def whole (cs : List Char) : Option (Nat × List Char) :=
  match digits cs with
  | ([], _) => none
  | (0 :: _ :: _, _) => none
  | (ds, rest) => some (ofDigits ds, rest)

/-- The decimal digits, after a point if there is one. -/
def decimals : List Char → Option (List Nat × List Char)
  | '.' :: rest =>
    match digits rest with
    | ([], _) => none
    | (ds, rest) => some (ds, rest)
  | cs => some ([], cs)

/-- The sign of a power of ten, and the rest. -/
def exponentSign : List Char → Bool × List Char
  | '-' :: rest => (true, rest)
  | '+' :: rest => (false, rest)
  | cs => (false, cs)

/-- The power of ten, after its letter if there is one. -/
def exponent : List Char → Option (Option Int × List Char)
  | [] => some (none, [])
  | c :: rest =>
    if c = 'e' ∨ c = 'E' then
      let (negative, rest) := exponentSign rest
      match digits rest with
      | ([], _) => none
      | (ds, rest) =>
        some (some (if negative then -(ofDigits ds : Int) else ofDigits ds), rest)
    else some (none, c :: rest)

/-- The parts of a number after its sign. -/
def unsigned (negative : Bool) (cs : List Char) : Option (Json × List Char) := do
  let (w, rest) ← whole cs
  let (ds, rest) ← decimals rest
  let (e, rest) ← exponent rest
  return (.number ⟨negative, w, ds, e⟩, rest)

/-- A number. -/
def number : List Char → Option (Json × List Char)
  | '-' :: rest => unsigned true rest
  | cs => unsigned false cs

/-! ### Values -/

mutual
/-- A value, and the rest of the text. -/
def value : Nat → List Char → Option (Json × List Char)
  | 0, _ => none
  | bound + 1, cs =>
    match skipSpace cs with
    | 'n' :: 'u' :: 'l' :: 'l' :: rest => some (.null, rest)
    | 't' :: 'r' :: 'u' :: 'e' :: rest => some (.bool true, rest)
    | 'f' :: 'a' :: 'l' :: 's' :: 'e' :: rest => some (.bool false, rest)
    | '"' :: rest => do
      let (s, rest) ← literal rest
      return (.string s, rest)
    | '[' :: rest =>
      match skipSpace rest with
      | ']' :: rest => some (.array [], rest)
      | rest => do
        let (items, rest) ← items bound rest
        return (.array items, rest)
    | '\x7b' :: rest =>
      match skipSpace rest with
      | '\x7d' :: rest => some (.object [], rest)
      | rest => do
        let (members, rest) ← members bound rest
        return (.object members, rest)
    | rest => number rest

/-- The items of an array up to its closing bracket. -/
def items : Nat → List Char → Option (List Json × List Char)
  | 0, _ => none
  | bound + 1, cs => do
    let (v, rest) ← value bound cs
    match skipSpace rest with
    | ',' :: rest => do
      let (vs, rest) ← items bound rest
      return (v :: vs, rest)
    | ']' :: rest => return ([v], rest)
    | _ => none

/-- The members of an object up to its closing brace. -/
def members : Nat → List Char → Option (List (Literal × Json) × List Char)
  | 0, _ => none
  | bound + 1, cs =>
    match skipSpace cs with
    | '"' :: rest => do
      let (k, rest) ← literal rest
      match skipSpace rest with
      | ':' :: rest => do
        let (v, rest) ← value bound rest
        match skipSpace rest with
        | ',' :: rest => do
          let (ms, rest) ← members bound rest
          return ((k, v) :: ms, rest)
        | '\x7d' :: rest => return ([(k, v)], rest)
        | _ => none
      | _ => none
    | _ => none
end

end Reader

/-- The value of a list of characters that is one JSON text. -/
def parseChars (cs : List Char) : Option Json := do
  let (v, rest) ← Reader.value (2 * cs.length + 2) cs
  match Reader.skipSpace rest with
  | [] => return v
  | _ => none

/-- The value of a JSON text. -/
def parse (s : String) : Option Json :=
  parseChars s.toList

end ChatRouting.Json
