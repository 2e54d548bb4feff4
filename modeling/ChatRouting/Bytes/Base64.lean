import ChatRouting.Bytes.Basic

/-!
# Base64 text of byte strings

The standard alphabet with padding. Reading is strict: it accepts only the text that
writing gives, so padding fills the last group of four and the bits that reach no byte
are zero. A text that is refused has one cause. A foreign character that ends a text of
length `4 * k + 1` comes first, then the first character out of place, then a lone last
symbol, then padding of the wrong length, then stray bits in the last symbol.

## Main definitions

* `Base64.encode`: the text of a byte string
* `Base64.decode`: the bytes of a text, or the fault in it
* `Base64.Fault.message`: the wording of a fault
-/

namespace ChatRouting.Base64

/-- Why a text is not the base64 text of a byte string. -/
inductive Fault where
  /-- The byte at the offset is out of place. -/
  | symbol (offset : Nat) (byte : UInt8)
  /-- The symbols before this length leave one over. -/
  | length (count : Nat)
  /-- Padding does not fill the last group. -/
  | padding
  /-- The last symbol, at the offset, has bits that reach no byte. -/
  | strayBits (offset : Nat) (byte : UInt8)
  deriving DecidableEq, Repr

/-- The wording of a fault. -/
def Fault.message : Fault → String
  | .symbol offset byte => s!"Invalid symbol {byte.toNat}, offset {offset}."
  | .length count => s!"Invalid input length: {count}"
  | .padding => "Invalid padding"
  | .strayBits offset byte => s!"Invalid last symbol {byte.toNat}, offset {offset}."

/-! ### Symbols -/

/-- The sign that fills the last group. -/
def pad : UInt8 := 61

/-- The symbol of a value below sixty-four. -/
def symbol (n : Nat) : UInt8 :=
  UInt8.ofNat <|
    if n < 26 then 65 + n
    else if n < 52 then 71 + n
    else if n < 62 then n - 4
    else if n = 62 then 43
    else 47

/-- The value of a symbol of the alphabet. -/
def value? (b : UInt8) : Option Nat :=
  let n := b.toNat
  if 65 ≤ n ∧ n ≤ 90 then some (n - 65)
  else if 97 ≤ n ∧ n ≤ 122 then some (n - 71)
  else if 48 ≤ n ∧ n ≤ 57 then some (n + 4)
  else if n = 43 then some 62
  else if n = 47 then some 63
  else none

/-! ### Writing -/

/-- The symbols of a byte string: four for three bytes, with padding at the end. -/
def encodeBytes : Bytes → Bytes
  | a :: b :: c :: rest =>
    symbol (a.toNat / 4)
      :: symbol (a.toNat % 4 * 16 + b.toNat / 16)
      :: symbol (b.toNat % 16 * 4 + c.toNat / 64)
      :: symbol (c.toNat % 64)
      :: encodeBytes rest
  | [a, b] =>
    [symbol (a.toNat / 4), symbol (a.toNat % 4 * 16 + b.toNat / 16), symbol (b.toNat % 16 * 4), pad]
  | [a] => [symbol (a.toNat / 4), symbol (a.toNat % 4 * 16), pad, pad]
  | [] => []

/-- The base64 text of a byte string. -/
def encode (bytes : Bytes) : String :=
  String.ofList ((encodeBytes bytes).map fun b => Char.ofNat b.toNat)

/-! ### Reading -/

/-- The value of a symbol at an offset. -/
def readSymbol (offset : Nat) (b : UInt8) : Except Fault Nat :=
  match value? b with
  | some v => .ok v
  | none => .error (.symbol offset b)

/-- What is known of the last group while its characters are read. -/
structure LastGroup where
  /-- The values of the symbols read. -/
  values : List Nat := []
  /-- The last symbol read. -/
  last : UInt8 := 0
  /-- The number of padding signs read. -/
  padding : Nat := 0

/-- The last group is read character by character. Padding comes third or fourth, and
only padding follows it: otherwise the first padding sign is the one out of place. -/
def readLastGroup (offset : Nat) (index : Nat) (g : LastGroup) : Bytes → Except Fault LastGroup
  | [] => .ok g
  | b :: rest =>
    if b = pad then
      if index < 2 then .error (.symbol (offset + index) b)
      else readLastGroup offset (index + 1) { g with padding := g.padding + 1 } rest
    else if 0 < g.padding then .error (.symbol (offset + index - g.padding) pad)
    else do
      let v ← readSymbol (offset + index) b
      readLastGroup offset (index + 1) { g with values := g.values ++ [v], last := b } rest

/-- The bytes of the last group, which starts at the offset. -/
def LastGroup.bytes (offset : Nat) (g : LastGroup) : Except Fault Bytes :=
  let n := g.values.length
  if n = 1 then .error (.length (offset + 1))
  else if (n + g.padding) % 4 ≠ 0 then .error .padding
  else
    match g.values with
    | [a, b] =>
      if b % 16 ≠ 0 then .error (.strayBits (offset + 1) g.last)
      else .ok [UInt8.ofNat (a * 4 + b / 16)]
    | [a, b, c] =>
      if c % 4 ≠ 0 then .error (.strayBits (offset + 2) g.last)
      else .ok [UInt8.ofNat (a * 4 + b / 16), UInt8.ofNat (b % 16 * 16 + c / 4)]
    | [a, b, c, d] =>
      .ok [UInt8.ofNat (a * 4 + b / 16), UInt8.ofNat (b % 16 * 16 + c / 4),
        UInt8.ofNat (c % 4 * 64 + d)]
    | _ => .ok []

/-- The bytes of the groups from an offset on. Every group but the last holds four
symbols of the alphabet. -/
def decodeFrom (offset : Nat) : Bytes → Except Fault Bytes
  | a :: b :: c :: d :: e :: rest => do
    let va ← readSymbol offset a
    let vb ← readSymbol (offset + 1) b
    let vc ← readSymbol (offset + 2) c
    let vd ← readSymbol (offset + 3) d
    let bytes ← decodeFrom (offset + 4) (e :: rest)
    return UInt8.ofNat (va * 4 + vb / 16) :: UInt8.ofNat (vb % 16 * 16 + vc / 4)
      :: UInt8.ofNat (vc % 4 * 64 + vd) :: bytes
  | last => readLastGroup offset 0 {} last >>= LastGroup.bytes offset

/-- The foreign character that ends a text with one character too many. -/
def foreignEnd? (text : Bytes) : Option UInt8 :=
  if text.length % 4 = 1 then
    text.getLast?.filter fun b => b ≠ pad && (value? b).isNone
  else none

/-- The bytes of a base64 text in its encoded form. -/
def decodeBytes (text : Bytes) : Except Fault Bytes :=
  match foreignEnd? text with
  | some b => .error (.symbol (text.length - 1) b)
  | none => decodeFrom 0 text

/-- The bytes of a base64 text, or the fault in it. -/
def decode (text : String) : Except Fault Bytes :=
  decodeBytes (Bytes.ofText text)

end ChatRouting.Base64
