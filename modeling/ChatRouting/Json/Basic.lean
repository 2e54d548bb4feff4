/-!
# JSON values

A value keeps what its text says and no more: members stay in order and may repeat, a
number keeps its digits, and a string literal keeps whether it denotes a text at all.
What a text means for a type of this library is decided when it is decoded, so that a
part which no type looks at is never judged.

## Main definitions

* `Numeral`, `Numeral.toInt?`, `Numeral.isFinite`
* `Literal`, `Json`
* `Json.depth`, `Json.isSound`
-/

namespace ChatRouting

/-- A number as it is written: sign, whole part, decimal digits and power of ten. -/
structure Numeral where
  negative : Bool := false
  whole : Nat
  decimals : List Nat := []
  exponent : Option Int := none
  deriving DecidableEq, Repr

namespace Numeral

/-- The numeral that writes an integer. -/
def ofInt (i : Int) : Numeral :=
  { negative := i < 0, whole := i.natAbs }

/-- The integer a numeral stands for. A numeral with decimals or a power of ten stands for
none, and neither does a zero with a sign. -/
def toInt? (n : Numeral) : Option Int :=
  if n.decimals = [] ∧ n.exponent = none ∧ ¬(n.negative ∧ n.whole = 0) then
    some (if n.negative then -n.whole else n.whole)
  else none

/-! ### Range

A numeral with decimals, with a power of ten or outside the range of 64-bit integers is read
in binary floating point. Its leading digits form a 64-bit significand; the digits after
these only move the point. The significand and the power of ten are each rounded to
fifty-three bits, and the product must stay below the 1024th power of two. -/

/-- The nearest number with at most fifty-three significant bits; a tie goes to the even one. -/
def round53 (n : Nat) : Nat :=
  let shift := n.log2 - 52
  let unit := 1 <<< shift
  let q := n / unit
  let r := n % unit
  if 2 * r < unit ∨ (2 * r = unit ∧ q % 2 = 0) then q * unit else (q + 1) * unit

/-- A significand with the power of ten it is scaled by. -/
structure Scaled where
  significand : Nat
  power : Int

/-- No significand reaches two to the sixty-fourth power. -/
def significandBound : Nat := 18446744073709551616

/-- The significand takes whole digits while it fits in sixty-four bits; from the first that
does not fit on, each stands for one more power of ten. -/
def Scaled.takeWhole (s : Scaled) : List Nat → Scaled
  | [] => s
  | d :: rest =>
    if s.significand * 10 + d < significandBound then
      Scaled.takeWhole ⟨s.significand * 10 + d, s.power⟩ rest
    else ⟨s.significand, s.power + rest.length + 1⟩

/-- The significand takes decimal digits up to the first that does not fit in sixty-four
bits. -/
def Scaled.takeDecimals (s : Scaled) : List Nat → Scaled
  | [] => s
  | d :: rest =>
    if s.significand * 10 + d < significandBound then
      Scaled.takeDecimals ⟨s.significand * 10 + d, s.power - 1⟩ rest
    else s

/-- The decimal digits of a number, the highest first. -/
def digits (n : Nat) : List Nat :=
  (Nat.toDigits 10 n).map fun c => c.toNat - 48

/-- The significand and the power of ten of a numeral. -/
def scaled (n : Numeral) : Scaled :=
  let s := (Scaled.takeWhole ⟨0, 0⟩ (digits n.whole)).takeDecimals n.decimals
  ⟨s.significand, s.power + n.exponent.getD 0⟩

/-- The numeral is in the range of binary floating point: up to 308 as the power of ten, and
below the 1024th power of two as a whole. -/
def isFinite (n : Numeral) : Bool :=
  let s := n.scaled
  s.significand == 0 || s.power < 0
    || (s.power ≤ 308
      && round53 (round53 s.significand * round53 (Nat.pow 10 s.power.toNat)) < 1 <<< 1024)

end Numeral

/-- The content of a string literal: `none` if a surrogate escape stands alone in it, so that
the literal denotes no text. -/
abbrev Literal := Option String

/-- A JSON value. -/
inductive Json where
  | null
  | bool (b : Bool)
  | number (n : Numeral)
  | string (s : Literal)
  | array (items : List Json)
  | object (members : List (Literal × Json))

namespace Json

/-- The value of a text. -/
def text (s : String) : Json :=
  .string (some s)

/-- The value of an integer. -/
def int (i : Int) : Json :=
  .number (.ofInt i)

/-- The value of a text that may be absent. -/
def optionalText : Option String → Json
  | none => .null
  | some s => .text s

/-- An object with texts for keys. -/
def record (members : List (String × Json)) : Json :=
  .object (members.map fun m => (some m.1, m.2))

mutual
/-- How many arrays and objects stand inside one another. -/
def depth : Json → Nat
  | .array items => itemsDepth items + 1
  | .object members => membersDepth members + 1
  | _ => 0

/-- The greatest depth of a list of values. -/
def itemsDepth : List Json → Nat
  | [] => 0
  | v :: rest => max v.depth (itemsDepth rest)

/-- The greatest depth of the values of a list of members. -/
def membersDepth : List (Literal × Json) → Nat
  | [] => 0
  | (_, v) :: rest => max v.depth (membersDepth rest)
end

mutual
/-- Every literal denotes a text and every number is in range. -/
def isSound : Json → Bool
  | .number n => n.isFinite
  | .string s => s.isSome
  | .array items => itemsSound items
  | .object members => membersSound members
  | _ => true

/-- Every value of a list is sound. -/
def itemsSound : List Json → Bool
  | [] => true
  | v :: rest => v.isSound && itemsSound rest

/-- Every key and every value of a list of members is sound. -/
def membersSound : List (Literal × Json) → Bool
  | [] => true
  | (k, v) :: rest => k.isSome && v.isSound && membersSound rest
end

end Json

end ChatRouting
