import ChatRouting.Fault
import ChatRouting.Text.Blank
import ChatRouting.Text.Quoted
import ChatRouting.Time.Calendar

/-!
# Timestamps

The date and time format of RFC 3339: a date, one of `T`, `t` and a blank, a time of day
with an optional fraction of a second, and the offset from universal time. A second numbered
sixty is the one after the fifty-ninth. The instant of a timestamp is a number of
milliseconds; what is finer is cut off.

A timestamp has four faults. It is premature if fewer bytes are left than the next part
needs, where the date and the time of day are one part of nineteen bytes; it has a foreign
character; a part is out of range; or something trails it. The first fault counts, and a
part is put to the test of its range as soon as it is complete: the date before the
character after it, the time of day after its fraction, the offset last of all.

## Main definitions

* `Instant`: a number of milliseconds that fits in sixty-four bits
* `Timestamp.Fault`, `Timestamp.Fault.message`
* `Timestamp.parse`: the instant of a timestamp
* `Instant.ofText`: the instant of the timestamp in an event
-/

namespace ChatRouting

/-- Milliseconds since the start of 1970 in universal time, in the range of 64-bit integers. -/
structure Instant where
  millis : Int
  inRange : -9223372036854775808 ≤ millis ∧ millis ≤ 9223372036854775807
  deriving DecidableEq

/-- The instant of a number of milliseconds in range. -/
def Instant.ofMillis? (millis : Int) : Option Instant :=
  if h : -9223372036854775808 ≤ millis ∧ millis ≤ 9223372036854775807 then some ⟨millis, h⟩
  else none

namespace Timestamp

/-- What is wrong with a timestamp. -/
inductive Fault where
  | premature
  | foreign
  | outOfRange
  | trailing
  deriving DecidableEq, Repr

/-- The wording of a fault. -/
def Fault.message : Fault → String
  | .premature => "premature end of input"
  | .foreign => "input contains invalid characters"
  | .outOfRange => "input is out of range"
  | .trailing => "trailing input"

/-- The number of bytes of a text. -/
def byteCount : List Char → Nat
  | [] => 0
  | c :: rest => c.utf8Size + byteCount rest

/-- The value of a digit. -/
def digit (c : Char) : Except Fault Nat :=
  if c.isDigit then .ok (c.toNat - 48) else .error .foreign

/-- The number of `n` digits after one that is read already, and the rest. -/
def digitsAfter (value : Nat) : Nat → List Char → Except Fault (Nat × List Char)
  | 0, cs => .ok (value, cs)
  | n + 1, c :: rest => do
    let d ← digit c
    digitsAfter (10 * value + d) n rest
  | _ + 1, [] => .error .foreign

/-- A number of exactly `n` digits, and the rest. -/
def digits (n : Nat) (cs : List Char) : Except Fault (Nat × List Char) :=
  digitsAfter 0 n cs

/-- The rest after a character that has to come next. -/
def sign (expected : Char) : List Char → Except Fault (List Char)
  | c :: rest => if c = expected then .ok rest else .error .foreign
  | [] => .error .premature

/-! ### The parts -/

/-- The date, which must be in the calendar. -/
def date (cs : List Char) : Except Fault (Date × List Char) := do
  let (year, rest) ← digits 4 cs
  let rest ← sign '-' rest
  let (month, rest) ← digits 2 rest
  let rest ← sign '-' rest
  let (day, rest) ← digits 2 rest
  let d : Date := ⟨year, month, day⟩
  if d.isValid then return (d, rest) else .error .outOfRange

/-- The rest after the character between the date and the time of day. -/
def separator : List Char → Except Fault (List Char)
  | c :: rest => if c = 'T' ∨ c = 't' ∨ c = ' ' then .ok rest else .error .foreign
  | [] => .error .premature

/-- A time of day. -/
structure Clock where
  (hour minute second : Nat)
  /-- Whole milliseconds after the second. -/
  millis : Nat

/-- The time is in the day. A second numbered sixty may end any minute. -/
def Clock.isValid (t : Clock) : Bool :=
  decide (t.hour < 24 ∧ t.minute < 60 ∧ t.second ≤ 60)

/-- The milliseconds that the digits of a fraction stand for, rounded down. -/
def fractionMillis (ds : List Char) : Nat :=
  ((ds ++ ['0', '0', '0']).take 3).foldl (fun n c => 10 * n + (c.toNat - 48)) 0

/-- The milliseconds after a point if there is one, and the rest. -/
def fraction : List Char → Except Fault (Nat × List Char)
  | '.' :: rest =>
    match rest with
    | [] => .error .premature
    | c :: _ =>
      if c.isDigit then .ok (fractionMillis (rest.takeWhile Char.isDigit),
        rest.dropWhile Char.isDigit)
      else .error .foreign
  | cs => .ok (0, cs)

/-- The time of day with its fraction, which must be in the day. -/
def clock (cs : List Char) : Except Fault (Clock × List Char) := do
  let (hour, rest) ← digits 2 cs
  let rest ← sign ':' rest
  let (minute, rest) ← digits 2 rest
  let rest ← sign ':' rest
  let (second, rest) ← digits 2 rest
  let (millis, rest) ← fraction rest
  let t : Clock := ⟨hour, minute, second, millis⟩
  if t.isValid then return (t, rest) else .error .outOfRange

/-- Two digits where a text may end too early: fewer than two bytes are no digits yet. -/
def twoDigits : List Char → Except Fault (Nat × List Char)
  | c :: d :: rest => digits 2 (c :: d :: rest)
  | cs => if byteCount cs < 2 then .error .premature else .error .foreign

/-- Hours and minutes of an offset. The minutes are below sixty. -/
def offsetParts (cs : List Char) : Except Fault (Nat × Nat × List Char) := do
  let (hours, rest) ← twoDigits cs
  let rest ← sign ':' rest
  let (minutes, rest) ← twoDigits rest
  if minutes < 60 then return (hours, minutes, rest) else .error .outOfRange

/-- The offset from universal time in minutes. The sign may be a true minus. -/
def offset : List Char → Except Fault (Int × List Char)
  | [] => .error .premature
  | c :: rest =>
    if c = 'Z' ∨ c = 'z' then .ok (0, rest)
    else if c = '+' then do
      let (hours, minutes, rest) ← offsetParts rest
      return ((60 * hours + minutes : Nat), rest)
    else if c = '-' ∨ c = '\u2212' then do
      let (hours, minutes, rest) ← offsetParts rest
      return (-((60 * hours + minutes : Nat) : Int), rest)
    else .error .foreign

/-! ### The instant -/

/-- The number of milliseconds of a date and a time of day at an offset in minutes. -/
def millis (d : Date) (t : Clock) (offset : Int) : Int :=
  (d.epochDays * 86400 + (3600 * t.hour + 60 * t.minute + t.second : Nat) - 60 * offset) * 1000
    + t.millis

/-- The instant of a timestamp without blanks around it. -/
def parseChars (cs : List Char) : Except Fault Instant :=
  if byteCount cs < 19 then .error .premature
  else do
    let (d, rest) ← date cs
    let rest ← separator rest
    let (t, rest) ← clock rest
    let (o, rest) ← offset rest
    if rest ≠ [] then .error .trailing
    else if 1440 ≤ o.natAbs then .error .outOfRange
    else
      match Instant.ofMillis? (millis d t o) with
      | some i => .ok i
      | none => .error .outOfRange

/-- The instant of a timestamp, with any blanks around it. -/
def parse (s : String) : Except Fault Instant :=
  parseChars (Text.trimChars s.toList)

end Timestamp

/-- The instant of the timestamp in an event. -/
def Instant.ofText (s : String) : Except Fault Instant :=
  match Timestamp.parse s with
  | .ok i => .ok i
  | .error f => .error (.malformedEvent s!"bad timestamp {Text.quoted s}: {f.message}")

end ChatRouting
