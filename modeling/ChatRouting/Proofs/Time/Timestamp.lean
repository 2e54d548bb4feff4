import Mathlib.Data.Rat.Floor
import Mathlib.Tactic.Linarith
import Mathlib.Tactic.NormNum
import Mathlib.Tactic.Ring
import ChatRouting.Proofs.Json.Reading
import ChatRouting.Proofs.Text
import ChatRouting.Proofs.Time.Calendar
import ChatRouting.Time.Timestamp

/-!
# Timestamps that were written

A timestamp is written part by part: each number with a fixed count of digits, the fraction of a
second with as many as there are, the offset as a letter or with a sign. What is written is read
back part by part, and its instant is that of the date and the time of day in universal time, cut
off to milliseconds. A date that is not in the calendar is refused, whatever the other parts are.

The milliseconds of a fraction are read off its first three digits. They are a thousand times the
fraction, rounded down, since the digits after these make up less than one of the last of them.

## Main definitions

* `Timestamp.Zone`, `Timestamp.Written`: a timestamp by its parts, with its text
* `Timestamp.fractionOf`: the number that digits after a point stand for
* `Timestamp.Written.instant`, `Timestamp.Written.reading`: what a timestamp says

## Main results

* `Timestamp.fractionMillis_eq_floor`
* `Timestamp.Written.date_written`, `Timestamp.Written.clock_written`, `Timestamp.offset_written`:
  parts are read back
* `Timestamp.Written.instant_lt_iff_reading`
* `Instant.ofText_written`: the instant of a timestamp that was written
-/

namespace ChatRouting

namespace Timestamp

/-- A text has a byte for each character at least. -/
theorem length_le_byteCount (cs : List Char) : cs.length ≤ byteCount cs := by
  induction cs with
  | nil => exact Nat.le_refl 0
  | cons c cs ih =>
    have hc := c.utf8Size_pos
    rw [List.length_cons, byteCount]
    omega

/-! ### Numbers of a fixed width -/

/-- The last digits of a number, as many as asked for. -/
def padded : Nat → Nat → List Char
  | 0, _ => []
  | width + 1, n => Nat.digitChar (n / 10 ^ width % 10) :: padded width n

@[simp] theorem length_padded (width n : Nat) : (padded width n).length = width := by
  induction width with
  | zero => rfl
  | succ width ih => rw [padded, List.length_cons, ih]

theorem digit_digitChar {d : Nat} (hd : d < 10) : digit (Nat.digitChar d) = .ok d := by
  obtain ⟨hdigit, hvalue⟩ := Json.Reader.digitChar_facts hd
  rw [digit, if_pos hdigit, hvalue]

theorem digitsAfter_padded (value width n : Nat) (rest : List Char) :
    digitsAfter value width (padded width n ++ rest) =
      .ok (value * 10 ^ width + n % 10 ^ width, rest) := by
  induction width generalizing value with
  | zero => simp [padded, digitsAfter, Nat.mod_one]
  | succ width ih =>
    have hd : n / 10 ^ width % 10 < 10 := Nat.mod_lt _ (by decide)
    rw [padded, List.cons_append, digitsAfter, digit_digitChar hd]
    simp only [bind, Except.bind, ih]
    congr 2
    rw [Nat.mod_pow_succ, Nat.pow_succ]
    ring

/-- The digits of a number that fits are read back. -/
theorem digits_padded (width : Nat) {n : Nat} (hn : n < 10 ^ width) (rest : List Char) :
    digits width (padded width n ++ rest) = .ok (n, rest) := by
  rw [digits, digitsAfter_padded, Nat.mod_eq_of_lt hn, Nat.zero_mul, Nat.zero_add]

theorem isDigit_of_mem_padded {width n : Nat} {c : Char} (hc : c ∈ padded width n) : c.isDigit := by
  induction width with
  | zero => cases hc
  | succ width ih =>
    rcases List.mem_cons.mp hc with rfl | hc
    · exact (Json.Reader.digitChar_facts (Nat.mod_lt _ (by decide))).1
    · exact ih hc

/-- Two digits are read back where a text may end too early. -/
theorem twoDigits_padded {n : Nat} (hn : n < 100) (rest : List Char) :
    twoDigits (padded 2 n ++ rest) = .ok (n, rest) := by
  rw [← digits_padded 2 hn rest]
  rfl

/-! ### Fractions -/

/-- The number that digits after a point stand for. -/
def fractionOf : List (Fin 10) → ℚ
  | [] => 0
  | d :: ds => (d.val + fractionOf ds) / 10

/-- A fraction is at least zero and less than one. -/
theorem fractionOf_bounds (ds : List (Fin 10)) : 0 ≤ fractionOf ds ∧ fractionOf ds < 1 := by
  induction ds with
  | nil => exact ⟨le_refl 0, one_pos⟩
  | cons d ds ih =>
    have hd : (d.val : ℚ) ≤ 9 := by exact_mod_cast Nat.le_of_lt_succ d.isLt
    have hpos : (0 : ℚ) ≤ d.val := Nat.cast_nonneg _
    rw [fractionOf]
    constructor <;> linarith [ih.1, ih.2]

/-- The digits of a fraction as characters. -/
def fractionDigits (ds : List (Fin 10)) : List Char :=
  ds.map fun d => Nat.digitChar d.val

/-- A fraction as it is written, which is not at all if it has no digits. -/
def fractionChars (ds : List (Fin 10)) : List Char :=
  if ds = [] then [] else '.' :: fractionDigits ds

theorem isDigit_of_mem_fractionDigits {ds : List (Fin 10)} {c : Char}
    (hc : c ∈ fractionDigits ds) : c.isDigit := by
  obtain ⟨d, -, rfl⟩ := List.mem_map.mp hc
  exact (Json.Reader.digitChar_facts d.isLt).1

/-- The first digits of a fraction, with zeros after the last, make up as many of its places. -/
theorem foldl_take_fractionDigits (k : ℕ) {zeros : ℕ} (hzeros : k ≤ zeros) (value : ℕ)
    (ds : List (Fin 10)) :
    ((((fractionDigits ds ++ List.replicate zeros '0').take k).foldl
      (fun n c => 10 * n + (c.toNat - 48)) value : ℕ) : ℤ) =
      value * 10 ^ k + ⌊10 ^ k * fractionOf ds⌋ := by
  induction k generalizing zeros value ds with
  | zero =>
    have hfloor : ⌊fractionOf ds⌋ = 0 := Int.floor_eq_zero_iff.mpr (fractionOf_bounds ds)
    simp [hfloor]
  | succ k ih =>
    obtain ⟨zeros, rfl⟩ := Nat.exists_eq_add_of_le' (Nat.le_trans (Nat.le_add_left 1 k) hzeros)
    cases ds with
    | nil =>
      have hrest := ih (Nat.le_of_succ_le_succ hzeros) (10 * value + ('0'.toNat - 48)) []
      have hzero : '0'.toNat - 48 = 0 := rfl
      rw [fractionDigits, List.map_nil, List.nil_append, hzero] at hrest
      rw [fractionDigits, List.map_nil, List.nil_append, List.replicate_succ, List.take_succ_cons,
        List.foldl_cons, hzero, hrest]
      norm_num [fractionOf]
      ring
    | cons d ds =>
      have hplaces : (10 : ℚ) ^ (k + 1) * fractionOf (d :: ds) =
          ((10 ^ k * d.val : ℕ) : ℚ) + 10 ^ k * fractionOf ds := by
        rw [fractionOf]
        push_cast
        ring
      have hrest := ih (Nat.le_of_succ_le hzeros) (10 * value + d.val) ds
      rw [hplaces, Int.floor_natCast_add, fractionDigits, List.map_cons, List.cons_append,
        List.take_succ_cons, List.foldl_cons, (Json.Reader.digitChar_facts d.isLt).2,
        ← fractionDigits, hrest]
      push_cast
      ring

/-- **The milliseconds of a fraction are a thousand times the fraction, rounded down.** -/
theorem fractionMillis_eq_floor (ds : List (Fin 10)) :
    (fractionMillis (fractionDigits ds) : ℤ) = ⌊1000 * fractionOf ds⌋ := by
  have hplaces := foldl_take_fractionDigits 3 (Nat.le_refl 3) 0 ds
  norm_num at hplaces
  exact hplaces

/-- A fraction has less than a thousand milliseconds. -/
theorem fractionMillis_lt (ds : List (Fin 10)) : fractionMillis (fractionDigits ds) < 1000 := by
  have hfloor : ⌊1000 * fractionOf ds⌋ < 1000 := by
    rw [Int.floor_lt]
    push_cast
    linarith [(fractionOf_bounds ds).2]
  have heq := fractionMillis_eq_floor ds
  omega

/-- A fraction is read back if what comes after it is neither a digit nor a point. -/
theorem fraction_written (ds : List (Fin 10)) {rest : List Char}
    (hrest : Json.Reader.Stops ['.'] rest) :
    fraction (fractionChars ds ++ rest) = .ok (fractionMillis (fractionDigits ds), rest) := by
  unfold fractionChars
  split_ifs with hnone
  · subst hnone
    have hzero : fractionMillis (fractionDigits []) = 0 := rfl
    rw [hzero, List.nil_append]
    cases rest with
    | nil => rfl
    | cons c rest =>
      have hpoint : c ≠ '.' := fun h => (hrest c rfl).2 (by simp [h])
      simp [fraction, hpoint]
  · have hdigits : ∀ c ∈ fractionDigits ds, c.isDigit := fun c => isDigit_of_mem_fractionDigits
    have htake : rest.takeWhile Char.isDigit = [] := by
      cases rest with
      | nil => rfl
      | cons c rest => rw [List.takeWhile_cons_of_neg (by simp [(hrest c rfl).1])]
    have hdrop : rest.dropWhile Char.isDigit = rest := by
      cases rest with
      | nil => rfl
      | cons c rest => rw [List.dropWhile_cons_of_neg (by simp [(hrest c rfl).1])]
    obtain ⟨d, ds, rfl⟩ := List.exists_cons_of_ne_nil hnone
    have hfirst : (Nat.digitChar d.val).isDigit := (Json.Reader.digitChar_facts d.isLt).1
    have hcons : fractionDigits (d :: ds) = Nat.digitChar d.val :: fractionDigits ds := rfl
    rw [hcons] at hdigits ⊢
    simp only [List.cons_append, fraction, hfirst, if_true]
    rw [← List.cons_append, List.takeWhile_append_of_pos hdigits,
      List.dropWhile_append_of_pos hdigits, htake, hdrop, List.append_nil]

/-! ### The parts -/

/-- An offset from universal time as it is written. -/
inductive Zone where
  /-- Universal time, as a capital letter or a small one. -/
  | universal (small : Bool)
  /-- So many hours and minutes ahead of universal time or behind it. -/
  | shifted (behind : Bool) (hours : Fin 24) (minutes : Fin 60)

/-- The text of an offset. -/
def Zone.chars : Zone → List Char
  | universal small => [if small then 'z' else 'Z']
  | shifted behind hours minutes =>
    (if behind then '-' else '+') :: (padded 2 hours ++ ':' :: padded 2 minutes)

/-- An offset in minutes. -/
def Zone.minutes : Zone → Int
  | universal _ => 0
  | shifted behind hours minutes =>
    if behind then -(60 * hours.val + minutes.val) else 60 * hours.val + minutes.val

/-- A timestamp by its parts. The date need not be in the calendar. -/
structure Written where
  year : Fin 10000
  month : Fin 100
  day : Fin 100
  /-- What stands between the date and the time of day. -/
  separator : Char
  separates : separator = 'T' ∨ separator = 't' ∨ separator = ' '
  hour : Fin 24
  minute : Fin 60
  /-- A second numbered sixty may end any minute. -/
  second : Fin 61
  /-- The digits of the fraction, of which there may be none. -/
  fraction : List (Fin 10)
  zone : Zone

theorem offsetParts_written (hours : Fin 24) (minutes : Fin 60) (rest : List Char) :
    offsetParts (padded 2 hours ++ ':' :: (padded 2 minutes ++ rest)) =
      .ok (hours.val, minutes.val, rest) := by
  have hsign : sign ':' (':' :: (padded 2 minutes ++ rest)) = .ok (padded 2 minutes ++ rest) := rfl
  rw [offsetParts, twoDigits_padded (by omega)]
  simp only [bind, Except.bind, hsign, twoDigits_padded (show minutes.val < 100 by omega)]
  exact if_pos minutes.isLt

/-- **An offset is read back.** -/
theorem offset_written (z : Zone) (rest : List Char) :
    offset (z.chars ++ rest) = .ok (z.minutes, rest) := by
  rcases z with small | ⟨behind, hours, minutes⟩
  · cases small <;> rfl
  · have hparts := offsetParts_written hours minutes rest
    cases behind <;> simp [Zone.chars, Zone.minutes, offset, hparts, bind, Except.bind, pure,
      Except.pure]

theorem Zone.natAbs_minutes_lt (z : Zone) : z.minutes.natAbs < 1440 := by
  rcases z with small | ⟨behind, hours, minutes⟩
  · exact (by decide : 0 < 1440)
  · have hhours := hours.isLt
    have hminutes := minutes.isLt
    cases behind <;> simp only [Zone.minutes, Bool.false_eq_true, if_true, if_false] <;> omega

/-- An offset begins neither with a digit nor with a point. -/
theorem Zone.stops_chars (z : Zone) : Json.Reader.Stops ['.'] z.chars := by
  rcases z with small | ⟨behind, hours, minutes⟩
  · cases small <;> exact .cons (by decide) (by decide) _
  · cases behind <;> exact .cons (by decide) (by decide) _

theorem Zone.chars_ne_nil (z : Zone) : z.chars ≠ [] := by
  cases z <;> simp [Zone.chars]

/-- An offset ends with a letter or a digit. -/
theorem Zone.isBlank_getLast (z : Zone) : ∀ c ∈ z.chars.getLast?, Text.isBlank c = false := by
  rcases z with small | ⟨behind, hours, minutes⟩
  · cases small <;> exact fun c hc => Option.some.inj hc ▸ rfl
  · intro c hc
    have hlast : c ∈ (padded 2 minutes.val).getLast? := by
      simpa [Zone.chars, padded, List.getLast?_cons] using hc
    exact Text.isBlank_of_hex (by simp [isDigit_of_mem_padded (List.mem_of_mem_getLast? hlast)])

namespace Written

variable (w : Written)

/-- The date of a timestamp. -/
def date : Date :=
  ⟨w.year, w.month, w.day⟩

/-- The time of day of a timestamp. -/
def clock : Clock :=
  ⟨w.hour, w.minute, w.second, fractionMillis (fractionDigits w.fraction)⟩

/-- The text of the date. -/
def dateChars : List Char :=
  padded 4 w.year ++ '-' :: (padded 2 w.month ++ '-' :: padded 2 w.day)

/-- The text of the time of day. -/
def clockChars : List Char :=
  padded 2 w.hour ++ ':' :: (padded 2 w.minute ++ ':' :: (padded 2 w.second ++
    fractionChars w.fraction))

/-- The text of a timestamp. -/
def chars : List Char :=
  w.dateChars ++ w.separator :: (w.clockChars ++ w.zone.chars)

theorem dateChars_append (rest : List Char) : w.dateChars ++ rest =
    padded 4 w.year ++ ('-' :: (padded 2 w.month ++ ('-' :: (padded 2 w.day ++ rest)))) := by
  simp [dateChars]

theorem clockChars_append (rest : List Char) : w.clockChars ++ rest =
    padded 2 w.hour ++ (':' :: (padded 2 w.minute ++ (':' :: (padded 2 w.second ++
      (fractionChars w.fraction ++ rest))))) := by
  simp [clockChars]

theorem sign_cons (c : Char) (rest : List Char) : sign c (c :: rest) = .ok rest :=
  if_pos rfl

/-- **A date is read back if it is in the calendar, and refused if it is not.** -/
theorem date_written (rest : List Char) : Timestamp.date (w.dateChars ++ rest) =
    if w.date.isValid then .ok (w.date, rest) else .error .outOfRange := by
  have hyear := digits_padded 4 (n := w.year) (by omega)
  have hmonth := digits_padded 2 (n := w.month) (by omega)
  have hday := digits_padded 2 (n := w.day) (by omega)
  rw [dateChars_append]
  simp only [Timestamp.date, hyear, hmonth, hday, sign_cons, bind, Except.bind, pure, Except.pure]
  rfl

/-- **A time of day is read back.** -/
theorem clock_written {rest : List Char} (hrest : Json.Reader.Stops ['.'] rest) :
    Timestamp.clock (w.clockChars ++ rest) = .ok (w.clock, rest) := by
  have hhour := digits_padded 2 (n := w.hour) (by omega)
  have hminute := digits_padded 2 (n := w.minute) (by omega)
  have hsecond := digits_padded 2 (n := w.second) (by omega)
  have hvalid : w.clock.isValid = true :=
    decide_eq_true ⟨w.hour.isLt, w.minute.isLt, Nat.le_of_lt_succ w.second.isLt⟩
  rw [clockChars_append]
  simp only [Timestamp.clock, hhour, hminute, hsecond, fraction_written w.fraction hrest, sign_cons,
    bind, Except.bind, pure, Except.pure]
  exact if_pos hvalid

/-! ### The whole -/

theorem length_chars : 19 ≤ w.chars.length := by
  simp [chars, dateChars, clockChars]
  omega

/-- The date of a timestamp that is not in the calendar is its first fault. -/
theorem parseChars_of_not_isValid (hdate : ¬w.date.isValid) :
    parseChars w.chars = .error .outOfRange := by
  have hbytes : ¬byteCount w.chars < 19 :=
    Nat.not_lt.mpr (Nat.le_trans w.length_chars (length_le_byteCount w.chars))
  rw [parseChars, if_neg hbytes, chars, w.date_written, if_neg hdate]
  rfl

/-- The number of milliseconds of a timestamp is in range. -/
theorem millis_bounds (hdate : w.date.isValid) :
    -9223372036854775808 ≤ millis w.date w.clock w.zone.minutes ∧
      millis w.date w.clock w.zone.minutes ≤ 9223372036854775807 := by
  have hdays := Date.epochDays_bounds hdate w.year.isLt
  have hzone := w.zone.natAbs_minutes_lt
  have hfraction := fractionMillis_lt w.fraction
  have hhour := w.hour.isLt
  have hminute := w.minute.isLt
  have hsecond := w.second.isLt
  simp only [millis, clock]
  omega

/-- A timestamp is read back. -/
theorem parseChars_of_isValid (hdate : w.date.isValid) :
    ∃ i, parseChars w.chars = .ok i ∧ i.millis = millis w.date w.clock w.zone.minutes := by
  have hbytes : ¬byteCount w.chars < 19 :=
    Nat.not_lt.mpr (Nat.le_trans w.length_chars (length_le_byteCount w.chars))
  have hseparator (rest : List Char) : Timestamp.separator (w.separator :: rest) = .ok rest :=
    if_pos w.separates
  have hoffset : Timestamp.offset w.zone.chars = .ok (w.zone.minutes, []) := by
    simpa using offset_written w.zone []
  have hzone : ¬1440 ≤ w.zone.minutes.natAbs := Nat.not_le.mpr w.zone.natAbs_minutes_lt
  have hrange := w.millis_bounds hdate
  refine ⟨⟨millis w.date w.clock w.zone.minutes, hrange⟩, ?_, rfl⟩
  rw [parseChars, if_neg hbytes, chars, w.date_written, if_pos hdate]
  simp only [bind, Except.bind, hseparator, w.clock_written w.zone.stops_chars, hoffset, hzone,
    Instant.ofMillis?, hrange, and_self, dif_pos, ne_eq, not_true_eq_false, if_false]

/-! ### Instants -/

/-- The number of milliseconds from the start of 1970 in universal time: that of the days and of the
time of day at the offset, and what the fraction has of them. -/
def instant : ℤ :=
  (w.date.epochDays * 86400 + w.hour.val * 3600 + w.minute.val * 60 + w.second.val
    - w.zone.minutes * 60) * 1000 + ⌊1000 * fractionOf w.fraction⌋

/-- What a calendar and a clock at the offset show, the greatest unit first. -/
def reading : List ℕ :=
  [w.year.val, w.month.val, w.day.val, w.hour.val, w.minute.val, w.second.val,
    fractionMillis (fractionDigits w.fraction)]

/-- The number of milliseconds that the clock has gone through on the day. -/
def millisOfDay : ℕ :=
  ((w.hour.val * 60 + w.minute.val) * 60 + w.second.val) * 1000
    + fractionMillis (fractionDigits w.fraction)

theorem instant_eq : w.instant =
    w.date.epochDays * 86400000 + w.millisOfDay - w.zone.minutes * 60000 := by
  rw [instant, ← fractionMillis_eq_floor, millisOfDay]
  push_cast
  ring

theorem instant_eq_millis : w.instant = millis w.date w.clock w.zone.minutes := by
  rw [instant, ← fractionMillis_eq_floor, millis, clock]
  push_cast
  ring

variable {w} {w' : Written}

theorem millisOfDay_lt (hsecond : w.second.val < 60) : w.millisOfDay < 86400000 := by
  have hfraction := fractionMillis_lt w.fraction
  have hhour := w.hour.isLt
  have hminute := w.minute.isLt
  rw [millisOfDay]
  omega

/-- Numbers of two places are in the order of the first place and then of the second. -/
theorem scaled_lt_iff {b m n p q : ℕ} (hn : n < b) (hq : q < b) :
    m * b + n < p * b + q ↔ m < p ∨ m = p ∧ n < q := by
  rcases Nat.lt_trichotomy m p with hlt | rfl | hgt
  · have hstep := Nat.mul_le_mul_right b (Nat.succ_le_of_lt hlt)
    rw [Nat.succ_mul] at hstep
    exact iff_of_true (by omega) (Or.inl hlt)
  · simp
  · have hstep := Nat.mul_le_mul_right b (Nat.succ_le_of_lt hgt)
    rw [Nat.succ_mul] at hstep
    exact iff_of_false (by omega) (by omega)

theorem scaled_eq_iff {b m n p q : ℕ} (hn : n < b) (hq : q < b) :
    m * b + n = p * b + q ↔ m = p ∧ n = q := by
  have hlt := scaled_lt_iff (m := m) (p := p) hn hq
  have hgt := scaled_lt_iff (m := p) (p := m) hq hn
  omega

/-- Readings are in order of the date and then of the time of day. -/
theorem reading_lt_iff (hsecond : w.second.val < 60) (hsecond' : w'.second.val < 60) :
    w.reading < w'.reading ↔
      w.date.Before w'.date ∨ w.date = w'.date ∧ w.millisOfDay < w'.millisOfDay := by
  have hfraction := fractionMillis_lt w.fraction
  have hfraction' := fractionMillis_lt w'.fraction
  have hminute := w.minute.isLt
  have hminute' := w'.minute.isLt
  have hclock : w.millisOfDay < w'.millisOfDay ↔
      w.hour.val < w'.hour.val ∨ w.hour.val = w'.hour.val ∧ (w.minute.val < w'.minute.val ∨
        w.minute.val = w'.minute.val ∧ (w.second.val < w'.second.val ∨
          w.second.val = w'.second.val ∧ fractionMillis (fractionDigits w.fraction) <
            fractionMillis (fractionDigits w'.fraction))) := by
    rw [millisOfDay, millisOfDay, scaled_lt_iff hfraction hfraction',
      scaled_lt_iff hsecond hsecond', scaled_lt_iff hminute hminute',
      scaled_eq_iff hsecond hsecond', scaled_eq_iff hminute hminute']
    simp only [and_or_left, or_assoc, and_assoc]
  simp only [reading, date, Date.Before, Date.mk.injEq, hclock, List.cons_lt_cons_iff,
    List.not_lt_nil, and_false, or_false, and_or_left, or_assoc, and_assoc]

/-- **At one offset instants are in the order of the readings.** Seconds numbered sixty are left
out, since they are those after the fifty-ninth. -/
theorem instant_lt_iff_reading (hdate : w.date.isValid) (hdate' : w'.date.isValid)
    (hzone : w.zone.minutes = w'.zone.minutes) (hsecond : w.second.val < 60)
    (hsecond' : w'.second.val < 60) : w.instant < w'.instant ↔ w.reading < w'.reading := by
  have hday : w.millisOfDay < 86400000 := millisOfDay_lt hsecond
  have hday' : w'.millisOfDay < 86400000 := millisOfDay_lt hsecond'
  rw [reading_lt_iff hsecond hsecond', ← Date.epochDays_lt_iff hdate hdate',
    ← Date.epochDays_inj hdate hdate', instant_eq, instant_eq, hzone]
  omega

/-! ### Texts -/

variable (w) in
/-- A text is the timestamp, with any blanks around it. -/
def Writes (text : String) : Prop :=
  ∃ before after, (∀ c ∈ before, Text.isBlank c) ∧ (∀ c ∈ after, Text.isBlank c) ∧
    text = String.ofList (before ++ w.chars ++ after)

theorem Writes.parse {text : String} (h : w.Writes text) : parse text = parseChars w.chars := by
  obtain ⟨before, after, hbefore, hafter, rfl⟩ := h
  have hfirst : ∀ c ∈ w.chars.head?, Text.isBlank c = false := by
    intro c hc
    have hyear : c ∈ (padded 4 w.year.val).head? := by
      simpa [chars, dateChars, padded] using hc
    exact Text.isBlank_of_hex (by simp [isDigit_of_mem_padded (List.mem_of_mem_head? hyear)])
  have hlast : ∀ c ∈ w.chars.getLast?, Text.isBlank c = false := by
    intro c hc
    rw [chars, ← List.cons_append, ← List.append_assoc,
      List.getLast?_append_of_ne_nil _ w.zone.chars_ne_nil] at hc
    exact w.zone.isBlank_getLast c hc
  rw [Timestamp.parse, String.toList_ofList,
    Text.trimChars_surrounded hbefore hafter hfirst hlast]

theorem Writes.ofText_of_isValid {text : String} (h : w.Writes text) (hdate : w.date.isValid) :
    ∃ i, Instant.ofText text = .ok i ∧ i.millis = w.instant := by
  obtain ⟨i, hi, hmillis⟩ := w.parseChars_of_isValid hdate
  refine ⟨i, ?_, hmillis.trans w.instant_eq_millis.symm⟩
  rw [Instant.ofText, h.parse, hi]

theorem Writes.ofText_of_not_isValid {text : String} (h : w.Writes text)
    (hdate : ¬w.date.isValid) : Instant.ofText text = .error (.malformedEvent
      s!"bad timestamp {Text.quoted text}: {Timestamp.Fault.outOfRange.message}") := by
  rw [Instant.ofText, h.parse, w.parseChars_of_not_isValid hdate]

end Written

end Timestamp

open Timestamp

/-- **A timestamp that was written has the instant that it says, to the millisecond.** The instant
is that of its date and its time of day in universal time, in the range of instants, if the date is
in the calendar, and the timestamp is malformed if it is not. So two timestamps have the same
instant just when they say so, at whatever offsets, and at one offset the earlier reading has the
earlier instant. The days of dates in the calendar are counted one by one from 1970 on. -/
theorem Instant.ofText_written :
    (∀ (w : Written) (text : String), w.Writes text →
      (w.date.isValid → ∃ i, Instant.ofText text = .ok i ∧ i.millis =
        (w.date.epochDays * 86400 + w.hour.val * 3600 + w.minute.val * 60 + w.second.val
          - w.zone.minutes * 60) * 1000 + ⌊1000 * fractionOf w.fraction⌋) ∧
      (¬w.date.isValid → Instant.ofText text = .error (.malformedEvent
        s!"bad timestamp {Text.quoted text}: {Timestamp.Fault.outOfRange.message}"))) ∧
    (∀ (w w' : Written) (text text' : String) (i i' : Instant), w.Writes text → w'.Writes text' →
      Instant.ofText text = .ok i → Instant.ofText text' = .ok i' →
      (i = i' ↔ w.instant = w'.instant) ∧ (i.millis < i'.millis ↔ w.instant < w'.instant) ∧
      (w.zone.minutes = w'.zone.minutes → w.second.val < 60 → w'.second.val < 60 →
        (i.millis < i'.millis ↔ w.reading < w'.reading))) ∧
    Date.epochDays ⟨1970, 1, 1⟩ = 0 ∧
      ∀ d : Date, d.isValid → d.next.isValid ∧ d.next.epochDays = d.epochDays + 1 := by
  have hmeaning {w : Written} {text : String} {i : Instant} (h : w.Writes text)
      (hi : Instant.ofText text = .ok i) : w.date.isValid ∧ i.millis = w.instant := by
    by_cases hdate : w.date.isValid
    · obtain ⟨j, hj, hmillis⟩ := h.ofText_of_isValid hdate
      rw [hj] at hi
      obtain rfl := Except.ok.inj hi
      exact ⟨hdate, hmillis⟩
    · rw [h.ofText_of_not_isValid hdate] at hi
      cases hi
  refine ⟨fun w text h => ⟨h.ofText_of_isValid, h.ofText_of_not_isValid⟩, ?_, Date.epochDays_epoch,
    fun d hd => ⟨Date.isValid_next hd, Date.epochDays_next hd⟩⟩
  intro w w' text text' i i' h h' hi hi'
  obtain ⟨hdate, hmillis⟩ := hmeaning h hi
  obtain ⟨hdate', hmillis'⟩ := hmeaning h' hi'
  have hsame : i = i' ↔ i.millis = i'.millis := by
    cases i
    cases i'
    simp
  rw [hsame, hmillis, hmillis']
  exact ⟨Iff.rfl, Iff.rfl, Written.instant_lt_iff_reading hdate hdate'⟩

/-- The sixtieth second of the last minute of 1969 is the first of 1970, at whatever offset that is
written. A leap day of the year zero at an offset is before the day in universal time, and there is
none in 1900. -/
theorem Instant.ofText_written_leap :
    let leapDay : Written :=
      { year := 0, month := 2, day := 29, separator := 't', separates := by decide
        hour := 0, minute := 0, second := 0, fraction := [9, 9, 9, 5]
        zone := .shifted false 23 59 }
    let noDay : Written := { leapDay with year := 1900 }
    let leapSecond : Written :=
      { year := 1969, month := 12, day := 31, separator := 'T', separates := by decide
        hour := 23, minute := 59, second := 60, fraction := [2, 5], zone := .universal false }
    let ahead : Written :=
      { year := 1970, month := 1, day := 1, separator := ' ', separates := by decide
        hour := 0, minute := 30, second := 0, fraction := [2, 5, 0, 9]
        zone := .shifted false 0 30 }
    (leapDay.Writes "\u2003\n 0000-02-29t00:00:00.9995+23:59\t" ∧ leapDay.date.isValid ∧
        ∃ i, Instant.ofText "\u2003\n 0000-02-29t00:00:00.9995+23:59\t" = .ok i ∧
          i.millis = -62162207939001) ∧
      (noDay.Writes "1900-02-29t00:00:00.9995+23:59" ∧ ¬noDay.date.isValid ∧
        ∃ reason, Instant.ofText "1900-02-29t00:00:00.9995+23:59" =
          .error (.malformedEvent reason)) ∧
      (leapSecond.Writes "1969-12-31T23:59:60.25Z" ∧
        ahead.Writes "1970-01-01 00:30:00.2509+00:30" ∧
        ∃ i, Instant.ofText "1969-12-31T23:59:60.25Z" = .ok i ∧
          Instant.ofText "1970-01-01 00:30:00.2509+00:30" = .ok i) := by
  intro leapDay noDay leapSecond ahead
  have hleapDay : leapDay.Writes "\u2003\n 0000-02-29t00:00:00.9995+23:59\t" :=
    ⟨['\u2003', '\n', ' '], ['\t'], List.all_eq_true.mp rfl, List.all_eq_true.mp rfl, by decide⟩
  have hnoDay : noDay.Writes "1900-02-29t00:00:00.9995+23:59" :=
    ⟨[], [], List.forall_mem_nil _, List.forall_mem_nil _, by decide⟩
  have hleapSecond : leapSecond.Writes "1969-12-31T23:59:60.25Z" :=
    ⟨[], [], List.forall_mem_nil _, List.forall_mem_nil _, by decide⟩
  have hahead : ahead.Writes "1970-01-01 00:30:00.2509+00:30" :=
    ⟨[], [], List.forall_mem_nil _, List.forall_mem_nil _, by decide⟩
  obtain ⟨hmeaning, horder, -⟩ := Instant.ofText_written
  obtain ⟨i, hi, hmillis⟩ := (hmeaning leapDay _ hleapDay).1 (by decide)
  obtain ⟨j, hj, -⟩ := (hmeaning leapSecond _ hleapSecond).1 (by decide)
  obtain ⟨k, hk, -⟩ := (hmeaning ahead _ hahead).1 (by decide)
  have hrefused := (hmeaning noDay _ hnoDay).2 (by decide)
  refine ⟨⟨hleapDay, by decide, i, hi, ?_⟩, ⟨hnoDay, by decide, _, hrefused⟩, hleapSecond, hahead,
    j, hj, ?_⟩
  · rw [hmillis, ← fractionMillis_eq_floor]
    decide
  · have hsame : leapSecond.instant = ahead.instant := by
      rw [Written.instant_eq_millis, Written.instant_eq_millis]
      decide
    rw [hk, (horder leapSecond ahead _ _ j k hleapSecond hahead hj hk).1.mpr hsame]

end ChatRouting
