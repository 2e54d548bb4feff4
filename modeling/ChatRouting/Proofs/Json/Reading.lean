import Mathlib.Data.List.Basic
import Mathlib.Tactic.SplitIfs
import ChatRouting.Json.Reader
import ChatRouting.Json.Writer

/-!
# Reading what was written

The compact form of a value is a text that reads back to the value, whatever text comes after it
that does not go on with a number. A literal reads back character by character: the ones below the
space come back as numbered escapes, the others as they are. A number reads back because its digits
are those of no other number. From there a value reads back part by part, and the bound on the
recursion is never met, since two steps take a character at least.

The one thing a text cannot tell is a decimal that is not a digit, so the values here are those
whose decimals are digits.

## Main definitions

* `Json.isDecimal`: every decimal in a value is a digit
* `Json.Reader.unitOf`: the unit that a written character reads as

## Main results

* `Json.Reader.literal_written`, `Json.Reader.number_written`
* `Json.parse_compact`: the compact form of a value reads back to the value
-/

namespace ChatRouting.Hex

/-- The digit of a value below sixteen stands for the value. -/
theorem digitValue?_digit {n : Nat} (hn : n < 16) : digitValue? (digit n) = some n := by
  have hall : ∀ m < 16, digitValue? (digit m) = some m := by decide
  exact hall n hn

end ChatRouting.Hex

namespace ChatRouting.Json

mutual
/-- Every decimal of every number in a value is a digit. -/
def isDecimal : Json → Bool
  | .number n => n.decimals.all (· < 10)
  | .array items => itemsDecimal items
  | .object members => membersDecimal members
  | _ => true

/-- Every decimal in a list of values is a digit. -/
def itemsDecimal : List Json → Bool
  | [] => true
  | v :: rest => v.isDecimal && itemsDecimal rest

/-- Every decimal in the values of a list of members is a digit. -/
def membersDecimal : List (Literal × Json) → Bool
  | [] => true
  | (_, v) :: rest => v.isDecimal && membersDecimal rest
end

namespace Reader

/-! ### Strings -/

/-- The unit that a written character reads as. -/
def unitOf (c : Char) : TextUnit :=
  if c = '\n' ∨ c = '\r' ∨ c = '\t' ∨ c = '\x08' ∨ c = '\x0c' then .char c
  else if c < ' ' then .code c.toNat
  else .char c

theorem toNat_lt_of_lt_space {c : Char} (hc : c < ' ') : c.toNat < 32 := by
  simpa [Char.lt_def, UInt32.lt_iff_toNat_lt] using hc

/-- An escape of two characters reads as the character it is for. -/
theorem units_short {e c : Char} (he : shortEscape? e = some c) (rest : List Char) :
    units ('\\' :: e :: rest) = (units rest).map fun p => (.char c :: p.1, p.2) := by
  have hu : e ≠ 'u' := by
    rintro rfl
    simp [shortEscape?] at he
  simp [units, hu, he]
  cases units rest <;> rfl

/-- An escape with four digits reads as the number they stand for. -/
theorem units_code {a b c d : Char} {n : Nat} (hn : code? a b c d = some n) (rest : List Char) :
    units ('\\' :: 'u' :: a :: b :: c :: d :: rest)
      = (units rest).map fun p => (.code n :: p.1, p.2) := by
  simp only [units, hn, Option.bind_eq_bind, Option.bind_some]
  cases units rest <;> rfl

/-- A character that is not below the space, no quote and no backslash reads as it is. -/
theorem units_plain {c : Char} (hquote : c ≠ '"') (hslash : c ≠ '\\') (hspace : ¬c < ' ')
    (rest : List Char) :
    units (c :: rest) = (units rest).map fun p => (.char c :: p.1, p.2) := by
  simp [units, hslash, hspace]
  cases units rest <;> rfl

/-- A written character reads as its unit. -/
theorem units_escape (c : Char) (rest : List Char) :
    units (Writer.escape c ++ rest) = (units rest).map fun p => (unitOf c :: p.1, p.2) := by
  unfold Writer.escape
  split_ifs with hquote hslash hn hr ht hb hf hspace
  · subst hquote
    exact units_short (by decide) rest
  · subst hslash
    exact units_short (by decide) rest
  · subst hn
    exact units_short (by decide) rest
  · subst hr
    exact units_short (by decide) rest
  · subst ht
    exact units_short (by decide) rest
  · subst hb
    exact units_short (by decide) rest
  · subst hf
    exact units_short (by decide) rest
  · have hlt : c.toNat < 32 := toNat_lt_of_lt_space hspace
    have hcode : code? '0' '0' (Hex.digit (c.toNat / 16)) (Hex.digit (c.toNat % 16))
        = some c.toNat := by
      have hzero : Hex.digitValue? '0' = some 0 := by decide
      have hhigh := Hex.digitValue?_digit (n := c.toNat / 16) (by omega)
      have hlow := Hex.digitValue?_digit (n := c.toNat % 16) (by omega)
      simp only [code?, hzero, hhigh, hlow, Option.bind_eq_bind, Option.bind_some, Option.pure_def]
      congr 1
      omega
    have hunit : unitOf c = .code c.toNat := by simp [unitOf, hn, hr, ht, hb, hf, hspace]
    rw [hunit]
    exact units_code hcode rest
  · have hunit : unitOf c = .char c := by simp [unitOf, hspace]
    rw [hunit]
    exact units_plain hquote hslash hspace rest

/-- The written characters of a text read as their units. -/
theorem units_written (cs rest : List Char) :
    units (cs.flatMap Writer.escape ++ '"' :: rest) = some (cs.map unitOf, rest) := by
  induction cs with
  | nil => simp [units]
  | cons c cs ih =>
    rw [List.flatMap_cons, List.append_assoc, units_escape, ih]
    rfl

/-- A numbered escape that is no surrogate denotes its character, whatever comes after it. -/
theorem join_code {n : Nat} (hn : n < 0xd800) (us : List TextUnit) :
    TextUnit.join (.code n :: us) = (TextUnit.join us).map (Char.ofNat n :: ·) := by
  have hhigh : ¬(0xd800 ≤ n ∧ n ≤ 0xdbff) := by omega
  have hlow : ¬(0xdc00 ≤ n ∧ n ≤ 0xdfff) := by omega
  have hany : ¬(0xd800 ≤ n ∧ n ≤ 0xdfff) := by omega
  rcases us with _ | ⟨c | m, rest⟩ <;> simp only [TextUnit.join, hhigh, hlow, hany, if_false]

/-- The units of written characters denote the characters. -/
theorem join_unitOf (cs : List Char) : TextUnit.join (cs.map unitOf) = some cs := by
  induction cs with
  | nil => rfl
  | cons c cs ih =>
    rw [List.map_cons]
    by_cases hcode : unitOf c = .code c.toNat
    · have hlt : c.toNat < 32 := by
        unfold unitOf at hcode
        split_ifs at hcode with _ hspace
        exact toNat_lt_of_lt_space hspace
      rw [hcode, join_code (by omega), ih, Option.map_some, Char.ofNat_toNat]
    · have hchar : unitOf c = .char c := by
        unfold unitOf at hcode ⊢
        split_ifs at hcode ⊢ <;> first | rfl | exact absurd rfl hcode
      rw [hchar, TextUnit.join, ih, Option.map_some]

/-- A written literal starts with a quote and reads back, with a text or without. -/
theorem literal_written (s : Literal) (rest : List Char) :
    ∃ cs, Writer.literal s ++ rest = '"' :: cs ∧ literal cs = some (s, rest) := by
  cases s with
  | none =>
    refine ⟨'\\' :: 'u' :: 'd' :: '8' :: '0' :: '0' :: '"' :: rest, rfl, ?_⟩
    have hcode : code? 'd' '8' '0' '0' = some 0xd800 := by decide
    have hend : units ('"' :: rest) = some ([], rest) := by rw [units]
    rw [literal, units_code hcode, hend]
    rfl
  | some s =>
    refine ⟨s.toList.flatMap Writer.escape ++ '"' :: rest, ?_, ?_⟩
    · change '"' :: s.toList.flatMap Writer.escape ++ ['"'] ++ rest = _
      simp only [List.cons_append, List.append_assoc, List.nil_append]
    · rw [literal, units_written]
      simp only [Option.bind_eq_bind, Option.bind_some, join_unitOf, Option.map_some,
        String.ofList_toList, Option.pure_def]

/-! ### Numbers -/

/-- A text goes on neither with a digit nor with one of the marks. -/
def Stops (marks rest : List Char) : Prop :=
  ∀ c ∈ rest.head?, c.isDigit = false ∧ c ∉ marks

theorem Stops.cons {marks : List Char} {c : Char} (hdigit : c.isDigit = false) (hmark : c ∉ marks)
    (rest : List Char) : Stops marks (c :: rest) := by
  intro d hd
  obtain rfl : c = d := by simpa using hd
  exact ⟨hdigit, hmark⟩

theorem Stops.mono {marks marks' rest : List Char} (h : Stops marks rest) (hsub : marks' ⊆ marks) :
    Stops marks' rest :=
  fun c hc => ⟨(h c hc).1, fun hmem => (h c hc).2 (hsub hmem)⟩

/-- The decimals of a number as they are written after its whole part. -/
def pointed (ds : List Nat) : List Char :=
  if ds = [] then [] else '.' :: ds.flatMap Writer.digits

/-- The power of ten of a number as it is written after its decimals. -/
def powered : Option Int → List Char
  | none => []
  | some i => 'e' :: Writer.int i

theorem numeral_eq (n : Numeral) :
    Writer.numeral n = (if n.negative then ['-'] else []) ++ Writer.digits n.whole
      ++ pointed n.decimals ++ powered n.exponent := by
  rcases n with ⟨negative, whole, ds, _ | i⟩ <;> rfl

/-- Digits are read as far as they go. -/
theorem digits_append {ds rest : List Char} (hds : ∀ c ∈ ds, c.isDigit) (hrest : Stops [] rest) :
    digits (ds ++ rest) = (ds.map fun c => c.toNat - 48, rest) := by
  have htake : rest.takeWhile Char.isDigit = [] := by
    rcases rest with _ | ⟨c, rest⟩
    · rfl
    · rw [List.takeWhile_cons_of_neg]
      simp [(hrest c rfl).1]
  have hdrop : rest.dropWhile Char.isDigit = rest := by
    rcases rest with _ | ⟨c, rest⟩
    · rfl
    · rw [List.dropWhile_cons_of_neg]
      simp [(hrest c rfl).1]
  rw [digits, List.takeWhile_append_of_pos hds, List.dropWhile_append_of_pos hds, htake, hdrop,
    List.append_nil]

theorem isDigit_of_mem_digits {n : Nat} {c : Char} (hc : c ∈ Writer.digits n) : c.isDigit :=
  Nat.isDigit_of_mem_toDigits (by decide) (by decide) hc

/-- The digits of a number read back as its digits. -/
theorem digits_written (n : Nat) {rest : List Char} (hrest : Stops [] rest) :
    digits (Writer.digits n ++ rest) = (Numeral.digits n, rest) :=
  digits_append (fun _ hc => isDigit_of_mem_digits hc) hrest

theorem numeralDigits_ne_nil (n : Nat) : Numeral.digits n ≠ [] := by
  simp [Numeral.digits, Nat.toDigits_ne_nil]

/-- A number is what its digits write. -/
theorem ofDigits_digits (n : Nat) : ofDigits (Numeral.digits n) = n := by
  have hread : Nat.ofDigitChars 10 (Nat.toDigits 10 n) 0 = n := Nat.ofDigitChars_ten_toDigits
  rw [Nat.ofDigitChars_eq_foldl] at hread
  rw [ofDigits, Numeral.digits, List.foldl_map]
  simpa [Nat.mul_comm] using hread

/-- Only a zero has a zero as its first digit, and it has no other. -/
theorem numeralDigits_zero {n : Nat} {ds : List Nat} (h : Numeral.digits n = 0 :: ds) :
    ds = [] := by
  induction n using Nat.strongRecOn generalizing ds with
  | ind n ih =>
    rw [Numeral.digits, Nat.toDigits_eq_if (by decide)] at h
    split_ifs at h with hlt
    · simp at h
      exact h.2
    · rw [List.map_append] at h
      have hhead := numeralDigits_ne_nil (n / 10)
      rcases hn : Numeral.digits (n / 10) with _ | ⟨d, rest⟩
      · exact absurd hn hhead
      · rw [← Numeral.digits, hn] at h
        obtain rfl : d = 0 := by simpa using congrArg List.head? h
        obtain rfl := ih (n / 10) (by omega) hn
        have hzero : n / 10 = 0 := by rw [← ofDigits_digits (n / 10), hn]; rfl
        omega

/-- The whole part of a written number reads back. -/
theorem whole_written (n : Nat) {rest : List Char} (hrest : Stops [] rest) :
    whole (Writer.digits n ++ rest) = some (n, rest) := by
  rw [whole, digits_written n hrest]
  rcases hn : Numeral.digits n with _ | ⟨d, ds⟩
  · exact absurd hn (numeralDigits_ne_nil n)
  · rcases d with _ | d
    · obtain rfl := numeralDigits_zero hn
      rw [← ofDigits_digits n, hn]
      rfl
    · rw [← ofDigits_digits n, hn]
      rfl

theorem digits_of_lt {d : Nat} (hd : d < 10) : Writer.digits d = [Nat.digitChar d] :=
  Nat.toDigits_of_lt_base hd

/-- Decimals that are digits are written with a character each. -/
theorem flatMap_digits {ds : List Nat} (hds : ∀ d ∈ ds, d < 10) :
    ds.flatMap Writer.digits = ds.map Nat.digitChar := by
  rw [List.map_eq_flatMap]
  exact List.flatMap_congr fun d hd => digits_of_lt (hds d hd)

theorem digitChar_facts {d : Nat} (hd : d < 10) :
    (Nat.digitChar d).isDigit ∧ (Nat.digitChar d).toNat - 48 = d := by
  have hall : ∀ m < 10, (Nat.digitChar m).isDigit ∧ (Nat.digitChar m).toNat - 48 = m := by decide
  exact hall d hd

/-- The decimals of a written number read back. -/
theorem decimals_written {ds : List Nat} (hds : ∀ d ∈ ds, d < 10) {rest : List Char}
    (hrest : Stops ['.'] rest) : decimals (pointed ds ++ rest) = some (ds, rest) := by
  unfold pointed
  split_ifs with hnil
  · subst hnil
    rcases rest with _ | ⟨c, rest⟩
    · rfl
    · have hdot : c ≠ '.' := fun h => (hrest c rfl).2 (by simp [h])
      simp [decimals, hdot]
  · have hchars : ∀ c ∈ ds.map Nat.digitChar, c.isDigit := by
      intro c hc
      obtain ⟨d, hd, rfl⟩ := List.mem_map.mp hc
      exact (digitChar_facts (hds d hd)).1
    have hback : (ds.map Nat.digitChar).map (fun c => c.toNat - 48) = ds := by
      rw [List.map_map]
      exact (List.map_congr_left fun d hd => (digitChar_facts (hds d hd)).2).trans (List.map_id' ds)
    rw [flatMap_digits hds, List.cons_append, decimals,
      digits_append hchars (hrest.mono (List.nil_subset _)), hback]
    rcases ds with _ | ⟨d, ds⟩
    · exact absurd rfl hnil
    · rfl

/-- The digits of a number start with a digit. -/
theorem exists_digits_eq (n : Nat) : ∃ c cs, Writer.digits n = c :: cs ∧ c.isDigit := by
  rcases hn : Writer.digits n with _ | ⟨c, cs⟩
  · exact absurd hn Nat.toDigits_ne_nil
  · exact ⟨c, cs, rfl, isDigit_of_mem_digits (hn ▸ List.mem_cons_self)⟩

/-- What starts with a digit has no sign. -/
theorem ne_of_isDigit {c : Char} (hc : c.isDigit) : c ≠ '-' ∧ c ≠ '+' := by
  constructor <;> (rintro rfl; exact absurd hc (by decide))

theorem exponentSign_digits (n : Nat) (rest : List Char) :
    exponentSign (Writer.digits n ++ rest) = (false, Writer.digits n ++ rest) := by
  obtain ⟨c, cs, hn, hc⟩ := exists_digits_eq n
  obtain ⟨hminus, hplus⟩ := ne_of_isDigit hc
  simp [hn, exponentSign, hminus, hplus]

/-- The power of ten of a written number reads back. -/
theorem exponent_written (e : Option Int) {rest : List Char} (hrest : Stops ['e', 'E'] rest) :
    exponent (powered e ++ rest) = some (e, rest) := by
  rcases e with _ | i
  · rcases rest with _ | ⟨c, rest⟩
    · rfl
    · have hmark := (hrest c rfl).2
      simp only [List.mem_cons, List.not_mem_nil, or_false] at hmark
      simp [powered, exponent, hmark]
  · have hdigits := digits_written i.natAbs (hrest.mono (List.nil_subset _))
    have hvalue := ofDigits_digits i.natAbs
    rcases hn : Numeral.digits i.natAbs with _ | ⟨d, ds⟩
    · exact absurd hn (numeralDigits_ne_nil _)
    rw [hn] at hdigits hvalue
    by_cases hneg : i < 0
    · simp only [powered, Writer.int, hneg, if_true, List.cons_append, exponent, true_or,
        exponentSign, hdigits, hvalue]
      congr 3
      omega
    · simp only [powered, Writer.int, hneg, if_false, List.cons_append, exponent, true_or, if_true,
        exponentSign_digits, hdigits, hvalue]
      congr 3
      simp only [Bool.false_eq_true, if_false]
      omega

theorem stops_powered (e : Option Int) {rest : List Char} (hrest : Stops ['.', 'e', 'E'] rest) :
    Stops ['.'] (powered e ++ rest) := by
  rcases e with _ | i
  · exact hrest.mono (by simp)
  · exact Stops.cons (by decide) (by decide) _

theorem stops_pointed (ds : List Nat) {rest : List Char} (hrest : Stops ['.'] rest) :
    Stops [] (pointed ds ++ rest) := by
  unfold pointed
  split_ifs
  · exact hrest.mono (List.nil_subset _)
  · exact Stops.cons (by decide) (by decide) _

/-- The parts of a written number read back. -/
theorem unsigned_written (n : Numeral) (hdecimal : ∀ d ∈ n.decimals, d < 10) {rest : List Char}
    (hrest : Stops ['.', 'e', 'E'] rest) :
    unsigned n.negative
      (Writer.digits n.whole ++ (pointed n.decimals ++ (powered n.exponent ++ rest)))
      = some (.number n, rest) := by
  have hpoint := stops_powered n.exponent hrest
  have hmark : Stops ['e', 'E'] rest := hrest.mono (by simp)
  simp only [unsigned, whole_written _ (stops_pointed n.decimals hpoint),
    decimals_written hdecimal hpoint, exponent_written _ hmark, Option.bind_eq_bind,
    Option.bind_some, Option.pure_def]

/-- A written number reads back. -/
theorem number_written (n : Numeral) (hdecimal : ∀ d ∈ n.decimals, d < 10) {rest : List Char}
    (hrest : Stops ['.', 'e', 'E'] rest) :
    number (Writer.numeral n ++ rest) = some (.number n, rest) := by
  have hparts := unsigned_written n hdecimal hrest
  rcases hneg : n.negative
  · obtain ⟨c, cs, hdigits, hc⟩ := exists_digits_eq n.whole
    have hminus := (ne_of_isDigit hc).1
    rw [hneg, hdigits, List.cons_append] at hparts
    simp [numeral_eq, hneg, hdigits, number, hminus, hparts]
  · rw [hneg] at hparts
    simp [numeral_eq, hneg, number, hparts]

/-! ### Values -/

theorem skipSpace_cons {c : Char} (hc : isSpace c = false) (cs : List Char) :
    skipSpace (c :: cs) = c :: cs := by
  rw [skipSpace, List.dropWhile_cons_of_neg]
  simp [hc]

/-- A number starts with its sign or with a digit. -/
theorem exists_numeral_eq (n : Numeral) :
    ∃ c cs, Writer.numeral n = c :: cs ∧ (c = '-' ∨ c.isDigit) := by
  rcases hneg : n.negative
  · obtain ⟨c, cs, hdigits, hc⟩ := exists_digits_eq n.whole
    exact ⟨c, cs ++ pointed n.decimals ++ powered n.exponent, by simp [numeral_eq, hneg, hdigits],
      Or.inr hc⟩
  · exact ⟨'-', Writer.digits n.whole ++ pointed n.decimals ++ powered n.exponent,
      by simp [numeral_eq, hneg], Or.inl rfl⟩

/-- A sign and a digit are none of the characters that other parts of a text start with. -/
theorem ne_of_starts_number {c d : Char} (hc : c = '-' ∨ c.isDigit)
    (hd : d ∈ [' ', '\n', '\t', '\r', 'n', 't', 'f', '"', '[', ']', '\x7b']) : c ≠ d := by
  have hsign : '-' ∉ [' ', '\n', '\t', '\r', 'n', 't', 'f', '"', '[', ']', '\x7b'] := by decide
  have hdigits : [' ', '\n', '\t', '\r', 'n', 't', 'f', '"', '[', ']', '\x7b'].all
      (fun d => !d.isDigit) = true := by decide
  rintro rfl
  rcases hc with rfl | hc
  · exact hsign hd
  · have hdigit := List.all_eq_true.mp hdigits c hd
    rw [hc] at hdigit
    cases hdigit

theorem isSpace_of_starts_number {c : Char} (hc : c = '-' ∨ c.isDigit) : isSpace c = false := by
  have hne := fun d hd => ne_of_starts_number (d := d) hc hd
  simp only [List.mem_cons, List.not_mem_nil, or_false, forall_eq_or_imp, forall_eq] at hne
  simp [isSpace, hne]

/-- What starts with a sign or with a digit is read as a number. -/
theorem value_eq_number {c : Char} (hc : c = '-' ∨ c.isDigit) (bound : Nat) (cs : List Char) :
    value (bound + 1) (c :: cs) = number (c :: cs) := by
  have hne := fun d hd => ne_of_starts_number (d := d) hc hd
  simp only [List.mem_cons, List.not_mem_nil, or_false, forall_eq_or_imp, forall_eq] at hne
  simp [value, skipSpace_cons (isSpace_of_starts_number hc), hne]

/-- A written value starts neither with a blank nor with a closing bracket. -/
theorem exists_value_eq (v : Json) :
    ∃ c cs, Writer.value v = c :: cs ∧ isSpace c = false ∧ c ≠ ']' := by
  rcases v with _ | (_ | _) | n | s | (_ | ⟨v, rest⟩) | (_ | ⟨⟨k, v⟩, rest⟩)
  · exact ⟨'n', _, rfl, by decide, by decide⟩
  · exact ⟨'f', _, rfl, by decide, by decide⟩
  · exact ⟨'t', _, rfl, by decide, by decide⟩
  · obtain ⟨c, cs, hn, hc⟩ := exists_numeral_eq n
    exact ⟨c, cs, hn, isSpace_of_starts_number hc, ne_of_starts_number hc (by decide)⟩
  · obtain ⟨cs, hs, -⟩ := literal_written s []
    rw [List.append_nil] at hs
    exact ⟨'"', cs, hs, by decide, by decide⟩
  · exact ⟨'[', _, rfl, by decide, by decide⟩
  · exact ⟨'[', _, rfl, by decide, by decide⟩
  · exact ⟨'\x7b', _, rfl, by decide, by decide⟩
  · exact ⟨'\x7b', _, rfl, by decide, by decide⟩

/-- A value's text is read back to the value, if what comes after does not go on with a number. -/
def ReadsBack (v : Json) : Prop :=
  ∀ rest bound, Stops ['.', 'e', 'E'] rest → 2 * (Writer.value v).length ≤ bound →
    value bound (Writer.value v ++ rest) = some (v, rest)

/-- After an item comes a comma or the closing bracket. -/
theorem stops_items (vs : List Json) (rest : List Char) :
    Stops ['.', 'e', 'E'] (Writer.items vs ++ rest) := by
  cases vs <;> exact Stops.cons (by decide) (by decide) _

/-- After a member comes a comma or the closing brace. -/
theorem stops_members (ms : List (Literal × Json)) (rest : List Char) :
    Stops ['.', 'e', 'E'] (Writer.members ms ++ rest) := by
  cases ms <;> exact Stops.cons (by decide) (by decide) _

/-- The items of an array are read back if each of them is. -/
theorem items_written {v : Json} {vs : List Json} (hv : ReadsBack v) (hvs : ∀ w ∈ vs, ReadsBack w)
    (rest : List Char) (bound : Nat)
    (hbound : 2 * ((Writer.value v).length + (Writer.items vs).length) ≤ bound) :
    items bound (Writer.value v ++ (Writer.items vs ++ rest)) = some (v :: vs, rest) := by
  induction vs generalizing v bound with
  | nil =>
    rcases bound with _ | bound
    · simp [Writer.items] at hbound
    · have hfirst := hv (Writer.items [] ++ rest) bound (stops_items [] rest)
        (by simp [Writer.items] at hbound; omega)
      rw [items, hfirst]
      rfl
  | cons w ws ih =>
    have hlength : (Writer.items (w :: ws)).length
        = 1 + (Writer.value w).length + (Writer.items ws).length := by
      simp [Writer.items]
      omega
    rcases bound with _ | bound
    · omega
    · have hfirst := hv (Writer.items (w :: ws) ++ rest) bound (stops_items _ rest) (by omega)
      have hothers := ih (hvs w List.mem_cons_self) (fun u hu => hvs u (List.mem_cons_of_mem w hu))
        bound (by omega)
      have hcomma : Writer.items (w :: ws) ++ rest
          = ',' :: (Writer.value w ++ (Writer.items ws ++ rest)) := by
        simp [Writer.items]
      rw [items, hfirst]
      simp only [hcomma, skipSpace_cons (by decide : isSpace ',' = false), hothers,
        Option.bind_eq_bind, Option.bind_some, Option.pure_def]

/-- The members of an object are read back if the value of each of them is. -/
theorem members_written {k : Literal} {v : Json} {ms : List (Literal × Json)} (hv : ReadsBack v)
    (hms : ∀ m ∈ ms, ReadsBack m.2) (rest : List Char) (bound : Nat)
    (hbound : 2 * ((Writer.value v).length + (Writer.members ms).length) ≤ bound) :
    members bound (Writer.literal k ++ ':' :: (Writer.value v ++ (Writer.members ms ++ rest)))
      = some ((k, v) :: ms, rest) := by
  induction ms generalizing k v bound with
  | nil =>
    rcases bound with _ | bound
    · simp [Writer.members] at hbound
    · obtain ⟨cs, hkey, hliteral⟩ := literal_written k
        (':' :: (Writer.value v ++ (Writer.members [] ++ rest)))
      have hfirst := hv (Writer.members [] ++ rest) bound (stops_members [] rest)
        (by simp [Writer.members] at hbound; omega)
      rw [hkey, members]
      simp only [skipSpace_cons (by decide : isSpace '"' = false),
        skipSpace_cons (by decide : isSpace ':' = false), hliteral, hfirst, Option.bind_eq_bind,
        Option.bind_some]
      rfl
  | cons m ms ih =>
    obtain ⟨k', w⟩ := m
    have hw : ReadsBack w := hms (k', w) List.mem_cons_self
    have hlength : (Writer.members ((k', w) :: ms)).length
        = 2 + (Writer.literal k').length + (Writer.value w).length
          + (Writer.members ms).length := by
      simp [Writer.members]
      omega
    rcases bound with _ | bound
    · omega
    · obtain ⟨cs, hkey, hliteral⟩ := literal_written k
        (':' :: (Writer.value v ++ (Writer.members ((k', w) :: ms) ++ rest)))
      have hfirst := hv (Writer.members ((k', w) :: ms) ++ rest) bound (stops_members _ rest)
        (by omega)
      have hothers := ih (k := k') hw (fun m hm => hms m (List.mem_cons_of_mem _ hm))
        bound (by omega)
      have hcomma : Writer.members ((k', w) :: ms) ++ rest
          = ',' :: (Writer.literal k' ++ ':' :: (Writer.value w ++ (Writer.members ms ++ rest))) := by
        simp [Writer.members]
      rw [hkey, members]
      rw [hcomma] at hfirst hliteral
      simp only [skipSpace_cons (by decide : isSpace '"' = false),
        skipSpace_cons (by decide : isSpace ':' = false),
        skipSpace_cons (by decide : isSpace ',' = false), hliteral, hfirst, hothers,
        Option.bind_eq_bind, Option.bind_some, Option.pure_def]

theorem readsBack_array {vs : List Json} (hvs : ∀ w ∈ vs, ReadsBack w) : ReadsBack (.array vs) := by
  intro rest bound hrest hbound
  rcases vs with _ | ⟨v, vs⟩ <;> rcases bound with _ | bound
  · simp [Writer.value] at hbound
  · simp [Writer.value, value, skipSpace_cons (by decide : isSpace '[' = false),
      skipSpace_cons (by decide : isSpace ']' = false)]
  · simp [Writer.value] at hbound
  · have hitems := items_written (hvs v List.mem_cons_self)
      (fun w hw => hvs w (List.mem_cons_of_mem v hw)) rest bound
      (by simp [Writer.value] at hbound; omega)
    obtain ⟨c, cs, hfirst, hspace, hclose⟩ := exists_value_eq v
    have htext : Writer.value (.array (v :: vs)) ++ rest
        = '[' :: (Writer.value v ++ (Writer.items vs ++ rest)) := by
      simp [Writer.value]
    rw [htext]
    rw [hfirst, List.cons_append] at hitems ⊢
    simp [value, skipSpace_cons (by decide : isSpace '[' = false), skipSpace_cons hspace, hclose,
      hitems]

theorem readsBack_object {ms : List (Literal × Json)} (hms : ∀ m ∈ ms, ReadsBack m.2) :
    ReadsBack (.object ms) := by
  intro rest bound hrest hbound
  rcases ms with _ | ⟨⟨k, v⟩, ms⟩ <;> rcases bound with _ | bound
  · simp [Writer.value] at hbound
  · simp [Writer.value, value, skipSpace_cons (by decide : isSpace '\x7b' = false),
      skipSpace_cons (by decide : isSpace '\x7d' = false)]
  · simp [Writer.value] at hbound
  · have hv : ReadsBack v := hms (k, v) List.mem_cons_self
    have hmembers := members_written (k := k) hv
      (fun m hm => hms m (List.mem_cons_of_mem _ hm)) rest bound
      (by simp [Writer.value] at hbound; omega)
    have htext : Writer.value (.object ((k, v) :: ms)) ++ rest = '\x7b' ::
        (Writer.literal k ++ ':' :: (Writer.value v ++ (Writer.members ms ++ rest))) := by
      simp [Writer.value]
    obtain ⟨cs, hkey, -⟩ := literal_written k
      (':' :: (Writer.value v ++ (Writer.members ms ++ rest)))
    rw [htext]
    rw [hkey] at hmembers ⊢
    simp [value, skipSpace_cons (by decide : isSpace '\x7b' = false),
      skipSpace_cons (by decide : isSpace '"' = false), hmembers]

theorem readsBack_number {n : Numeral} (hdecimal : ∀ d ∈ n.decimals, d < 10) :
    ReadsBack (.number n) := by
  intro rest bound hrest hbound
  have hn := number_written n hdecimal hrest
  obtain ⟨c, cs, htext, hc⟩ := exists_numeral_eq n
  rcases bound with _ | bound
  · simp [Writer.value, htext] at hbound
  · rw [Writer.value]
    rw [htext, List.cons_append] at hn ⊢
    rw [value_eq_number hc, hn]

theorem readsBack_string (s : Literal) : ReadsBack (.string s) := by
  intro rest bound hrest hbound
  obtain ⟨cs, htext, hliteral⟩ := literal_written s rest
  rcases bound with _ | bound
  · obtain ⟨c, cs, hfirst, -, -⟩ := exists_value_eq (.string s)
    simp [hfirst] at hbound
  · rw [Writer.value, htext]
    simp [value, skipSpace_cons (by decide : isSpace '"' = false), hliteral]

mutual
/-- Every value whose decimals are digits is read back. -/
theorem readsBack : ∀ v : Json, v.isDecimal → ReadsBack v
  | .null, _ => by
    rintro rest (_ | bound) hrest hbound
    · simp [Writer.value] at hbound
    · simp [Writer.value, value, skipSpace_cons (by decide : isSpace 'n' = false)]
  | .bool b, _ => by
    rintro rest (_ | bound) hrest hbound
    · cases b <;> simp [Writer.value] at hbound
    · cases b
      · simp [Writer.value, value, skipSpace_cons (by decide : isSpace 'f' = false)]
      · simp [Writer.value, value, skipSpace_cons (by decide : isSpace 't' = false)]
  | .number n, h => readsBack_number (by simpa [isDecimal] using h)
  | .string s, _ => readsBack_string s
  | .array vs, h => readsBack_array (items_readsBack vs h)
  | .object ms, h => readsBack_object (members_readsBack ms h)

/-- Every item of a list of values whose decimals are digits is read back. -/
theorem items_readsBack : ∀ vs : List Json, itemsDecimal vs → ∀ w ∈ vs, ReadsBack w
  | [], _ => by simp
  | v :: vs, h => by
    simp only [itemsDecimal, Bool.and_eq_true] at h
    exact List.forall_mem_cons.mpr ⟨readsBack v h.1, items_readsBack vs h.2⟩

/-- The value of every member is read back in a list of members whose decimals are digits. -/
theorem members_readsBack :
    ∀ ms : List (Literal × Json), membersDecimal ms → ∀ m ∈ ms, ReadsBack m.2
  | [], _ => by simp
  | (k, v) :: ms, h => by
    simp only [membersDecimal, Bool.and_eq_true] at h
    exact List.forall_mem_cons.mpr ⟨readsBack v h.1, members_readsBack ms h.2⟩
end

end Reader

/-- **The compact form of a value reads back to the value.** -/
theorem parse_compact {v : Json} (hv : v.isDecimal) : parse (compact v) = some v := by
  have hread := Reader.readsBack v hv [] (2 * (Writer.value v).length + 2)
    (by intro c hc; simp at hc) (by omega)
  rw [List.append_nil] at hread
  rw [parse, compact, String.toList_ofList, parseChars, hread]
  rfl

end ChatRouting.Json
