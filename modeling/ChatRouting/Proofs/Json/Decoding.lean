import Mathlib.Data.List.Nodup
import Mathlib.Tactic.SplitIfs
import ChatRouting.Json.Decoder
import ChatRouting.Proofs.Json.Reading

/-!
# Decoding what was encoded

An object whose keys are texts, each once, gives every declared part the value of its member, and
the members that are not declared do not matter. A tagged object also has to be admitted where it
stands: all in it must be sound, which a 64-bit integer is, and it may not be too deep.

## Main definitions

* `Json.member?`: the member of a name
* `Json.Place.Shallow`: a place with room for three more arrays and objects

## Main results

* `Hex.decode?_encode`
* `Json.Numeral.isFinite_ofInt`
* `Json.Fields.ofJson?_record`, `Json.tagged?_record`
-/

namespace ChatRouting

namespace Hex

theorem decodeChars?_encodeChars (bytes : Bytes) :
    decodeChars? (encodeChars bytes) = some bytes := by
  induction bytes with
  | nil => rfl
  | cons b rest ih =>
    have hb : b.toNat < 256 := b.toNat_lt
    have hhigh := digitValue?_digit (n := b.toNat / 16) (by omega)
    have hlow := digitValue?_digit (n := b.toNat % 16) (by omega)
    have hvalue : 16 * (b.toNat / 16) + b.toNat % 16 = b.toNat := by omega
    rw [encodeChars, List.flatMap_cons, encodeByte, List.cons_append, List.cons_append,
      List.nil_append, decodeChars?, hhigh, hlow, ← encodeChars, ih]
    simp only [Option.bind_eq_bind, Option.bind_some, hvalue, UInt8.ofNat_toNat, Option.pure_def]

/-- Hexadecimal text stands for the bytes it was made of. -/
theorem decode?_encode (bytes : Bytes) : decode? (encode bytes) = some bytes := by
  rw [decode?, encode, String.toList_ofList, decodeChars?_encodeChars]

end Hex

namespace Numeral

/-- The numeral of an integer stands for it. -/
theorem toInt?_ofInt (i : Int) : (ofInt i).toInt? = some i := by
  have hzero : ¬(i < 0 ∧ i = 0) := by omega
  simp only [toInt?, ofInt, decide_eq_true_eq, Int.natAbs_eq_zero, hzero, not_false_eq_true,
    and_self, if_true]
  split_ifs <;> congr 1 <;> omega

theorem le_foldl (ds : List Nat) (n : Nat) : n ≤ ds.foldl (fun n d => n * 10 + d) n := by
  induction ds generalizing n with
  | nil => exact Nat.le_refl n
  | cons d ds ih => exact Nat.le_trans (by omega) (ih (n * 10 + d))

/-- Whole digits that fit in the significand are all taken. -/
theorem takeWhole_of_lt {ds : List Nat} {n : Nat} (power : Int)
    (hfits : ds.foldl (fun n d => n * 10 + d) n < significandBound) :
    Scaled.takeWhole ⟨n, power⟩ ds = ⟨ds.foldl (fun n d => n * 10 + d) n, power⟩ := by
  induction ds generalizing n with
  | nil => rfl
  | cons d ds ih =>
    have hd : n * 10 + d < significandBound := Nat.lt_of_le_of_lt (le_foldl ds _) hfits
    rw [Scaled.takeWhole, if_pos hd, ih hfits]
    rfl

/-- Rounding does not even double a number. -/
theorem round53_le (n : Nat) : round53 n ≤ 2 * n + 1 := by
  have hunit : 1 <<< (n.log2 - 52) ≤ n + 1 := by
    rw [Nat.one_shiftLeft]
    rcases Nat.eq_zero_or_pos n with rfl | hpos
    · decide
    · exact Nat.le_succ_of_le
        (Nat.le_trans (Nat.pow_le_pow_right (by decide) (by omega)) (Nat.log2_self_le (by omega)))
  have hdiv : n / 1 <<< (n.log2 - 52) * 1 <<< (n.log2 - 52) ≤ n := Nat.div_mul_le_self _ _
  simp only [round53]
  split_ifs
  · omega
  · rw [Nat.add_one_mul]
    omega

theorem shiftLeft_le {m n : Nat} (h : m ≤ n) : 1 <<< m ≤ 1 <<< n := by
  rw [Nat.one_shiftLeft, Nat.one_shiftLeft]
  exact Nat.pow_le_pow_right (by decide) h

/-- An integer of sixty-four bits is in the range of binary floating point. -/
theorem isFinite_ofInt {i : Int} (hi : i.natAbs < significandBound) : (ofInt i).isFinite := by
  have hfold : (digits i.natAbs).foldl (fun n d => n * 10 + d) 0 = i.natAbs :=
    Json.Reader.ofDigits_digits i.natAbs
  have hscaled : (ofInt i).scaled = ⟨i.natAbs, 0⟩ := by
    rw [scaled]
    simp only [ofInt]
    rw [takeWhole_of_lt 0 (by rwa [hfold]), hfold]
    rfl
  have hone : round53 (Nat.pow 10 (0 : Int).toNat) = 1 := by decide
  have hsignificand := round53_le i.natAbs
  have hproduct := round53_le (round53 i.natAbs * 1)
  have hlt : round53 (round53 i.natAbs * 1) < 1 <<< 1024 := by
    refine Nat.lt_of_lt_of_le ?_ (shiftLeft_le (by decide : 70 ≤ 1024))
    simp only [significandBound] at hi
    omega
  simp only [isFinite, hscaled, hone, hlt, decide_true, Bool.and_true, Bool.or_eq_true]
  exact Or.inr (by decide)

end Numeral

namespace Json

/-- The member of a name in an object. -/
def member? (name : String) : Json → Option Json
  | .object members => members.lookup (some name)
  | _ => none

/-! ### Records -/

/-- A record is sound when the values of its members are. -/
@[simp] theorem isSound_record (ms : List (String × Json)) :
    (record ms).isSound = ms.all fun m => m.2.isSound := by
  rw [record, isSound]
  induction ms with
  | nil => rfl
  | cons m ms ih => rw [List.map_cons, membersSound, ih]; rfl

/-- Every decimal in a record is a digit when that is so for the values of its members. -/
@[simp] theorem isDecimal_record (ms : List (String × Json)) :
    (record ms).isDecimal = ms.all fun m => m.2.isDecimal := by
  rw [record, isDecimal]
  induction ms with
  | nil => rfl
  | cons m ms ih => rw [List.map_cons, membersDecimal, ih]; rfl

/-- A record tells its members. -/
theorem record_inj {ms ms' : List (String × Json)} (h : record ms = record ms') :
    ms = ms' := by
  rw [record, record, Json.object.injEq] at h
  refine List.map_injective_iff.mpr ?_ h
  rintro ⟨name, v⟩ ⟨name', v'⟩ heq
  cases heq
  rfl

/-- A record is one deeper than the deepest of its members. -/
theorem depth_record_le {ms : List (String × Json)} {n : Nat} (h : ∀ m ∈ ms, m.2.depth ≤ n) :
    (record ms).depth ≤ n + 1 := by
  rw [record, depth]
  refine Nat.succ_le_succ ?_
  induction ms with
  | nil => exact Nat.zero_le n
  | cons m ms ih =>
    rw [List.map_cons, membersDepth]
    exact Nat.max_le.mpr ⟨h m List.mem_cons_self, ih fun m hm => h m (List.mem_cons_of_mem _ hm)⟩

/-! ### Plain values -/

@[simp] theorem isSound_text (s : String) : (text s).isSound = true :=
  rfl

@[simp] theorem isSound_optionalText (s : Option String) : (optionalText s).isSound = true := by
  cases s <;> rfl

@[simp] theorem isDecimal_text (s : String) : (text s).isDecimal = true := by
  simp [text, isDecimal]

@[simp] theorem isDecimal_optionalText (s : Option String) :
    (optionalText s).isDecimal = true := by
  cases s <;> simp [optionalText, isDecimal]

@[simp] theorem isDecimal_int (i : Int) : (int i).isDecimal = true := by
  simp [int, isDecimal, Numeral.ofInt]

/-- Every decimal in an array is a digit when that is so for its items. -/
theorem isDecimal_array (vs : List Json) : (array vs).isDecimal = vs.all isDecimal := by
  rw [isDecimal]
  induction vs with
  | nil => rfl
  | cons v vs ih => rw [itemsDecimal, List.all_cons, ih]

@[simp] theorem depth_text (s : String) : (text s).depth = 0 := by
  simp [text, depth]

@[simp] theorem depth_optionalText (s : Option String) : (optionalText s).depth = 0 := by
  cases s <;> simp [optionalText, depth]

@[simp] theorem text?_text (s : String) : text? (.text s) = some s :=
  rfl

@[simp] theorem int?_int (i : Int) : int? (.int i) = some i :=
  Numeral.toInt?_ofInt i

theorem text_inj {s s' : String} (h : text s = text s') : s = s' := by
  rw [text, text, Json.string.injEq] at h
  exact Option.some.inj h

theorem int_inj {i i' : Int} (h : int i = int i') : i = i' := by
  have hread := congrArg int? h
  rw [int?_int, int?_int] at hread
  exact Option.some.inj hread

/-- A text that may be absent is read back, absent or not. -/
@[simp] theorem nullable_optionalText (s : Option String) :
    nullable text? (.optionalText s) = some s := by
  cases s <;> rfl

/-! ### Named parts -/

namespace Fields

/-- Of the members of a record the declared ones are known. -/
theorem known?_record (declared : List String) (ms : List (String × Json)) :
    known? declared (ms.map fun m => (some m.1, m.2))
      = some (ms.filter fun m => m.1 ∈ declared) := by
  induction ms with
  | nil => rfl
  | cons m ms ih =>
    rw [List.map_cons, known?, ih, List.filter_cons]
    simp

/-- **A record with distinct keys gives the declared parts their values.** -/
theorem ofJson?_record (declared : List String) {ms : List (String × Json)}
    (hdistinct : (ms.map (·.1)).Nodup) :
    ofJson? declared (.record ms) = some ⟨true, ms.filter fun m => m.1 ∈ declared⟩ := by
  have hnodup : ((ms.filter fun m => m.1 ∈ declared).map (·.1)).Nodup :=
    hdistinct.sublist (List.filter_sublist.map _)
  simp only [record, ofJson?, known?_record, Option.bind_eq_bind, Option.bind_some, hnodup,
    if_true, Option.pure_def]

/-- The members of a name that is not declared change nothing. -/
theorem known?_without {declared : List String} {name : String} (hname : name ∉ declared)
    (ms : List (Literal × Json)) :
    known? declared (ms.filter fun m => m.1 ≠ some name) = known? declared ms := by
  induction ms with
  | nil => rfl
  | cons m ms ih =>
    obtain ⟨_ | k, v⟩ := m
    · simp [known?]
    · by_cases hk : k = name
      · subst hk
        rw [List.filter_cons_of_neg (by simp), ih, known?]
        simp [hname]
      · rw [List.filter_cons_of_pos (by simpa using hk), known?, ih, known?]

/-- Whatever an object says under a name that is not declared, its parts are the same. -/
theorem ofJson?_without {declared : List String} {name : String} (hname : name ∉ declared)
    (ms : List (Literal × Json)) :
    ofJson? declared (.object (ms.filter fun m => m.1 ≠ some name))
      = ofJson? declared (.object ms) := by
  rw [ofJson?, known?_without hname, ofJson?]

end Fields

/-! ### Variants -/

/-- A sound value may be tagged where there is room for its depth. -/
theorem admits_of_isSound {above n : Nat} {v : Json} (hsound : v.isSound) (hdepth : v.depth ≤ n)
    (hroom : above + n ≤ maxDepth) : (Place.text above).admits v := by
  have hfits : above + v.depth ≤ maxDepth := Nat.le_trans (Nat.add_le_add_left hdepth above) hroom
  simp [Place.admits, hsound, hfits]

/-- **A record with a tag in front is of the variant that the tag names.** -/
theorem tagged?_record {place : Place} {tag s : String} {variants : List String}
    {ms : List (String × Json)} (hplace : place.admits (.record ((tag, .text s) :: ms)))
    (hs : s ∈ variants) (htag : tag ∉ ms.map (·.1)) :
    tagged? place tag variants (.record ((tag, .text s) :: ms)) = some (s, .record ms) := by
  have hrest : ∀ m ∈ ms.map fun m => (some m.1, m.2), (m.1 == some tag) = false := by
    intro m hm
    obtain ⟨n, hn, rfl⟩ := List.mem_map.mp hm
    have hne : n.1 ≠ tag := fun h => htag (h ▸ List.mem_map_of_mem hn)
    simpa using hne
  have hsplit : ((some tag, text s) :: ms.map fun m => (some m.1, m.2)).partition
      (fun m => m.1 == some tag) = ([(some tag, text s)], ms.map fun m => (some m.1, m.2)) := by
    rw [List.partition_eq_filter_filter, List.filter_cons_of_pos (by simp),
      List.filter_cons_of_neg (by simp), List.filter_eq_nil_iff.mpr (by simpa using hrest),
      List.filter_eq_self.mpr (by simpa using hrest)]
  have hname : place.variant? variants (.text s) = some s := by simp [text, Place.variant?, hs]
  simp only [record, List.map_cons] at hplace ⊢
  simp only [tagged?, hplace, if_true, hsplit, hname, Option.map_some]

end Json

end ChatRouting
