import ChatRouting.Bytes.Base64
import ChatRouting.Proofs.Text
import Mathlib.Tactic.SplitIfs

/-!
# Base64 text is read strictly

Every byte string has one base64 text, and no other text is accepted for it: reading refuses a
foreign character, padding that is missing or misplaced, and stray bits in the last symbol. So
what is read tells the text as well as the text tells what is read.

Three bytes and the values of four symbols stand for each other, one group at a time. Only the last
group may be shorter, and while it is read its symbols come before its padding.

## Main results

* `Base64.value?_eq_some_iff`: the symbols of the alphabet and their values
* `Base64.readLastGroup_ok`: what is known once the last group has been read
* `Base64.decodeFrom_eq_ok_iff`, `Base64.decode_eq_ok_iff`: what is read, and from which text
-/

namespace ChatRouting.Base64

variable {offset index : Nat} {b : UInt8} {n v : Nat} {g g' : LastGroup} {text bytes : Bytes}

/-- What succeeds did so at each step. -/
theorem bind_ok {α β : Type} {x : Except Fault α} {f : α → Except Fault β} {result : β}
    (h : x >>= f = .ok result) : ∃ a, x = .ok a ∧ f a = .ok result := by
  cases x with
  | error fault => cases h
  | ok a => exact ⟨a, rfl, h⟩

/-! ### Symbols -/

theorem value?_symbol (hn : n < 64) : value? (symbol n) = some n := by
  have hall : ∀ n < 64, value? (symbol n) = some n := by decide
  exact hall n hn

theorem symbol_ne_pad (hn : n < 64) : symbol n ≠ pad := by
  have hall : ∀ n < 64, symbol n ≠ pad := by decide
  exact hall n hn

theorem symbol_lt (hn : n < 64) : symbol n < 128 := by
  have hall : ∀ n < 64, symbol n < 128 := by decide
  exact hall n hn

/-- Only the symbol of a value has it. -/
theorem value?_eq_some_iff : value? b = some n ↔ n < 64 ∧ b = symbol n := by
  refine ⟨fun h => ?_, fun ⟨hn, hb⟩ => hb ▸ value?_symbol hn⟩
  have hall : ∀ m < 256, ∀ n ∈ value? (UInt8.ofNat m), n < 64 ∧ UInt8.ofNat m = symbol n := by
    decide +kernel
  have hb := hall b.toNat b.toNat_lt n
  rw [UInt8.ofNat_toNat] at hb
  exact hb h

theorem readSymbol_symbol (hn : n < 64) (offset : Nat) : readSymbol offset (symbol n) = .ok n := by
  rw [readSymbol, value?_symbol hn]

theorem readSymbol_ok (h : readSymbol offset b = .ok n) : n < 64 ∧ b = symbol n := by
  rw [readSymbol] at h
  split at h
  · next v hv =>
    cases h
    exact value?_eq_some_iff.mp hv
  · cases h

/-! ### Groups -/

/-- The values of four symbols make three bytes, which are written with these symbols. -/
theorem encodeBytes_three {va vb vc vd : Nat} (ha : va < 64) (hb : vb < 64) (hc : vc < 64)
    (hd : vd < 64) (rest : Bytes) :
    encodeBytes (UInt8.ofNat (va * 4 + vb / 16) :: UInt8.ofNat (vb % 16 * 16 + vc / 4)
        :: UInt8.ofNat (vc % 4 * 64 + vd) :: rest) =
      symbol va :: symbol vb :: symbol vc :: symbol vd :: encodeBytes rest := by
  have hfirst : (va * 4 + vb / 16) / 4 = va := by omega
  have hsecond : (va * 4 + vb / 16) % 4 * 16 + (vb % 16 * 16 + vc / 4) / 16 = vb := by omega
  have hthird : (vb % 16 * 16 + vc / 4) % 16 * 4 + (vc % 4 * 64 + vd) / 64 = vc := by omega
  have hfourth : (vc % 4 * 64 + vd) % 64 = vd := by omega
  rw [encodeBytes, UInt8.toNat_ofNat_of_lt' (show _ < 256 by omega),
    UInt8.toNat_ofNat_of_lt' (show _ < 256 by omega),
    UInt8.toNat_ofNat_of_lt' (show _ < 256 by omega), hfirst, hsecond, hthird, hfourth]

/-- Three symbols make two bytes, if the last one has no bits that reach no byte. -/
theorem encodeBytes_two {va vb vc : Nat} (ha : va < 64) (hb : vb < 64) (hc : vc < 64)
    (hstray : vc % 4 = 0) :
    encodeBytes [UInt8.ofNat (va * 4 + vb / 16), UInt8.ofNat (vb % 16 * 16 + vc / 4)] =
      [symbol va, symbol vb, symbol vc, pad] := by
  have hfirst : (va * 4 + vb / 16) / 4 = va := by omega
  have hsecond : (va * 4 + vb / 16) % 4 * 16 + (vb % 16 * 16 + vc / 4) / 16 = vb := by omega
  have hthird : (vb % 16 * 16 + vc / 4) % 16 * 4 = vc := by omega
  rw [encodeBytes, UInt8.toNat_ofNat_of_lt' (show _ < 256 by omega),
    UInt8.toNat_ofNat_of_lt' (show _ < 256 by omega), hfirst, hsecond, hthird]

/-- Two symbols make one byte, if the last one has no bits that reach no byte. -/
theorem encodeBytes_one {va vb : Nat} (ha : va < 64) (hb : vb < 64) (hstray : vb % 16 = 0) :
    encodeBytes [UInt8.ofNat (va * 4 + vb / 16)] = [symbol va, symbol vb, pad, pad] := by
  have hfirst : (va * 4 + vb / 16) / 4 = va := by omega
  have hsecond : (va * 4 + vb / 16) % 4 * 16 = vb := by omega
  rw [encodeBytes, UInt8.toNat_ofNat_of_lt' (show _ < 256 by omega), hfirst, hsecond]

/-- A byte is made again of its own bits. -/
theorem ofNat_eq (b : UInt8) (h : n = b.toNat) : UInt8.ofNat n = b := by
  rw [h, UInt8.ofNat_toNat]

theorem length_encodeBytes (bytes : Bytes) : (encodeBytes bytes).length % 4 = 0 := by
  fun_induction encodeBytes bytes with
  | case1 a b c rest ih =>
    simp only [List.length_cons]
    omega
  | case2 | case3 | case4 => simp only [List.length_cons, List.length_nil]

theorem lt_of_mem_encodeBytes (h : b ∈ encodeBytes bytes) : b < 128 := by
  fun_induction encodeBytes bytes with
  | case1 x y z rest ih =>
    have hx := x.toNat_lt
    have hy := y.toNat_lt
    have hz := z.toNat_lt
    simp only [List.mem_cons] at h
    rcases h with rfl | rfl | rfl | rfl | h
    · exact symbol_lt (by omega)
    · exact symbol_lt (by omega)
    · exact symbol_lt (by omega)
    · exact symbol_lt (by omega)
    · exact ih h
  | case2 x y =>
    have hx := x.toNat_lt
    have hy := y.toNat_lt
    simp only [List.mem_cons, List.not_mem_nil, or_false] at h
    rcases h with rfl | rfl | rfl | rfl
    · exact symbol_lt (by omega)
    · exact symbol_lt (by omega)
    · exact symbol_lt (by omega)
    · decide
  | case3 x =>
    have hx := x.toNat_lt
    simp only [List.mem_cons, List.not_mem_nil, or_false] at h
    rcases h with rfl | rfl | rfl | rfl
    · exact symbol_lt (by omega)
    · exact symbol_lt (by omega)
    · decide
    · decide
  | case4 => cases h

/-! ### The last group -/

theorem readLastGroup_symbol (hv : v < 64) (hg : g.padding = 0) (rest : Bytes) :
    readLastGroup offset index g (symbol v :: rest) =
      readLastGroup offset (index + 1)
        { g with values := g.values ++ [v], last := symbol v } rest := by
  rw [readLastGroup, if_neg (symbol_ne_pad hv), if_neg (by omega), readSymbol_symbol hv]
  rfl

theorem readLastGroup_pads (offset : Nat) {index : Nat} (hindex : 2 ≤ index) (g : LastGroup)
    (n : Nat) :
    readLastGroup offset index g (List.replicate n pad) =
      .ok { g with padding := g.padding + n } := by
  induction n generalizing index g with
  | zero => rfl
  | succ n ih =>
    rw [List.replicate_succ, readLastGroup, if_pos rfl, if_neg (by omega), ih (by omega),
      Nat.add_right_comm, Nat.add_assoc]

theorem readLastGroup_symbols (offset index : Nat) (g : LastGroup) {vs : List Nat}
    (hvs : ∀ v ∈ vs, v < 64) (hg : g.padding = 0) (rest : Bytes) :
    ∃ last, readLastGroup offset index g (vs.map symbol ++ rest) =
      readLastGroup offset (index + vs.length) { g with values := g.values ++ vs, last } rest := by
  induction vs generalizing index g with
  | nil => exact ⟨g.last, by simp⟩
  | cons v vs ih =>
    obtain ⟨hv, hvs⟩ := List.forall_mem_cons.mp hvs
    obtain ⟨last, hread⟩ :=
      ih (index + 1) { g with values := g.values ++ [v], last := symbol v } hvs hg
    refine ⟨last, ?_⟩
    rw [List.map_cons, List.cons_append, readLastGroup_symbol hv hg, hread, List.append_assoc,
      List.length_cons, Nat.add_right_comm, Nat.add_assoc]
    rfl

/-- Symbols are read, and padding after two of them. -/
theorem readLastGroup_written (offset : Nat) {vs : List Nat} (hvs : ∀ v ∈ vs, v < 64) (n : Nat)
    (hn : n = 0 ∨ 2 ≤ vs.length) :
    ∃ last, readLastGroup offset 0 {} (vs.map symbol ++ List.replicate n pad) =
      .ok ⟨vs, last, n⟩ := by
  obtain ⟨last, hread⟩ := readLastGroup_symbols offset 0 {} hvs rfl (List.replicate n pad)
  refine ⟨last, hread.trans ?_⟩
  rcases hn with rfl | htwo
  · rfl
  · rw [Nat.zero_add, readLastGroup_pads offset htwo, Nat.zero_add]
    rfl

/-- In the last group symbols come before padding, of which there is some only after two
symbols. -/
theorem readLastGroup_ok (h : readLastGroup offset index g text = .ok g') :
    ∃ vs n, text = vs.map symbol ++ List.replicate n pad ∧ g'.values = g.values ++ vs ∧
      g'.padding = g.padding + n ∧ (∀ v ∈ vs, v < 64) ∧ (g.padding = 0 ∨ vs = []) ∧
      (n = 0 ∨ 2 ≤ index + vs.length) := by
  induction text generalizing index g with
  | nil =>
    cases h
    exact ⟨[], 0, rfl, (List.append_nil _).symm, rfl, by simp, Or.inr rfl, Or.inl rfl⟩
  | cons b rest ih =>
    rw [readLastGroup] at h
    split_ifs at h with hpad hindex hpadded
    · obtain ⟨vs, n, hrest, hvalues, hpadding, hvs, hlate, -⟩ := ih h
      obtain rfl : vs = [] := hlate.resolve_left (Nat.succ_ne_zero _)
      refine ⟨[], n + 1, ?_, hvalues, ?_, hvs, Or.inr rfl, Or.inr (by omega)⟩
      · rw [hpad, hrest]
        rfl
      · simp only [hpadding]
        omega
    · obtain ⟨v, hv, h⟩ := bind_ok h
      obtain ⟨hlt, rfl⟩ := readSymbol_ok hv
      obtain ⟨vs, n, hrest, hvalues, hpadding, hvs, -, htwo⟩ := ih h
      refine ⟨v :: vs, n, ?_, ?_, hpadding, List.forall_mem_cons.mpr ⟨hlt, hvs⟩,
        Or.inl (by omega), ?_⟩
      · rw [hrest]
        rfl
      · rw [hvalues, List.append_assoc]
        rfl
      · rw [List.length_cons]
        omega

theorem LastGroup.bytes_one (offset va : Nat) {vb : Nat} (last : UInt8) (hstray : vb % 16 = 0) :
    LastGroup.bytes offset ⟨[va, vb], last, 2⟩ = .ok [UInt8.ofNat (va * 4 + vb / 16)] := by
  simp [LastGroup.bytes, hstray]

theorem LastGroup.bytes_two (offset va vb : Nat) {vc : Nat} (last : UInt8) (hstray : vc % 4 = 0) :
    LastGroup.bytes offset ⟨[va, vb, vc], last, 1⟩ =
      .ok [UInt8.ofNat (va * 4 + vb / 16), UInt8.ofNat (vb % 16 * 16 + vc / 4)] := by
  simp [LastGroup.bytes, hstray]

theorem LastGroup.bytes_three (offset : Nat) (va vb vc vd : Nat) (last : UInt8) :
    LastGroup.bytes offset ⟨[va, vb, vc, vd], last, 0⟩ =
      .ok [UInt8.ofNat (va * 4 + vb / 16), UInt8.ofNat (vb % 16 * 16 + vc / 4),
        UInt8.ofNat (vc % 4 * 64 + vd)] := by
  simp [LastGroup.bytes]

/-- The last group gives bytes that are written as the group is. -/
theorem eq_encodeBytes_of_last (hlength : text.length ≤ 4)
    (h : readLastGroup offset 0 {} text >>= LastGroup.bytes offset = .ok bytes) :
    text = encodeBytes bytes := by
  obtain ⟨g, hread, hbytes⟩ := bind_ok h
  obtain ⟨vs, n, rfl, hvalues, hpadding, hvs, -, htwo⟩ := readLastGroup_ok hread
  simp only [List.nil_append, Nat.zero_add] at hvalues hpadding htwo
  simp only [List.length_append, List.length_map, List.length_replicate] at hlength
  simp only [LastGroup.bytes, hvalues, hpadding] at hbytes
  split_ifs at hbytes with hone hfour
  rcases vs with _ | ⟨a, _ | ⟨b, _ | ⟨c, _ | ⟨d, _ | ⟨e, vs⟩⟩⟩⟩⟩
  case nil =>
    obtain rfl : n = 0 := htwo.resolve_right (by simp)
    cases hbytes
    rfl
  case cons.nil => exact absurd rfl hone
  case cons.cons.nil =>
    obtain rfl : n = 2 := by simp at hlength hfour; omega
    simp only [List.forall_mem_cons] at hvs
    dsimp only at hbytes
    split_ifs at hbytes with hstray
    cases hbytes
    -- No bit of the last symbol is lost, so the byte gives both symbols again.
    exact (encodeBytes_one hvs.1 hvs.2.1 (Decidable.not_not.mp hstray)).symm
  case cons.cons.cons.nil =>
    obtain rfl : n = 1 := by simp at hlength hfour; omega
    simp only [List.forall_mem_cons] at hvs
    dsimp only at hbytes
    split_ifs at hbytes with hstray
    cases hbytes
    exact (encodeBytes_two hvs.1 hvs.2.1 hvs.2.2.1 (Decidable.not_not.mp hstray)).symm
  case cons.cons.cons.cons.nil =>
    obtain rfl : n = 0 := by simp at hlength hfour; omega
    simp only [List.forall_mem_cons] at hvs
    cases hbytes
    exact (encodeBytes_three hvs.1 hvs.2.1 hvs.2.2.1 hvs.2.2.2.1 []).symm
  case cons.cons.cons.cons.cons =>
    simp only [List.length_cons] at hlength
    omega

/-! ### All groups -/

theorem exists_of_lt_length (h : 4 < text.length) :
    ∃ a b c d e rest, text = a :: b :: c :: d :: e :: rest := by
  rcases text with _ | ⟨a, _ | ⟨b, _ | ⟨c, _ | ⟨d, _ | ⟨e, rest⟩⟩⟩⟩⟩
  case cons.cons.cons.cons.cons => exact ⟨a, b, c, d, e, rest, rfl⟩
  all_goals simp at h

/-- What is read is written as it was. -/
theorem eq_encodeBytes_of_decodeFrom (h : decodeFrom offset text = .ok bytes) :
    text = encodeBytes bytes := by
  fun_induction decodeFrom offset text generalizing bytes with
  | case1 offset a b c d e rest ih =>
    obtain ⟨va, hva, h⟩ := bind_ok h
    obtain ⟨vb, hvb, h⟩ := bind_ok h
    obtain ⟨vc, hvc, h⟩ := bind_ok h
    obtain ⟨vd, hvd, h⟩ := bind_ok h
    obtain ⟨tail, htail, h⟩ := bind_ok h
    cases h
    obtain ⟨ha, rfl⟩ := readSymbol_ok hva
    obtain ⟨hb, rfl⟩ := readSymbol_ok hvb
    obtain ⟨hc, rfl⟩ := readSymbol_ok hvc
    obtain ⟨hd, rfl⟩ := readSymbol_ok hvd
    rw [ih htail, encodeBytes_three ha hb hc hd]
  | case2 offset text hshort =>
    refine eq_encodeBytes_of_last (Nat.le_of_not_lt fun hlong => ?_) h
    obtain ⟨a, b, c, d, e, rest, rfl⟩ := exists_of_lt_length hlong
    exact hshort a b c d e rest rfl

/-- The last group of what is written is read back. -/
theorem readLastGroup_encodeBytes (offset : Nat) (bytes : Bytes) (hlength : bytes.length ≤ 3) :
    readLastGroup offset 0 {} (encodeBytes bytes) >>= LastGroup.bytes offset = .ok bytes := by
  rcases bytes with _ | ⟨a, _ | ⟨b, _ | ⟨c, _ | ⟨d, bytes⟩⟩⟩⟩
  case nil => rfl
  case cons.nil =>
    have ha := a.toNat_lt
    have hvs : ∀ v ∈ [a.toNat / 4, a.toNat % 4 * 16], v < 64 := by simp; omega
    obtain ⟨last, hread⟩ := readLastGroup_written offset hvs 2 (Or.inr (Nat.le_refl 2))
    have hstray : a.toNat % 4 * 16 % 16 = 0 := by omega
    have hbytes := LastGroup.bytes_one offset (a.toNat / 4) last hstray
    rw [ofNat_eq a (by omega)] at hbytes
    exact (congrArg (· >>= LastGroup.bytes offset) hread).trans hbytes
  case cons.cons.nil =>
    have ha := a.toNat_lt
    have hb := b.toNat_lt
    have hvs : ∀ v ∈ [a.toNat / 4, a.toNat % 4 * 16 + b.toNat / 16, b.toNat % 16 * 4],
        v < 64 := by
      simp
      omega
    obtain ⟨last, hread⟩ := readLastGroup_written offset hvs 1 (Or.inr (Nat.le_succ 2))
    have hstray : b.toNat % 16 * 4 % 4 = 0 := by omega
    have hbytes := LastGroup.bytes_two offset (a.toNat / 4) (a.toNat % 4 * 16 + b.toNat / 16) last
      hstray
    rw [ofNat_eq a (by omega), ofNat_eq b (by omega)] at hbytes
    exact (congrArg (· >>= LastGroup.bytes offset) hread).trans hbytes
  case cons.cons.cons.nil =>
    have ha := a.toNat_lt
    have hb := b.toNat_lt
    have hc := c.toNat_lt
    have hvs : ∀ v ∈ [a.toNat / 4, a.toNat % 4 * 16 + b.toNat / 16,
        b.toNat % 16 * 4 + c.toNat / 64, c.toNat % 64], v < 64 := by
      simp
      omega
    obtain ⟨last, hread⟩ := readLastGroup_written offset hvs 0 (Or.inl rfl)
    have hbytes := LastGroup.bytes_three offset (a.toNat / 4) (a.toNat % 4 * 16 + b.toNat / 16)
      (b.toNat % 16 * 4 + c.toNat / 64) (c.toNat % 64) last
    rw [ofNat_eq a (by omega), ofNat_eq b (by omega), ofNat_eq c (by omega)] at hbytes
    exact (congrArg (· >>= LastGroup.bytes offset) hread).trans hbytes
  case cons.cons.cons.cons =>
    simp only [List.length_cons] at hlength
    omega

theorem exists_encodeBytes_cons (b : UInt8) (bytes : Bytes) :
    ∃ e rest, encodeBytes (b :: bytes) = e :: rest := by
  rcases bytes with _ | ⟨c, _ | ⟨d, bytes⟩⟩
  · exact ⟨_, _, rfl⟩
  · exact ⟨_, _, rfl⟩
  · exact ⟨_, _, rfl⟩

/-- A group that is not the last is read before the rest. -/
theorem decodeFrom_group {va vb vc vd : Nat} (ha : va < 64) (hb : vb < 64) (hc : vc < 64)
    (hd : vd < 64) (offset : Nat) (e : UInt8) {rest tail : Bytes}
    (hrest : decodeFrom (offset + 4) (e :: rest) = .ok tail) :
    decodeFrom offset (symbol va :: symbol vb :: symbol vc :: symbol vd :: e :: rest) =
      .ok (UInt8.ofNat (va * 4 + vb / 16) :: UInt8.ofNat (vb % 16 * 16 + vc / 4)
        :: UInt8.ofNat (vc % 4 * 64 + vd) :: tail) := by
  rw [decodeFrom, readSymbol_symbol ha, readSymbol_symbol hb, readSymbol_symbol hc,
    readSymbol_symbol hd, hrest]
  rfl

/-- What is written is read back. -/
theorem decodeFrom_encodeBytes (offset : Nat) (bytes : Bytes) :
    decodeFrom offset (encodeBytes bytes) = .ok bytes := by
  fun_induction encodeBytes bytes generalizing offset with
  | case1 a b c rest ih =>
    have ha := a.toNat_lt
    have hb := b.toNat_lt
    have hc := c.toNat_lt
    -- A full group is the last one if nothing comes after it.
    cases rest with
    | nil => exact readLastGroup_encodeBytes offset [a, b, c] (Nat.le_refl 3)
    | cons d rest =>
      obtain ⟨e, more, hmore⟩ := exists_encodeBytes_cons d rest
      have hrest := ih (offset + 4)
      rw [hmore] at hrest ⊢
      rw [decodeFrom_group (by omega) (by omega) (by omega) (by omega) offset e hrest,
        ofNat_eq a (by omega), ofNat_eq b (by omega), ofNat_eq c (by omega)]
  | case2 a b => exact readLastGroup_encodeBytes offset [a, b] (Nat.le_succ 2)
  | case3 a => exact readLastGroup_encodeBytes offset [a] (Nat.succ_le_succ (Nat.zero_le 2))
  | case4 => rfl

theorem decodeFrom_eq_ok_iff : decodeFrom offset text = .ok bytes ↔ text = encodeBytes bytes :=
  ⟨eq_encodeBytes_of_decodeFrom, fun h => h ▸ decodeFrom_encodeBytes offset bytes⟩

/-! ### Texts -/

theorem decodeBytes_eq_ok_iff : decodeBytes text = .ok bytes ↔ text = encodeBytes bytes := by
  rw [decodeBytes]
  split
  · next b hforeign =>
    -- A text that ends so is too long by one, and what is written never is.
    rw [foreignEnd?] at hforeign
    split_ifs at hforeign with hlength
    refine ⟨nofun, fun h => ?_⟩
    have hfour := length_encodeBytes bytes
    rw [← h, hlength] at hfour
    cases hfour
  · exact decodeFrom_eq_ok_iff

/-- The symbols are characters of one byte each. -/
theorem ofText_encode (bytes : Bytes) : Bytes.ofText (encode bytes) = encodeBytes bytes :=
  Bytes.ofText_ascii fun _ hb => lt_of_mem_encodeBytes hb

/-- **Only the base64 text of a byte string is read, and gives the byte string.** -/
theorem decode_eq_ok_iff {text : String} : decode text = .ok bytes ↔ text = encode bytes := by
  rw [decode, decodeBytes_eq_ok_iff, ← ofText_encode]
  exact ⟨Bytes.ofText_injective, congrArg Bytes.ofText⟩

/-- Stray bits and short padding are refused. -/
example : decode "Zg==" = .ok [102] ∧ decode "Zh==" = .error (.strayBits 1 104) ∧
    decode "Zg=" = .error .padding := by
  decide +kernel

end ChatRouting.Base64
