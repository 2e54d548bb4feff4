import Mathlib.Data.List.DropRight
import ChatRouting.Bytes.Basic
import ChatRouting.Text.Blank

/-!
# Texts, their bytes and their blanks

The bytes of a text are those of no other text, texts are in the order of their bytes, and a line
feed in a text is the one byte of its number. Blanks around a text do not matter once it is
trimmed, however many there are. A text that starts and ends with other characters is what is left
of it, and trimming what was trimmed before changes nothing.

## Main results

* `Bytes.text?_eq_some_iff`: the bytes of a text are well-formed and stand for it
* `Bytes.feed_mem_ofText_iff`
* `Bytes.ofText_lt_ofText`: texts are in the order of their bytes
* `Text.trimChars_surrounded`: blanks around a text are trimmed
* `Text.trim_trim`
-/

namespace ChatRouting

namespace Bytes

@[simp] theorem ofText_append (s t : String) : ofText (s ++ t) = ofText s ++ ofText t := by
  simp [ofText]

theorem toByteArray_ofText (s : String) : (⟨(ofText s).toArray⟩ : ByteArray) = s.toByteArray := by
  rw [← String.utf8Encode_toList]
  exact ByteArray.ext (by simp [ofText, List.utf8Encode])

/-- The bytes of a text are those of no other text. -/
theorem text?_ofText (s : String) : text? (ofText s) = some s := by
  rw [text?, toByteArray_ofText, String.fromUTF8?, dif_pos s.isValidUTF8]
  rfl

/-- Only the bytes of a text stand for one. -/
theorem text?_eq_some_iff {bytes : Bytes} {s : String} :
    text? bytes = some s ↔ bytes = ofText s := by
  refine ⟨fun h => ?_, fun h => h ▸ text?_ofText s⟩
  rw [text?, String.fromUTF8?] at h
  split_ifs at h with hvalid
  have hbytes : s.toByteArray = ⟨bytes.toArray⟩ := by
    rw [← Option.some.inj h]
    rfl
  have harray := congrArg ByteArray.data ((toByteArray_ofText s).trans hbytes)
  exact (List.toArray_inj harray).symm

/-- Texts of the same bytes are the same. -/
theorem ofText_injective {s t : String} (h : ofText s = ofText t) : s = t := by
  have hstands := text?_ofText s
  rw [h, text?_ofText] at hstands
  exact (Option.some.inj hstands).symm

/-- Characters below 128 have one byte each, which is their number. -/
theorem ofText_ascii {bytes : Bytes} (h : ∀ b ∈ bytes, b < 128) :
    ofText (String.ofList (bytes.map fun b => Char.ofNat b.toNat)) = bytes := by
  have hbyte : ∀ n < 128, String.utf8EncodeChar (Char.ofNat n) = [UInt8.ofNat n] := by decide
  rw [ofText, String.toList_ofList, List.flatMap_map]
  induction bytes with
  | nil => rfl
  | cons b bytes ih =>
    obtain ⟨hb, hbytes⟩ := List.forall_mem_cons.mp h
    rw [List.flatMap_cons, hbyte b.toNat (UInt8.lt_iff_toNat_lt.mp hb), UInt8.ofNat_toNat,
      ih hbytes, List.singleton_append]

/-- The bytes of a character are below those of a greater one, whatever follows them. -/
theorem encode_append_lt {c d : Char} (h : c < d) (s t : Bytes) :
    String.utf8EncodeChar c ++ s < String.utf8EncodeChar d ++ t := by
  have hlt : c.val.toNat < d.val.toNat := h
  have hmax : d.val.toNat < 1114112 := by
    rcases d.valid with hd | ⟨-, hd⟩
    · exact Nat.lt_trans hd (by decide)
    · exact hd
  have hsplit (n : Nat) : n / 4096 = n / 64 / 64 ∧ n / 262144 = n / 64 / 64 / 64 := by
    simp only [Nat.div_div_eq_div_mul, and_self]
  simp only [String.utf8EncodeChar, hsplit]
  generalize c.val.toNat = m at hlt
  generalize d.val.toNat = n at hlt hmax
  -- A longer encoding starts with a greater byte, and of the same length the bytes are digits.
  split_ifs <;>
    simp only [List.cons_append, List.nil_append, List.cons_lt_cons_iff, UInt8.lt_iff_toNat_lt,
      ← UInt8.toNat_inj, UInt8.toNat_ofNat'] <;> omega

/-- The order of texts is the order of their bytes. -/
theorem ofText_lt_ofText {s t : String} (h : s < t) : ofText s < ofText t := by
  have hchars (cs ds : List Char) (hlt : cs < ds) :
      cs.flatMap String.utf8EncodeChar < ds.flatMap String.utf8EncodeChar := by
    induction cs generalizing ds with
    | nil =>
      cases ds with
      | nil => cases hlt
      | cons d ds =>
        rw [List.flatMap_cons]
        rcases hd : String.utf8EncodeChar d with _ | ⟨b, bs⟩
        · exact absurd hd String.utf8EncodeChar_ne_nil
        · exact List.nil_lt_cons b _
    | cons c cs ih =>
      cases ds with
      | nil => cases hlt
      | cons d ds =>
        rw [List.flatMap_cons, List.flatMap_cons]
        rcases List.cons_lt_cons_iff.mp hlt with hfirst | ⟨rfl, hrest⟩
        · exact encode_append_lt hfirst _ _
        · exact List.append_left_lt (ih ds hrest)
  exact hchars s.toList t.toList h

/-- A line feed has a byte of its own, which is in no other character. -/
theorem eq_feed_of_mem_encode {c : Char} (h : 10 ∈ String.utf8EncodeChar c) : c = '\n' := by
  have hbyte {n : Nat} (hn : n < 256) (h : 10 = UInt8.ofNat n) : n = 10 := by
    have hvalue := congrArg UInt8.toNat h
    rw [UInt8.toNat_ofNat_of_lt' hn] at hvalue
    exact hvalue.symm
  simp only [String.utf8EncodeChar] at h
  split_ifs at h with hone htwo hthree <;>
    simp only [List.mem_cons, List.not_mem_nil, or_false] at h
  · exact Char.ext (UInt32.toNat_inj.mp (hbyte (by omega) h))
  -- The bytes of a longer character are above those of the short ones.
  · rcases h with h | h <;> exact absurd (hbyte (by omega) h) (by omega)
  · rcases h with h | h | h <;> exact absurd (hbyte (by omega) h) (by omega)
  · rcases h with h | h | h | h <;> exact absurd (hbyte (by omega) h) (by omega)

/-- A text has the byte of a line feed just if it has the line feed. -/
theorem feed_mem_ofText_iff {s : String} : 10 ∈ ofText s ↔ '\n' ∈ s.toList := by
  rw [ofText, List.mem_flatMap]
  constructor
  · rintro ⟨c, hc, hfeed⟩
    exact eq_feed_of_mem_encode hfeed ▸ hc
  · intro h
    exact ⟨'\n', h, by decide⟩

end Bytes

namespace Text

variable {cs ds : List Char}

/-! ### Blanks on one side -/

/-- Blanks before a text are trimmed. -/
theorem trimChars_blank_append (hds : ∀ c ∈ ds, isBlank c) (cs : List Char) :
    trimChars (ds ++ cs) = trimChars cs := by
  rw [trimChars, dropBlank, dropBlank, List.dropWhile_append_of_pos hds, trimChars, dropBlank,
    dropBlank]

/-- Blanks after a text are trimmed. -/
theorem trimChars_append_blank (hds : ∀ c ∈ ds, isBlank c) (cs : List Char) :
    trimChars (cs ++ ds) = trimChars cs := by
  have hreverse : ∀ c ∈ ds.reverse, isBlank c := fun c hc => hds c (List.mem_reverse.mp hc)
  simp only [trimChars, dropBlank, List.dropWhile_append]
  split_ifs with hblank
  · -- Nothing but blanks is left.
    rw [List.isEmpty_iff.mp hblank, List.dropWhile_eq_nil_iff.mpr hds]
  · rw [List.reverse_append, List.dropWhile_append_of_pos hreverse]

/-! ### What has nothing to be trimmed -/

theorem dropBlank_eq_self (hfirst : ∀ c ∈ cs.head?, isBlank c = false) : dropBlank cs = cs := by
  cases cs with
  | nil => rfl
  | cons c cs => rw [dropBlank, List.dropWhile_cons_of_neg (by simpa using hfirst c rfl)]

/-- A text that starts and ends with other characters than blanks has nothing to be trimmed. -/
theorem trimChars_eq_self (hfirst : ∀ c ∈ cs.head?, isBlank c = false)
    (hlast : ∀ c ∈ cs.getLast?, isBlank c = false) : trimChars cs = cs := by
  rw [trimChars, dropBlank_eq_self hfirst, dropBlank_eq_self (by simpa using hlast),
    List.reverse_reverse]

/-- **Blanks around a text are trimmed.** -/
theorem trimChars_surrounded {before after : List Char} (hbefore : ∀ c ∈ before, isBlank c)
    (hafter : ∀ c ∈ after, isBlank c) (hfirst : ∀ c ∈ cs.head?, isBlank c = false)
    (hlast : ∀ c ∈ cs.getLast?, isBlank c = false) : trimChars (before ++ cs ++ after) = cs := by
  rw [trimChars_append_blank hafter, trimChars_blank_append hbefore,
    trimChars_eq_self hfirst hlast]

/-- A text without blank characters has nothing to be trimmed. -/
theorem trim_eq_self {s : String} (h : ∀ c ∈ s.toList, isBlank c = false) : trim s = s := by
  rw [trim, trimChars_eq_self (fun c hc => h c (List.mem_of_mem_head? hc))
    (fun c hc => h c (List.mem_of_mem_getLast? hc)), String.ofList_toList]

/-- Lowercase hexadecimal digits are not blank. -/
theorem isBlank_of_hex {c : Char} (h : (c.isDigit || ('a' ≤ c && c ≤ 'f')) = true) :
    isBlank c = false := by
  have hall : ∀ n < 103, (48 ≤ n ∧ n ≤ 57) ∨ 97 ≤ n → isBlank (Char.ofNat n) = false := by decide
  have hc : (48 ≤ c.toNat ∧ c.toNat ≤ 57) ∨ (97 ≤ c.toNat ∧ c.toNat ≤ 102) := by
    simpa [Char.isDigit, Char.le_def, UInt32.le_iff_toNat_le] using h
  have hblank := hall c.toNat (by omega) (by omega)
  rwa [Char.ofNat_toNat] at hblank

/-! ### What was trimmed -/

/-- What a text without leading blanks starts with has none either. -/
theorem dropBlank_of_starts (h : ds <+: dropBlank cs) : dropBlank ds = ds := by
  refine dropBlank_eq_self fun d hd => ?_
  obtain ⟨rest, hrest⟩ := h
  have hhead := List.head?_dropWhile_not isBlank cs
  rw [← dropBlank, ← hrest, List.head?_append, hd] at hhead
  exact hhead

theorem trimChars_starts (cs : List Char) : trimChars cs <+: dropBlank cs :=
  List.rdropWhile_prefix isBlank (dropBlank cs)

theorem trimChars_trimChars (cs : List Char) : trimChars (trimChars cs) = trimChars cs := by
  conv_lhs => rw [trimChars, dropBlank_of_starts (trimChars_starts cs)]
  exact List.rdropWhile_idempotent isBlank (dropBlank cs)

/-- What is trimmed has nothing to be trimmed. -/
theorem trim_trim (s : String) : trim (trim s) = trim s := by
  rw [trim, trim, String.toList_ofList, trimChars_trimChars]

end Text

end ChatRouting
