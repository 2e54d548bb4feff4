import ChatRouting.Proofs.Endpoint.Joins
import ChatRouting.Proofs.Text

/-!
# What the id of a direct conversation is the hash of

The id of a direct conversation is a hash of the two user ids, joined in increasing order with a
colon between them. User ids may have colons themselves, so the text in which they are joined does
not always tell where the first id ends. Two pairs of users have one text exactly when they are the
same pair or when they *straddle*: the lesser id of the one pair goes on, in the lesser id of the
other, with a colon and a middle part, and the greater ids make up for it.

So pairs that straddle have ids with colons on both sides. Conversations of one local user straddle
only if the local id has two colons at least, and each peer has one.

## Main definitions

* `Conversation.lesser`, `Conversation.greater`, `Conversation.SamePair`
* `Conversation.Straddle`

## Main results

* `Conversation.hashInput_eq_iff`: when two pairs have one hash input
* `Conversation.directId_eq_ok_iff`, `Conversation.directId_comm`: who has a conversation
* `Conversation.hashInput_shared`: what ids of pairs that straddle are like
* `Conversation.hashInput_not_injective`: pairs that straddle
-/

namespace ChatRouting

/-- A text with a mark in it comes apart in two ways at most if the mark is in one place, and else
one of the parts before it goes on with the mark in the other. -/
theorem append_cons_eq_append_cons_iff {α : Type} {x y x' y' : List α} {mark : α} :
    x ++ mark :: y = x' ++ mark :: y' ↔ (x = x' ∧ y = y') ∨
      (∃ middle, x' = x ++ mark :: middle ∧ y = middle ++ mark :: y') ∨
      ∃ middle, x = x' ++ mark :: middle ∧ y' = middle ++ mark :: y := by
  constructor
  · intro h
    rcases List.append_eq_append_iff.mp h with ⟨as, hx, hy⟩ | ⟨bs, hx, hy⟩
    · cases as with
      | nil =>
        rw [List.append_nil] at hx
        exact Or.inl ⟨hx.symm, (List.cons.inj hy).2⟩
      | cons a middle =>
        obtain ⟨rfl, hrest⟩ := List.cons.inj hy
        exact Or.inr (Or.inl ⟨middle, hx, hrest⟩)
    · cases bs with
      | nil =>
        rw [List.append_nil] at hx
        exact Or.inl ⟨hx, (List.cons.inj hy).2.symm⟩
      | cons b middle =>
        obtain ⟨rfl, hrest⟩ := List.cons.inj hy
        exact Or.inr (Or.inr ⟨middle, hx, hrest⟩)
  · rintro (⟨rfl, rfl⟩ | ⟨middle, rfl, rfl⟩ | ⟨middle, rfl, rfl⟩)
    · rfl
    · simp
    · simp

/-- If a text of two parts ends as another begins, the outer parts are the same or both have the
mark. -/
theorem mem_of_append_cons_comm {α : Type} {x y : List α} {mark : α} (hne : x ≠ y)
    (middle : List α) (h : x ++ mark :: middle = middle ++ mark :: y) : mark ∈ x ∧ mark ∈ y := by
  rcases append_cons_eq_append_cons_iff.mp h with ⟨hx, hy⟩ | ⟨rest, hm, hm'⟩ | ⟨rest, hx, hy⟩
  · exact absurd (hx.trans hy) hne
  · -- The middle part begins with `x` and the mark, and so does what is left of it.
    have hlength : rest.length < middle.length := by
      rw [hm, List.length_append, List.length_cons]
      omega
    exact mem_of_append_cons_comm hne rest (hm.symm.trans hm')
  · rw [hx, hy]
    simp
termination_by middle.length

/-- A text that goes on is greater. -/
theorem lt_append_cons (s : List Char) (c : Char) (t : List Char) : s < s ++ c :: t := by
  induction s with
  | nil => exact List.nil_lt_cons _ _
  | cons a s ih => exact List.cons_lt_cons_iff.mpr (Or.inr ⟨rfl, ih⟩)

namespace Conversation

variable {a b c d localId peer other x y : String}

/-- The lesser of two ids. -/
def lesser (a b : String) : String :=
  if a < b then a else b

/-- The greater of two ids. -/
def greater (a b : String) : String :=
  if a < b then b else a

/-- Two pairs of ids are the same, in whichever order. -/
def SamePair (a b c d : String) : Prop :=
  (a = c ∧ b = d) ∨ (a = d ∧ b = c)

/-- The lesser id of the second pair goes on after that of the first, with a colon and a middle
part, and the greater id of the first pair begins with that middle part and a colon. -/
def Straddle (a b c d : String) : Prop :=
  ∃ middle, lesser c d = lesser a b ++ ":" ++ middle ∧ greater a b = middle ++ ":" ++ greater c d

theorem eq_or_eq_of_lesser_greater (a b : String) :
    (lesser a b = a ∧ greater a b = b) ∨ (lesser a b = b ∧ greater a b = a) := by
  rw [lesser, greater]
  split_ifs
  · exact Or.inl ⟨rfl, rfl⟩
  · exact Or.inr ⟨rfl, rfl⟩

theorem lesser_comm (a b : String) : lesser a b = lesser b a := by
  rw [lesser, lesser]
  split_ifs with hab hba hba
  · exact absurd hba (String.lt_asymm hab)
  · rfl
  · rfl
  · exact String.le_antisymm (String.not_lt.mp hab) (String.not_lt.mp hba)

theorem greater_comm (a b : String) : greater a b = greater b a := by
  rw [greater, greater]
  split_ifs with hab hba hba
  · exact absurd hba (String.lt_asymm hab)
  · rfl
  · rfl
  · exact String.le_antisymm (String.not_lt.mp hba) (String.not_lt.mp hab)

theorem samePair_iff : SamePair a b c d ↔ lesser a b = lesser c d ∧ greater a b = greater c d := by
  constructor
  · rintro (⟨rfl, rfl⟩ | ⟨rfl, rfl⟩)
    · exact ⟨rfl, rfl⟩
    · exact ⟨lesser_comm a b, greater_comm a b⟩
  · rintro ⟨hl, hg⟩
    rcases eq_or_eq_of_lesser_greater a b with ⟨ha, hb⟩ | ⟨hb, ha⟩
    · rcases eq_or_eq_of_lesser_greater c d with ⟨hc, hd⟩ | ⟨hd, hc⟩
      · exact Or.inl ⟨by rw [← ha, hl, hc], by rw [← hb, hg, hd]⟩
      · exact Or.inr ⟨by rw [← ha, hl, hd], by rw [← hb, hg, hc]⟩
    · rcases eq_or_eq_of_lesser_greater c d with ⟨hc, hd⟩ | ⟨hd, hc⟩
      · exact Or.inr ⟨by rw [← ha, hg, hd], by rw [← hb, hl, hc]⟩
      · exact Or.inl ⟨by rw [← ha, hg, hc], by rw [← hb, hl, hd]⟩

/-- Pairs straddle if they do so as lists of characters. -/
theorem straddle_iff : Straddle a b c d ↔ ∃ middle : List Char,
    (lesser c d).toList = (lesser a b).toList ++ ':' :: middle ∧
      (greater a b).toList = middle ++ ':' :: (greater c d).toList := by
  constructor
  · rintro ⟨middle, hl, hg⟩
    exact ⟨middle.toList, by simp [hl], by simp [hg]⟩
  · rintro ⟨middle, hl, hg⟩
    refine ⟨String.ofList middle, String.toList_inj.mp ?_, String.toList_inj.mp ?_⟩
    · simp [hl]
    · simp [hg]

/-- Pairs that straddle have an id with a colon each. -/
theorem Straddle.colons (h : Straddle a b c d) :
    (':' ∈ a.toList ∨ ':' ∈ b.toList) ∧ (':' ∈ c.toList ∨ ':' ∈ d.toList) := by
  obtain ⟨middle, hl, hg⟩ := straddle_iff.mp h
  have hlesser : ':' ∈ (lesser c d).toList := by simp [hl]
  have hgreater : ':' ∈ (greater a b).toList := by simp [hg]
  rw [lesser] at hlesser
  rw [greater] at hgreater
  constructor
  · split_ifs at hgreater
    · exact Or.inr hgreater
    · exact Or.inl hgreater
  · split_ifs at hlesser
    · exact Or.inl hlesser
    · exact Or.inr hlesser

/-- Peers of one local user with whom the pairs straddle have a colon, and the local id has two. -/
theorem Straddle.colons_of_localId (h : Straddle localId peer localId other)
    (hne : peer ≠ other) :
    2 ≤ localId.toList.count ':' ∧ ':' ∈ peer.toList ∧ ':' ∈ other.toList := by
  obtain ⟨middle, hl, hg⟩ := straddle_iff.mp h
  have hlonger (t : List Char) (ht : t = t ++ ':' :: middle ∨ t = middle ++ ':' :: t) : False := by
    rcases ht with ht | ht
    · have hlength := congrArg List.length ht
      simp at hlength
    · have hlength := congrArg List.length ht
      simp at hlength
      omega
  by_cases hpeer : localId < peer
  · by_cases hother : localId < other
    · rw [lesser, lesser, if_pos hpeer, if_pos hother] at hl
      exact (hlonger _ (Or.inl hl)).elim
    · -- The other peer would begin with the local id, and so be the greater one.
      rw [lesser, lesser, if_pos hpeer, if_neg hother] at hl
      refine absurd (String.lt_iff.mpr ?_) hother
      rw [hl]
      exact lt_append_cons _ _ _
  · by_cases hother : localId < other
    · rw [lesser, lesser, if_neg hpeer, if_pos hother] at hl
      rw [greater, greater, if_neg hpeer, if_pos hother] at hg
      have hne' : peer.toList ≠ other.toList := fun heq => hne (String.toList_inj.mp heq)
      obtain ⟨hp, ho⟩ := mem_of_append_cons_comm hne' middle (hl.symm.trans hg)
      refine ⟨?_, hp, ho⟩
      rw [hl, List.count_append, List.count_cons_self]
      have hcount := List.count_pos_iff.mpr hp
      omega
    · rw [greater, greater, if_neg hpeer, if_neg hother] at hg
      exact (hlonger _ (Or.inr hg)).elim

/-! ### The text that is hashed -/

theorem hashInput_eq (a b : String) :
    hashInput a b = Bytes.ofText (lesser a b ++ ":" ++ greater a b) := by
  have hcolon (s t : String) :
      Bytes.ofText s ++ 58 :: Bytes.ofText t = Bytes.ofText (s ++ ":" ++ t) := by
    simp only [Bytes.ofText, String.toList_append, List.flatMap_append, List.append_assoc]
    rfl
  rw [hashInput, lesser, greater]
  split_ifs
  · exact hcolon a b
  · exact hcolon b a

/-- Two pairs have one hash input exactly if they are the same or straddle. -/
theorem hashInput_eq_iff : hashInput a b = hashInput c d ↔
    SamePair a b c d ∨ Straddle a b c d ∨ Straddle c d a b := by
  have htext : hashInput a b = hashInput c d ↔ (lesser a b).toList ++ ':' :: (greater a b).toList =
      (lesser c d).toList ++ ':' :: (greater c d).toList := by
    rw [hashInput_eq, hashInput_eq]
    refine ⟨fun h => ?_, fun h => ?_⟩
    · simpa using congrArg String.toList (Bytes.ofText_injective h)
    · exact congrArg Bytes.ofText (String.toList_inj.mp (by simpa using h))
  rw [htext, append_cons_eq_append_cons_iff, samePair_iff, straddle_iff, straddle_iff,
    String.toList_inj, String.toList_inj]

theorem hashInput_comm (a b : String) : hashInput a b = hashInput b a := by
  rw [hashInput_eq, hashInput_eq, lesser_comm, greater_comm]

/-! ### The id -/

/-- Two users have a conversation just if both have ids and these differ. Its id is the hash of
its hash input. -/
theorem directId_eq_ok_iff :
    directId a b = .ok x ↔ (a ≠ "" ∧ b ≠ "" ∧ a ≠ b) ∧ x = hashedId (hashInput a b) := by
  by_cases ha : a = ""
  · subst ha
    exact ⟨fun h => (by cases h), fun h => absurd rfl h.1.1⟩
  · by_cases hb : b = ""
    · subst hb
      simp only [directId, Registry.requireNonempty_of_ne ha, bind, Except.bind]
      exact ⟨fun h => (by cases h), fun h => absurd rfl h.1.2.1⟩
    · simp only [directId, Registry.requireNonempty_of_ne ha, Registry.requireNonempty_of_ne hb,
        bind, Except.bind]
      split_ifs with hself
      · exact ⟨fun h => (by cases h), fun h => absurd hself h.1.2.2⟩
      · simp [pure, Except.pure, ha, hb, hself, eq_comm]

theorem directId_ok (h : directId a b = .ok x) : a ≠ b ∧ x = hashedId (hashInput a b) :=
  ⟨(directId_eq_ok_iff.mp h).1.2.2, (directId_eq_ok_iff.mp h).2⟩

/-- Both sides of a conversation compute one id. -/
theorem directId_comm (h : directId a b = .ok x) : directId b a = .ok x := by
  obtain ⟨⟨ha, hb, hne⟩, rfl⟩ := directId_eq_ok_iff.mp h
  exact directId_eq_ok_iff.mpr ⟨⟨hb, ha, hne.symm⟩, by rw [hashInput_comm]⟩

/-- An id has sixteen digits, which are hexadecimal and lowercase. -/
theorem hashedId_digits (input : Bytes) : (hashedId input).length = 16 ∧
    ∀ c ∈ (hashedId input).toList, c ∈ "0123456789abcdef".toList := by
  have hdigit : ∀ n < 16, Hex.digit n ∈ "0123456789abcdef".toList := by decide
  rw [hashedId, idLength]
  constructor
  · rw [String.length_ofList, List.length_take, Hex.length_encodeChars, Sha256.length_digest]
    rfl
  · intro c hc
    rw [String.toList_ofList] at hc
    obtain ⟨byte, -, hc⟩ := List.mem_flatMap.mp (List.mem_of_mem_take hc)
    have hbyte := byte.toNat_lt
    rcases List.mem_cons.mp hc with rfl | hc
    · exact hdigit _ (by omega)
    · rw [List.mem_singleton.mp hc]
      exact hdigit _ (by omega)

/-- **Two pairs of users have one hash input exactly if they are the same or straddle.** In that
case each pair has an id with a colon, and two peers of one local user have a colon each while the
local id has two at least. So conversations of different pairs have one id only if their pairs
straddle or the hashes of different inputs agree in the digits that are kept. -/
theorem hashInput_shared (hx : directId a b = .ok x) (hy : directId c d = .ok y) :
    x = hashedId (hashInput a b) ∧ y = hashedId (hashInput c d) ∧
      (hashInput a b = hashInput c d ↔
        SamePair a b c d ∨ Straddle a b c d ∨ Straddle c d a b) ∧
      (¬SamePair a b c d → hashInput a b = hashInput c d →
        (':' ∈ a.toList ∨ ':' ∈ b.toList) ∧ (':' ∈ c.toList ∨ ':' ∈ d.toList)) ∧
      (a = c → b ≠ d → hashInput a b = hashInput c d →
        2 ≤ a.toList.count ':' ∧ ':' ∈ b.toList ∧ ':' ∈ d.toList) := by
  obtain ⟨hab, rfl⟩ := directId_ok hx
  obtain ⟨-, rfl⟩ := directId_ok hy
  refine ⟨rfl, rfl, hashInput_eq_iff, fun hdiffer hshared => ?_, ?_⟩
  · rcases hashInput_eq_iff.mp hshared with hsame | hstraddle | hstraddle
    · exact absurd hsame hdiffer
    · exact hstraddle.colons
    · exact hstraddle.colons.symm
  · rintro rfl hpeers hshared
    rcases hashInput_eq_iff.mp hshared with (⟨-, hsame⟩ | ⟨-, hself⟩) | hstraddle | hstraddle
    · exact absurd hsame hpeers
    · exact absurd hself.symm hab
    · exact hstraddle.colons_of_localId hpeers
    · obtain ⟨hlocal, hd, hb⟩ := hstraddle.colons_of_localId hpeers.symm
      exact ⟨hlocal, hb, hd⟩

/-- Two peers of a local id without colons. -/
theorem hashInput_shared_alice :
    directId "alice" "bob:b" = .ok (hashedId (hashInput "alice" "bob:b")) ∧
      directId "alice" "b:carol" = .ok (hashedId (hashInput "alice" "b:carol")) ∧
      hashInput "alice" "bob:b" ≠ hashInput "alice" "b:carol" := by
  have hbob : directId "alice" "bob:b" = .ok (hashedId (hashInput "alice" "bob:b")) := rfl
  have hcarol : directId "alice" "b:carol" = .ok (hashedId (hashInput "alice" "b:carol")) := rfl
  refine ⟨hbob, hcarol, fun hshared => ?_⟩
  obtain ⟨-, -, -, -, hlocal⟩ := hashInput_shared hbob hcarol
  obtain ⟨htwo, -⟩ := hlocal rfl (by decide) hshared
  exact absurd htwo (by decide)

/-- Pairs that straddle, of four users and of three. -/
theorem hashInput_not_injective :
    ((directId "a:b" "c").isOk ∧ (directId "a" "b:c").isOk ∧ ¬SamePair "a:b" "c" "a" "b:c" ∧
      hashInput "a:b" "c" = hashInput "a" "b:c") ∧
    (directId "a:b:a" "b:a").isOk ∧ (directId "a:b:a" "a:b").isOk ∧ "b:a" ≠ "a:b" ∧
      hashInput "a:b:a" "b:a" = hashInput "a:b:a" "a:b" := by
  have hpairs : ¬SamePair "a:b" "c" "a" "b:c" := by
    rintro (⟨h, -⟩ | ⟨h, -⟩)
    · exact absurd h (by decide)
    · exact absurd h (by decide)
  exact ⟨⟨rfl, rfl, hpairs, by decide +kernel⟩, rfl, rfl, by decide, by decide +kernel⟩

end Conversation

end ChatRouting
