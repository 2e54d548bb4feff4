import ChatRouting.Proofs.Json.Reading

/-!
# Reading what was indented

The indented form of a value is its compact form with blanks in it: the start of a line before an
item, before a key and before a closing bracket, and one space after a colon. Blanks at these places
are skipped by a reader, so the indented form reads back to the value as the compact form does.

A value without parts has the same text in both forms.

## Main definitions

* `Json.Reader.ReadsBackAt`: the text of a value that starts at a level is read back

## Main results

* `Json.parse_pretty`: the indented form of a value reads back to the value
-/

namespace ChatRouting.Json

namespace Reader

/-! ### Blanks -/

theorem skipSpace_append {blanks : List Char} (h : ∀ c ∈ blanks, isSpace c = true)
    (cs : List Char) : skipSpace (blanks ++ cs) = skipSpace cs :=
  List.dropWhile_append_of_pos h

/-- The start of a line is blank. -/
theorem isSpace_of_mem_lineStart {level : Nat} {c : Char} (hc : c ∈ Writer.lineStart level) :
    isSpace c = true := by
  rcases List.mem_cons.mp hc with rfl | hc
  · decide
  · obtain rfl := List.eq_of_mem_replicate hc
    decide

@[simp] theorem skipSpace_lineStart (level : Nat) (cs : List Char) :
    skipSpace (Writer.lineStart level ++ cs) = skipSpace cs :=
  skipSpace_append (fun _ hc => isSpace_of_mem_lineStart hc) cs

/-- Blanks in front of a value are skipped. -/
theorem value_of_skipSpace {cs cs' : List Char} (h : skipSpace cs = skipSpace cs') (bound : Nat) :
    value bound cs = value bound cs' := by
  rcases bound with _ | bound
  · rw [value, value]
  · rw [value, value, h]

/-- Blanks in front of an item are skipped. -/
theorem items_of_skipSpace {cs cs' : List Char} (h : skipSpace cs = skipSpace cs') (bound : Nat) :
    items bound cs = items bound cs' := by
  rcases bound with _ | bound
  · rw [items, items]
  · rw [items, items, value_of_skipSpace h]

/-- Blanks in front of a key are skipped. -/
theorem members_of_skipSpace {cs cs' : List Char} (h : skipSpace cs = skipSpace cs')
    (bound : Nat) : members bound cs = members bound cs' := by
  rcases bound with _ | bound
  · rw [members, members]
  · rw [members, members, h]

/-! ### Values -/

/-- The text of a value that starts at a level is read back to the value, if what comes after does
not go on with a number. -/
def ReadsBackAt (level : Nat) (v : Json) : Prop :=
  ∀ rest bound, Stops ['.', 'e', 'E'] rest → 2 * (Writer.prettyValue level v).length ≤ bound →
    value bound (Writer.prettyValue level v ++ rest) = some (v, rest)

/-- After an item comes a comma or a new line. -/
theorem stops_prettyItems (level : Nat) (vs : List Json) (rest : List Char) :
    Stops ['.', 'e', 'E'] (Writer.prettyItems level vs ++ rest) := by
  cases vs <;> exact Stops.cons (by decide) (by decide) _

/-- After a member comes a comma or a new line. -/
theorem stops_prettyMembers (level : Nat) (ms : List (Literal × Json)) (rest : List Char) :
    Stops ['.', 'e', 'E'] (Writer.prettyMembers level ms ++ rest) := by
  cases ms <;> exact Stops.cons (by decide) (by decide) _

/-- An indented value starts neither with a blank nor with a closing bracket. -/
theorem exists_prettyValue_eq (level : Nat) (v : Json) :
    ∃ c cs, Writer.prettyValue level v = c :: cs ∧ isSpace c = false ∧ c ≠ ']' := by
  rcases v with _ | b | n | s | (_ | ⟨v, rest⟩) | (_ | ⟨⟨k, v⟩, rest⟩)
  · exact exists_value_eq .null
  · exact exists_value_eq (.bool b)
  · exact exists_value_eq (.number n)
  · exact exists_value_eq (.string s)
  · exact ⟨'[', _, rfl, by decide, by decide⟩
  · exact ⟨'[', _, rfl, by decide, by decide⟩
  · exact ⟨'\x7b', _, rfl, by decide, by decide⟩
  · exact ⟨'\x7b', _, rfl, by decide, by decide⟩

/-- The indented items of an array are read back if each of them is. -/
theorem prettyItems_written {level : Nat} {v : Json} {vs : List Json}
    (hv : ReadsBackAt (level + 1) v) (hvs : ∀ w ∈ vs, ReadsBackAt (level + 1) w)
    (rest : List Char) (bound : Nat)
    (hbound : 2 * ((Writer.prettyValue (level + 1) v).length
      + (Writer.prettyItems level vs).length) ≤ bound) :
    items bound (Writer.prettyValue (level + 1) v ++ (Writer.prettyItems level vs ++ rest))
      = some (v :: vs, rest) := by
  induction vs generalizing v bound with
  | nil =>
    rcases bound with _ | bound
    · simp [Writer.prettyItems] at hbound
    · have hlength : 0 < (Writer.prettyItems level []).length := by simp [Writer.prettyItems]
      have hfirst := hv (Writer.prettyItems level [] ++ rest) bound
        (stops_prettyItems level [] rest) (by omega)
      rw [items, hfirst]
      simp [Writer.prettyItems, skipSpace_cons (by decide : isSpace ']' = false)]
  | cons w ws ih =>
    have hlength : (Writer.prettyItems level (w :: ws)).length
        = 1 + (Writer.lineStart (level + 1)).length + (Writer.prettyValue (level + 1) w).length
          + (Writer.prettyItems level ws).length := by
      simp [Writer.prettyItems]
      omega
    rcases bound with _ | bound
    · omega
    · have hfirst := hv (Writer.prettyItems level (w :: ws) ++ rest) bound
        (stops_prettyItems level _ rest) (by omega)
      have hothers := ih (hvs w List.mem_cons_self) (fun u hu => hvs u (List.mem_cons_of_mem w hu))
        bound (by omega)
      have hcomma : Writer.prettyItems level (w :: ws) ++ rest
          = ',' :: (Writer.lineStart (level + 1) ++ (Writer.prettyValue (level + 1) w
            ++ (Writer.prettyItems level ws ++ rest))) := by
        simp [Writer.prettyItems]
      rw [items, hfirst]
      simp only [hcomma, skipSpace_cons (by decide : isSpace ',' = false),
        items_of_skipSpace (skipSpace_lineStart (level + 1) _), hothers, Option.bind_eq_bind,
        Option.bind_some, Option.pure_def]

/-- The indented members of an object are read back if the value of each of them is. -/
theorem prettyMembers_written {level : Nat} {k : Literal} {v : Json} {ms : List (Literal × Json)}
    (hv : ReadsBackAt (level + 1) v) (hms : ∀ m ∈ ms, ReadsBackAt (level + 1) m.2)
    (rest : List Char) (bound : Nat)
    (hbound : 2 * ((Writer.prettyValue (level + 1) v).length
      + (Writer.prettyMembers level ms).length) ≤ bound) :
    members bound (Writer.literal k ++ ':' :: ' ' :: (Writer.prettyValue (level + 1) v
      ++ (Writer.prettyMembers level ms ++ rest))) = some ((k, v) :: ms, rest) := by
  -- The space after a colon is skipped with the value.
  have hblank : ∀ c ∈ [' '], isSpace c = true := List.forall_mem_singleton.mpr (by decide)
  have hspace (bound : Nat) (cs : List Char) : value bound (' ' :: cs) = value bound cs :=
    value_of_skipSpace (skipSpace_append hblank cs) bound
  induction ms generalizing k v bound with
  | nil =>
    rcases bound with _ | bound
    · simp [Writer.prettyMembers] at hbound
    · have hlength : 0 < (Writer.prettyMembers level []).length := by simp [Writer.prettyMembers]
      obtain ⟨cs, hkey, hliteral⟩ := literal_written k (':' :: ' ' ::
        (Writer.prettyValue (level + 1) v ++ (Writer.prettyMembers level [] ++ rest)))
      have hfirst := hv (Writer.prettyMembers level [] ++ rest) bound
        (stops_prettyMembers level [] rest) (by omega)
      rw [hkey, members]
      simp only [skipSpace_cons (by decide : isSpace '"' = false),
        skipSpace_cons (by decide : isSpace ':' = false), hliteral, hspace, hfirst,
        Option.bind_eq_bind, Option.bind_some]
      simp [Writer.prettyMembers, skipSpace_cons (by decide : isSpace '\x7d' = false)]
  | cons m ms ih =>
    obtain ⟨k', w⟩ := m
    have hw : ReadsBackAt (level + 1) w := hms (k', w) List.mem_cons_self
    have hlength : (Writer.prettyMembers level ((k', w) :: ms)).length
        = 3 + (Writer.lineStart (level + 1)).length + (Writer.literal k').length
          + (Writer.prettyValue (level + 1) w).length
          + (Writer.prettyMembers level ms).length := by
      simp [Writer.prettyMembers]
      omega
    rcases bound with _ | bound
    · omega
    · obtain ⟨cs, hkey, hliteral⟩ := literal_written k (':' :: ' ' ::
        (Writer.prettyValue (level + 1) v ++ (Writer.prettyMembers level ((k', w) :: ms) ++ rest)))
      have hfirst := hv (Writer.prettyMembers level ((k', w) :: ms) ++ rest) bound
        (stops_prettyMembers level _ rest) (by omega)
      have hothers := ih (k := k') hw (fun m hm => hms m (List.mem_cons_of_mem _ hm))
        bound (by omega)
      have hcomma : Writer.prettyMembers level ((k', w) :: ms) ++ rest
          = ',' :: (Writer.lineStart (level + 1) ++ (Writer.literal k' ++ ':' :: ' ' ::
            (Writer.prettyValue (level + 1) w ++ (Writer.prettyMembers level ms ++ rest)))) := by
        simp [Writer.prettyMembers]
      rw [hkey, members]
      rw [hcomma] at hfirst hliteral
      simp only [skipSpace_cons (by decide : isSpace '"' = false),
        skipSpace_cons (by decide : isSpace ':' = false),
        skipSpace_cons (by decide : isSpace ',' = false), hliteral, hspace, hfirst,
        members_of_skipSpace (skipSpace_lineStart (level + 1) _), hothers, Option.bind_eq_bind,
        Option.bind_some, Option.pure_def]

theorem readsBackAt_array {level : Nat} {vs : List Json}
    (hvs : ∀ w ∈ vs, ReadsBackAt (level + 1) w) : ReadsBackAt level (.array vs) := by
  rcases vs with _ | ⟨v, vs⟩
  · exact readsBack_array (List.forall_mem_nil _)
  · rintro rest (_ | bound) hrest hbound
    · simp [Writer.prettyValue] at hbound
    · have hitems := prettyItems_written (hvs v List.mem_cons_self)
        (fun w hw => hvs w (List.mem_cons_of_mem v hw)) rest bound
        (by simp [Writer.prettyValue] at hbound; omega)
      obtain ⟨c, cs, hfirst, hspace, hclose⟩ := exists_prettyValue_eq (level + 1) v
      have htext : Writer.prettyValue level (.array (v :: vs)) ++ rest
          = '[' :: (Writer.lineStart (level + 1) ++ (Writer.prettyValue (level + 1) v
            ++ (Writer.prettyItems level vs ++ rest))) := by
        simp [Writer.prettyValue]
      rw [htext]
      rw [hfirst, List.cons_append] at hitems ⊢
      simp [value, skipSpace_cons (by decide : isSpace '[' = false), skipSpace_cons hspace, hclose,
        hitems]

theorem readsBackAt_object {level : Nat} {ms : List (Literal × Json)}
    (hms : ∀ m ∈ ms, ReadsBackAt (level + 1) m.2) : ReadsBackAt level (.object ms) := by
  rcases ms with _ | ⟨⟨k, v⟩, ms⟩
  · exact readsBack_object (List.forall_mem_nil _)
  · rintro rest (_ | bound) hrest hbound
    · simp [Writer.prettyValue] at hbound
    · have hv : ReadsBackAt (level + 1) v := hms (k, v) List.mem_cons_self
      have hmembers := prettyMembers_written (k := k) hv
        (fun m hm => hms m (List.mem_cons_of_mem _ hm)) rest bound
        (by simp [Writer.prettyValue] at hbound; omega)
      have htext : Writer.prettyValue level (.object ((k, v) :: ms)) ++ rest = '\x7b' ::
          (Writer.lineStart (level + 1) ++ (Writer.literal k ++ ':' :: ' ' ::
            (Writer.prettyValue (level + 1) v ++ (Writer.prettyMembers level ms ++ rest)))) := by
        simp [Writer.prettyValue]
      obtain ⟨cs, hkey, -⟩ := literal_written k (':' :: ' ' ::
        (Writer.prettyValue (level + 1) v ++ (Writer.prettyMembers level ms ++ rest)))
      rw [htext]
      rw [hkey] at hmembers ⊢
      simp [value, skipSpace_cons (by decide : isSpace '\x7b' = false),
        skipSpace_cons (by decide : isSpace '"' = false), hmembers]

mutual
/-- Every value whose decimals are digits is read back at every level. -/
theorem readsBackAt : ∀ (level : Nat) (v : Json), v.isDecimal → ReadsBackAt level v
  | _, .null, h => readsBack .null h
  | _, .bool b, h => readsBack (.bool b) h
  | _, .number n, h => readsBack (.number n) h
  | _, .string s, h => readsBack (.string s) h
  | level, .array vs, h => readsBackAt_array (items_readsBackAt (level + 1) vs h)
  | level, .object ms, h => readsBackAt_object (members_readsBackAt (level + 1) ms h)

/-- Every item of a list of values whose decimals are digits is read back. -/
theorem items_readsBackAt (level : Nat) :
    ∀ vs : List Json, itemsDecimal vs → ∀ w ∈ vs, ReadsBackAt level w
  | [], _ => by simp
  | v :: vs, h => by
    simp only [itemsDecimal, Bool.and_eq_true] at h
    exact List.forall_mem_cons.mpr ⟨readsBackAt level v h.1, items_readsBackAt level vs h.2⟩

/-- The value of every member is read back in a list of members whose decimals are digits. -/
theorem members_readsBackAt (level : Nat) :
    ∀ ms : List (Literal × Json), membersDecimal ms → ∀ m ∈ ms, ReadsBackAt level m.2
  | [], _ => by simp
  | (k, v) :: ms, h => by
    simp only [membersDecimal, Bool.and_eq_true] at h
    exact List.forall_mem_cons.mpr ⟨readsBackAt level v h.1, members_readsBackAt level ms h.2⟩
end

end Reader

/-- **The indented form of a value reads back to the value.** -/
theorem parse_pretty {v : Json} (hv : v.isDecimal) : parse (pretty v) = some v := by
  have hread := Reader.readsBackAt 0 v hv [] (2 * (Writer.prettyValue 0 v).length + 2)
    (by intro c hc; simp at hc) (by omega)
  rw [List.append_nil] at hread
  rw [parse, pretty, String.toList_ofList, parseChars, hread]
  rfl

end ChatRouting.Json
