import Mathlib.Tactic.SplitIfs

/-!
# Look-ups in tables

Keys, sessions, join requests and locks are kept in lists of pairs. A look-up finds the first pair
under an id, so as long as no id comes twice the order of the pairs does not matter.

## Main results

* `Table.lookup_without`: the table without the pairs of an id
* `Table.lookup_mapValues`: the table with changed values
* `Table.lookup_isSome_iff`: the ids under which something is found
* `Table.lookup_eq_some_iff_mem`: with distinct ids the pairs are what look-ups find
* `Table.getLast?_filterMap_append`: what a list of entries tells last
-/

namespace ChatRouting.Table

section

variable {κ α : Type} [BEq κ] [LawfulBEq κ] [DecidableEq κ]

theorem lookup_cons (t : List (κ × α)) (k : κ) (a : α) (id : κ) :
    ((k, a) :: t).lookup id = if id = k then some a else t.lookup id := by
  rw [List.lookup_cons]
  split_ifs with h
  · rw [beq_iff_eq.mpr h]
  · rw [beq_eq_false_iff_ne.mpr h]

theorem lookup_without (t : List (κ × α)) (id other : κ) :
    (t.filter fun e => e.1 != id).lookup other = if other = id then none else t.lookup other := by
  induction t with
  | nil => simp
  | cons e t ih =>
    obtain ⟨k, a⟩ := e
    by_cases hk : k = id
    · subst hk
      rw [List.filter_cons_of_neg (by simp), ih, lookup_cons]
      split_ifs with ho
      · rfl
      · rfl
    · rw [List.filter_cons_of_pos (by simpa using hk), lookup_cons, lookup_cons, ih]
      by_cases ho : other = k
      · subst ho
        simp [hk]
      · rw [if_neg ho, if_neg ho]

/-- Something is found under the ids of the pairs. -/
theorem lookup_isSome_iff (t : List (κ × α)) (id : κ) :
    (t.lookup id).isSome ↔ id ∈ t.map Prod.fst := by
  induction t with
  | nil => simp
  | cons e t ih =>
    obtain ⟨k, a⟩ := e
    rw [lookup_cons, List.map_cons, List.mem_cons, ← ih]
    split_ifs with h
    · simp [h]
    · simp [h]

end

variable {α : Type}

theorem mem_of_lookup {κ : Type} [BEq κ] [LawfulBEq κ] {t : List (κ × α)} {id : κ} {a : α}
    (h : t.lookup id = some a) : (id, a) ∈ t := by
  obtain ⟨before, after, rfl, -⟩ := List.lookup_eq_some_iff.mp h
  simp

theorem lookup_mapValues (t : List (String × α)) (f : String → α → α) (id : String) :
    (t.map fun e => (e.1, f e.1 e.2)).lookup id = (t.lookup id).map (f id) := by
  induction t with
  | nil => rfl
  | cons e t ih =>
    obtain ⟨k, a⟩ := e
    rw [List.map_cons, lookup_cons, lookup_cons, ih]
    split_ifs with h
    · rw [h]
      rfl
    · rfl

/-- With distinct ids the pairs of a table are what look-ups find. -/
theorem lookup_eq_some_iff_mem {t : List (String × α)} (hd : (t.map Prod.fst).Nodup)
    {id : String} {a : α} : t.lookup id = some a ↔ (id, a) ∈ t := by
  refine ⟨mem_of_lookup, fun hm => ?_⟩
  induction t with
  | nil => cases hm
  | cons e t ih =>
    rw [List.map_cons, List.nodup_cons] at hd
    rw [lookup_cons]
    rcases List.mem_cons.mp hm with rfl | hm
    · exact if_pos rfl
    · have hne : id ≠ e.1 := fun he => hd.1 (he ▸ List.mem_map_of_mem hm)
      rw [if_neg hne]
      exact ih hd.2 hm

/-- What is told last, if one more entry comes. -/
theorem getLast?_filterMap_append {α β : Type} (f : α → Option β) (xs : List α) (x : α) :
    ((xs ++ [x]).filterMap f).getLast? = (f x).or (xs.filterMap f).getLast? := by
  rw [List.filterMap_append, List.getLast?_append]
  cases hx : f x with
  | none => simp [hx]
  | some b => simp [hx]

end ChatRouting.Table
