import Mathlib.Data.List.Basic
import Mathlib.Tactic.SplitIfs

/-!
# Marked items of a list

Some items of a list are marked, and the list is looked at without the others. An item that is
marked is then found at its *rank*, the number of marked items before it. Items and their marks are
added at the end only, so that places and ranks stay as they are.

## Main definitions

* `Marked.keep`: the marked items
* `Marked.rank`, `Marked.renumber`: where they are found

## Main results

* `Marked.getElem?_keep`, `Marked.keep_modify_of_marked`: a marked item is found at its rank
* `Marked.rank_inj`: ranks tell marked items apart
-/

namespace ChatRouting.Marked

/-- The marked items, in order. -/
def keep {α : Type} : List Bool → List α → List α
  | true :: m, a :: l => a :: keep m l
  | false :: m, _ :: l => keep m l
  | _, _ => []

/-- The number of marked items before a place. -/
def rank (m : List Bool) (n : Nat) : Nat :=
  (m.take n).count true

/-- The ranks of the places that are marked. -/
def renumber (m : List Bool) (ns : List Nat) : List Nat :=
  (ns.filter fun n => m[n]? = some true).map (rank m)

variable {α : Type} {m m' : List Bool} {n k : Nat}

/-- Marks that are added leave a mark as it is. -/
theorem getElem?_extend {b : Bool} (h : m[n]? = some b) (m' : List Bool) :
    (m ++ m')[n]? = some b := by
  rw [List.getElem?_append_left (List.getElem?_eq_some_iff.mp h).1, h]

/-! ### The items that are kept -/

theorem keep_append {l l' : List α} (h : m.length = l.length) :
    keep (m ++ m') (l ++ l') = keep m l ++ keep m' l' := by
  induction m generalizing l with
  | nil =>
    obtain rfl := List.length_eq_zero_iff.mp h.symm
    rfl
  | cons b m ih =>
    cases l with
    | nil => cases h
    | cons a l =>
      have hrest := ih (Nat.succ.inj h)
      cases b with
      | false => exact hrest
      | true => exact congrArg (a :: ·) hrest

theorem keep_nil (m : List Bool) : keep m ([] : List α) = [] := by
  rcases m with _ | ⟨_ | _, m⟩ <;> rfl

/-! ### Ranks -/

theorem rank_zero (m : List Bool) : rank m 0 = 0 := by
  rw [rank, List.take_zero, List.count_nil]

theorem rank_cons (b : Bool) (m : List Bool) (n : Nat) :
    rank (b :: m) (n + 1) = b.toNat + rank m n := by
  cases b
  · simp [rank]
  · simp [rank, Nat.add_comm]

theorem length_keep {l : List α} (h : m.length = l.length) :
    (keep m l).length = rank m l.length := by
  induction m generalizing l with
  | nil =>
    obtain rfl := List.length_eq_zero_iff.mp h.symm
    rfl
  | cons b m ih =>
    cases l with
    | nil => cases h
    | cons a l =>
      have hrest := ih (Nat.succ.inj h)
      rw [List.length_cons, rank_cons, ← hrest]
      cases b with
      | false => exact (Nat.zero_add _).symm
      | true => exact Nat.add_comm _ _

/-- What comes later does not change a rank. -/
theorem rank_append (h : n ≤ m.length) : rank (m ++ m') n = rank m n := by
  rw [rank, rank, List.take_append_of_le_length h]

theorem rank_extend {b : Bool} (h : m[n]? = some b) (m' : List Bool) :
    rank (m ++ m') n = rank m n :=
  rank_append (Nat.le_of_lt (List.getElem?_eq_some_iff.mp h).1)

theorem rank_lt_rank (hn : m[n]? = some true) (h : n < k) : rank m n < rank m k := by
  induction m generalizing n k with
  | nil => cases hn
  | cons b m ih =>
    obtain ⟨k, rfl⟩ := Nat.exists_eq_add_of_lt h
    cases n with
    | zero =>
      obtain rfl : b = true := Option.some.inj hn
      rw [rank_zero, rank_cons]
      exact Nat.lt_add_right _ Nat.one_pos
    | succ n =>
      rw [rank_cons, rank_cons]
      exact Nat.add_lt_add_left (ih (n := n) hn (by omega)) _

/-- Ranks tell marked items apart. -/
theorem rank_inj (hn : m[n]? = some true) (hk : m[k]? = some true) (h : rank m n = rank m k) :
    n = k := by
  rcases Nat.lt_trichotomy n k with hlt | heq | hlt
  · exact absurd h (Nat.ne_of_lt (rank_lt_rank hn hlt))
  · exact heq
  · exact absurd h.symm (Nat.ne_of_lt (rank_lt_rank hk hlt))

/-- A marked item is found at its rank. -/
theorem getElem?_keep (hn : m[n]? = some true) (l : List α) : (keep m l)[rank m n]? = l[n]? := by
  induction m generalizing n l with
  | nil => cases hn
  | cons b m ih =>
    cases l with
    | nil => rw [keep_nil, List.getElem?_nil, List.getElem?_nil]
    | cons a l =>
      cases n with
      | zero =>
        obtain rfl : b = true := Option.some.inj hn
        rw [rank_zero, keep]
        rfl
      | succ n =>
        rw [rank_cons, List.getElem?_cons_succ, ← ih (n := n) hn]
        cases b with
        | false => rw [keep, Bool.toNat_false, Nat.zero_add]
        | true => rw [keep, Bool.toNat_true, Nat.add_comm, List.getElem?_cons_succ]

theorem keep_modify_of_marked (hn : m[n]? = some true) (l : List α) (f : α → α) :
    keep m (l.modify n f) = (keep m l).modify (rank m n) f := by
  induction m generalizing n l with
  | nil => cases hn
  | cons b m ih =>
    cases l with
    | nil => rw [List.modify_nil, keep_nil, List.modify_nil]
    | cons a l =>
      cases n with
      | zero =>
        obtain rfl : b = true := Option.some.inj hn
        rw [rank_zero, keep, List.modify_zero_cons, keep, List.modify_zero_cons]
      | succ n =>
        have hrest := ih (n := n) hn l
        rw [rank_cons, List.modify_succ_cons]
        cases b with
        | false => rw [keep, keep, Bool.toNat_false, Nat.zero_add, hrest]
        | true =>
          rw [keep, keep, Bool.toNat_true, Nat.add_comm, List.modify_succ_cons, hrest]

/-- An item that is not marked may change. -/
theorem keep_modify_of_unmarked (hn : m[n]? ≠ some true) (l : List α) (f : α → α) :
    keep m (l.modify n f) = keep m l := by
  induction m generalizing n l with
  | nil => rfl
  | cons b m ih =>
    cases l with
    | nil => rw [List.modify_nil]
    | cons a l =>
      cases n with
      | zero =>
        obtain rfl : b = false := by simpa using hn
        rw [List.modify_zero_cons, keep, keep]
      | succ n =>
        have hrest := ih (n := n) hn l
        rw [List.modify_succ_cons]
        cases b with
        | false => rw [keep, keep, hrest]
        | true => rw [keep, keep, hrest]

/-! ### Lists of places -/

theorem renumber_cons_of_marked (hn : m[n]? = some true) (ns : List Nat) :
    renumber m (n :: ns) = rank m n :: renumber m ns := by
  rw [renumber, List.filter_cons_of_pos (by simpa using hn), List.map_cons, renumber]

theorem renumber_cons_of_unmarked (hn : m[n]? ≠ some true) (ns : List Nat) :
    renumber m (n :: ns) = renumber m ns := by
  rw [renumber, List.filter_cons_of_neg (by simpa using hn), renumber]

theorem renumber_append (m : List Bool) (ns ns' : List Nat) :
    renumber m (ns ++ ns') = renumber m ns ++ renumber m ns' := by
  rw [renumber, List.filter_append, List.map_append, renumber, renumber]

/-- Marks that are added do not matter to places before them. -/
theorem renumber_extend {ns : List Nat} (h : ∀ n ∈ ns, n < m.length) :
    renumber (m ++ m') ns = renumber m ns := by
  rw [renumber, renumber, List.filter_congr fun n hn => by rw [List.getElem?_append_left (h n hn)]]
  exact List.map_congr_left fun n hn =>
    rank_append (Nat.le_of_lt (h n (List.mem_filter.mp hn).1))

theorem renumber_without_marked (hn : m[n]? = some true) (ns : List Nat) :
    renumber m (ns.filter (· ≠ n)) = (renumber m ns).filter (· ≠ rank m n) := by
  induction ns with
  | nil => rfl
  | cons k ns ih =>
    by_cases hk : m[k]? = some true
    · by_cases hkn : k = n
      · subst hkn
        rw [List.filter_cons_of_neg (by simp), renumber_cons_of_marked hk,
          List.filter_cons_of_neg (by simp), ih]
      · have hrank : rank m k ≠ rank m n := fun h => hkn (rank_inj hk hn h)
        rw [List.filter_cons_of_pos (by simpa using hkn), renumber_cons_of_marked hk,
          renumber_cons_of_marked hk, List.filter_cons_of_pos (by simpa using hrank), ih]
    · by_cases hkn : k = n
      · exact absurd (hkn ▸ hn) hk
      · rw [List.filter_cons_of_pos (by simpa using hkn), renumber_cons_of_unmarked hk,
          renumber_cons_of_unmarked hk, ih]

theorem renumber_without_unmarked (hn : m[n]? ≠ some true) (ns : List Nat) :
    renumber m (ns.filter (· ≠ n)) = renumber m ns := by
  induction ns with
  | nil => rfl
  | cons k ns ih =>
    by_cases hkn : k = n
    · subst hkn
      rw [List.filter_cons_of_neg (by simp), renumber_cons_of_unmarked hn, ih]
    · rw [List.filter_cons_of_pos (by simpa using hkn)]
      by_cases hk : m[k]? = some true
      · rw [renumber_cons_of_marked hk, renumber_cons_of_marked hk, ih]
      · rw [renumber_cons_of_unmarked hk, renumber_cons_of_unmarked hk, ih]

end ChatRouting.Marked
