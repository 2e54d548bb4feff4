import ChatRouting.Session.Registry
import ChatRouting.Proofs.Table
import Mathlib.Data.List.Nodup

/-!
# The order of the sessions

A registry is *well kept* when each session stands under its own id, which is not empty, no id
and no place in the order of creation comes twice, and the next place is above all places there
are. Of a well kept registry the listing is the only list of its entries in strictly increasing
order of places. So what an operation does to the listing can be read off the entries: a new
session comes last, a changed one stays where it is, and a forgotten one leaves no gap.

## Main definitions

* `Registry.WellKept`

## Main results

* `Registry.ordered_eq_of_perm`: the listing is determined by the entries
* `Registry.list_insert`, `Registry.list_replace`, `Registry.list_forget`
* `Registry.find?_eq_some_iff`: look-ups find what is listed
-/

namespace ChatRouting.Registry

/-- Each session stands under its own id, which is not empty, ids and places are distinct, and
the next place is above all others. -/
structure WellKept (r : Registry) : Prop where
  key : ∀ p ∈ r.entries, p.2.session.id = p.1
  named : ∀ p ∈ r.entries, p.1 ≠ ""
  distinct : (r.entries.map Prod.fst).Nodup
  places : (r.entries.map fun p => p.2.place).Nodup
  below : ∀ p ∈ r.entries, p.2.place < r.nextPlace

variable {r : Registry} {s : Session} {id : String}

/-! ### Look-ups -/

theorem contains_eq_isSome_find? (r : Registry) (id : String) :
    r.contains id = (r.find? id).isSome := by
  rw [contains, find?, Option.isSome_map]

theorem find?_insert (r : Registry) (s : Session) (id : String) :
    (r.insert s).find? id = if id = s.id then some s else r.find? id := by
  simp only [find?, insert, List.lookup_cons]
  split_ifs with h
  · subst h
    simp
  · rw [beq_eq_false_iff_ne.mpr h]

theorem find?_replace (r : Registry) (s : Session) (id : String) :
    (r.replace s).find? id = if id = s.id then (r.find? id).map fun _ => s else r.find? id := by
  have h := Table.lookup_mapValues r.entries
    (fun key e => if key = s.id then { e with session := s } else e) id
  change ((r.replace s).entries.lookup id).map Entry.session = _
  rw [show (r.replace s).entries.lookup id = _ from h, Option.map_map, find?]
  split_ifs with hid
  · rw [Option.map_map]
    simp only [hid, Function.comp_def]
  · simp only [Function.comp_def]

theorem find?_forget (r : Registry) (id other : String) :
    (r.forget id).find? other = if other = id then none else r.find? other := by
  simp only [find?, forget, Table.lookup_without]
  split_ifs
  · rfl
  · rfl

/-- The session that is found under an id has that id. -/
theorem WellKept.id_of_find? (h : r.WellKept) (hf : r.find? id = some s) : s.id = id := by
  obtain ⟨e, he, rfl⟩ := Option.map_eq_some_iff.mp hf
  exact h.key _ (Table.mem_of_lookup he)

/-- Nothing is found under the empty id. -/
theorem WellKept.ne_empty_of_find? (h : r.WellKept) (hf : r.find? id = some s) : id ≠ "" := by
  obtain ⟨e, he, rfl⟩ := Option.map_eq_some_iff.mp hf
  exact h.named _ (Table.mem_of_lookup he)

/-! ### The invariant -/

theorem wellKept_empty : WellKept {} where
  key := by simp
  named := by simp
  distinct := by simp
  places := by simp
  below := by simp

theorem WellKept.insert (h : r.WellKept) (hid : s.id ≠ "") (hs : r.find? s.id = none) :
    (r.insert s).WellKept where
  key := by
    intro p hp
    rcases List.mem_cons.mp hp with rfl | hp
    · rfl
    · exact h.key p hp
  named := by
    intro p hp
    rcases List.mem_cons.mp hp with rfl | hp
    · exact hid
    · exact h.named p hp
  distinct := by
    refine List.nodup_cons.mpr ⟨fun hm => ?_, h.distinct⟩
    obtain ⟨p, hp, hk⟩ := List.mem_map.mp hm
    have hl := (Table.lookup_eq_some_iff_mem h.distinct).mpr hp
    rw [show p.1 = s.id from hk] at hl
    rw [find?, hl] at hs
    cases hs
  places := by
    refine List.nodup_cons.mpr ⟨fun hm => ?_, h.places⟩
    obtain ⟨p, hp, hk⟩ := List.mem_map.mp hm
    exact absurd hk (Nat.ne_of_lt (h.below p hp))
  below := by
    intro p hp
    rcases List.mem_cons.mp hp with rfl | hp
    · exact Nat.lt_succ_self _
    · exact Nat.lt_succ_of_lt (h.below p hp)

/-- A replacement moves no entry and gives none another place. -/
theorem map_replace {β : Type} (f : String → Nat → β) (r : Registry) (s : Session) :
    (r.replace s).entries.map (fun p => f p.1 p.2.place) =
      r.entries.map fun p => f p.1 p.2.place := by
  rw [replace, List.map_map]
  refine List.map_congr_left fun p _ => ?_
  simp only [Function.comp_apply]
  split_ifs
  · rfl
  · rfl

theorem WellKept.replace (h : r.WellKept) (s : Session) : (r.replace s).WellKept where
  key := by
    intro p hp
    obtain ⟨q, hq, rfl⟩ := List.mem_map.mp hp
    by_cases hk : q.1 = s.id
    · simp [hk]
    · simpa [hk] using h.key q hq
  named := by
    intro p hp
    obtain ⟨q, hq, rfl⟩ := List.mem_map.mp hp
    exact h.named q hq
  distinct := by
    have hm := map_replace (fun key _ => key) r s
    exact hm.symm ▸ h.distinct
  places := by
    have hm := map_replace (fun _ place => place) r s
    exact hm.symm ▸ h.places
  below := by
    intro p hp
    have hm : p.2.place ∈ r.entries.map fun p => p.2.place := by
      rw [← map_replace (fun _ place => place) r s]
      exact List.mem_map_of_mem hp
    obtain ⟨q, hq, he⟩ := List.mem_map.mp hm
    exact he ▸ h.below q hq

theorem WellKept.forget (h : r.WellKept) (id : String) : (r.forget id).WellKept where
  key p hp := h.key p (List.mem_filter.mp hp).1
  named p hp := h.named p (List.mem_filter.mp hp).1
  distinct := (List.filter_sublist.map _).nodup h.distinct
  places := (List.filter_sublist.map _).nodup h.places
  below p hp := h.below p (List.mem_filter.mp hp).1

/-! ### The listing -/

theorem ordered_perm (r : Registry) : r.ordered.Perm (r.entries.map Prod.snd) :=
  List.mergeSort_perm _ _

theorem ordered_pairwise_le (r : Registry) :
    r.ordered.Pairwise fun a b => a.place ≤ b.place := by
  have h : r.ordered.Pairwise fun a b => decide (a.place ≤ b.place) = true :=
    List.pairwise_mergeSort (by simpa using fun _ _ _ => Nat.le_trans)
      (by simpa using fun _ _ => Nat.le_total _ _) _
  simpa only [decide_eq_true_eq] using h

theorem WellKept.places_ordered (h : r.WellKept) : (r.ordered.map Entry.place).Nodup := by
  have hp := (ordered_perm r).map Entry.place
  rw [List.map_map] at hp
  exact hp.nodup_iff.mpr h.places

/-- The listing is strictly increasing in the places. -/
theorem WellKept.ordered_pairwise_lt (h : r.WellKept) :
    r.ordered.Pairwise fun a b => a.place < b.place := by
  have hne := List.pairwise_map.mp h.places_ordered
  exact (ordered_pairwise_le r).imp₂ (fun _ _ hle hne => Nat.lt_of_le_of_ne hle hne) hne

/-- The listing is the only list of the entries that is strictly increasing in the places. -/
theorem ordered_eq_of_perm {l : List Entry} (hp : l.Perm (r.entries.map Prod.snd))
    (hl : l.Pairwise fun a b => a.place < b.place) : r.ordered = l := by
  refine ((ordered_perm r).trans hp.symm).eq_of_pairwise (fun a b ha hb hab hba => ?_)
    (ordered_pairwise_le r) (hl.imp Nat.le_of_lt)
  have hinj := List.inj_on_of_nodup_map (List.pairwise_map.mpr (hl.imp Nat.ne_of_lt))
  have ha' : a ∈ l := ((ordered_perm r).trans hp.symm).mem_iff.mp ha
  exact hinj ha' hb (Nat.le_antisymm hab hba)

/-- A new session is listed last. -/
theorem WellKept.list_insert (h : r.WellKept) (s : Session) :
    (r.insert s).list = r.list ++ [s] := by
  have ho : (r.insert s).ordered = r.ordered ++ [{ place := r.nextPlace, session := s }] := by
    refine ordered_eq_of_perm ?_ ?_
    · exact List.perm_append_singleton _ _ |>.trans ((ordered_perm r).cons _)
    · rw [List.pairwise_append]
      refine ⟨h.ordered_pairwise_lt, List.pairwise_singleton _ _, fun a ha b hb => ?_⟩
      obtain ⟨p, hp, rfl⟩ := List.mem_map.mp ((ordered_perm r).mem_iff.mp ha)
      rw [List.mem_singleton.mp hb]
      exact h.below p hp
  rw [list, ho, List.map_append]
  rfl

/-- A replaced session stays where it is in the listing. -/
theorem WellKept.list_replace (h : r.WellKept) (s : Session) :
    (r.replace s).list = r.list.map fun t => if t.id = s.id then s else t := by
  have ho : (r.replace s).ordered =
      r.ordered.map fun e => if e.session.id = s.id then { e with session := s } else e := by
    refine ordered_eq_of_perm ?_ ?_
    · have hp := (ordered_perm r).map fun e : Entry =>
        if e.session.id = s.id then { e with session := s } else e
      refine hp.trans (List.Perm.of_eq ?_)
      rw [Registry.replace, List.map_map, List.map_map]
      refine List.map_congr_left fun p hm => ?_
      simp only [Function.comp_apply, h.key p hm]
    · refine List.pairwise_map.mpr (h.ordered_pairwise_lt.imp fun {a b} hab => ?_)
      split_ifs
      all_goals exact hab
  rw [list, ho, list, List.map_map, List.map_map]
  refine List.map_congr_left fun e _ => ?_
  simp only [Function.comp_apply]
  split_ifs
  · rfl
  · rfl

/-- A forgotten session is listed no more, and the others stay in order. -/
theorem WellKept.list_forget (h : r.WellKept) (id : String) :
    (r.forget id).list = r.list.filter fun t => t.id != id := by
  have ho : (r.forget id).ordered = r.ordered.filter fun e => e.session.id != id := by
    refine ordered_eq_of_perm ?_ (h.ordered_pairwise_lt.filter _)
    refine ((ordered_perm r).filter _).trans (List.Perm.of_eq ?_)
    rw [Registry.forget, List.filter_map]
    congr 1
    refine List.filter_congr fun p hp => ?_
    simp only [Function.comp_apply, h.key p hp]
  rw [list, ho, list, List.filter_map]
  rfl

theorem length_list (r : Registry) : r.list.length = r.size := by
  rw [list, List.length_map, (ordered_perm r).length_eq, List.length_map, size]

/-- A look-up finds a session exactly if it is listed and has the id. -/
theorem WellKept.find?_eq_some_iff (h : r.WellKept) :
    r.find? id = some s ↔ s ∈ r.list ∧ s.id = id := by
  constructor
  · intro hf
    refine ⟨?_, h.id_of_find? hf⟩
    obtain ⟨e, he, rfl⟩ := Option.map_eq_some_iff.mp hf
    refine List.mem_map_of_mem ((ordered_perm r).mem_iff.mpr ?_)
    exact List.mem_map_of_mem (Table.mem_of_lookup he)
  · rintro ⟨hm, rfl⟩
    obtain ⟨e, he, rfl⟩ := List.mem_map.mp hm
    obtain ⟨p, hp, rfl⟩ := List.mem_map.mp ((ordered_perm r).mem_iff.mp he)
    have hl := (Table.lookup_eq_some_iff_mem h.distinct).mpr hp
    rw [find?, h.key p hp, hl]
    rfl

end ChatRouting.Registry
