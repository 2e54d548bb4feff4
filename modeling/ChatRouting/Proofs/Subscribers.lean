import ChatRouting.Proofs.Endpoint.Change

/-!
# Who is on the list of subscribers

A router keeps every subscriber that there ever was under a number, and a list of the numbers of
those that are served. The list is *exact* when it has just the subscribers that are active, and
nobody once the router is closed. Whatever happens to an endpoint keeps the list exact, takes no
number back, makes no subscriber active again, and opens no router again.

## Main definitions

* `Router.Exact`
* `Router.Precedes`: what is true of a router and any later state of it

## Main results

* `Endpoint.Moves.exact`, `Endpoint.Moves.precedes`
-/

namespace ChatRouting

namespace Router

/-- The list has just the subscribers that are active, and nobody once the router is closed. -/
structure Exact (r : Router) : Prop extends r.Orderly where
  mem_listed_iff : ∀ n, n ∈ r.listed ↔ r.isActive n = true
  empty_of_closed : r.closed = true → r.listed = []

/-- Nothing that a router has given up comes back later. -/
structure Precedes (r r' : Router) : Prop where
  known : r.subscribers.length ≤ r'.subscribers.length
  inactive : ∀ n < r.subscribers.length, r.isActive n = false → r'.isActive n = false
  closed : r.closed = true → r'.closed = true

variable {r r' r'' : Router}

theorem Precedes.refl (r : Router) : r.Precedes r :=
  ⟨Nat.le_refl _, fun _ _ h => h, fun h => h⟩

theorem Precedes.trans (h : r.Precedes r') (h' : r'.Precedes r'') : r.Precedes r'' where
  known := Nat.le_trans h.known h'.known
  inactive n hn hi := h'.inactive n (Nat.lt_of_lt_of_le hn h.known) (h.inactive n hn hi)
  closed hc := h'.closed (h.closed hc)

/-! ### Who is active -/

theorem length_modify (r : Router) (n : Nat) (f : Subscriber → Subscriber) :
    (r.modify n f).subscribers.length = r.subscribers.length :=
  List.length_modify f r.subscribers n

theorem isActive_modify {f : Subscriber → Subscriber} (hf : ∀ s, (f s).active = s.active)
    (r : Router) (n m : Nat) : (r.modify n f).isActive m = r.isActive m := by
  rw [isActive, isActive, modify, List.getElem?_modify]
  cases r.subscribers[m]? with
  | none => rfl
  | some s =>
    by_cases hnm : n = m
    · simp [hnm, hf]
    · simp [hnm]

theorem isActive_deactivate (r : Router) (n m : Nat) :
    (r.deactivate n).isActive m = (decide (m ≠ n) && r.isActive m) := by
  rw [isActive, isActive, deactivate, modify, List.getElem?_modify]
  cases r.subscribers[m]? with
  | none => simp
  | some s =>
    by_cases hnm : n = m
    · simp [hnm]
    · simp [hnm, Ne.symm hnm]

theorem isActive_subscribe (r : Router) (sink : Sink) (m : Nat) :
    (r.subscribe sink).2.isActive m =
      if m = r.subscribers.length then !r.closed else r.isActive m := by
  rw [isActive, isActive, subscribe, List.getElem?_append]
  split_ifs with hlt heq heq
  · exact absurd hlt (heq ▸ Nat.lt_irrefl _)
  · rfl
  · simp [heq]
  · have hgt : r.subscribers.length < m := Nat.lt_of_le_of_ne (Nat.le_of_not_lt hlt) (Ne.symm heq)
    rw [List.getElem?_eq_none (Nat.le_of_not_lt hlt), List.getElem?_eq_none]
    exact Nat.le_sub_of_add_le (Nat.add_comm _ _ ▸ hgt)

theorem lt_of_isActive {n : Nat} (h : r.isActive n = true) : n < r.subscribers.length := by
  refine Nat.lt_of_not_le fun hle => ?_
  rw [isActive, List.getElem?_eq_none hle] at h
  cases h

theorem length_dropReceiver (r : Router) (n : Nat) :
    (r.dropReceiver n).subscribers.length = r.subscribers.length :=
  r.length_modify n _

theorem isActive_dropReceiver (r : Router) (n m : Nat) :
    (r.dropReceiver n).isActive m = r.isActive m := by
  refine isActive_modify (fun s => ?_) r n m
  split
  · rfl
  · rfl

/-- Taking out what waits in a channel changes a sink at most. -/
theorem receive_eq (r : Router) (n : Nat) :
    (r.receive n).2 = r ∨ ∃ sink, (r.receive n).2 = r.modify n fun s => { s with sink } := by
  rw [receive]
  split
  · exact Or.inr ⟨_, rfl⟩
  · exact Or.inl rfl

theorem length_receive (r : Router) (n : Nat) :
    (r.receive n).2.subscribers.length = r.subscribers.length := by
  rcases r.receive_eq n with h | ⟨sink, h⟩
  · rw [h]
  · rw [h, length_modify]

theorem isActive_receive (r : Router) (n m : Nat) : (r.receive n).2.isActive m = r.isActive m := by
  rcases r.receive_eq n with h | ⟨sink, h⟩
  · rw [h]
  · rw [h]
    exact isActive_modify (f := fun s => { s with sink }) (fun _ => rfl) r n m

theorem listed_receive (r : Router) (n : Nat) : (r.receive n).2.listed = r.listed := by
  rcases r.receive_eq n with h | ⟨sink, h⟩
  · rw [h]
  · rw [h]
    rfl

theorem closed_receive (r : Router) (n : Nat) : (r.receive n).2.closed = r.closed := by
  rcases r.receive_eq n with h | ⟨sink, h⟩
  · rw [h]
  · rw [h]
    rfl

/-! ### Closing -/

theorem length_foldl_deactivate (ns : List Nat) (r : Router) :
    (ns.foldl deactivate r).subscribers.length = r.subscribers.length := by
  induction ns generalizing r with
  | nil => rfl
  | cons n ns ih => exact (ih _).trans (r.length_modify n _)

theorem isActive_foldl_deactivate (ns : List Nat) (r : Router) (m : Nat) :
    (ns.foldl deactivate r).isActive m = (decide (m ∉ ns) && r.isActive m) := by
  induction ns generalizing r with
  | nil => simp
  | cons n ns ih =>
    rw [List.foldl_cons, ih, isActive_deactivate, ← Bool.and_assoc]
    congr 1
    simp [Bool.and_comm]

theorem listed_foldl_deactivate (ns : List Nat) (r : Router) :
    (ns.foldl deactivate r).listed = r.listed.filter (· ∉ ns) := by
  induction ns generalizing r with
  | nil => exact (List.filter_eq_self.mpr fun _ _ => rfl).symm
  | cons n ns ih =>
    rw [List.foldl_cons, ih, deactivate, List.filter_filter]
    congr 1
    funext m
    simp [Bool.and_comm]

theorem length_close (r : Router) : r.close.subscribers.length = r.subscribers.length :=
  length_foldl_deactivate r.listed r

theorem isActive_close (r : Router) (m : Nat) :
    r.close.isActive m = (decide (m ∉ r.listed) && r.isActive m) :=
  isActive_foldl_deactivate r.listed r m

theorem listed_close (r : Router) : r.close.listed = [] := by
  have hall := listed_foldl_deactivate r.listed r
  rw [close, hall, List.filter_eq_nil_iff]
  intro n hn
  simpa using hn

/-! ### What the list says stays true -/

theorem Exact.of_eq (h : r.Exact) (hlength : r'.subscribers.length = r.subscribers.length)
    (hlisted : r'.listed = r.listed) (hactive : ∀ n, r'.isActive n = r.isActive n)
    (hclosed : r'.closed = r.closed) : r'.Exact where
  toOrderly := orderly_of_listed_eq h.toOrderly hlisted hlength
  mem_listed_iff n := by rw [hlisted, hactive, h.mem_listed_iff]
  empty_of_closed hc := by rw [hlisted, h.empty_of_closed (hclosed ▸ hc)]

theorem Precedes.of_eq (hlength : r'.subscribers.length = r.subscribers.length)
    (hactive : ∀ n, r'.isActive n = r.isActive n) (hclosed : r'.closed = r.closed) :
    r.Precedes r' where
  known := Nat.le_of_eq hlength.symm
  inactive n _ hn := (hactive n).trans hn
  closed hc := hclosed.trans hc

theorem Exact.subscribe (h : r.Exact) (sink : Sink) : (r.subscribe sink).2.Exact where
  toOrderly := h.toOrderly.subscribe sink
  mem_listed_iff n := by
    rw [isActive_subscribe, Router.subscribe]
    cases hclosed : r.closed with
    | true =>
      -- A subscriber of a closed router is inactive from the beginning.
      simp only [if_true, h.mem_listed_iff]
      by_cases hn : n = r.subscribers.length
      · subst hn
        have hnobody : r.isActive r.subscribers.length = false :=
          Bool.eq_false_iff.mpr fun ha => Nat.lt_irrefl _ (lt_of_isActive ha)
        simp [hnobody]
      · simp [hn]
    | false =>
      simp only [Bool.false_eq_true, if_false, List.mem_append, List.mem_singleton,
        h.mem_listed_iff]
      by_cases hn : n = r.subscribers.length
      · simp [hn]
      · simp [hn]
  empty_of_closed hc := by
    have hclosed : r.closed = true := hc
    rw [Router.subscribe, if_pos hclosed]
    exact h.empty_of_closed hclosed

theorem Exact.deactivate (h : r.Exact) (n : Nat) : (r.deactivate n).Exact where
  toOrderly := h.toOrderly.deactivate n
  mem_listed_iff m := by
    have hlisted : (r.deactivate n).listed = r.listed.filter (· ≠ n) := rfl
    rw [isActive_deactivate, hlisted, List.mem_filter, h.mem_listed_iff, Bool.and_eq_true,
      and_comm]
  empty_of_closed hc := by
    have hclosed : r.closed = true := hc
    rw [Router.deactivate, h.empty_of_closed hclosed]
    rfl

theorem Exact.close (h : r.Exact) : r.close.Exact where
  toOrderly := h.toOrderly.close
  mem_listed_iff n := by
    rw [listed_close, isActive_close]
    by_cases hn : n ∈ r.listed
    · simp [hn]
    · simpa [hn] using mt (h.mem_listed_iff n).mpr hn
  empty_of_closed _ := r.listed_close

theorem Adjusts.exact (h : r.Adjusts r') (he : r.Exact) : r'.Exact := by
  cases h with
  | subscribe sink => exact he.subscribe sink
  | dropReceiver n =>
    exact he.of_eq (r.length_dropReceiver n) rfl (r.isActive_dropReceiver n) rfl
  | receive n =>
    exact he.of_eq (r.length_receive n) (r.listed_receive n) (r.isActive_receive n)
      (r.closed_receive n)
  | deactivate n => exact he.deactivate n
  | close => exact he.close

theorem precedes_subscribe (r : Router) (sink : Sink) : r.Precedes (r.subscribe sink).2 where
  known := by
    rw [subscribe, List.length_append]
    exact Nat.le_add_right _ _
  inactive n hn hi := by rwa [isActive_subscribe, if_neg (Nat.ne_of_lt hn)]
  closed hc := hc

theorem precedes_deactivate (r : Router) (n : Nat) : r.Precedes (r.deactivate n) where
  known := Nat.le_of_eq (r.length_modify n _).symm
  inactive m _ hm := by rw [isActive_deactivate, hm, Bool.and_false]
  closed hc := hc

theorem precedes_close (r : Router) : r.Precedes r.close where
  known := Nat.le_of_eq r.length_close.symm
  inactive m _ hm := by rw [isActive_close, hm, Bool.and_false]
  closed _ := rfl

theorem Adjusts.precedes (h : r.Adjusts r') : r.Precedes r' := by
  cases h with
  | subscribe sink => exact r.precedes_subscribe sink
  | dropReceiver n => exact .of_eq (r.length_dropReceiver n) (r.isActive_dropReceiver n) rfl
  | receive n => exact .of_eq (r.length_receive n) (r.isActive_receive n) (r.closed_receive n)
  | deactivate n => exact r.precedes_deactivate n
  | close => exact r.precedes_close

end Router

namespace Endpoint

variable {e e' : Endpoint}

/-- A move changes the subscribers of the router, or neither who is active nor whether the router
is closed. -/
theorem Move.subscribers (h : Move e e') :
    e.router.Adjusts e'.router ∨
      e'.router.subscribers.length = e.router.subscribers.length ∧
      e'.router.listed = e.router.listed ∧
      (∀ n, e'.router.isActive n = e.router.isActive n) ∧
      e'.router.closed = e.router.closed := by
  cases h with
  | change h =>
    rcases h.router with ⟨registry, hr⟩ | hr
    · rw [hr]
      exact Or.inr ⟨rfl, rfl, fun _ => rfl, rfl⟩
    · exact Or.inl hr
  | take | mark => exact Or.inr ⟨rfl, rfl, fun _ => rfl, rfl⟩
  | classify event localId peer =>
    obtain ⟨registry, hr⟩ := e.router.exists_classify_eq event localId peer
    generalize (e.router.classify event localId peer).2 = router at hr ⊢
    subst hr
    exact Or.inr ⟨rfl, rfl, fun _ => rfl, rfl⟩
  | turn n sink =>
    exact Or.inr ⟨e.router.length_modify n _, rfl,
      Router.isActive_modify (f := fun s => { s with sink }) (fun _ => rfl) e.router n, rfl⟩

theorem Move.exact (h : Move e e') (he : e.router.Exact) : e'.router.Exact := by
  rcases h.subscribers with hr | ⟨hlength, hlisted, hactive, hclosed⟩
  · exact hr.exact he
  · exact he.of_eq hlength hlisted hactive hclosed

theorem Move.precedes (h : Move e e') : e.router.Precedes e'.router := by
  rcases h.subscribers with hr | ⟨hlength, -, hactive, hclosed⟩
  · exact hr.precedes
  · exact .of_eq hlength hactive hclosed

/-- Whatever happens, the list of subscribers stays exact. -/
theorem Moves.exact (h : Moves e e') (he : e.router.Exact) : e'.router.Exact := by
  induction h with
  | refl => exact he
  | tail _ hmove ih => exact hmove.exact ih

/-- Whatever happens, nothing that the router has given up comes back. -/
theorem Moves.precedes (h : Moves e e') : e.router.Precedes e'.router := by
  induction h with
  | refl => exact .refl _
  | tail _ hmove ih => exact ih.trans hmove.precedes

end Endpoint

end ChatRouting
