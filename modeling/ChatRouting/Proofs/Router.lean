import ChatRouting.Router
import Mathlib.Tactic.SplitIfs

/-!
# The list of subscribers

The router serves the subscribers on its list in the order in which they stand there. The list
is *orderly*: the numbers on it increase, so that nobody is on it twice, and they are numbers of
subscribers that there are. Whatever is done with the subscribers keeps the list orderly, and
none of it touches the sessions or the mark of a delivery under way.

## Main definitions

* `Router.Adjusts`: the subscribers change
* `Router.Orderly`

## Main results

* `Router.Adjusts.orderly`, `Router.Adjusts.eq`
* `Router.classify_eq`: what the judgement of an event changes
-/

namespace ChatRouting.Router

/-- The subscribers of a router change, and nothing else but whether it is closed. -/
inductive Adjusts (r : Router) : Router → Prop
  | subscribe (sink : Sink) : Adjusts r (r.subscribe sink).2
  | dropReceiver (n : Nat) : Adjusts r (r.dropReceiver n)
  | receive (n : Nat) : Adjusts r (r.receive n).2
  | deactivate (n : Nat) : Adjusts r (r.deactivate n)
  | close : Adjusts r r.close

/-- The numbers on the list increase, and each is the number of a subscriber. -/
structure Orderly (r : Router) : Prop where
  increasing : r.listed.Pairwise (· < ·)
  known : ∀ n ∈ r.listed, n < r.subscribers.length

variable {r r' : Router}

theorem orderly_of_listed_eq (h : r.Orderly) (hl : r'.listed = r.listed)
    (hs : r'.subscribers.length = r.subscribers.length) : r'.Orderly where
  increasing := hl ▸ h.increasing
  known := by simpa only [hl, hs] using h.known

/-- A new subscriber has a number above all others. -/
theorem Orderly.subscribe (h : r.Orderly) (sink : Sink) : (r.subscribe sink).2.Orderly := by
  have hknown (n : Nat) (hn : n ∈ r.listed) : n < r.subscribers.length + 1 :=
    Nat.lt_succ_of_lt (h.known n hn)
  rw [Router.subscribe]
  refine ⟨?_, ?_⟩
  · simp only
    split_ifs
    · exact h.increasing
    · refine List.pairwise_append.mpr ⟨h.increasing, List.pairwise_singleton _ _, ?_⟩
      intro n hn m hm
      rw [List.mem_singleton.mp hm]
      exact h.known n hn
  · intro n hn
    simp only [List.length_append, List.length_singleton]
    simp only at hn
    split_ifs at hn
    · exact hknown n hn
    · rcases List.mem_append.mp hn with hn | hn
      · exact hknown n hn
      · rw [List.mem_singleton.mp hn]
        exact Nat.lt_succ_self _

theorem Orderly.modify (h : r.Orderly) (n : Nat) (f : Subscriber → Subscriber) :
    (r.modify n f).Orderly :=
  orderly_of_listed_eq h rfl (List.length_modify f r.subscribers n)

theorem Orderly.deactivate (h : r.Orderly) (n : Nat) : (r.deactivate n).Orderly where
  increasing := h.increasing.filter _
  known m hm := (h.modify n _).known m (List.mem_filter.mp hm).1

theorem Orderly.receive (h : r.Orderly) (n : Nat) : (r.receive n).2.Orderly := by
  rw [Router.receive]
  split
  · exact h.modify n _
  · exact h

theorem Orderly.foldl_deactivate (h : r.Orderly) (ns : List Nat) :
    (ns.foldl Router.deactivate r).Orderly := by
  induction ns generalizing r with
  | nil => exact h
  | cons n ns ih => exact ih (h.deactivate n)

theorem Orderly.close (h : r.Orderly) : r.close.Orderly :=
  orderly_of_listed_eq (h.foldl_deactivate r.listed) rfl rfl

theorem Adjusts.orderly (h : r.Adjusts r') (ho : r.Orderly) : r'.Orderly := by
  cases h with
  | subscribe sink => exact ho.subscribe sink
  | dropReceiver n => exact ho.modify n _
  | receive n => exact ho.receive n
  | deactivate n => exact ho.deactivate n
  | close => exact ho.close

theorem foldl_deactivate_eq (ns : List Nat) (r : Router) :
    ∃ subscribers listed, ns.foldl Router.deactivate r = { r with subscribers, listed } := by
  induction ns generalizing r with
  | nil => exact ⟨r.subscribers, r.listed, rfl⟩
  | cons n ns ih =>
    obtain ⟨subscribers, listed, h⟩ := ih (r.deactivate n)
    exact ⟨subscribers, listed, h⟩

/-- The sessions and the mark of a delivery under way stay as they are. -/
theorem Adjusts.eq (h : r.Adjusts r') :
    ∃ subscribers listed closed, r' = { r with subscribers, listed, closed } := by
  cases h with
  | subscribe sink => exact ⟨_, _, r.closed, rfl⟩
  | dropReceiver n => exact ⟨_, r.listed, r.closed, rfl⟩
  | receive n =>
    rw [Router.receive]
    split
    · exact ⟨_, r.listed, r.closed, rfl⟩
    · exact ⟨r.subscribers, r.listed, r.closed, rfl⟩
  | deactivate n => exact ⟨_, _, r.closed, rfl⟩
  | close =>
    obtain ⟨subscribers, listed, hr⟩ := foldl_deactivate_eq r.listed r
    exact ⟨subscribers, listed, true, by rw [Router.close, hr]⟩

theorem accept_eq (r : Router) (m : Message) (localId : String) (peer : Option String) :
    (r.accept m localId peer).2 = r ∨
      ∃ target, m.check = .ok () ∧ r.targetOf m localId peer = .ok target ∧
        (r.accept m localId peer).2 = { r with registry := (r.registry.applyAs m target).2 } := by
  rw [accept]
  split
  · exact Or.inl rfl
  · exact Or.inl rfl
  · next target hcheck htarget => exact Or.inr ⟨target, hcheck, htarget, rfl⟩

/-- Judging an event hands its message to the sessions, if the message can be read, or changes
nothing. -/
theorem classify_eq (r : Router) (event : InboundEvent) (localId : String)
    (peer : Option String) :
    (r.classify event localId peer).2 = r ∨
      ∃ m target, event = .message m ∧ m.check = .ok () ∧
        r.targetOf m localId peer = .ok target ∧
        (r.classify event localId peer).2 =
          { r with registry := (r.registry.applyAs m target).2 } := by
  cases event with
  | transportError message timestamp => exact Or.inl rfl
  | message m =>
    have haccept := r.accept_eq m localId peer
    have hclassify : (r.classify (.message m) localId peer).2 = r ∨
        (r.classify (.message m) localId peer).2 = (r.accept m localId peer).2 := by
      unfold classify
      simp only
      split_ifs
      · exact Or.inl rfl
      · obtain ⟨_ | s, r'⟩ := r.accept m localId peer
        · exact Or.inr rfl
        · exact Or.inr rfl
    rcases hclassify with hsame | hsame
    · exact Or.inl hsame
    · rcases haccept with hr | ⟨target, hcheck, htarget, hr⟩
      · exact Or.inl (hsame.trans hr)
      · exact Or.inr ⟨m, target, rfl, hcheck, htarget, hsame.trans hr⟩

/-- Judging an event leaves the subscribers alone. -/
theorem exists_classify_eq (r : Router) (event : InboundEvent) (localId : String)
    (peer : Option String) :
    ∃ registry, (r.classify event localId peer).2 = { r with registry } := by
  rcases r.classify_eq event localId peer with hr | ⟨m, target, _, _, _, hr⟩
  · exact ⟨r.registry, hr⟩
  · exact ⟨_, hr⟩

end ChatRouting.Router
