import ChatRouting.Host.Delivery
import ChatRouting.Proofs.Subscribers

/-!
# What callbacks can still do

The callbacks of a subscriber perform operations at the deliveries to come, and some of these
subscribe further callbacks. A statement about callbacks of some *kind* is about all of them. It is
kept by whatever becomes of the subscribers, since callbacks are never exchanged for others: a
subscriber keeps its callbacks for the deliveries that are left, loses them with its receiver, or is
new.

The events that callbacks can still queue are counted in the same way. A turn takes its own
operations out of the count, and a subscription puts in those of the new callbacks.

## Main definitions

* `Operation.every`: an operation of some kind, with all that comes of it
* `Router.CallbacksAll`: all callbacks are of some kind
* `Router.Calms`: no callbacks are new

## Main results

* `Host.nextPlan_every`, `Host.nextPlan_backlog`: a turn
* `Router.Calms.callbacksAll`, `Router.Calms.backlog_le`
-/

namespace ChatRouting

namespace Operation

mutual
/-- The operation is of a kind, and so are the operations of the callbacks that it subscribes. -/
def every (kind : Operation → Bool) : Operation → Bool
  | subscribe name onSession onError =>
    kind (subscribe name onSession onError) && plansEvery kind onSession && plansEvery kind onError
  | op => kind op

/-- The operations of one delivery are of a kind. -/
def planEvery (kind : Operation → Bool) : List Operation → Bool
  | [] => true
  | op :: rest => op.every kind && planEvery kind rest

/-- The operations of some deliveries in a row are of a kind. -/
def turnsEvery (kind : Operation → Bool) : Repeated (List Operation) → Bool
  | { item, times := _ } => planEvery kind item

/-- The operations of all deliveries are of a kind. -/
def plansEvery (kind : Operation → Bool) : List (Repeated (List Operation)) → Bool
  | [] => true
  | turns :: rest => turnsEvery kind turns && plansEvery kind rest
end

variable {kind : Operation → Bool}

theorem every.self {op : Operation} (h : op.every kind = true) : kind op = true := by
  cases op with
  | subscribe =>
    rw [every, Bool.and_eq_true, Bool.and_eq_true] at h
    exact h.1.1
  | _ =>
    rwa [every] at h
    simp

/-- What a callback does in its next turn is of the kind, and so is what it does afterwards. -/
theorem plansEvery_next? {turns : List (Repeated (List Operation))}
    (hturns : plansEvery kind turns = true) {plan : List Operation}
    {rest : List (Repeated (List Operation))} (h : Repeated.next? turns = some (plan, rest)) :
    planEvery kind plan = true ∧ plansEvery kind rest = true := by
  induction turns with
  | nil => cases h
  | cons turn turns ih =>
    obtain ⟨item, times⟩ := turn
    rw [plansEvery, turnsEvery, Bool.and_eq_true] at hturns
    rcases times with _ | times
    · exact ih hturns.2 h
    · cases h
      refine ⟨hturns.1, ?_⟩
      rwa [plansEvery, turnsEvery, Bool.and_eq_true]

theorem plansEvery_nextTurn {turns : List (Repeated (List Operation))}
    (hturns : plansEvery kind turns = true) :
    planEvery kind (Host.nextTurn turns).1 = true ∧
      plansEvery kind (Host.nextTurn turns).2 = true := by
  rw [Host.nextTurn]
  rcases hnext : Repeated.next? turns with _ | ⟨plan, rest⟩
  · exact ⟨by rw [Option.getD_none, planEvery], by rw [Option.getD_none, plansEvery]⟩
  · exact plansEvery_next? hturns hnext

/-- A turn takes the events of its operations out of those that all turns can add. -/
theorem plansBacklog_nextTurn (turns : List (Repeated (List Operation))) :
    plansBacklog turns
      = planBacklog (Host.nextTurn turns).1 + plansBacklog (Host.nextTurn turns).2 := by
  induction turns with
  | nil => simp [Host.nextTurn, Repeated.next?, planBacklog, plansBacklog]
  | cons turn turns ih =>
    obtain ⟨item, times⟩ := turn
    rcases times with _ | times
    · rw [plansBacklog, turnsBacklog, Nat.zero_mul, Nat.zero_add, ih]
      rfl
    · simp only [Host.nextTurn, Repeated.next?, Option.getD_some, plansBacklog, turnsBacklog,
        Nat.add_one_mul]
      omega

end Operation

/-- The callbacks of a sink are of a kind. -/
def Sink.every (kind : Operation → Bool) : Sink → Bool
  | callbacks onSession onError =>
    Operation.plansEvery kind onSession && Operation.plansEvery kind onError
  | channel _ _ => true

namespace Host

theorem nextPlan_every {kind : Operation → Bool} (n : Notification)
    {onSession onError : List (Repeated (List Operation))}
    (h : (Sink.callbacks onSession onError).every kind = true) :
    Operation.planEvery kind (nextPlan n onSession onError).1 = true ∧
      (nextPlan n onSession onError).2.every kind = true := by
  rw [Sink.every, Bool.and_eq_true] at h
  rcases n with ⟨s, m⟩ | n
  · obtain ⟨hplan, hrest⟩ := Operation.plansEvery_nextTurn h.1
    exact ⟨hplan, Bool.and_eq_true_iff.mpr ⟨hrest, h.2⟩⟩
  · obtain ⟨hplan, hrest⟩ := Operation.plansEvery_nextTurn h.2
    exact ⟨hplan, Bool.and_eq_true_iff.mpr ⟨h.1, hrest⟩⟩

theorem nextPlan_backlog (n : Notification) (onSession onError : List (Repeated (List Operation))) :
    sinkBacklog (.callbacks onSession onError) =
      Operation.planBacklog (nextPlan n onSession onError).1
        + sinkBacklog (nextPlan n onSession onError).2 := by
  have hsession := Operation.plansBacklog_nextTurn onSession
  have herror := Operation.plansBacklog_nextTurn onError
  rcases n with ⟨s, m⟩ | n <;> simp only [nextPlan, sinkBacklog] <;> omega

theorem backlog_append (ss ss' : List Subscriber) :
    backlog (ss ++ ss') = backlog ss + backlog ss' := by
  induction ss with
  | nil => simp [backlog]
  | cons s ss ih => rw [List.cons_append, backlog, backlog, ih, Nat.add_assoc]

/-- A subscriber that changes exchanges its own part of the count. -/
theorem backlog_modify {ss : List Subscriber} {n : Nat} {s : Subscriber} (hs : ss[n]? = some s)
    (f : Subscriber → Subscriber) :
    backlog (ss.modify n f) + sinkBacklog s.sink = backlog ss + sinkBacklog (f s).sink := by
  induction ss generalizing n with
  | nil => cases hs
  | cons t ss ih =>
    rcases n with _ | n
    · obtain rfl : t = s := Option.some.inj hs
      simp only [List.modify_zero_cons, backlog]
      omega
    · have hrest := ih (n := n) hs
      simp only [List.modify_succ_cons, backlog]
      omega

end Host

/-- The callbacks of a subscriber stay as they are, or there are none any longer. -/
def Subscriber.Calms (s s' : Subscriber) : Prop :=
  s'.sink = s.sink ∨ ∃ waiting attached, s'.sink = .channel waiting attached

theorem Subscriber.Calms.sinkBacklog_le {s s' : Subscriber} (h : s.Calms s') :
    Host.sinkBacklog s'.sink ≤ Host.sinkBacklog s.sink := by
  rcases h with h | ⟨waiting, attached, h⟩
  · exact Nat.le_of_eq (congrArg Host.sinkBacklog h)
  · rw [h]
    exact Nat.zero_le _

theorem Subscriber.Calms.every {s s' : Subscriber} (h : s.Calms s') {kind : Operation → Bool}
    (hs : s.sink.every kind = true) : s'.sink.every kind = true := by
  rcases h with h | ⟨waiting, attached, h⟩
  · rwa [h]
  · rw [h, Sink.every]

namespace Router

/-- The callbacks of all subscribers are of a kind. -/
def CallbacksAll (kind : Operation → Bool) (r : Router) : Prop :=
  ∀ s ∈ r.subscribers, s.sink.every kind = true

/-- One of the subscribers changes, and no callbacks are new. -/
def CalmsOne (ss ss' : List Subscriber) : Prop :=
  ∃ n f, (∀ s : Subscriber, s.Calms (f s)) ∧ ss' = ss.modify n f

/-- Subscribers change one after the other, and no callbacks are new. -/
def Calms (r r' : Router) : Prop :=
  Relation.ReflTransGen CalmsOne r.subscribers r'.subscribers

variable {r r' r'' : Router} {kind : Operation → Bool}

/-! ### Changes of subscribers -/

theorem calms_of_subscribers (h : r'.subscribers = r.subscribers) : r.Calms r' := by
  rw [Calms, h]

theorem Calms.trans (h : r.Calms r') (h' : r'.Calms r'') : r.Calms r'' :=
  Relation.ReflTransGen.trans h h'

theorem calms_modify {f : Subscriber → Subscriber} (hf : ∀ s : Subscriber, s.Calms (f s))
    (n : Nat) : r.Calms (r.modify n f) :=
  Relation.ReflTransGen.single ⟨n, f, hf, rfl⟩

theorem calms_deactivate (r : Router) (n : Nat) : r.Calms (r.deactivate n) :=
  calms_modify (f := fun s => { s with active := false }) (fun _ => Or.inl rfl) n

theorem calms_dropReceiver (r : Router) (n : Nat) : r.Calms (r.dropReceiver n) := by
  refine calms_modify (fun s => ?_) n
  rcases s with ⟨active, onSession | ⟨waiting, attached⟩⟩
  · exact Or.inl rfl
  · exact Or.inr ⟨_, _, rfl⟩

theorem calms_receive (r : Router) (n : Nat) : r.Calms (r.receive n).2 := by
  rw [Router.receive]
  split
  · exact calms_modify (fun _ => Or.inr ⟨_, _, rfl⟩) n
  · exact calms_of_subscribers rfl

theorem calms_close (r : Router) : r.Calms r.close := by
  have hall (ns : List Nat) (r : Router) : r.Calms (ns.foldl Router.deactivate r) := by
    induction ns generalizing r with
    | nil => exact calms_of_subscribers rfl
    | cons n ns ih => exact (r.calms_deactivate n).trans (ih (r.deactivate n))
  exact hall r.listed r

/-! ### What they keep -/

theorem every_of_mem_modify {ss : List Subscriber} {n : Nat} {f : Subscriber → Subscriber}
    (hss : ∀ s ∈ ss, s.sink.every kind = true)
    (hf : ∀ s, ss[n]? = some s → (f s).sink.every kind = true) :
    ∀ s ∈ ss.modify n f, s.sink.every kind = true := by
  intro s hs
  obtain ⟨i, hi⟩ := List.mem_iff_getElem?.mp hs
  rw [List.getElem?_modify] at hi
  obtain ⟨s₀, hs₀, rfl⟩ := Option.map_eq_some_iff.mp hi
  split_ifs with hin
  · exact hf s₀ (hin ▸ hs₀)
  · exact hss s₀ (List.mem_of_getElem? hs₀)

theorem CallbacksAll.subscribe (h : r.CallbacksAll kind) {sink : Sink}
    (hsink : sink.every kind = true) : (r.subscribe sink).2.CallbacksAll kind := by
  intro s hs
  rcases List.mem_append.mp hs with hs | hs
  · exact h s hs
  · rw [List.mem_singleton.mp hs]
    exact hsink

/-- Where no callbacks are new, all are of the kind of those before. -/
theorem Calms.callbacksAll (h : r.Calms r') (hall : r.CallbacksAll kind) :
    r'.CallbacksAll kind := by
  have hlist (ss : List Subscriber) (hss : Relation.ReflTransGen CalmsOne r.subscribers ss) :
      ∀ s ∈ ss, s.sink.every kind = true := by
    induction hss with
    | refl => exact hall
    | tail _ hstep ih =>
      obtain ⟨n, f, hf, rfl⟩ := hstep
      exact every_of_mem_modify ih fun s hs => (hf s).every (ih s (List.mem_of_getElem? hs))
  exact hlist _ h

/-- Where no callbacks are new, no more events can be added than before. -/
theorem Calms.backlog_le (h : r.Calms r') :
    Host.backlog r'.subscribers ≤ Host.backlog r.subscribers := by
  have hlist (ss : List Subscriber) (hss : Relation.ReflTransGen CalmsOne r.subscribers ss) :
      Host.backlog ss ≤ Host.backlog r.subscribers := by
    induction hss with
    | refl => exact Nat.le_refl _
    | @tail ss _ _ hstep ih =>
      obtain ⟨n, f, hf, rfl⟩ := hstep
      refine Nat.le_trans ?_ ih
      rcases hs : ss[n]? with _ | s
      · exact Nat.le_of_eq (congrArg Host.backlog (List.modify_eq_self (by simpa using hs)))
      · have hmodify := Host.backlog_modify hs f
        have hsink := (hf s).sinkBacklog_le
        omega
  exact hlist _ h

end Router

end ChatRouting
