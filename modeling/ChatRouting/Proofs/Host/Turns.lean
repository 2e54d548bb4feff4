import ChatRouting.Proofs.Host.Inside

/-!
# What the turns of a fan-out keep

In a fan-out subscribers have their turns, and a callback performs the operations of its turn one
after the other. So a property of the host together with the operations that are still to be
performed is kept by a whole fan-out if each single thing that happens in one keeps it. Between two
turns no operations are left.

If all callbacks are of some kind when a fan-out begins, then all operations that are performed in
it are of the kind, those of callbacks that are subscribed meanwhile included.

## Main definitions

* `Host.Calling`: a turn in which callbacks of some kind are under way
* `Host.KeptInTurns`

## Main results

* `Host.KeptInTurns.fanOut`
-/

namespace ChatRouting.Host

/-- A delivery is under way, all callbacks are of a kind, and so are the operations that are left in
this turn. -/
structure Calling (kind : Operation → Bool) (plan : List Operation) (h : Host) : Prop where
  delivering : h.router.delivering = true
  plan : Operation.planEvery kind plan = true
  callbacks : h.router.CallbacksAll kind

/-- A property of the operations that are left in a turn and of the host is kept by everything that
happens when subscribers with callbacks of a kind are told a notification. -/
structure KeptInTurns (kind : Operation → Bool) (n : Notification)
    (P : List Operation → Host → Prop) : Prop where
  /-- A callback performs an operation. -/
  did : ∀ id op rest h, Calling kind (op :: rest) h → P (op :: rest) h →
    P rest ((inside op h).2.note (.did id op (inside op h).1))
  /-- A callback breaks off. -/
  stopped : ∀ rest h, P (.panic :: rest) h → P [] h
  /-- A callback sees the notification. -/
  got : ∀ id onSession onError h,
    h.router.subscribers[id]? = some { active := true, sink := .callbacks onSession onError } →
    P [] h → P (nextPlan n onSession onError).1 ((h.withRouter (h.router.modify id fun s =>
      { s with sink := (nextPlan n onSession onError).2 })).note (.got id n))
  /-- The notification is put into a channel. -/
  put : ∀ id waiting h,
    h.router.subscribers[id]? = some { active := true, sink := .channel waiting true } →
    P [] h → P [] ((h.withRouter (h.router.modify id fun s =>
      { s with sink := .channel (waiting ++ [n]) true })).note (.put id n))
  /-- The receiver of a channel is found to be gone. -/
  gone : ∀ id h, P [] h → P [] (h.withRouter (h.router.deactivate id))

variable {kind : Operation → Bool} {n : Notification} {h : Host}

/-! ### The callbacks of a turn -/

namespace Calling

theorem did {op : Operation} {rest : List Operation} (hc : Calling kind (op :: rest) h) (id : Nat) :
    Calling kind rest ((inside op h).2.note (.did id op (inside op h).1)) := by
  have hplan := hc.plan
  rw [Operation.planEvery, Bool.and_eq_true] at hplan
  exact ⟨(step_quiet _ hc.delivering op).delivering.trans hc.delivering, hplan.2,
    (step_effects _ hc.delivering op).callbacks kind hplan.1 hc.callbacks⟩

theorem stopped {plan : List Operation} (hc : Calling kind plan h) : Calling kind [] h :=
  ⟨hc.delivering, by rw [Operation.planEvery], hc.callbacks⟩

theorem got {id : Nat} {onSession onError : List (Repeated (List Operation))}
    (hc : Calling kind [] h) (n : Notification)
    (hs : h.router.subscribers[id]? =
      some { active := true, sink := .callbacks onSession onError }) :
    Calling kind (nextPlan n onSession onError).1 ((h.withRouter (h.router.modify id fun s =>
      { s with sink := (nextPlan n onSession onError).2 })).note (.got id n)) := by
  obtain ⟨hplan, hsink⟩ := nextPlan_every n (hc.callbacks _ (List.mem_of_getElem? hs))
  exact ⟨hc.delivering, hplan, Router.every_of_mem_modify hc.callbacks fun _ _ => hsink⟩

theorem put {id : Nat} (hc : Calling kind [] h) (waiting : List Notification) (n : Notification) :
    Calling kind [] ((h.withRouter (h.router.modify id fun s =>
      { s with sink := .channel waiting true })).note (.put id n)) :=
  ⟨hc.delivering, hc.plan, Router.every_of_mem_modify hc.callbacks fun _ _ => rfl⟩

theorem gone (hc : Calling kind [] h) (id : Nat) :
    Calling kind [] (h.withRouter (h.router.deactivate id)) :=
  ⟨hc.delivering, hc.plan, (h.router.calms_deactivate id).callbacksAll hc.callbacks⟩

end Calling

/-! ### A fan-out -/

namespace KeptInTurns

variable {P : List Operation → Host → Prop} (hk : KeptInTurns kind n P)

include hk

theorem runPlan {plan : List Operation} (id : Nat) (hc : Calling kind plan h) (hP : P plan h) :
    P [] (runPlan inside id plan h) ∧ Calling kind [] (runPlan inside id plan h) := by
  induction plan generalizing h with
  | nil => exact ⟨hP, hc⟩
  | cons op rest ih =>
    by_cases hop : op = .panic
    · subst hop
      exact ⟨hk.stopped rest h hP, hc.stopped⟩
    · rw [runPlan_cons inside id rest h hop]
      exact ih (hc.did id) (hk.did id op rest h hc hP)

theorem deliver (id : Nat) (hc : Calling kind [] h) (hP : P [] h) :
    P [] (deliver inside n h id) ∧ Calling kind [] (deliver inside n h id) := by
  rw [Host.deliver]
  split
  · exact ⟨hP, hc⟩
  · exact ⟨hP, hc⟩
  · next waiting hs => exact ⟨hk.put id waiting h hs hP, hc.put _ n⟩
  · exact ⟨hk.gone id h hP, hc.gone id⟩
  · next onSession onError hs =>
    exact hk.runPlan id (hc.got n hs) (hk.got id onSession onError h hs hP)

theorem foldl_deliver (listed : List Nat) (hc : Calling kind [] h) (hP : P [] h) :
    P [] (listed.foldl (Host.deliver inside n) h) ∧
      Calling kind [] (listed.foldl (Host.deliver inside n) h) := by
  induction listed generalizing h with
  | nil => exact ⟨hP, hc⟩
  | cons id rest ih =>
    obtain ⟨hP', hc'⟩ := hk.deliver id hc hP
    exact ih hc' hP'

/-- What the turns keep is so when the fan-out ends, if it is so when the fan-out begins. -/
theorem fanOut (hcallbacks : h.router.CallbacksAll kind) (hbegin : P [] (h.setDelivering true)) :
    ∃ h', P [] h' ∧ h'.router.CallbacksAll kind ∧ fanOut inside n h = h'.setDelivering false := by
  obtain ⟨hend, hc⟩ := hk.foldl_deliver h.router.listed (h := h.setDelivering true)
    ⟨rfl, by rw [Operation.planEvery], hcallbacks⟩ hbegin
  exact ⟨_, hend, hc.callbacks, rfl⟩

end KeptInTurns

end ChatRouting.Host
