import ChatRouting.Proofs.Host.Delivery

/-!
# Operations inside callbacks are operations

What a callback's operation does is a parameter of a step, and an operation inside a callback is
a step whose parameter does nothing. It is to be shown that this stands for callbacks that
perform the operations of the host themselves, nested as deeply as may be.

The reason is that callbacks run under the mark of a delivery only, so that a step depends on
what their operations do under the mark and nowhere else. Under the mark, on the other hand, an
operation does not depend on its parameter. Hence an operation that is a step with itself in
place of the parameter is determined, and it is the operation of the host.

## Main definitions

* `Host.AgreeInside`: two functions do the same under the mark

## Main results

* `Host.step_congr`: a step depends on what callbacks do under the mark
* `Host.eq_step_iff`: the operation of the host is the only one that is a step with itself
-/

namespace ChatRouting.Host

/-- Two functions do the same while a delivery is under way. -/
def AgreeInside (act act' : Operation → Host → StepResult × Host) : Prop :=
  ∀ op h, h.router.delivering = true → act op h = act' op h

variable {act act' : Operation → Host → StepResult × Host} {h : Host}

theorem runPlan_congr (hact : Discreet act) (ha : AgreeInside act act') (id : Nat)
    (plan : List Operation) (hd : h.router.delivering = true) :
    runPlan act id plan h = runPlan act' id plan h := by
  induction plan generalizing h with
  | nil => rfl
  | cons op rest ih =>
    by_cases hop : op = .panic
    · subst hop
      rfl
    · rw [runPlan_cons act id rest h hop, runPlan_cons act' id rest h hop, ← ha op h hd]
      exact ih ((hact.quiet op h hd).delivering.trans hd)

theorem deliver_congr (hact : Discreet act) (ha : AgreeInside act act') (n : Notification)
    (id : Nat) (hd : h.router.delivering = true) : deliver act n h id = deliver act' n h id := by
  unfold deliver
  split
  · rfl
  · rfl
  · rfl
  · rfl
  · exact runPlan_congr hact ha id _ hd

theorem foldl_deliver_congr (hact : Discreet act) (ha : AgreeInside act act') (n : Notification)
    (listed : List Nat) (hd : h.router.delivering = true) :
    listed.foldl (deliver act n) h = listed.foldl (deliver act' n) h := by
  induction listed generalizing h with
  | nil => rfl
  | cons id rest ih =>
    have hdturn := (deliver_delivers hact n id hd).2
    rw [List.foldl_cons, List.foldl_cons, ← deliver_congr hact ha n id hd]
    exact ih hdturn

section

variable (hact : Discreet act) (ha : AgreeInside act act')

include hact ha

theorem fanOut_congr (n : Notification) (h : Host) : fanOut act n h = fanOut act' n h := by
  rw [fanOut, fanOut, foldl_deliver_congr hact ha n _ rfl]

theorem route_congr (event : InboundEvent) (localId : String) (peer : Option String) (h : Host) :
    route act event localId peer h = route act' event localId peer h := by
  unfold route
  split_ifs
  · rfl
  · rfl
  · split
    · rfl
    · rw [fanOut_congr hact ha]

theorem handle_congr (event : InboundEvent) (h : Host) :
    handle act event h = handle act' event h := by
  rw [handle, handle, route_congr hact ha]

theorem handleNext_congr (h : Host) : handleNext act h = handleNext act' h := by
  unfold handleNext
  split
  · rfl
  · rw [handle_congr hact ha]

theorem drain_congr (bound processed : Nat) (h : Host) :
    drain act bound processed h = drain act' bound processed h := by
  induction bound generalizing processed h with
  | zero => rfl
  | succ bound ih =>
    rw [drain, drain, handleNext_congr hact ha]
    split
    · rfl
    · rfl
    · exact ih _ _

/-- A step depends on what the operations of callbacks do under the mark of a delivery only. -/
theorem step_congr (op : Operation) (h : Host) : step act op h = step act' op h := by
  have hheld : stepHeld act h op = stepHeld act' h op := by
    cases op with
    | route event localId peer => simp only [stepHeld, route_congr hact ha]
    | handle event => simp only [stepHeld, handle_congr hact ha]
    | processPending => simp only [stepHeld, processPending, drain_congr hact ha]
    | processNext => simp only [stepHeld, processNext, handleNext_congr hact ha]
    | _ => rfl
  rw [step, step, hheld]

end

theorem discreet_perform : Discreet perform :=
  discreet_step inside

/-- Under the mark an operation of the host is the one inside a callback. -/
theorem agreeInside_inside_perform : AgreeInside inside perform :=
  fun op _ hd => step_eq_of_delivering _ _ hd op

/-- **The operation of the host is the only one that is a step in which callbacks perform that
operation itself.** -/
theorem eq_step_iff : (∀ op h, act op h = step act op h) ↔ act = perform := by
  constructor
  · intro hstep
    -- Under the mark a step does not depend on its parameter, so one unfolding is enough.
    have ha : AgreeInside inside act := by
      intro op h hd
      rw [hstep]
      exact step_eq_of_delivering _ _ hd op
    funext op h
    rw [hstep]
    exact (step_congr (discreet_step _) ha op h).symm
  · rintro rfl op h
    exact step_congr (discreet_step _) agreeInside_inside_perform op h

end ChatRouting.Host
