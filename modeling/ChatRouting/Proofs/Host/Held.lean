import ChatRouting.Proofs.Host.Serialized
import ChatRouting.Proofs.Host.Turns

/-!
# As long as the endpoint is held

An endpoint that is held stays so until it is let go. Only one operation lets it go, which the host
may perform and a callback as well. So if no callback does, and none that an operation subscribes,
the endpoint is held after every operation but that one.

## Main definitions

* `Operation.holds`: the operation does not let the endpoint go
* `Host.Holding`: the endpoint is held, and no callback lets it go

## Main results

* `Host.Holding.perform`
-/

namespace ChatRouting

/-- The operation does not let the endpoint go. -/
def Operation.holds : Operation → Bool
  | release => false
  | _ => true

namespace Host

/-- The endpoint is held, and no callback lets it go. -/
structure Holding (h : Host) : Prop where
  held : h.held = true
  callbacks : h.router.CallbacksAll Operation.holds

/-! ### Operations that process no event -/

section

variable (h : Host)

theorem held_dropReceiver (name : String) : (h.dropReceiver name).held = h.held := by
  rw [dropReceiver]
  split
  · rfl
  · rfl

theorem held_onOpened (result : Except Fault (Session × Nat) × Endpoint) :
    (h.onOpened result).2.held = h.held := by
  obtain ⟨f | ⟨s, receipt⟩, e⟩ := result
  · rfl
  · obtain ⟨request, sighted, hhold⟩ := (h.withEndpoint e).hold_eq receipt
    simp only [onOpened, hhold]
    rfl

theorem held_onSent (result : Except Fault Nat × Endpoint) :
    (h.onSent result).2.held = h.held := by
  obtain ⟨f | receipt, e⟩ := result
  · rfl
  · obtain ⟨request, sighted, hhold⟩ := (h.withEndpoint e).hold_eq receipt
    simp only [onSent, hhold]
    rfl

theorem held_onAcknowledger (request : Nat) (f : Receipt → Receipt) :
    (h.onAcknowledger request f).2.held = h.held := by
  rw [onAcknowledger]
  split
  · rfl
  · split_ifs
    · rfl
    · rfl

theorem held_onQueue (event : InboundEvent) : (h.onQueue event).2.held = h.held := by
  rw [onQueue]
  split_ifs
  · rfl
  · rfl

end

variable {h : Host} {op : Operation} {n : Notification}

theorem stepHeld_held_of_not_processes (act : Operation → Host → StepResult × Host) (h : Host)
    (hop : op.processes = false) (hholds : op.holds = true) :
    (stepHeld act h op).2.held = h.held := by
  cases op with
  | route | handle | processPending | processNext => cases hop
  | release => cases hholds
  | subscribe name | subscribeChannel name | dropReceiver name => exact h.held_dropReceiver name
  | startDirect | joinGroup => exact h.held_onOpened _
  | send | sendToSession => exact h.held_onSent _
  | answer request | abandon request => exact h.held_onAcknowledger request _
  | queue event => exact h.held_onQueue event
  | queueMessage m => exact h.held_onQueue (.message m)
  | queueError reason timestamp => exact h.held_onQueue (.transportError reason timestamp)
  | unsubscribe | receive | poll | wait =>
    simp only [stepHeld]
    split <;> rfl
  | _ => rfl

/-- An operation inside a callback does not let the endpoint go unless it says so. -/
theorem step_held_of_delivering (act : Operation → Host → StepResult × Host)
    (hd : h.router.delivering = true) (hholds : op.holds = true) :
    (step act op h).2.held = h.held := by
  have hstep : (stepHeld act h op).2.held = h.held := by
    cases op with
    | route event localId peer =>
      obtain ⟨f, hf⟩ := route_of_delivering act hd event localId peer
      simp only [stepHeld, hf]
    | handle event =>
      simp only [stepHeld, handle_of_delivering act hd event]
      split_ifs
      · rfl
      · rfl
    | processPending => simp only [stepHeld, processPending_of_delivering act hd]
    | processNext => simp only [stepHeld, processNext_of_delivering act hd]
    | _ => exact stepHeld_held_of_not_processes act h rfl hholds
  rw [step]
  split_ifs
  · exact (collect_endpoint .gone h).2
  · exact (collect_endpoint _ _).2.trans hstep

/-! ### Operations that process events -/

/-- Callbacks that do not let the endpoint go keep it held. -/
theorem keptInTurns_held (n : Notification) :
    KeptInTurns Operation.holds n fun _ h => h.held = true where
  did id op rest h hc hheld := by
    have hplan := hc.plan
    rw [Operation.planEvery, Bool.and_eq_true] at hplan
    exact (step_held_of_delivering _ hc.delivering (Operation.every.self hplan.1)).trans hheld
  stopped _ _ hheld := hheld
  got _ _ _ _ _ hheld := hheld
  put _ _ _ _ hheld := hheld
  gone _ _ hheld := hheld

namespace Holding

theorem fanOut (hh : h.Holding) (n : Notification) : (fanOut inside n h).Holding := by
  obtain ⟨h', hheld, hcallbacks, hfan⟩ := (keptInTurns_held n).fanOut hh.callbacks hh.held
  rw [hfan]
  exact ⟨hheld, hcallbacks⟩

theorem route (hh : h.Holding) (event : InboundEvent) (localId : String) (peer : Option String) :
    (route inside event localId peer h).2.Holding := by
  obtain ⟨registry, hregistry⟩ := h.router.exists_classify_eq event localId peer
  rw [Host.route]
  split_ifs
  · exact hh
  · exact hh
  · split
    · next router heq =>
      obtain rfl : router = { h.router with registry } := by rw [← hregistry, heq]
      exact ⟨hh.held, hh.callbacks⟩
    · next n router heq =>
      obtain rfl : router = { h.router with registry } := by rw [← hregistry, heq]
      exact fanOut (h := h.withRouter { h.router with registry }) ⟨hh.held, hh.callbacks⟩ n

theorem handle (hh : h.Holding) (event : InboundEvent) : (handle inside event h).2.Holding := by
  rw [Host.handle]
  split_ifs
  · exact hh
  · exact ⟨hh.held, hh.callbacks⟩
  · exact hh.route event _ _

theorem handleNext (hh : h.Holding) {result : Except Fault (Option Notification) × Host}
    (hnext : handleNext inside h = some result) : result.2.Holding := by
  rw [Host.handleNext] at hnext
  split at hnext
  · cases hnext
  · next event rest _ =>
    cases hnext
    exact handle (h := h.withEndpoint { h.endpoint with inbound := rest })
      ⟨hh.held, hh.callbacks⟩ event

theorem drain (hh : h.Holding) (bound processed : Nat) :
    (drain inside bound processed h).2.Holding := by
  induction bound generalizing processed h with
  | zero => exact hh
  | succ bound ih =>
    rw [Host.drain]
    split
    · exact hh
    · next hnext => exact hh.handleNext hnext
    · next hnext => exact ih (hh.handleNext hnext) (processed + 1)

theorem stepHeld (hh : h.Holding) (hop : op.every Operation.holds = true) :
    (stepHeld inside h op).2.Holding := by
  cases hprocesses : op.processes with
  | false =>
    exact ⟨(stepHeld_held_of_not_processes inside h hprocesses (Operation.every.self hop)).trans
      hh.held, (stepHeld_effects_of_not_processes inside h hprocesses).callbacks _ hop hh.callbacks⟩
  | true =>
    cases op with
    | route event localId peer => exact hh.route event localId peer
    | handle event => exact hh.handle event
    | processPending =>
      simp only [Host.stepHeld, processPending]
      split_ifs
      · exact hh
      · exact hh.drain h.pendingBound 0
    | processNext =>
      cases hd : h.router.delivering with
      | true =>
        simp only [Host.stepHeld, processNext_of_delivering inside hd]
        exact hh
      | false =>
        simp only [Host.stepHeld, processNext_snd inside hd]
        exact hh.drain 1 0
    | _ => cases hprocesses

theorem collect (hh : h.Holding) (a : Answer) : (collect (a, h)).2.Holding := by
  refine ⟨(collect_endpoint a h).2.trans hh.held, ?_⟩
  rw [collect_router]
  exact hh.callbacks

/-- **The endpoint stays held.** An operation does not let it go unless it says so, or a callback
does that was there or that the operation subscribes. -/
theorem perform (hh : h.Holding) (hop : op.every Operation.holds = true) :
    (perform op h).2.Holding := by
  rw [Host.perform, step]
  split_ifs
  · exact hh.collect .gone
  · exact (hh.stepHeld hop).collect _

end Holding

end Host

end ChatRouting
