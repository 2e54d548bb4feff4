import ChatRouting.Proofs.Callbacks
import ChatRouting.Proofs.Endpoint.Agreement
import ChatRouting.Proofs.Host.Beside
import ChatRouting.Proofs.Host.Numbers

/-!
# Operations inside a callback

While a delivery is under way an event that the endpoint is handed is queued. So an operation inside
a callback does the same whichever events wait already, and adds to them at most the event that it
is given.

What else such an operation may do is said here for all operations at once: it closes the router
only if it says so, the callbacks that are new are those it subscribes, and many operations leave
the keys, the sessions, the joins and the requests alone.

## Main definitions

* `Operation.sparesCore`: the operations that leave all but subscribers and the queue alone
* `Host.withInbound`: the host with other events that wait
* `Host.Effects`

## Main results

* `Host.step_withInbound`, `Host.step_effects`
-/

namespace ChatRouting

/-- The operation leaves the keys, the sessions, the joins, the requests and the end of the endpoint
alone. It may be about subscribers and receivers, ask for something or queue an event. -/
def Operation.sparesCore : Operation → Bool
  | ensureSession _ _ _ | removeSession _ | close | setNickname _ | setLocalId _ | setKeyPair _
  | addFriend _ | addGroup _ | startDirect _ | joinGroup _ | send _ _ | sendToSession _ _
  | release | detach | answer _ _ | abandon _ => false
  | _ => true

/-- An operation queues no more than it is counted with. -/
theorem Operation.length_queued_le (op : Operation) (a : Answer) :
    (op.queued a).length ≤ op.backlog := by
  unfold queued
  split <;> simp [backlog]

namespace Host

/-- The host with other events that wait for its endpoint. -/
def withInbound (h : Host) (inbound : List InboundEvent) : Host :=
  h.withEndpoint (h.endpoint.withInbound inbound)

variable (h : Host) (q : List InboundEvent)

theorem withInbound_eq_beside : h.withInbound q = h.beside h.audience q :=
  rfl

theorem collect_withInbound (a : Answer) :
    collect (a, h.withInbound q) =
      ((collect (a, h)).1, (collect (a, h)).2.withInbound q) := by
  rw [withInbound_eq_beside, withInbound_eq_beside, (h.audience_collect a).1]
  exact h.collect_beside h.audience q a

theorem dropReceiver_withInbound (name : String) :
    (h.withInbound q).dropReceiver name = (h.dropReceiver name).withInbound q := by
  have hreceivers : (h.withInbound q).receivers = h.receivers := rfl
  rw [dropReceiver.eq_def, dropReceiver.eq_def, hreceivers]
  rcases h.receivers.lookup name with _ | n <;> rfl

theorem subscribe_withInbound (name : String) (sink : Sink) (receiver : Bool) :
    (h.withInbound q).subscribe name sink receiver =
      ((h.subscribe name sink receiver).1, (h.subscribe name sink receiver).2.withInbound q) := by
  rw [subscribe, subscribe, dropReceiver_withInbound]
  rfl

/-- An operation about subscribers does the same whichever events wait, and queues none. -/
theorem stepHeld_withInbound_of_audience (act : Operation → Host → StepResult × Host)
    {op : Operation} (hspares : ¬ op.sparesAudience = true) :
    stepHeld act (h.withInbound q) op = ((stepHeld act h op).1,
      (stepHeld act h op).2.withInbound (q ++ op.queued (stepHeld act h op).1)) := by
  cases op with
  | subscribe | subscribeChannel =>
    simp only [stepHeld, subscribe_withInbound, Operation.queued, List.append_nil]
  | dropReceiver name =>
    simp only [stepHeld, dropReceiver_withInbound, Operation.queued, List.append_nil]
  | unsubscribe name =>
    have hnames : (h.withInbound q).subscriptions = h.subscriptions := rfl
    simp only [stepHeld, Operation.queued, List.append_nil, hnames]
    rcases h.subscriptions.lookup name with _ | n <;> rfl
  | receive name =>
    have hnames : (h.withInbound q).receivers = h.receivers := rfl
    simp only [stepHeld, Operation.queued, List.append_nil, hnames]
    rcases h.receivers.lookup name with _ | n <;> rfl
  | forget | isActive | subscriberCount | close =>
    simp only [stepHeld, Operation.queued, List.append_nil]
    rfl
  | _ => exact absurd rfl hspares

/-- An operation inside a callback does the same whichever events wait, and adds what it queues at
the end. -/
theorem stepHeld_withInbound (act : Operation → Host → StepResult × Host)
    (hd : h.router.delivering = true) (op : Operation) :
    stepHeld act (h.withInbound q) op = ((stepHeld act h op).1,
      (stepHeld act h op).2.withInbound (q ++ op.queued (stepHeld act h op).1)) := by
  by_cases hspares : op.sparesAudience = true
  · have haudience := (h.audience_stepHeld act hspares (Or.inr hd)).1
    rw [withInbound_eq_beside, withInbound_eq_beside, haudience]
    exact h.stepHeld_beside h.audience q act hspares (Or.inr hd)
  · exact stepHeld_withInbound_of_audience h q act hspares

theorem queued_gone (op : Operation) : op.queued .gone = [] := by
  cases op <;> rfl

/-- What an operation inside a callback queues stands after the events that wait. -/
theorem step_withInbound (act : Operation → Host → StepResult × Host)
    (hd : h.router.delivering = true) (op : Operation) :
    step act op (h.withInbound q) = ((step act op h).1,
      (step act op h).2.withInbound (q ++ op.queued (step act op h).1.answer)) := by
  have hheld : (h.withInbound q).held = h.held := rfl
  rw [step, step, hheld]
  split_ifs with hgone
  · have hqueued : op.queued (collect (.gone, h)).1.answer = [] := queued_gone op
    rw [hqueued, List.append_nil]
    exact h.collect_withInbound q .gone
  · rw [stepHeld_withInbound h q act hd op]
    exact collect_withInbound _ _ _

/-! ### What an operation spares -/

/-- What an operation inside a callback does to the subscribers, and to what it spares. -/
structure Effects (op : Operation) (a : Answer) (h h' : Host) : Prop where
  closed : op ≠ .close → h'.router.closed = h.router.closed
  /-- What is queued is no longer to be queued. -/
  backlog : Host.backlog h'.router.subscribers + (op.queued a).length ≤
    Host.backlog h.router.subscribers + op.backlog
  callbacks : ∀ kind, op.every kind = true → h.router.CallbacksAll kind →
    h'.router.CallbacksAll kind
  spares : op.sparesCore = true → h.endpoint.Agrees h'.endpoint ∧ h'.held = h.held

variable {h h' : Host} {op : Operation} {a : Answer}

/-- No callbacks are new. -/
theorem effects_of_calms (hcalms : h.router.Calms h'.router)
    (hclosed : op ≠ .close → h'.router.closed = h.router.closed)
    (hspares : op.sparesCore = true → h.endpoint.Agrees h'.endpoint ∧ h'.held = h.held) :
    Effects op a h h' where
  closed := hclosed
  backlog := Nat.add_le_add hcalms.backlog_le (op.length_queued_le a)
  callbacks _ _ := hcalms.callbacksAll
  spares := hspares

/-- The host stays as it is. -/
theorem effects_self (op : Operation) (a : Answer) (h : Host) : Effects op a h h :=
  effects_of_calms (Router.calms_of_subscribers rfl) (fun _ => rfl) fun _ => ⟨.refl _, rfl⟩

/-- The endpoint changes aside from its subscribers. -/
theorem effects_withEndpoint {e : Endpoint}
    (hr : ∃ registry, e.router = { h.endpoint.router with registry })
    (hspares : op.sparesCore = true → h.endpoint.Agrees e) :
    Effects op a h (h.withEndpoint e) := by
  obtain ⟨registry, hr⟩ := hr
  have hrouter : (h.withEndpoint e).router = { h.router with registry } := hr
  exact effects_of_calms (Router.calms_of_subscribers (by rw [hrouter])) (fun _ => by rw [hrouter])
    fun hop => ⟨hspares hop, rfl⟩

/-- What the host keeps for itself does not matter. -/
theorem Effects.congr {h'' : Host} (he : Effects op a h h') (hendpoint : h''.endpoint = h'.endpoint)
    (hheld : h''.held = h'.held) : Effects op a h h'' := by
  have hrouter : h''.router = h'.router := congrArg Endpoint.router hendpoint
  exact ⟨by rw [hrouter]; exact he.closed, by rw [hrouter]; exact he.backlog,
    by rw [hrouter]; exact he.callbacks, by rw [hendpoint, hheld]; exact he.spares⟩

/-- Subscribers change, and the router stays open or closed. -/
theorem effects_of_adjusts {router : Router} (hadjusts : h.router.Adjusts router)
    (hcalms : h.router.Calms router) (hclosed : router.closed = h.router.closed)
    (hendpoint : h'.endpoint = { h.endpoint with router }) (hheld : h'.held = h.held) :
    Effects op a h h' := by
  obtain ⟨subscribers, listed, closed, rfl⟩ := hadjusts.eq
  obtain rfl : closed = h.router.closed := hclosed
  have hrouter : h'.router = { h.router with subscribers, listed } :=
    congrArg Endpoint.router hendpoint
  refine effects_of_calms (by rw [hrouter]; exact hcalms) (fun _ => by rw [hrouter]) fun _ => ?_
  rw [hendpoint]
  exact ⟨h.endpoint.agrees_withSubscribers subscribers listed _, hheld⟩

theorem effects_dropReceiver (op : Operation) (a : Answer) (h : Host) (name : String) :
    Effects op a h (h.dropReceiver name) := by
  rw [dropReceiver]
  split
  · next n _ =>
    exact effects_of_adjusts (.dropReceiver n) (h.router.calms_dropReceiver n) rfl rfl rfl
  · exact effects_self op a h

theorem calms_dropReceiver (h : Host) (name : String) :
    h.router.Calms (h.dropReceiver name).router := by
  rw [dropReceiver]
  split
  · next n _ => exact h.router.calms_dropReceiver n
  · exact Router.calms_of_subscribers rfl

/-- The callbacks of a new subscriber are those of its sink. -/
theorem effects_subscribe (h : Host) {name : String} {sink : Sink} {receiver : Bool}
    (hqueued : op.queued a = []) (hbacklog : sinkBacklog sink = op.backlog)
    (hkind : ∀ kind, op.every kind = true → sink.every kind = true) :
    Effects op a h (h.subscribe name sink receiver).2 := by
  have hdrop : Effects op a h (h.dropReceiver name) := effects_dropReceiver op a h name
  refine ⟨hdrop.closed, ?_, fun kind hop hall => ?_, fun hop => ?_⟩
  · have hcount := backlog_append (h.dropReceiver name).router.subscribers
      [{ active := !(h.dropReceiver name).router.closed, sink }]
    have hless := (h.calms_dropReceiver name).backlog_le
    simp only [backlog, hbacklog] at hcount
    rw [hqueued, List.length_nil]
    exact Nat.le_trans (Nat.le_of_eq hcount) (by omega)
  · exact (hdrop.callbacks kind hop hall).subscribe (hkind kind hop)
  · obtain ⟨hagrees, hheld⟩ := hdrop.spares hop
    exact ⟨hagrees.trans (Endpoint.agrees_withSubscribers _ _ _ _), hheld⟩

theorem effects_enqueue (event : InboundEvent) :
    Effects op a h (h.withEndpoint (h.endpoint.enqueue event)) :=
  effects_withEndpoint ⟨_, rfl⟩ fun _ => h.endpoint.agrees_enqueue event

theorem effects_onOpened {result : Except Fault (Session × Nat) × Endpoint}
    (hr : ∃ registry, result.2.router = { h.endpoint.router with registry })
    (hop : op.sparesCore = false) : Effects op a h (h.onOpened result).2 := by
  have hendpoint : Effects op a h (h.withEndpoint result.2) :=
    effects_withEndpoint hr fun hspares => by rw [hop] at hspares; cases hspares
  rcases result with ⟨_ | ⟨s, receipt⟩, e⟩
  · exact hendpoint
  · obtain ⟨request, sighted, hhold⟩ := (h.withEndpoint e).hold_eq receipt
    simp only [onOpened, hhold]
    exact hendpoint.congr rfl rfl

theorem effects_onSent {result : Except Fault Nat × Endpoint}
    (hr : ∃ registry, result.2.router = { h.endpoint.router with registry })
    (hop : op.sparesCore = false) : Effects op a h (h.onSent result).2 := by
  have hendpoint : Effects op a h (h.withEndpoint result.2) :=
    effects_withEndpoint hr fun hspares => by rw [hop] at hspares; cases hspares
  rcases result with ⟨_ | receipt, e⟩
  · exact hendpoint
  · obtain ⟨request, sighted, hhold⟩ := (h.withEndpoint e).hold_eq receipt
    simp only [onSent, hhold]
    exact hendpoint.congr rfl rfl

theorem effects_onAcknowledger (request : Nat) (f : Receipt → Receipt)
    (hop : op.sparesCore = false) : Effects op a h (h.onAcknowledger request f).2 := by
  rw [onAcknowledger]
  split
  · exact effects_self op a h
  · split_ifs
    · exact effects_withEndpoint ⟨_, rfl⟩ fun hspares => by rw [hop] at hspares; cases hspares
    · exact effects_self op a h

/-- An operation that processes no event has these effects wherever it is performed. -/
theorem stepHeld_effects_of_not_processes (act : Operation → Host → StepResult × Host)
    (h : Host) {op : Operation} (hop : op.processes = false) :
    Effects op (stepHeld act h op).1 h (stepHeld act h op).2 := by
  cases op with
  | route | handle | processPending | processNext => cases hop
  | subscribe name onSession onError =>
    refine effects_subscribe h rfl (by rw [sinkBacklog, Operation.backlog]) fun kind hop => ?_
    rw [Operation.every, Bool.and_assoc, Bool.and_eq_true] at hop
    exact hop.2
  | subscribeChannel name =>
    exact effects_subscribe h rfl rfl fun kind _ => rfl
  | unsubscribe name =>
    simp only [stepHeld]
    split
    · exact effects_self _ _ h
    · next n _ => exact effects_of_adjusts (.deactivate n) (h.router.calms_deactivate n) rfl rfl rfl
  | dropReceiver name => exact effects_dropReceiver _ _ h name
  | receive name =>
    simp only [stepHeld]
    split
    · exact effects_self _ _ h
    · next n _ =>
      exact effects_of_adjusts (.receive n) (h.router.calms_receive n) (h.router.closed_receive n)
        rfl rfl
  | close =>
    exact effects_of_calms h.router.calms_close (fun hne => absurd rfl hne) fun hop => by cases hop
  | queue | queueMessage | queueError =>
    simp only [stepHeld, onQueue]
    split_ifs
    · exact effects_enqueue _
    · exact effects_self _ _ h
  | ensureSession | removeSession => exact effects_withEndpoint ⟨_, rfl⟩ fun hop => by cases hop
  | setNickname nickname =>
    exact effects_withEndpoint (h.endpoint.aside_setNickname nickname).router
      fun hop => by cases hop
  | setLocalId id =>
    exact effects_withEndpoint (h.endpoint.aside_setLocalId id).router fun hop => by cases hop
  | setKeyPair pair =>
    exact effects_withEndpoint (h.endpoint.aside_setKeyPair pair).router fun hop => by cases hop
  | addFriend key =>
    exact effects_withEndpoint (h.endpoint.aside_addFriend key).router fun hop => by cases hop
  | addGroup key =>
    exact effects_withEndpoint (h.endpoint.aside_addGroup key).router fun hop => by cases hop
  | startDirect peer =>
    exact effects_onOpened (h.endpoint.openConversation_router (.direct peer)) rfl
  | joinGroup group =>
    exact effects_onOpened (h.endpoint.openConversation_router (.group group)) rfl
  | send target plaintext =>
    exact effects_onSent (h.endpoint.aside_send target plaintext).router rfl
  | sendToSession id plaintext =>
    exact effects_onSent (h.endpoint.aside_sendToSession id plaintext).router rfl
  | answer request outcome => exact effects_onAcknowledger request _ rfl
  | abandon request => exact effects_onAcknowledger request _ rfl
  | detach => exact effects_withEndpoint ⟨_, rfl⟩ fun hop => by cases hop
  | release =>
    exact effects_of_calms (Router.calms_of_subscribers rfl) (fun _ => rfl) fun hop => by cases hop
  | forget name => exact (effects_self _ _ h).congr rfl rfl
  | poll handle =>
    simp only [stepHeld]
    split <;> exact effects_self _ _ h
  | wait handle =>
    simp only [stepHeld]
    split <;> exact effects_self _ _ h
  | isActive | subscriberCount | hasSession | session | sessions | isClosed | isDelivering
  | identity | friendKey | groupKey | friendIds | groupIds | conversationId | unreadable | panic =>
    exact effects_self _ _ h

theorem stepHeld_effects (act : Operation → Host → StepResult × Host)
    (hd : h.router.delivering = true) (op : Operation) :
    Effects op (stepHeld act h op).1 h (stepHeld act h op).2 := by
  cases op with
  | route event localId peer =>
    obtain ⟨f, hf⟩ := route_of_delivering act hd event localId peer
    simp only [stepHeld, hf]
    exact effects_self _ _ h
  | handle event =>
    simp only [stepHeld, handle_of_delivering act hd event]
    split_ifs
    · exact effects_self _ _ h
    · exact effects_enqueue event
  | processPending =>
    simp only [stepHeld, processPending_of_delivering act hd]
    exact effects_self _ _ h
  | processNext =>
    simp only [stepHeld, processNext_of_delivering act hd]
    exact effects_self _ _ h
  | _ => exact stepHeld_effects_of_not_processes act h rfl

/-- What an operation leaves is collected, and the endpoint stays held or let go. -/
theorem collect_endpoint (a : Answer) (h : Host) :
    (collect (a, h)).2.endpoint = h.endpoint.collected ∧ (collect (a, h)).2.held = h.held := by
  obtain ⟨sighted, hcollect⟩ := collect_eq a h
  rw [hcollect]
  exact ⟨rfl, rfl⟩

/-- That requests are collected does not matter. -/
theorem Effects.collect (he : Effects op a h h') : Effects op a h (collect (a, h')).2 := by
  obtain ⟨sighted, hcollect⟩ := collect_eq a h'
  rw [hcollect]
  refine ⟨he.closed, he.backlog, he.callbacks, fun hop => ?_⟩
  obtain ⟨hagrees, hheld⟩ := he.spares hop
  exact ⟨hagrees.trans h'.endpoint.agrees_collected, hheld⟩

/-- **What an operation inside a callback does.** It closes the router only if it says so, it adds
to the callbacks only those it subscribes, and it leaves alone what it spares. -/
theorem step_effects (act : Operation → Host → StepResult × Host)
    (hd : h.router.delivering = true) (op : Operation) :
    Effects op (step act op h).1.answer h (step act op h).2 := by
  rw [step]
  split_ifs
  · exact (effects_self op .gone h).collect
  · exact (stepHeld_effects act hd op).collect

end Host

end ChatRouting
