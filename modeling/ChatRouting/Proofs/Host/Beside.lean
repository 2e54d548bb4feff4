import ChatRouting.Proofs.Endpoint.Beside
import ChatRouting.Proofs.Host.Quiet

/-!
# What lies beside the operations of a host

Most operations have nothing to do with subscribers and with the events that wait. Such an operation
does the same whatever the *audience* is, by which is meant everything that a host keeps about
subscribers, and leaves it as it is. Some operations put an event into the inbound queue, which then
stands after the events that wait.

The others are the operations about subscriptions and receivers, and the four that process events.
While a delivery is under way these four do not process any, and are like the rest.

## Main definitions

* `Host.Audience`, `Host.audience`, `Host.beside`
* `Operation.queued`: what an operation has queued
* `Operation.sparesAudience`: the operation has nothing to do with subscribers

## Main results

* `Host.stepHeld_beside`, `Host.collect_beside`
-/

namespace ChatRouting

/-- The events that an operation inside a callback has queued, going by its answer. -/
def Operation.queued : Operation → Answer → List InboundEvent
  | .handle event, .notified none => [event]
  | .queue event, .done => [event]
  | .queueMessage m, .done => [.message m]
  | .queueError reason timestamp, .done => [.transportError reason timestamp]
  | _, _ => []

/-- The operation has nothing to do with subscribers, unless it processes events. -/
def Operation.sparesAudience : Operation → Bool
  | subscribe _ _ _ | subscribeChannel _ | unsubscribe _ | forget _ | dropReceiver _ | isActive _
  | receive _ | subscriberCount | close => false
  | _ => true

namespace Host

/-- Everything that a host keeps about subscribers. -/
structure Audience where
  subscribers : List Subscriber
  listed : List Nat
  subscriptions : List (String × Nat)
  receivers : List (String × Nat)
  log : List LogEntry

/-- What the host keeps about subscribers. -/
def audience (h : Host) : Audience where
  subscribers := h.router.subscribers
  listed := h.router.listed
  subscriptions := h.subscriptions
  receivers := h.receivers
  log := h.log

/-- The host with another audience and other events that wait. -/
def beside (h : Host) (v : Audience) (q : List InboundEvent) : Host :=
  { h with
    endpoint := h.endpoint.beside v.subscribers v.listed q
    subscriptions := v.subscriptions
    receivers := v.receivers
    log := v.log }

variable (h : Host) (v : Audience) (q : List InboundEvent)

/-! ### What the host keeps for itself -/

theorem sight_beside (receipt : Nat) :
    (h.beside v q).sight receipt = ((h.sight receipt).1, (h.sight receipt).2.beside v q) := by
  have hsighted : (h.beside v q).sighted = h.sighted := rfl
  rw [sight.eq_def, sight.eq_def, hsighted]
  rcases h.sighted.idxOf? receipt with _ | i <;> rfl

theorem hold_beside (receipt : Nat) :
    (h.beside v q).hold receipt = ((h.hold receipt).1, (h.hold receipt).2.beside v q) := by
  rw [hold, hold, sight_beside]
  rfl

theorem sightAll_beside (requests : List (Nat × Request)) :
    (h.beside v q).sightAll requests =
      ((h.sightAll requests).1, (h.sightAll requests).2.beside v q) := by
  induction requests generalizing h with
  | nil => rfl
  | cons request rest ih => simp only [sightAll, sight_beside, ih]

theorem collect_beside (a : Answer) :
    collect (a, h.beside v q) = ((collect (a, h)).1, (collect (a, h)).2.beside v q) := by
  have hhost (t : Transport) : (h.beside v q).withEndpoint
      { (h.beside v q).endpoint with transport := t } =
      (h.withEndpoint { h.endpoint with transport := t }).beside v q := rfl
  simp only [collect, hhost, sightAll_beside]
  rfl

theorem audience_collect (a : Answer) : (collect (a, h)).2.audience = h.audience ∧
    (collect (a, h)).2.endpoint.inbound = h.endpoint.inbound := by
  have hown : collect (a, h) = _ := h.collect_beside h.audience h.endpoint.inbound a
  rw [hown]
  exact ⟨rfl, rfl⟩

theorem onEndpoint_beside {α : Type} (f : α → Answer) {op : Endpoint → Except Fault α × Endpoint}
    (hop : Endpoint.Beside op) : (h.beside v q).onEndpoint f (op (h.beside v q).endpoint) =
      ((h.onEndpoint f (op h.endpoint)).1, (h.onEndpoint f (op h.endpoint)).2.beside v q) := by
  have hresult : op (h.beside v q).endpoint = _ := hop h.endpoint v.subscribers v.listed q
  rw [hresult]
  rfl

theorem onOpened_beside {op : Endpoint → Except Fault (Session × Nat) × Endpoint}
    (hop : Endpoint.Beside op) : (h.beside v q).onOpened (op (h.beside v q).endpoint) =
      ((h.onOpened (op h.endpoint)).1, (h.onOpened (op h.endpoint)).2.beside v q) := by
  have hresult : op (h.beside v q).endpoint = _ := hop h.endpoint v.subscribers v.listed q
  have hhost (e : Endpoint) : (h.beside v q).withEndpoint (e.beside v.subscribers v.listed q) =
      (h.withEndpoint e).beside v q := rfl
  rw [hresult]
  rcases op h.endpoint with ⟨_ | ⟨s, receipt⟩, e⟩
  · rfl
  · simp only [onOpened, hhost, hold_beside]

theorem onSent_beside {op : Endpoint → Except Fault Nat × Endpoint}
    (hop : Endpoint.Beside op) : (h.beside v q).onSent (op (h.beside v q).endpoint) =
      ((h.onSent (op h.endpoint)).1, (h.onSent (op h.endpoint)).2.beside v q) := by
  have hresult : op (h.beside v q).endpoint = _ := hop h.endpoint v.subscribers v.listed q
  have hhost (e : Endpoint) : (h.beside v q).withEndpoint (e.beside v.subscribers v.listed q) =
      (h.withEndpoint e).beside v q := rfl
  rw [hresult]
  rcases op h.endpoint with ⟨_ | receipt, e⟩
  · rfl
  · simp only [onSent, hhost, hold_beside]

theorem onAcknowledger_beside (request : Nat) (f : Receipt → Receipt) :
    (h.beside v q).onAcknowledger request f =
      ((h.onAcknowledger request f).1, (h.onAcknowledger request f).2.beside v q) := by
  have hreceipt : (h.beside v q).receiptOf? request = h.receiptOf? request := rfl
  have htransport : (h.beside v q).endpoint.transport = h.endpoint.transport := rfl
  rw [onAcknowledger.eq_def, onAcknowledger.eq_def, hreceipt, htransport]
  rcases h.receiptOf? request with _ | n
  · rfl
  · dsimp only
    split_ifs <;> rfl

/-! ### Operations -/

/-- The events that an operation queues stand after those that wait. -/
theorem onQueue_beside (op : Operation) {event : InboundEvent}
    (hdone : op.queued .done = [event]) (hrefused : op.queued (.refused .closed) = []) :
    (h.beside v q).onQueue event = ((h.onQueue event).1,
      (h.onQueue event).2.beside v (q ++ op.queued (h.onQueue event).1)) := by
  have hopen : ((h.beside v q).held || (h.beside v q).router.delivering) =
      (h.held || h.router.delivering) := rfl
  rw [onQueue, onQueue, hopen]
  split_ifs
  · rw [hdone]
    rfl
  · rw [hrefused, List.append_nil]

theorem stepHeld_beside (act : Operation → Host → StepResult × Host) {op : Operation}
    (hspares : op.sparesAudience = true)
    (hquiet : op.processes = false ∨ h.router.delivering = true) :
    stepHeld act (h.beside v q) op = ((stepHeld act h op).1,
      (stepHeld act h op).2.beside v (q ++ op.queued (stepHeld act h op).1)) := by
  have hd (hop : op.processes = true) : h.router.delivering = true :=
    hquiet.resolve_left (by simp [hop])
  cases op with
  | subscribe | subscribeChannel | unsubscribe | forget | dropReceiver | isActive | receive
  | subscriberCount | close => cases hspares
  | handle event =>
    have hd' : (h.beside v q).router.delivering = true := hd rfl
    have hclosed : (h.beside v q).router.closed = h.router.closed := rfl
    simp only [stepHeld, handle_of_delivering act (hd rfl), handle_of_delivering act hd', hclosed]
    split_ifs
    · simp only [Answer.ofExcept, Operation.queued, List.append_nil]
    · rfl
  | route event localId peer =>
    have hd' : (h.beside v q).router.delivering = true := hd rfl
    have hclosed : (h.beside v q).router.closed = h.router.closed := rfl
    simp only [stepHeld, route, hd rfl, hd', hclosed, if_true, Operation.queued, List.append_nil]
    split_ifs <;> rfl
  | processPending =>
    have hd' : (h.beside v q).router.delivering = true := hd rfl
    simp only [stepHeld, processPending_of_delivering act (hd rfl),
      processPending_of_delivering act hd', Operation.queued, List.append_nil]
  | processNext =>
    have hd' : (h.beside v q).router.delivering = true := hd rfl
    simp only [stepHeld, processNext_of_delivering act (hd rfl), processNext_of_delivering act hd',
      Operation.queued, List.append_nil]
  | queue event => exact h.onQueue_beside v q (.queue event) rfl rfl
  | queueMessage m => exact h.onQueue_beside v q (.queueMessage m) rfl rfl
  | queueError reason timestamp =>
    exact h.onQueue_beside v q (.queueError reason timestamp) rfl rfl
  | poll handle =>
    have houtcome : (h.beside v q).outcomeOf? handle = h.outcomeOf? handle := rfl
    simp only [stepHeld, Operation.queued, List.append_nil, houtcome]
    rcases h.outcomeOf? handle with _ | o <;> rfl
  | wait handle =>
    have houtcome : (h.beside v q).outcomeOf? handle = h.outcomeOf? handle := rfl
    simp only [stepHeld, Operation.queued, List.append_nil, houtcome]
    rcases h.outcomeOf? handle with _ | _ | o <;> rfl
  | ensureSession id name target =>
    simp only [stepHeld, h.onEndpoint_beside v q _ (Endpoint.beside_ensureSession id name target),
      Operation.queued, List.append_nil]
  | removeSession id =>
    simp only [stepHeld, h.onEndpoint_beside v q _ (Endpoint.beside_removeSession id),
      Operation.queued, List.append_nil]
  | setNickname nickname =>
    simp only [stepHeld, h.onEndpoint_beside v q _ (Endpoint.beside_setNickname nickname),
      Operation.queued, List.append_nil]
  | setLocalId id =>
    simp only [stepHeld, h.onEndpoint_beside v q _ (Endpoint.beside_setLocalId id),
      Operation.queued, List.append_nil]
  | setKeyPair pair =>
    simp only [stepHeld, h.onEndpoint_beside v q _ (Endpoint.beside_setKeyPair pair),
      Operation.queued, List.append_nil]
  | addFriend key =>
    simp only [stepHeld, h.onEndpoint_beside v q _ (Endpoint.beside_addFriend key),
      Operation.queued, List.append_nil]
  | addGroup key =>
    simp only [stepHeld, h.onEndpoint_beside v q _ (Endpoint.beside_addGroup key),
      Operation.queued, List.append_nil]
  | startDirect peer =>
    exact (h.onOpened_beside v q (Endpoint.beside_openConversation (.direct peer))).trans
      (by simp only [stepHeld, Operation.queued, List.append_nil, Endpoint.openConversation])
  | joinGroup group =>
    exact (h.onOpened_beside v q (Endpoint.beside_openConversation (.group group))).trans
      (by simp only [stepHeld, Operation.queued, List.append_nil, Endpoint.openConversation])
  | send target plaintext =>
    simp only [stepHeld, h.onSent_beside v q (Endpoint.beside_send target plaintext),
      Operation.queued, List.append_nil]
  | sendToSession id plaintext =>
    simp only [stepHeld, h.onSent_beside v q (Endpoint.beside_sendToSession id plaintext),
      Operation.queued, List.append_nil]
  | answer request outcome =>
    simp only [stepHeld, onAcknowledger_beside, Operation.queued, List.append_nil]
  | abandon request =>
    simp only [stepHeld, onAcknowledger_beside, Operation.queued, List.append_nil]
  | _ => simp only [stepHeld, Operation.queued, List.append_nil] <;> rfl

/-- An operation that has nothing to do with subscribers leaves the audience as it is, and only adds
to the events that wait. -/
theorem audience_stepHeld (act : Operation → Host → StepResult × Host) {op : Operation}
    (hspares : op.sparesAudience = true)
    (hquiet : op.processes = false ∨ h.router.delivering = true) :
    (stepHeld act h op).2.audience = h.audience ∧ (stepHeld act h op).2.endpoint.inbound =
      h.endpoint.inbound ++ op.queued (stepHeld act h op).1 := by
  have hown : stepHeld act h op = _ :=
    h.stepHeld_beside h.audience h.endpoint.inbound act hspares hquiet
  have hhost : (stepHeld act h op).2 = (stepHeld act h op).2.beside h.audience
      (h.endpoint.inbound ++ op.queued (stepHeld act h op).1) := congrArg Prod.snd hown
  rw [hhost]
  exact ⟨rfl, rfl⟩

end Host

end ChatRouting
