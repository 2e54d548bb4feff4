import ChatRouting.Host.Delivery

/-!
# Steps of a host

One operation changes the host and has an answer. An operation inside a callback is the same
operation: all that differs is the mark of the delivery under way. Since an event is never
delivered while that mark is set, an operation inside a callback runs no callback itself, and
two levels of steps say everything: `inside` for callbacks and `perform` around them.

A run is what one thread does. An operation is completed before the next one of the run begins,
and nothing comes in between of its parts but the operations of the callbacks that it runs itself.
Events that other threads hand over come in through the inbound queue, each by an operation of its
own. Calls of several threads that meet at a lock are told only of receipts, in `Receipt.Book`.

## Main definitions

* `Host.step`: one operation, given what a callback's operation does
* `Host.inside`, `Host.perform`
* `Host.run`: a list of operations
-/

namespace ChatRouting.Host

/-- The answer of an operation on the endpoint. -/
def onEndpoint {α : Type} (h : Host) (f : α → Answer) (result : Except Fault α × Endpoint) :
    Answer × Host :=
  (Answer.ofExcept f result.1, h.withEndpoint result.2)

/-- The answer of an operation that opens a session, whose receipt the host holds. -/
def onOpened (h : Host) : Except Fault (Session × Nat) × Endpoint → Answer × Host
  | (.error f, e) => (.refused f, h.withEndpoint e)
  | (.ok (s, receipt), e) =>
    let ((handle, request), h) := (h.withEndpoint e).hold receipt
    (.opened s handle request, h)

/-- The answer of an operation that sends a text, whose receipt the host holds. -/
def onSent (h : Host) : Except Fault Nat × Endpoint → Answer × Host
  | (.error f, e) => (.refused f, h.withEndpoint e)
  | (.ok receipt, e) =>
    let ((handle, request), h) := (h.withEndpoint e).hold receipt
    (.sent handle request, h)

/-- The acknowledger of a request is used, if the host still has it. -/
def onAcknowledger (h : Host) (request : Nat) (f : Receipt → Receipt) : Answer × Host :=
  match h.receiptOf? request with
  | none => (.nothing, h)
  | some n =>
    if (h.endpoint.transport.receipt? n).any Receipt.isAwaited then
      (.done, h.withEndpoint
        { h.endpoint with transport := h.endpoint.transport.modify n f })
    else (.nothing, h)

/-- An event is put into the inbound queue, which is there as long as the endpoint lives: while
it is held, and to the end of a delivery under way. -/
def onQueue (h : Host) (event : InboundEvent) : Answer × Host :=
  if h.held || h.router.delivering then (.done, h.withEndpoint (h.endpoint.enqueue event))
  else (.refused .closed, h)

/-- The outcome of the request that a handle is on. -/
def outcomeOf? (h : Host) (handle : Nat) : Option (Option Outcome) :=
  h.handles[handle]?.map h.endpoint.transport.outcome?

variable (act : Operation → Host → StepResult × Host)

/-- One operation on an endpoint that is there if it is needed. It is one call, during which nobody
else uses the endpoint. -/
def stepHeld (h : Host) : Operation → Answer × Host
  | .subscribe name onSession onError =>
    h.subscribe name (.callbacks onSession onError) false
  | .subscribeChannel name => h.subscribe name (.channel [] true) true
  | .unsubscribe name =>
    match h.subscriptions.lookup name with
    | none => (.nothing, h)
    | some n =>
      (.done, { h.withRouter (h.router.deactivate n) with
        subscriptions := unname name h.subscriptions })
  | .forget name => (.done, { h with subscriptions := unname name h.subscriptions })
  | .dropReceiver name => (.done, h.dropReceiver name)
  | .isActive name => (.activity ((h.subscriptions.lookup name).map h.router.isActive), h)
  | .receive name =>
    match h.receivers.lookup name with
    | none => (.nothing, h)
    | some n =>
      let (waiting, router) := h.router.receive n
      (.received waiting, h.withRouter router)
  | .subscriberCount => (.count h.router.subscriberCount, h)
  | .route event localId peer =>
    let (result, h) := route act event localId peer h
    (Answer.ofExcept .notified result, h)
  | .ensureSession id name target =>
    h.onEndpoint (fun s => .session (some s)) (h.endpoint.ensureSession id name target)
  | .hasSession id => (.truth (h.router.registry.contains id), h)
  | .session id => (.session (h.endpoint.session? id), h)
  | .sessions => (.sessions h.endpoint.sessions, h)
  | .removeSession id => h.onEndpoint .truth (h.endpoint.removeSession id)
  | .close => (.done, h.withRouter h.router.close)
  | .isClosed => (.truth h.router.closed, h)
  | .isDelivering => (.truth h.router.delivering, h)
  | .identity => (.identity h.endpoint.keys.identity, h)
  | .setNickname nickname => h.onEndpoint .identity (h.endpoint.setNickname nickname)
  | .setLocalId id => h.onEndpoint .identity (h.endpoint.setLocalId id)
  | .setKeyPair pair => h.onEndpoint (fun _ => .done) (h.endpoint.setKeyPair pair)
  | .addFriend key => h.onEndpoint (fun _ => .done) (h.endpoint.addFriend key)
  | .addGroup key => h.onEndpoint (fun _ => .done) (h.endpoint.addGroup key)
  | .friendKey peer => (.friendKey (h.endpoint.keys.friend? peer), h)
  | .groupKey group => (.groupKey (h.endpoint.keys.group? group), h)
  | .friendIds => (.ids h.endpoint.keys.friendIds, h)
  | .groupIds => (.ids h.endpoint.keys.groupIds, h)
  | .conversationId peer =>
    (Answer.ofExcept .text (Conversation.directId h.endpoint.localId peer), h)
  | .startDirect peer => h.onOpened (h.endpoint.startDirect peer)
  | .joinGroup group => h.onOpened (h.endpoint.joinGroup group)
  | .send target plaintext => h.onSent (h.endpoint.send target plaintext)
  | .sendToSession id plaintext => h.onSent (h.endpoint.sendToSession id plaintext)
  | .handle event =>
    let (result, h) := handle act event h
    (Answer.ofExcept .notified result, h)
  | .queue event => h.onQueue event
  | .queueMessage m => h.onQueue (.message m)
  | .queueError reason timestamp => h.onQueue (.transportError reason timestamp)
  | .processPending =>
    let (result, h) := processPending act h
    (Answer.ofExcept .count result, h)
  | .processNext =>
    let (result, h) := processNext act h
    (Answer.ofExcept .truth result, h)
  | .release => (.done, { h with held := false })
  | .detach =>
    (.done, h.withEndpoint { h.endpoint with transport := h.endpoint.transport.detach })
  | .answer request outcome => h.onAcknowledger request fun r => r.answer outcome
  | .abandon request => h.onAcknowledger request Receipt.abandon
  | .poll handle =>
    match h.outcomeOf? handle with
    | none => (.nothing, h)
    | some o => (.outcome o, h)
  | .wait handle =>
    match h.outcomeOf? handle with
    | none => (.nothing, h)
    | some none => (.wouldBlock, h)
    | some (some o) => (.outcome (some o), h)
  | .unreadable _ _ => (.unreadable, h)
  | .panic => (.done, h)

/-- One operation, given what a callback's operation does. -/
def step (op : Operation) (h : Host) : StepResult × Host :=
  collect (if op.needsEndpoint && !h.held then (.gone, h) else stepHeld act h op)

/-- An operation inside a callback. It delivers nothing. -/
def inside : Operation → Host → StepResult × Host :=
  step fun _ h => ({ answer := .done }, h)

/-- An operation of the host. -/
def perform : Operation → Host → StepResult × Host :=
  step inside

/-- The host after a list of operations. -/
def run (ops : List Operation) (h : Host) : Host :=
  ops.foldl (fun h op => (perform op h).2) h

end ChatRouting.Host
