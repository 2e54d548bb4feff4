import ChatRouting.Host.Basic

/-!
# Delivery

An event is processed to its end before another begins: it is classified, and each
subscriber on the list at that moment has its turn. A callback performs its operations
during its turn; an event handed to the router meanwhile is refused, and one handed to the
endpoint is put into the inbound queue.

What a callback's operation does is a parameter here, the function `act`.

## Main definitions

* `Host.deliver`: one subscriber's turn
* `Host.fanOut`: the turns of all subscribers on the list
* `Host.route`, `Host.handle`: an event is processed
* `Host.drain`: the inbound queue is processed
-/

namespace ChatRouting.Host

variable (act : Operation → Host → StepResult × Host)

/-- A callback performs operations one after the other, unless it breaks off. -/
def runPlan (id : Nat) : List Operation → Host → Host
  | [], h => h
  | .panic :: _, h => h
  | op :: rest, h =>
    let (result, h) := act op h
    runPlan id rest (h.note (.did id op result))

/-- The operations of a callback's next turn and the turns after it. A callback that has had all
its turns does nothing. -/
def nextTurn (turns : List (Repeated (List Operation))) :
    List Operation × List (Repeated (List Operation)) :=
  (Repeated.next? turns).getD ([], [])

/-- The operations of a callback at a notification, and its sink afterwards. -/
def nextPlan (n : Notification) (onSession onError : List (Repeated (List Operation))) :
    List Operation × Sink :=
  match n with
  | .sessionUpdated _ _ =>
    let (plan, onSession) := nextTurn onSession
    (plan, .callbacks onSession onError)
  | .errorRaised _ =>
    let (plan, onError) := nextTurn onError
    (plan, .callbacks onSession onError)

/-- A subscriber's turn. Nothing goes to an inactive one, and a channel whose receiver is gone
makes its subscriber inactive. -/
def deliver (n : Notification) (h : Host) (id : Nat) : Host :=
  match h.router.subscribers[id]? with
  | none => h
  | some { active := false, sink := _ } => h
  | some { active := true, sink := .channel waiting true } =>
    let sink := .channel (waiting ++ [n]) true
    (h.withRouter (h.router.modify id fun s => { s with sink })).note (.put id n)
  | some { active := true, sink := .channel _ false } => h.withRouter (h.router.deactivate id)
  | some { active := true, sink := .callbacks onSession onError } =>
    let (plan, sink) := nextPlan n onSession onError
    let h := h.withRouter (h.router.modify id fun s => { s with sink })
    runPlan act id plan (h.note (.got id n))

/-- The mark of a delivery under way is set or taken away. -/
def setDelivering (h : Host) (delivering : Bool) : Host :=
  h.withRouter { h.router with delivering }

/-- The subscribers who are on the list now have their turns in order. -/
def fanOut (n : Notification) (h : Host) : Host :=
  (h.router.listed.foldl (deliver act n) (h.setDelivering true)).setDelivering false

/-- The router processes an event. -/
def route (event : InboundEvent) (localId : String) (peer : Option String) (h : Host) :
    Except Fault (Option Notification) × Host :=
  if h.router.closed then (.error .closed, h)
  else if h.router.delivering then
    (.error (.invalidState "inbound event handled from inside a subscriber callback"), h)
  else
    match h.router.classify event localId peer with
    | (none, router) => (.ok none, h.withRouter router)
    | (some n, router) => (.ok (some n), fanOut act n (h.withRouter router))

/-- The endpoint processes an event, or queues it if a delivery is under way. -/
def handle (event : InboundEvent) (h : Host) : Except Fault (Option Notification) × Host :=
  if h.router.closed then (.error .closed, h)
  else if h.router.delivering then (.ok none, h.withEndpoint (h.endpoint.enqueue event))
  else route act event h.endpoint.localId (h.endpoint.echoPeer event) h

/-! ### The inbound queue -/

/-- The first event of the inbound queue is taken out and processed. -/
def handleNext (h : Host) : Option (Except Fault (Option Notification) × Host) :=
  match h.endpoint.inbound with
  | [] => none
  | event :: rest => some (handle act event (h.withEndpoint { h.endpoint with inbound := rest }))

/-- Events are processed until the queue is empty, up to a bound on their number. -/
def drain : Nat → Nat → Host → Except Fault Nat × Host
  | 0, processed, h => (.ok processed, h)
  | bound + 1, processed, h =>
    match handleNext act h with
    | none => (.ok processed, h)
    | some (.error f, h) => (.error f, h)
    | some (.ok _, h) => drain bound (processed + 1) h

/-- The events that the callbacks of a sink can still add to the queue. -/
def sinkBacklog : Sink → Nat
  | .callbacks onSession onError =>
    Operation.plansBacklog onSession + Operation.plansBacklog onError
  | .channel _ _ => 0

/-- The events that the callbacks of some subscribers can still add to the queue. -/
def backlog : List Subscriber → Nat
  | [] => 0
  | s :: rest => sinkBacklog s.sink + backlog rest

/-- No more events than this can come out of the queue: those in it, and those that callbacks
can still add. -/
def pendingBound (h : Host) : Nat :=
  h.endpoint.inbound.length + backlog h.router.subscribers

/-- The whole inbound queue is processed. The answer is the number of events. -/
def processPending (h : Host) : Except Fault Nat × Host :=
  if h.router.delivering then (.ok 0, h) else drain act h.pendingBound 0 h

/-- One event of the inbound queue is processed. The answer is whether there was one. -/
def processNext (h : Host) : Except Fault Bool × Host :=
  if h.router.delivering then (.ok false, h)
  else
    match handleNext act h with
    | none => (.ok false, h)
    | some (.error f, h) => (.error f, h)
    | some (.ok _, h) => (.ok true, h)

end ChatRouting.Host
