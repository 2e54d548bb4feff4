import ChatRouting.Notification
import ChatRouting.Operation
import ChatRouting.Session.Registry

/-!
# The router

The router keeps the sessions up to date with inbound events and knows who is to be told.
Subscribers are numbered from zero in order of subscription and never renumbered; as with the
places of sessions, the count has no bound. The router serves those on its list, in that order; a
subscriber that is taken off the list is inactive from then on. Delivery itself is not done here,
since a callback may do anything with the endpoint that the router belongs to.

## Main definitions

* `Subscriber`, `Router`
* `Router.subscribe`, `Router.deactivate`, `Router.close`
* `Router.classify`: what an event means, and the sessions after it
-/

namespace ChatRouting

/-- Where a subscriber's notifications go. -/
inductive Sink where
  /-- Callbacks, with the operations of the deliveries to come. -/
  | callbacks (onSession onError : List (Repeated (List Operation)))
  /-- A channel with what waits in it, and whether its receiver is still there. -/
  | channel (waiting : List Notification) (attached : Bool)

/-- Someone who is told about events. -/
structure Subscriber where
  active : Bool
  sink : Sink

/-- Sessions and subscribers. -/
structure Router where
  registry : Registry := {}
  /-- Every subscriber there ever was, in order of subscription. -/
  subscribers : List Subscriber := []
  /-- The numbers of the subscribers that are served, in order of subscription. -/
  listed : List Nat := []
  ignoreOwnEcho : Bool
  closed : Bool := false
  /-- A callback is running. -/
  delivering : Bool := false

namespace Router

/-! ### Subscribers -/

/-- A new subscriber, who is active unless the router is closed. -/
def subscribe (r : Router) (sink : Sink) : Nat × Router :=
  let n := r.subscribers.length
  (n, { r with
    subscribers := r.subscribers ++ [{ active := !r.closed, sink }]
    listed := if r.closed then r.listed else r.listed ++ [n] })

/-- A subscriber changes. -/
def modify (r : Router) (n : Nat) (f : Subscriber → Subscriber) : Router :=
  { r with subscribers := r.subscribers.modify n f }

/-- The subscriber is active. -/
def isActive (r : Router) (n : Nat) : Bool :=
  r.subscribers[n]?.any (·.active)

/-- A subscriber is served no longer. -/
def deactivate (r : Router) (n : Nat) : Router :=
  { r.modify n fun s => { s with active := false } with listed := r.listed.filter (· ≠ n) }

/-- The receiver of a subscriber's channel goes away. -/
def dropReceiver (r : Router) (n : Nat) : Router :=
  r.modify n fun s =>
    match s.sink with
    | .channel _ _ => { s with sink := .channel [] false }
    | .callbacks _ _ => s

/-- What waits in a subscriber's channel is taken out. -/
def receive (r : Router) (n : Nat) : List Notification × Router :=
  match r.subscribers[n]? with
  | some { active := _, sink := .channel waiting true } =>
    (waiting, r.modify n fun s => { s with sink := .channel [] true })
  | _ => ([], r)

/-- The number of subscribers that are served. -/
def subscriberCount (r : Router) : Nat :=
  r.listed.length

/-- Nobody is served any longer, and no event is taken. -/
def close (r : Router) : Router :=
  { r.listed.foldl deactivate r with closed := true }

/-! ### Events -/

/-- The local user's own message has come back and is not wanted. -/
def dropsEcho (r : Router) (m : Message) (localId : String) : Bool :=
  r.ignoreOwnEcho && localId != "" && m.sender == localId

/-- Whom the conversation of a message is with. A direct message of the local user is to the
peer if one is named, and else to whom its session is with. -/
def targetOf (r : Router) (m : Message) (localId : String) (peer : Option String) :
    Except Fault Target :=
  if !m.isGroup && m.sender == localId then
    match peer, r.registry.find? m.conversation with
    | some peer, _ => .ok (.direct peer)
    | none, some s => .ok s.target
    | none, none =>
      .error (.malformedEvent s!"own message for unknown direct conversation {m.conversation}")
  else .ok (Registry.targetOf m)

/-- A message updates the session of its conversation, unless something is wrong with it. -/
def accept (r : Router) (m : Message) (localId : String) (peer : Option String) :
    Except Fault Session × Router :=
  match m.check, r.targetOf m localId peer with
  | .error f, _ => (.error f, r)
  | .ok (), .error f => (.error f, r)
  | .ok (), .ok target =>
    let (result, registry) := r.registry.applyAs m target
    (result.mapError Fault.ofEvent, { r with registry })

/-- What subscribers are to be told about an event, if anything, and the router after it. -/
def classify (r : Router) (event : InboundEvent) (localId : String) (peer : Option String) :
    Option Notification × Router :=
  match event with
  | .message m =>
    if r.dropsEcho m localId then (none, r)
    else
      match r.accept m localId peer with
      | (.ok s, r) => (some (.sessionUpdated s m), r)
      | (.error f, r) => (some (.errorRaised (.ofRefused m f)), r)
  | .transportError message timestamp =>
    (some (.errorRaised { kind := .transport, message, timestamp }), r)

end Router

end ChatRouting
