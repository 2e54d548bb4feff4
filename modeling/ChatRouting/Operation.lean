import ChatRouting.Identity
import ChatRouting.Message
import ChatRouting.Conversation
import ChatRouting.Receipt.Basic
import ChatRouting.Repeated

/-!
# Operations

Everything that a host can do with an endpoint, as data. A subscriber's callback is data as
well: for each delivery in turn the list of operations that the callback then performs. So a
callback can do whatever a host can do, subscribing other callbacks included, and a run has
no other source of change.

Subscriptions are addressed by the names a host gives them, requests by the number under
which the host has seen them first, and receipts by the number of the host's handle.

## Main definitions

* `Operation`
* `Operation.needsEndpoint`: the operation is possible only while the endpoint is held
* `Operation.backlog`: how many events an operation can add to the inbound queue
-/

namespace ChatRouting

/-- Something that a host does. -/
inductive Operation where
  /-- Callbacks are subscribed. Each list of operations is performed at as many deliveries in a
  row as it is repeated. -/
  | subscribe (name : String) (onSession onError : List (Repeated (List Operation)))
  | subscribeChannel (name : String)
  | unsubscribe (name : String)
  /-- The handle of a subscription is given up, the subscription stays. -/
  | forget (name : String)
  | dropReceiver (name : String)
  | isActive (name : String)
  /-- All notifications that wait in a channel are taken. -/
  | receive (name : String)
  | subscriberCount
  /-- An event is handed to the router itself, with a local id and perhaps a peer. -/
  | route (event : InboundEvent) (localId : String) (peer : Option String)
  | ensureSession (id name : String) (target : Target)
  | hasSession (id : String)
  | session (id : String)
  | sessions
  | removeSession (id : String)
  | close
  | isClosed
  | isDelivering
  | identity
  | setNickname (nickname : String)
  | setLocalId (id : String)
  | setKeyPair (pair : KeyPair)
  | addFriend (key : FriendKey)
  | addGroup (key : GroupKey)
  | friendKey (peer : String)
  | groupKey (group : String)
  | friendIds
  | groupIds
  | conversationId (peer : String)
  | startDirect (peer : String)
  | joinGroup (group : String)
  | send (target : Target) (plaintext : String)
  | sendToSession (id plaintext : String)
  /-- An event is handed to the endpoint. -/
  | handle (event : InboundEvent)
  /-- An event is put at the end of the inbound queue. -/
  | queue (event : InboundEvent)
  | queueMessage (m : Message)
  | queueError (reason : String) (timestamp : Option String)
  | processPending
  | processNext
  /-- The endpoint is let go; it lives on until a delivery under way is over. -/
  | release
  /-- The host's end of the transport goes away. -/
  | detach
  /-- The acknowledger of a request answers. -/
  | answer (request : Nat) (outcome : Outcome)
  /-- The acknowledger of a request goes away. -/
  | abandon (request : Nat)
  | poll (handle : Nat)
  | wait (handle : Nat)
  /-- An operation whose arguments cannot be read, and whether it needs the endpoint. -/
  | unreadable (verb : String) (onEndpoint : Bool)
  /-- The callback breaks off. -/
  | panic
  deriving Inhabited

namespace Operation

/-- The operation is possible only while the endpoint is held. -/
def needsEndpoint : Operation → Bool
  | unsubscribe _ | forget _ | dropReceiver _ | isActive _ | receive _ => false
  | queue _ | queueMessage _ | queueError _ _ => false
  | release | detach | answer _ _ | abandon _ | poll _ | wait _ | panic => false
  | unreadable _ onEndpoint => onEndpoint
  | _ => true

mutual
/-- The number of events that an operation inside a callback can add to the inbound queue,
itself or through the callbacks it subscribes. -/
def backlog : Operation → Nat
  | handle _ | queue _ | queueMessage _ | queueError _ _ => 1
  | subscribe _ onSession onError => plansBacklog onSession + plansBacklog onError
  | _ => 0

/-- The events that the operations of one delivery can add. -/
def planBacklog : List Operation → Nat
  | [] => 0
  | op :: rest => op.backlog + planBacklog rest

/-- The events that the operations of some deliveries in a row can add. -/
def turnsBacklog : Repeated (List Operation) → Nat
  | { item, times } => times * planBacklog item

/-- The events that the operations of all deliveries can add. -/
def plansBacklog : List (Repeated (List Operation)) → Nat
  | [] => 0
  | turns :: rest => turnsBacklog turns + plansBacklog rest
end

end Operation

end ChatRouting
