import ChatRouting.KeyRing
import ChatRouting.Options
import ChatRouting.Router
import ChatRouting.Transport

/-!
# The endpoint

One user's end of all conversations: the key ring, the router with the sessions, the
transport, the latest join request of each conversation, and the inbound events that wait.
Changes of identity and keys are told to the transport, which does not have to answer. A
conversation is joined once: while its join request has not failed, a further attempt gives
the receipt of that request.

Every operation answers with the endpoint after it, also when it is refused.

## Main definitions

* `Endpoint.make`
* `Endpoint.startDirect`, `Endpoint.joinGroup`
* `Endpoint.send`, `Endpoint.sendToSession`
* `Endpoint.echoPeer`: the friend that an own direct message was sent to
-/

namespace ChatRouting

/-- One user's end of all conversations. -/
structure Endpoint where
  keys : KeyRing
  router : Router
  transport : Transport
  /-- The receipt of the latest join request of a conversation. -/
  joins : List (String × Nat) := []
  /-- The inbound events that wait, in order. -/
  inbound : List InboundEvent := []

namespace Endpoint

/-- An endpoint with options. Its local id is a fresh one unless the options have one. -/
def make (options : Options) (freshId : String) (transport : Transport) :
    Except Fault Endpoint := do
  let localId ← match options.localId with
    | some id => do
      let id := Text.trim id
      requireNonempty id "local id"
      pure id
    | none => pure freshId
  let keys := KeyRing.ofId localId
  let keys ← match options.nickname with
    | some nickname =>
      match keys.setNickname nickname with
      | (.ok _, keys) => pure keys
      | (.error f, _) => .error f
    | none => pure keys
  return { keys, router := { ignoreOwnEcho := options.ignoreOwnEcho }, transport }

/-- The id of the local user. -/
def localId (e : Endpoint) : String :=
  e.keys.identity.id

/-! ### Requests -/

/-- A request goes to the transport. -/
def request (e : Endpoint) (r : Request) : Nat × Endpoint :=
  let (n, transport) := e.transport.issue r
  (n, { e with transport })

/-- The transport is told of a change. -/
def tell (e : Endpoint) (r : Request) : Endpoint :=
  (e.request r).2

/-! ### Identity and keys -/

/-- The transport hears of a new nickname. -/
def setNickname (e : Endpoint) (nickname : String) : Except Fault Identity × Endpoint :=
  match e.keys.setNickname nickname with
  | (.error f, _) => (.error f, e)
  | (.ok identity, keys) =>
    (.ok identity, { e with keys }.tell (.identitySet identity.nickname))

/-- A join request has been made that has not failed. -/
def hasJoined (e : Endpoint) : Bool :=
  e.joins.any fun j => !e.transport.hasFailed j.2

/-- The local id may change only before a conversation is joined, since the ids of direct
conversations depend on it. -/
def setLocalId (e : Endpoint) (id : String) : Except Fault Identity × Endpoint :=
  if e.hasJoined then
    (.error (.invalidState "local id cannot change after joining a conversation"), e)
  else
    let (result, keys) := e.keys.setLocalId id
    (result, { e with keys })

/-- The transport hears of a new key pair. -/
def setKeyPair (e : Endpoint) (pair : KeyPair) : Except Fault Unit × Endpoint :=
  match e.keys.setKeyPair pair with
  | (.error f, _) => (.error f, e)
  | (.ok (), keys) => (.ok (), { e with keys }.tell (.keyPairSet pair))

/-- The transport hears of a friend's key. -/
def addFriend (e : Endpoint) (key : FriendKey) : Except Fault Unit × Endpoint :=
  match e.keys.addFriend key with
  | (.error f, _) => (.error f, e)
  | (.ok (), keys) => (.ok (), { e with keys }.tell (.friendKeyAdded key))

/-- The transport hears of a group's key. -/
def addGroup (e : Endpoint) (key : GroupKey) : Except Fault Unit × Endpoint :=
  match e.keys.addGroup key with
  | (.error f, _) => (.error f, e)
  | (.ok (), keys) => (.ok (), { e with keys }.tell (.groupKeyAdded key))

/-! ### Sessions -/

/-- The session of an id, created if there is none. -/
def ensureSession (e : Endpoint) (id name : String) (target : Target) :
    Except Fault Session × Endpoint :=
  let (result, registry) := e.router.registry.ensure id name target
  (result, { e with router := { e.router with registry } })

/-- The session of an id is forgotten. The conversation stays joined. -/
def removeSession (e : Endpoint) (id : String) : Except Fault Bool × Endpoint :=
  let (result, registry) := e.router.registry.remove id
  (result, { e with router := { e.router with registry } })

/-- The session of an id. -/
def session? (e : Endpoint) (id : String) : Option Session :=
  e.router.registry.find? id

/-- The sessions in order of creation. -/
def sessions (e : Endpoint) : List Session :=
  e.router.registry.list

/-! ### Joining -/

/-- The receipt of the join request of a conversation that has not failed. -/
def standingJoin? (e : Endpoint) (id : String) : Option Nat :=
  (e.joins.lookup id).filter fun n => !e.transport.hasFailed n

/-- The receipt of a conversation's join request, which is made unless one stands. -/
def joinOnce (e : Endpoint) (id : String) (r : Request) : Nat × Endpoint :=
  match e.standingJoin? id with
  | some n => (n, e)
  | none =>
    let (n, e) := e.request r
    (n, { e with joins := (id, n) :: e.joins.filter fun j => j.1 != id })

/-- The session of a conversation, which is joined. -/
def openSession (e : Endpoint) (id name : String) (target : Target) (r : Request) :
    Except Fault (Session × Nat) × Endpoint :=
  match e.ensureSession id name target with
  | (.error f, e) => (.error f, e)
  | (.ok s, e) =>
    let (n, e) := e.joinOnce id r
    (.ok (s, n), e)

/-- The id of a direct conversation with a friend whose key is known. -/
def friendConversation (e : Endpoint) (peer : String) : Except Fault String := do
  requireNonempty peer "peer id"
  if e.keys.hasFriend peer then Conversation.directId e.localId peer
  else .error (.unknownPeer peer)

/-- The id of the conversation of a group whose key is known. -/
def groupConversation (e : Endpoint) (group : String) : Except Fault String := do
  let id ← Conversation.groupId group
  if e.keys.hasGroup group then return id else .error (.unknownGroup group)

/-- A direct conversation with a friend is opened and joined. -/
def startDirect (e : Endpoint) (peer : String) : Except Fault (Session × Nat) × Endpoint :=
  match e.friendConversation peer with
  | .error f => (.error f, e)
  | .ok id => e.openSession id (Session.directName peer) (.direct peer) (.directJoin peer)

/-- A group's conversation is opened and joined. -/
def joinGroup (e : Endpoint) (group : String) : Except Fault (Session × Nat) × Endpoint :=
  match e.groupConversation group with
  | .error f => (.error f, e)
  | .ok id => e.openSession id (Session.groupName group) (.group group) (.groupJoin group)

/-! ### Sending -/

/-- The request that sends a text, if the keys that it takes are known. -/
def sendRequest (e : Endpoint) (target : Target) (plaintext : String) : Except Fault Request := do
  requireNonempty plaintext "message"
  match target with
  | .direct peer =>
    requireNonempty peer "peer id"
    if !e.keys.hasFriend peer then .error (.unknownPeer peer)
    else if e.keys.keyPair.isNone then .error (.invalidState "local keypair not set")
    else
      let _ ← Conversation.directId e.localId peer
      return .directSend peer plaintext
  | .group group =>
    let _ ← e.groupConversation group
    return .groupSend group plaintext

/-- A text goes to the transport for a conversation. -/
def send (e : Endpoint) (target : Target) (plaintext : String) : Except Fault Nat × Endpoint :=
  match e.sendRequest target plaintext with
  | .error f => (.error f, e)
  | .ok r =>
    let (n, e) := e.request r
    (.ok n, e)

/-- The target of the session with an id. -/
def sessionTarget (e : Endpoint) (id : String) : Except Fault Target := do
  requireNonempty id "conversation id"
  match e.session? id with
  | some s => return s.target
  | none => .error (.invalidInput s!"no session for conversation {id}")

/-- A text goes to whom the session with an id is with. -/
def sendToSession (e : Endpoint) (id plaintext : String) : Except Fault Nat × Endpoint :=
  match e.sessionTarget id with
  | .error f => (.error f, e)
  | .ok target => e.send target plaintext

/-! ### Inbound events -/

/-- An event is put at the end of the inbound queue. -/
def enqueue (e : Endpoint) (event : InboundEvent) : Endpoint :=
  { e with inbound := e.inbound ++ [event] }

/-- The first friend whose direct conversation with the local user has an id. -/
def friendOf (e : Endpoint) (id : String) : Option String :=
  e.keys.friendIds.find? fun peer =>
    match Conversation.directId e.localId peer with
    | .ok derived => derived == id
    | .error _ => false

/-- The friend that an event's message was sent to, if the local user sent it directly. -/
def echoPeer (e : Endpoint) : InboundEvent → Option String
  | .message m => if !m.isGroup && m.sender == e.localId then e.friendOf m.conversation else none
  | .transportError _ _ => none

end Endpoint

end ChatRouting
