import ChatRouting.Identity
import ChatRouting.Receipt.Basic

/-!
# Requests to the transport

The transport is a collaborator that moves bytes. It is asked for things and answers through
receipts, and requests are numbered in order. There are two of them: a host collects
requests from a channel and answers when it likes, and a loopback answers at once, with a
failure for the peers and groups that are marked unreachable.

## Main definitions

* `Request`, with `Request.name`, `Request.subject?`, `Request.describe`
* `Transport.issue`: a request is made
* `Transport.collect`: the requests made since the last time
-/

namespace ChatRouting

/-- What the transport is asked for. -/
inductive Request where
  | identitySet (nickname : String)
  | keyPairSet (pair : KeyPair)
  | friendKeyAdded (key : FriendKey)
  | groupKeyAdded (key : GroupKey)
  | directJoin (peer : String)
  | groupJoin (group : String)
  | directSend (peer plaintext : String)
  | groupSend (group plaintext : String)
  deriving DecidableEq

namespace Request

/-- The name of the kind of request. -/
def name : Request → String
  | identitySet _ => "identitySet"
  | keyPairSet _ => "keyPairSet"
  | friendKeyAdded _ => "friendKeyAdded"
  | groupKeyAdded _ => "groupKeyAdded"
  | directJoin _ => "directJoinRequested"
  | groupJoin _ => "groupJoinRequested"
  | directSend _ _ => "directSendRequested"
  | groupSend _ _ => "groupSendRequested"

/-- The peer or the group that the request is about. -/
def subject? : Request → Option String
  | identitySet _ | keyPairSet _ => none
  | friendKeyAdded key => some key.peer
  | groupKeyAdded key => some key.group
  | directJoin peer | directSend peer _ => some peer
  | groupJoin group | groupSend group _ => some group

/-- A description without keys and without plaintexts. -/
def describe (r : Request) : String :=
  match r.subject? with
  | some id => s!"{r.name}({id})"
  | none => r.name

end Request

/-- The collaborator behind a transport. -/
inductive Link where
  /-- A host that collects requests, or has gone. -/
  | channel (attached : Bool)
  /-- An answer at once. -/
  | loopback (unreachable : List String)

/-- A request that was made, with its receipt. -/
structure Issue where
  request : Request
  receipt : Receipt

/-- The requests made to a collaborator. -/
structure Transport where
  link : Link
  /-- Every request that was made, in order. -/
  issued : List Issue := []
  /-- The numbers of the requests that have not been collected, in order. -/
  outbox : List Nat := []

namespace Transport

/-- A channel to a host. -/
def channel : Transport :=
  { link := .channel true }

/-- A loopback that reaches everyone. -/
def loopback : Transport :=
  { link := .loopback [] }

/-- The id of the next request. A loopback counts its requests. A channel draws an id at random for
each request, and what is told here in its place is the count as well: ids are used only in
descriptions and messages, and requests are known by their numbers. -/
def nextId (t : Transport) : String :=
  let mark := match t.link with
    | .channel _ => "req"
    | .loopback _ => "loop"
  s!"{mark}-{t.issued.length + 1}"

/-- What is known of a request as soon as it is made. -/
def initialReply (link : Link) (request : Request) : Reply :=
  match link with
  | .channel true => .awaited
  | .channel false => .given (.error .closed)
  | .loopback unreachable =>
    match request.subject? with
    | some id =>
      .given (if id ∈ unreachable then .error (.transport s!"{id} unreachable") else .ok ())
    | none => .given (.ok ())

/-- The request reaches the collaborator. -/
def accepts : Link → Bool
  | .channel attached => attached
  | .loopback _ => true

/-- A request is made. The answer is its number. -/
def issue (t : Transport) (request : Request) : Nat × Transport :=
  let n := t.issued.length
  let receipt : Receipt := { id := t.nextId, reply := initialReply t.link request }
  (n, { t with
    issued := t.issued ++ [{ request, receipt }]
    outbox := if accepts t.link then t.outbox ++ [n] else t.outbox })

/-- The request under a number. -/
def request? (t : Transport) (n : Nat) : Option Request :=
  t.issued[n]?.map (·.request)

/-- The receipt under a number. -/
def receipt? (t : Transport) (n : Nat) : Option Receipt :=
  t.issued[n]?.map (·.receipt)

/-- The requests made since the last time, with their numbers. -/
def collect (t : Transport) : List (Nat × Request) × Transport :=
  (t.outbox.filterMap fun n => (t.request? n).map fun r => (n, r), { t with outbox := [] })

/-- The receipt under a number changes. -/
def modify (t : Transport) (n : Nat) (f : Receipt → Receipt) : Transport :=
  { t with issued := t.issued.modify n fun i => { i with receipt := f i.receipt } }

/-- The outcome of a request, if it has ended. -/
def outcome? (t : Transport) (n : Nat) : Option Outcome :=
  (t.receipt? n).bind Receipt.outcome?

/-- The request has ended, and not well. -/
def hasFailed (t : Transport) (n : Nat) : Bool :=
  (t.receipt? n).any Receipt.hasFailed

/-- The host goes away, and with it the acknowledgers of requests it has not collected. A host that
collects after each operation, as in `Host.step`, has collected all of them: then no request is
abandoned here, and the acknowledgers that were collected stay in use. -/
def detach (t : Transport) : Transport :=
  match t.link with
  | .channel _ =>
    { t.outbox.foldl (fun t n => t.modify n Receipt.abandon) t with
      link := .channel false
      outbox := [] }
  | .loopback _ => t

/-- The loopback reaches a peer or group, or does not. -/
def setReachable (t : Transport) (id : String) (reachable : Bool) : Transport :=
  match t.link with
  | .channel _ => t
  | .loopback unreachable =>
    let others := unreachable.filter (· ≠ id)
    { t with link := .loopback (if reachable then others else id :: others) }

end Transport

end ChatRouting
