import ChatRouting.Endpoint

/-!
# The host

The program around an endpoint. It keeps subscriptions and receivers under names, collects
requests and numbers them in order of first sight, keeps handles on receipts in order of
creation, and logs what subscribers get and what their callbacks do.

## Main definitions

* `Answer`, `StepResult`: what an operation answers, with the requests it made
* `Host`
-/

namespace ChatRouting

/-- What an operation answers. -/
inductive Answer where
  | done
  | truth (b : Bool)
  | count (n : Nat)
  | text (s : String)
  | ids (ids : List String)
  | identity (i : Identity)
  | subscribed (id : Nat) (active : Bool)
  /-- The host has nothing under that name or number. -/
  | nothing
  | activity (active : Option Bool)
  | received (notifications : List Notification)
  | session (s : Option Session)
  | sessions (ss : List Session)
  | notified (n : Option Notification)
  | friendKey (k : Option FriendKey)
  | groupKey (k : Option GroupKey)
  /-- A session, with the numbers of the handle and of the request. -/
  | opened (s : Session) (handle request : Nat)
  | sent (handle request : Nat)
  | outcome (o : Option Outcome)
  /-- Waiting would last until the acknowledger is used. -/
  | wouldBlock
  /-- The endpoint has been let go. -/
  | gone
  | unreadable
  | refused (f : Fault)

/-- The answer of an operation that may be refused. -/
def Answer.ofExcept {α : Type} (f : α → Answer) : Except Fault α → Answer
  | .ok a => f a
  | .error e => .refused e

/-- An answer, with the requests that were collected after the operation. -/
structure StepResult where
  answer : Answer
  requests : List (Nat × Request) := []

/-- What happens to a subscriber, or what its callback does. -/
inductive LogEntry where
  /-- A notification is put into the subscriber's channel. -/
  | put (subscriber : Nat) (n : Notification)
  /-- The subscriber's callback sees a notification. -/
  | got (subscriber : Nat) (n : Notification)
  /-- The subscriber's callback has done an operation. -/
  | did (subscriber : Nat) (op : Operation) (result : StepResult)

/-- The program around an endpoint. -/
structure Host where
  endpoint : Endpoint
  /-- The endpoint has not been let go. -/
  held : Bool := true
  /-- The subscriptions that can be ended, by name. -/
  subscriptions : List (String × Nat) := []
  /-- The subscribers whose channels can be read, by name. -/
  receivers : List (String × Nat) := []
  /-- The receipts on which there are handles, by number of the handle. -/
  handles : List Nat := []
  /-- The receipts of the requests, in order of first sight. -/
  sighted : List Nat := []
  log : List LogEntry := []

namespace Host

/-- The router of the endpoint. -/
def router (h : Host) : Router :=
  h.endpoint.router

/-- The host with another router. -/
def withRouter (h : Host) (router : Router) : Host :=
  { h with endpoint := { h.endpoint with router } }

/-- The host with another endpoint. -/
def withEndpoint (h : Host) (endpoint : Endpoint) : Host :=
  { h with endpoint }

/-- Something is logged. -/
def note (h : Host) (entry : LogEntry) : Host :=
  { h with log := h.log ++ [entry] }

/-- The log so far is put away. -/
def clearLog (h : Host) : Host :=
  { h with log := [] }

/-! ### Names and numbers -/

/-- Nothing is kept under a name. -/
def unname (name : String) (table : List (String × Nat)) : List (String × Nat) :=
  table.filter fun entry => entry.1 != name

/-- The receiver under a name is dropped. -/
def dropReceiver (h : Host) (name : String) : Host :=
  match h.receivers.lookup name with
  | some n => { h.withRouter (h.router.dropReceiver n) with receivers := unname name h.receivers }
  | none => h

/-- A new subscription is kept under a name, in place of what was under it. -/
def subscribe (h : Host) (name : String) (sink : Sink) (receiver : Bool) : Answer × Host :=
  let h := h.dropReceiver name
  let (n, router) := h.router.subscribe sink
  (.subscribed n (!router.closed),
    { h.withRouter router with
      subscriptions := (name, n) :: unname name h.subscriptions
      receivers := if receiver then (name, n) :: h.receivers else h.receivers })

/-- The number of a request by its receipt, given at first sight. -/
def sight (h : Host) (receipt : Nat) : Nat × Host :=
  match h.sighted.idxOf? receipt with
  | some i => (i + 1, h)
  | none => (h.sighted.length + 1, { h with sighted := h.sighted ++ [receipt] })

/-- A handle on a receipt, with the number of its request. -/
def hold (h : Host) (receipt : Nat) : (Nat × Nat) × Host :=
  let (request, h) := h.sight receipt
  ((h.handles.length, request), { h with handles := h.handles ++ [receipt] })

/-- The receipt of a request by its number. -/
def receiptOf? (h : Host) (request : Nat) : Option Nat :=
  if request = 0 then none else h.sighted[request - 1]?

/-- Requests are numbered in the order in which they were made. -/
def sightAll (h : Host) : List (Nat × Request) → List (Nat × Request) × Host
  | [] => ([], h)
  | (receipt, r) :: rest =>
    let (n, h) := h.sight receipt
    let (others, h) := h.sightAll rest
    ((n, r) :: others, h)

/-- The requests made by an operation are collected with its answer. -/
def collect (result : Answer × Host) : StepResult × Host :=
  let (answer, h) := result
  let (requests, transport) := h.endpoint.transport.collect
  let (requests, h) := (h.withEndpoint { h.endpoint with transport }).sightAll requests
  ({ answer, requests }, h)

end Host

end ChatRouting
