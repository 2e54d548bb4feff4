import ChatRouting.Session.Basic

/-!
# The session registry

A table of sessions, at most one for each conversation id. The table itself has no order: each
session has its place in the order of creation, counted up from zero and never given again, and
a listing sorts by it. What a session is called and whom it is with is decided when it is
created: later calls with the same id find it as it is.

## Main definitions

* `Registry.find?`, `Registry.list`
* `Registry.ensure`: the session of an id, created if there is none
* `Registry.apply`: a message updates the session of its conversation
* `Registry.remove`
-/

namespace ChatRouting

/-- A session with its place in the order of creation. -/
structure Entry where
  place : Nat
  session : Session
  deriving DecidableEq

/-- The sessions by conversation id. -/
structure Registry where
  /-- The sessions under their ids, in no particular order. -/
  entries : List (String × Entry) := []
  /-- The place of the next session that is created. Places are counted without a bound, as if no
  counter could run over. -/
  nextPlace : Nat := 0
  deriving DecidableEq

namespace Registry

/-- The session of a conversation id. -/
def find? (r : Registry) (id : String) : Option Session :=
  (r.entries.lookup id).map Entry.session

/-- There is a session of the conversation id. -/
def contains (r : Registry) (id : String) : Bool :=
  (r.entries.lookup id).isSome

/-- The entries in order of creation. -/
def ordered (r : Registry) : List Entry :=
  (r.entries.map Prod.snd).mergeSort fun a b => decide (a.place ≤ b.place)

/-- The sessions in order of creation. -/
def list (r : Registry) : List Session :=
  r.ordered.map Entry.session

/-- The number of sessions. -/
def size (r : Registry) : Nat :=
  r.entries.length

/-- There are no sessions. -/
def isEmpty (r : Registry) : Bool :=
  r.entries.isEmpty

/-- A new session, which is last in order. -/
def insert (r : Registry) (s : Session) : Registry :=
  { entries := (s.id, { place := r.nextPlace, session := s }) :: r.entries
    nextPlace := r.nextPlace + 1 }

/-- The session of an id takes the place of the one there was. -/
def replace (r : Registry) (s : Session) : Registry :=
  { r with entries := r.entries.map fun (id, e) =>
      (id, if id = s.id then { e with session := s } else e) }

/-- The session of an id is taken out. -/
def forget (r : Registry) (id : String) : Registry :=
  { r with entries := r.entries.filter fun e => e.1 != id }

/-- The session of an id, which is created if there is none. -/
def obtain (r : Registry) (id name : String) (target : Target) : Session × Registry :=
  match r.find? id with
  | some s => (s, r)
  | none =>
    let s : Session := { id, name, target }
    (s, r.insert s)

/-- The session of an id, which is created with a name and a target if there is none. -/
def ensure (r : Registry) (id name : String) (target : Target) :
    Except Fault Session × Registry :=
  match requireNonempty id "conversation id" with
  | .error f => (.error f, r)
  | .ok () =>
    let (s, r) := r.obtain id name target
    (.ok s, r)

/-- A message updates the session of its conversation, which is created with the target if
there is none. A message without a conversation or without a readable time changes nothing. -/
def applyAs (r : Registry) (m : Message) (target : Target) : Except Fault Session × Registry :=
  match requireNonempty m.conversation "conversation id", Instant.ofText m.timestamp with
  | .error f, _ => (.error f, r)
  | .ok (), .error f => (.error f, r)
  | .ok (), .ok time =>
    let (s, r) := r.obtain m.conversation (Session.defaultName m.conversation target) target
    let s := s.receive m.plaintext time
    (.ok s, r.replace s)

/-- Whom the conversation of a message is with, going by the message: the group, or the
sender. -/
def targetOf (m : Message) : Target :=
  if m.isGroup then .group m.conversation else .direct m.sender

/-- A message updates the session of its conversation. -/
def apply (r : Registry) (m : Message) : Except Fault Session × Registry :=
  r.applyAs m (targetOf m)

/-- The session of an id is forgotten. The answer is whether there was one. -/
def remove (r : Registry) (id : String) : Except Fault Bool × Registry :=
  match requireNonempty id "conversation id" with
  | .error f => (.error f, r)
  | .ok () => (.ok (r.contains id), r.forget id)

end Registry

end ChatRouting
