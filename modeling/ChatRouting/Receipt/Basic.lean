import ChatRouting.Fault
import ChatRouting.Text.Quoted

/-!
# Receipts

A receipt tells how a request to the transport ended. It is shared by all handles on the
request. The collaborator that holds the acknowledger answers once or lets go of it; the
first look at the receipt after that writes the outcome down for good.

Whoever looks at a receipt holds its lock. A receipt here is as one call finds it that has the lock;
calls that meet each other at the lock are those of `Receipt.Book`.

## Main definitions

* `Receipt.outcome?`: what a look at the receipt reports
* `Receipt.poll`: a look at the receipt
* `Receipt.answer`, `Receipt.abandon`: the acknowledger's side
-/

namespace ChatRouting

/-- How a request ended. -/
abbrev Outcome := Except Fault Unit

/-- What the acknowledger of a request has done. -/
inductive Reply where
  /-- Nothing yet. -/
  | awaited
  /-- It answered. -/
  | given (outcome : Outcome)
  /-- It went away. -/
  | abandoned

/-- The receipt of a request. -/
structure Receipt where
  /-- The id of the request. -/
  id : String
  reply : Reply := .awaited
  /-- The outcome that a look at the receipt has written down. -/
  observed : Option Outcome := none

/-- A description of a fault that names its cause. -/
def Fault.describe : Fault → String
  | invalidInput reason => s!"InvalidInput({Text.quoted reason})"
  | unknownPeer peer => s!"UnknownPeer({Text.quoted peer})"
  | unknownGroup group => s!"UnknownGroup({Text.quoted group})"
  | malformedEvent reason => s!"MalformedEvent({Text.quoted reason})"
  | transport reason => s!"Transport({Text.quoted reason})"
  | invalidState reason => s!"InvalidState({Text.quoted reason})"
  | closed => "Closed"

namespace Receipt

/-- The outcome that a look at the receipt reports. -/
def outcome? (r : Receipt) : Option Outcome :=
  match r.observed, r.reply with
  | some o, _ => some o
  | none, .awaited => none
  | none, .given o => some o
  | none, .abandoned => some (.error (.dropped r.id))

/-- A look at the receipt. -/
def poll (r : Receipt) : Option Outcome × Receipt :=
  (r.outcome?, { r with observed := r.outcome? })

/-- The acknowledger can still answer. -/
def isAwaited (r : Receipt) : Bool :=
  match r.reply with
  | .awaited => true
  | _ => false

/-- The request has ended, and not well. -/
def hasFailed (r : Receipt) : Bool :=
  match r.outcome? with
  | some (.error _) => true
  | _ => false

/-- The acknowledger answers, if it has not been used. -/
def answer (r : Receipt) (o : Outcome) : Receipt :=
  if r.isAwaited then { r with reply := .given o } else r

/-- The acknowledger goes away, if it has not been used. -/
def abandon (r : Receipt) : Receipt :=
  if r.isAwaited then { r with reply := .abandoned } else r

/-- A description of an outcome that was written down. -/
def describeOutcome : Option Outcome → String
  | none => "None"
  | some (.ok ()) => "Some(Ok(()))"
  | some (.error f) => s!"Some(Err({f.describe}))"

/-- A description of the receipt of a request that shows an outcome. -/
def describeAs (id : String) (shown : Option Outcome) : String :=
  "Pending \x7b id: " ++ Text.quoted id ++ ", outcome: " ++ describeOutcome shown ++ " \x7d"

/-- A description of the receipt, which shows what was written down and is no look at it. -/
def describe (r : Receipt) : String :=
  describeAs r.id r.observed

end Receipt

end ChatRouting
