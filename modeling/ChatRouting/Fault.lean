/-!
# Faults

Every operation that can be refused answers with one of these causes. The cause says who is
at fault, the reason says what is wrong, and `Fault.message` puts them into words.
-/

namespace ChatRouting

/-- Why an operation was refused. -/
inductive Fault where
  /-- An argument is not acceptable. -/
  | invalidInput (reason : String)
  /-- No key is known for the peer. -/
  | unknownPeer (peer : String)
  /-- No key is known for the group. -/
  | unknownGroup (group : String)
  /-- An inbound event is not well formed. -/
  | malformedEvent (reason : String)
  /-- The transport could not do what was asked. -/
  | transport (reason : String)
  /-- The operation is not possible now. -/
  | invalidState (reason : String)
  /-- The other side has gone. -/
  | closed
  deriving DecidableEq, Repr

namespace Fault

/-- The wording of a fault. -/
def message : Fault → String
  | invalidInput reason => s!"Invalid input: {reason}"
  | unknownPeer peer => s!"Unknown peer: {peer}"
  | unknownGroup group => s!"Unknown group: {group}"
  | malformedEvent reason => s!"Malformed event: {reason}"
  | transport reason => s!"Transport error: {reason}"
  | invalidState reason => s!"Invalid state: {reason}"
  | closed => "Chat core closed"

/-- An argument that must not be empty is. -/
def empty (what : String) : Fault :=
  .invalidInput s!"{what} must not be empty"

/-- A request's acknowledger went away without an answer. -/
def dropped (request : String) : Fault :=
  .transport s!"request {request} dropped without acknowledgement"

/-- The fault of an event whose processing was refused: what is wrong with an argument is
wrong with the event. -/
def ofEvent : Fault → Fault
  | .invalidInput reason => .malformedEvent reason
  | f => f

end Fault

/-- The text, unless it is empty. -/
def requireNonempty (value what : String) : Except Fault Unit :=
  if value = "" then .error (.empty what) else .ok ()

end ChatRouting
