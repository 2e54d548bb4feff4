import ChatRouting.Session.Basic

/-!
# Notifications

What subscribers are told about an inbound event: a session was updated by a message, or
something went wrong.
-/

namespace ChatRouting

/-- Whose error a notice is about. -/
inductive NoticeKind where
  /-- The transport reported it. -/
  | transport
  /-- A message was not well formed. -/
  | malformedEvent
  deriving DecidableEq, Repr

/-- A report of an error. -/
structure Notice where
  kind : NoticeKind
  message : String
  timestamp : Option String
  deriving DecidableEq, Repr

/-- What subscribers are told. -/
inductive Notification where
  | sessionUpdated (session : Session) (message : Message)
  | errorRaised (notice : Notice)
  deriving DecidableEq

/-- The notice of a message that was refused. -/
def Notice.ofRefused (m : Message) (f : Fault) : Notice :=
  { kind := .malformedEvent
    message := f.message
    timestamp := if m.timestamp = "" then none else some m.timestamp }

end ChatRouting
