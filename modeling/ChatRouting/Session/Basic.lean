import ChatRouting.Conversation
import ChatRouting.Message

/-!
# Sessions

A session is what is remembered of a conversation: its id, a name to show, whom it is with,
and the text and time of the newest message.
-/

namespace ChatRouting

/-- What is remembered of a conversation. -/
structure Session where
  id : String
  name : String
  target : Target
  lastMessage : Option String := none
  lastTime : Option Instant := none
  deriving DecidableEq

namespace Session

/-- The conversation is with a group. -/
def isGroup (s : Session) : Bool :=
  s.target.isGroup

/-- How many characters of an id a name shows. -/
def shownIdLength : Nat := 8

/-- The name of a group's session. -/
def groupName (id : String) : String :=
  "Group " ++ String.ofList (id.toList.take shownIdLength)

/-- The name of a direct session. -/
def directName (peer : String) : String :=
  "Direct " ++ peer

/-- The name that a session with an id gets from its target. -/
def defaultName (id : String) : Target → String
  | .group _ => groupName id
  | .direct peer => directName peer

/-- The message is at least as new as the newest one that is remembered. -/
def isNewer (s : Session) (time : Instant) : Bool :=
  match s.lastTime with
  | none => true
  | some current => decide (current.millis ≤ time.millis)

/-- The session after a message of a time: the newer message is remembered, and of two at
the same time the later arrival. -/
def receive (s : Session) (plaintext : String) (time : Instant) : Session :=
  if s.isNewer time then { s with lastMessage := some plaintext, lastTime := some time } else s

end Session

end ChatRouting
