import ChatRouting.Fault
import ChatRouting.Time.Timestamp

/-!
# Messages and inbound events

What the transport hands over: a message that is already decrypted, or a failure of its own.
Nothing about a message is known to be right before it is checked.
-/

namespace ChatRouting

/-- A decrypted message. -/
structure Message where
  /-- The id of the conversation it belongs to. -/
  conversation : String
  /-- The user who sent it. -/
  sender : String
  /-- When it was sent, as its sender wrote it. -/
  timestamp : String
  plaintext : String
  /-- It was sent to a group. -/
  isGroup : Bool
  /-- A note of the transport, which nothing here reads. -/
  subject : String
  deriving DecidableEq, Repr

/-- An event handed over by the transport. -/
inductive InboundEvent where
  | message (m : Message)
  | transportError (reason : String) (timestamp : Option String)
  deriving DecidableEq, Repr

namespace Message

/-- What an event must have before its message may touch a session: a conversation, a sender
and a timestamp. -/
def check (m : Message) : Except Fault Unit := do
  if m.conversation = "" then .error (.malformedEvent "conversation id is empty")
  else if m.sender = "" then .error (.malformedEvent "sender id is empty")
  else
    let _ ← Instant.ofText m.timestamp
    return ()

end Message

end ChatRouting
