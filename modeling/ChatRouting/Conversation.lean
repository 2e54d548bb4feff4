import ChatRouting.Bytes.Hex
import ChatRouting.Bytes.Sha256
import ChatRouting.Fault

/-!
# Conversations

A conversation is with one peer or with a group. Its id is what both sides of it compute on
their own: the id of a group is the group's, and the id of a direct conversation is a hash of
the two user ids in increasing order, so that neither side has to ask the other.

## Main definitions

* `Target`: whom a conversation is with
* `Conversation.directId`, `Conversation.groupId`, `Conversation.idOf`
-/

namespace ChatRouting

/-- Whom a conversation is with. -/
inductive Target where
  | direct (peer : String)
  | group (id : String)
  deriving DecidableEq, Repr

namespace Target

/-- The conversation is with a group. -/
def isGroup : Target → Bool
  | direct _ => false
  | group _ => true

/-- The id of the peer or the group. -/
def remoteId : Target → String
  | direct peer => peer
  | group id => id

end Target

namespace Conversation

/-- The bytes that the id of a direct conversation is the hash of: the two user ids in
increasing order with a colon between them. -/
def hashInput (a b : String) : Bytes :=
  if a < b then Bytes.ofText a ++ 58 :: Bytes.ofText b
  else Bytes.ofText b ++ 58 :: Bytes.ofText a

/-- The number of digits that are kept of the hash. -/
def idLength : Nat := 16

/-- The id that a hash input gives. -/
def hashedId (input : Bytes) : String :=
  String.ofList ((Hex.encodeChars (Sha256.digest input)).take idLength)

/-- The id of the direct conversation between the local user and a peer. -/
def directId (localId peer : String) : Except Fault String := do
  requireNonempty localId "local id"
  requireNonempty peer "peer id"
  if localId = peer then .error (.invalidInput "cannot open a conversation with yourself")
  else return hashedId (hashInput localId peer)

/-- The id of a group's conversation. -/
def groupId (group : String) : Except Fault String := do
  requireNonempty group "group id"
  return group

/-- The id of the conversation that the local user has with a target. -/
def idOf (localId : String) : Target → Except Fault String
  | .direct peer => directId localId peer
  | .group group => groupId group

end Conversation

end ChatRouting
