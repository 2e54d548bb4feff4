import ChatRouting.Json.Decoder
import ChatRouting.Session.Basic

/-!
# Targets, messages and sessions in JSON

A target is tagged by its kind. A session says beside its target whether that is a group;
what a text claims about it is skipped when a session is read.
-/

namespace ChatRouting

open Json (text? bool?)

namespace Target

/-- A target, tagged by its kind. -/
def toJson : Target → Json
  | .direct peer => .record [("kind", .text "direct"), ("peerId", .text peer)]
  | .group id => .record [("kind", .text "group"), ("groupId", .text id)]

/-- The target of a value at a place. -/
def ofJson? (place : Json.Place) (v : Json) : Option Target := do
  let (kind, content) ← Json.tagged? place "kind" ["direct", "group"] v
  if kind = "direct" then
    let f ← Json.Fields.ofJson? ["peerId"] content
    return .direct (← f.required "peerId" text?)
  else
    let f ← Json.Fields.ofJson? ["groupId"] content
    return .group (← f.required "groupId" text?)

end Target

namespace Message

/-- The members of a message, in their declared order. -/
def members (m : Message) : List (String × Json) :=
  [("conversationId", .text m.conversation), ("senderId", .text m.sender),
    ("timestampIso", .text m.timestamp), ("plaintext", .text m.plaintext),
    ("isGroup", .bool m.isGroup), ("subject", .text m.subject)]

/-- A message as an object. -/
def toJson (m : Message) : Json :=
  .record m.members

/-- The subject may be left out and is empty then. -/
def ofJson? (v : Json) : Option Message := do
  let f ← Json.Fields.ofJson?
    ["conversationId", "senderId", "timestampIso", "plaintext", "isGroup", "subject"] v
  let conversation ← f.required "conversationId" text?
  let sender ← f.required "senderId" text?
  let timestamp ← f.required "timestampIso" text?
  let plaintext ← f.required "plaintext" text?
  let isGroup ← f.required "isGroup" bool?
  let subject ← f.defaulted "subject" "" text?
  return { conversation, sender, timestamp, plaintext, isGroup, subject }

end Message

namespace Instant

/-- An instant as a number. -/
def toJson (i : Instant) : Json :=
  .int i.millis

/-- The instant of an integer in range. -/
def ofJson? (v : Json) : Option Instant :=
  v.int?.bind Instant.ofMillis?

end Instant

namespace Session

/-- A session as an object, with the mark of a group worked out from its target. -/
def toJson (s : Session) : Json :=
  .record [("id", .text s.id), ("displayName", .text s.name), ("isGroup", .bool s.isGroup),
    ("target", s.target.toJson), ("lastMessage", .optionalText s.lastMessage),
    ("lastTimeEpochMs", s.lastTime.elim .null Instant.toJson)]

/-- The place of what is inside a value without a tag. -/
def inside : Json.Place → Json.Place
  | .text above => .text (above + 1)
  | .tagged => .tagged

/-- The session of a value at a place. -/
def ofJson? (place : Json.Place) (v : Json) : Option Session := do
  let f ← Json.Fields.ofJson?
    ["id", "displayName", "target", "lastMessage", "lastTimeEpochMs"] v
  let id ← f.required "id" text?
  let name ← f.required "displayName" text?
  let target ← f.required "target" (Target.ofJson? (inside place))
  let lastMessage ← f.optional "lastMessage" text?
  let lastTime ← f.optional "lastTimeEpochMs" Instant.ofJson?
  return { id, name, target, lastMessage, lastTime }

end Session

end ChatRouting
