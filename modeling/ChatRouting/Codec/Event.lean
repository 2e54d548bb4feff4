import ChatRouting.Codec.Session
import ChatRouting.Notification

/-!
# Events, notices and notifications in JSON

Events and notifications are tagged by their type, and the parts of a message or a notice
stand beside the tag.
-/

namespace ChatRouting

open Json (text? bool?)

namespace InboundEvent

/-- An event, tagged by its type. -/
def toJson : InboundEvent → Json
  | .message m => .record (("type", .text "decryptedMessage") :: m.members)
  | .transportError reason timestamp =>
    .record [("type", .text "transportError"), ("message", .text reason),
      ("timestampIso", .optionalText timestamp)]

/-- The time of a transport error may be left out. -/
def transportErrorOfJson? (content : Json) : Option InboundEvent := do
  let f ← Json.Fields.ofJson? ["message", "timestampIso"] content
  let reason ← f.required "message" text?
  let timestamp ← f.defaulted "timestampIso" none (Json.nullable text?)
  return .transportError reason timestamp

/-- The event of a value at a place. -/
def ofJson? (place : Json.Place) (v : Json) : Option InboundEvent := do
  let (type, content) ← Json.tagged? place "type" ["decryptedMessage", "transportError"] v
  if type = "decryptedMessage" then return .message (← Message.ofJson? content)
  else transportErrorOfJson? content

end InboundEvent

namespace NoticeKind

/-- The name of a kind. -/
def name : NoticeKind → String
  | .transport => "transport"
  | .malformedEvent => "malformedEvent"

/-- The kind of a notice that a value at a place chooses. -/
def ofJson? (place : Json.Place) (v : Json) : Option NoticeKind := do
  let name ← Json.choice? place ["transport", "malformedEvent"] v
  return if name = "transport" then .transport else .malformedEvent

end NoticeKind

namespace Notice

/-- The members of a notice, in their declared order. -/
def members (n : Notice) : List (String × Json) :=
  [("kind", .text n.kind.name), ("message", .text n.message),
    ("timestampIso", .optionalText n.timestamp)]

/-- A notice as an object. -/
def toJson (n : Notice) : Json :=
  .record n.members

/-- The notice of a value at a place. -/
def ofJson? (place : Json.Place) (v : Json) : Option Notice := do
  let f ← Json.Fields.ofJson? ["kind", "message", "timestampIso"] v
  let kind ← f.required "kind" (NoticeKind.ofJson? place)
  let message ← f.required "message" text?
  let timestamp ← f.optional "timestampIso" text?
  return { kind, message, timestamp }

end Notice

namespace Notification

/-- A notification, tagged by its type. -/
def toJson : Notification → Json
  | .sessionUpdated s m =>
    .record [("type", .text "sessionUpdated"), ("session", s.toJson), ("message", m.toJson)]
  | .errorRaised n => .record (("type", .text "errorRaised") :: n.members)

/-- The notification of a value at a place. What stands in it stands inside a tagged value. -/
def ofJson? (place : Json.Place) (v : Json) : Option Notification := do
  let (type, content) ← Json.tagged? place "type" ["sessionUpdated", "errorRaised"] v
  if type = "sessionUpdated" then
    let f ← Json.Fields.ofJson? ["session", "message"] content
    let session ← f.required "session" (Session.ofJson? .tagged)
    let message ← f.required "message" Message.ofJson?
    return .sessionUpdated session message
  else return .errorRaised (← Notice.ofJson? .tagged content)

end Notification

end ChatRouting
