import ChatRouting.Codec.Session

/-!
# Script steps

A script is a list of local commands and inbound events to be replayed. A step is one line of
JSON, an object that is tagged by its operation; keys are base64 text in it.
-/

namespace ChatRouting.Script

/-- One step of a script. -/
inductive Step where
  | setNickname (nickname : String)
  | setLocalId (id : String)
  | setKeyPair (privateKey publicKey : String)
  | addFriend (peer publicKey : String)
  | addGroup (group symmetricKey : String)
  | startDirect (peer : String)
  | joinGroup (group : String)
  | send (target : Target) (plaintext : String)
  | sendToSession (id plaintext : String)
  /-- A message comes in. -/
  | deliver (m : Message)
  /-- The transport reports an error. -/
  | transportError (reason : String) (timestamp : Option String)
  | removeSession (id : String)
  | sessions
  /-- Requests about a peer or group fail from now on, or do not. -/
  | unreachable (id : String) (unreachable : Bool)
  deriving DecidableEq, Repr

namespace Step

/-- The name of the operation. -/
def verb : Step → String
  | setNickname _ => "setNickname"
  | setLocalId _ => "setLocalId"
  | setKeyPair _ _ => "setKeyPair"
  | addFriend _ _ => "addFriend"
  | addGroup _ _ => "addGroup"
  | startDirect _ => "startDirect"
  | joinGroup _ => "joinGroup"
  | send _ _ => "send"
  | sendToSession _ _ => "sendToSession"
  | deliver _ => "deliver"
  | transportError _ _ => "transportError"
  | removeSession _ => "removeSession"
  | sessions => "sessions"
  | unreachable _ _ => "unreachable"

/-- The names of all operations. -/
def verbs : List String :=
  ["setNickname", "setLocalId", "setKeyPair", "addFriend", "addGroup", "startDirect", "joinGroup",
    "send", "sendToSession", "deliver", "transportError", "removeSession", "sessions",
    "unreachable"]

open Json (text?)

/-- A step with one text. -/
def oneText? (name : String) (make : String → Step) (content : Json) : Option Step := do
  let f ← Json.Fields.ofJson? [name] content
  return make (← f.required name text?)

/-- A step with two texts. -/
def twoTexts? (first second : String) (make : String → String → Step) (content : Json) :
    Option Step := do
  let f ← Json.Fields.ofJson? [first, second] content
  return make (← f.required first text?) (← f.required second text?)

/-- A step of sending to a target. -/
def send? (content : Json) : Option Step := do
  let f ← Json.Fields.ofJson? ["target", "plaintext"] content
  return .send (← f.required "target" (Target.ofJson? .tagged)) (← f.required "plaintext" text?)

/-- A step of an error of the transport, whose time may be left out. -/
def transportError? (content : Json) : Option Step := do
  let f ← Json.Fields.ofJson? ["message", "timestampIso"] content
  return .transportError (← f.required "message" text?)
    (← f.defaulted "timestampIso" none (Json.nullable text?))

/-- A step of marking a peer or group, as unreachable unless it says otherwise. -/
def unreachable? (content : Json) : Option Step := do
  let f ← Json.Fields.ofJson? ["id", "unreachable"] content
  return .unreachable (← f.required "id" text?) (← f.defaulted "unreachable" true Json.bool?)

/-- The step of an operation with its parts. -/
def ofContent? (verb : String) (content : Json) : Option Step :=
  match verb with
  | "setNickname" => oneText? "nickname" .setNickname content
  | "setLocalId" => oneText? "localId" .setLocalId content
  | "setKeyPair" => twoTexts? "privateKey" "publicKey" .setKeyPair content
  | "addFriend" => twoTexts? "peerId" "publicKey" .addFriend content
  | "addGroup" => twoTexts? "groupId" "symmetricKey" .addGroup content
  | "startDirect" => oneText? "peerId" .startDirect content
  | "joinGroup" => oneText? "groupId" .joinGroup content
  | "send" => send? content
  | "sendToSession" => twoTexts? "conversationId" "plaintext" .sendToSession content
  | "deliver" => (Message.ofJson? content).map .deliver
  | "transportError" => transportError? content
  | "removeSession" => oneText? "conversationId" .removeSession content
  | "sessions" => if Json.isBare content then some .sessions else none
  | "unreachable" => unreachable? content
  | _ => none

/-- The step that a value of a whole line is. -/
def ofJson? (v : Json) : Option Step := do
  let (verb, content) ← Json.tagged? (.text 0) "op" verbs v
  ofContent? verb content

end Step

end ChatRouting.Script
