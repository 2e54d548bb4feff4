import ChatRouting.Codec.Event
import ChatRouting.Json.Writer

/-!
# Reports

What a program prints: events while a script runs, and the result or the failure of a command
at the end. There are two forms, for people and for programs. The form for programs is one
line of JSON for each report.

## Main definitions

* `Report.Event`, with its two forms `Event.toText` and `Event.toJson`
* `Report.event`, `Report.result`, `Report.note`, `Report.failure`: the printed reports
-/

namespace ChatRouting.Report

/-- Who reads the reports. -/
inductive Mode where
  | text
  | json
  deriving DecidableEq, Repr

/-- The readers that a flag for JSON selects. -/
def Mode.ofFlag (json : Bool) : Mode :=
  if json then .json else .text

/-- Something that happened while a script ran. -/
inductive Event where
  /-- A request to the transport, and whether it was acknowledged. -/
  | transportRequest (id name : String) (subject : Option String) (acknowledged : Bool)
  | sessionOpened (s : Session)
  | sessionUpdated (s : Session) (m : Message)
  | errorRaised (n : Notice)
  | sessions (ss : List Session)
  | stepError (line : Nat) (verb error : String)

namespace Event

/-- A session for people. -/
def label (s : Session) : String :=
  s!"{s.name} [{s.id}]"

/-- One session of a list for people. -/
def entry (s : Session) : String :=
  "  " ++ label s ++ " " ++ s.lastMessage.getD "-"

/-- A kind of notice for people. -/
def kindText : NoticeKind → String
  | .transport => "transport"
  | .malformedEvent => "malformed"

/-- The form for people. -/
def toText : Event → String
  | transportRequest _ name subject acknowledged =>
    let about := subject.elim "" fun id => s!" {id}"
    let status := if acknowledged then "" else " (failed)"
    s!"-> {name}{about}{status}"
  | sessionOpened s => s!"opened {label s}"
  | sessionUpdated s m => s!"{label s} {m.sender}: {m.plaintext}"
  | errorRaised n => s!"! {kindText n.kind}: {n.message}"
  | sessions [] => "no sessions"
  | sessions (s :: rest) => "\n".intercalate ((s :: rest).map entry)
  | stepError line verb error => s!"line {line} {verb} failed: {error}"

/-- The name of the kind of event. -/
def name : Event → String
  | transportRequest _ _ _ _ => "transportRequest"
  | sessionOpened _ => "sessionOpened"
  | sessionUpdated _ _ => "sessionUpdated"
  | errorRaised _ => "errorRaised"
  | sessions _ => "sessions"
  | stepError _ _ _ => "stepError"

/-- The parts of an event. A request without a subject leaves it out. -/
def data : Event → Json
  | transportRequest id name subject acknowledged =>
    .record ([("id", .text id), ("name", .text name)]
      ++ (subject.elim [] fun s => [("subjectId", .text s)])
      ++ [("acknowledged", .bool acknowledged)])
  | sessionOpened s => s.toJson
  | sessionUpdated s m => .record [("session", s.toJson), ("message", m.toJson)]
  | errorRaised n => n.toJson
  | sessions ss => .array (ss.map Session.toJson)
  | stepError line verb error =>
    .record [("line", .int line), ("op", .text verb), ("error", .text error)]

/-- The form for programs: the name of the event beside its parts. -/
def toJson (e : Event) : Json :=
  .record [("event", .text e.name), ("data", e.data)]

end Event

/-- The report of an event. -/
def event (mode : Mode) (e : Event) : String :=
  match mode with
  | .text => e.toText
  | .json => e.toJson.compact

/-- The result of a command as a value for programs. -/
def resultJson (command : String) (data : Json) : Json :=
  .record [("status", .text "ok"), ("command", .text command), ("data", data)]

/-- A failure as a value for programs. -/
def failureJson (message : String) : Json :=
  .record [("status", .text "error"), ("error", .text message)]

/-- The report of the result of a command. -/
def result (mode : Mode) (command : String) (data : Json) : String :=
  match mode with
  | .text => data.pretty
  | .json => (resultJson command data).compact

/-- The report of a command whose result is a sentence. -/
def note (mode : Mode) (command sentence : String) : String :=
  match mode with
  | .text => sentence
  | .json => (resultJson command (.record [("message", .text sentence)])).compact

/-- The report of a failure. -/
def failure (mode : Mode) (message : String) : String :=
  match mode with
  | .text => s!"Error: {message}"
  | .json => (failureJson message).compact

end ChatRouting.Report
