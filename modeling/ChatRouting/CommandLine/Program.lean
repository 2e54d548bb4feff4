import ChatRouting.CommandLine.Arguments
import ChatRouting.Profile
import ChatRouting.Script.Replay
import ChatRouting.Script.Source

/-!
# The program

What a command does, as a function of what it finds: the profile, what is behind the path of a
script, the standard input, and an id that is fresh if one has to be generated. Every command
but the one that resets the identity first sees to it that there is a local id.

## Main definitions

* `Surroundings`, `Effect`
* `Program.execute`: one command
-/

namespace ChatRouting

/-- What a command finds. -/
structure Surroundings where
  /-- What is behind the path of the profile's file, if anything, in a directory that is there or
  has been made. -/
  profile : Except SystemFault (Option Opened)
  /-- Why the profile's file cannot be written, if it cannot. -/
  unwritable : Option SystemFault := none
  /-- An id for the local user that nobody has. -/
  freshId : String
  stdin : Bytes
  /-- What is behind a path that the system can be asked for. -/
  opened : String → Except SystemFault Opened

/-- What a command does. -/
structure Effect where
  /-- The text of the profile's file, if it is written. -/
  saved : Option String := none
  /-- The reports on the standard output. -/
  output : List String := []
  /-- The notes and the report of a failure on the standard error. -/
  errors : List String := []
  /-- The command succeeded. -/
  succeeded : Bool := true

namespace Program

open Report (Mode)

/-- The effect with the report of a failure. -/
def fail (mode : Mode) (e : Effect) (f : Failure) : Effect :=
  { e with errors := e.errors ++ [Report.failure mode f.message], succeeded := false }

/-- The effect with another report. -/
def print (e : Effect) (report : String) : Effect :=
  { e with output := e.output ++ [report] }

/-- The report of who the local user is. -/
def introduce (mode : Mode) (p : Profile) : String :=
  Report.result mode "whoami" (.record
    [("localId", .text (p.localId.getD "")), ("nickname", .text (p.nickname.getD ""))])

/-- The report of the id of the conversation with a peer. -/
def conversation (mode : Mode) (localId peer id : String) : String :=
  Report.result mode "cid" (.record
    [("localId", .text localId), ("peerId", .text peer), ("conversationId", .text id)])

/-- What is behind a path. -/
def openPath (s : Surroundings) (path : String) : Except SystemFault Opened :=
  match SystemFault.ofPath? path with
  | some f => .error f
  | none => s.opened path

/-- The bytes of a script. What can be opened and not read fails at its first line. -/
def source (s : Surroundings) (path : String) : Except Failure Bytes :=
  if path = "-" then .ok s.stdin
  else
    match openPath s path with
    | .error f => .error (.openScript path f)
    | .ok script => script.bytes.mapError fun f => .readLine 1 (.system f)

/-- A script is read to its end and then replayed. -/
def replay (s : Surroundings) (p : Profile) (path : String) (failFast : Bool) :
    List Report.Event × Except Failure Script.Summary :=
  match source s path >>= Script.parse with
  | .error f => ([], .error f)
  | .ok steps => Script.replay failFast p.options s.freshId steps

/-- The effect with the profile written. -/
def store (s : Surroundings) (p : Profile) (e : Effect) : Except Failure Effect :=
  match s.unwritable with
  | some f => .error (.writeProfile f)
  | none => .ok { e with saved := some p.save }

/-- A command of a local user who has an id. -/
def run (mode : Mode) (s : Surroundings) (localId : String) (p : Profile) (e : Effect) :
    Command → Effect
  | .whoami => print e (introduce mode p)
  | .nickname name =>
    match p.rename name with
    | .error f => fail mode e f
    | .ok p =>
      match store s p e with
      | .error f => fail mode e f
      | .ok e => print e (introduce mode p)
  | .reset =>
    match store s p.forget e with
    | .error f => fail mode e f
    | .ok e => print e (Report.note mode "reset" "Identity cleared")
  | .conversation peer =>
    match Conversation.directId localId peer with
    | .error f => fail mode e (.refused f)
    | .ok id => print e (conversation mode localId peer id)
  | .replay path failFast =>
    let (events, result) := replay s p path failFast
    let e := { e with output := e.output ++ events.map (Report.event mode) }
    match result with
    | .error f => fail mode e f
    | .ok summary => print e (Report.result mode "run" summary.toJson)

/-- The profile with a local id, and the effect of generating one if there is none. -/
def identify (mode : Mode) (s : Surroundings) (p : Profile) :
    Except Failure (String × Profile × Effect) :=
  let (id, named) := p.ensureId s.freshId
  match p.localId with
  | some _ => .ok (id, p, {})
  | none =>
    match store s named {} with
    | .error f => .error f
    | .ok e =>
      let errors := if mode = .json then [] else [s!"Generated new identity: {id}"]
      .ok (id, named, { e with errors })

/-- The profile that a command finds in its directory, which may be named in the arguments. -/
def profile (s : Surroundings) (dataDir : Option String) : Except Failure Profile :=
  match dataDir.bind SystemFault.ofPath?, s.profile with
  | some f, _ | none, .error f => .error (.dataDirectory f)
  | none, .ok none => Profile.load none
  | none, .ok (some file) =>
    match file.bytes with
    | .error f => .error (.readProfile (.system f))
    | .ok bytes => Profile.load (some bytes)

/-- One command. -/
def execute (s : Surroundings) (i : Invocation) : Effect :=
  let mode := Mode.ofFlag i.json
  match profile s i.dataDir with
  | .error f => fail mode {} f
  | .ok p =>
    match i.command with
    | .reset => run mode s "" p {} .reset
    | command =>
      match identify mode s p with
      | .error f => fail mode {} f
      | .ok (id, p, e) => run mode s id p e command

end Program

end ChatRouting
