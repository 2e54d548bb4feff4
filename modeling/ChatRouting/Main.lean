import ChatRouting.CommandLine.Program
import ChatRouting.Identity
import ChatRouting.Storage.Directories

/-!
# The command line

Files, standard streams, the environment and random bytes around `Program.execute`.
-/

namespace ChatRouting.Main

/-- The number and the wording of a refusal of the system. -/
def systemFault : IO.Error → SystemFault
  | .alreadyExists _ n details | .otherError n details | .resourceBusy n details
  | .resourceVanished n details | .unsupportedOperation n details | .hardwareFault n details
  | .unsatisfiedConstraints n details | .illegalOperation n details | .protocolError n details
  | .timeExpired n details | .interrupted _ n details | .noFileOrDirectory _ n details
  | .invalidArgument _ n details | .permissionDenied _ n details
  | .resourceExhausted _ n details | .inappropriateType _ n details
  | .noSuchThing _ n details => ⟨some n.toNat, details⟩
  | .unexpectedEof => ⟨none, "unexpected end of file"⟩
  | .userError details => ⟨none, details⟩

/-- What is behind a path. -/
def openPath (path : String) : IO (Except SystemFault Opened) := do
  try
    let file ← IO.FS.Handle.mk path .read
    return .ok (.file (← file.readBinToEnd).toList)
  catch e =>
    let f := systemFault e
    return if f.number = SystemFault.isDirectory.number then .ok .directory else .error f

/-- The bytes of the standard input. -/
partial def readAll (input : IO.FS.Stream) (sofar : Bytes) : IO Bytes := do
  let chunk ← input.read 65536
  if chunk.isEmpty then return sofar
  readAll input (sofar ++ chunk.toList)

/-- The directory of the profile if the arguments name none. -/
def defaultDir : IO String := do
  match ← IO.getEnv "CHAT_DATA_DIR", ← IO.getEnv "XDG_DATA_HOME" with
  | some dir, _ => return dir
  | none, some shared => return shared ++ "/chat"
  | none, none => return (← IO.getEnv "HOME").getD "." ++ "/.local/share/chat"

/-- The path of a script that an invocation reads. -/
def scriptPath? (i : Invocation) : Option String :=
  match i.command with
  | .replay path _ => if path = "-" then none else some path
  | _ => none

/-- The standard input is read by the invocation. -/
def readsInput (i : Invocation) : Bool :=
  match i.command with
  | .replay path _ => path = "-"
  | _ => false

/-- Makes one directory. -/
def makeDirectory (path : String) : IO (Except SystemFault Unit) := do
  try
    return .ok (← IO.FS.createDir path)
  catch e => return .error (systemFault e)

/-- There is a directory under the path. -/
def isDirectory (path : String) : IO Bool :=
  return match ← openPath path with
    | .ok .directory => true
    | _ => false

/-- The profile's file in a directory, which is made if it is not there. -/
def profileFile (dir : String) : IO (Except SystemFault (Option Opened)) := do
  match ← Directories.make makeDirectory isDirectory (Directories.chain dir) with
  | .error f => return .error f
  | .ok () =>
    match ← openPath (Profile.path dir) with
    | .ok file => return .ok (some file)
    | .error _ => return .ok none

/-- What an invocation finds. -/
def surroundings (i : Invocation) (dir : String) : IO Surroundings := do
  let profile ← profileFile dir
  let random ← IO.getRandomBytes 8
  let stdin ← if readsInput i then readAll (← IO.getStdin) [] else pure []
  let script ← match scriptPath? i with
    | some path => openPath path
    | none => pure (.error .notFound)
  return {
    profile, stdin, freshId := Identity.generatedId random.toList, opened := fun _ => script }

/-- One invocation with its effects. The answer is the exit code. -/
def perform (i : Invocation) : IO UInt32 := do
  let dir ← match i.dataDir with
    | some dir => pure dir
    | none => defaultDir
  let found ← surroundings i dir
  let effect := Program.execute found i
  let effect ←
    try
      if let some text := effect.saved then IO.FS.writeFile (Profile.path dir) text
      pure effect
    catch e => pure (Program.execute { found with unwritable := some (systemFault e) } i)
  for line in effect.output do IO.println line
  for line in effect.errors do IO.eprintln line
  return if effect.succeeded then 0 else 1

/-- One invocation, whose failures outside of the program are reported like its own. -/
def invoke (i : Invocation) : IO UInt32 := do
  try
    perform i
  catch e =>
    IO.eprintln (Report.failure (Report.Mode.ofFlag i.json) (systemFault e).message)
    return 1

/-- How the program is used. -/
def usage : String :=
  "\n".intercalate [
    "Usage: chat [--json] [--data-dir DIR] COMMAND",
    "",
    "Commands:",
    "  whoami                      Show the current identity",
    "  nickname NAME               Set the nickname",
    "  reset                       Forget the stored identity",
    "  cid PEER                    Print the id of the conversation with a peer",
    "  run [SCRIPT] [--fail-fast]  Replay a script of JSON lines, - for the standard input"]

/-- The answer to arguments that name no command to be done. -/
def explain : UsageFault → IO UInt32
  | .displayHelp => do
    IO.println usage
    return 0
  | .displayVersion => do
    IO.println "chat 0.1.0"
    return 0
  | _ => do
    IO.eprintln usage
    return 2

end ChatRouting.Main

open ChatRouting in
def main (args : List String) : IO UInt32 :=
  match Arguments.parse args with
  | .error f => Main.explain f
  | .ok i => Main.invoke i
