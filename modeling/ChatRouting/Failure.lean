import ChatRouting.Bytes.Base64
import ChatRouting.Fault
import ChatRouting.Storage

/-!
# Failures

Why a command or a step of a script did not succeed. `Failure.message` puts the whole chain
of causes into one line, the outermost first.
-/

namespace ChatRouting

/-- Why a command or a step failed. -/
inductive Failure where
  /-- The endpoint refused. -/
  | refused (f : Fault)
  /-- A key of a step is not base64 text. -/
  | key (f : Base64.Fault)
  /-- A request to the transport ended badly. -/
  | request (id : String) (f : Fault)
  | noSession (id : String)
  /-- A step, under its name and line, made a replay stop. -/
  | step (verb : String) (line : Nat) (cause : Failure)
  /-- A script cannot be opened. -/
  | openScript (path : String) (cause : SystemFault)
  /-- A line of a script cannot be read. -/
  | readLine (line : Nat) (cause : ReadFault)
  /-- A line of a script is no step. -/
  | parseLine (line : Nat)
  /-- The directory of the profile is not there and cannot be made. -/
  | dataDirectory (cause : SystemFault)
  | readProfile (cause : ReadFault)
  | parseProfile
  /-- The profile's file cannot be written. -/
  | writeProfile (cause : SystemFault)
  | blankNickname
  deriving DecidableEq

namespace Failure

/-- It stands for what the JSON parser says of a text that it does not read. That wording is the
parser's own and is not told here, so that two failures of this kind differ at most in their line.
-/
def unreadable : String := "<json>"

/-- The wording of a failure. -/
def message : Failure → String
  | refused f => f.message
  | key f => s!"Key is not valid base64: {f.message}"
  | request id f => s!"Transport request {id} failed: {f.message}"
  | noSession id => s!"No session {id}"
  | step verb line cause => s!"Step {verb} on line {line} failed: {cause.message}"
  | openScript path cause => s!"Failed to open script {path}: {cause.message}"
  | readLine line cause => s!"Failed to read script line {line}: {cause.message}"
  | parseLine line => s!"Invalid step on line {line}: {unreadable}"
  | dataDirectory cause => cause.message
  | readProfile cause => s!"Failed to read config file: {cause.message}"
  | parseProfile => s!"Failed to parse config file: {unreadable}"
  | writeProfile cause => s!"Failed to write config file: {cause.message}"
  | blankNickname => "Nickname must not be empty"

end Failure

end ChatRouting
