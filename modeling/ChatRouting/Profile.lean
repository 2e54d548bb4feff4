import ChatRouting.Bytes.Basic
import ChatRouting.Failure
import ChatRouting.Json.Reader
import ChatRouting.Json.Writer
import ChatRouting.Options
import ChatRouting.Text.Blank

/-!
# The profile

What a program remembers between its runs: who the local user is, and whether own messages
that come back are dropped. It is kept as indented JSON in which absent parts are left out.

## Main definitions

* `Profile.load`, `Profile.save`, `Profile.path`
* `Profile.ensureId`, `Profile.rename`, `Profile.forget`
-/

namespace ChatRouting

/-- What is remembered between runs. -/
structure Profile where
  localId : Option String := none
  nickname : Option String := none
  ignoreOwnEcho : Bool := true
  deriving DecidableEq, Repr

namespace Profile

/-- A part that is left out if it is absent. -/
def part (name : String) : Option String → List (String × Json)
  | none => []
  | some s => [(name, .text s)]

/-- The profile as an object without its absent parts. -/
def toJson (p : Profile) : Json :=
  .record (part "localId" p.localId ++ part "nickname" p.nickname
    ++ [("ignoreOwnEcho", .bool p.ignoreOwnEcho)])

/-- The profile of a value. Nothing has to be given, and unknown members are skipped. -/
def ofJson? (v : Json) : Option Profile := do
  let f ← Json.Fields.ofJson? ["localId", "nickname", "ignoreOwnEcho"] v
  let localId ← f.optional "localId" Json.text?
  let nickname ← f.optional "nickname" Json.text?
  let ignoreOwnEcho ← f.defaulted "ignoreOwnEcho" true Json.bool?
  return { localId, nickname, ignoreOwnEcho }

/-- The profile in a file, or a blank one if there is no file. -/
def load : Option Bytes → Except Failure Profile
  | none => .ok {}
  | some file =>
    match Bytes.text? file with
    | none => .error (.readProfile .notText)
    | some text =>
      match (Json.parse text).bind ofJson? with
      | none => .error .parseProfile
      | some p => .ok p

/-- The path of the file of a profile in its directory. -/
def path (dir : String) : String :=
  if dir = "" || dir.endsWith "/" then dir ++ "config.json" else dir ++ "/config.json"

/-- The text of the file of a profile. -/
def save (p : Profile) : String :=
  p.toJson.pretty

/-- The local id, and the profile that has it: a fresh one if there was none. -/
def ensureId (p : Profile) (freshId : String) : String × Profile :=
  match p.localId with
  | some id => (id, p)
  | none => (freshId, { p with localId := some freshId })

/-- The profile with a nickname, which is trimmed and must not be blank. -/
def rename (p : Profile) (nickname : String) : Except Failure Profile :=
  let nickname := Text.trim nickname
  if nickname = "" then .error .blankNickname else .ok { p with nickname := some nickname }

/-- The profile without an identity. -/
def forget (p : Profile) : Profile :=
  { p with localId := none, nickname := none }

/-- The options of an endpoint for the local user. -/
def options (p : Profile) : Options :=
  { localId := p.localId, nickname := p.nickname, ignoreOwnEcho := p.ignoreOwnEcho }

end Profile

end ChatRouting
