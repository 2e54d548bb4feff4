import ChatRouting.Json.Decoder

/-!
# Options of an endpoint

What is fixed when an endpoint is made. Each option may be left out.
-/

namespace ChatRouting

/-- What is fixed when an endpoint is made. -/
structure Options where
  /-- The id of the local user; one is generated if there is none. -/
  localId : Option String := none
  nickname : Option String := none
  /-- Messages that the local user sent are dropped when they come back. -/
  ignoreOwnEcho : Bool := true
  deriving DecidableEq, Repr

namespace Options

/-- The options as an object with all its members. -/
def toJson (o : Options) : Json :=
  .record [("localId", .optionalText o.localId), ("nickname", .optionalText o.nickname),
    ("ignoreOwnEcho", .bool o.ignoreOwnEcho)]

/-- The options of a value; what is left out has its default. -/
def ofJson? (v : Json) : Option Options := do
  let f ← Json.Fields.ofJson? ["localId", "nickname", "ignoreOwnEcho"] v
  let localId ← f.defaulted "localId" none (Json.nullable Json.text?)
  let nickname ← f.defaulted "nickname" none (Json.nullable Json.text?)
  let ignoreOwnEcho ← f.defaulted "ignoreOwnEcho" true Json.bool?
  return { localId, nickname, ignoreOwnEcho }

end Options

end ChatRouting
