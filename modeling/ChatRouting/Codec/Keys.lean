import ChatRouting.Bytes.Hex
import ChatRouting.Identity
import ChatRouting.Json.Decoder

/-!
# Identities and keys in JSON

Objects with the parts in the order below; the bytes of a key are hexadecimal text.
-/

namespace ChatRouting

open Json (text?)

/-- The bytes of hexadecimal text. -/
def Json.hexBytes? (v : Json) : Option Bytes :=
  v.text?.bind Hex.decode?

namespace Identity

/-- An identity as an object. -/
def toJson (i : Identity) : Json :=
  .record [("id", .text i.id), ("nickname", .text i.nickname)]

/-- The identity of a value. -/
def ofJson? (v : Json) : Option Identity := do
  let f ← Json.Fields.ofJson? ["id", "nickname"] v
  let id ← f.required "id" text?
  let nickname ← f.required "nickname" text?
  return { id, nickname }

end Identity

namespace FriendKey

/-- A friend's key as an object. -/
def toJson (k : FriendKey) : Json :=
  .record [("peerId", .text k.peer), ("publicKey", .text (Hex.encode k.publicKey))]

/-- The friend's key of a value. -/
def ofJson? (v : Json) : Option FriendKey := do
  let f ← Json.Fields.ofJson? ["peerId", "publicKey"] v
  let peer ← f.required "peerId" text?
  let publicKey ← f.required "publicKey" Json.hexBytes?
  return { peer, publicKey }

end FriendKey

namespace GroupKey

/-- A group's key as an object. -/
def toJson (k : GroupKey) : Json :=
  .record [("groupId", .text k.group), ("symmetricKey", .text (Hex.encode k.symmetricKey))]

/-- The group's key of a value. -/
def ofJson? (v : Json) : Option GroupKey := do
  let f ← Json.Fields.ofJson? ["groupId", "symmetricKey"] v
  let group ← f.required "groupId" text?
  let symmetricKey ← f.required "symmetricKey" Json.hexBytes?
  return { group, symmetricKey }

end GroupKey

end ChatRouting
