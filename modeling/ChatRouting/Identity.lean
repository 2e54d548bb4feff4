import ChatRouting.Bytes.Hex
import ChatRouting.Text.Quoted

/-!
# Identities and keys

Who the local user is, and the keys known for friends and groups. Keys are opaque bytes:
nothing here looks into them, and the text that describes a key for people counts its bytes
and does not show them.
-/

namespace ChatRouting

/-- The local user. -/
structure Identity where
  id : String
  nickname : String
  deriving DecidableEq, Repr

/-- The id made of eight random bytes. -/
def Identity.generatedId (random : Bytes) : String :=
  "user_" ++ Hex.encode random

/-- A generated id starts with its mark and goes on with sixteen lowercase digits. -/
def Identity.isGeneratedId (id : String) : Bool :=
  let (mark, rest) := id.toList.splitAt 5
  mark == "user_".toList && rest.length == 16
    && rest.all fun c => c.isDigit || ('a' ≤ c && c ≤ 'f')

/-- The public key of a friend. -/
structure FriendKey where
  peer : String
  publicKey : Bytes
  deriving DecidableEq, Repr

/-- The key that the members of a group share. -/
structure GroupKey where
  group : String
  symmetricKey : Bytes
  deriving DecidableEq, Repr

/-- The two halves of the local user's key. -/
structure KeyPair where
  privateKey : Bytes
  publicKey : Bytes
  deriving DecidableEq, Repr

/-- A count of bytes in place of the bytes. -/
def describeBytes (bytes : Bytes) : String :=
  s!"<{bytes.length} bytes>"

/-- A text for people, without the key. -/
def FriendKey.describe (k : FriendKey) : String :=
  "FriendKey \x7b peer_id: " ++ Text.quoted k.peer ++ ", public_key: "
    ++ describeBytes k.publicKey ++ " \x7d"

/-- A text for people, without the key. -/
def GroupKey.describe (k : GroupKey) : String :=
  "GroupKey \x7b group_id: " ++ Text.quoted k.group ++ ", symmetric_key: "
    ++ describeBytes k.symmetricKey ++ " \x7d"

end ChatRouting
