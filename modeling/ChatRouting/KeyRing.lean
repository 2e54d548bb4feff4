import ChatRouting.Fault
import ChatRouting.Identity
import ChatRouting.Text.Blank

/-!
# The key ring

Who the local user is, the local key pair, and the keys of friends and groups, each list in
increasing order of ids. A key that is set again replaces the one before; an update that is
refused changes nothing.

A table has its order from the insertions, and not from a sorting when the ids are listed. It
keeps a key without its record. A record is put in under the id that it has itself, so that the
record that is made from id and key when a key is looked up is the one that was put in.

## Main definitions

* `KeyRing.setNickname`, `KeyRing.setLocalId`, `KeyRing.setKeyPair`
* `KeyRing.addFriend`, `KeyRing.addGroup`
* `KeyRing.friend?`, `KeyRing.group?`, `KeyRing.friendIds`, `KeyRing.groupIds`
-/

namespace ChatRouting

/-- The keys of one kind in increasing order of ids. -/
abbrev KeyTable := List (String × Bytes)

namespace KeyTable

/-- The table with the key of an id, in place of the one there was. -/
def insert (id : String) (key : Bytes) : KeyTable → KeyTable
  | [] => [(id, key)]
  | (other, old) :: rest =>
    if id < other then (id, key) :: (other, old) :: rest
    else if id = other then (id, key) :: rest
    else (other, old) :: insert id key rest

/-- The key of an id. -/
def find? (t : KeyTable) (id : String) : Option Bytes :=
  t.lookup id

/-- The ids in increasing order. -/
def ids (t : KeyTable) : List String :=
  t.map (·.1)

end KeyTable

/-- The identity and the keys of the local user. -/
structure KeyRing where
  identity : Identity
  keyPair : Option KeyPair := none
  friends : KeyTable := []
  groups : KeyTable := []

namespace KeyRing

/-- The ring of a user without keys. -/
def ofId (id : String) : KeyRing :=
  { identity := { id, nickname := "" } }

/-- The nickname is trimmed and must not be blank. -/
def setNickname (k : KeyRing) (nickname : String) : Except Fault Identity × KeyRing :=
  let nickname := Text.trim nickname
  match requireNonempty nickname "nickname" with
  | .error f => (.error f, k)
  | .ok () =>
    let identity := { k.identity with nickname }
    (.ok identity, { k with identity })

/-- The id is trimmed and must not be blank. -/
def setLocalId (k : KeyRing) (id : String) : Except Fault Identity × KeyRing :=
  let id := Text.trim id
  match requireNonempty id "local id" with
  | .error f => (.error f, k)
  | .ok () =>
    let identity := { k.identity with id }
    (.ok identity, { k with identity })

/-- Both halves of the key pair must hold bytes. -/
def setKeyPair (k : KeyRing) (pair : KeyPair) : Except Fault Unit × KeyRing :=
  if pair.privateKey = [] ∨ pair.publicKey = [] then (.error (.empty "local keypair"), k)
  else (.ok (), { k with keyPair := some pair })

/-- The key of a friend. Neither the id nor the key may be empty. -/
def addFriend (k : KeyRing) (key : FriendKey) : Except Fault Unit × KeyRing :=
  match requireNonempty key.peer "peer id" with
  | .error f => (.error f, k)
  | .ok () =>
    if key.publicKey = [] then (.error (.invalidInput s!"public key for {key.peer} is empty"), k)
    else (.ok (), { k with friends := KeyTable.insert key.peer key.publicKey k.friends })

/-- The key of a group. Neither the id nor the key may be empty. -/
def addGroup (k : KeyRing) (key : GroupKey) : Except Fault Unit × KeyRing :=
  match requireNonempty key.group "group id" with
  | .error f => (.error f, k)
  | .ok () =>
    if key.symmetricKey = [] then
      (.error (.invalidInput s!"symmetric key for {key.group} is empty"), k)
    else (.ok (), { k with groups := KeyTable.insert key.group key.symmetricKey k.groups })

/-- The key of a friend. -/
def friend? (k : KeyRing) (peer : String) : Option FriendKey :=
  (KeyTable.find? k.friends peer).map fun publicKey => { peer, publicKey }

/-- The key of a group. -/
def group? (k : KeyRing) (group : String) : Option GroupKey :=
  (KeyTable.find? k.groups group).map fun symmetricKey => { group, symmetricKey }

/-- A key is known for the friend. -/
def hasFriend (k : KeyRing) (peer : String) : Bool :=
  (KeyTable.find? k.friends peer).isSome

/-- A key is known for the group. -/
def hasGroup (k : KeyRing) (group : String) : Bool :=
  (KeyTable.find? k.groups group).isSome

/-- The friends in increasing order. -/
def friendIds (k : KeyRing) : List String :=
  KeyTable.ids k.friends

/-- The groups in increasing order. -/
def groupIds (k : KeyRing) : List String :=
  KeyTable.ids k.groups

end KeyRing

end ChatRouting
