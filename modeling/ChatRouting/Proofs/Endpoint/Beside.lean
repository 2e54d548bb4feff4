import ChatRouting.Proofs.Endpoint.Opening

/-!
# What lies beside the operations of an endpoint

Operations on the identity, the keys, the sessions and the requests have nothing to do with who
subscribes and with the events that wait: such an operation does the same whatever these are, and
leaves them as they are.

## Main definitions

* `Endpoint.beside`: the endpoint with other subscribers and other events that wait
* `Endpoint.withInbound`: the endpoint with other events that wait
* `Endpoint.Beside`: an operation leaves them alone

## Main results

* `Endpoint.beside_openConversation`, `Endpoint.beside_send`
-/

namespace ChatRouting.Endpoint

/-- The endpoint with other subscribers and other events that wait. -/
def beside (e : Endpoint) (subscribers : List Subscriber) (listed : List Nat)
    (inbound : List InboundEvent) : Endpoint :=
  { e with router := { e.router with subscribers, listed }, inbound }

/-- The endpoint with other events that wait. -/
def withInbound (e : Endpoint) (inbound : List InboundEvent) : Endpoint :=
  { e with inbound }

/-- An operation does the same whoever subscribes and whichever events wait, and leaves all that as
it is. -/
def Beside {α : Type} (f : Endpoint → α × Endpoint) : Prop :=
  ∀ e ss ns q, f (e.beside ss ns q) = ((f e).1, (f e).2.beside ss ns q)

theorem beside_setNickname (nickname : String) : Beside (·.setNickname nickname) := by
  intro e ss ns q
  have hkeys : (e.beside ss ns q).keys = e.keys := rfl
  simp only [setNickname, hkeys]
  rcases e.keys.setNickname nickname with ⟨_ | identity, keys⟩ <;> rfl

theorem beside_setLocalId (id : String) : Beside (·.setLocalId id) := by
  intro e ss ns q
  have hjoined : (e.beside ss ns q).hasJoined = e.hasJoined := rfl
  simp only [setLocalId, hjoined]
  split_ifs <;> rfl

theorem beside_setKeyPair (pair : KeyPair) : Beside (·.setKeyPair pair) := by
  intro e ss ns q
  have hkeys : (e.beside ss ns q).keys = e.keys := rfl
  simp only [setKeyPair, hkeys]
  rcases e.keys.setKeyPair pair with ⟨_ | _, keys⟩ <;> rfl

theorem beside_addFriend (key : FriendKey) : Beside (·.addFriend key) := by
  intro e ss ns q
  have hkeys : (e.beside ss ns q).keys = e.keys := rfl
  simp only [addFriend, hkeys]
  rcases e.keys.addFriend key with ⟨_ | _, keys⟩ <;> rfl

theorem beside_addGroup (key : GroupKey) : Beside (·.addGroup key) := by
  intro e ss ns q
  have hkeys : (e.beside ss ns q).keys = e.keys := rfl
  simp only [addGroup, hkeys]
  rcases e.keys.addGroup key with ⟨_ | _, keys⟩ <;> rfl

theorem beside_ensureSession (id name : String) (target : Target) :
    Beside (·.ensureSession id name target) :=
  fun _ _ _ _ => rfl

theorem beside_removeSession (id : String) : Beside (·.removeSession id) :=
  fun _ _ _ _ => rfl

theorem beside_joinOnce (id : String) (r : Request) : Beside (·.joinOnce id r) := by
  intro e ss ns q
  have hstanding : (e.beside ss ns q).standingJoin? id = e.standingJoin? id := rfl
  simp only [joinOnce_eq, hstanding]
  rcases e.standingJoin? id with _ | n <;> rfl

theorem beside_openSession (id name : String) (target : Target) (r : Request) :
    Beside (·.openSession id name target r) := by
  intro e ss ns q
  simp only [openSession, beside_ensureSession id name target e ss ns q]
  rcases e.ensureSession id name target with ⟨_ | s, e'⟩
  · rfl
  · simp only [beside_joinOnce id r e' ss ns q]

/-- A conversation is opened whoever subscribes and whichever events wait. -/
theorem beside_openConversation (target : Target) :
    Beside (·.openConversation target) := by
  intro e ss ns q
  have hknown : (e.beside ss ns q).knownConversation target = e.knownConversation target :=
    knownConversation_congr rfl target
  rcases hid : e.knownConversation target with f | id
  · simp only [openConversation_of_unknown (hknown.trans hid), openConversation_of_unknown hid]
  · simp only [openConversation_of_known (hknown.trans hid), openConversation_of_known hid]
    exact beside_openSession id _ target target.join e ss ns q

/-- A text is sent whoever subscribes and whichever events wait. -/
theorem beside_send (target : Target) (plaintext : String) :
    Beside (·.send target plaintext) := by
  intro e ss ns q
  have hrequest : (e.beside ss ns q).sendRequest target plaintext =
      e.sendRequest target plaintext := rfl
  simp only [send, hrequest]
  rcases e.sendRequest target plaintext with f | r <;> rfl

theorem beside_sendToSession (id plaintext : String) :
    Beside (·.sendToSession id plaintext) := by
  intro e ss ns q
  have htarget : (e.beside ss ns q).sessionTarget id = e.sessionTarget id := rfl
  simp only [sendToSession, htarget]
  rcases e.sessionTarget id with f | target
  · rfl
  · exact beside_send target plaintext e ss ns q

end ChatRouting.Endpoint
