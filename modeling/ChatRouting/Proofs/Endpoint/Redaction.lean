import ChatRouting.Proofs.Endpoint.Opening
import ChatRouting.Proofs.Redaction

/-!
# Endpoints without their secrets

An endpoint looks at a secret only to see whether it is empty. What it does with redacted keys and
texts, once redacted itself, is what it does with the real ones, but redacted. So refusals,
sessions, receipts and the kinds and subjects of requests are the same.

## Main definitions

* `KeyRing.redact`, `Transport.redact`, `Endpoint.redact`

## Main results

* `Endpoint.setNickname_redact` and so on: operations on a redacted endpoint
-/

namespace ChatRouting

/-! ### Keys -/

namespace KeyTable

def redact (t : KeyTable) : KeyTable :=
  t.map fun entry => (entry.1, entry.2.hidden)

theorem insert_redact (id : String) (key : Bytes) (t : KeyTable) :
    insert id key.hidden t.redact = redact (insert id key t) := by
  induction t with
  | nil => rfl
  | cons entry t ih =>
    obtain ⟨other, old⟩ := entry
    rw [redact, List.map_cons, insert, insert]
    split_ifs
    · rfl
    · rfl
    · exact congrArg ((other, old.hidden) :: ·) ih

theorem find?_redact (t : KeyTable) (id : String) :
    find? t.redact id = (find? t id).map Bytes.hidden :=
  Table.lookup_mapValues t (fun _ => Bytes.hidden) id

theorem ids_redact (t : KeyTable) : ids t.redact = ids t := by
  rw [ids, ids, redact, List.map_map]
  rfl

end KeyTable

namespace KeyRing

def redact (k : KeyRing) : KeyRing where
  identity := k.identity.redact
  keyPair := k.keyPair.map KeyPair.redact
  friends := KeyTable.redact k.friends
  groups := KeyTable.redact k.groups

variable (k : KeyRing)

theorem hasFriend_redact (peer : String) : k.redact.hasFriend peer = k.hasFriend peer := by
  rw [hasFriend, hasFriend, redact, KeyTable.find?_redact, Option.isSome_map]

theorem hasGroup_redact (group : String) : k.redact.hasGroup group = k.hasGroup group := by
  rw [hasGroup, hasGroup, redact, KeyTable.find?_redact, Option.isSome_map]

theorem friendIds_redact : k.redact.friendIds = k.friendIds :=
  KeyTable.ids_redact k.friends

theorem groupIds_redact : k.redact.groupIds = k.groupIds :=
  KeyTable.ids_redact k.groups

theorem friend?_redact (peer : String) :
    k.redact.friend? peer = (k.friend? peer).map FriendKey.redact := by
  rw [friend?, friend?, redact, KeyTable.find?_redact, Option.map_map, Option.map_map]
  rfl

theorem group?_redact (group : String) :
    k.redact.group? group = (k.group? group).map GroupKey.redact := by
  rw [group?, group?, redact, KeyTable.find?_redact, Option.map_map, Option.map_map]
  rfl

theorem setNickname_redact (nickname : String) :
    k.redact.setNickname (Text.hidden (Text.trim nickname)) =
      ((k.setNickname nickname).1.map Identity.redact, (k.setNickname nickname).2.redact) := by
  rw [setNickname, setNickname, Text.trim_hidden, requireNonempty_hidden]
  cases requireNonempty (Text.trim nickname) "nickname" with
  | error f => rfl
  | ok _ => rfl

theorem setLocalId_redact (id : String) :
    k.redact.setLocalId id =
      ((k.setLocalId id).1.map Identity.redact, (k.setLocalId id).2.redact) := by
  rw [setLocalId, setLocalId]
  cases requireNonempty (Text.trim id) "local id" with
  | error f => rfl
  | ok _ => rfl

theorem setKeyPair_redact (pair : KeyPair) :
    k.redact.setKeyPair pair.redact = ((k.setKeyPair pair).1, (k.setKeyPair pair).2.redact) := by
  simp only [setKeyPair, KeyPair.redact, Bytes.hidden_eq_nil_iff]
  split_ifs
  · rfl
  · rfl

theorem addFriend_redact (key : FriendKey) :
    k.redact.addFriend key.redact = ((k.addFriend key).1, (k.addFriend key).2.redact) := by
  rw [addFriend, addFriend, FriendKey.redact]
  cases requireNonempty key.peer "peer id" with
  | error f => rfl
  | ok _ =>
    simp only [Bytes.hidden_eq_nil_iff]
    split_ifs
    · rfl
    · simp only [redact, KeyTable.insert_redact]

theorem addGroup_redact (key : GroupKey) :
    k.redact.addGroup key.redact = ((k.addGroup key).1, (k.addGroup key).2.redact) := by
  rw [addGroup, addGroup, GroupKey.redact]
  cases requireNonempty key.group "group id" with
  | error f => rfl
  | ok _ =>
    simp only [Bytes.hidden_eq_nil_iff]
    split_ifs
    · rfl
    · simp only [redact, KeyTable.insert_redact]

end KeyRing

/-! ### The transport -/

namespace Transport

def redact (t : Transport) : Transport :=
  { t with issued := t.issued.map Issue.redact }

variable (t : Transport)

theorem request?_redact (n : Nat) : t.redact.request? n = (t.request? n).map Request.redact := by
  rw [request?, request?, redact, List.getElem?_map, Option.map_map, Option.map_map]
  rfl

theorem receipt?_redact (n : Nat) : t.redact.receipt? n = t.receipt? n := by
  rw [receipt?, receipt?, redact, List.getElem?_map, Option.map_map]
  rfl

theorem outcome?_redact (n : Nat) : t.redact.outcome? n = t.outcome? n := by
  rw [outcome?, outcome?, receipt?_redact]

theorem hasFailed_redact (n : Nat) : t.redact.hasFailed n = t.hasFailed n := by
  rw [hasFailed, hasFailed, receipt?_redact]

/-- What is known of a request as soon as it is made depends on its subject alone. -/
theorem initialReply_redact (link : Link) (r : Request) :
    initialReply link r.redact = initialReply link r := by
  rw [initialReply.eq_def, initialReply.eq_def, Request.subject?_redact]

theorem issue_redact (r : Request) :
    t.redact.issue r.redact = ((t.issue r).1, (t.issue r).2.redact) := by
  have hid : t.redact.nextId = t.nextId := by
    rw [nextId, nextId, redact, List.length_map]
  rw [issue, issue, hid, redact, initialReply_redact, List.length_map, redact]
  simp only [List.map_append]
  rfl

theorem collect_redact :
    t.redact.collect =
      (t.collect.1.map fun entry => (entry.1, entry.2.redact), t.collect.2.redact) := by
  rw [collect, collect, List.map_filterMap]
  refine Prod.ext ?_ rfl
  refine List.filterMap_congr fun n _ => ?_
  rw [request?_redact, Option.map_map, Option.map_map]
  rfl

theorem modify_redact (n : Nat) (f : Receipt → Receipt) :
    t.redact.modify n f = (t.modify n f).redact := by
  have hissue (i : Issue) : { i.redact with receipt := f i.redact.receipt } =
      Issue.redact { i with receipt := f i.receipt } := rfl
  rw [modify, modify, redact, redact, modify_map hissue]

theorem detach_redact : t.redact.detach = t.detach.redact := by
  have hall (ns : List Nat) (t : Transport) :
      ns.foldl (fun t n => t.modify n Receipt.abandon) t.redact =
        (ns.foldl (fun t n => t.modify n Receipt.abandon) t).redact := by
    induction ns generalizing t with
    | nil => rfl
    | cons n ns ih => rw [List.foldl_cons, List.foldl_cons, modify_redact, ih]
  have hlink : t.redact.link = t.link := rfl
  rw [detach.eq_def, detach.eq_def, hlink]
  cases t.link with
  | loopback unreachable => rfl
  | channel attached =>
    exact congrArg (fun t : Transport => { t with link := .channel false, outbox := [] })
      (hall t.outbox t)

theorem setReachable_redact (id : String) (reachable : Bool) :
    t.redact.setReachable id reachable = (t.setReachable id reachable).redact := by
  obtain ⟨link, issued, outbox⟩ := t
  cases link with
  | channel attached => rfl
  | loopback unreachable => rfl

end Transport

/-! ### The endpoint -/

namespace Endpoint

def redact (e : Endpoint) : Endpoint :=
  { e with
    keys := e.keys.redact
    transport := e.transport.redact
    router := e.router.redact }

variable (e : Endpoint)

theorem tell_redact (r : Request) : e.redact.tell r.redact = (e.tell r).redact := by
  have hissue := e.transport.issue_redact r
  simp only [tell, request, redact, hissue]

theorem request_redact (r : Request) :
    e.redact.request r.redact = ((e.request r).1, (e.request r).2.redact) := by
  have hissue := e.transport.issue_redact r
  simp only [request, redact, hissue]

theorem setNickname_redact (nickname : String) :
    e.redact.setNickname (Text.hidden (Text.trim nickname)) =
      ((e.setNickname nickname).1.map Identity.redact, (e.setNickname nickname).2.redact) := by
  have hkeys := e.keys.setNickname_redact nickname
  rw [setNickname, setNickname, redact, hkeys]
  generalize e.keys.setNickname nickname = result
  obtain ⟨_ | identity, keys⟩ := result
  · rfl
  · exact Prod.ext rfl ({ e with keys }.tell_redact (.identitySet identity.nickname))

theorem hasJoined_redact : e.redact.hasJoined = e.hasJoined := by
  simp only [hasJoined, redact, Transport.hasFailed_redact]

theorem setLocalId_redact (id : String) :
    e.redact.setLocalId id =
      ((e.setLocalId id).1.map Identity.redact, (e.setLocalId id).2.redact) := by
  have hkeys := e.keys.setLocalId_redact id
  rw [setLocalId, setLocalId, hasJoined_redact]
  cases e.hasJoined with
  | true => rfl
  | false => simp only [Bool.false_eq_true, if_false, redact, hkeys]

theorem setKeyPair_redact (pair : KeyPair) :
    e.redact.setKeyPair pair.redact = ((e.setKeyPair pair).1, (e.setKeyPair pair).2.redact) := by
  have hkeys := e.keys.setKeyPair_redact pair
  rw [setKeyPair, setKeyPair, redact, hkeys]
  generalize e.keys.setKeyPair pair = result
  obtain ⟨_ | _, keys⟩ := result
  · rfl
  · exact Prod.ext rfl ({ e with keys }.tell_redact (.keyPairSet pair))

theorem addFriend_redact (key : FriendKey) :
    e.redact.addFriend key.redact = ((e.addFriend key).1, (e.addFriend key).2.redact) := by
  have hkeys := e.keys.addFriend_redact key
  rw [addFriend, addFriend, redact, hkeys]
  generalize e.keys.addFriend key = result
  obtain ⟨_ | _, keys⟩ := result
  · rfl
  · exact Prod.ext rfl ({ e with keys }.tell_redact (.friendKeyAdded key))

theorem addGroup_redact (key : GroupKey) :
    e.redact.addGroup key.redact = ((e.addGroup key).1, (e.addGroup key).2.redact) := by
  have hkeys := e.keys.addGroup_redact key
  rw [addGroup, addGroup, redact, hkeys]
  generalize e.keys.addGroup key = result
  obtain ⟨_ | _, keys⟩ := result
  · rfl
  · exact Prod.ext rfl ({ e with keys }.tell_redact (.groupKeyAdded key))

/-! ### Conversations -/

theorem friendConversation_redact (peer : String) :
    e.redact.friendConversation peer = e.friendConversation peer := by
  rw [friendConversation, friendConversation, redact, KeyRing.hasFriend_redact]
  rfl

theorem groupConversation_redact (group : String) :
    e.redact.groupConversation group = e.groupConversation group := by
  rw [groupConversation, groupConversation, redact, KeyRing.hasGroup_redact]

theorem standingJoin?_redact (id : String) : e.redact.standingJoin? id = e.standingJoin? id := by
  simp only [standingJoin?, redact, Transport.hasFailed_redact]

theorem joinOnce_redact (id : String) (target : Target) :
    e.redact.joinOnce id target.join =
      ((e.joinOnce id target.join).1, (e.joinOnce id target.join).2.redact) := by
  have hjoin : target.join.redact = target.join := by
    cases target <;> rfl
  have hrequest := e.request_redact target.join
  rw [hjoin] at hrequest
  rw [joinOnce, joinOnce, standingJoin?_redact]
  cases e.standingJoin? id with
  | some n => rfl
  | none =>
    simp only [hrequest]
    rfl

theorem openSession_redact (id name : String) (target : Target) :
    e.redact.openSession id name target target.join =
      ((e.openSession id name target target.join).1,
        (e.openSession id name target target.join).2.redact) := by
  have hensure : e.redact.ensureSession id name target =
      ((e.ensureSession id name target).1, (e.ensureSession id name target).2.redact) := rfl
  rw [openSession, openSession, hensure]
  generalize e.ensureSession id name target = result
  obtain ⟨_ | s, e'⟩ := result
  · rfl
  · simp only [joinOnce_redact]

theorem startDirect_redact (peer : String) :
    e.redact.startDirect peer = ((e.startDirect peer).1, (e.startDirect peer).2.redact) := by
  rw [startDirect, startDirect, friendConversation_redact]
  cases e.friendConversation peer with
  | error f => rfl
  | ok id => exact e.openSession_redact id (Session.directName peer) (.direct peer)

theorem joinGroup_redact (group : String) :
    e.redact.joinGroup group = ((e.joinGroup group).1, (e.joinGroup group).2.redact) := by
  rw [joinGroup, joinGroup, groupConversation_redact]
  cases e.groupConversation group with
  | error f => rfl
  | ok id => exact e.openSession_redact id (Session.groupName group) (.group group)

/-! ### Sending -/

theorem sendRequest_redact (target : Target) (plaintext : String) :
    e.redact.sendRequest target (Text.hidden plaintext) =
      (e.sendRequest target plaintext).map Request.redact := by
  rw [sendRequest.eq_def, sendRequest.eq_def, requireNonempty_hidden]
  cases requireNonempty plaintext "message" with
  | error f => rfl
  | ok _ =>
    cases target with
    | direct peer =>
      have hpair : e.redact.keys.keyPair.isNone = e.keys.keyPair.isNone := Option.isNone_map
      have hfriend : e.redact.keys.hasFriend peer = e.keys.hasFriend peer :=
        e.keys.hasFriend_redact peer
      have hid : e.redact.localId = e.localId := rfl
      simp only [hpair, hfriend, hid, bind, Except.bind, pure, Except.pure]
      cases requireNonempty peer "peer id" with
      | error f => rfl
      | ok _ =>
        simp only
        split_ifs
        · rfl
        · rfl
        · cases Conversation.directId e.localId peer with
          | error f => rfl
          | ok _ => rfl
    | group group =>
      simp only [groupConversation_redact, bind, Except.bind, pure, Except.pure]
      cases e.groupConversation group with
      | error f => rfl
      | ok _ => rfl

theorem send_redact (target : Target) (plaintext : String) :
    e.redact.send target (Text.hidden plaintext) =
      ((e.send target plaintext).1, (e.send target plaintext).2.redact) := by
  rw [send, send, sendRequest_redact]
  cases e.sendRequest target plaintext with
  | error f => rfl
  | ok r => simp only [Except.map, request_redact]

theorem sendToSession_redact (id plaintext : String) :
    e.redact.sendToSession id (Text.hidden plaintext) =
      ((e.sendToSession id plaintext).1, (e.sendToSession id plaintext).2.redact) := by
  have htarget : e.redact.sessionTarget id = e.sessionTarget id := rfl
  rw [sendToSession, sendToSession, htarget]
  cases e.sessionTarget id with
  | error f => rfl
  | ok target => exact e.send_redact target plaintext

/-! ### Events -/

theorem echoPeer_redact (event : InboundEvent) : e.redact.echoPeer event = e.echoPeer event := by
  cases event with
  | transportError => rfl
  | message m =>
    have hfriend : e.redact.friendOf m.conversation = e.friendOf m.conversation := by
      rw [friendOf, friendOf, redact, KeyRing.friendIds_redact]
      rfl
    rw [echoPeer, echoPeer, hfriend]
    rfl

end Endpoint

end ChatRouting
