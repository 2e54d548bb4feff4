import ChatRouting.Proofs.Endpoint.Origin
import ChatRouting.Proofs.Host.Classification
import ChatRouting.Proofs.Host.Plain
import ChatRouting.Proofs.Session.Shape

/-!
# The shape of sessions in a run

A session may be entered when its conversation is opened with a friend or with a group, by a message
of somebody else, and by an own message that has come back and is to a friend. In all four cases the
session has its shape. So all sessions have their shape at every moment of a run that does not reach
past the endpoint.

A session stays until it is removed by its id: whatever else happens, it is still there, with the
same name and the same target. So a text that is sent to the session of a group goes to that group.

## Main definitions

* `Happening.removes`: a session has just been removed

## Main results

* `Endpoint.PlainMoves.wellShaped`
* `Host.Leads.keeps`: a session stays until it is removed
* `Host.session_shape`
-/

namespace ChatRouting

namespace Endpoint

variable {start e e' : Endpoint} {id plaintext : String} {target : Target} {m : Message}

/-! ### Sessions that are entered -/

/-- A session of a conversation that is known fits. -/
theorem fits_of_known (h : e.knownConversation target = .ok id) : target.Fits id := by
  cases target with
  | direct peer => exact (friendConversation_ok h).1
  | group group => exact (eq_of_groupId (groupConversation_ok h).2).symm

/-- The friend that an own message was sent to has an id. -/
theorem ne_empty_of_friendOf {peer : String} (h : e.friendOf id = some peer) : peer ≠ "" := by
  rintro rfl
  have hderived := List.find?_some h
  cases hlocal : Conversation.directId e.localId "" with
  | error f => simp [hlocal] at hderived
  | ok other =>
    simp only [Conversation.directId, bind, Except.bind] at hlocal
    split at hlocal
    · cases hlocal
    · cases hlocal

/-- A session that a message opens fits, whoever has sent the message. -/
theorem fits_of_targetOf (hcheck : m.check = .ok ())
    (ht : e.router.targetOf m e.localId (e.echoPeer (.message m)) = .ok target)
    (hnone : e.router.registry.find? m.conversation = none) : target.Fits m.conversation := by
  unfold Router.targetOf at ht
  split_ifs at ht with hown
  · -- An own message says whom it was sent to, since there is no session yet.
    rw [echoPeer, if_pos hown, hnone] at ht
    cases hfriend : e.friendOf m.conversation with
    | none =>
      rw [hfriend] at ht
      cases ht
    | some peer =>
      rw [hfriend] at ht
      cases ht
      exact ne_empty_of_friendOf hfriend
  · cases ht
    rw [Registry.targetOf]
    split_ifs
    · rfl
    · exact (Message.check_ok hcheck).2.1

/-- When nobody reaches past the endpoint, sessions keep their shape. -/
theorem PlainSessions.wellShaped {r : Registry} (h : e.PlainSessions r)
    (hs : e.router.registry.WellShaped) : r.WellShaped := by
  cases h with
  | keep => exact hs
  | remove id => exact hs.remove id
  | enter hknown => exact hs.ensure (fits_of_known hknown)
  | judge event =>
    rcases e.router.classify_eq event e.localId (e.echoPeer event) with
      hr | ⟨m, target, rfl, hcheck, ht, hr⟩
    · rwa [hr]
    · rw [hr]
      exact hs.applyAs (fits_of_targetOf hcheck ht)

theorem PlainMoves.wellShaped (h : start.PlainMoves e) (hs : start.router.registry.WellShaped) :
    e.router.registry.WellShaped := by
  induction h with
  | refl => exact hs
  | tail _ hmove ih => exact hmove.sessions.wellShaped ih

/-- A text for the session of a group whose key is known goes to the group. -/
theorem sendToSession_group {s : Session} (hs : e.session? s.id = some s) (hid : s.id ≠ "")
    (hgroup : s.target = .group s.id) (hkey : e.keys.hasGroup s.id = true)
    (htext : plaintext ≠ "") :
    ∃ n, (e.sendToSession s.id plaintext).1 = .ok n ∧
      (e.sendToSession s.id plaintext).2.transport.requests =
        e.transport.requests ++ [.groupSend s.id plaintext] := by
  have hknown : e.knownConversation (.group s.id) = .ok s.id := by
    simp only [knownConversation, groupConversation, Conversation.groupId,
      Registry.requireNonempty_of_ne hid, bind, Except.bind, hkey]
    rfl
  rw [sendToSession_of_session? hs hid, hgroup]
  exact send_ok (sendRequest_ok hknown htext fun h => by cases h)

/-! ### Sessions that stay -/

theorem keeps_openConversation (e : Endpoint) (id : String) (target : Target) :
    e.router.registry.Keeps id (e.openConversation target).2.router.registry := by
  cases hknown : e.knownConversation target with
  | error f =>
    rw [openConversation_of_unknown hknown]
    exact .refl id _
  | ok other =>
    have hkeeps : e.router.registry.Keeps id
        (e.router.registry.ensure other (Session.defaultName other target) target).2 :=
      Registry.keeps_ensure
    rw [openConversation_of_known hknown, openSession, ensureSession]
    generalize e.router.registry.ensure other (Session.defaultName other target) target = result
      at hkeeps ⊢
    obtain ⟨_ | s, registry⟩ := result
    · exact hkeeps
    · simp only [joinOnce_router]
      exact hkeeps

/-! ### Calls that leave the router alone -/

section

variable (e : Endpoint)

theorem setNickname_router (nickname : String) : (e.setNickname nickname).2.router = e.router := by
  rw [setNickname]
  split
  · rfl
  · rfl

theorem setKeyPair_router (pair : KeyPair) : (e.setKeyPair pair).2.router = e.router := by
  rw [setKeyPair]
  split
  · rfl
  · rfl

theorem addFriend_router (key : FriendKey) : (e.addFriend key).2.router = e.router := by
  rw [addFriend]
  split
  · rfl
  · rfl

theorem addGroup_router (key : GroupKey) : (e.addGroup key).2.router = e.router := by
  rw [addGroup]
  split
  · rfl
  · rfl

theorem send_router (target : Target) (plaintext : String) :
    (e.send target plaintext).2.router = e.router := by
  rw [send]
  split
  · rfl
  · rfl

theorem sendToSession_router (id plaintext : String) :
    (e.sendToSession id plaintext).2.router = e.router := by
  rw [sendToSession]
  split
  · rfl
  · exact e.send_router _ plaintext

end

end Endpoint

/-- An event that is judged makes no session go. -/
theorem Router.keeps_classify {r : Router} (hw : r.registry.WellKept) (id : String) (event : InboundEvent)
    (localId : String) (peer : Option String) :
    r.registry.Keeps id (r.classify event localId peer).2.registry := by
  rcases r.classify_eq event localId peer with hr | ⟨m, target, -, -, -, hr⟩
  · rw [hr]
    exact .refl id _
  · rw [hr]
    exact Registry.keeps_applyAs hw

/-- The session of an id has just been removed. -/
def Happening.removes (id : String) : Happening → Bool
  | done (.removeSession other) (.truth true) => other == id
  | _ => false

namespace Host

variable {h h' : Host} {id : String} {m : Moment} {ms : List Moment}

theorem keeps_of_adjusts {router : Router} (hr : h.router.Adjusts router) :
    h.router.registry.Keeps id router.registry := by
  obtain ⟨_, _, _, rfl⟩ := hr.eq
  exact .refl id _

theorem keeps_of_router {h h' : Host} (hr : h'.router = h.router) :
    h.router.registry.Keeps id h'.router.registry := by
  rw [hr]
  exact .refl id _

theorem keeps_withEndpoint {e : Endpoint} (hr : e.router = h.endpoint.router) :
    h.router.registry.Keeps id (h.withEndpoint e).router.registry :=
  keeps_of_router hr

theorem onOpened_router {result : Except Fault (Session × Nat) × Endpoint} :
    (h.onOpened result).2.router = result.2.router := by
  obtain ⟨_ | ⟨s, receipt⟩, e⟩ := result
  · rfl
  · exact hold_router _ receipt

theorem onSent_router {result : Except Fault Nat × Endpoint} :
    (h.onSent result).2.router = result.2.router := by
  obtain ⟨_ | receipt, e⟩ := result
  · rfl
  · exact hold_router _ receipt

theorem keeps_dropReceiver (h : Host) (name : String) :
    h.router.registry.Keeps id (h.dropReceiver name).router.registry := by
  rw [dropReceiver]
  split
  · exact .refl id _
  · exact .refl id _

theorem onQueue_router (h : Host) (event : InboundEvent) : (h.onQueue event).2.router = h.router := by
  rw [onQueue]
  split_ifs
  · rfl
  · rfl

theorem onAcknowledger_router (h : Host) (request : Nat) (f : Receipt → Receipt) :
    (h.onAcknowledger request f).2.router = h.router := by
  rw [onAcknowledger]
  split
  · rfl
  · split_ifs
    · rfl
    · rfl

/-- A session that is not there is not missed, and the others stay when one is removed. -/
theorem keeps_removeSession (act : Operation → Host → StepResult × Host) (h : Host) (other : String)
    (hremoved : (Happening.done (.removeSession other)
      (stepHeld act h (.removeSession other)).1).removes id = false) :
    h.router.registry.Keeps id (h.endpoint.removeSession other).2.router.registry := by
  by_cases hother : other = id
  · subst hother
    cases hf : h.router.registry.find? other with
    | none => exact Registry.keeps_of_none hf
    | some s =>
      by_cases hid : other = ""
      · subst hid
        exact .refl "" _
      · have hanswer : (h.endpoint.removeSession other).1 =
            .ok (h.router.registry.contains other) :=
          congrArg Prod.fst (Registry.remove_of_ne hid)
        rw [Registry.contains_eq_isSome_find?, hf] at hanswer
        simp [stepHeld, onEndpoint, hanswer, Answer.ofExcept, Happening.removes] at hremoved
  · exact Registry.keeps_remove hother

/-- An operation that processes no event makes no session go but the one that it removes. -/
theorem keeps_stepHeld (act : Operation → Host → StepResult × Host) (h : Host) {op : Operation}
    (hop : op.processes = false)
    (hremoved : (Happening.done op (stepHeld act h op).1).removes id = false) :
    h.router.registry.Keeps id (stepHeld act h op).2.router.registry := by
  cases op with
  | route | handle | processPending | processNext => cases hop
  | subscribe name | subscribeChannel name => exact keeps_dropReceiver h name
  | dropReceiver name => exact keeps_dropReceiver h name
  | unsubscribe name =>
    simp only [stepHeld]
    split
    · exact .refl id _
    · exact .refl id _
  | receive name =>
    simp only [stepHeld]
    split
    · exact .refl id _
    · next n _ => exact keeps_of_adjusts (.receive n)
  | close => exact keeps_of_adjusts .close
  | ensureSession => exact Registry.keeps_ensure
  | removeSession other =>
    exact keeps_removeSession act h other hremoved
  | startDirect peer =>
    simp only [stepHeld, onOpened_router]
    exact h.endpoint.keeps_openConversation id (.direct peer)
  | joinGroup group =>
    simp only [stepHeld, onOpened_router]
    exact h.endpoint.keeps_openConversation id (.group group)
  | setNickname nickname => exact keeps_withEndpoint (h.endpoint.setNickname_router nickname)
  | setLocalId name => exact keeps_withEndpoint (h.endpoint.setLocalId_router name)
  | setKeyPair pair => exact keeps_withEndpoint (h.endpoint.setKeyPair_router pair)
  | addFriend key => exact keeps_withEndpoint (h.endpoint.addFriend_router key)
  | addGroup key => exact keeps_withEndpoint (h.endpoint.addGroup_router key)
  | send target plaintext =>
    exact keeps_of_router (onSent_router.trans (h.endpoint.send_router target plaintext))
  | sendToSession other plaintext =>
    exact keeps_of_router (onSent_router.trans (h.endpoint.sendToSession_router other plaintext))
  | queue event => exact keeps_of_router (h.onQueue_router event)
  | queueMessage m => exact keeps_of_router (h.onQueue_router (.message m))
  | queueError reason timestamp =>
    exact keeps_of_router (h.onQueue_router (.transportError reason timestamp))
  | answer request outcome => exact keeps_of_router (h.onAcknowledger_router request _)
  | abandon request => exact keeps_of_router (h.onAcknowledger_router request _)
  | poll handle =>
    simp only [stepHeld]
    split
    · exact .refl id _
    · exact .refl id _
  | wait handle =>
    simp only [stepHeld]
    split
    · exact .refl id _
    · exact .refl id _
    · exact .refl id _
  | isActive | subscriberCount | hasSession | session | sessions | isClosed | isDelivering
  | identity | friendKey | groupKey | friendIds | groupIds | conversationId | unreadable | panic
  | forget | release | detach => exact .refl id _

/-- Inside a callback the operations that process events make no session go either. -/
theorem keeps_stepHeld_of_delivering (act : Operation → Host → StepResult × Host)
    (hd : h.router.delivering = true) {op : Operation} (hop : op.processes = true) :
    h.router.registry.Keeps id (stepHeld act h op).2.router.registry := by
  cases op with
  | route event localId peer =>
    obtain ⟨f, hf⟩ := route_of_delivering act hd event localId peer
    simp only [stepHeld, hf]
    exact .refl id _
  | handle event =>
    simp only [stepHeld, handle_of_delivering act hd event]
    split_ifs
    · exact .refl id _
    · exact .refl id _
  | processPending =>
    simp only [stepHeld, processPending_of_delivering act hd]
    exact .refl id _
  | processNext =>
    simp only [stepHeld, processNext_of_delivering act hd]
    exact .refl id _
  | _ => cases hop

theorem keeps_step (act : Operation → Host → StepResult × Host) {op : Operation}
    (hop : op.processes = false ∨ h.router.delivering = true)
    (hremoved : (Happening.done op (step act op h).1.answer).removes id = false) :
    h.router.registry.Keeps id (step act op h).2.router.registry := by
  rw [step] at hremoved ⊢
  split_ifs at hremoved ⊢
  · exact keeps_of_router (collect_router .gone h)
  · have hcollect : (collect (stepHeld act h op)).2.router = (stepHeld act h op).2.router :=
      collect_router _ _
    rw [hcollect]
    cases hprocesses : op.processes with
    | false => exact keeps_stepHeld act h hprocesses hremoved
    | true =>
      exact keeps_stepHeld_of_delivering act (hop.resolve_left (by simp [hprocesses])) hprocesses

/-! ### A session stays until it is removed -/

theorem Between.keeps (hb : Between h h') (hw : h.router.registry.WellKept) (id : String) :
    h.router.registry.Keeps id h'.router.registry := by
  cases hb with
  | take | mark => exact .refl id _
  | classify event localId peer _ => exact Router.keeps_classify hw id event localId peer

theorem Occurs.keeps (ho : Occurs h m) (hremoved : m.happening.removes id = false) :
    h.router.registry.Keeps id m.host.router.registry := by
  cases ho with
  | told | passed => exact .refl id _
  | noticed n _ => exact keeps_of_adjusts (.deactivate n)
  | inside n op hd => exact keeps_step _ (Or.inr hd) hremoved
  | outside hop => exact keeps_step _ (Or.inl hop) hremoved
  | @processed _ a _ _ => exact keeps_of_router (collect_router a h)

/-- From one moment to another a session stays if it is not removed on the way. -/
theorem Leads.keeps (hl : Leads h ms h') (hw : h.router.registry.WellKept)
    (hkept : ∀ m ∈ ms, m.happening.removes id = false) :
    h.router.registry.Keeps id h'.router.registry := by
  induction hl with
  | refl => exact .refl id _
  | between hl hb ih => exact (ih hkept).trans (hb.keeps (hl.moves.wellKept hw) id)
  | moment hl ho ih =>
    have hbefore := ih fun m hm => hkept m (List.mem_append_left _ hm)
    exact hbefore.trans (ho.keeps (hkept _ (by simp)))

/-- **Sessions have their shape, and those that are not removed stay.** This holds at every moment
of a run that does not reach past the endpoint, between operations and inside callbacks: the id of a
session is not empty, the session of a group is with the group of its id, names are made from the id
of the group or of the peer, and the text and the time of a newest message are there together. From
one moment to any later one a session is still there, with its name and its target, unless it was
removed by its id on the way. So a text that is not empty goes from the session of a group whose key
is known to the group, and to nobody else. -/
theorem session_shape (keys : KeyRing) (transport : Transport) (ignoreOwnEcho : Bool)
    {ops : List Operation} (hplain : ∀ op ∈ ops, op.isPlain = true) :
    let start := fresh keys transport ignoreOwnEcho
    (∀ m ∈ moments ops start, ∀ s ∈ m.host.endpoint.sessions,
      s.WellShaped ∧
      ∀ group plaintext, s.target = .group group → m.host.endpoint.keys.hasGroup s.id = true →
        plaintext ≠ "" →
        ∃ n, (m.host.endpoint.sendToSession s.id plaintext).1 = .ok n ∧
          (m.host.endpoint.sendToSession s.id plaintext).2.transport.requests =
            m.host.endpoint.transport.requests ++ [.groupSend s.id plaintext]) ∧
    ∀ before m between m' later, moments ops start = before ++ m :: (between ++ m' :: later) →
      ∀ s ∈ m.host.endpoint.sessions, (∀ x ∈ between ++ [m'], x.happening.removes s.id = false) →
        ∃ s' ∈ m'.host.endpoint.sessions, s'.id = s.id ∧ s'.name = s.name ∧
          s'.target = s.target := by
  intro start
  have hstart : start.router.registry.WellKept := Registry.wellKept_empty
  have hmoves : ∀ m ∈ moments ops start, start.endpoint.PlainMoves m.host.endpoint :=
    fun m hm => (plainLeads_moments_fresh keys transport ignoreOwnEcho hplain).plainMoves_of_mem hm
  have hkept : ∀ m ∈ moments ops start, m.host.router.registry.WellKept :=
    fun m hm => (hmoves m hm).moves.wellKept hstart
  refine ⟨fun m hm s hs => ?_, fun before m between m' later hms s hs hremoved => ?_⟩
  · have hfound : m.host.endpoint.session? s.id = some s :=
      (hkept m hm).find?_eq_some_iff.mpr ⟨hs, rfl⟩
    have hshape := (hmoves m hm).wellShaped Registry.wellShaped_empty s.id s hfound
    refine ⟨hshape, fun group plaintext hgroup hkey htext => ?_⟩
    have hown : s.target = .group s.id := by
      rw [hgroup, (hshape.group group hgroup).1]
    exact Endpoint.sendToSession_group hfound hshape.named hown hkey htext
  · have hm : m ∈ moments ops start := by simp [hms]
    have hm' : m' ∈ moments ops start := by simp [hms]
    have hfound := (hkept m hm).find?_eq_some_iff.mpr ⟨hs, rfl⟩
    have hl := leads_moments_fresh keys transport ignoreOwnEcho ops
    rw [hms, List.append_cons, List.append_cons between] at hl
    have hon := hl.split.2
    rw [after_append_singleton] at hon
    have hway := hon.split.1
    rw [after_append_singleton] at hway
    obtain ⟨s', hs', hheading⟩ := hway.keeps (hkept m hm) hremoved s hfound
    exact ⟨s', ((hkept m' hm').find?_eq_some_iff.mp hs').1, congrArg (·.1) hheading,
      congrArg (·.2.1) hheading, congrArg (·.2.2) hheading⟩

/-- A message that is said to be direct comes in the conversation of a group that has been joined.
The session stays one of the group, and a text for it goes to the group. -/
theorem session_shape_disagreeing :
    let start := fresh (KeyRing.ofId "alice") .channel true
    let message : Message :=
      { conversation := "team-alpha", sender := "bob", isGroup := false, subject := ""
        timestamp := "2024-01-01T00:00:01Z", plaintext := "hi" }
    let ops : List Operation :=
      [.addGroup { group := "team-alpha", symmetricKey := [1] }, .joinGroup "team-alpha",
        .handle (.message message)]
    ∃ m₀ m₁ m₂, moments ops start = [m₀, m₁, m₂] ∧
      ∃ s ∈ m₁.host.endpoint.sessions, s.WellShaped ∧ s.name = "Group team-alp" ∧
        s.lastMessage = none ∧
      ∃ s' ∈ m₂.host.endpoint.sessions, s'.WellShaped ∧ s'.name = s.name ∧ s'.target = s.target ∧
        ∃ n, (m₂.host.endpoint.sendToSession s'.id "hello").1 = .ok n ∧
          (m₂.host.endpoint.sendToSession s'.id "hello").2.transport.requests =
            m₂.host.endpoint.transport.requests ++ [.groupSend s'.id "hello"] := by
  intro start message ops
  have hplain : ∀ op ∈ ops, op.isPlain = true := by decide
  obtain ⟨hshape, hstay⟩ := session_shape (KeyRing.ofId "alice") .channel true hplain
  have hlength : (moments ops start).length = 3 := by decide +kernel
  have hsecond : ∀ m ∈ (moments ops start)[1]?, ∃ s ∈ m.host.endpoint.sessions,
      s.id = "team-alpha" ∧ s.name = "Group team-alp" ∧ s.target = .group "team-alpha" ∧
        s.lastMessage = none := by decide +kernel
  have hlast : ∀ m ∈ (moments ops start)[2]?, m.happening.removes "team-alpha" = false ∧
      m.host.endpoint.keys.hasGroup "team-alpha" = true := by decide +kernel
  obtain ⟨m₀, m₁, m₂, hms⟩ := List.length_eq_three.mp hlength
  rw [hms] at hsecond hlast
  obtain ⟨s, hs, hid, hname, htarget, hnone⟩ := hsecond m₁ rfl
  obtain ⟨hremoved, hkey⟩ := hlast m₂ rfl
  have hm₁ : m₁ ∈ moments ops start := by simp [hms]
  have hm₂ : m₂ ∈ moments ops start := by simp [hms]
  obtain ⟨s', hs', hid', hname', htarget'⟩ := hstay [m₀] m₁ [] m₂ [] hms s hs
    (List.forall_mem_singleton.mpr (hid ▸ hremoved))
  obtain ⟨hshape', hsend⟩ := hshape m₂ hm₂ s' hs'
  have hgroup : m₂.host.endpoint.keys.hasGroup s'.id = true := by rw [hid', hid, hkey]
  exact ⟨m₀, m₁, m₂, hms, s, hs, (hshape m₁ hm₁ s hs).1, hname, hnone, s', hs', hshape', hname',
    htarget', hsend _ "hello" (htarget'.trans htarget) hgroup (by decide)⟩

end Host

end ChatRouting
