import ChatRouting.Proofs.Conversation
import ChatRouting.Proofs.Host.FirstMessage

/-!
# Two participants

Two users who have added each other as friends each open the conversation with the other. They do
not have to agree on anything before: each computes the id of the conversation from the two user
ids, whose order does not matter. So both sessions have one id, and what either user sends under
this id updates the session of the other.

Between opening the conversation and the arrival of a message an endpoint may do anything. As long
as the session is there and its user has not taken the id of the other, a message of the other
updates the session and enters none. All this is settled before the first subscriber is told.

## Main definitions

* `Host.AtRest`: an open endpoint outside of a delivery, as a run can lead to it
* `Host.TakesIn`: a message updates a session that is there
* `Host.Opens`: what becomes of opening the conversation with a friend

## Main results

* `Host.takesIn_of_session`, `Host.opens_of_friend`
* `Host.participants_converge`
-/

namespace ChatRouting

namespace Endpoint

variable {e : Endpoint}

/-- With a friend there is a conversation if the ids of both users are there and differ. -/
theorem knownConversation_of_friend {peer id : String} (hfriend : e.keys.hasFriend peer = true)
    (hid : Conversation.directId e.localId peer = .ok id) :
    e.knownConversation (.direct peer) = .ok id := by
  have hpeer := (Conversation.directId_eq_ok_iff.mp hid).1.2.1
  simp only [knownConversation, friendConversation, Registry.requireNonempty_of_ne hpeer, bind,
    Except.bind, hfriend, if_true, hid]

/-- A conversation without a session is opened with a new one. -/
theorem openConversation_of_absent {target : Target} {id : String}
    (hknown : e.knownConversation target = .ok id) (hnone : e.session? id = none) :
    let s : Session := { id, name := Session.defaultName id target, target }
    ∃ n e', e.openConversation target = (.ok (s, n), e') ∧ e'.keys = e.keys ∧
      e'.router = { e.router with registry := e.router.registry.insert s } := by
  intro s
  have hne : id ≠ "" := Conversation.ne_empty_of_idOf (idOf_of_knownConversation hknown)
  let entered : Endpoint :=
    { e with router := { e.router with registry := e.router.registry.insert s } }
  have hensure : e.ensureSession id s.name target = (.ok s, entered) := by
    simp only [ensureSession, Registry.ensure_of_absent hne hnone, s, entered]
  have hopened : e.openConversation target =
      (.ok (s, (entered.joinOnce id target.join).1), (entered.joinOnce id target.join).2) := by
    rw [openConversation_of_known hknown, openSession, hensure]
  exact ⟨_, _, hopened, joinOnce_keys _ _, joinOnce_router _ _⟩

end Endpoint

namespace Host

/-- An open endpoint outside of a delivery, as a run can lead to it. -/
structure AtRest (h : Host) : Prop where
  reached : ∃ keys transport ignoreOwnEcho,
    (fresh keys transport ignoreOwnEcho).endpoint.Moves h.endpoint
  held : h.held = true
  unclosed : h.router.closed = false
  idle : h.router.delivering = false

/-- A message that is handled updates a session that is there, and is told after that. -/
structure TakesIn (h : Host) (m : Message) (s : Session) : Prop where
  answer : (perform (.handle (.message m)) h).1.answer = .notified (some (.sessionUpdated s m))
  /-- The subscribers are told when no session but this one has changed, and none is new. -/
  told : ∃ registry : Registry,
    registry.list = h.endpoint.sessions.map (fun t => if t.id = m.conversation then s else t) ∧
    registry.find? m.conversation = some s ∧
    (perform (.handle (.message m)) h).2 =
      (collect (.notified (some (.sessionUpdated s m)), fanOut inside (.sessionUpdated s m)
        (h.withRouter { h.router with registry }))).2
  /-- Subscribers who leave the core alone leave the sessions so. -/
  spared : h.router.CallbacksAll Operation.sparesCore →
    (perform (.handle (.message m)) h).2.endpoint.sessions =
      h.endpoint.sessions.map fun t => if t.id = m.conversation then s else t

/-- What becomes of opening the conversation with a friend, of which there is no session. -/
structure Opens (h : Host) (peer : String) (s : Session) : Prop where
  /-- The session is with the friend, and new. -/
  target : s.target = .direct peer
  opened : ∃ handle request, (perform (.startDirect peer) h).1.answer = .opened s handle request
  entered : (perform (.startDirect peer) h).2.endpoint.sessions = h.endpoint.sessions ++ [s]
  atRest : (perform (.startDirect peer) h).2.AtRest
  /-- The first message of the friend is the newest of the session. -/
  first : ∀ m : Message, m.conversation = s.id → m.sender = peer → ∀ time,
    Instant.ofText m.timestamp = .ok time → (perform (.startDirect peer) h).2.TakesIn m
      { s with lastMessage := some m.plaintext, lastTime := some time }
  /-- Later messages of the friend update the session while it is there. -/
  later : ∀ ops, let h' := run ops (perform (.startDirect peer) h).2
    h'.held = true → h'.router.closed = false → h'.endpoint.localId ≠ peer →
    ∀ s', h'.endpoint.session? s.id = some s' →
      ∀ m : Message, m.conversation = s.id → m.sender = peer → ∀ time,
        Instant.ofText m.timestamp = .ok time → h'.TakesIn m (s'.receive m.plaintext time)

variable {h : Host} {m : Message} {s : Session}

/-! ### Hosts at rest -/

theorem AtRest.wellKept (hr : h.AtRest) : h.router.registry.WellKept := by
  obtain ⟨keys, transport, ignoreOwnEcho, hmoves⟩ := hr.reached
  exact hmoves.wellKept Registry.wellKept_empty

/-- A run leads on to hosts at rest, unless the endpoint is let go or closed. -/
theorem AtRest.run (hr : h.AtRest) (ops : List Operation) (hheld : (run ops h).held = true)
    (hclosed : (Host.run ops h).router.closed = false) : (Host.run ops h).AtRest := by
  obtain ⟨keys, transport, ignoreOwnEcho, hmoves⟩ := hr.reached
  have horderly : h.router.Orderly := hmoves.orderly ⟨List.Pairwise.nil, by simp [fresh]⟩
  have hserial := run_serializes ops horderly hr.idle
  obtain ⟨_, _, _, hdelivers, hidle⟩ := hserial
  exact ⟨⟨keys, transport, ignoreOwnEcho, hmoves.trans hdelivers.moves⟩, hheld, hclosed, hidle⟩

theorem atRest_fresh (keys : KeyRing) (transport : Transport) (ignoreOwnEcho : Bool) :
    (fresh keys transport ignoreOwnEcho).AtRest :=
  ⟨⟨keys, transport, ignoreOwnEcho, .refl⟩, rfl, rfl, rfl⟩

/-! ### Messages of the other -/

/-- A message of another user updates the session of its conversation. -/
theorem takesIn_of_session (hr : h.AtRest) (hs : h.endpoint.session? m.conversation = some s)
    (hsender : m.sender ≠ "") (hother : m.sender ≠ h.endpoint.localId) {time : Instant}
    (htime : Instant.ofText m.timestamp = .ok time) :
    h.TakesIn m (s.receive m.plaintext time) := by
  have hw := hr.wellKept
  have hecho : h.router.dropsEcho m h.endpoint.localId = false :=
    Router.dropsEcho_eq_false fun _ _ => hother
  have hflaw : h.router.flaw? m h.endpoint.localId (h.endpoint.echoPeer (.message m)) = none := by
    rw [← Option.not_isSome_iff_eq_none, Router.flaw?_isSome_iff]
    rintro (hconversation | hempty | ⟨f, hf⟩ | ⟨-, hown, -⟩)
    · exact hw.ne_empty_of_find? hs hconversation
    · exact hsender hempty
    · rw [htime] at hf
      cases hf
    · exact hother hown
  obtain ⟨target, time', s', registry, -, htime', hupdates, hclassify⟩ :=
    Router.classify_of_sound hw hecho hflaw
  obtain rfl : time = time' := Except.ok.inj (htime.symm.trans htime')
  obtain ⟨rfl, hlist⟩ := hupdates.received s hs
  have hstep := perform_handle_eq hr.held hr.unclosed hr.idle hclassify
  refine ⟨by rw [hstep]; rfl, ⟨registry, hlist, hupdates.found, by rw [hstep]⟩, fun hspares => ?_⟩
  have hn : (h.endpoint.classify (.message m)).1 =
      some (.sessionUpdated (s.receive m.plaintext time) m) := congrArg Prod.fst hclassify
  have hrouter : (h.endpoint.classify (.message m)).2.router = { h.router with registry } :=
    congrArg Prod.snd hclassify
  obtain ⟨-, hagrees, -⟩ := perform_handle hr.held hr.unclosed hr.idle hspares hn
  rw [Endpoint.sessions, hagrees.registry, hrouter]
  exact hlist

/-! ### Opening the conversation -/

/-- Where there is a friend and no session, the conversation is opened, and messages of the friend
update its session. -/
theorem opens_of_friend (hr : h.AtRest) {peer id : String}
    (hfriend : h.endpoint.keys.hasFriend peer = true)
    (hid : Conversation.directId h.endpoint.localId peer = .ok id)
    (hnone : h.endpoint.session? id = none) :
    h.Opens peer { id, name := Session.directName peer, target := .direct peer } := by
  obtain ⟨-, hpeer, hne⟩ := (Conversation.directId_eq_ok_iff.mp hid).1
  have hknown := Endpoint.knownConversation_of_friend hfriend hid
  obtain ⟨n, e', hopened, hkeys, hrouter⟩ := Endpoint.openConversation_of_absent hknown hnone
  obtain ⟨hendpoint, hheld⟩ := perform_opening hr.held (.direct peer)
  let s : Session := { id, name := Session.directName peer, target := .direct peer }
  let after := (perform (.startDirect peer) h).2
  have hafter : after.endpoint = e'.collected :=
    hendpoint.trans (congrArg (fun opened => opened.2.collected) hopened)
  have hregistry : after.endpoint.router.registry = h.router.registry.insert s := by
    rw [hafter]
    exact congrArg Router.registry hrouter
  have hlocal : after.endpoint.localId = h.endpoint.localId := by
    rw [hafter]
    exact congrArg (fun keys => keys.identity.id) hkeys
  have hrest : after.AtRest := by
    refine hr.run [.startDirect peer] hheld ?_
    have hclosed : e'.router.closed = h.router.closed := by
      rw [hrouter]
      rfl
    exact (congrArg (fun e => e.router.closed) hafter).trans (hclosed.trans hr.unclosed)
  have hthere : after.endpoint.session? id = some s := by
    rw [Endpoint.session?, hregistry, Registry.find?_insert, if_pos rfl]
  refine ⟨rfl, perform_opening_answer hr.held hopened, ?_, hrest, ?_, ?_⟩
  · exact (congrArg Registry.list hregistry).trans (hr.wellKept.list_insert s)
  · rintro m hm rfl time htime
    have hs : after.endpoint.session? m.conversation = some s := by rwa [hm]
    exact takesIn_of_session hrest hs hpeer (by rw [hlocal]; exact hne.symm) htime
  · rintro ops h' hheld' hclosed' hother s' hs' m hm rfl time htime
    rw [← hm] at hs'
    exact takesIn_of_session (hrest.run ops hheld' hclosed') hs' hpeer hother.symm htime

/-- **Both participants converge.** Two users have a conversation just if both have ids and these
differ, and each computes the same id of it, of sixteen hexadecimal digits. If they are friends of
each other, and there is no session of the id, both open the conversation with sessions of one id.
Then a message of either updates the session of the other. This holds whatever was done before. -/
theorem participants_converge :
    (∀ a b, ((∃ id, Conversation.directId a b = .ok id) ↔ a ≠ "" ∧ b ≠ "" ∧ a ≠ b) ∧
      ∀ id, Conversation.directId a b = .ok id → Conversation.directId b a = .ok id ∧
        id.length = 16 ∧ ∀ c ∈ id.toList, c ∈ "0123456789abcdef".toList) ∧
    (∀ keys transport ignoreOwnEcho ops, let h := run ops (fresh keys transport ignoreOwnEcho)
      h.held = true → h.router.closed = false → h.AtRest) ∧
    ∀ h₁ h₂ : Host, h₁.AtRest → h₂.AtRest →
      h₁.endpoint.keys.hasFriend h₂.endpoint.localId = true →
      h₂.endpoint.keys.hasFriend h₁.endpoint.localId = true →
      ∀ id, Conversation.directId h₁.endpoint.localId h₂.endpoint.localId = .ok id →
        h₁.endpoint.session? id = none → h₂.endpoint.session? id = none →
        ∃ s₁ s₂, s₁.id = id ∧ s₂.id = id ∧
          h₁.Opens h₂.endpoint.localId s₁ ∧ h₂.Opens h₁.endpoint.localId s₂ := by
  refine ⟨fun a b => ⟨?_, fun id hid => ⟨Conversation.directId_comm hid, ?_⟩⟩, ?_, ?_⟩
  · simp only [Conversation.directId_eq_ok_iff, exists_and_left, exists_eq, and_true]
  · rw [(Conversation.directId_eq_ok_iff.mp hid).2]
    exact Conversation.hashedId_digits _
  · intro keys transport ignoreOwnEcho ops h hheld hclosed
    exact (atRest_fresh keys transport ignoreOwnEcho).run ops hheld hclosed
  · intro h₁ h₂ hr₁ hr₂ hfriend₁ hfriend₂ id hid hnone₁ hnone₂
    exact ⟨_, _, rfl, rfl, opens_of_friend hr₁ hfriend₁ hid hnone₁,
      opens_of_friend hr₂ hfriend₂ (Conversation.directId_comm hid) hnone₂⟩

/-- Two friends, of whom one has joined a group before, open their conversation. That one takes in
what the other sends. -/
theorem participants_converge_friends :
    let alice := run [.addFriend { peer := "bob", publicKey := [1] }]
      (fresh (KeyRing.ofId "alice") .channel true)
    let bob := run [.addGroup { group := "team", symmetricKey := [2] }, .joinGroup "team",
      .addFriend { peer := "alice", publicKey := [3] }] (fresh (KeyRing.ofId "bob") .loopback false)
    let m : Message :=
      { conversation := "1e2af26470aae838", sender := "alice", isGroup := false, subject := ""
        timestamp := "2024-01-01T00:00:01Z", plaintext := "hi" }
    ∃ s₁ s₂ time, s₁.id = s₂.id ∧ alice.Opens "bob" s₁ ∧ bob.Opens "alice" s₂ ∧
      (perform (.startDirect "alice") bob).2.TakesIn m
        { s₂ with lastMessage := some "hi", lastTime := some time } := by
  intro alice bob m
  obtain ⟨-, hrest, hopens⟩ := participants_converge
  have halice : alice.AtRest := hrest _ _ _ _ (by decide +kernel) (by decide +kernel)
  have hbob : bob.AtRest := hrest _ _ _ _ (by decide +kernel) (by decide +kernel)
  have hid : Conversation.directId "alice" "bob" = .ok "1e2af26470aae838" := by decide +kernel
  obtain ⟨s₁, s₂, hs₁, hs₂, hopens₁, hopens₂⟩ := hopens alice bob halice hbob (by decide +kernel)
    (by decide +kernel) "1e2af26470aae838" hid (by decide +kernel) (by decide +kernel)
  obtain ⟨time, htime⟩ : ∃ time, Instant.ofText m.timestamp = .ok time := by
    have hok : (Instant.ofText m.timestamp).isOk = true := by decide +kernel
    cases h : Instant.ofText m.timestamp with
    | error f =>
      rw [h] at hok
      cases hok
    | ok time => exact ⟨time, rfl⟩
  exact ⟨s₁, s₂, time, hs₁.trans hs₂.symm, hopens₁, hopens₂,
    hopens₂.first m hs₂.symm rfl time htime⟩

end Host

end ChatRouting
