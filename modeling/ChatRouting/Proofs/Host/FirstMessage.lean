import ChatRouting.Proofs.Host.Classification
import ChatRouting.Proofs.Host.JoinHistory
import ChatRouting.Proofs.Host.Turns

/-!
# The first message of a conversation

A session comes about in two ways: the local user opens a conversation, or a message arrives in one
that is not open. The one goes by the keys, the other by the message, its sender and the ids of the
friends. Where a message is attributed to the friend or the group with whom the conversation is
opened, both make the same session. So the message may arrive before the conversation is opened or
afterwards: sessions, joins and requests end up the same, and the subscribers are told the same.

Callbacks may ask for anything, change the subscriptions and queue events, but leave the core alone.

## Main definitions

* `Endpoint.Attributes`: the messages of a conversation with a friend or a group
* `Endpoint.classify`: what an event means, and the endpoint after it
* `Target.opening`: the operation that opens a conversation

## Main results

* `Endpoint.openConversation_classify`: opening and classifying may change places
* `Host.run_open_handle`
-/

namespace ChatRouting

/-- The operation that opens the conversation with a target. -/
def Target.opening : Target → Operation
  | direct peer => .startDirect peer
  | group id => .joinGroup id

/-! ### Sessions that are ensured and messages -/

theorem Router.accept_of_target {r : Router} {m : Message} {localId : String} {peer : Option String}
    {target : Target} (hcheck : m.check = .ok ())
    (htarget : r.targetOf m localId peer = .ok target) :
    r.accept m localId peer = ((r.registry.applyAs m target).1.mapError Fault.ofEvent,
      { r with registry := (r.registry.applyAs m target).2 }) := by
  simp only [accept, hcheck, htarget]

/-- A message that is attributed to a target may be classified before its session is ensured or
afterwards. A message that is refused touches no session in either order. -/
theorem Router.classify_ensure {r : Router} {m : Message} {localId : String} {peer : Option String}
    {target : Target} (hkept : r.dropsEcho m localId = false)
    (htarget : ∀ registry, { r with registry }.targetOf m localId peer = .ok target) :
    let ensured (registry : Registry) :=
      (registry.ensure m.conversation (Session.defaultName m.conversation target) target).2
    ∃ n registry, r.classify (.message m) localId peer = (some n, { r with registry }) ∧
      { r with registry := ensured r.registry }.classify (.message m) localId peer =
        (some n, { r with registry := ensured registry }) := by
  intro ensured
  have hkept' : { r with registry := ensured r.registry }.dropsEcho m localId = false := hkept
  simp only [classify, hkept, hkept', Bool.false_eq_true, if_false]
  rcases hcheck : m.check with f | _
  · simp only [accept, hcheck]
    exact ⟨_, r.registry, rfl, rfl⟩
  · obtain ⟨hanswer, hregistry⟩ := r.registry.applyAs_ensure m target
    rw [accept_of_target hcheck (htarget r.registry),
      accept_of_target hcheck (htarget (ensured r.registry)), hanswer, hregistry]
    rcases (r.registry.applyAs m target).1 with f | s
    · exact ⟨_, _, rfl, rfl⟩
    · exact ⟨_, _, rfl, rfl⟩

namespace Endpoint

/-- What an event means, and the endpoint after it. -/
def classify (e : Endpoint) (event : InboundEvent) : Option Notification × Endpoint :=
  let (n, router) := e.router.classify event e.localId (e.echoPeer event)
  (n, { e with router })

/-- A message belongs to the conversation with a friend or a group. -/
inductive Attributes (e : Endpoint) (m : Message) : Target → Prop
  /-- A friend has sent it to the local user. -/
  | fromFriend {peer : String} (known : e.keys.hasFriend peer = true)
      (id : Conversation.directId e.localId peer = .ok m.conversation)
      (direct : m.isGroup = false) (sender : m.sender = peer) : Attributes e m (.direct peer)
  /-- The local user has sent it to a friend, and such messages are kept. No other friend has a
  conversation of that id. -/
  | toFriend {peer : String} (known : e.keys.hasFriend peer = true)
      (id : Conversation.directId e.localId peer = .ok m.conversation)
      (direct : m.isGroup = false) (sender : m.sender = e.localId)
      (kept : e.router.ignoreOwnEcho = false)
      (only : ∀ other ∈ e.keys.friendIds,
        Conversation.directId e.localId other = .ok m.conversation → other = peer) :
      Attributes e m (.direct peer)
  /-- It was sent to the group, and not by the local user if such messages are dropped. -/
  | toGroup {group : String} (known : e.keys.hasGroup group = true) (id : m.conversation = group)
      (inGroup : m.isGroup = true) (kept : e.router.dropsEcho m e.localId = false) :
      Attributes e m (.group group)

variable {e : Endpoint} {m : Message} {target : Target}

/-- The only friend with a conversation of an id is found by it. -/
theorem friendOf_eq {peer id : String} (known : e.keys.hasFriend peer = true)
    (hid : Conversation.directId e.localId peer = .ok id)
    (honly : ∀ other ∈ e.keys.friendIds,
      Conversation.directId e.localId other = .ok id → other = peer) :
    e.friendOf id = some peer := by
  have hmem : peer ∈ e.keys.friendIds := by
    rwa [KeyRing.mem_friendIds_iff, ← KeyRing.hasFriend_eq]
  rcases hfind : e.friendOf id with _ | other
  · rw [friendOf, List.find?_eq_none] at hfind
    have hnot := hfind peer hmem
    simp [hid] at hnot
  · have hother := List.find?_some hfind
    split at hother
    · next derived hderived =>
      rw [beq_iff_eq.mp hother] at hderived
      rw [honly other (List.mem_of_find?_eq_some hfind) hderived]
    · cases hother

namespace Attributes

variable (ha : e.Attributes m target)

include ha

theorem kept : e.router.dropsEcho m e.localId = false := by
  cases ha with
  | fromFriend _ id _ sender =>
    refine Router.dropsEcho_eq_false fun _ _ => ?_
    rw [sender]
    exact ne_of_directId id
  | toFriend _ _ _ _ kept =>
    exact Router.dropsEcho_eq_false fun hignore => by rw [kept] at hignore; cases hignore
  | toGroup _ _ _ kept => exact kept

/-- Whichever sessions there are, the router takes the conversation to be with the target. -/
theorem targetOf (registry : Registry) :
    { e.router with registry }.targetOf m e.localId (e.echoPeer (.message m)) = .ok target := by
  cases ha with
  | fromFriend _ id direct sender =>
    have hother : (!m.isGroup && m.sender == e.localId) = false := by
      simpa [direct, sender] using ne_of_directId id
    unfold Router.targetOf
    rw [if_neg (Bool.eq_false_iff.mp hother), Registry.targetOf, direct, sender]
    rfl
  | toFriend known id direct sender _ only =>
    have hown : (!m.isGroup && m.sender == e.localId) = true := by simp [direct, sender]
    unfold Router.targetOf
    rw [if_pos hown, echoPeer, if_pos hown, friendOf_eq known id only]
  | toGroup _ id inGroup =>
    unfold Router.targetOf
    simp [inGroup, Registry.targetOf, id]

/-- A conversation that is opened with the target is that of the message. -/
theorem conversation {id : String} (hid : e.knownConversation target = .ok id) :
    id = m.conversation := by
  have hidOf := idOf_of_knownConversation hid
  cases ha with
  | fromFriend _ hm => exact Except.ok.inj (hidOf.symm.trans hm)
  | toFriend _ hm => exact Except.ok.inj (hidOf.symm.trans hm)
  | toGroup _ hm => rw [hm, eq_of_groupId hidOf]

end Attributes

/-! ### Opening and classifying -/

theorem classify_ensureSession (ha : e.Attributes m target) :
    let name := Session.defaultName m.conversation target
    ∃ n, (e.classify (.message m)).1 = some n ∧
      (e.ensureSession m.conversation name target).2.classify (.message m) =
        (some n, ((e.classify (.message m)).2.ensureSession m.conversation name target).2) := by
  obtain ⟨n, registry, hc, hc'⟩ := Router.classify_ensure ha.kept ha.targetOf
  have hensured : (e.ensureSession m.conversation (Session.defaultName m.conversation target)
      target).2.classify (.message m) = _ := congrArg (fun c => (c.1, { e with router := c.2 })) hc'
  refine ⟨n, congrArg Prod.fst hc, hensured.trans ?_⟩
  rw [classify, hc]
  rfl

/-- Whether the conversation is joined does not matter for the message. -/
theorem classify_joinOnce (e : Endpoint) (id : String) (r : Request) (event : InboundEvent) :
    (e.joinOnce id r).2.classify event =
      ((e.classify event).1, ((e.classify event).2.joinOnce id r).2) := by
  have hstanding : (e.classify event).2.standingJoin? id = e.standingJoin? id := rfl
  rw [joinOnce_eq, joinOnce_eq, hstanding]
  rcases e.standingJoin? id with _ | n <;> rfl

theorem openSession_eq {id : String} (hid : id ≠ "") (name : String) (target : Target)
    (r : Request) :
    (e.openSession id name target r).2 = ((e.ensureSession id name target).2.joinOnce id r).2 := by
  have hok : ∃ s, (e.ensureSession id name target).1 = .ok s := by
    simp only [ensureSession, Registry.ensure, Registry.requireNonempty_of_ne hid]
    exact ⟨_, rfl⟩
  rw [openSession]
  rcases hensure : e.ensureSession id name target with ⟨f | s, e'⟩
  · rw [hensure] at hok
    obtain ⟨s, hs⟩ := hok
    cases hs
  · rfl

/-- **Opening a conversation and classifying a message of it may change places.** The endpoint
afterwards is the same, and so is what subscribers are told. -/
theorem openConversation_classify (ha : e.Attributes m target) :
    ∃ n, (e.classify (.message m)).1 = some n ∧
      (e.openConversation target).2.classify (.message m) =
        (some n, ((e.classify (.message m)).2.openConversation target).2) := by
  have hkeys : (e.classify (.message m)).2.keys = e.keys := rfl
  obtain ⟨n, hn, hensured⟩ := classify_ensureSession ha
  refine ⟨n, hn, ?_⟩
  rcases hid : e.knownConversation target with f | id
  · rw [openConversation_of_unknown hid,
      openConversation_of_unknown ((knownConversation_congr hkeys target).trans hid), ← hn]
  · rw [openConversation_of_known hid,
      openConversation_of_known ((knownConversation_congr hkeys target).trans hid)]
    have hne := Conversation.ne_empty_of_idOf (idOf_of_knownConversation hid)
    obtain rfl := ha.conversation hid
    rw [openSession_eq hne, openSession_eq hne, classify_joinOnce, hensured]

end Endpoint

namespace Host

variable {h : Host} {event : InboundEvent} {m : Message} {target : Target}

/-- Opening a conversation is what the endpoint does, with a handle on the receipt. -/
theorem perform_opening_eq (hheld : h.held = true) (target : Target) :
    perform target.opening h = collect (h.onOpened (h.endpoint.openConversation target)) := by
  cases target <;> simp only [Target.opening, perform, step, hheld, Bool.not_true, Bool.and_false,
    Bool.false_eq_true, if_false] <;> rfl

/-- Opening a conversation changes the endpoint as it says, and its requests are collected. -/
theorem perform_opening (hheld : h.held = true) (target : Target) :
    (perform target.opening h).2.endpoint = (h.endpoint.openConversation target).2.collected ∧
      (perform target.opening h).2.held = true := by
  have hopened (result : Except Fault (Session × Nat) × Endpoint) :
      (h.onOpened result).2.endpoint = result.2 ∧ (h.onOpened result).2.held = h.held := by
    rcases result with ⟨f | ⟨s, receipt⟩, e⟩
    · exact ⟨rfl, rfl⟩
    · obtain ⟨request, sighted, hhold⟩ := (h.withEndpoint e).hold_eq receipt
      simp only [onOpened, hhold]
      exact ⟨rfl, rfl⟩
  obtain ⟨hendpoint, hsame⟩ := hopened (h.endpoint.openConversation target)
  obtain ⟨hcollected, hstays⟩ := collect_endpoint
    (h.onOpened (h.endpoint.openConversation target)).1
    (h.onOpened (h.endpoint.openConversation target)).2
  rw [perform_opening_eq hheld]
  exact ⟨hcollected.trans (congrArg Endpoint.collected hendpoint),
    hstays.trans (hsame.trans hheld)⟩

/-- A conversation that is opened is answered with its session. -/
theorem perform_opening_answer (hheld : h.held = true) {s : Session} {n : Nat} {e : Endpoint}
    (hopened : h.endpoint.openConversation target = (.ok (s, n), e)) :
    ∃ handle request, (perform target.opening h).1.answer = .opened s handle request := by
  rw [perform_opening_eq hheld, hopened, onOpened]
  exact ⟨_, _, rfl⟩

/-- Callbacks that leave the core alone keep an endpoint in agreement with what it was. -/
theorem keptInTurns_agrees (e : Endpoint) (n : Notification) :
    KeptInTurns Operation.sparesCore n fun _ h => e.Agrees h.endpoint ∧ h.held = true where
  did id op rest h hc hP := by
    have hplan := hc.plan
    rw [Operation.planEvery, Bool.and_eq_true] at hplan
    obtain ⟨hagrees, hheld⟩ :=
      (step_effects (h := h) _ hc.delivering op).spares (Operation.every.self hplan.1)
    exact ⟨hP.1.trans hagrees, hheld.trans hP.2⟩
  stopped _ _ hP := hP
  got _ _ _ _ _ hP := ⟨hP.1.trans (Endpoint.agrees_withSubscribers _ _ _ _), hP.2⟩
  put _ _ _ _ hP := ⟨hP.1.trans (Endpoint.agrees_withSubscribers _ _ _ _), hP.2⟩
  gone _ _ hP := ⟨hP.1.trans (Endpoint.agrees_withSubscribers _ _ _ _), hP.2⟩

/-- An event that is handed to an open endpoint outside of a delivery is told to the subscribers
when it has been classified. -/
theorem perform_handle_eq (hheld : h.held = true) (hopen : h.router.closed = false)
    (hd : h.router.delivering = false) {n : Notification} {router : Router}
    (hclassify : h.router.classify event h.endpoint.localId (h.endpoint.echoPeer event) =
      (some n, router)) :
    perform (.handle event) h =
      collect (.notified (some n), fanOut inside n (h.withRouter router)) := by
  have hhandle : handle inside event h = (.ok (some n), fanOut inside n (h.withRouter router)) := by
    rw [handle_of_open hopen hd, hclassify]
  simp only [perform, step, Operation.needsEndpoint, hheld, Bool.not_true, Bool.and_false,
    Bool.false_eq_true, if_false, stepHeld, hhandle, Answer.ofExcept]

/-- An event that is handed to an open endpoint outside of a delivery is classified and told to the
subscribers, who leave the core alone. -/
theorem perform_handle (hheld : h.held = true) (hopen : h.router.closed = false)
    (hd : h.router.delivering = false) (hspares : h.router.CallbacksAll Operation.sparesCore)
    {n : Notification} (hn : (h.endpoint.classify event).1 = some n) :
    (perform (.handle event) h).1.answer = .notified (some n) ∧
      (h.endpoint.classify event).2.Agrees (perform (.handle event) h).2.endpoint ∧
      (perform (.handle event) h).2.held = true := by
  obtain ⟨registry, hregistry⟩ :=
    h.router.exists_classify_eq event h.endpoint.localId (h.endpoint.echoPeer event)
  have hclassify : h.router.classify event h.endpoint.localId (h.endpoint.echoPeer event) =
      (some n, { h.router with registry }) := Prod.ext hn hregistry
  have hendpoint : (h.endpoint.classify event).2 =
      { h.endpoint with router := { h.router with registry } } := by
    rw [Endpoint.classify]
    exact congrArg (fun router => { h.endpoint with router }) hregistry
  have hbegin : (h.endpoint.classify event).2.Agrees
      ((h.withRouter { h.router with registry }).setDelivering true).endpoint := by
    rw [hendpoint]
    exact Endpoint.agrees_withSubscribers _ _ _ _
  obtain ⟨h', ⟨hagrees, hheld'⟩, -, hfan⟩ :=
    (keptInTurns_agrees (h.endpoint.classify event).2 n).fanOut
      (h := h.withRouter { h.router with registry }) hspares ⟨hbegin, hheld⟩
  obtain ⟨hcollected, hstays⟩ := collect_endpoint (.notified (some n)) (h'.setDelivering false)
  rw [perform_handle_eq hheld hopen hd hclassify, hfan, hcollected, hstays]
  exact ⟨rfl, (hagrees.trans (Endpoint.agrees_withSubscribers _ _ _ false)).trans
    (Endpoint.agrees_collected _), hheld'⟩

/-- A conversation that is opened before a message of it is handled or afterwards leaves endpoints
that agree. -/
theorem run_open_handle_agrees (hheld : h.held = true) (hopen : h.router.closed = false)
    (hd : h.router.delivering = false) (hspares : h.router.CallbacksAll Operation.sparesCore)
    (ha : h.endpoint.Attributes m target) :
    (run [target.opening, .handle (.message m)] h).endpoint.Agrees
        (run [.handle (.message m), target.opening] h).endpoint ∧
      ∃ n, (perform (.handle (.message m)) h).1.answer = .notified (some n) ∧
        (perform (.handle (.message m)) (perform target.opening h).2).1.answer =
          .notified (some n) := by
  obtain ⟨n, hn, hn'⟩ := Endpoint.openConversation_classify ha
  -- The conversation is opened first: the router is as before but for the session.
  obtain ⟨hopened₁, hheld₁⟩ := perform_opening hheld target
  obtain ⟨registry, hrouter⟩ := h.endpoint.openConversation_router target
  have hrouter₁ : (perform target.opening h).2.router = { h.router with registry } := by
    rw [router, hopened₁]
    exact hrouter
  have hclassify₁ : (perform target.opening h).2.endpoint.classify (.message m) =
      (some n, ((h.endpoint.classify (.message m)).2.openConversation target).2.collected) := by
    rw [hopened₁]
    exact congrArg (fun c => (c.1, c.2.collected)) hn'
  obtain ⟨hanswer₁, hagrees₁, -⟩ := perform_handle hheld₁ (by rw [hrouter₁]; exact hopen)
    (by rw [hrouter₁]; exact hd) (by rw [hrouter₁]; exact hspares) (congrArg Prod.fst hclassify₁)
  rw [hclassify₁] at hagrees₁
  have hfirst : ((h.endpoint.classify (.message m)).2.openConversation target).2.Agrees
      (run [target.opening, .handle (.message m)] h).endpoint :=
    (Endpoint.agrees_collected _).trans hagrees₁
  -- The message is handled first: what it leaves agrees with its classification.
  obtain ⟨hanswer₂, hagrees₂, hheld₂⟩ := perform_handle hheld hopen hd hspares hn
  obtain ⟨hopened₂, -⟩ := perform_opening hheld₂ target
  have hsecond : ((h.endpoint.classify (.message m)).2.openConversation target).2.Agrees
      (run [.handle (.message m), target.opening] h).endpoint := by
    rw [run, List.foldl_cons, List.foldl_cons, List.foldl_nil, hopened₂]
    exact (hagrees₂.openConversation target).trans (Endpoint.agrees_collected _)
  exact ⟨hfirst.symm.trans hsecond, n, hanswer₂, hanswer₁⟩

/-- **Opening a conversation and its first message may change places.** On an open endpoint outside
of a delivery, whose callbacks leave the core alone, both orders end with the same sessions, the
same recorded joins and the same requests, and the message gives the same notification. Whether
there was a session already does not matter, and neither does whether the message is well formed. -/
theorem run_open_handle (hheld : h.held = true) (hopen : h.router.closed = false)
    (hd : h.router.delivering = false) (hspares : h.router.CallbacksAll Operation.sparesCore)
    (ha : h.endpoint.Attributes m target) :
    let before := run [target.opening, .handle (.message m)] h
    let after := run [.handle (.message m), target.opening] h
    before.endpoint.sessions = after.endpoint.sessions ∧
      before.endpoint.joins = after.endpoint.joins ∧
      before.endpoint.transport.issued = after.endpoint.transport.issued ∧
      ∃ n, (perform (.handle (.message m)) (perform target.opening h).2).1.answer =
          .notified (some n) ∧
        (perform (.handle (.message m)) h).1.answer = .notified (some n) := by
  intro before after
  obtain ⟨hagrees, n, hafter, hbefore⟩ := run_open_handle_agrees hheld hopen hd hspares ha
  exact ⟨congrArg Registry.list hagrees.registry.symm, hagrees.joins.symm, hagrees.issued.symm, n,
    hbefore, hafter⟩

/-- A friend's message may arrive before the conversation with the friend is opened. A callback that
subscribes others and queues an event does not matter. -/
theorem run_open_handle_friend :
    let bob : FriendKey := { peer := "bob", publicKey := [1] }
    let keys : KeyRing := (KeyRing.ofId "alice").addFriend bob |>.2
    let curious : Operation := .subscribe "other" []
      [{ item := [.sessions, .queueError "late" none], times := 2 }]
    let h := (fresh keys .channel true).withRouter
      ((fresh keys .channel true).router.subscribe
        (.callbacks [{ item := [curious, .panic], times := 1 }] [])).2
    let m : Message :=
      { conversation := Conversation.hashedId (Conversation.hashInput "alice" "bob")
        sender := "bob", timestamp := "2024-01-01T00:00:01Z", plaintext := "hi", isGroup := false
        subject := "" }
    h.router.CallbacksAll Operation.sparesCore ∧ h.endpoint.Attributes m (.direct "bob") ∧
      (run [.startDirect "bob", .handle (.message m)] h).endpoint.sessions =
        (run [.handle (.message m), .startDirect "bob"] h).endpoint.sessions ∧
      (run [.startDirect "bob", .handle (.message m)] h).endpoint.joins =
        (run [.handle (.message m), .startDirect "bob"] h).endpoint.joins ∧
      (run [.startDirect "bob", .handle (.message m)] h).endpoint.transport.issued =
        (run [.handle (.message m), .startDirect "bob"] h).endpoint.transport.issued := by
  intro bob keys curious h m
  have hid : Conversation.directId "alice" "bob" = .ok m.conversation := by
    simp [Conversation.directId, requireNonempty, bind, Except.bind, pure, Except.pure, m]
  have hspares : h.router.CallbacksAll Operation.sparesCore := by
    intro s hs
    rw [List.mem_singleton.mp hs]
    decide +kernel
  have hbob : h.endpoint.Attributes m (.direct "bob") :=
    .fromFriend (by decide +kernel) hid rfl rfl
  have hall := run_open_handle (h := h) rfl rfl rfl hspares hbob
  simp only [Target.opening] at hall
  exact ⟨hspares, hbob, hall.1, hall.2.1, hall.2.2.1⟩

end Host

end ChatRouting
