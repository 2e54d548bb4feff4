import ChatRouting.Proofs.Endpoint.Opening
import ChatRouting.Proofs.Host.Subscriptions

/-!
# Refused operations

An operation of the endpoint makes every check before it changes anything. So an operation that is
refused leaves the endpoint as it was, with all that the endpoint keeps: the identity and the keys,
the sessions, the join requests, the requests to the transport, the subscribers with what waits for
them, and the inbound queue. An event that is refused is delivered to nobody.

The two operations that process the inbound queue are apart: they take an event out of the queue
before the event can be refused.

In a run the requests of an operation are collected with its answer, so none are left over at any
moment. A refused operation then has no requests to answer with, and the host stays the same.

## Main definitions

* `Endpoint.AllOrNothing`: an operation that is refused changes nothing
* `Operation.takesQueued`: the operation processes the inbound queue

## Main results

* `Host.stepHeld_of_refused`: of a single operation, in whatever state
* `Host.refused_changes_nothing`: of all operations of a run
-/

namespace ChatRouting

/-- The operation takes events out of the inbound queue. -/
def Operation.takesQueued : Operation → Bool
  | processPending | processNext => true
  | _ => false

/-! ### The endpoint -/

namespace Endpoint

/-- An operation that is refused changes nothing. -/
def AllOrNothing {α : Type} (op : Endpoint → Except Fault α × Endpoint) : Prop :=
  ∀ e f, (op e).1 = .error f → op e = (.error f, e)

theorem allOrNothing_setNickname (nickname : String) : AllOrNothing (·.setNickname nickname) := by
  intro e f hf
  simp only [setNickname] at hf ⊢
  split at hf
  · exact Prod.ext hf rfl
  · cases hf

/-- A blank id is refused by the key ring, which stays the same. -/
theorem allOrNothing_setLocalId (id : String) : AllOrNothing (·.setLocalId id) := by
  intro e f hf
  simp only [setLocalId] at hf ⊢
  split_ifs at hf ⊢
  · exact Prod.ext hf rfl
  · by_cases hid : Text.trim id = ""
    · rw [KeyRing.setLocalId_of_blank hid] at hf ⊢
      exact Prod.ext hf rfl
    · rw [KeyRing.setLocalId_of_trim hid] at hf
      cases hf

theorem allOrNothing_setKeyPair (pair : KeyPair) : AllOrNothing (·.setKeyPair pair) := by
  intro e f hf
  simp only [setKeyPair] at hf ⊢
  split at hf
  · exact Prod.ext hf rfl
  · cases hf

theorem allOrNothing_addFriend (key : FriendKey) : AllOrNothing (·.addFriend key) := by
  intro e f hf
  simp only [addFriend] at hf ⊢
  split at hf
  · exact Prod.ext hf rfl
  · cases hf

theorem allOrNothing_addGroup (key : GroupKey) : AllOrNothing (·.addGroup key) := by
  intro e f hf
  simp only [addGroup] at hf ⊢
  split at hf
  · exact Prod.ext hf rfl
  · cases hf

theorem allOrNothing_ensureSession (id name : String) (target : Target) :
    AllOrNothing (·.ensureSession id name target) := by
  intro e f hf
  simp only [ensureSession, Registry.ensure] at hf ⊢
  split at hf
  · exact Prod.ext hf rfl
  · cases hf

theorem allOrNothing_removeSession (id : String) : AllOrNothing (·.removeSession id) := by
  intro e f hf
  simp only [removeSession, Registry.remove] at hf ⊢
  split at hf
  · exact Prod.ext hf rfl
  · cases hf

/-- A conversation that has its session is joined without a further check. -/
theorem allOrNothing_openSession (id name : String) (target : Target) (r : Request) :
    AllOrNothing (·.openSession id name target r) := by
  intro e f hf
  simp only [openSession] at hf ⊢
  split at hf
  · next f' e' hs =>
    have hensure := allOrNothing_ensureSession id name target e f' (Prod.ext_iff.mp hs).1
    obtain rfl : e' = e := (Prod.ext_iff.mp (hs.symm.trans hensure)).2
    exact Prod.ext hf rfl
  · cases hf

theorem allOrNothing_openConversation (target : Target) :
    AllOrNothing (·.openConversation target) := by
  intro e f hf
  rcases hknown : e.knownConversation target with f' | id
  · simp only [openConversation_of_unknown hknown] at hf ⊢
    exact Prod.ext hf rfl
  · simp only [openConversation_of_known hknown] at hf ⊢
    exact allOrNothing_openSession id _ target target.join e f hf

theorem allOrNothing_send (target : Target) (plaintext : String) :
    AllOrNothing (·.send target plaintext) := by
  intro e f hf
  simp only [send] at hf ⊢
  split at hf
  · exact Prod.ext hf rfl
  · cases hf

theorem allOrNothing_sendToSession (id plaintext : String) :
    AllOrNothing (·.sendToSession id plaintext) := by
  intro e f hf
  simp only [sendToSession] at hf ⊢
  split at hf
  · exact Prod.ext hf rfl
  · next target _ => exact allOrNothing_send target plaintext e f hf

end Endpoint

namespace Host

variable {h h' : Host} {m : Moment} {f : Fault} {act : Operation → Host → StepResult × Host}

/-! ### A single operation -/

/-- An answer is a refusal only if the operation has failed. -/
theorem ofExcept_eq_refused {α : Type} {g : α → Answer} (hg : ∀ a, g a ≠ .refused f)
    {result : Except Fault α} (hr : Answer.ofExcept g result = .refused f) :
    result = .error f := by
  cases result with
  | ok a => exact absurd hr (hg a)
  | error f' =>
    cases hr
    rfl

theorem onEndpoint_of_refused {α : Type} {g : α → Answer} (hg : ∀ a, g a ≠ .refused f)
    {result : Except Fault α × Endpoint}
    (hsame : ∀ f, result.1 = .error f → result = (.error f, h.endpoint))
    (hr : (h.onEndpoint g result).1 = .refused f) : h.onEndpoint g result = (.refused f, h) := by
  rw [hsame f (ofExcept_eq_refused hg hr)]
  rfl

theorem onOpened_of_refused {result : Except Fault (Session × Nat) × Endpoint}
    (hsame : ∀ f, result.1 = .error f → result = (.error f, h.endpoint))
    (hr : (h.onOpened result).1 = .refused f) : h.onOpened result = (.refused f, h) := by
  rcases result with ⟨f' | opened, e⟩
  · cases hr
    rw [hsame f rfl]
    rfl
  · cases hr

theorem onSent_of_refused {result : Except Fault Nat × Endpoint}
    (hsame : ∀ f, result.1 = .error f → result = (.error f, h.endpoint))
    (hr : (h.onSent result).1 = .refused f) : h.onSent result = (.refused f, h) := by
  rcases result with ⟨f' | receipt, e⟩
  · cases hr
    rw [hsame f rfl]
    rfl
  · cases hr

theorem onQueue_of_refused {event : InboundEvent} (hr : (h.onQueue event).1 = .refused f) :
    h.onQueue event = (.refused f, h) := by
  rw [onQueue] at hr ⊢
  split_ifs at hr ⊢
  exact Prod.ext hr rfl

/-- An event that the router refuses is judged by nobody and delivered to nobody. -/
theorem route_of_error {event : InboundEvent} {localId : String} {peer : Option String}
    (hf : (route act event localId peer h).1 = .error f) :
    route act event localId peer h = (.error f, h) := by
  rw [route] at hf ⊢
  split_ifs at hf ⊢
  · exact Prod.ext hf rfl
  · exact Prod.ext hf rfl
  · split at hf
    · cases hf
    · cases hf

theorem handle_of_error {event : InboundEvent} (hf : (handle act event h).1 = .error f) :
    handle act event h = (.error f, h) := by
  rw [handle] at hf ⊢
  split_ifs at hf ⊢
  · exact Prod.ext hf rfl
  · exact route_of_error hf

/-- An operation that is refused leaves the host as it was, whatever callbacks do, unless it
processes the inbound queue. -/
theorem stepHeld_of_refused {op : Operation} (hop : op.takesQueued = false)
    (hr : (stepHeld act h op).1 = .refused f) : stepHeld act h op = (.refused f, h) := by
  cases op with
  | processPending | processNext => cases hop
  | setNickname nickname =>
    exact onEndpoint_of_refused (fun _ hg => by cases hg)
      (Endpoint.allOrNothing_setNickname nickname h.endpoint) hr
  | setLocalId id =>
    exact onEndpoint_of_refused (fun _ hg => by cases hg)
      (Endpoint.allOrNothing_setLocalId id h.endpoint) hr
  | setKeyPair pair =>
    exact onEndpoint_of_refused (fun _ hg => by cases hg)
      (Endpoint.allOrNothing_setKeyPair pair h.endpoint) hr
  | addFriend key =>
    exact onEndpoint_of_refused (fun _ hg => by cases hg)
      (Endpoint.allOrNothing_addFriend key h.endpoint) hr
  | addGroup key =>
    exact onEndpoint_of_refused (fun _ hg => by cases hg)
      (Endpoint.allOrNothing_addGroup key h.endpoint) hr
  | ensureSession id name target =>
    exact onEndpoint_of_refused (fun _ hg => by cases hg)
      (Endpoint.allOrNothing_ensureSession id name target h.endpoint) hr
  | removeSession id =>
    exact onEndpoint_of_refused (fun _ hg => by cases hg)
      (Endpoint.allOrNothing_removeSession id h.endpoint) hr
  | startDirect peer =>
    exact onOpened_of_refused (Endpoint.allOrNothing_openConversation (.direct peer) h.endpoint) hr
  | joinGroup group =>
    exact onOpened_of_refused (Endpoint.allOrNothing_openConversation (.group group) h.endpoint) hr
  | send target plaintext =>
    exact onSent_of_refused (Endpoint.allOrNothing_send target plaintext h.endpoint) hr
  | sendToSession id plaintext =>
    exact onSent_of_refused (Endpoint.allOrNothing_sendToSession id plaintext h.endpoint) hr
  | route event localId peer =>
    have herror := route_of_error (ofExcept_eq_refused (fun _ hg => by cases hg) hr)
    simp only [stepHeld, herror, Answer.ofExcept]
  | handle event =>
    have herror := handle_of_error (ofExcept_eq_refused (fun _ hg => by cases hg) hr)
    simp only [stepHeld, herror, Answer.ofExcept]
  | queue | queueMessage | queueError => exact onQueue_of_refused hr
  | conversationId peer => exact Prod.ext hr rfl
  | unsubscribe name | receive name =>
    simp only [stepHeld] at hr
    split at hr <;> cases hr
  | answer request outcome | abandon request =>
    simp only [stepHeld, onAcknowledger] at hr
    split at hr
    · cases hr
    · split_ifs at hr
  | poll handle | wait handle =>
    simp only [stepHeld] at hr
    split at hr <;> cases hr
  | _ => cases hr

/-! ### Requests are collected -/

/-- When no requests are left over, an answer comes without any. -/
theorem collect_of_collected (hout : h.endpoint.transport.outbox = []) (a : Answer) :
    collect (a, h) = ({ answer := a }, h) := by
  have hcollect : h.endpoint.transport.collect = ([], h.endpoint.transport) := by
    rw [Transport.collect, hout, List.filterMap_nil, ← hout]
  simp only [collect, hcollect]
  rfl

theorem collected_collect (result : Answer × Host) :
    (collect result).2.endpoint.transport.outbox = [] := by
  obtain ⟨a, h⟩ := result
  let taken := h.withEndpoint { h.endpoint with transport := h.endpoint.transport.collect.2 }
  obtain ⟨sighted, hs⟩ := taken.sightAll_eq h.endpoint.transport.collect.1
  have hhost : (collect (a, h)).2 = (taken.sightAll h.endpoint.transport.collect.1).2 := rfl
  rw [hhost, hs]
  rfl

theorem collected_step (act : Operation → Host → StepResult × Host) (op : Operation) (h : Host) :
    (step act op h).2.endpoint.transport.outbox = [] :=
  collected_collect _

theorem Between.collected (hb : Between h h') (hout : h.endpoint.transport.outbox = []) :
    h'.endpoint.transport.outbox = [] := by
  cases hb with
  | take | classify | mark => exact hout

theorem Occurs.collected (ho : Occurs h m) (hout : h.endpoint.transport.outbox = []) :
    m.host.endpoint.transport.outbox = [] := by
  cases ho with
  | told | passed | noticed => exact hout
  | inside id op hd => exact collected_step _ op h
  | outside hop => exact collected_step _ _ h
  | @processed _ a _ _ => exact collected_collect (a, h)

/-- No requests are left over at a moment of a run. -/
theorem Leads.collected {ms : List Moment} (hl : Leads h ms h')
    (hout : h.endpoint.transport.outbox = []) : h'.endpoint.transport.outbox = [] :=
  hl.rel (R := fun h h' => h.endpoint.transport.outbox = [] → h'.endpoint.transport.outbox = [])
    (fun _ => id) (fun h₁ h₂ => h₂ ∘ h₁) Between.collected Occurs.collected hout

theorem collected_of_mem_moments {keys : KeyRing} {link : Link} {ignoreOwnEcho : Bool}
    {ops : List Operation} (hmem : h ∈ fresh keys { link } ignoreOwnEcho ::
      (moments ops (fresh keys { link } ignoreOwnEcho)).map Moment.host) :
    h.endpoint.transport.outbox = [] := by
  have hl := leads_moments_fresh keys { link } ignoreOwnEcho ops
  rcases List.mem_cons.mp hmem with rfl | hmem
  · rfl
  · obtain ⟨m, hm, rfl⟩ := List.mem_map.mp hmem
    obtain ⟨before, later, hms⟩ := List.append_of_mem hm
    obtain ⟨h₁, hbefore, ho, -⟩ := (hms ▸ hl).split.2.uncons
    exact ho.collected (((hms ▸ hl).split.1.trans hbefore).collected rfl)

/-! ### Main result -/

/-- A refused operation answers with nothing but the refusal, and the host stays the same. -/
theorem step_of_refused {op : Operation} (hop : op.takesQueued = false)
    (hout : h.endpoint.transport.outbox = []) (hr : (step act op h).1.answer = .refused f) :
    step act op h = ({ answer := .refused f }, h) := by
  rw [step] at hr ⊢
  split_ifs at hr ⊢
  · cases hr
  · rw [stepHeld_of_refused hop hr]
    exact collect_of_collected hout _

/-- **A failed operation changes nothing.** At every moment of a run, those inside callbacks
included, an operation of the endpoint that is refused leaves the whole host as it was: the identity
and the keys, the sessions in their order, the join requests, the subscribers with all that waits
for them, the inbound queue, the requests to the transport, and the log of what subscribers were
told and what their callbacks did. It makes no request. Only the processing of the inbound queue is
apart, where the event that is refused has been taken out. -/
theorem refused_changes_nothing (keys : KeyRing) (link : Link) (ignoreOwnEcho : Bool)
    (ops : List Operation) :
    let start := fresh keys { link } ignoreOwnEcho
    ∀ h ∈ start :: (moments ops start).map Moment.host, ∀ act op f, op.takesQueued = false →
      (step act op h).1.answer = .refused f → step act op h = ({ answer := .refused f }, h) :=
  fun _ hmem _ _ _ hop hr => step_of_refused hop (collected_of_mem_moments hmem) hr

/-- A callback starts a conversation with somebody whose key is not known. -/
theorem refused_changes_nothing_unknown :
    let start := fresh (KeyRing.ofId "alice") { link := .channel true } true
    let ops : List Operation := [
      .subscribe "ui" [] [{ item := [.startDirect "bob"], times := 1 }],
      .handle (.transportError "lost" "now")]
    let h := ((moments ops start)[1]?.map Moment.host).getD start
    h.router.delivering = true ∧ (inside (.startDirect "bob") h).1.answer =
        .refused (.unknownPeer "bob") ∧
      inside (.startDirect "bob") h = ({ answer := .refused (.unknownPeer "bob") }, h) := by
  intro start ops h
  have hlength : 1 < (moments ops start).length := by decide +kernel
  have hh : h = (moments ops start)[1].host := by
    simp only [h, List.getElem?_eq_getElem hlength, Option.map_some, Option.getD_some]
  have hmem : h ∈ start :: (moments ops start).map Moment.host := by
    rw [hh]
    exact List.mem_cons_of_mem _ (List.mem_map_of_mem (List.getElem_mem hlength))
  have hheld : h.held = true := by decide +kernel
  have hunknown : h.endpoint.keys.hasFriend "bob" = false := by decide +kernel
  have hrefused : h.endpoint.startDirect "bob" = (.error (.unknownPeer "bob"), h.endpoint) := by
    have hbob : requireNonempty "bob" "peer id" = .ok () := rfl
    simp only [Endpoint.startDirect, Endpoint.friendConversation, hbob, hunknown]
    rfl
  have hr : (step (fun _ h => ({ answer := .done }, h)) (.startDirect "bob") h).1.answer =
      .refused (.unknownPeer "bob") := by
    rw [step, hheld, Bool.not_true, Bool.and_false, if_neg Bool.false_ne_true, stepHeld, hrefused]
    rfl
  have hsame := refused_changes_nothing (KeyRing.ofId "alice") (.channel true) true ops h hmem
    (fun _ h => ({ answer := .done }, h)) (.startDirect "bob") (.unknownPeer "bob") rfl hr
  rw [inside]
  exact ⟨by decide +kernel, hr, hsame⟩

end Host

end ChatRouting
