import ChatRouting.Host.Step
import ChatRouting.Proofs.Endpoint.Plain

/-!
# Operations that deliver nothing

A *quiet* step logs nothing and only changes the endpoint in ways that tell no subscriber
anything. Every operation but the four that process events is quiet, and while a delivery is
under way these four are quiet as well: an event is refused or queued, and the inbound queue is
left alone. So in a callback an operation does not depend on what callbacks do. A plain operation
that is quiet is quiet by plain changes.

## Main definitions

* `Operation.processes`: the operations that process events
* `Operation.AnswerInside`: what an operation may answer inside a callback
* `Host.Quiet`, `Host.PlainQuiet`

## Main results

* `Host.step_quiet`, `Host.step_plainQuiet`, `Host.step_answerInside`: operations inside a callback
* `Host.step_eq_of_delivering`: they do not depend on what callbacks do
-/

namespace ChatRouting

/-- The operation processes events. -/
def Operation.processes : Operation → Bool
  | route _ _ _ | handle _ | processPending | processNext => true
  | _ => false

/-- What an operation may answer inside a callback, where an event is refused or queued, the
inbound queue is left alone, and a delivery is under way. The endpoint may have been let go. -/
def Operation.AnswerInside : Operation → Answer → Prop
  | route _ _ _, a => a = .gone ∨ ∃ f, a = .refused f
  | handle _, a => a = .gone ∨ a = .refused .closed ∨ a = .notified none
  | processPending, a => a = .gone ∨ a = .count 0
  | processNext, a => a = .gone ∨ a = .truth false
  | isDelivering, a => a = .gone ∨ a = .truth true
  | _, _ => True

namespace Host

/-- Nothing is logged, and no subscriber is told anything. -/
structure Quiet (h h' : Host) : Prop where
  log : h'.log = h.log
  changes : h.endpoint.Changes h'.endpoint

/-- Nothing is logged, no subscriber is told anything, and nobody reaches past the endpoint. -/
structure PlainQuiet (h h' : Host) : Prop where
  log : h'.log = h.log
  changes : h.endpoint.PlainChanges h'.endpoint

variable {h h' h'' : Host}

theorem Quiet.refl (h : Host) : Quiet h h :=
  ⟨rfl, .refl⟩

theorem Quiet.trans (h₁ : Quiet h h') (h₂ : Quiet h' h'') : Quiet h h'' :=
  ⟨h₂.log.trans h₁.log, h₁.changes.trans h₂.changes⟩

theorem Quiet.delivering (hq : Quiet h h') : h'.router.delivering = h.router.delivering :=
  hq.changes.delivering

theorem quiet_of_adjusts {router : Router} (hr : h.router.Adjusts router) :
    Quiet h (h.withRouter router) :=
  ⟨rfl, .single (.subscribers hr)⟩

theorem PlainQuiet.refl (h : Host) : PlainQuiet h h :=
  ⟨rfl, .refl⟩

theorem PlainQuiet.trans (h₁ : PlainQuiet h h') (h₂ : PlainQuiet h' h'') : PlainQuiet h h'' :=
  ⟨h₂.log.trans h₁.log, h₁.changes.trans h₂.changes⟩

theorem PlainQuiet.quiet (hq : PlainQuiet h h') : Quiet h h' :=
  ⟨hq.log, hq.changes.changes⟩

theorem plainQuiet_of_changes {e : Endpoint} (hc : h.endpoint.PlainChanges e) :
    PlainQuiet h (h.withEndpoint e) :=
  ⟨rfl, hc⟩

/-! ### What the host keeps for itself -/

theorem sight_eq (h : Host) (receipt : Nat) :
    ∃ sighted, (h.sight receipt).2 = { h with sighted } := by
  rw [sight]
  split
  · exact ⟨h.sighted, rfl⟩
  · exact ⟨_, rfl⟩

theorem sightAll_eq (h : Host) (requests : List (Nat × Request)) :
    ∃ sighted, (h.sightAll requests).2 = { h with sighted } := by
  induction requests generalizing h with
  | nil => exact ⟨h.sighted, rfl⟩
  | cons request rest ih =>
    obtain ⟨sighted, hs⟩ := h.sight_eq request.1
    obtain ⟨sighted', hs'⟩ := ih (h.sight request.1).2
    exact ⟨sighted', by rw [sightAll, hs', hs]⟩

theorem hold_router (h : Host) (receipt : Nat) : (h.hold receipt).2.router = h.router := by
  obtain ⟨sighted, hs⟩ := h.sight_eq receipt
  simp only [hold, hs]
  rfl

theorem collect_router (a : Answer) (h : Host) : (collect (a, h)).2.router = h.router := by
  have hsights (h : Host) (requests : List (Nat × Request)) :
      (h.sightAll requests).2.router = h.router := by
    obtain ⟨sighted, hs⟩ := h.sightAll_eq requests
    rw [hs]
    rfl
  exact hsights _ _

theorem plainQuiet_sightAll (h : Host) (requests : List (Nat × Request)) :
    PlainQuiet h (h.sightAll requests).2 := by
  obtain ⟨sighted, hs⟩ := h.sightAll_eq requests
  rw [hs]
  exact ⟨rfl, .refl⟩

theorem plainQuiet_hold (h : Host) (receipt : Nat) : PlainQuiet h (h.hold receipt).2 := by
  obtain ⟨sighted, hs⟩ := h.sight_eq receipt
  simp only [hold, hs]
  exact ⟨rfl, .refl⟩

theorem plainQuiet_collect (a : Answer) (h : Host) : PlainQuiet h (collect (a, h)).2 := by
  have htransport : PlainQuiet h
      (h.withEndpoint { h.endpoint with transport := h.endpoint.transport.collect.2 }) :=
    plainQuiet_of_changes (Endpoint.Change.collect.plain rfl)
  exact htransport.trans (plainQuiet_sightAll _ _)

theorem plainQuiet_dropReceiver (h : Host) (name : String) :
    PlainQuiet h (h.dropReceiver name) := by
  rw [dropReceiver]
  split
  · next n _ =>
    exact ⟨rfl, Endpoint.plain_of_adjusts (.dropReceiver n)
      fun hc => hc.of_calms (h.router.calms_dropReceiver n)⟩
  · exact .refl h

theorem quiet_subscribe (h : Host) (name : String) (sink : Sink) (receiver : Bool) :
    Quiet h (h.subscribe name sink receiver).2 := by
  have hsubscribe : Quiet (h.dropReceiver name) (h.subscribe name sink receiver).2 :=
    ⟨rfl, .single (.subscribers (.subscribe sink))⟩
  exact (plainQuiet_dropReceiver h name).quiet.trans hsubscribe

theorem plainQuiet_subscribe (h : Host) (name : String) {sink : Sink}
    (hsink : sink.isPlain = true) (receiver : Bool) :
    PlainQuiet h (h.subscribe name sink receiver).2 := by
  have hsubscribe : PlainQuiet (h.dropReceiver name) (h.subscribe name sink receiver).2 :=
    ⟨rfl, Endpoint.plain_of_adjusts (.subscribe sink) fun hc => hc.subscribe hsink⟩
  exact (plainQuiet_dropReceiver h name).trans hsubscribe

theorem plainQuiet_onOpened {result : Except Fault (Session × Nat) × Endpoint}
    (hc : h.endpoint.PlainChanges result.2) : PlainQuiet h (h.onOpened result).2 := by
  obtain ⟨_ | ⟨s, receipt⟩, e⟩ := result
  · exact plainQuiet_of_changes hc
  · exact (plainQuiet_of_changes hc).trans (plainQuiet_hold _ receipt)

theorem plainQuiet_onSent {result : Except Fault Nat × Endpoint}
    (hc : h.endpoint.PlainChanges result.2) : PlainQuiet h (h.onSent result).2 := by
  obtain ⟨_ | receipt, e⟩ := result
  · exact plainQuiet_of_changes hc
  · exact (plainQuiet_of_changes hc).trans (plainQuiet_hold _ receipt)

theorem plainQuiet_onAcknowledger {f : Receipt → Receipt} (request : Nat)
    (hc : ∀ n, h.endpoint.PlainChanges
      { h.endpoint with transport := h.endpoint.transport.modify n f }) :
    PlainQuiet h (h.onAcknowledger request f).2 := by
  rw [onAcknowledger]
  split
  · exact .refl h
  · split_ifs
    · exact plainQuiet_of_changes (hc _)
    · exact .refl h

theorem plainQuiet_enqueue (h : Host) (event : InboundEvent) :
    PlainQuiet h (h.withEndpoint (h.endpoint.enqueue event)) :=
  plainQuiet_of_changes ((Endpoint.Change.enqueue event).plain rfl)

theorem plainQuiet_onQueue (h : Host) (event : InboundEvent) :
    PlainQuiet h (h.onQueue event).2 := by
  rw [onQueue]
  split_ifs
  · exact plainQuiet_enqueue h event
  · exact .refl h

/-! ### Operations -/

variable (act act' : Operation → Host → StepResult × Host)

theorem stepHeld_plainQuiet_of_not_processes (h : Host) {op : Operation}
    (hop : op.processes = false) (hplain : op.isPlain = true) :
    PlainQuiet h (stepHeld act h op).2 := by
  cases op with
  | route | handle | processPending | processNext => cases hop
  | ensureSession => cases hplain
  | subscribe name onSession onError =>
    have hsink : (Sink.callbacks onSession onError).isPlain = true := by
      rwa [Operation.isPlain] at hplain
    exact plainQuiet_subscribe h name hsink _
  | subscribeChannel name => exact plainQuiet_subscribe h name rfl _
  | unsubscribe name =>
    simp only [stepHeld]
    split
    · exact .refl h
    · next n _ =>
      exact ⟨rfl, Endpoint.plain_of_adjusts (.deactivate n)
        fun hc => hc.of_calms (h.router.calms_deactivate n)⟩
  | dropReceiver name => exact plainQuiet_dropReceiver h name
  | receive name =>
    simp only [stepHeld]
    split
    · exact .refl h
    · next n _ =>
      exact ⟨rfl, Endpoint.plain_of_adjusts (.receive n)
        fun hc => hc.of_calms (h.router.calms_receive n)⟩
  | removeSession id => exact plainQuiet_of_changes (h.endpoint.plain_removeSession id)
  | close =>
    exact ⟨rfl, Endpoint.plain_of_adjusts .close fun hc => hc.of_calms h.router.calms_close⟩
  | setNickname nickname => exact plainQuiet_of_changes (h.endpoint.plain_setNickname nickname)
  | setLocalId id => exact plainQuiet_of_changes (h.endpoint.plain_setLocalId id)
  | setKeyPair pair => exact plainQuiet_of_changes (h.endpoint.plain_setKeyPair pair)
  | addFriend key => exact plainQuiet_of_changes (h.endpoint.plain_addFriend key)
  | addGroup key => exact plainQuiet_of_changes (h.endpoint.plain_addGroup key)
  | startDirect peer => exact plainQuiet_onOpened (h.endpoint.plain_openConversation (.direct peer))
  | joinGroup group => exact plainQuiet_onOpened (h.endpoint.plain_openConversation (.group group))
  | send target plaintext => exact plainQuiet_onSent (h.endpoint.plain_send target plaintext)
  | sendToSession id plaintext =>
    exact plainQuiet_onSent (h.endpoint.plain_sendToSession id plaintext)
  | queue event => exact plainQuiet_onQueue h event
  | queueMessage m => exact plainQuiet_onQueue h (.message m)
  | queueError reason timestamp => exact plainQuiet_onQueue h (.transportError reason timestamp)
  | detach => exact plainQuiet_of_changes (Endpoint.Change.detach.plain rfl)
  | answer request outcome =>
    exact plainQuiet_onAcknowledger request fun n => (Endpoint.Change.answer n outcome).plain rfl
  | abandon request =>
    exact plainQuiet_onAcknowledger request fun n => (Endpoint.Change.abandon n).plain rfl
  | forget | release => exact ⟨rfl, .refl⟩
  | poll handle =>
    simp only [stepHeld]
    split
    · exact .refl h
    · exact .refl h
  | wait handle =>
    simp only [stepHeld]
    split
    · exact .refl h
    · exact .refl h
    · exact .refl h
  | isActive | subscriberCount | hasSession | session | sessions | isClosed | isDelivering
  | identity | friendKey | groupKey | friendIds | groupIds | conversationId | unreadable | panic =>
    exact .refl h

theorem stepHeld_quiet_of_not_processes (h : Host) {op : Operation} (hop : op.processes = false) :
    Quiet h (stepHeld act h op).2 := by
  cases op with
  | route | handle | processPending | processNext => cases hop
  | ensureSession id name target => exact ⟨rfl, .single (.ensure id name target)⟩
  | subscribe name onSession onError => exact quiet_subscribe h name _ _
  | _ => exact (stepHeld_plainQuiet_of_not_processes act h rfl rfl).quiet

/-! ### Operations inside a callback -/

section Inside

variable (hd : h.router.delivering = true)

include hd

theorem route_of_delivering (event : InboundEvent) (localId : String) (peer : Option String) :
    ∃ f, route act event localId peer h = (.error f, h) := by
  rw [route]
  split_ifs
  · exact ⟨_, rfl⟩
  · exact ⟨_, rfl⟩

theorem handle_of_delivering (event : InboundEvent) :
    handle act event h =
      if h.router.closed then (.error .closed, h)
      else (.ok none, h.withEndpoint (h.endpoint.enqueue event)) := by
  rw [handle]
  rw [if_pos hd]

theorem processPending_of_delivering : processPending act h = (.ok 0, h) :=
  if_pos hd

theorem processNext_of_delivering : processNext act h = (.ok false, h) :=
  if_pos hd

theorem stepHeld_plainQuiet {op : Operation} (hplain : op.isPlain = true) :
    PlainQuiet h (stepHeld act h op).2 := by
  cases op with
  | route => cases hplain
  | handle event =>
    simp only [stepHeld, handle_of_delivering act hd event]
    split_ifs
    · exact .refl h
    · exact plainQuiet_enqueue h event
  | processPending =>
    simp only [stepHeld, processPending_of_delivering act hd]
    exact .refl h
  | processNext =>
    simp only [stepHeld, processNext_of_delivering act hd]
    exact .refl h
  | _ => exact stepHeld_plainQuiet_of_not_processes act h rfl hplain

theorem stepHeld_quiet (op : Operation) : Quiet h (stepHeld act h op).2 := by
  cases op with
  | route event localId peer =>
    obtain ⟨f, hf⟩ := route_of_delivering act hd event localId peer
    simp only [stepHeld, hf]
    exact .refl h
  | subscribe | ensureSession => exact stepHeld_quiet_of_not_processes act h rfl
  | _ => exact (stepHeld_plainQuiet act hd rfl).quiet

theorem stepHeld_answerInside (op : Operation) : op.AnswerInside (stepHeld act h op).1 := by
  cases op with
  | route event localId peer =>
    obtain ⟨f, hf⟩ := route_of_delivering act hd event localId peer
    exact Or.inr ⟨f, by simp only [stepHeld, hf, Answer.ofExcept]⟩
  | handle event =>
    simp only [stepHeld, handle_of_delivering act hd event]
    split_ifs
    · exact Or.inr (Or.inl rfl)
    · exact Or.inr (Or.inr rfl)
  | processPending =>
    exact Or.inr (by simp only [stepHeld, processPending_of_delivering act hd, Answer.ofExcept])
  | processNext =>
    exact Or.inr (by simp only [stepHeld, processNext_of_delivering act hd, Answer.ofExcept])
  | isDelivering => exact Or.inr (congrArg Answer.truth hd)
  | _ => trivial

theorem stepHeld_eq_of_delivering (op : Operation) : stepHeld act h op = stepHeld act' h op := by
  cases op with
  | route event localId peer =>
    simp only [stepHeld, route]
    split_ifs
    · rfl
    · rfl
  | handle event =>
    simp only [stepHeld, handle_of_delivering act hd, handle_of_delivering act' hd]
  | processPending =>
    simp only [stepHeld, processPending_of_delivering act hd,
      processPending_of_delivering act' hd]
  | processNext =>
    simp only [stepHeld, processNext_of_delivering act hd, processNext_of_delivering act' hd]
  | _ => rfl

/-- An operation inside a callback delivers nothing. -/
theorem step_quiet (op : Operation) : Quiet h (step act op h).2 := by
  rw [step]
  split_ifs
  · exact (plainQuiet_collect _ h).quiet
  · exact (stepHeld_quiet act hd op).trans (plainQuiet_collect _ _).quiet

/-- A plain operation inside a callback does not reach past the endpoint. -/
theorem step_plainQuiet {op : Operation} (hplain : op.isPlain = true) :
    PlainQuiet h (step act op h).2 := by
  rw [step]
  split_ifs
  · exact plainQuiet_collect _ h
  · exact (stepHeld_plainQuiet act hd hplain).trans (plainQuiet_collect _ _)

theorem step_answerInside (op : Operation) : op.AnswerInside (step act op h).1.answer := by
  rw [step]
  split_ifs
  · cases op
    all_goals first | exact Or.inl rfl | trivial
  · exact stepHeld_answerInside act hd op

/-- An operation inside a callback does not depend on what callbacks do. -/
theorem step_eq_of_delivering (op : Operation) : step act op h = step act' op h := by
  rw [step, step, stepHeld_eq_of_delivering act act' hd op]

end Inside

end Host

end ChatRouting
