import ChatRouting.Proofs.Endpoint.Redaction
import ChatRouting.Proofs.Host.Delivery

/-!
# Hosts without their secrets

Secrets come into a host by its operations and are passed on to the transport. Nothing that the host
does depends on them: an operation without its secrets, on a host without its secrets, does what the
operation does, without the secrets. This is so for every operation and for whatever callbacks do.

The transport's collaborator is told the secrets, and some operations answer with them. So an
answer, and the requests that are collected with it, are redacted as well.

## Main definitions

* `Answer.redact`, `StepResult.redact`, `Host.redact`
* `Host.Blind`: what a callback's operation is supposed to do

## Main results

* `Host.blind_step`: a step looks at no secret
-/

namespace ChatRouting

def Answer.redact : Answer → Answer
  | identity i => identity i.redact
  | friendKey k => friendKey (k.map FriendKey.redact)
  | groupKey k => groupKey (k.map GroupKey.redact)
  | a => a

/-- An answer has no secrets, if it has none when the operation is not refused. -/
theorem Answer.redact_ofExcept {α : Type} {f : α → Answer} (hf : ∀ a, (f a).redact = f a)
    (result : Except Fault α) : (ofExcept f result).redact = ofExcept f result := by
  cases result with
  | error _ => rfl
  | ok a => exact hf a

def StepResult.redact (r : StepResult) : StepResult where
  answer := r.answer.redact
  requests := r.requests.map fun p => (p.1, p.2.redact)

def LogEntry.redact : LogEntry → LogEntry
  | put id n => put id n
  | got id n => got id n
  | did id op result => did id op.redact result.redact

namespace Host

def redact (h : Host) : Host :=
  { h with endpoint := h.endpoint.redact, log := h.log.map LogEntry.redact }

/-- A callback's operation looks at no secret. -/
def Blind (act : Operation → Host → StepResult × Host) : Prop :=
  ∀ op h, act op.redact h.redact = ((act op h).1.redact, (act op h).2.redact)

variable (h : Host)

/-! ### What the host keeps for itself -/

theorem note_redact (entry : LogEntry) : h.redact.note entry.redact = (h.note entry).redact := by
  rw [note, note, redact, redact, List.map_append]
  rfl

theorem dropReceiver_redact (name : String) :
    h.redact.dropReceiver name = (h.dropReceiver name).redact := by
  have hreceivers : h.redact.receivers = h.receivers := rfl
  rw [dropReceiver.eq_def, dropReceiver.eq_def, hreceivers]
  cases h.receivers.lookup name with
  | none => rfl
  | some n =>
    have hdrop := h.router.dropReceiver_redact n
    exact congrArg
      (fun r => { h.redact.withRouter r with receivers := unname name h.receivers }) hdrop

theorem subscribe_redact (name : String) (sink : Sink) (receiver : Bool) :
    h.redact.subscribe name sink.redact receiver =
      ((h.subscribe name sink receiver).1.redact, (h.subscribe name sink receiver).2.redact) := by
  rw [subscribe, subscribe, dropReceiver_redact]
  generalize h.dropReceiver name = h
  have hsubscribe := h.router.subscribe_redact sink
  exact congrArg (fun result : Nat × Router =>
    (Answer.subscribed result.1 (!result.2.closed),
      { h.redact.withRouter result.2 with
        subscriptions := (name, result.1) :: unname name h.subscriptions
        receivers := if receiver then (name, result.1) :: h.receivers else h.receivers })) hsubscribe

theorem sight_redact (receipt : Nat) :
    h.redact.sight receipt = ((h.sight receipt).1, (h.sight receipt).2.redact) := by
  have hsighted : h.redact.sighted = h.sighted := rfl
  rw [sight.eq_def, sight.eq_def, hsighted]
  cases h.sighted.idxOf? receipt with
  | none => rfl
  | some i => rfl

theorem hold_redact (receipt : Nat) :
    h.redact.hold receipt = ((h.hold receipt).1, (h.hold receipt).2.redact) := by
  rw [hold, hold, sight_redact]
  rfl

theorem sightAll_redact (requests : List (Nat × Request)) :
    h.redact.sightAll (requests.map fun p => (p.1, p.2.redact)) =
      ((h.sightAll requests).1.map fun p => (p.1, p.2.redact),
        (h.sightAll requests).2.redact) := by
  induction requests generalizing h with
  | nil => rfl
  | cons request rest ih =>
    rw [List.map_cons, sightAll, sightAll]
    simp only [sight_redact, ih, List.map_cons]

theorem collect_redact (a : Answer) :
    collect (a.redact, h.redact) = ((collect (a, h)).1.redact, (collect (a, h)).2.redact) := by
  have hcollect : h.redact.endpoint.transport.collect = _ := h.endpoint.transport.collect_redact
  have hhost (t : Transport) : h.redact.withEndpoint { h.redact.endpoint with transport := t.redact } =
      (h.withEndpoint { h.endpoint with transport := t }).redact := rfl
  simp only [collect, hcollect, hhost, sightAll_redact]
  rfl

/-! ### Delivery -/

variable {act : Operation → Host → StepResult × Host} (hact : Blind act)

theorem nextTurn_redact (turns : List (Repeated (List Operation))) :
    nextTurn (Operation.redactPlans turns) =
      (Operation.redactPlan (nextTurn turns).1, Operation.redactPlans (nextTurn turns).2) := by
  rw [nextTurn, nextTurn, Operation.redactPlans_eq_map, Repeated.next?_map]
  cases Repeated.next? turns with
  | none => rfl
  | some next => exact congrArg (Prod.mk _) (Operation.redactPlans_eq_map next.2).symm

theorem nextPlan_redact (n : Notification) (onSession onError : List (Repeated (List Operation))) :
    nextPlan n (Operation.redactPlans onSession) (Operation.redactPlans onError) =
      (Operation.redactPlan (nextPlan n onSession onError).1,
        (nextPlan n onSession onError).2.redact) := by
  cases n with
  | sessionUpdated s m => simp only [nextPlan, nextTurn_redact, Sink.redact]
  | errorRaised n => simp only [nextPlan, nextTurn_redact, Sink.redact]

theorem turn_redact (id : Nat) (sink : Sink) :
    h.redact.withRouter (h.redact.router.modify id fun s => { s with sink := sink.redact }) =
      (h.withRouter (h.router.modify id fun s => { s with sink })).redact :=
  congrArg h.redact.withRouter (h.router.modify_redact id fun _ => rfl)

include hact

theorem runPlan_redact (id : Nat) (plan : List Operation) :
    runPlan act id (Operation.redactPlan plan) h.redact = (runPlan act id plan h).redact := by
  induction plan generalizing h with
  | nil => rfl
  | cons op rest ih =>
    by_cases hop : op = .panic
    · subst hop
      rfl
    · have hop' : op.redact ≠ .panic := by
        cases op with
        | panic => exact absurd rfl hop
        | _ => exact Operation.noConfusion
      have hnote := (act op h).2.note_redact (.did id op (act op h).1)
      rw [Operation.redactPlan, runPlan_cons act id _ _ hop', runPlan_cons act id _ _ hop, hact,
        ← ih, ← hnote]
      rfl

theorem deliver_redact (n : Notification) (id : Nat) :
    deliver act n h.redact id = (deliver act n h id).redact := by
  have hsubscriber : h.redact.router.subscribers[id]? = _ := h.router.getElem?_redact id
  rw [deliver.eq_def, deliver.eq_def, hsubscriber]
  cases h.router.subscribers[id]? with
  | none => rfl
  | some s =>
    obtain ⟨active, sink⟩ := s
    cases active with
    | false => rfl
    | true =>
      cases sink with
      | channel waiting attached =>
        cases attached with
        | false => exact congrArg h.redact.withRouter (h.router.deactivate_redact id)
        | true =>
          have hturn := h.turn_redact id (.channel (waiting ++ [n]) true)
          have hnote := (h.withRouter (h.router.modify id fun s =>
            { s with sink := .channel (waiting ++ [n]) true })).note_redact (.put id n)
          exact (congrArg (note · (.put id n)) hturn).trans hnote
      | callbacks onSession onError =>
        have hturn := h.turn_redact id (nextPlan n onSession onError).2
        have hnote := (h.withRouter (h.router.modify id fun s =>
          { s with sink := (nextPlan n onSession onError).2 })).note_redact (.got id n)
        rw [← turn_redact] at hnote
        simp only [Option.map_some, Subscriber.redact, Sink.redact, nextPlan_redact]
        rw [← runPlan_redact _ hact, ← hnote]
        rfl

theorem fanOut_redact (n : Notification) : fanOut act n h.redact = (fanOut act n h).redact := by
  have hall (ids : List Nat) (h : Host) :
      ids.foldl (deliver act n) h.redact = (ids.foldl (deliver act n) h).redact := by
    induction ids generalizing h with
    | nil => rfl
    | cons id ids ih => rw [List.foldl_cons, List.foldl_cons, deliver_redact _ hact, ih]
  have hbegun := hall h.router.listed (h.setDelivering true)
  rw [fanOut, fanOut]
  exact congrArg (setDelivering · false) hbegun

theorem route_redact (event : InboundEvent) (localId : String) (peer : Option String) :
    route act event localId peer h.redact =
      ((route act event localId peer h).1, (route act event localId peer h).2.redact) := by
  have hclosed : h.redact.router.closed = h.router.closed := rfl
  have hdelivering : h.redact.router.delivering = h.router.delivering := rfl
  have hclassify : h.redact.router.classify event localId peer = _ :=
    h.router.classify_redact event localId peer
  rw [route.eq_def, route.eq_def, hclosed, hdelivering, hclassify]
  split_ifs
  · rfl
  · rfl
  · obtain ⟨_ | n, router⟩ := h.router.classify event localId peer
    · rfl
    · exact congrArg (Prod.mk _) (fanOut_redact (h.withRouter router) hact n)

theorem handle_redact (event : InboundEvent) :
    handle act event h.redact = ((handle act event h).1, (handle act event h).2.redact) := by
  have hclosed : h.redact.router.closed = h.router.closed := rfl
  have hdelivering : h.redact.router.delivering = h.router.delivering := rfl
  have hpeer : h.redact.endpoint.echoPeer event = _ := h.endpoint.echoPeer_redact event
  rw [handle, handle, hclosed, hdelivering, hpeer]
  split_ifs
  · rfl
  · rfl
  · exact h.route_redact hact event h.endpoint.localId _

theorem handleNext_redact :
    handleNext act h.redact = (handleNext act h).map fun r => (r.1, r.2.redact) := by
  have hinbound : h.redact.endpoint.inbound = h.endpoint.inbound := rfl
  rw [handleNext.eq_def, handleNext.eq_def, hinbound]
  cases h.endpoint.inbound with
  | nil => rfl
  | cons event rest =>
    exact congrArg some (handle_redact (h.withEndpoint { h.endpoint with inbound := rest }) hact event)

theorem drain_redact (bound processed : Nat) :
    drain act bound processed h.redact =
      ((drain act bound processed h).1, (drain act bound processed h).2.redact) := by
  induction bound generalizing processed h with
  | zero => rfl
  | succ bound ih =>
    rw [drain, drain, handleNext_redact _ hact]
    rcases handleNext act h with _ | ⟨_ | n, h'⟩
    · rfl
    · rfl
    · exact ih h' (processed + 1)

omit hact in
/-- As many events can come out of the queue. -/
theorem pendingBound_redact : h.redact.pendingBound = h.pendingBound := by
  have hbacklog (subscribers : List Subscriber) :
      backlog (subscribers.map Subscriber.redact) = backlog subscribers := by
    induction subscribers with
    | nil => rfl
    | cons s rest ih =>
      obtain ⟨active, sink⟩ := s
      rw [List.map_cons, backlog, backlog, ih]
      cases sink with
      | channel => rfl
      | callbacks onSession onError =>
        simp only [Subscriber.redact, Sink.redact, sinkBacklog, Operation.plansBacklog_redact]
  have hsubscribers := hbacklog h.router.subscribers
  exact congrArg (h.endpoint.inbound.length + ·) hsubscribers

theorem processPending_redact :
    processPending act h.redact =
      ((processPending act h).1, (processPending act h).2.redact) := by
  have hdelivering : h.redact.router.delivering = h.router.delivering := rfl
  rw [processPending, processPending, hdelivering, pendingBound_redact]
  split_ifs
  · rfl
  · exact h.drain_redact hact _ 0

theorem processNext_redact :
    processNext act h.redact = ((processNext act h).1, (processNext act h).2.redact) := by
  have hdelivering : h.redact.router.delivering = h.router.delivering := rfl
  rw [processNext.eq_def, processNext.eq_def, hdelivering, handleNext_redact _ hact]
  split_ifs
  · rfl
  · rcases handleNext act h with _ | ⟨_ | n, h'⟩
    · rfl
    · rfl
    · rfl

omit hact

/-! ### Operations -/

theorem withEndpoint_redact (e : Endpoint) :
    h.redact.withEndpoint e.redact = (h.withEndpoint e).redact := rfl

theorem onEndpoint_redact {α : Type} {f : α → Answer} (hf : ∀ a, (f a).redact = f a)
    (result : Except Fault α × Endpoint) :
    h.redact.onEndpoint f (result.1, result.2.redact) =
      ((h.onEndpoint f result).1.redact, (h.onEndpoint f result).2.redact) :=
  Prod.ext (Answer.redact_ofExcept hf result.1).symm rfl

theorem onEndpoint_identity_redact (result : Except Fault Identity × Endpoint) :
    h.redact.onEndpoint .identity (result.1.map Identity.redact, result.2.redact) =
      ((h.onEndpoint .identity result).1.redact, (h.onEndpoint .identity result).2.redact) := by
  obtain ⟨_ | i, e⟩ := result
  · rfl
  · rfl

theorem onOpened_redact (result : Except Fault (Session × Nat) × Endpoint) :
    h.redact.onOpened (result.1, result.2.redact) =
      ((h.onOpened result).1.redact, (h.onOpened result).2.redact) := by
  obtain ⟨_ | ⟨s, receipt⟩, e⟩ := result
  · rfl
  · simp only [onOpened, withEndpoint_redact, hold_redact]
    rfl

theorem onSent_redact (result : Except Fault Nat × Endpoint) :
    h.redact.onSent (result.1, result.2.redact) =
      ((h.onSent result).1.redact, (h.onSent result).2.redact) := by
  obtain ⟨_ | receipt, e⟩ := result
  · rfl
  · simp only [onSent, withEndpoint_redact, hold_redact]
    rfl

theorem onAcknowledger_redact (request : Nat) (f : Receipt → Receipt) :
    h.redact.onAcknowledger request f =
      ((h.onAcknowledger request f).1.redact, (h.onAcknowledger request f).2.redact) := by
  have hreceipt : h.redact.receiptOf? request = h.receiptOf? request := rfl
  have hknown (n : Nat) : h.redact.endpoint.transport.receipt? n = _ :=
    h.endpoint.transport.receipt?_redact n
  have hmodify (n : Nat) : h.redact.endpoint.transport.modify n f = _ :=
    h.endpoint.transport.modify_redact n f
  rw [onAcknowledger.eq_def, onAcknowledger.eq_def, hreceipt]
  cases h.receiptOf? request with
  | none => rfl
  | some n =>
    simp only [hknown, hmodify]
    split_ifs
    · rfl
    · rfl

theorem onQueue_redact (event : InboundEvent) :
    h.redact.onQueue event = ((h.onQueue event).1.redact, (h.onQueue event).2.redact) := by
  have hcondition : (h.redact.held || h.redact.router.delivering) =
      (h.held || h.router.delivering) := rfl
  rw [onQueue, onQueue, hcondition]
  split_ifs
  · rfl
  · rfl

theorem outcomeOf?_redact (handle : Nat) : h.redact.outcomeOf? handle = h.outcomeOf? handle := by
  have houtcome : h.redact.endpoint.transport.outcome? = h.endpoint.transport.outcome? :=
    funext h.endpoint.transport.outcome?_redact
  rw [outcomeOf?, outcomeOf?, houtcome]
  rfl

include hact

/-- An operation that is possible looks at no secret. -/
theorem stepHeld_redact (op : Operation) :
    stepHeld act h.redact op.redact =
      ((stepHeld act h op).1.redact, (stepHeld act h op).2.redact) := by
  cases op with
  | subscribe name onSession onError =>
    exact h.subscribe_redact name (.callbacks onSession onError) false
  | subscribeChannel name => exact h.subscribe_redact name (.channel [] true) true
  | unsubscribe name =>
    have hnames : h.redact.subscriptions = h.subscriptions := rfl
    simp only [Operation.redact, stepHeld, hnames]
    cases h.subscriptions.lookup name with
    | none => rfl
    | some n =>
      have hgone := h.router.deactivate_redact n
      exact congrArg (fun router => (Answer.done, { h.redact.withRouter router with
        subscriptions := unname name h.subscriptions })) hgone
  | forget name => rfl
  | dropReceiver name => exact congrArg (Prod.mk Answer.done) (h.dropReceiver_redact name)
  | isActive name =>
    have hactive : h.redact.router.isActive = h.router.isActive :=
      funext h.router.isActive_redact
    have hnames : h.redact.subscriptions = h.subscriptions := rfl
    simp only [Operation.redact, stepHeld, hnames, hactive]
    rfl
  | receive name =>
    have hnames : h.redact.receivers = h.receivers := rfl
    simp only [Operation.redact, stepHeld, hnames]
    cases h.receivers.lookup name with
    | none => rfl
    | some n =>
      have hreceive := h.router.receive_redact n
      exact congrArg (fun result : List Notification × Router =>
        (Answer.received result.1, h.redact.withRouter result.2)) hreceive
  | route event localId peer =>
    have hroute := h.route_redact hact event localId peer
    simp only [Operation.redact, stepHeld, hroute]
    exact Prod.ext (Answer.redact_ofExcept (fun _ => rfl) _).symm rfl
  | ensureSession id name target =>
    exact h.onEndpoint_redact (fun _ => rfl) (h.endpoint.ensureSession id name target)
  | removeSession id => exact h.onEndpoint_redact (fun _ => rfl) (h.endpoint.removeSession id)
  | close =>
    exact congrArg (fun router => (Answer.done, h.redact.withRouter router)) h.router.close_redact
  | setNickname nickname =>
    have hset := h.endpoint.setNickname_redact nickname
    exact (congrArg (h.redact.onEndpoint .identity) hset).trans (h.onEndpoint_identity_redact _)
  | setLocalId id =>
    have hset := h.endpoint.setLocalId_redact id
    exact (congrArg (h.redact.onEndpoint .identity) hset).trans (h.onEndpoint_identity_redact _)
  | setKeyPair pair =>
    have hset := h.endpoint.setKeyPair_redact pair
    exact (congrArg (h.redact.onEndpoint _) hset).trans (h.onEndpoint_redact (fun _ => rfl) _)
  | addFriend key =>
    have hset := h.endpoint.addFriend_redact key
    exact (congrArg (h.redact.onEndpoint _) hset).trans (h.onEndpoint_redact (fun _ => rfl) _)
  | addGroup key =>
    have hset := h.endpoint.addGroup_redact key
    exact (congrArg (h.redact.onEndpoint _) hset).trans (h.onEndpoint_redact (fun _ => rfl) _)
  | friendKey peer =>
    exact congrArg (fun k => (Answer.friendKey k, h.redact)) (h.endpoint.keys.friend?_redact peer)
  | groupKey group =>
    exact congrArg (fun k => (Answer.groupKey k, h.redact)) (h.endpoint.keys.group?_redact group)
  | friendIds =>
    exact congrArg (fun ids => (Answer.ids ids, h.redact)) h.endpoint.keys.friendIds_redact
  | groupIds =>
    exact congrArg (fun ids => (Answer.ids ids, h.redact)) h.endpoint.keys.groupIds_redact
  | conversationId peer =>
    exact Prod.ext (Answer.redact_ofExcept (fun _ => rfl) _).symm rfl
  | startDirect peer =>
    have hopen := h.endpoint.startDirect_redact peer
    exact (congrArg h.redact.onOpened hopen).trans (h.onOpened_redact _)
  | joinGroup group =>
    have hopen := h.endpoint.joinGroup_redact group
    exact (congrArg h.redact.onOpened hopen).trans (h.onOpened_redact _)
  | send target plaintext =>
    have hsend := h.endpoint.send_redact target plaintext
    exact (congrArg h.redact.onSent hsend).trans (h.onSent_redact _)
  | sendToSession id plaintext =>
    have hsend := h.endpoint.sendToSession_redact id plaintext
    exact (congrArg h.redact.onSent hsend).trans (h.onSent_redact _)
  | handle event =>
    have hhandle := h.handle_redact hact event
    simp only [Operation.redact, stepHeld, hhandle]
    exact Prod.ext (Answer.redact_ofExcept (fun _ => rfl) _).symm rfl
  | queue event => exact h.onQueue_redact event
  | queueMessage m => exact h.onQueue_redact (.message m)
  | queueError reason timestamp => exact h.onQueue_redact (.transportError reason timestamp)
  | processPending =>
    have hprocess := h.processPending_redact hact
    simp only [Operation.redact, stepHeld, hprocess]
    exact Prod.ext (Answer.redact_ofExcept (fun _ => rfl) _).symm rfl
  | processNext =>
    have hprocess := h.processNext_redact hact
    simp only [Operation.redact, stepHeld, hprocess]
    exact Prod.ext (Answer.redact_ofExcept (fun _ => rfl) _).symm rfl
  | detach =>
    have hdetach := h.endpoint.transport.detach_redact
    exact congrArg (fun transport =>
      (Answer.done, h.redact.withEndpoint { h.redact.endpoint with transport })) hdetach
  | answer request outcome => exact h.onAcknowledger_redact request _
  | abandon request => exact h.onAcknowledger_redact request _
  | poll handle =>
    simp only [Operation.redact, stepHeld, outcomeOf?_redact]
    cases h.outcomeOf? handle with
    | none => rfl
    | some o => rfl
  | wait handle =>
    simp only [Operation.redact, stepHeld, outcomeOf?_redact]
    rcases h.outcomeOf? handle with _ | _ | o
    · rfl
    · rfl
    · rfl
  | subscriberCount | hasSession | session | sessions | isClosed | isDelivering | identity
  | release | unreadable | panic => rfl

/-- **No operation looks at a secret**, if no callback's operation does. -/
theorem blind_step : Blind (step act) := by
  intro op h
  have hheld : h.redact.held = h.held := rfl
  rw [step, step, op.needsEndpoint_redact, hheld]
  split_ifs
  · exact h.collect_redact .gone
  · rw [stepHeld_redact h hact op]
    exact collect_redact _ _

omit hact

theorem blind_perform : Blind perform :=
  blind_step (blind_step fun _ _ => rfl)

end Host

end ChatRouting
