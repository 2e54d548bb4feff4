import ChatRouting.Proofs.Host.Reentrance
import ChatRouting.Proofs.KeyRing
import Mathlib.Data.List.Count
import Mathlib.Data.List.Nodup

/-!
# Delivery is serialized

All that the subscribers of an endpoint are told comes in *blocks*, one for each event that gave
a notification, in the order in which the events were processed. A block has one notification and
the subscribers that were told it, each of them once and in order of subscription. So nothing of
one event is delivered between two deliveries of another, and what two subscribers both receive,
they receive in the same order.

What the callbacks perform does not matter for this. They may hand in events, process the inbound
queue, subscribe, unsubscribe, change sessions, close the router or break off, also through
callbacks that they subscribe.

## Main definitions

* `Block`: the deliveries of one event
* `Host.handled`: the events that a run processed, with what came of each
* `Host.Serializes`
* `Host.fresh`: a host at the beginning of a run

## Main results

* `Host.drain_eq_foldlM`: what processing the queue answers, by the events it processed
* `Host.deliveries_serialized`
-/

namespace ChatRouting

/-- The deliveries of one event. -/
structure Block where
  notification : Notification
  receivers : List Nat

/-- Who was told what in a block. -/
def Block.deliveries (b : Block) : List (Nat × Notification) :=
  b.receivers.map (·, b.notification)

/-- An event that was processed, and what came of it. -/
structure Handling where
  event : InboundEvent
  outcome : Except Fault (Option Notification)

/-- The notification that an event gave. -/
def Handling.notification? (x : Handling) : Option Notification :=
  x.outcome.toOption.join

namespace Host

/-- What a subscriber was told, in order. -/
def receivedBy (h : Host) (id : Nat) : List Notification :=
  (h.deliveries.filter fun d => d.1 = id).map Prod.snd

/-- The events that are processed out of the inbound queue, up to a bound on their number. -/
def drainHandlings (act : Operation → Host → StepResult × Host) : Nat → Host → List Handling
  | 0, _ => []
  | bound + 1, h =>
    match h.endpoint.inbound, handleNext act h with
    | event :: _, some (.ok n, h) => { event, outcome := .ok n } :: drainHandlings act bound h
    | event :: _, some (.error f, _) => [{ event, outcome := .error f }]
    | _, _ => []

/-- The events that an operation processes on an endpoint that is there, in order. -/
def heldHandlings (act : Operation → Host → StepResult × Host) (h : Host) :
    Operation → List Handling
  | .route event localId peer => [{ event, outcome := (route act event localId peer h).1 }]
  | .handle event => [{ event, outcome := (handle act event h).1 }]
  | .processPending => if h.router.delivering then [] else drainHandlings act h.pendingBound h
  | .processNext => if h.router.delivering then [] else drainHandlings act 1 h
  | _ => []

/-- The events that an operation processes, in order. -/
def handlings (act : Operation → Host → StepResult × Host) (op : Operation) (h : Host) :
    List Handling :=
  if op.needsEndpoint && !h.held then [] else heldHandlings act h op

/-- The events that a run processes outside of callbacks, in order. -/
def handled : List Operation → Host → List Handling
  | [], _ => []
  | op :: ops, h => handlings inside op h ++ handled ops (perform op h).2

/-- A host at the beginning of a run, with an endpoint that has no session, no subscriber and no
event that waits. -/
def fresh (keys : KeyRing) (transport : Transport) (ignoreOwnEcho : Bool) : Host :=
  { endpoint := { keys, router := { ignoreOwnEcho }, transport } }

/-- An endpoint with options is that of a fresh host without keys. -/
theorem endpoint_make {options : Options} {freshId : String} {transport : Transport} {e : Endpoint}
    (he : Endpoint.make options freshId transport = .ok e) :
    ∃ identity, e = (fresh { identity } transport options.ignoreOwnEcho).endpoint := by
  simp only [Endpoint.make, bind, Except.bind, pure, Except.pure] at he
  repeat' split at he
  all_goals cases he
  -- With a nickname the key ring is that of an accepted update, and without one it is new.
  any_goals exact ⟨_, rfl⟩
  all_goals
    obtain ⟨_, rfl⟩ := KeyRing.setNickname_ok ‹_›
    exact ⟨_, rfl⟩

theorem filterMap_notification?_singleton (event : InboundEvent)
    (outcome : Except Fault (Option Notification)) :
    [{ event, outcome : Handling }].filterMap Handling.notification? =
      outcome.toOption.join.toList := by
  rw [List.filterMap_cons, List.filterMap_nil, Handling.notification?]
  cases outcome.toOption.join with
  | none => rfl
  | some n => rfl

theorem handleNext_of_nil {act : Operation → Host → StepResult × Host} {h : Host}
    (hin : h.endpoint.inbound = []) : handleNext act h = none := by
  rw [handleNext, hin]

/-- Processing the queue answers the number of events that it processed, or the fault of the last
one. -/
theorem drain_eq_foldlM (act : Operation → Host → StepResult × Host) (bound processed : Nat)
    (h : Host) :
    (drain act bound processed h).1 =
      (drainHandlings act bound h).foldlM (fun k x => x.outcome.map fun _ => k + 1) processed := by
  induction bound generalizing processed h with
  | zero => rfl
  | succ bound ih =>
    cases hin : h.endpoint.inbound with
    | nil =>
      rw [drain, drainHandlings, handleNext_of_nil hin, hin]
      rfl
    | cons event rest =>
      obtain ⟨⟨outcome, h'⟩, hnext⟩ : ∃ result, handleNext act h = some result :=
        ⟨_, by rw [handleNext, hin]⟩
      rw [drain, drainHandlings, hnext, hin]
      cases outcome with
      | error f => rfl
      | ok n => exact ih (processed + 1) h'

/-- Processing one event changes the host as processing the queue up to one event does. -/
theorem processNext_snd (act : Operation → Host → StepResult × Host) {h : Host}
    (hd : h.router.delivering = false) : (processNext act h).2 = (drain act 1 0 h).2 := by
  rw [processNext, if_neg (Bool.eq_false_iff.mp hd), drain]
  cases handleNext act h with
  | none => rfl
  | some result =>
    obtain ⟨_ | n, h'⟩ := result
    · rfl
    · rfl

theorem heldHandlings_of_not_processes (act : Operation → Host → StepResult × Host) (h : Host)
    {op : Operation} (hop : op.processes = false) : heldHandlings act h op = [] := by
  cases op with
  | route | handle | processPending | processNext => cases hop
  | _ => rfl

/-- On the way from one host to another these notifications are delivered, in one block each. -/
def Serializes (ns : List Notification) (h h' : Host) : Prop :=
  ∃ blocks : List Block, blocks.map Block.notification = ns ∧
    (∀ b ∈ blocks, b.receivers.Pairwise (· < ·)) ∧
    Delivers (blocks.flatMap Block.deliveries) h h' ∧ h'.router.delivering = false

variable {h h' h'' : Host} {ns ns' : List Notification}

theorem Serializes.trans (h₁ : Serializes ns h h') (h₂ : Serializes ns' h' h'') :
    Serializes (ns ++ ns') h h'' := by
  obtain ⟨bs, hn, hi, hds, _⟩ := h₁
  obtain ⟨bs', hn', hi', hds', hd⟩ := h₂
  refine ⟨bs ++ bs', by rw [List.map_append, hn, hn'], ?_, ?_, hd⟩
  · intro b hb
    rcases List.mem_append.mp hb with hb | hb
    · exact hi b hb
    · exact hi' b hb
  · rw [List.flatMap_append]
    exact hds.trans hds'

theorem Serializes.delivering (hs : Serializes ns h h') : h'.router.delivering = false := by
  obtain ⟨_, _, _, _, hd⟩ := hs
  exact hd

theorem Serializes.orderly (hs : Serializes ns h h') (ho : h.router.Orderly) :
    h'.router.Orderly := by
  obtain ⟨_, _, _, hds, _⟩ := hs
  exact hds.moves.orderly ho

theorem serializes_nil (hds : Delivers [] h h') (hd : h'.router.delivering = false) :
    Serializes [] h h' :=
  ⟨[], rfl, by simp, hds, hd⟩

theorem Quiet.serializes (hq : Quiet h h') (hd : h.router.delivering = false) :
    Serializes [] h h' :=
  serializes_nil hq.delivers (hq.delivering.trans hd)

/-- Requests are collected. -/
theorem Serializes.collect (hs : Serializes ns h h') (a : Answer) :
    Serializes ns h (collect (a, h')).2 := by
  have hall := hs.trans ((plainQuiet_collect a h').quiet.serializes hs.delivering)
  rwa [List.append_nil] at hall

/-! ### Processing an event -/

section

variable {act : Operation → Host → StepResult × Host} (hact : Discreet act)

include hact

/-- A fan-out is one block. -/
theorem fanOut_serializes (n : Notification) (ho : h.router.Orderly) :
    Serializes [n] h (fanOut act n h) := by
  obtain ⟨hds, hd⟩ := fanOut_delivers hact n h
  refine ⟨[{ notification := n, receivers := told act n h.router.listed (h.setDelivering true) }], rfl,
    ?_, ?_, hd⟩
  · intro b hb
    rw [List.mem_singleton.mp hb]
    exact ho.increasing.sublist (told_sublist act n _ _)
  · rwa [List.flatMap_singleton]

theorem route_serializes (event : InboundEvent) (localId : String) (peer : Option String)
    (ho : h.router.Orderly) (hd : h.router.delivering = false) :
    Serializes (route act event localId peer h).1.toOption.join.toList h
      (route act event localId peer h).2 := by
  have hmove : h.endpoint.Move
      { h.endpoint with router := (h.router.classify event localId peer).2 } :=
    .classify event localId peer
  have hdclassify : (h.router.classify event localId peer).2.delivering = false := by
    obtain ⟨registry, hr⟩ := h.router.exists_classify_eq event localId peer
    rw [hr]
    exact hd
  rw [route]
  rw [if_neg (Bool.eq_false_iff.mp hd)]
  split_ifs
  · exact (Quiet.refl h).serializes hd
  · split
    · next router heq =>
      rw [heq] at hmove hdclassify
      exact serializes_nil (delivers_withRouter hmove) hdclassify
    · next n router heq =>
      rw [heq] at hmove hdclassify
      have hclassify := serializes_nil (delivers_withRouter hmove) hdclassify
      exact hclassify.trans (fanOut_serializes hact n (hclassify.orderly ho))

theorem handle_serializes (event : InboundEvent) (ho : h.router.Orderly)
    (hd : h.router.delivering = false) :
    Serializes (handle act event h).1.toOption.join.toList h (handle act event h).2 := by
  rw [handle]
  rw [if_neg (Bool.eq_false_iff.mp hd)]
  split_ifs
  · exact (Quiet.refl h).serializes hd
  · exact route_serializes hact event _ _ ho hd

/-- The first event of the inbound queue is taken out and processed. -/
theorem handleNext_serializes {event : InboundEvent} {rest : List InboundEvent}
    (hin : h.endpoint.inbound = event :: rest) (ho : h.router.Orderly)
    (hd : h.router.delivering = false) :
    ∃ result, handleNext act h = some result ∧
      Serializes result.1.toOption.join.toList h result.2 := by
  have htake : Delivers [] h (h.withEndpoint { h.endpoint with inbound := rest }) :=
    delivers_of_log_eq rfl (.single (.take hin))
  have hhandle := handle_serializes hact event
    (h := h.withEndpoint { h.endpoint with inbound := rest }) ho hd
  exact ⟨_, by rw [handleNext, hin], (serializes_nil htake hd).trans hhandle⟩

theorem drain_serializes (bound processed : Nat) (ho : h.router.Orderly)
    (hd : h.router.delivering = false) :
    Serializes ((drainHandlings act bound h).filterMap Handling.notification?) h
      (drain act bound processed h).2 := by
  induction bound generalizing processed h with
  | zero => exact (Quiet.refl h).serializes hd
  | succ bound ih =>
    cases hin : h.endpoint.inbound with
    | nil =>
      rw [drain, drainHandlings, handleNext_of_nil hin, hin]
      exact (Quiet.refl h).serializes hd
    | cons event rest =>
      obtain ⟨⟨outcome, h'⟩, hnext, hevent⟩ := handleNext_serializes hact hin ho hd
      rw [drain, drainHandlings, hnext, hin]
      cases outcome with
      | error f => exact hevent
      | ok n =>
        have hrest := ih (processed + 1) (hevent.orderly ho) hevent.delivering
        cases n with
        | none => exact hevent.trans hrest
        | some n => exact hevent.trans hrest

theorem stepHeld_serializes (op : Operation) (ho : h.router.Orderly)
    (hd : h.router.delivering = false) :
    Serializes ((heldHandlings act h op).filterMap Handling.notification?) h
      (stepHeld act h op).2 := by
  cases hop : op.processes with
  | false =>
    rw [heldHandlings_of_not_processes act h hop]
    exact (stepHeld_quiet_of_not_processes act h hop).serializes hd
  | true =>
    cases op with
    | route event localId peer =>
      rw [heldHandlings, filterMap_notification?_singleton]
      exact route_serializes hact event localId peer ho hd
    | handle event =>
      rw [heldHandlings, filterMap_notification?_singleton]
      exact handle_serializes hact event ho hd
    | processPending =>
      simp only [heldHandlings, stepHeld, processPending, if_neg (Bool.eq_false_iff.mp hd)]
      exact drain_serializes hact h.pendingBound 0 ho hd
    | processNext =>
      simp only [heldHandlings, stepHeld, processNext_snd act hd,
        if_neg (Bool.eq_false_iff.mp hd)]
      exact drain_serializes hact 1 0 ho hd
    | _ => cases hop

/-- What an operation delivers comes in blocks, one for each event that gave a notification. -/
theorem step_serializes (op : Operation) (ho : h.router.Orderly)
    (hd : h.router.delivering = false) :
    Serializes ((handlings act op h).filterMap Handling.notification?) h (step act op h).2 := by
  rw [step, handlings]
  split_ifs
  · exact (plainQuiet_collect _ h).quiet.serializes hd
  · exact (stepHeld_serializes hact op ho hd).collect _

end

/-! ### Runs -/

/-- What a run delivers comes in blocks, one for each event that gave a notification. -/
theorem run_serializes (ops : List Operation) (ho : h.router.Orderly)
    (hd : h.router.delivering = false) :
    Serializes ((handled ops h).filterMap Handling.notification?) h (run ops h) := by
  induction ops generalizing h with
  | nil => exact (Quiet.refl h).serializes hd
  | cons op ops ih =>
    have hop : Serializes _ h (perform op h).2 := step_serializes (discreet_step _) op ho hd
    have hrest := ih (hop.orderly ho) hop.delivering
    rw [handled, List.filterMap_append]
    exact hop.trans hrest

/-- The run of a fresh host, whose list of subscribers is empty and hence orderly. -/
theorem serializes_run_fresh (keys : KeyRing) (transport : Transport) (ignoreOwnEcho : Bool)
    (ops : List Operation) :
    Serializes ((handled ops (fresh keys transport ignoreOwnEcho)).filterMap
      Handling.notification?) (fresh keys transport ignoreOwnEcho)
      (run ops (fresh keys transport ignoreOwnEcho)) :=
  run_serializes ops ⟨List.Pairwise.nil, by simp [router, fresh]⟩ rfl

/-- Whatever a run does, its endpoint goes through moves. -/
theorem moves_run (keys : KeyRing) (transport : Transport) (ignoreOwnEcho : Bool)
    (ops : List Operation) :
    (fresh keys transport ignoreOwnEcho).endpoint.Moves
      (run ops (fresh keys transport ignoreOwnEcho)).endpoint := by
  obtain ⟨_, _, _, hds, _⟩ := serializes_run_fresh keys transport ignoreOwnEcho ops
  exact hds.moves

/-! ### What one subscriber receives -/

/-- In a block a subscriber is told the notification once or not at all. -/
theorem filter_deliveries {b : Block} (hb : b.receivers.Pairwise (· < ·)) (id : Nat) :
    (b.deliveries.filter fun d => d.1 = id).map Prod.snd =
      if id ∈ b.receivers then [b.notification] else [] := by
  have hnodup : b.receivers.Nodup := hb.imp fun h => Nat.ne_of_lt h
  rw [Block.deliveries, List.filter_map, List.map_map]
  change (b.receivers.filter (· = id)).map (fun _ => b.notification) = _
  rw [List.filter_eq, hnodup.count]
  split_ifs
  · rfl
  · rfl

/-- What a subscriber receives are the notifications of the blocks that it is in. -/
theorem receivedBy_eq_of_blocks {blocks : List Block}
    (hds : h.deliveries = blocks.flatMap Block.deliveries)
    (hblocks : ∀ b ∈ blocks, b.receivers.Pairwise (· < ·)) (id : Nat) :
    h.receivedBy id = (blocks.filter fun b => id ∈ b.receivers).map Block.notification := by
  rw [receivedBy, hds]
  -- The log of `h` is that of all blocks, which the induction does not keep.
  clear hds
  induction blocks with
  | nil => rfl
  | cons b bs ih =>
    have hb := filter_deliveries (hblocks b (by simp)) id
    have hbs := ih fun b hb => hblocks b (List.mem_cons_of_mem _ hb)
    rw [List.flatMap_cons, List.filter_append, List.map_append, hb, hbs, List.filter_cons]
    simp only [decide_eq_true_eq]
    split_ifs
    · rfl
    · rfl

/-! ### Main result -/

/-- **Delivery is serialized.** After any run, what subscribers were told comes in blocks, one for
each event that gave a notification and in the order in which the events were processed. A block
has its subscribers in order of subscription, and a subscriber has received the notifications of
the blocks that it is in. No delivery is under way after the run, and every operation of a
callback was answered as during one. The operations of callbacks are performed during a delivery
only, and they are the operations of the host. -/
theorem deliveries_serialized (keys : KeyRing) (transport : Transport) (ignoreOwnEcho : Bool)
    (ops : List Operation) :
    let start := fresh keys transport ignoreOwnEcho
    let h := run ops start
    (∃ blocks : List Block,
      h.deliveries = blocks.flatMap Block.deliveries ∧
      blocks.map Block.notification = (handled ops start).filterMap Handling.notification? ∧
      (∀ b ∈ blocks, b.receivers.Pairwise (· < ·)) ∧
      ∀ id, h.receivedBy id =
        (blocks.filter fun b => id ∈ b.receivers).map Block.notification) ∧
    h.router.delivering = false ∧ h.AnswersInside ∧
    (∀ act op, AgreeInside perform act → step act op h = perform op h) ∧
    ∀ act, (∀ op h, act op h = step act op h) ↔ act = perform := by
  intro start h
  obtain ⟨blocks, hns, hblocks, hds, hd⟩ := serializes_run_fresh keys transport ignoreOwnEcho ops
  have hdeliveries : h.deliveries = blocks.flatMap Block.deliveries := by
    rw [hds.deliveries]
    rfl
  refine ⟨⟨blocks, hdeliveries, hns, hblocks, receivedBy_eq_of_blocks hdeliveries hblocks⟩, hd,
    hds.answers (fun _ _ _ hmem => by cases hmem), ?_, fun _ => eq_step_iff⟩
  intro act op ha
  have hperform : perform op h = step perform op h := eq_step_iff.mpr rfl op h
  rw [hperform]
  exact (step_congr discreet_perform ha op h).symm

end Host

end ChatRouting
