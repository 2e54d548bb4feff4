import ChatRouting.Proofs.Host.Turns
import ChatRouting.Proofs.Host.Waiting

/-!
# Draining the inbound queue

While the inbound queue is processed it may grow: a callback that hands in an event puts it behind
those that wait. Callbacks can do so a limited number of times, since each of them has a limited
number of turns, those of callbacks that are subscribed meanwhile included. So the queue is empty in
the end, and as long as nobody closes the router, what has been done is to handle one event after
the other: first those that waited in the beginning and then those that came in meanwhile, each in
the order in which they were queued.

Of the events in the queue each producer has sent some, and the sends of different producers may be
interleaved in any way. Those of one producer are handled in the order of its sends.

## Main definitions

* `Host.Ready`: an open endpoint outside of a delivery, whose callbacks do not close it
* `Host.Drains`: the queue is processed, and these events are handled
* `Notification.Reports`: a notification is about an event
* `Handling.sentBy`: what came of the events of one producer

## Main results

* `Host.handle_ready`: what handling an event keeps
* `Host.processPending_drains`
-/

namespace ChatRouting

/-- The operation does not close the router. -/
def Operation.staysOpen : Operation → Bool
  | close => false
  | _ => true

/-- A notification is about an event: it has the message, or the failure of the transport. -/
def Notification.Reports (n : Notification) : InboundEvent → Prop
  | .message m =>
    (∃ s, n = .sessionUpdated s m) ∨ ∃ f, n = .errorRaised (.ofRefused m f)
  | .transportError message timestamp =>
    n = .errorRaised { kind := .transport, message, timestamp }

theorem Router.reports_of_classify {r : Router} {event : InboundEvent} {localId : String}
    {peer : Option String} {n : Notification} (h : (r.classify event localId peer).1 = some n) :
    n.Reports event := by
  rcases event with m | ⟨message, timestamp⟩
  · simp only [classify] at h
    split_ifs at h
    split at h
    · exact Or.inl ⟨_, (Option.some.inj h).symm⟩
    · exact Or.inr ⟨_, (Option.some.inj h).symm⟩
  · exact (Option.some.inj h).symm

namespace Handling

/-- The event was accepted, and if it gave a notification, then one about itself. -/
def Settled (x : Handling) : Prop :=
  ∃ n, x.outcome = .ok n ∧ ∀ n', n = some n' → n'.Reports x.event

/-- What came of the events that a producer has sent, where the events that were handled first are
those of some sends of several producers. -/
def sentBy {Producer : Type} [DecidableEq Producer] (p : Producer)
    (sends : List (Producer × InboundEvent)) (hs : List Handling) : List Handling :=
  ((sends.zip hs).filter fun x => x.1.1 = p).map Prod.snd

section

variable {Producer : Type} [DecidableEq Producer] (p : Producer)
  (sends : List (Producer × InboundEvent))

theorem sentBy_cons (send : Producer × InboundEvent) (x : Handling) (hs : List Handling) :
    sentBy p (send :: sends) (x :: hs) =
      if send.1 = p then x :: sentBy p sends hs else sentBy p sends hs := by
  simp only [sentBy, List.zip_cons_cons, List.filter_cons, decide_eq_true_eq]
  split_ifs <;> rfl

theorem sentBy_sublist (hs : List Handling) : (sentBy p sends hs).Sublist hs := by
  induction sends generalizing hs with
  | nil => exact List.nil_sublist hs
  | cons send sends ih =>
    rcases hs with _ | ⟨x, hs⟩
    · exact .refl _
    · rw [sentBy_cons]
      split_ifs
      · exact (ih hs).cons_cons x
      · exact (ih hs).cons x

/-- The events of a producer are those of its sends, in their order. -/
theorem map_event_sentBy {hs : List Handling} {new : List InboundEvent}
    (h : hs.map event = sends.map Prod.snd ++ new) :
    (sentBy p sends hs).map event = (sends.filter fun send => send.1 = p).map Prod.snd := by
  induction sends generalizing hs with
  | nil => rfl
  | cons send sends ih =>
    rcases hs with _ | ⟨x, hs⟩
    · cases h
    · rw [List.map_cons, List.map_cons, List.cons_append, List.cons.injEq] at h
      rw [sentBy_cons, List.filter_cons]
      simp only [decide_eq_true_eq]
      split_ifs
      · rw [List.map_cons, List.map_cons, h.1, ih h.2]
      · exact ih h.2

end

end Handling

namespace Host

variable {h h' : Host}

/-! ### What handling an event keeps -/

/-- An open endpoint outside of a delivery, whose callbacks do not close it. -/
structure Ready (h : Host) : Prop where
  opened : h.router.closed = false
  idle : h.router.delivering = false
  callbacks : h.router.CallbacksAll Operation.staysOpen

/-- What callbacks have queued and what they can still queue is bounded throughout a fan-out, and
the router stays open. -/
theorem keptInTurns_backlog (n : Notification) (bound : Nat) :
    KeptInTurns Operation.staysOpen n fun plan h => h.router.closed = false ∧
      h.queued.length + backlog h.router.subscribers + Operation.planBacklog plan ≤ bound where
  did id op rest h hc hP := by
    have hplan := hc.plan
    rw [Operation.planEvery, Bool.and_eq_true] at hplan
    have hopen : op ≠ .close := by
      rintro rfl
      exact absurd (Operation.every.self hplan.1) (by decide)
    have heffects : Effects op (inside op h).1.answer h (inside op h).2 :=
      step_effects _ hc.delivering op
    have hqueued := (queues_did id op hc.delivering).logged
    have hcount := heffects.backlog
    have hbound := hP.2
    rw [Operation.planBacklog] at hbound
    refine ⟨(heffects.closed hopen).trans hP.1, ?_⟩
    rw [hqueued, List.length_append]
    change _ + backlog (inside op h).2.router.subscribers + _ ≤ _
    omega
  stopped rest h hP := by
    refine ⟨hP.1, Nat.le_trans ?_ hP.2⟩
    rw [Operation.planBacklog]
    omega
  got id onSession onError h hs hP := by
    have hmodify := backlog_modify hs fun s => { s with sink := (nextPlan n onSession onError).2 }
    have hplan := nextPlan_backlog n onSession onError
    have hqueued := (queues_turn id (fun s => { s with sink := (nextPlan n onSession onError).2 })
      (.got id n) rfl h).logged
    have hbound := hP.2
    rw [Operation.planBacklog] at hbound
    refine ⟨hP.1, ?_⟩
    rw [hqueued, List.append_nil]
    change _ + backlog (h.router.subscribers.modify id _) + _ ≤ _
    dsimp only at hmodify
    omega
  put id waiting h hs hP := by
    have hmodify := backlog_modify hs fun s => { s with sink := .channel (waiting ++ [n]) true }
    have hqueued := (queues_turn id (fun s => { s with sink := .channel (waiting ++ [n]) true })
      (.put id n) rfl h).logged
    refine ⟨hP.1, Nat.le_trans ?_ hP.2⟩
    rw [hqueued, List.append_nil]
    change _ + backlog (h.router.subscribers.modify id _) + _ ≤ _
    simp only [sinkBacklog] at hmodify
    omega
  gone id h hP := by
    have hless := (h.router.calms_deactivate id).backlog_le
    refine ⟨hP.1, Nat.le_trans ?_ hP.2⟩
    change h.queued.length + backlog (h.router.deactivate id).subscribers + _ ≤ _
    omega

/-- An event that is handed to an endpoint that is ready is accepted, and the endpoint is ready for
the next one. What callbacks have queued meanwhile they can queue no longer. -/
theorem handle_ready (hr : Ready h) (event : InboundEvent) :
    Handling.Settled { event, outcome := (handle inside event h).1 } ∧
      Ready (handle inside event h).2 ∧
      (handle inside event h).2.queued.length +
          backlog (handle inside event h).2.router.subscribers ≤
        h.queued.length + backlog h.router.subscribers := by
  obtain ⟨registry, hregistry⟩ :=
    h.router.exists_classify_eq event h.endpoint.localId (h.endpoint.echoPeer event)
  rw [handle_of_open hr.opened hr.idle]
  rcases hc : h.router.classify event h.endpoint.localId (h.endpoint.echoPeer event) with
    ⟨_ | n, router⟩
  · rw [hc] at hregistry
    obtain rfl : router = { h.router with registry } := hregistry
    exact ⟨⟨none, rfl, fun _ hnone => by cases hnone⟩, ⟨hr.opened, hr.idle, hr.callbacks⟩,
      Nat.le_refl _⟩
  · have hreports : n.Reports event := Router.reports_of_classify (congrArg Prod.fst hc)
    rw [hc] at hregistry
    obtain rfl : router = { h.router with registry } := hregistry
    obtain ⟨h', ⟨hopen, hbound⟩, hcallbacks, hfan⟩ :=
      (keptInTurns_backlog n (h.queued.length + backlog h.router.subscribers)).fanOut
        (h := h.withRouter { h.router with registry }) hr.callbacks
        ⟨hr.opened, by rw [Operation.planBacklog]; exact Nat.le_refl _⟩
    simp only [hfan]
    refine ⟨⟨some n, rfl, ?_⟩, ⟨hopen, rfl, hcallbacks⟩, hbound⟩
    rintro _ ⟨⟩
    exact hreports

theorem handleAll_events (events : List InboundEvent) (h : Host) :
    (handleAll events h).1.map Handling.event = events := by
  induction events generalizing h with
  | nil => rfl
  | cons event rest ih =>
    rw [handleAll, List.map_cons, ih]

/-- Every event of several is accepted. -/
theorem handleAll_ready (hr : Ready h) (events : List InboundEvent) :
    (∀ x ∈ (handleAll events h).1, x.Settled) ∧ Ready (handleAll events h).2 ∧
      (handleAll events h).2.queued.length + backlog (handleAll events h).2.router.subscribers ≤
        h.queued.length + backlog h.router.subscribers := by
  induction events generalizing h with
  | nil => exact ⟨by simp [handleAll], hr, Nat.le_refl _⟩
  | cons event rest ih =>
    obtain ⟨hsettled, hr', hcount⟩ := handle_ready hr event
    obtain ⟨hrest, hready, hcount'⟩ := ih hr'
    refine ⟨fun x hx => ?_, hready, Nat.le_trans hcount' hcount⟩
    rcases List.mem_cons.mp hx with rfl | hx
    · exact hsettled
    · exact hrest x hx

/-! ### The queue -/

/-- The inbound queue of a host is processed: the events that waited are handled one after the
other, and then the new ones that callbacks have queued meanwhile. -/
structure Drains (h : Host) (new : List InboundEvent) (hs : List Handling) (h' : Host) : Prop where
  /-- As long as the limit on their number is high enough, these events are processed, and then the
  queue has none. -/
  processed : ∀ bound k, h.pendingBound ≤ bound →
    drain inside bound k h = (.ok (k + hs.length), h') ∧ drainHandlings inside bound h = hs
  emptied : h'.endpoint.inbound = []
  /-- It is the same to hand these events over one after the other where no events wait. Then the
  new ones are left in the queue. -/
  sequential : handleAll (h.endpoint.inbound ++ new) (h.withInbound []) = (hs, h'.withInbound new)
  /-- The new ones are those that callbacks have queued. -/
  queued : h'.queued = h.queued ++ new

theorem drains_nil (hin : h.endpoint.inbound = []) : Drains h [] [] h where
  processed bound k _ := by
    have hnone : handleNext inside h = none := by rw [handleNext, hin]
    rcases bound with _ | bound
    · exact ⟨rfl, rfl⟩
    · rw [drain, drainHandlings, hnone, hin]
      exact ⟨rfl, rfl⟩
  emptied := hin
  sequential := by rw [hin]; rfl
  queued := (List.append_nil _).symm

/-- The first event is processed, with those that wait behind it and those that come in meanwhile
left in the queue. -/
theorem exists_drains_cons (hr : Ready h) {event : InboundEvent} {rest : List InboundEvent}
    (hin : h.endpoint.inbound = event :: rest) :
    ∃ next, Ready next ∧ next.pendingBound < h.pendingBound ∧
      ∀ {new hs h'}, Drains next new hs h' → ∃ new' x, Drains h new' (x :: hs) h' := by
  -- The event is handled where no other waits, and then beside those that do.
  have hr₀ : Ready (h.withInbound []) := ⟨hr.opened, hr.idle, hr.callbacks⟩
  obtain ⟨⟨n, hn, -⟩, hready, hcount⟩ := handle_ready hr₀ event
  obtain ⟨came, hlog, hbeside⟩ := handle_withInbound event hr₀.idle
  rcases hhandle : handle inside event (h.withInbound []) with ⟨outcome, after⟩
  rw [hhandle] at hn hready hcount hlog hbeside
  obtain rfl : outcome = .ok n := hn
  have hcame : after = after.withInbound came :=
    congrArg Prod.snd (hhandle.symm.trans (hbeside []))
  have hnext : handleNext inside h = some (.ok n, after.withInbound (rest ++ came)) := by
    rw [handleNext, hin]
    exact congrArg some (hbeside rest)
  have hless : (after.withInbound (rest ++ came)).pendingBound < h.pendingBound := by
    have hlength : after.queued.length = h.queued.length + came.length := by
      rw [hlog, List.length_append]
      rfl
    change (rest ++ came).length + backlog after.router.subscribers <
      h.endpoint.inbound.length + backlog h.router.subscribers
    have hbefore : after.queued.length + backlog after.router.subscribers ≤
      h.queued.length + backlog h.router.subscribers := hcount
    rw [hin, List.length_append, List.length_cons]
    omega
  refine ⟨after.withInbound (rest ++ came), ⟨hready.opened, hready.idle, hready.callbacks⟩, hless,
    fun {new hs h'} hd => ⟨came ++ new, { event, outcome := .ok n }, ?_, hd.emptied, ?_, ?_⟩⟩
  · intro bound k hbound
    rcases bound with _ | bound
    · omega
    · obtain ⟨hdrain, hhandlings⟩ := hd.processed bound (k + 1) (by omega)
      rw [drain, drainHandlings, hnext, hin]
      simp only [hdrain, hhandlings, List.length_cons, and_true]
      rw [Nat.add_right_comm, Nat.add_assoc]
  · -- What came in meanwhile is left in the queue when the other events are handled.
    obtain ⟨left, -, hrest⟩ :=
      handleAll_withInbound (h := after.withInbound []) (rest ++ came ++ new) hready.idle
    have hsequential : handleAll (rest ++ came ++ new) (after.withInbound []) =
      (hs, h'.withInbound new) := hd.sequential
    rw [hsequential] at hrest
    obtain rfl : new = left :=
      congrArg (fun result => result.2.endpoint.inbound) (hsequential.symm.trans (hrest []))
    have hback : (after.withInbound []).withInbound came = after := hcame.symm
    have hbehind := hrest came
    rw [hback] at hbehind
    rw [hin, List.cons_append, handleAll, hhandle, ← List.append_assoc]
    simp only [hbehind]
    rfl
  · rw [hd.queued, ← List.append_assoc]
    exact congrArg (· ++ new) hlog

/-- The queue of an endpoint that is ready can be processed. What comes in meanwhile does not keep
that from ending, since it takes away from what can still come in. -/
theorem exists_drains (hr : Ready h) : ∃ new hs h', Drains h new hs h' := by
  induction hbound : h.pendingBound using Nat.strongRecOn generalizing h with
  | _ bound ih =>
    rcases hin : h.endpoint.inbound with _ | ⟨event, rest⟩
    · exact ⟨[], [], h, drains_nil hin⟩
    · obtain ⟨next, hnext, hless, hcons⟩ := exists_drains_cons hr hin
      obtain ⟨new, hs, h', hd⟩ := ih _ (hbound ▸ hless) hnext rfl
      obtain ⟨new', x, hd'⟩ := hcons hd
      exact ⟨new', x :: hs, h', hd'⟩

namespace Drains

variable {new : List InboundEvent} {hs : List Handling} (hd : Drains h new hs h')

include hd

theorem events : hs.map Handling.event = h.endpoint.inbound ++ new := by
  have hevents := handleAll_events (h.endpoint.inbound ++ new) (h.withInbound [])
  rwa [hd.sequential] at hevents

/-- If nothing was queued meanwhile, then the events of the queue are handled, and nothing else. -/
theorem sequential_of_nil (hnew : new = []) :
    handleAll h.endpoint.inbound (h.withInbound []) = (hs, h') := by
  have hall := hd.sequential
  have hsame : h'.withInbound h'.endpoint.inbound = h' := rfl
  rwa [hnew, List.append_nil, ← hd.emptied, hsame, hd.emptied] at hall

/-- What is told while the queue is processed comes in the order of the events. -/
theorem serializes (hidle : h.router.delivering = false) (ho : h.router.Orderly) :
    Serializes (hs.filterMap Handling.notification?) h h' := by
  obtain ⟨hdrain, hhandlings⟩ := hd.processed h.pendingBound 0 (Nat.le_refl _)
  have hall : Serializes ((drainHandlings inside h.pendingBound h).filterMap Handling.notification?)
      h (drain inside h.pendingBound 0 h).2 := drain_serializes (discreet_step _) _ 0 ho hidle
  rwa [hdrain, hhandlings] at hall

end Drains

/-! ### Main result -/

/-- **Processing the inbound queue is handling its events in order.** On an open endpoint outside of
a delivery, whose callbacks do not close it, the whole queue is processed: first the events that
waited, and then those that callbacks queued meanwhile. Each is handled once, and what comes of it
is what comes of it when all of them are handed over one after the other. If nothing was queued
meanwhile, that is so of the events that waited. What is told comes in blocks in the order of the
events, so that the events of one producer are told in the order in which it sent them, however the
sends of several producers were interleaved. -/
theorem processPending_drains (hopen : h.router.closed = false)
    (hidle : h.router.delivering = false)
    (hcallbacks : h.router.CallbacksAll Operation.staysOpen) :
    ∃ new hs h', processPending inside h = (.ok hs.length, h') ∧ Drains h new hs h' ∧
      hs.map Handling.event = h.endpoint.inbound ++ new ∧
      new.length ≤ backlog h.router.subscribers ∧
      (∀ x ∈ hs, x.Settled) ∧
      (new = [] → handleAll h.endpoint.inbound (h.withInbound []) = (hs, h')) ∧
      (h.router.Orderly → Serializes (hs.filterMap Handling.notification?) h h') ∧
      ∀ (Producer : Type) [DecidableEq Producer] (sends : List (Producer × InboundEvent)),
        sends.map Prod.snd = h.endpoint.inbound → ∀ p,
          (Handling.sentBy p sends hs).Sublist hs ∧
            (Handling.sentBy p sends hs).map Handling.event =
              (sends.filter fun send => send.1 = p).map Prod.snd := by
  have hr : Ready h := ⟨hopen, hidle, hcallbacks⟩
  have hr₀ : Ready (h.withInbound []) := ⟨hopen, hidle, hcallbacks⟩
  obtain ⟨new, hs, h', hd⟩ := exists_drains hr
  obtain ⟨hdrain, -⟩ := hd.processed h.pendingBound 0 (Nat.le_refl _)
  obtain ⟨hsettled, -, hcount⟩ := handleAll_ready hr₀ (h.endpoint.inbound ++ new)
  rw [hd.sequential] at hsettled hcount
  refine ⟨new, hs, h', ?_, hd, hd.events, ?_, hsettled, hd.sequential_of_nil, hd.serializes hidle,
    ?_⟩
  · rw [processPending, if_neg (Bool.eq_false_iff.mp hidle), hdrain, Nat.zero_add]
  · have hlength : h'.queued.length = h.queued.length + new.length := by
      rw [hd.queued, List.length_append]
    have hcount' : h'.queued.length + backlog h'.router.subscribers ≤
      h.queued.length + backlog h.router.subscribers := hcount
    omega
  · intro Producer _ sends hsends p
    have hevents : hs.map Handling.event = sends.map Prod.snd ++ new := by rw [hd.events, hsends]
    exact ⟨Handling.sentBy_sublist p sends hs, Handling.map_event_sentBy p sends hevents⟩

/-- A callback queues an event at the first of two failures, which two producers have reported. -/
theorem processPending_drains_growing :
    let failure (reason : String) : InboundEvent := .transportError reason none
    let start := fresh (KeyRing.ofId "alice") .channel true
    let h := (start.withRouter (start.router.subscribe
      (.callbacks [] [{ item := [.queueError "late" none], times := 1 }])).2).withInbound
        [failure "first", failure "second"]
    h.router.CallbacksAll Operation.staysOpen ∧ ∃ hs h', processPending inside h = (.ok 3, h') ∧
      hs.map Handling.event = [failure "first", failure "second", failure "late"] ∧
      (Handling.sentBy 2 [(1, failure "first"), (2, failure "second")] hs).map Handling.event =
        [failure "second"] := by
  intro failure start h
  have hcallbacks : h.router.CallbacksAll Operation.staysOpen := by
    intro s hs
    rw [List.mem_singleton.mp hs]
    decide +kernel
  obtain ⟨new, hs, h', hprocess, hd, hevents, -, -, -, -, hproducers⟩ :=
    processPending_drains (h := h) rfl rfl hcallbacks
  have hnew : new = [failure "late"] := by
    have hqueued : (processPending inside h).2.queued = [failure "late"] := by rfl
    rw [hprocess] at hqueued
    exact (hd.queued.symm.trans hqueued)
  subst hnew
  have hlength : hs.length = 3 := by
    rw [← List.length_map, hevents]
    rfl
  refine ⟨hcallbacks, hs, h', by rw [hprocess, hlength], hevents, ?_⟩
  exact (hproducers Nat _ rfl 2).2

end Host

end ChatRouting
