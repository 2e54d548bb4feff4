import ChatRouting.Proofs.Host.Refusal
import ChatRouting.Proofs.Host.Waiting

/-!
# Events that are lost

An event that is accepted waits in the inbound queue until it is taken out, and it is taken out
before the router is asked whether it is closed. So when the queue is processed on a closed router,
or a callback closes the router meanwhile, the next event is taken out and refused, and it is not
put back. The processing ends with the refusal, and the events behind wait on.

So each refusal loses one event, and nothing else loses any. All other events that were accepted
have been taken by the router or wait, in the order in which they were accepted.

## Main definitions

* `Handling.isLost`: the router has refused an event that was taken out
* `Host.accepted`, `Host.taken`: the events that a run puts into the queue and takes out of it
* `Host.Takes`: events are taken out of the queue in order

## Main results

* `Host.drain_takes`, `Host.drain_error`: the queue is processed
* `Host.accepted_eq_taken_append`: the events that a run accepts
* `Host.refused_loses_one`
-/

namespace ChatRouting

deriving instance DecidableEq for Answer

/-- The router has refused the event. -/
def Handling.isLost (x : Handling) : Bool :=
  match x.outcome with
  | .ok _ => false
  | .error _ => true

namespace Host

/-- The events that an operation takes out of the inbound queue, in order. -/
def takings (op : Operation) (h : Host) : List Handling :=
  if op.takesQueued then handlings inside op h else []

/-- The events that are put into the inbound queue with an operation of the host, in order: those
that callbacks queue meanwhile, or the one that the operation queues. -/
def acceptedBy (op : Operation) (h : Host) : List InboundEvent :=
  (perform op h).2.queued.drop h.queued.length
    ++ if op.processes then [] else op.queued (perform op h).1.answer

/-- The events that a run takes out of the inbound queue, in order. -/
def taken : List Operation → Host → List Handling
  | [], _ => []
  | op :: ops, h => takings op h ++ taken ops (perform op h).2

/-- The events that a run puts into the inbound queue, in order. -/
def accepted : List Operation → Host → List InboundEvent
  | [], _ => []
  | op :: ops, h => acceptedBy op h ++ accepted ops (perform op h).2

/-- Events are taken out of the inbound queue in order, while callbacks queue new ones behind those
that wait. -/
structure Takes (h : Host) (new : List InboundEvent) (xs : List Handling) (h' : Host) : Prop where
  order : h.endpoint.inbound ++ new = xs.map Handling.event ++ h'.endpoint.inbound
  queued : h'.queued = h.queued ++ new

variable {h h' h'' : Host} {new new' : List InboundEvent} {xs ys : List Handling} {f : Fault}
  {op : Operation}

theorem takes_nil (hin : h'.endpoint.inbound = h.endpoint.inbound) (hq : h'.queued = h.queued) :
    Takes h [] [] h' where
  order := by rw [List.append_nil, hin, List.map_nil, List.nil_append]
  queued := by rw [hq, List.append_nil]

theorem Takes.trans (h₁ : Takes h new xs h') (h₂ : Takes h' new' ys h'') :
    Takes h (new ++ new') (xs ++ ys) h'' where
  order := by
    rw [← List.append_assoc, h₁.order, List.append_assoc, h₂.order, List.map_append,
      List.append_assoc]
  queued := by rw [h₂.queued, h₁.queued, List.append_assoc]

/-- The first event is taken out. -/
theorem takes_first {x : Handling} {rest : List InboundEvent}
    (hin : h.endpoint.inbound = x.event :: rest) : Takes h [] [x] (h.withInbound rest) where
  order := by
    rw [hin, List.append_nil]
    rfl
  queued := (List.append_nil _).symm

/-! ### An event is handled -/

/-- Whoever is told of an event, what callbacks queue comes after the events that wait. -/
theorem fanOut_takes (n : Notification) (h : Host) : ∃ new, Takes h new [] (fanOut inside n h) := by
  obtain ⟨new, hfan⟩ := fanOut_queues n h
  refine ⟨new, ?_, hfan.logged⟩
  have hbeside : fanOut inside n h = _ := hfan.beside h.endpoint.inbound
  rw [hbeside]
  rfl

theorem route_takes (event : InboundEvent) (localId : String) (peer : Option String)
    (hd : h.router.delivering = false) :
    ∃ new, Takes h new [] (route inside event localId peer h).2 := by
  rw [route, if_neg (Bool.eq_false_iff.mp hd)]
  split_ifs
  · exact ⟨[], takes_nil rfl rfl⟩
  · split
    · exact ⟨[], takes_nil rfl rfl⟩
    · next n router _ =>
      obtain ⟨new, hfan⟩ := fanOut_takes n (h.withRouter router)
      exact ⟨new, hfan.order, hfan.queued⟩

theorem handle_takes (event : InboundEvent) (hd : h.router.delivering = false) :
    ∃ new, Takes h new [] (handle inside event h).2 := by
  rw [handle, if_neg (Bool.eq_false_iff.mp hd)]
  split_ifs
  · exact ⟨[], takes_nil rfl rfl⟩
  · exact route_takes event _ _ hd

/-- Outside of a delivery an event is refused because the router is closed. -/
theorem closed_of_handle_error {event : InboundEvent} (hd : h.router.delivering = false)
    (hf : (handle inside event h).1 = .error f) : f = .closed ∧ h.router.closed = true := by
  rcases hopen : h.router.closed with _ | _
  · rw [handle_of_open hopen hd] at hf
    split at hf
    · cases hf
    · cases hf
  · rw [handle_of_closed hopen] at hf
    cases hf
    exact ⟨rfl, rfl⟩

/-! ### The queue is processed -/

/-- The first event is taken out and handled. It is refused if the router is closed. -/
theorem handleNext_takes {event : InboundEvent} {rest : List InboundEvent}
    (hin : h.endpoint.inbound = event :: rest) (hd : h.router.delivering = false) :
    ∃ outcome h' new, handleNext inside h = some (outcome, h') ∧ h'.router.delivering = false ∧
      Takes h new [{ event, outcome }] h' ∧
      ∀ f, outcome = .error f → f = .closed ∧ h.router.closed = true ∧ h' = h.withInbound rest := by
  obtain ⟨new, hevent⟩ := handle_takes event (h := h.withInbound rest) hd
  refine ⟨(handle inside event (h.withInbound rest)).1, (handle inside event (h.withInbound rest)).2,
    new, ?_, delivering_handle event hd, ?_, fun f hf => ?_⟩
  · rw [handleNext, hin]
    rfl
  · exact (takes_first (x := { event, outcome := (handle inside event (h.withInbound rest)).1 })
      hin).trans hevent
  · obtain ⟨hclosed, hrouter⟩ := closed_of_handle_error (h := h.withInbound rest) hd hf
    exact ⟨hclosed, hrouter, congrArg Prod.snd (handle_of_error hf)⟩

/-- When the queue is processed, events are taken out of it in order. -/
theorem drain_takes (bound k : Nat) (hd : h.router.delivering = false) :
    ∃ new, Takes h new (drainHandlings inside bound h) (drain inside bound k h).2 := by
  induction bound generalizing k h with
  | zero => exact ⟨[], takes_nil rfl rfl⟩
  | succ bound ih =>
    rcases hin : h.endpoint.inbound with _ | ⟨event, rest⟩
    · rw [drain, drainHandlings, handleNext_of_nil hin, hin]
      exact ⟨[], takes_nil rfl rfl⟩
    · obtain ⟨outcome, h', new, hnext, hidle, hevent, -⟩ := handleNext_takes hin hd
      rw [drain, drainHandlings, hnext, hin]
      rcases outcome with f | n
      · exact ⟨new, hevent⟩
      · obtain ⟨new', hrest⟩ := ih (k + 1) hidle
        exact ⟨_, hevent.trans hrest⟩

/-- If the processing does not end with a refusal, then no event is lost. -/
theorem drain_ok {bound k processed : Nat} (hd : h.router.delivering = false)
    (hok : (drain inside bound k h).1 = .ok processed) :
    ∀ x ∈ drainHandlings inside bound h, x.isLost = false := by
  induction bound generalizing k h with
  | zero =>
    intro x hx
    cases hx
  | succ bound ih =>
    rcases hin : h.endpoint.inbound with _ | ⟨event, rest⟩
    · rw [drainHandlings, handleNext_of_nil hin, hin]
      intro x hx
      cases hx
    · obtain ⟨outcome, h', new, hnext, hidle, -, -⟩ := handleNext_takes hin hd
      rw [drain, hnext] at hok
      rw [drainHandlings, hnext, hin]
      rcases outcome with f | n
      · cases hok
      · intro x hx
        rcases List.mem_cons.mp hx with rfl | hx
        · rfl
        · exact ih hidle hok x hx

/-- If the processing ends with a refusal, then the event that was taken last is lost, and no
other. -/
theorem drain_error {bound k : Nat} (hd : h.router.delivering = false)
    (hf : (drain inside bound k h).1 = .error f) :
    f = .closed ∧ (drain inside bound k h).2.router.closed = true ∧
      ∃ handled lost, drainHandlings inside bound h =
          handled ++ [{ event := lost, outcome := .error .closed }] ∧
        ∀ x ∈ handled, x.isLost = false := by
  induction bound generalizing k h with
  | zero => cases hf
  | succ bound ih =>
    rcases hin : h.endpoint.inbound with _ | ⟨event, rest⟩
    · rw [drain, handleNext_of_nil hin] at hf
      cases hf
    · obtain ⟨outcome, h', new, hnext, hidle, -, hrefused⟩ := handleNext_takes hin hd
      rw [drain, hnext] at hf ⊢
      rw [drainHandlings, hnext, hin]
      rcases outcome with f' | n
      · obtain ⟨rfl, hclosed, rfl⟩ := hrefused f' rfl
        cases hf
        exact ⟨rfl, hclosed, [], event, rfl, fun _ hx => by cases hx⟩
      · obtain ⟨hfault, hclosed, handled, lost, hlast, hhandled⟩ := ih hidle hf
        refine ⟨hfault, hclosed, { event, outcome := .ok n } :: handled, lost, ?_, ?_⟩
        · simp only [hlast, List.cons_append]
        · intro x hx
          rcases List.mem_cons.mp hx with rfl | hx
          · rfl
          · exact hhandled x hx

/-- On a closed router the event that waits first is refused. -/
theorem drain_of_closed_cons {event : InboundEvent} {rest : List InboundEvent} (bound k : Nat)
    (hclosed : h.router.closed = true) (hin : h.endpoint.inbound = event :: rest) :
    drain inside (bound + 1) k h = (.error .closed, h.withInbound rest) := by
  have hnext : handleNext inside h = some (.error .closed, h.withInbound rest) := by
    rw [handleNext, hin]
    exact congrArg some (handle_of_closed (h := h.withInbound rest) hclosed event)
  rw [drain, hnext]

/-! ### An operation -/

/-- The queue is processed whole or up to one event, and the answer is a refusal only if the
processing ends with one. -/
theorem stepHeld_of_takesQueued (hop : op.takesQueued = true) (hd : h.router.delivering = false) :
    ∃ (bound : Nat) (g : Nat → Answer), (∀ n f, g n ≠ .refused f) ∧
      (h.endpoint.inbound ≠ [] → bound ≠ 0) ∧
      heldHandlings inside h op = drainHandlings inside bound h ∧
      stepHeld inside h op =
        (Answer.ofExcept g (drain inside bound 0 h).1, (drain inside bound 0 h).2) := by
  cases op with
  | processPending =>
    refine ⟨h.pendingBound, .count, fun _ _ hg => (by cases hg), fun hin hbound => hin ?_, ?_, ?_⟩
    · have hlength : h.endpoint.inbound.length + backlog h.router.subscribers = 0 := hbound
      exact List.eq_nil_of_length_eq_zero (by omega)
    · simp only [heldHandlings, hd, Bool.false_eq_true, if_false]
    · simp only [stepHeld, processPending, hd, Bool.false_eq_true, if_false]
  | processNext =>
    refine ⟨1, fun n => .truth (n == 1), fun _ _ hg => (by cases hg), fun _ => Nat.one_ne_zero, ?_,
      ?_⟩
    · simp only [heldHandlings, hd, Bool.false_eq_true, if_false]
    · simp only [stepHeld, processNext, hd, Bool.false_eq_true, if_false, drain]
      rcases handleNext inside h with _ | ⟨_ | n, h'⟩
      · rfl
      · rfl
      · rfl
  | _ => cases hop

/-- Collecting requests leaves the queue, what callbacks have queued, and the router alone. -/
theorem collect_leaves (a : Answer) (h : Host) :
    (collect (a, h)).2.endpoint.inbound = h.endpoint.inbound ∧
      (collect (a, h)).2.queued = h.queued := by
  obtain ⟨haudience, hin⟩ := h.audience_collect a
  have hlog : (collect (a, h)).2.log = h.log := congrArg Audience.log haudience
  exact ⟨hin, by rw [queued, hlog, ← queued]⟩

theorem Takes.collect (ht : Takes h new xs h') (a : Answer) :
    Takes h new xs (collect (a, h')).2 where
  order := by rw [(collect_leaves a h').1, ht.order]
  queued := by rw [(collect_leaves a h').2, ht.queued]

/-- An operation that processes no event only adds to those that wait. -/
theorem stepHeld_takes_of_not_processes (h : Host) (hop : op.processes = false) :
    h.endpoint.inbound ++ op.queued (stepHeld inside h op).1 =
        (stepHeld inside h op).2.endpoint.inbound ∧
      (stepHeld inside h op).2.queued = h.queued := by
  refine ⟨?_, ?_⟩
  · by_cases hspares : op.sparesAudience = true
    · exact (h.audience_stepHeld inside hspares (Or.inl hop)).2.symm
    · have hown : stepHeld inside h op = _ :=
        stepHeld_withInbound_of_audience h h.endpoint.inbound inside hspares
      exact (congrArg (fun result => result.2.endpoint.inbound) hown).symm
  · rw [queued, (stepHeld_quiet_of_not_processes inside h hop).log, ← queued]

/-- An operation that processes events takes some out of the queue, in order. -/
theorem stepHeld_takes_of_processes (hop : op.processes = true) (hd : h.router.delivering = false) :
    ∃ new, Takes h new (if op.takesQueued then heldHandlings inside h op else [])
      (stepHeld inside h op).2 := by
  cases hqueue : op.takesQueued with
  | true =>
    obtain ⟨bound, g, -, -, hhandlings, hstep⟩ := stepHeld_of_takesQueued hqueue hd
    rw [hhandlings, hstep]
    exact drain_takes bound 0 hd
  | false =>
    cases op with
    | route event localId peer => exact route_takes event localId peer hd
    | handle event => exact handle_takes event hd
    | processPending | processNext => cases hqueue
    | _ => cases hop

theorem takings_of_gone (hgone : (op.needsEndpoint && !h.held) = true) : takings op h = [] := by
  rw [takings, handlings, if_pos hgone, ite_self]

theorem takings_of_held (hheld : (op.needsEndpoint && !h.held) = false) :
    takings op h = if op.takesQueued then heldHandlings inside h op else [] := by
  rw [takings, handlings, if_neg (Bool.eq_false_iff.mp hheld)]

theorem perform_of_gone (hgone : (op.needsEndpoint && !h.held) = true) :
    perform op h = collect (.gone, h) := by
  rw [perform, step, if_pos hgone]

theorem perform_of_held (hheld : (op.needsEndpoint && !h.held) = false) :
    perform op h = collect (stepHeld inside h op) := by
  rw [perform, step, if_neg (Bool.eq_false_iff.mp hheld)]

/-- What an operation takes out of the queue stands before the events that wait, and what it
accepts stands behind them. -/
theorem perform_takes (op : Operation) (hd : h.router.delivering = false) :
    h.endpoint.inbound ++ acceptedBy op h =
      (takings op h).map Handling.event ++ (perform op h).2.endpoint.inbound := by
  cases hgone : op.needsEndpoint && !h.held with
  | true =>
    obtain ⟨hin, hq⟩ := collect_leaves .gone h
    have hqueued : op.queued (collect (.gone, h)).1.answer = [] := queued_gone op
    rw [takings_of_gone hgone, acceptedBy, perform_of_gone hgone, hq, List.drop_length, hqueued, ite_self, hin,
      List.append_nil, List.append_nil]
    rfl
  | false =>
    obtain ⟨hin, hq⟩ := collect_leaves (stepHeld inside h op).1 (stepHeld inside h op).2
    have hanswer : (collect (stepHeld inside h op)).1.answer = (stepHeld inside h op).1 := rfl
    rw [takings_of_held hgone, acceptedBy, perform_of_held hgone, hq, hanswer, hin]
    cases hop : op.processes with
    | false =>
      obtain ⟨horder, hsame⟩ := stepHeld_takes_of_not_processes h hop
      have hnone : heldHandlings inside h op = [] := heldHandlings_of_not_processes inside h hop
      simp [hnone, hsame, horder]
    | true =>
      obtain ⟨new, ht⟩ := stepHeld_takes_of_processes hop hd
      have hnew : (stepHeld inside h op).2.queued.drop h.queued.length = new := by
        rw [ht.queued, List.drop_left]
      simpa [hnew] using ht.order

/-- **The events that a run accepts.** Those that were taken out of the queue come first, and the
others wait, in the order in which they were accepted. -/
theorem accepted_eq_taken_append (ops : List Operation) (ho : h.router.Orderly)
    (hd : h.router.delivering = false) :
    h.endpoint.inbound ++ accepted ops h =
      (taken ops h).map Handling.event ++ (run ops h).endpoint.inbound := by
  induction ops generalizing h with
  | nil => exact List.append_nil _
  | cons op ops ih =>
    have hop : Serializes _ h (perform op h).2 := step_serializes (discreet_step _) op ho hd
    have hrest := ih (hop.orderly ho) hop.delivering
    have hrun : run (op :: ops) h = run ops (perform op h).2 := rfl
    rw [accepted, taken, hrun, ← List.append_assoc, perform_takes op hd, List.append_assoc, hrest,
      List.map_append, List.append_assoc]

/-! ### Main result -/

/-- A refusal is the answer of an endpoint that is there, and it comes with one lost event. -/
theorem perform_refused (hop : op.takesQueued = true) (hd : h.router.delivering = false)
    (hr : (perform op h).1.answer = .refused f) :
    f = .closed ∧ (perform op h).2.router.closed = true ∧
      ∃ handled lost new,
        takings op h = handled ++ [{ event := lost, outcome := .error .closed }] ∧
        (∀ x ∈ handled, x.isLost = false) ∧ Takes h new (takings op h) (perform op h).2 := by
  cases hgone : op.needsEndpoint && !h.held with
  | true =>
    rw [perform_of_gone hgone] at hr
    cases hr
  | false =>
    obtain ⟨bound, g, hg, -, hhandlings, hstep⟩ := stepHeld_of_takesQueued hop hd
    rw [perform_of_held hgone, hstep] at hr ⊢
    have hfault := ofExcept_eq_refused (fun n => hg n f) hr
    obtain ⟨hclosed, hrouter, handled, lost, hlast, hhandled⟩ := drain_error hd hfault
    obtain ⟨new, ht⟩ := drain_takes bound 0 hd
    have htakings : takings op h = drainHandlings inside bound h := by
      rw [takings_of_held hgone, if_pos hop, hhandlings]
    rw [collect_router, htakings]
    exact ⟨hclosed, hrouter, handled, lost, new, hlast, hhandled, ht.collect _⟩

/-- Without a refusal no event is lost. -/
theorem perform_of_not_refused (hop : op.takesQueued = true) (hd : h.router.delivering = false)
    (hr : ∀ f, (perform op h).1.answer ≠ .refused f) :
    (∀ x ∈ takings op h, x.isLost = false) ∧
      ∃ new, Takes h new (takings op h) (perform op h).2 := by
  cases hgone : op.needsEndpoint && !h.held with
  | true =>
    obtain ⟨hin, hq⟩ := collect_leaves .gone h
    rw [takings_of_gone hgone, perform_of_gone hgone]
    exact ⟨fun _ hx => (by cases hx), [], takes_nil hin hq⟩
  | false =>
    obtain ⟨bound, g, -, -, hhandlings, hstep⟩ := stepHeld_of_takesQueued hop hd
    obtain ⟨new, ht⟩ := drain_takes bound 0 hd
    have htakings : takings op h = drainHandlings inside bound h := by
      rw [takings_of_held hgone, if_pos hop, hhandlings]
    rw [perform_of_held hgone, hstep] at hr ⊢
    rw [htakings]
    rcases hresult : (drain inside bound 0 h).1 with f | processed
    · rw [hresult] at hr
      exact absurd rfl (hr f)
    · exact ⟨drain_ok hd hresult, new, ht.collect _⟩

/-- On a closed router the first event that waits is lost, and nothing else happens. -/
theorem perform_of_closed (hop : op.takesQueued = true) (hd : h.router.delivering = false)
    (hheld : h.held = true) (hclosed : h.router.closed = true) {event : InboundEvent}
    {rest : List InboundEvent} (hin : h.endpoint.inbound = event :: rest) :
    (perform op h).1.answer = .refused .closed ∧ (perform op h).2.endpoint.inbound = rest := by
  obtain ⟨bound, g, -, hbound, -, hstep⟩ := stepHeld_of_takesQueued hop hd
  obtain ⟨bound, rfl⟩ := Nat.exists_eq_succ_of_ne_zero (hbound (by simp [hin]))
  rw [perform_of_held (by rw [hheld, Bool.not_true, Bool.and_false]), hstep,
    drain_of_closed_cons bound 0 hclosed hin]
  exact ⟨rfl, (collect_leaves _ _).1⟩

/-- **A refusal loses one event, and nothing else loses any.** In every run, whenever the router is
closed and by whomever, the events that were accepted are those that were taken out of the inbound
queue and those that wait, in the order in which they were accepted. When the queue is processed and
the answer is a refusal, then the router is closed, all events that were taken out were handled but
the last one, and that one was refused and does not wait any longer; the events behind it do, in
order, those that callbacks have queued meanwhile included. If the answer is no refusal, then all
that were taken out were handled. On a closed router the first event that waits is always lost in
this way. -/
theorem refused_loses_one (keys : KeyRing) (transport : Transport) (ignoreOwnEcho : Bool)
    (ops : List Operation) :
    let start := fresh keys transport ignoreOwnEcho
    let h := run ops start
    accepted ops start = (taken ops start).map Handling.event ++ h.endpoint.inbound ∧
      ∀ op, op.takesQueued = true →
        (∀ f, (perform op h).1.answer = .refused f →
          f = .closed ∧ (perform op h).2.router.closed = true ∧
          ∃ handled lost new,
            takings op h = handled ++ [{ event := lost, outcome := .error .closed }] ∧
            (∀ x ∈ handled, x.isLost = false) ∧
            (perform op h).2.queued = h.queued ++ new ∧
            h.endpoint.inbound ++ new =
              handled.map Handling.event ++ lost :: (perform op h).2.endpoint.inbound) ∧
        ((∀ f, (perform op h).1.answer ≠ .refused f) →
          (∀ x ∈ takings op h, x.isLost = false) ∧
          ∃ new, (perform op h).2.queued = h.queued ++ new ∧
            h.endpoint.inbound ++ new =
              (takings op h).map Handling.event ++ (perform op h).2.endpoint.inbound) ∧
        (h.held = true → h.router.closed = true → ∀ event rest,
          h.endpoint.inbound = event :: rest →
            (perform op h).1.answer = .refused .closed ∧
              (perform op h).2.endpoint.inbound = rest) := by
  intro start h
  have hd : h.router.delivering = false :=
    (serializes_run_fresh keys transport ignoreOwnEcho ops).delivering
  refine ⟨?_, fun op hop => ⟨fun f hr => ?_, fun hr => ?_, fun hheld hclosed event rest hin => ?_⟩⟩
  · have hall := accepted_eq_taken_append (h := start) ops
      ⟨List.Pairwise.nil, by simp [start, router, fresh]⟩ rfl
    exact hall
  · obtain ⟨hfault, hclosed, handled, lost, new, htakings, hhandled, ht⟩ :=
      perform_refused hop hd hr
    refine ⟨hfault, hclosed, handled, lost, new, htakings, hhandled, ht.queued, ?_⟩
    rw [ht.order, htakings, List.map_append, List.append_assoc]
    rfl
  · obtain ⟨hhandled, new, ht⟩ := perform_of_not_refused hop hd hr
    exact ⟨hhandled, new, ht.queued, ht.order⟩
  · exact perform_of_closed hop hd hheld hclosed hin

/-- A callback closes the router at the first of three failures, and the second is lost. -/
theorem refused_loses_one_inside :
    let start := fresh (KeyRing.ofId "alice") .channel true
    let failure (reason : String) : InboundEvent := .transportError reason none
    let ops : List Operation := [
      .subscribe "ui" [] [{ item := [.close], times := 1 }],
      .queueError "first" none, .queueError "second" none, .queueError "third" none]
    let h := run ops start
    (perform .processPending h).1.answer = .refused .closed ∧
      ∃ handled, takings .processPending h =
          handled ++ [{ event := failure "second", outcome := .error .closed }] ∧
        handled.map Handling.event = [failure "first"] ∧
        (∀ x ∈ handled, x.isLost = false) ∧
        (perform .processPending h).2.endpoint.inbound = [failure "third"] := by
  intro start failure ops h
  have hr : (perform .processPending h).1.answer = .refused .closed := by decide +kernel
  have hevents : (takings .processPending h).map Handling.event =
      [failure "first"] ++ [failure "second"] := by decide +kernel
  have hin : (perform .processPending h).2.endpoint.inbound = [failure "third"] := by
    decide +kernel
  have hall := (refused_loses_one (KeyRing.ofId "alice") .channel true ops).2
  have hrun : run ops (fresh (KeyRing.ofId "alice") .channel true) = h := rfl
  rw [hrun] at hall
  -- What the host is does not matter any longer.
  clear_value h
  obtain ⟨_, _, handled, lost, _, htakings, hhandled, _, _⟩ :=
    (hall .processPending rfl).1 .closed hr
  rw [htakings, List.map_append] at hevents
  obtain ⟨hfirst, hlost⟩ := List.append_inj' hevents rfl
  have hsecond : lost = failure "second" := List.head_eq_of_cons_eq hlost
  exact ⟨hr, handled, hsecond ▸ htakings, hfirst, hhandled, hin⟩

/-- An event that was accepted before the router was closed is lost by the refusal, whether the
whole queue is processed or one event. Afterwards nothing waits, and nothing is refused. -/
theorem lost_after_close :
    let start := fresh (KeyRing.ofId "alice") .channel true
    let h := run [.queueError "late" none, .close] start
    h.endpoint.inbound = [.transportError "late" none] ∧
      ((perform .processPending h).1.answer = .refused .closed ∧
        (perform .processPending h).2.endpoint.inbound = [] ∧
        (perform .processPending (perform .processPending h).2).1.answer = .count 0) ∧
      (perform .processNext h).1.answer = .refused .closed ∧
        (perform .processNext h).2.endpoint.inbound = [] ∧
        (perform .processNext (perform .processNext h).2).1.answer = .truth false := by
  decide +kernel

end Host

end ChatRouting
