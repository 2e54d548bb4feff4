import ChatRouting.Proofs.Host.Asking
import ChatRouting.Proofs.Host.Turns

/-!
# Plain runs

When all operations of a run are plain, the endpoint goes through plain moves, the moves in
callbacks included: callbacks that are subscribed by plain operations perform plain operations. At
each moment of such a run what happens stays within the endpoint, and between two moments an event
is judged as the endpoint itself judges it.

## Main definitions

* `Host.PlainLeads`: some moments lead from one host to another, and nothing reaches past the
  endpoint

## Main results

* `Host.handle_plain`: an event that the endpoint is handed is judged as one of its own
* `Host.plainLeads_moments`: the moments of a run, those in callbacks included
-/

namespace ChatRouting

namespace Endpoint

variable {e e' : Endpoint}

theorem PlainMoves.callbacksPlain (h : PlainMoves e e') (hc : e.router.CallbacksPlain) :
    e'.router.CallbacksPlain := by
  induction h with
  | refl => exact hc
  | tail _ hmove ih => exact hmove.callbacks ih

theorem plain_mark (e : Endpoint) (delivering : Bool) :
    PlainMove e { e with router := { e.router with delivering } } :=
  { move := .mark delivering, sessions := .keep, callbacks := fun hc => hc }

theorem plain_take (e : Endpoint) {event : InboundEvent} {rest : List InboundEvent}
    (hin : e.inbound = event :: rest) : PlainMove e { e with inbound := rest } :=
  { plain_of_router rfl with move := .take hin }

/-- An event is judged with the local id at the moment. -/
theorem plain_judge (e : Endpoint) (event : InboundEvent) :
    PlainMove e
      { e with router := (e.router.classify event e.localId (e.echoPeer event)).2 } := by
  refine { move := .classify event _ _, sessions := .judge event, callbacks := fun hc => ?_ }
  obtain ⟨registry, hr⟩ := e.router.exists_classify_eq event e.localId (e.echoPeer event)
  rw [hr]
  exact hc

end Endpoint

namespace Host

variable {h : Host}

theorem nextPlan_plain (n : Notification) {onSession onError : List (Repeated (List Operation))}
    (hplain : (Sink.callbacks onSession onError).isPlain = true) :
    (nextPlan n onSession onError).2.isPlain = true := by
  rw [Sink.isPlain_eq_every] at hplain ⊢
  exact (nextPlan_every n hplain).2

/-- A callback that is plain performs an operation. -/
theorem did_plain (id : Nat) {op : Operation} {rest : List Operation}
    (hc : Calling Operation.staysWithin (op :: rest) h) :
    h.endpoint.PlainMoves ((inside op h).2.note (.did id op (inside op h).1)).endpoint := by
  have hplan := hc.plan
  rw [Operation.planEvery, Bool.and_eq_true, ← Operation.isPlain_eq_every] at hplan
  exact (step_plainQuiet (h := h) _ hc.delivering hplan.1).changes.plainMoves

/-- Callbacks that are plain keep it so that the endpoint has gone through plain moves. -/
theorem keptInTurns_plain (e : Endpoint) (n : Notification) :
    KeptInTurns Operation.staysWithin n fun _ h => e.PlainMoves h.endpoint where
  did id op rest h hc hP := hP.trans (did_plain id hc)
  stopped _ _ hP := hP
  got id onSession onError h hs hP := hP.trans <| .single
    { move := .turn id (nextPlan n onSession onError).2
      sessions := .keep
      callbacks := fun hc => hc.turn id (nextPlan_plain n (hc _ (List.mem_of_getElem? hs))) }
  put id waiting h _ hP := hP.trans <| .single
    { move := .turn id (.channel (waiting ++ [n]) true)
      sessions := .keep
      callbacks := fun hc => hc.turn id rfl }
  gone id h hP := by
    have hgone := Endpoint.plain_of_adjusts (e := h.endpoint) (.deactivate id)
      fun hc => hc.of_calms (h.router.calms_deactivate id)
    exact hP.trans hgone.plainMoves

theorem fanOut_plain (n : Notification) (hc : h.router.CallbacksPlain) :
    h.endpoint.PlainMoves (fanOut inside n h).endpoint := by
  obtain ⟨h', hturns, -, hfan⟩ := (keptInTurns_plain h.endpoint n).fanOut
    (Router.callbacksPlain_iff.mp hc) (.single (h.endpoint.plain_mark true))
  rw [hfan]
  exact hturns.tail (Endpoint.plain_mark _ false)

/-- An event that the endpoint is handed is judged as one of its own. -/
theorem handle_plain (event : InboundEvent) (hc : h.router.CallbacksPlain) :
    h.endpoint.PlainMoves (handle inside event h).2.endpoint := by
  let judged := h.withRouter
    (h.router.classify event h.endpoint.localId (h.endpoint.echoPeer event)).2
  have hjudge : h.endpoint.PlainMoves judged.endpoint := .single (h.endpoint.plain_judge event)
  rw [handle]
  split_ifs with hclosed hd
  · exact .refl
  · exact (plainQuiet_enqueue h event).changes.plainMoves
  · rw [route]
    rw [if_neg hclosed, if_neg hd]
    split
    · next router heq =>
      have hrouter : judged = h.withRouter router := congrArg (fun c => h.withRouter c.2) heq
      exact hrouter ▸ hjudge
    · next n router heq =>
      have hrouter : judged = h.withRouter router := congrArg (fun c => h.withRouter c.2) heq
      rw [← hrouter]
      exact hjudge.trans (fanOut_plain n (hjudge.callbacksPlain hc))

theorem handleNext_plain {result : Except Fault (Option Notification) × Host}
    (hnext : handleNext inside h = some result) (hc : h.router.CallbacksPlain) :
    h.endpoint.PlainMoves result.2.endpoint := by
  rw [handleNext] at hnext
  split at hnext
  · cases hnext
  · next event rest hin =>
    cases hnext
    have hevent := handle_plain (h := h.withEndpoint { h.endpoint with inbound := rest }) event hc
    exact .head (h.endpoint.plain_take hin) hevent

theorem drain_plain (bound processed : Nat) (hc : h.router.CallbacksPlain) :
    h.endpoint.PlainMoves (drain inside bound processed h).2.endpoint := by
  induction bound generalizing processed h with
  | zero => exact .refl
  | succ bound ih =>
    rw [drain]
    split
    · exact .refl
    · next hnext => exact handleNext_plain hnext hc
    · next hnext =>
      have hevent := handleNext_plain hnext hc
      exact hevent.trans (ih (processed + 1) (hevent.callbacksPlain hc))

theorem stepHeld_plain {op : Operation} (hop : op.isPlain = true) (hc : h.router.CallbacksPlain) :
    h.endpoint.PlainMoves (stepHeld inside h op).2.endpoint := by
  cases hprocesses : op.processes with
  | false => exact (stepHeld_plainQuiet_of_not_processes inside h hprocesses hop).changes.plainMoves
  | true =>
    cases op with
    | route => cases hop
    | handle event => exact handle_plain event hc
    | processPending =>
      simp only [stepHeld, processPending]
      split_ifs
      · exact .refl
      · exact drain_plain h.pendingBound 0 hc
    | processNext =>
      cases hd : h.router.delivering with
      | true =>
        simp only [stepHeld, processNext_of_delivering inside hd]
        exact .refl
      | false =>
        simp only [stepHeld, processNext_snd inside hd]
        exact drain_plain 1 0 hc
    | _ => cases hprocesses

theorem perform_plain {op : Operation} (hop : op.isPlain = true) (hc : h.router.CallbacksPlain) :
    h.endpoint.PlainMoves (perform op h).2.endpoint := by
  rw [perform, step]
  split_ifs
  · exact (plainQuiet_collect _ h).changes.plainMoves
  · exact (stepHeld_plain hop hc).trans (plainQuiet_collect _ _).changes.plainMoves

/-! ### Moments -/

/-- Some moments lead from one host to another, and nothing reaches past the endpoint on the way. -/
inductive PlainLeads (h : Host) : List Moment → Host → Prop
  | refl : PlainLeads h [] h
  | between {ms : List Moment} {h' h'' : Host} (hl : PlainLeads h ms h') (hb : Between h' h'')
      (hp : h'.endpoint.PlainMove h''.endpoint) : PlainLeads h ms h''
  | moment {ms : List Moment} {h' : Host} {m : Moment} (hl : PlainLeads h ms h') (ho : Occurs h' m)
      (hx : m.happening.staysWithin = true) (hp : h'.endpoint.PlainMoves m.host.endpoint) :
      PlainLeads h (ms ++ [m]) m.host

variable {h' h'' : Host} {m : Moment} {ms ms' : List Moment}

theorem PlainLeads.trans (h₁ : PlainLeads h ms h') (h₂ : PlainLeads h' ms' h'') :
    PlainLeads h (ms ++ ms') h'' := by
  induction h₂ with
  | refl => rwa [List.append_nil]
  | between _ hb hp ih => exact ih.between hb hp
  | moment _ ho hx hp ih =>
    rw [← List.append_assoc]
    exact ih.moment ho hx hp

theorem Between.plainLeads (hb : Between h h') (hp : h.endpoint.PlainMove h'.endpoint) :
    PlainLeads h [] h' :=
  PlainLeads.refl.between hb hp

theorem Occurs.plainLeads (ho : Occurs h m) (hx : m.happening.staysWithin = true)
    (hp : h.endpoint.PlainMoves m.host.endpoint) : PlainLeads h [m] m.host :=
  PlainLeads.refl.moment ho hx hp

theorem PlainLeads.leads (hl : PlainLeads h ms h') : Leads h ms h' := by
  induction hl with
  | refl => exact .refl
  | between _ hb _ ih => exact ih.between hb
  | moment _ ho _ _ ih => exact ih.moment ho

theorem PlainLeads.plainMoves (hl : PlainLeads h ms h') :
    h.endpoint.PlainMoves h'.endpoint := by
  induction hl with
  | refl => exact .refl
  | between _ _ hp ih => exact ih.tail hp
  | moment _ _ _ hp ih => exact ih.trans hp

theorem PlainLeads.callbacksPlain (hl : PlainLeads h ms h') (hc : h.router.CallbacksPlain) :
    h'.router.CallbacksPlain :=
  hl.plainMoves.callbacksPlain hc

/-- The moments before lead to a moment. -/
theorem PlainLeads.before {before later : List Moment} (hl : PlainLeads h (before ++ later) h') :
    PlainLeads h before (h.after before) := by
  generalize hms : before ++ later = ms at hl
  induction hl generalizing later with
  | refl =>
    obtain ⟨rfl, rfl⟩ := List.append_eq_nil_iff.mp hms
    exact .refl
  | between _ _ _ ih => exact ih hms
  | @moment ms _ m hl ho hx hp ih =>
    rcases List.eq_nil_or_concat later with rfl | ⟨later, last, rfl⟩
    · rw [List.append_nil] at hms
      rw [hms, after_append_singleton]
      exact hl.moment ho hx hp
    · rw [List.concat_eq_append, ← List.append_assoc] at hms
      exact ih (List.append_inj' hms rfl).1

theorem PlainLeads.plainMoves_of_mem (hl : PlainLeads h ms h') (hm : m ∈ ms) :
    h.endpoint.PlainMoves m.host.endpoint := by
  obtain ⟨before, later, rfl⟩ := List.append_of_mem hm
  rw [List.append_cons] at hl
  have hmoves := hl.before.plainMoves
  rwa [after_append_singleton] at hmoves

theorem plainLeads_runPlan (id : Nat) {plan : List Operation}
    (hc : Calling Operation.staysWithin plan h) :
    PlainLeads h (planMoments id plan h) (runPlan inside id plan h) := by
  induction plan generalizing h with
  | nil => exact .refl
  | cons op rest ih =>
    by_cases hop : op = .panic
    · subst hop
      exact .refl
    · rw [runPlan_cons inside id rest h hop, planMoments_cons id rest h hop]
      have hplan := hc.plan
      rw [Operation.planEvery, Bool.and_eq_true] at hplan
      have hdid := (Occurs.inside id op hc.delivering).plainLeads
        (Operation.every.self hplan.1) (did_plain id hc)
      exact hdid.trans (ih (hc.did id))

theorem plainLeads_deliver (n : Notification) (id : Nat)
    (hc : Calling Operation.staysWithin [] h) :
    PlainLeads h (turnMoments n h id) (deliver inside n h id) := by
  have hkept := keptInTurns_plain h.endpoint n
  rw [turnMoments, deliver]
  rcases hs : h.router.subscribers[id]? with _ | ⟨active, sink⟩
  · exact (Occurs.passed id).plainLeads rfl .refl
  · have hactive := isActive_of_getElem? hs
    cases active with
    | false => exact (Occurs.passed id).plainLeads rfl .refl
    | true =>
      cases sink with
      | callbacks onSession onError =>
        have hentry : (LogEntry.got id n).delivery? = some (id, n) := rfl
        have htold := (Occurs.told (nextPlan n onSession onError).2 hactive hentry).plainLeads rfl
          (hkept.got id onSession onError h hs .refl)
        exact htold.trans (plainLeads_runPlan id (hc.got n hs))
      | channel waiting attached =>
        cases attached with
        | false => exact (Occurs.noticed id hactive).plainLeads rfl (hkept.gone id h .refl)
        | true =>
          have hentry : (LogEntry.put id n).delivery? = some (id, n) := rfl
          exact (Occurs.told (.channel (waiting ++ [n]) true) hactive hentry).plainLeads rfl
            (hkept.put id waiting h hs .refl)

theorem plainLeads_foldl_deliver (n : Notification) (ids : List Nat)
    (hc : Calling Operation.staysWithin [] h) :
    PlainLeads h (turnsMoments n ids h) (ids.foldl (deliver inside n) h) := by
  induction ids generalizing h with
  | nil => exact .refl
  | cons id rest ih =>
    have hc' := ((keptInTurns_plain h.endpoint n).deliver id hc .refl).2
    exact (plainLeads_deliver n id hc).trans (ih hc')

theorem plainLeads_fanOut (n : Notification) (hc : h.router.CallbacksPlain) :
    PlainLeads h (turnsMoments n h.router.listed (h.setDelivering true)) (fanOut inside n h) := by
  have hcalling : Calling Operation.staysWithin [] (h.setDelivering true) :=
    ⟨rfl, by rw [Operation.planEvery], Router.callbacksPlain_iff.mp hc⟩
  have hbegin := (Between.mark true).plainLeads (h.endpoint.plain_mark true)
  have hturns := hbegin.trans (plainLeads_foldl_deliver n h.router.listed hcalling)
  exact hturns.between (.mark false) (Endpoint.plain_mark _ false)

/-- An event that the endpoint is handed is judged as one of its own. -/
theorem plainLeads_handle (event : InboundEvent) (hd : h.router.delivering = false)
    (hc : h.router.CallbacksPlain) :
    PlainLeads h (handleMoments event h) (handle inside event h).2 := by
  rw [handleMoments, routeMoments, handle, if_neg (Bool.eq_false_iff.mp hd), route, hd]
  cases hclosed : h.router.closed with
  | true => exact .refl
  | false =>
    have hjudge := (Between.classify event _ _ hclosed).plainLeads (h.endpoint.plain_judge event)
    simp only [Bool.or_false, Bool.false_eq_true, if_false]
    generalize h.router.classify event h.endpoint.localId (h.endpoint.echoPeer event) = judged
      at hjudge ⊢
    obtain ⟨_ | n, router⟩ := judged
    · exact hjudge
    · exact hjudge.trans (plainLeads_fanOut n (hjudge.callbacksPlain hc))

theorem plainLeads_drain (bound processed : Nat) (ho : h.router.Orderly)
    (hd : h.router.delivering = false) (hc : h.router.CallbacksPlain) :
    PlainLeads h (drainMoments bound h) (drain inside bound processed h).2 := by
  induction bound generalizing processed h with
  | zero => exact .refl
  | succ bound ih =>
    rw [drainMoments, drain, handleNext]
    cases hin : h.endpoint.inbound with
    | nil => exact .refl
    | cons event rest =>
      have htake := (Between.take hin).plainLeads (h.endpoint.plain_take hin)
      have hevent := htake.trans (plainLeads_handle event
        (h := h.withEndpoint { h.endpoint with inbound := rest }) hd hc)
      have hserial := handle_serializes discreet_inside event
        (h := h.withEndpoint { h.endpoint with inbound := rest }) ho hd
      simp only
      generalize handle inside event (h.withEndpoint { h.endpoint with inbound := rest }) = result
        at hevent hserial ⊢
      obtain ⟨_ | n, h'⟩ := result
      · rwa [List.append_nil]
      · exact hevent.trans (ih (processed + 1) (hserial.orderly ho) hserial.delivering
          (hevent.callbacksPlain hc))

/-- The events that a plain operation processes on an endpoint that is there. -/
theorem plainLeads_stepHeld {op : Operation} (hop : op.processes = true)
    (hplain : op.isPlain = true) (ho : h.router.Orderly) (hd : h.router.delivering = false)
    (hc : h.router.CallbacksPlain) :
    PlainLeads h (heldMoments h op) (stepHeld inside h op).2 := by
  cases op with
  | route => cases hplain
  | handle event => exact plainLeads_handle event hd hc
  | processPending =>
    simp only [heldMoments, stepHeld, processPending, if_neg (Bool.eq_false_iff.mp hd)]
    exact plainLeads_drain h.pendingBound 0 ho hd hc
  | processNext =>
    simp only [heldMoments, stepHeld, processNext_snd inside hd, if_neg (Bool.eq_false_iff.mp hd)]
    exact plainLeads_drain 1 0 ho hd hc
  | _ => cases hop

theorem plainLeads_perform {op : Operation} (hplain : op.isPlain = true) (ho : h.router.Orderly)
    (hd : h.router.delivering = false) (hc : h.router.CallbacksPlain) :
    PlainLeads h (opMoments op h) (perform op h).2 := by
  have hstays : op.staysWithin = true := Operation.every.self (op.isPlain_eq_every ▸ hplain)
  rw [opMoments]
  cases hop : op.processes with
  | false =>
    have hnone : heldMoments h op = [] := by
      cases op with
      | route | handle | processPending | processNext => cases hop
      | _ => rfl
    rw [hnone, ite_self]
    exact (Occurs.outside hop).plainLeads hstays (perform_plain hplain hc)
  | true =>
    have hperform : perform op h =
        collect (if op.needsEndpoint && !h.held then (.gone, h) else stepHeld inside h op) := rfl
    have hcollect (a : Answer) (ha : a.IsBare) (h : Host) :
        PlainLeads h [{ happening := .done op a, host := (collect (a, h)).2 }]
          (collect (a, h)).2 :=
      (Occurs.processed hop ha).plainLeads hstays (plainQuiet_collect a h).changes.plainMoves
    rw [hperform]
    split_ifs
    · exact hcollect .gone ⟨rfl, rfl⟩ h
    · have hbare := stepHeld_isBare_of_processes inside h hop
      exact (plainLeads_stepHeld hop hplain ho hd hc).trans (hcollect _ hbare _)

/-- The moments of a run of plain operations. -/
theorem plainLeads_moments {ops : List Operation} (hops : ∀ op ∈ ops, op.isPlain = true)
    (ho : h.router.Orderly) (hd : h.router.delivering = false) (hc : h.router.CallbacksPlain) :
    PlainLeads h (moments ops h) (run ops h) := by
  induction ops generalizing h with
  | nil => exact .refl
  | cons op ops ih =>
    have hserial : Serializes _ h (perform op h).2 := step_serializes discreet_inside op ho hd
    have hop := plainLeads_perform (hops op List.mem_cons_self) ho hd hc
    exact hop.trans (ih (fun op hmem => hops op (List.mem_cons_of_mem _ hmem)) (hserial.orderly ho)
      hserial.delivering (hop.callbacksPlain hc))

/-- A run of plain operations from a fresh host. -/
theorem plainLeads_moments_fresh (keys : KeyRing) (transport : Transport) (ignoreOwnEcho : Bool)
    {ops : List Operation} (hops : ∀ op ∈ ops, op.isPlain = true) :
    PlainLeads (fresh keys transport ignoreOwnEcho)
      (moments ops (fresh keys transport ignoreOwnEcho))
      (run ops (fresh keys transport ignoreOwnEcho)) :=
  plainLeads_moments hops ⟨List.Pairwise.nil, by simp [router, fresh]⟩ rfl fun _ hs => by cases hs

end Host

end ChatRouting
