import ChatRouting.Proofs.Host.Serialized

/-!
# The moments of a run

A run is looked at after every operation, those of callbacks included, and after every turn of a
subscriber. These are its *moments*, in order. Between two moments nothing is logged and nobody is
told anything: an event is taken out of the inbound queue and judged, and a delivery begins or ends.
At a moment one thing has happened. A subscriber was told something or was passed over, or an
operation was completed, of a callback or of the host.

What holds on the way from one moment to the next therefore holds on the way from any moment to any
later one, provided that it can be composed.

## Main definitions

* `Happening`, `Moment`, `Host.moments`
* `Host.Between`, `Host.Occurs`: what happens between moments, and at one
* `Host.Leads`: some moments lead from one host to another

## Main results

* `Host.leads_moments`: the moments of a run lead to its end
* `Host.Leads.rel`, `Host.Leads.pairwise`: what may be composed holds between any two moments
* `Host.Leads.exists_log_eq_take`: there is a moment after everything that is logged
-/

namespace ChatRouting

/-- The number that is given to a new subscriber. -/
def Answer.subscribed? : Answer → Option Nat
  | subscribed id _ => some id
  | _ => none

/-- The handle on the join request of a conversation that is opened. -/
def Answer.opened? : Answer → Option Nat
  | opened _ handle _ => some handle
  | _ => none

/-- The answer gives no number of a subscriber, and no handle on a join request. -/
def Answer.IsBare (a : Answer) : Prop :=
  a.subscribed? = none ∧ a.opened? = none

/-- What has just happened at a moment of a run. -/
inductive Happening where
  /-- A subscriber has been told something. -/
  | told (id : Nat) (n : Notification)
  /-- An inactive subscriber has been passed over. -/
  | passed (id : Nat)
  /-- The receiver of a subscriber's channel was found to be gone. -/
  | noticed (id : Nat)
  /-- An operation has been completed. -/
  | done (op : Operation) (a : Answer)

/-- A moment of a run. -/
structure Moment where
  happening : Happening
  host : Host

/-- The answer of the operation that has just been completed. -/
def Moment.answer? (m : Moment) : Option Answer :=
  match m.happening with
  | .done _ a => some a
  | _ => none

/-- The number that has just been given to a new subscriber. -/
def Moment.subscribed? (m : Moment) : Option Nat :=
  m.answer?.bind Answer.subscribed?

/-- The handle that has just been returned on a join request. -/
def Moment.opened? (m : Moment) : Option Nat :=
  m.answer?.bind Answer.opened?

namespace Host

/-! ### Moments -/

/-- The moments of the operations of a callback. -/
def planMoments (id : Nat) : List Operation → Host → List Moment
  | [], _ => []
  | .panic :: _, _ => []
  | op :: rest, h =>
    let (result, h) := inside op h
    let h := h.note (.did id op result)
    { happening := .done op result.answer, host := h } :: planMoments id rest h

/-- The moments of a subscriber's turn. -/
def turnMoments (n : Notification) (h : Host) (id : Nat) : List Moment :=
  match h.router.subscribers[id]? with
  | some { active := true, sink := .callbacks onSession onError } =>
    let (plan, sink) := nextPlan n onSession onError
    let told := (h.withRouter (h.router.modify id fun s => { s with sink })).note (.got id n)
    { happening := .told id n, host := told } :: planMoments id plan told
  | some { active := true, sink := .channel _ true } =>
    [{ happening := .told id n, host := deliver inside n h id }]
  | some { active := true, sink := .channel _ false } =>
    [{ happening := .noticed id, host := deliver inside n h id }]
  | _ => [{ happening := .passed id, host := deliver inside n h id }]

/-- The moments of turns one after the other. -/
def turnsMoments (n : Notification) : List Nat → Host → List Moment
  | [], _ => []
  | id :: rest, h => turnMoments n h id ++ turnsMoments n rest (deliver inside n h id)

/-- The moments of an event that the router processes. -/
def routeMoments (event : InboundEvent) (localId : String) (peer : Option String) (h : Host) :
    List Moment :=
  if h.router.closed || h.router.delivering then []
  else
    match h.router.classify event localId peer with
    | (none, _) => []
    | (some n, router) => turnsMoments n router.listed ((h.withRouter router).setDelivering true)

/-- The moments of an event that the endpoint processes. -/
def handleMoments (event : InboundEvent) (h : Host) : List Moment :=
  routeMoments event h.endpoint.localId (h.endpoint.echoPeer event) h

/-- The moments of the events that are processed out of the inbound queue, up to a bound on their
number. -/
def drainMoments : Nat → Host → List Moment
  | 0, _ => []
  | bound + 1, h =>
    match h.endpoint.inbound with
    | [] => []
    | event :: rest =>
      let taken := h.withEndpoint { h.endpoint with inbound := rest }
      handleMoments event taken
        ++ match handle inside event taken with
          | (.ok _, h') => drainMoments bound h'
          | (.error _, _) => []

/-- The moments of the events that an operation processes on an endpoint that is there. -/
def heldMoments (h : Host) : Operation → List Moment
  | .route event localId peer => routeMoments event localId peer h
  | .handle event => handleMoments event h
  | .processPending => if h.router.delivering then [] else drainMoments h.pendingBound h
  | .processNext => if h.router.delivering then [] else drainMoments 1 h
  | _ => []

/-- The moments of an operation, up to its completion. -/
def opMoments (op : Operation) (h : Host) : List Moment :=
  let (result, h') := perform op h
  (if op.needsEndpoint && !h.held then [] else heldMoments h op)
    ++ [{ happening := .done op result.answer, host := h' }]

/-- The moments of a run. -/
def moments : List Operation → Host → List Moment
  | [], _ => []
  | op :: ops, h => opMoments op h ++ moments ops (perform op h).2

/-- The host at the last of some moments, or as it was if there are none. -/
def after (h : Host) (ms : List Moment) : Host :=
  (ms.getLast?.map Moment.host).getD h

theorem after_cons (h : Host) (m : Moment) (ms : List Moment) :
    h.after (m :: ms) = m.host.after ms := by
  rw [after, after, List.getLast?_cons]
  cases ms.getLast? <;> rfl

/-! ### What happens -/

/-- What happens between two moments. -/
inductive Between (h : Host) : Host → Prop
  | take {event : InboundEvent} {rest : List InboundEvent}
      (hin : h.endpoint.inbound = event :: rest) :
      Between h (h.withEndpoint { h.endpoint with inbound := rest })
  | classify (event : InboundEvent) (localId : String) (peer : Option String)
      (hopen : h.router.closed = false) :
      Between h (h.withRouter (h.router.classify event localId peer).2)
  | mark (delivering : Bool) : Between h (h.setDelivering delivering)

/-- What happens at a moment. -/
inductive Occurs (h : Host) : Moment → Prop
  | told {id : Nat} {n : Notification} {entry : LogEntry} (sink : Sink)
      (hactive : h.router.isActive id = true) (hentry : entry.delivery? = some (id, n)) :
      Occurs h { happening := .told id n
                 host := (h.withRouter (h.router.modify id fun s => { s with sink })).note entry }
  | passed (id : Nat) : Occurs h { happening := .passed id, host := h }
  | noticed (id : Nat) (hactive : h.router.isActive id = true) :
      Occurs h { happening := .noticed id, host := h.withRouter (h.router.deactivate id) }
  /-- A callback has done an operation. -/
  | inside (id : Nat) (op : Operation) (hd : h.router.delivering = true) :
      Occurs h { happening := .done op (inside op h).1.answer
                 host := (inside op h).2.note (.did id op (inside op h).1) }
  /-- An operation that processes no event is completed. -/
  | outside {op : Operation} (hop : op.processes = false) :
      Occurs h { happening := .done op (perform op h).1.answer, host := (perform op h).2 }
  /-- An operation that processes events is completed. -/
  | processed {op : Operation} {a : Answer} (hop : op.processes = true) (ha : a.IsBare) :
      Occurs h { happening := .done op a, host := (collect (a, h)).2 }

/-- Some moments lead from one host to another. -/
inductive Leads (h : Host) : List Moment → Host → Prop
  | refl : Leads h [] h
  | between {ms : List Moment} {h' h'' : Host} (hl : Leads h ms h') (hb : Between h' h'') :
      Leads h ms h''
  | moment {ms : List Moment} {h' : Host} {m : Moment} (hl : Leads h ms h') (ho : Occurs h' m) :
      Leads h (ms ++ [m]) m.host

variable {h h' h'' : Host} {m : Moment} {ms ms' : List Moment}

theorem Leads.trans (h₁ : Leads h ms h') (h₂ : Leads h' ms' h'') : Leads h (ms ++ ms') h'' := by
  induction h₂ with
  | refl => rwa [List.append_nil]
  | between _ hb ih => exact ih.between hb
  | moment _ ho ih =>
    rw [← List.append_assoc]
    exact ih.moment ho

theorem Between.leads (hb : Between h h') : Leads h [] h' :=
  Leads.refl.between hb

theorem Occurs.leads (ho : Occurs h m) : Leads h [m] m.host :=
  Leads.refl.moment ho

/-! ### The moments of a run lead to its end -/

theorem discreet_inside : Discreet inside :=
  discreet_step _

theorem isActive_of_getElem? {r : Router} {id : Nat} {s : Subscriber}
    (hs : r.subscribers[id]? = some s) : r.isActive id = s.active := by
  rw [Router.isActive, hs, Option.any_some]

theorem planMoments_cons (id : Nat) {op : Operation} (rest : List Operation) (h : Host)
    (hop : op ≠ .panic) :
    planMoments id (op :: rest) h =
      { happening := .done op (inside op h).1.answer
        host := (inside op h).2.note (.did id op (inside op h).1) } ::
        planMoments id rest ((inside op h).2.note (.did id op (inside op h).1)) := by
  cases op with
  | panic => exact absurd rfl hop
  | _ => rfl

theorem leads_runPlan (id : Nat) (plan : List Operation) (hd : h.router.delivering = true) :
    Leads h (planMoments id plan h) (runPlan inside id plan h) := by
  induction plan generalizing h with
  | nil => exact .refl
  | cons op rest ih =>
    by_cases hop : op = .panic
    · subst hop
      exact .refl
    · rw [runPlan_cons inside id rest h hop, planMoments_cons id rest h hop]
      have hquiet : Quiet h (inside op h).2 := step_quiet _ hd op
      exact (Occurs.inside id op hd).leads.trans (ih (hquiet.delivering.trans hd))

theorem leads_deliver (n : Notification) (id : Nat) (hd : h.router.delivering = true) :
    Leads h (turnMoments n h id) (deliver inside n h id) := by
  rw [turnMoments, deliver]
  rcases hs : h.router.subscribers[id]? with _ | ⟨active, sink⟩
  · exact (Occurs.passed id).leads
  · have hactive := isActive_of_getElem? hs
    cases active with
    | false => exact (Occurs.passed id).leads
    | true =>
      cases sink with
      | callbacks onSession onError =>
        have hentry : (LogEntry.got id n).delivery? = some (id, n) := rfl
        have htold := (Occurs.told (nextPlan n onSession onError).2 hactive hentry).leads
        exact htold.trans (leads_runPlan id (nextPlan n onSession onError).1 hd)
      | channel waiting attached =>
        cases attached with
        | false => exact (Occurs.noticed id hactive).leads
        | true =>
          have hentry : (LogEntry.put id n).delivery? = some (id, n) := rfl
          exact (Occurs.told (.channel (waiting ++ [n]) true) hactive hentry).leads

theorem leads_foldl_deliver (n : Notification) (ids : List Nat)
    (hd : h.router.delivering = true) :
    Leads h (turnsMoments n ids h) (ids.foldl (deliver inside n) h) := by
  induction ids generalizing h with
  | nil => exact .refl
  | cons id rest ih =>
    have hdturn := (deliver_delivers discreet_inside n id hd).2
    exact (leads_deliver n id hd).trans (ih hdturn)

theorem leads_fanOut (n : Notification) (h : Host) :
    Leads h (turnsMoments n h.router.listed (h.setDelivering true)) (fanOut inside n h) := by
  have hturns := leads_foldl_deliver (h := h.setDelivering true) n h.router.listed rfl
  exact ((Between.mark true).leads.trans hturns).between (.mark false)

theorem leads_route (event : InboundEvent) (localId : String) (peer : Option String)
    (hd : h.router.delivering = false) :
    Leads h (routeMoments event localId peer h) (route inside event localId peer h).2 := by
  rw [routeMoments, route, hd]
  cases hclosed : h.router.closed with
  | true => exact .refl
  | false =>
    have hjudge := (Between.classify event localId peer hclosed).leads
    simp only [Bool.or_false, Bool.false_eq_true, if_false]
    generalize h.router.classify event localId peer = judged at hjudge ⊢
    obtain ⟨_ | n, router⟩ := judged
    · exact hjudge
    · exact hjudge.trans (leads_fanOut n (h.withRouter router))

theorem leads_handle (event : InboundEvent) (hd : h.router.delivering = false) :
    Leads h (handleMoments event h) (handle inside event h).2 := by
  rw [handle, if_neg (Bool.eq_false_iff.mp hd)]
  split_ifs with hclosed
  · have hnone : handleMoments event h = [] := by
      rw [handleMoments, routeMoments, hclosed]
      rfl
    rw [hnone]
    exact .refl
  · exact leads_route event h.endpoint.localId (h.endpoint.echoPeer event) hd

theorem leads_drain (bound processed : Nat) (ho : h.router.Orderly)
    (hd : h.router.delivering = false) :
    Leads h (drainMoments bound h) (drain inside bound processed h).2 := by
  induction bound generalizing processed h with
  | zero => exact .refl
  | succ bound ih =>
    rw [drainMoments, drain, handleNext]
    cases hin : h.endpoint.inbound with
    | nil => exact .refl
    | cons event rest =>
      have htake := Between.take hin
      have hevent := htake.leads.trans (leads_handle event
        (h := h.withEndpoint { h.endpoint with inbound := rest }) hd)
      have hserial := handle_serializes discreet_inside event
        (h := h.withEndpoint { h.endpoint with inbound := rest }) ho hd
      simp only
      generalize handle inside event (h.withEndpoint { h.endpoint with inbound := rest }) = result
        at hevent hserial ⊢
      obtain ⟨_ | n, h'⟩ := result
      · rwa [List.append_nil]
      · exact hevent.trans (ih (processed + 1) (hserial.orderly ho) hserial.delivering)

/-- The events that an operation processes on an endpoint that is there. -/
theorem leads_stepHeld {op : Operation} (hop : op.processes = true) (ho : h.router.Orderly)
    (hd : h.router.delivering = false) :
    Leads h (heldMoments h op) (stepHeld inside h op).2 := by
  cases op with
  | route event localId peer => exact leads_route event localId peer hd
  | handle event => exact leads_handle event hd
  | processPending =>
    simp only [heldMoments, stepHeld, processPending, if_neg (Bool.eq_false_iff.mp hd)]
    exact leads_drain h.pendingBound 0 ho hd
  | processNext =>
    simp only [heldMoments, stepHeld, processNext_snd inside hd, if_neg (Bool.eq_false_iff.mp hd)]
    exact leads_drain 1 0 ho hd
  | _ => cases hop

theorem isBare_ofExcept {α : Type} {f : α → Answer} (hf : ∀ a, (f a).IsBare)
    (result : Except Fault α) : (Answer.ofExcept f result).IsBare := by
  cases result with
  | ok a => exact hf a
  | error f => exact ⟨rfl, rfl⟩

/-- An operation that processes events gives no numbers. -/
theorem stepHeld_isBare_of_processes (act : Operation → Host → StepResult × Host) (h : Host)
    {op : Operation} (hop : op.processes = true) : (stepHeld act h op).1.IsBare := by
  cases op with
  | route | handle | processPending | processNext => exact isBare_ofExcept (fun _ => ⟨rfl, rfl⟩) _
  | _ => cases hop

theorem leads_perform (op : Operation) (ho : h.router.Orderly)
    (hd : h.router.delivering = false) : Leads h (opMoments op h) (perform op h).2 := by
  rw [opMoments]
  cases hop : op.processes with
  | false =>
    have hnone : heldMoments h op = [] := by
      cases op with
      | route | handle | processPending | processNext => cases hop
      | _ => rfl
    rw [hnone, ite_self]
    exact (Occurs.outside hop).leads
  | true =>
    have hperform : perform op h =
        collect (if op.needsEndpoint && !h.held then (.gone, h) else stepHeld inside h op) := rfl
    rw [hperform]
    split_ifs
    · exact (Occurs.processed (a := .gone) hop ⟨rfl, rfl⟩).leads
    · have hbare := stepHeld_isBare_of_processes inside h hop
      exact (leads_stepHeld hop ho hd).trans (Occurs.processed hop hbare).leads

/-- The moments of a run lead to its end. -/
theorem leads_moments (ops : List Operation) (ho : h.router.Orderly)
    (hd : h.router.delivering = false) : Leads h (moments ops h) (run ops h) := by
  induction ops generalizing h with
  | nil => exact .refl
  | cons op ops ih =>
    have hop : Serializes _ h (perform op h).2 := step_serializes discreet_inside op ho hd
    exact (leads_perform op ho hd).trans (ih (hop.orderly ho) hop.delivering)

/-- A run from a fresh host. -/
theorem leads_moments_fresh (keys : KeyRing) (transport : Transport) (ignoreOwnEcho : Bool)
    (ops : List Operation) :
    Leads (fresh keys transport ignoreOwnEcho) (moments ops (fresh keys transport ignoreOwnEcho))
      (run ops (fresh keys transport ignoreOwnEcho)) :=
  leads_moments ops ⟨List.Pairwise.nil, by simp [router, fresh]⟩ rfl

/-! ### From moment to moment -/

theorem after_append_singleton (h : Host) (ms : List Moment) (m : Moment) :
    h.after (ms ++ [m]) = m.host := by
  rw [after, List.getLast?_concat]
  rfl

/-- The moments before lead to a moment, and the others lead on from it. -/
theorem Leads.split {before later : List Moment} (hl : Leads h (before ++ later) h') :
    Leads h before (h.after before) ∧ Leads (h.after before) later h' := by
  generalize hms : before ++ later = ms at hl
  induction hl generalizing later with
  | refl =>
    obtain ⟨rfl, rfl⟩ := List.append_eq_nil_iff.mp hms
    exact ⟨.refl, .refl⟩
  | between _ hb ih =>
    obtain ⟨h₁, h₂⟩ := ih hms
    exact ⟨h₁, h₂.between hb⟩
  | @moment ms _ m hl ho ih =>
    rcases List.eq_nil_or_concat later with rfl | ⟨later, last, rfl⟩
    · rw [List.append_nil] at hms
      rw [hms, after_append_singleton]
      exact ⟨hl.moment ho, .refl⟩
    · rw [List.concat_eq_append, ← List.append_assoc] at hms
      obtain ⟨hinit, hlast⟩ := List.append_inj' hms rfl
      cases hlast
      obtain ⟨h₁, h₂⟩ := ih hinit
      rw [List.concat_eq_append]
      exact ⟨h₁, h₂.moment ho⟩

/-- Nothing happens after the last moment. -/
theorem Leads.since (hl : Leads h ms h') : Leads (h.after ms) [] h' := by
  rw [← List.append_nil ms] at hl
  exact hl.split.2

/-- A moment that is led to is reached from before it, and the others are reached from it. -/
theorem Leads.uncons (hl : Leads h (m :: ms) h') :
    ∃ h₁, Leads h [] h₁ ∧ Occurs h₁ m ∧ Leads m.host ms h' := by
  generalize hms : m :: ms = all at hl
  induction hl generalizing ms with
  | refl => cases hms
  | between _ hb ih =>
    obtain ⟨h₁, hbefore, ho, hafter⟩ := ih hms
    exact ⟨h₁, hbefore, ho, hafter.between hb⟩
  | @moment all h₂ m' hl ho ih =>
    rcases List.eq_nil_or_concat ms with rfl | ⟨ms, last, rfl⟩
    · rw [← List.nil_append [m]] at hms
      obtain ⟨rfl, hm⟩ := List.append_inj' hms rfl
      cases hm
      exact ⟨h₂, hl, ho, .refl⟩
    · rw [List.concat_eq_append, ← List.cons_append] at hms
      obtain ⟨hinit, hlast⟩ := List.append_inj' hms rfl
      cases hlast
      obtain ⟨h₁, hbefore, ho', hafter⟩ := ih hinit
      rw [List.concat_eq_append]
      exact ⟨h₁, hbefore, ho', hafter.moment ho⟩

section

variable {R : Host → Host → Prop} (hrefl : ∀ h, R h h)
  (htrans : ∀ {h h' h'' : Host}, R h h' → R h' h'' → R h h'')
  (hbetween : ∀ {h h' : Host}, Between h h' → R h h')
  (hoccurs : ∀ {h : Host} {m : Moment}, Occurs h m → R h m.host)

include hrefl htrans hbetween hoccurs

/-- What holds from one moment to the next, and may be composed, holds all the way. -/
theorem Leads.rel (hl : Leads h ms h') : R h h' := by
  induction hl with
  | refl => exact hrefl h
  | between _ hb ih => exact htrans ih (hbetween hb)
  | moment _ ho ih => exact htrans ih (hoccurs ho)

/-- What holds from one moment to the next, and may be composed, holds from each to any later. -/
theorem Leads.pairwise (hl : Leads h ms h') : (h :: ms.map Moment.host).Pairwise R := by
  have hall : (h :: ms.map Moment.host).Pairwise R ∧ ∀ x ∈ h :: ms.map Moment.host, R x h' := by
    induction hl with
    | refl => exact ⟨List.pairwise_singleton R h, by simpa using hrefl h⟩
    | between _ hb ih => exact ⟨ih.1, fun x hx => htrans (ih.2 x hx) (hbetween hb)⟩
    | moment _ ho ih =>
      have hlast := fun x hx => htrans (ih.2 x hx) (hoccurs ho)
      rw [List.map_append, ← List.cons_append]
      refine ⟨List.pairwise_append.mpr ⟨ih.1, List.pairwise_singleton R _, ?_⟩, ?_⟩
      · intro x hx y hy
        rw [List.mem_singleton.mp hy]
        exact hlast x hx
      · intro x hx
        rcases List.mem_append.mp hx with hx | hx
        · exact hlast x hx
        · rw [List.mem_singleton.mp hx]
          exact hrefl _
  exact hall.1

end

/-! ### What stays between moments -/

theorem perform_quiet (h : Host) {op : Operation} (hop : op.processes = false) :
    Quiet h (perform op h).2 := by
  rw [perform, step]
  split_ifs
  · exact (plainQuiet_collect _ h).quiet
  · exact (stepHeld_quiet_of_not_processes _ h hop).trans (plainQuiet_collect _ _).quiet

theorem Between.moves (hb : Between h h') : h.endpoint.Moves h'.endpoint := by
  cases hb with
  | take hin => exact .single (.take hin)
  | classify event localId peer _ => exact .single (.classify event localId peer)
  | mark delivering => exact .single (.mark delivering)

theorem Occurs.moves (ho : Occurs h m) : h.endpoint.Moves m.host.endpoint := by
  cases ho with
  | @told id _ _ sink _ _ => exact .single (.turn id sink)
  | passed => exact .refl
  | noticed id _ => exact .single (.change (.subscribers (.deactivate id)))
  | inside id op hd => exact (step_quiet _ hd op).changes.moves
  | outside hop => exact (perform_quiet h hop).changes.moves
  | @processed _ a _ _ => exact (plainQuiet_collect a h).quiet.changes.moves

/-- Whatever happens, the endpoint goes through moves. -/
theorem Leads.moves (hl : Leads h ms h') : h.endpoint.Moves h'.endpoint :=
  hl.rel (R := fun h h' => h.endpoint.Moves h'.endpoint) (fun _ => .refl) (fun h₁ h₂ => h₁.trans h₂)
    Between.moves Occurs.moves

theorem Leads.pairwise_moves (hl : Leads h ms h') :
    (h :: ms.map Moment.host).Pairwise fun h h' => h.endpoint.Moves h'.endpoint :=
  hl.pairwise (R := fun h h' => h.endpoint.Moves h'.endpoint) (fun _ => .refl)
    (fun h₁ h₂ => h₁.trans h₂) Between.moves Occurs.moves

theorem Leads.moves_of_mem (hl : Leads h ms h') (hm : m ∈ ms) :
    h.endpoint.Moves m.host.endpoint :=
  (List.pairwise_cons.mp hl.pairwise_moves).1 m.host (List.mem_map_of_mem hm)

theorem Between.log (hb : Between h h') : h'.log = h.log := by
  cases hb with
  | take | classify | mark => rfl

/-- At a moment at most one thing is logged. A subscriber that is told something is active. -/
theorem Occurs.log (ho : Occurs h m) : m.host.log = h.log ∨ ∃ entry,
    m.host.log = h.log ++ [entry] ∧
      ∀ id n, entry.delivery? = some (id, n) → h.router.isActive id = true := by
  cases ho with
  | told sink hactive hentry =>
    refine Or.inr ⟨_, rfl, fun id n hd => ?_⟩
    rw [hentry] at hd
    cases hd
    exact hactive
  | passed | noticed => exact Or.inl rfl
  | inside id op hd =>
    have hlog : (Host.inside op h).2.log = h.log := (step_quiet _ hd op).log
    exact Or.inr ⟨_, congrArg (· ++ [_]) hlog, fun _ _ hd => by cases hd⟩
  | outside hop => exact Or.inl (perform_quiet h hop).log
  | @processed _ a _ _ => exact Or.inl (plainQuiet_collect a h).log

/-- There is a moment after everything that is logged. -/
theorem Leads.exists_log_eq_take (hl : Leads h ms h') (hlog : h.log = []) {k : Nat}
    (hk : k ≤ h'.log.length) :
    ∃ x ∈ h :: ms.map Moment.host, x.log = h'.log.take k := by
  induction hl with
  | refl => exact ⟨h, List.mem_cons_self, by simp [hlog]⟩
  | between _ hb ih =>
    rw [hb.log] at hk ⊢
    exact ih hk
  | @moment ms h' m _ ho ih =>
    rw [List.map_append, ← List.cons_append]
    have hbefore (hk : k ≤ h'.log.length) :
        ∃ x ∈ (h :: ms.map Moment.host) ++ [m].map Moment.host, x.log = h'.log.take k := by
      obtain ⟨x, hx, hlogx⟩ := ih hk
      exact ⟨x, List.mem_append_left _ hx, hlogx⟩
    rcases ho.log with hsame | ⟨entry, hmore, -⟩
    · rw [hsame] at hk ⊢
      exact hbefore hk
    · rw [hmore, List.length_append, List.length_singleton] at hk
      rcases Nat.lt_or_ge h'.log.length k with hlt | hle
      · refine ⟨m.host, by simp, (List.take_of_length_le ?_).symm⟩
        rw [hmore, List.length_append, List.length_singleton]
        exact hlt
      · rw [hmore, List.take_append_of_le_length hle]
        exact hbefore hle

end Host

end ChatRouting
