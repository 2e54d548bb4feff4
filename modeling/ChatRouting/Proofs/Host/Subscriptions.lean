import ChatRouting.Proofs.Host.Numbers

/-!
# The life of a subscription

Subscribers get the numbers 0, 1, 2 and so on in order of subscription, also those of a closed
router, and at every moment of a run the list has just the subscribers that are active. A subscriber
that is not active any more is told nothing from then on, also when an event is being delivered at
that moment, and it does not become active again. This is so from when it is unsubscribed, when the
router is closed, or when it is found that the receiver of its channel is gone.

## Main definitions

* `Host.Precedes`: what is true of a host and any later state of it
* `Host.Idle`: what stays when nothing is delivered and no operation is completed
* `Host.Ends`, `Host.Ended`: a subscription ends, and has ended
* `Host.Shut`: what is true once the router is closed

## Main results

* `Host.subscriptions_kept`
-/

namespace ChatRouting

namespace Host

/-- Nothing that a host has given up comes back later, and who is inactive is told nothing. -/
structure Precedes (h h' : Host) : Prop where
  router : h.router.Precedes h'.router
  silent : ∀ n < h.router.subscribers.length, h.router.isActive n = false →
    h'.receivedBy n = h.receivedBy n

/-- Who subscribes and what was said stay as they are, and on a closed router so do the sessions. -/
structure Idle (h h' : Host) : Prop where
  router : ∃ registry delivering, h'.router = { h.router with registry, delivering }
  registry : h.router.closed = true → h'.router.registry = h.router.registry
  subscriptions : h'.subscriptions = h.subscriptions
  log : h'.log = h.log

/-- The subscription of a subscriber ends at a moment that follows on a host. -/
inductive Ends (h : Host) (n : Nat) (m : Moment) : Prop
  | unsubscribed {name : String} (hm : m.happening = .done (.unsubscribe name) .done)
      (hname : h.subscriptions.lookup name = some n)
  | closed (hm : m.happening = .done .close .done) (hn : n < h.router.subscribers.length)
  | noticed (hm : m.happening = .noticed n)

/-- The subscription of a subscriber has ended at a moment, with some moments to come. -/
structure Ended (n : Nat) (m : Moment) (later : List Moment) : Prop where
  inactive : ∀ x ∈ m :: later, x.host.router.isActive n = false
  untold : ∀ x ∈ later, ∀ notification, x.happening ≠ .told n notification
  silent : ∀ x ∈ later, x.host.receivedBy n = m.host.receivedBy n

/-- What is true of a host with a closed router. -/
structure Shut (h : Host) : Prop where
  listed : h.router.listed = []
  /-- Whoever subscribes is given the next number, and is inactive. -/
  subscribe : ∀ name sink receiver,
    (h.subscribe name sink receiver).1 = .subscribed h.router.subscribers.length false ∧
      (h.subscribe name sink receiver).2.router.isActive h.router.subscribers.length = false
  /-- Events are refused by the router and by the endpoint. -/
  refuses : ∀ act event localId peer,
    route act event localId peer h = (.error .closed, h) ∧ handle act event h = (.error .closed, h)
  /-- An operation that processes events leaves the sessions and all else in the router alone. -/
  keeps : ∀ act op, op.processes = true → (step act op h).2.router = h.router

variable {h h' h'' : Host} {m : Moment} {ms : List Moment} {a : Answer} {n : Nat}

/-! ### What is given up -/

theorem Precedes.refl (h : Host) : Precedes h h :=
  ⟨.refl _, fun _ _ _ => rfl⟩

theorem Precedes.trans (h₁ : Precedes h h') (h₂ : Precedes h' h'') : Precedes h h'' where
  router := h₁.router.trans h₂.router
  silent n hn hi :=
    (h₂.silent n (Nat.lt_of_lt_of_le hn h₁.router.known) (h₁.router.inactive n hn hi)).trans
      (h₁.silent n hn hi)

theorem receivedBy_of_log (hlog : h'.log = h.log) (n : Nat) :
    h'.receivedBy n = h.receivedBy n := by
  rw [receivedBy, receivedBy, deliveries, deliveries, hlog]

theorem receivedBy_of_entry {entry : LogEntry} (hlog : h'.log = h.log ++ [entry])
    (hn : ∀ notification, entry.delivery? ≠ some (n, notification)) :
    h'.receivedBy n = h.receivedBy n := by
  have hnone : ([entry].filterMap LogEntry.delivery?).filter (·.1 = n) = [] := by
    refine List.filter_eq_nil_iff.mpr fun d hd hdn => ?_
    obtain ⟨x, hx, hdx⟩ := List.mem_filterMap.mp hd
    rw [List.mem_singleton.mp hx] at hdx
    exact hn d.2 (of_decide_eq_true hdn ▸ hdx)
  rw [receivedBy, receivedBy, deliveries, deliveries, hlog, List.filterMap_append,
    List.filter_append, hnone, List.append_nil]

theorem Between.precedes (hb : Between h h') : Precedes h h' where
  router := hb.moves.precedes
  silent n _ _ := receivedBy_of_log hb.log n

theorem Occurs.precedes (ho : Occurs h m) : Precedes h m.host where
  router := ho.moves.precedes
  silent n _ hi := by
    rcases ho.log with hsame | ⟨entry, hmore, hactive⟩
    · exact receivedBy_of_log hsame n
    · refine receivedBy_of_entry hmore fun notification hd => ?_
      rw [hactive n notification hd] at hi
      cases hi

/-- From each moment to any later one nothing that is given up comes back. -/
theorem Leads.precedes (hl : Leads h ms h') : (h :: ms.map Moment.host).Pairwise Precedes :=
  hl.pairwise .refl .trans Between.precedes Occurs.precedes

/-! ### Between moments -/

theorem Idle.refl (h : Host) : Idle h h :=
  ⟨⟨_, _, rfl⟩, fun _ => rfl, rfl, rfl⟩

theorem Idle.trans (h₁ : Idle h h') (h₂ : Idle h' h'') : Idle h h'' := by
  obtain ⟨registry, delivering, hr⟩ := h₁.router
  obtain ⟨registry', delivering', hr'⟩ := h₂.router
  refine ⟨⟨registry', delivering', by rw [hr', hr]⟩, fun hc => ?_,
    h₂.subscriptions.trans h₁.subscriptions, h₂.log.trans h₁.log⟩
  have hc' : h'.router.closed = true := by rw [hr]; exact hc
  exact (h₂.registry hc').trans (h₁.registry hc)

theorem Idle.subscribers (hi : Idle h h') : h'.router.subscribers = h.router.subscribers := by
  obtain ⟨_, _, hr⟩ := hi.router
  rw [hr]

theorem Between.idle (hb : Between h h') : Idle h h' := by
  cases hb with
  | take | mark => exact ⟨⟨_, _, rfl⟩, fun _ => rfl, rfl, rfl⟩
  | classify event localId peer hopen =>
    obtain ⟨registry, hr⟩ := h.router.exists_classify_eq event localId peer
    refine ⟨⟨registry, h.router.delivering, hr⟩, fun hc => ?_, rfl, rfl⟩
    rw [hopen] at hc
    cases hc

theorem Ends.of_idle (he : Ends h n m) (hi : Idle h h') : Ends h' n m := by
  cases he with
  | unsubscribed hm hname => exact .unsubscribed hm (hi.subscriptions ▸ hname)
  | closed hm hn => exact .closed hm (hi.subscribers ▸ hn)
  | noticed hm => exact .noticed hm

theorem Leads.idle (hl : Leads h [] h') : Idle h h' := by
  generalize hms : ([] : List Moment) = ms at hl
  induction hl with
  | refl => exact .refl h
  | between _ hb ih => exact (ih hms).trans hb.idle
  | moment => exact absurd hms.symm (List.append_ne_nil_of_right_ne_nil _ (List.cons_ne_nil _ _))

/-! ### The end of a subscription -/

/-- An operation that is completed at a moment was done on the host before it. -/
theorem Occurs.completed {op : Operation} (ho : Occurs h m) (hm : m.happening = .done op a)
    (hop : op.processes = false) :
    ∃ act, a = (step act op h).1.answer ∧ m.host.router = (step act op h).2.router := by
  cases ho with
  | told | passed | noticed => cases hm
  | inside =>
    cases hm
    exact ⟨_, rfl, rfl⟩
  | outside =>
    cases hm
    exact ⟨_, rfl, rfl⟩
  | processed hop' =>
    cases hm
    rw [hop] at hop'
    cases hop'

variable (act : Operation → Host → StepResult × Host)

theorem step_router (op : Operation) (h : Host) :
    (step act op h).2.router =
      (if op.needsEndpoint && !h.held then (.gone, h) else stepHeld act h op).2.router := by
  rw [step]
  generalize (if op.needsEndpoint && !h.held then (.gone, h) else stepHeld act h op) = result
  obtain ⟨a, h'⟩ := result
  obtain ⟨sighted, hcollect⟩ := collect_eq a h'
  rw [hcollect]
  rfl

/-- A subscriber is known and active until its subscription ends, and inactive then. -/
theorem Occurs.of_ends (ho : Occurs h m) (he : Ends h n m) (hexact : h.router.Exact)
    (hnames : ∀ p ∈ h.subscriptions, p.2 < h.router.subscribers.length) :
    n < h.router.subscribers.length ∧ m.host.router.isActive n = false := by
  cases he with
  | @unsubscribed name hm hname =>
    refine ⟨hnames _ (Table.mem_of_lookup hname), ?_⟩
    obtain ⟨act, -, hr⟩ := ho.completed hm rfl
    have hstep : (step act (.unsubscribe name) h).2.router = h.router.deactivate n := by
      rw [step_router, Operation.needsEndpoint, Bool.false_and, if_neg Bool.false_ne_true]
      simp only [stepHeld, hname]
      rfl
    rw [hr, hstep, Router.isActive_deactivate]
    simp
  | closed hm hn =>
    refine ⟨hn, ?_⟩
    obtain ⟨act, ha, hr⟩ := ho.completed hm rfl
    cases hheld : h.held with
    | false =>
      -- Without its endpoint the host has nothing to close.
      rw [step, hheld] at ha
      cases ha
    | true =>
      have hstep : (step act .close h).2.router = h.router.close := by
        rw [step_router, hheld]
        rfl
      rw [hr, hstep, Router.isActive_close]
      by_cases hlisted : n ∈ h.router.listed
      · simp [hlisted]
      · simpa [hlisted] using mt (hexact.mem_listed_iff n).mpr hlisted
  | noticed hm =>
    cases ho with
    | noticed id hactive =>
      cases hm
      refine ⟨Router.lt_of_isActive hactive, ?_⟩
      have hr : (h.withRouter (h.router.deactivate n)).router.isActive n =
          (h.router.deactivate n).isActive n := rfl
      rw [hr, Router.isActive_deactivate]
      simp
    | told | passed | inside | outside | processed => cases hm

/-- A moment at which a subscriber is told something comes while it is active. -/
theorem Leads.active_of_told {x : Moment} {notification : Notification}
    (hl : Leads h ms h') (hx : x ∈ ms) (htold : x.happening = .told n notification) :
    ∃ h₁, Precedes h h₁ ∧ h₁.router.isActive n = true := by
  obtain ⟨before, later, rfl⟩ := List.append_of_mem hx
  obtain ⟨hbefore, hafter⟩ := hl.split
  obtain ⟨h₁, hidle, ho, -⟩ := hafter.uncons
  refine ⟨h₁, (hbefore.trans hidle).rel .refl .trans Between.precedes Occurs.precedes, ?_⟩
  cases ho with
  | told sink hactive hentry =>
    cases htold
    exact hactive
  | passed | noticed | inside | outside | processed => cases htold

theorem ended_of_inactive {later : List Moment} (hl : Leads m.host later h')
    (hn : n < m.host.router.subscribers.length) (hi : m.host.router.isActive n = false) :
    Ended n m later := by
  have hlater (x : Moment) (hx : x ∈ later) : Precedes m.host x.host :=
    (List.pairwise_cons.mp hl.precedes).1 x.host (List.mem_map_of_mem hx)
  refine ⟨?_, ?_, fun x hx => (hlater x hx).silent n hn hi⟩
  · intro x hx
    rcases List.mem_cons.mp hx with rfl | hx
    · exact hi
    · exact (hlater x hx).router.inactive n hn hi
  · intro x hx notification htold
    obtain ⟨h₁, hprecedes, hactive⟩ := hl.active_of_told hx htold
    rw [hprecedes.router.inactive n hn hi] at hactive
    cases hactive

/-! ### A closed router -/

theorem drain_of_closed (bound processed : Nat) (hc : h.router.closed = true) :
    (drain act bound processed h).2.router = h.router := by
  cases bound with
  | zero => rfl
  | succ bound =>
    rw [drain, handleNext]
    cases h.endpoint.inbound with
    | nil => rfl
    | cons event rest =>
      have hrefused : handle act event (h.withEndpoint { h.endpoint with inbound := rest }) =
          (.error .closed, h.withEndpoint { h.endpoint with inbound := rest }) := if_pos hc
      simp only [hrefused]
      rfl

theorem stepHeld_of_closed (hc : h.router.closed = true) {op : Operation}
    (hop : op.processes = true) : (stepHeld act h op).2.router = h.router := by
  cases op with
  | route event localId peer =>
    have hrefused : route act event localId peer h = (.error .closed, h) := if_pos hc
    simp only [stepHeld, hrefused]
  | handle event =>
    have hrefused : handle act event h = (.error .closed, h) := if_pos hc
    simp only [stepHeld, hrefused]
  | processPending =>
    simp only [stepHeld, processPending]
    split_ifs
    · rfl
    · exact drain_of_closed act h.pendingBound 0 hc
  | processNext =>
    simp only [stepHeld]
    cases hd : h.router.delivering with
    | true => rw [processNext_of_delivering act hd]
    | false =>
      rw [processNext_snd act hd]
      exact drain_of_closed act 1 0 hc
  | _ => cases hop

theorem shut_of_closed (hexact : h.router.Exact) (hc : h.router.closed = true) : Shut h where
  listed := hexact.empty_of_closed hc
  subscribe name sink receiver := by
    obtain ⟨hlength, hclosed, -⟩ := h.dropReceiver_length name
    have hnew : (h.subscribe name sink receiver).2.router =
        ((h.dropReceiver name).router.subscribe sink).2 := rfl
    refine ⟨?_, ?_⟩
    · rw [← hlength]
      have hanswer : (h.subscribe name sink receiver).1 =
          .subscribed (h.dropReceiver name).router.subscribers.length
            (!(h.dropReceiver name).router.closed) := rfl
      rw [hanswer, hclosed, hc]
      rfl
    · rw [hnew, Router.isActive_subscribe, hlength, if_pos rfl, hclosed, hc]
      rfl
  refuses act event localId peer := ⟨if_pos hc, if_pos hc⟩
  keeps act op hop := by
    rw [step_router]
    split_ifs
    · rfl
    · exact stepHeld_of_closed act hc hop

/-! ### Main result -/

/-- The list of a fresh host is exact. -/
theorem exact_fresh (keys : KeyRing) (transport : Transport) (ignoreOwnEcho : Bool) :
    (fresh keys transport ignoreOwnEcho).router.Exact where
  increasing := List.Pairwise.nil
  known n hn := by cases hn
  mem_listed_iff n := by simp [fresh, router, Router.isActive]
  empty_of_closed _ := rfl

/-- After a run the list is exact. -/
theorem exact_run (keys : KeyRing) (transport : Transport) (ignoreOwnEcho : Bool)
    (ops : List Operation) : (run ops (fresh keys transport ignoreOwnEcho)).router.Exact :=
  (moves_run keys transport ignoreOwnEcho ops).exact (exact_fresh keys transport ignoreOwnEcho)

/-- After every operation of a run there is a moment. -/
theorem run_take_mem_moments (ops : List Operation) (h : Host) (k : Nat) :
    run (ops.take k) h ∈ h :: (moments ops h).map Moment.host := by
  induction ops generalizing h k with
  | nil =>
    rw [List.take_nil]
    exact List.mem_cons_self
  | cons op ops ih =>
    cases k with
    | zero => exact List.mem_cons_self
    | succ k =>
      refine List.mem_cons_of_mem _ ?_
      rw [moments, List.map_append, opMoments, List.map_append, List.append_assoc]
      exact List.mem_append_right _ (ih (perform op h).2 k)

/-- **The life of a subscription.** The moments of a run come after every operation of the host and
after everything that is logged, the operations of callbacks included. At every moment the list has
just the subscribers that are active, in order. Up to it the numbers were given in order, and none
twice. What is given up at a moment does not come back at a later one. When a subscription ends, the
subscriber is inactive and is told nothing from then on. Once the router is closed, whoever
subscribes is inactive, and events are refused and change nothing. -/
theorem subscriptions_kept (keys : KeyRing) (transport : Transport) (ignoreOwnEcho : Bool)
    (ops : List Operation) :
    let start := fresh keys transport ignoreOwnEcho
    let ms := moments ops start
    let hs := start :: ms.map Moment.host
    (∀ k, run (ops.take k) start ∈ hs) ∧
    (∀ k ≤ (run ops start).log.length, ∃ h ∈ hs, h.log = (run ops start).log.take k) ∧
    (∀ h ∈ hs, h.router.Exact) ∧
    (∀ before later, ms = before ++ later →
      before.filterMap Moment.subscribed? =
        List.range (start.after before).router.subscribers.length) ∧
    hs.Pairwise Precedes ∧
    (∀ before m later n, ms = before ++ m :: later → Ends (start.after before) n m →
      Ended n m later) ∧
    ∀ h ∈ hs, h.router.closed = true → Shut h := by
  intro start ms hs
  have hl : Leads start ms (run ops start) := leads_moments_fresh keys transport ignoreOwnEcho ops
  have hexact₀ : start.router.Exact := exact_fresh keys transport ignoreOwnEcho
  have hjoins : start.endpoint.JoinsSound := fun id n hmem => by cases hmem
  have hexact (h : Host) (hh : h ∈ hs) : h.router.Exact := by
    rcases List.mem_cons.mp hh with rfl | hh
    · exact hexact₀
    · exact ((List.pairwise_cons.mp hl.pairwise_moves).1 h hh).exact hexact₀
  refine ⟨run_take_mem_moments ops start, fun k hk => hl.exists_log_eq_take rfl hk, hexact, ?_,
    hl.precedes, ?_, fun h hh hc => shut_of_closed (hexact h hh) hc⟩
  · intro before later hms
    have hbefore := (hms ▸ hl).split.1
    exact (hbefore.numbers hjoins).1.symm
  · intro before m later n hms he
    obtain ⟨hbefore, hrest⟩ := (hms ▸ hl).split
    obtain ⟨h₁, hidle, ho, hlater⟩ := hrest.uncons
    have hto := hbefore.trans hidle
    obtain ⟨hn, hi⟩ := ho.of_ends (he.of_idle hidle.idle) (hto.moves.exact hexact₀)
      ((hto.numbers hjoins).2 fun p hp => by cases hp)
    exact ended_of_inactive hlater (Nat.lt_of_lt_of_le hn ho.precedes.router.known) hi

/-- The callback of one subscriber unsubscribes another, which is not told of the event that is
being delivered. -/
theorem subscriptions_kept_unsubscribed :
    let ops : List Operation := [
      .subscribe "first" [] [{ item := [.unsubscribe "second"], times := 1 }],
      .subscribeChannel "second", .handle (.transportError "lost" "now")]
    let ms := moments ops (fresh (KeyRing.ofId "alice") .channel true)
    ∃ m, ms[3]? = some m ∧ m.happening = .done (.unsubscribe "second") .done ∧
      (ms.drop 4).length = 2 ∧ Ended 1 m (ms.drop 4) := by
  intro ops ms
  have hlt : 3 < ms.length := by decide +kernel
  have hm : ms[3].happening = .done (.unsubscribe "second") .done := rfl
  have hname : ((fresh (KeyRing.ofId "alice") .channel true).after (ms.take 3)).subscriptions.lookup
      "second" = some 1 := by decide +kernel
  have hms : ms = ms.take 3 ++ ms[3] :: ms.drop 4 := by
    rw [← List.drop_eq_getElem_cons, List.take_append_drop]
  obtain ⟨-, -, -, -, -, hended, -⟩ :=
    subscriptions_kept (KeyRing.ofId "alice") .channel true ops
  exact ⟨ms[3], List.getElem?_eq_getElem hlt, hm, by decide +kernel,
    hended _ _ _ 1 hms (.unsubscribed hm hname)⟩

end Host

end ChatRouting
