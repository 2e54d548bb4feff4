import ChatRouting.Proofs.Host.Beside
import ChatRouting.Proofs.Host.Classification
import ChatRouting.Proofs.Host.Subscriptions

/-!
# Who is told in a fan-out

A fan-out goes through the list of subscribers as it was at the beginning, while callbacks change
that list, and with it who is active and which receivers are there. What counts for a subscriber is
the host at its turn. If it is active then, and its channel has its receiver, it is told the
notification, and otherwise it is passed over. So whoever is told was on the list at the beginning,
is told once, and in the order of the list.

In its turn a subscriber that finds the receiver of its channel gone goes off the list. Everybody
else who goes off it during a fan-out was unsubscribed by a callback, or a callback has closed the
router.

## Main definitions

* `Host.atTurn`: the host at the turn of a subscriber
* `Host.FansOut`: what a fan-out does

## Main results

* `Host.Leads.exists_ends`: nobody becomes inactive without a reason
* `Host.fanOut_fansOut`, `Host.fanOut_once`
-/

namespace ChatRouting

/-- The turns of the callback that a notification is for. -/
def Notification.turnsOf (n : Notification) (onSession onError : List (Repeated (List Operation))) :
    List (Repeated (List Operation)) :=
  match n with
  | sessionUpdated _ _ => onSession
  | errorRaised _ => onError

/-- The operations before the one at which a callback breaks off. -/
def Operation.untilPanic : List Operation → List Operation
  | [] => []
  | panic :: _ => []
  | op :: rest => op :: untilPanic rest

namespace Host

/-- The host when those before a subscriber on the list have had their turns. -/
def atTurn (n : Notification) (h : Host) (earlier : List Nat) : Host :=
  earlier.foldl (deliver inside n) h

variable {h h' : Host} {m : Moment} {ms : List Moment} {n : Notification} {id : Nat}

/-! ### Who is told -/

/-- Whoever is told is on the list and can be reached at its turn. -/
theorem mem_told_iff (n : Notification) (listed : List Nat) (h : Host) (id : Nat) :
    id ∈ told inside n listed h ↔ ∃ earlier later, listed = earlier ++ id :: later ∧
      (atTurn n h earlier).router.reaches id = true := by
  induction listed generalizing h with
  | nil => simp [told]
  | cons first rest ih =>
    have hreached : id ∈ h.reached first ↔ id = first ∧ h.router.reaches first = true := by
      rw [reached]
      split_ifs with hreaches <;> simp [hreaches]
    rw [told, List.mem_append, hreached, ih]
    constructor
    · rintro (⟨rfl, hreaches⟩ | ⟨earlier, later, rfl, hreaches⟩)
      · exact ⟨[], rest, rfl, hreaches⟩
      · exact ⟨first :: earlier, later, rfl, hreaches⟩
    · rintro ⟨_ | ⟨_, earlier⟩, later, heq, hreaches⟩
      · cases heq
        exact Or.inl ⟨rfl, hreaches⟩
      · cases heq
        exact Or.inr ⟨earlier, later, rfl, hreaches⟩

/-! ### What a callback does -/

/-- A turn takes the first item of the plain list of turns. -/
theorem nextPlan_fst (n : Notification) (onSession onError : List (Repeated (List Operation))) :
    (nextPlan n onSession onError).1 =
      (Repeated.items (n.turnsOf onSession onError)).headD [] := by
  have hnext (turns : List (Repeated (List Operation))) :
      (nextTurn turns).1 = (Repeated.items turns).headD [] := by
    rw [nextTurn, Repeated.items_eq_next?]
    rcases Repeated.next? turns with _ | ⟨plan, rest⟩ <;> rfl
  rcases n with ⟨s, m⟩ | notice
  · exact hnext onSession
  · exact hnext onError

/-- A callback logs what it does up to where it breaks off. -/
theorem runPlan_log (id : Nat) (plan : List Operation) (hd : h.router.delivering = true) :
    ∃ results : List StepResult, results.length = (Operation.untilPanic plan).length ∧
      (runPlan inside id plan h).log =
        h.log ++ List.zipWith (LogEntry.did id) (Operation.untilPanic plan) results := by
  induction plan generalizing h with
  | nil => exact ⟨[], rfl, by simp [runPlan, Operation.untilPanic]⟩
  | cons op rest ih =>
    by_cases hop : op = .panic
    · subst hop
      exact ⟨[], rfl, by simp [runPlan, Operation.untilPanic]⟩
    · have huntil : Operation.untilPanic (op :: rest) = op :: Operation.untilPanic rest := by
        cases op with
        | panic => exact absurd rfl hop
        | _ => rfl
      have hquiet := discreet_inside.quiet op h hd
      obtain ⟨results, hlength, hlog⟩ :=
        ih (h := (inside op h).2.note (.did id op (inside op h).1)) (hquiet.delivering.trans hd)
      refine ⟨(inside op h).1 :: results, by rw [huntil, List.length_cons, List.length_cons, hlength],
        ?_⟩
      rw [runPlan_cons inside id rest h hop, hlog, huntil, note, hquiet.log, List.zipWith_cons_cons,
        List.append_assoc, List.singleton_append]

theorem deliver_callbacks {onSession onError : List (Repeated (List Operation))}
    (hs : h.router.subscribers[id]? =
      some { active := true, sink := .callbacks onSession onError })
    (hd : h.router.delivering = true) :
    ∃ results : List StepResult,
      let ops := Operation.untilPanic ((Repeated.items (n.turnsOf onSession onError)).headD [])
      results.length = ops.length ∧ (deliver inside n h id).log =
        h.log ++ .got id n :: List.zipWith (LogEntry.did id) ops results := by
  let sink := (nextPlan n onSession onError).2
  let told := (h.withRouter (h.router.modify id fun s => { s with sink })).note (.got id n)
  have hdtold : told.router.delivering = true := hd
  obtain ⟨results, hlength, hlog⟩ := runPlan_log id (nextPlan n onSession onError).1 hdtold
  rw [nextPlan_fst] at hlength
  refine ⟨results, hlength, ?_⟩
  have hturn : deliver inside n h id = runPlan inside id (nextPlan n onSession onError).1 told := by
    rw [deliver, hs]
  have htold : told.log = h.log ++ [.got id n] := rfl
  rw [hturn, hlog, htold, nextPlan_fst, List.append_assoc, List.singleton_append]

/-! ### Who goes off the list -/

theorem isActive_dropReceiver (h : Host) (name : String) (id : Nat) :
    (h.dropReceiver name).router.isActive id = h.router.isActive id := by
  rw [dropReceiver]
  split
  · next n _ => exact h.router.isActive_dropReceiver n id
  · rfl

theorem isActive_subscribe (h : Host) (name : String) (sink : Sink) (receiver : Bool)
    (hactive : h.router.isActive id = true) :
    (h.subscribe name sink receiver).2.router.isActive id = true := by
  have hdropped : (h.dropReceiver name).router.isActive id = true :=
    (h.isActive_dropReceiver name id).trans hactive
  have hnew : (h.subscribe name sink receiver).2.router =
      ((h.dropReceiver name).router.subscribe sink).2 := rfl
  rwa [hnew, Router.isActive_subscribe, if_neg (Nat.ne_of_lt (Router.lt_of_isActive hdropped))]

/-- An operation that makes a subscriber inactive unsubscribes it or closes the router. -/
theorem stepHeld_of_deactivated (act : Operation → Host → StepResult × Host) {op : Operation}
    (hquiet : op.processes = false ∨ h.router.delivering = true)
    (hactive : h.router.isActive id = true)
    (hinactive : (stepHeld act h op).2.router.isActive id = false) :
    (∃ name, op = .unsubscribe name ∧ h.subscriptions.lookup name = some id) ∨ op = .close := by
  have hkept (hsame : (stepHeld act h op).2.router.isActive id = true) : False := by
    rw [hsame] at hinactive
    cases hinactive
  by_cases hspares : op.sparesAudience = true
  · have hsubscribers : (stepHeld act h op).2.router.subscribers = h.router.subscribers :=
      congrArg Audience.subscribers (h.audience_stepHeld act hspares hquiet).1
    rw [Router.isActive, hsubscribers, ← Router.isActive] at hkept
    exact (hkept hactive).elim
  · cases op with
    | subscribe name onSession onError => exact (hkept (h.isActive_subscribe name _ _ hactive)).elim
    | subscribeChannel name => exact (hkept (h.isActive_subscribe name _ _ hactive)).elim
    | unsubscribe name =>
      simp only [stepHeld] at hinactive
      rcases hname : h.subscriptions.lookup name with _ | other
      · simp only [hname, hactive] at hinactive
        cases hinactive
      · simp only [hname] at hinactive
        have hrouter : (h.router.deactivate other).isActive id = false := hinactive
        rw [Router.isActive_deactivate, hactive, Bool.and_true, decide_eq_false_iff_not,
          not_not] at hrouter
        exact Or.inl ⟨name, rfl, by rw [hrouter, hname]⟩
    | dropReceiver name => exact (hkept ((h.isActive_dropReceiver name id).trans hactive)).elim
    | receive name =>
      simp only [stepHeld] at hkept
      rcases hname : h.receivers.lookup name with _ | other
      · simp only [hname] at hkept
        exact (hkept hactive).elim
      · simp only [hname] at hkept
        exact (hkept ((h.router.isActive_receive other id).trans hactive)).elim
    | close => exact Or.inr rfl
    | forget | isActive | subscriberCount => exact (hkept hactive).elim
    | _ => exact absurd rfl hspares

/-- An operation of a callback or of the host makes a subscriber inactive only if it says so. -/
theorem step_of_deactivated (act : Operation → Host → StepResult × Host) {op : Operation}
    (hquiet : op.processes = false ∨ h.router.delivering = true)
    (hactive : h.router.isActive id = true) (hinactive : (step act op h).2.router.isActive id = false) :
    (step act op h).1.answer = .done ∧
      ((∃ name, op = .unsubscribe name ∧ h.subscriptions.lookup name = some id) ∨ op = .close) := by
  rw [step_router] at hinactive
  split_ifs at hinactive with hgone
  · rw [hactive] at hinactive
    cases hinactive
  · have hop := stepHeld_of_deactivated act hquiet hactive hinactive
    have hanswer : (step act op h).1.answer = (stepHeld act h op).1 := by
      rw [step, if_neg hgone]
      rfl
    refine ⟨?_, hop⟩
    rcases hop with ⟨name, rfl, hname⟩ | rfl
    · rw [hanswer]
      simp only [stepHeld, hname]
    · exact hanswer

/-- Whoever becomes inactive at a moment has its subscription ended there. -/
theorem Occurs.ends_of_deactivated (ho : Occurs h m) (hactive : h.router.isActive id = true)
    (hinactive : m.host.router.isActive id = false) : Ends h id m := by
  have hkept (hsame : m.host.router.isActive id = h.router.isActive id) : Ends h id m := by
    rw [hsame, hactive] at hinactive
    cases hinactive
  have hended {op : Operation} (hm : m.happening = .done op .done)
      (hop : (∃ name, op = .unsubscribe name ∧ h.subscriptions.lookup name = some id) ∨
        op = .close) : Ends h id m := by
    rcases hop with ⟨name, rfl, hname⟩ | rfl
    · exact .unsubscribed hm hname
    · exact .closed hm (Router.lt_of_isActive hactive)
  cases ho with
  | @told other _ _ sink _ _ =>
    exact hkept (Router.isActive_modify (f := fun s => { s with sink }) (fun _ => rfl) h.router
      other id)
  | passed => exact hkept rfl
  | noticed other _ =>
    have hrouter : (h.router.deactivate other).isActive id = false := hinactive
    rw [Router.isActive_deactivate, hactive, Bool.and_true, decide_eq_false_iff_not,
      not_not] at hrouter
    exact .noticed (by rw [hrouter])
  | inside other op hd =>
    obtain ⟨ha, hop⟩ := step_of_deactivated _ (Or.inr hd) hactive hinactive
    exact hended (congrArg (Happening.done op) ha) hop
  | @outside op hop =>
    obtain ⟨ha, hended'⟩ := step_of_deactivated Host.inside (Or.inl hop) hactive hinactive
    exact hended (congrArg (Happening.done op) ha) hended'
  | @processed _ a _ _ =>
    obtain ⟨sighted, hcollect⟩ := collect_eq a h
    exact hkept (by rw [hcollect]; rfl)

theorem after_append (h : Host) (ms ms' : List Moment) :
    h.after (ms ++ ms') = (h.after ms).after ms' := by
  induction ms generalizing h with
  | nil => rfl
  | cons m ms ih => rw [List.cons_append, after_cons, after_cons, ih]

/-- Nobody becomes inactive without a moment at which its subscription ends. -/
theorem Leads.exists_ends (hl : Leads h ms h') (hactive : h.router.isActive id = true)
    (hinactive : h'.router.isActive id = false) :
    ∃ before m later, ms = before ++ m :: later ∧ Ends (h.after before) id m := by
  induction ms generalizing h with
  | nil =>
    rw [Router.isActive, hl.idle.subscribers, ← Router.isActive, hactive] at hinactive
    cases hinactive
  | cons m ms ih =>
    obtain ⟨h₁, hbefore, ho, hafter⟩ := hl.uncons
    have hidle := hbefore.idle
    cases hm : m.host.router.isActive id with
    | true =>
      obtain ⟨before, m', later, rfl, he⟩ := ih hafter hm
      exact ⟨m :: before, m', later, rfl, by rwa [after_cons]⟩
    | false =>
      have hactive₁ : h₁.router.isActive id = true := by
        rw [Router.isActive, hidle.subscribers]
        exact hactive
      refine ⟨[], m, ms, rfl, ?_⟩
      cases ho.ends_of_deactivated hactive₁ hm with
      | unsubscribed hm hname => exact .unsubscribed hm (hidle.subscriptions ▸ hname)
      | closed hm hn => exact .closed hm (hidle.subscribers ▸ hn)
      | noticed hm => exact .noticed hm

theorem happening_planMoments (id : Nat) (plan : List Operation) (h : Host) :
    ∀ m ∈ planMoments id plan h, ∃ op a, m.happening = .done op a := by
  induction plan generalizing h with
  | nil => simp [planMoments]
  | cons op rest ih =>
    intro m hm
    by_cases hop : op = .panic
    · subst hop
      simp [planMoments] at hm
    · rw [planMoments_cons id rest h hop] at hm
      rcases List.mem_cons.mp hm with rfl | hm
      · exact ⟨_, _, rfl⟩
      · exact ih _ m hm

/-- The receiver of a channel is found to be gone in the turn of its subscriber. -/
theorem noticed_turnsMoments {listed : List Nat} (hm : m ∈ turnsMoments n listed h)
    (hnoticed : m.happening = .noticed id) :
    ∃ earlier later waiting, listed = earlier ++ id :: later ∧
      (atTurn n h earlier).router.subscribers[id]? =
        some { active := true, sink := .channel waiting false } := by
  induction listed generalizing h with
  | nil => simp [turnsMoments] at hm
  | cons first rest ih =>
    rcases List.mem_append.mp hm with hm | hm
    · rw [turnMoments] at hm
      split at hm
      · rcases List.mem_cons.mp hm with rfl | hm
        · cases hnoticed
        · obtain ⟨op, a, hdone⟩ := happening_planMoments first _ _ m hm
          rw [hdone] at hnoticed
          cases hnoticed
      · rw [List.mem_singleton.mp hm] at hnoticed
        cases hnoticed
      · next waiting hs =>
        rw [List.mem_singleton.mp hm] at hnoticed
        cases hnoticed
        exact ⟨[], rest, waiting, rfl, hs⟩
      · rw [List.mem_singleton.mp hm] at hnoticed
        cases hnoticed
    · obtain ⟨earlier, later, waiting, rfl, hs⟩ := ih hm
      exact ⟨first :: earlier, later, waiting, rfl, hs⟩

/-! ### What a fan-out does -/

/-- What a fan-out of a notification does, on the way from a host on which the delivery has begun to
one on which it has ended, and whom it tells. -/
structure FansOut (n : Notification) (told : List Nat) (h h' : Host) : Prop where
  /-- The subscribers told are told once, in the order of subscription, and nobody is told anything
  else. -/
  deliveries : h'.deliveries = h.deliveries ++ told.map (·, n)
  increasing : told.Pairwise (· < ·)
  /-- They are those that were on the list and can be reached at their turn. -/
  mem_told_iff : ∀ id, id ∈ told ↔ ∃ earlier later, h.router.listed = earlier ++ id :: later ∧
    (atTurn n h earlier).router.reaches id = true
  /-- A callback for the kind of the notification does its next turn. -/
  called : ∀ earlier id later onSession onError, h.router.listed = earlier ++ id :: later →
    (atTurn n h earlier).router.subscribers[id]? =
      some { active := true, sink := .callbacks onSession onError } →
    ∃ results : List StepResult,
      let ops := Operation.untilPanic ((Repeated.items (n.turnsOf onSession onError)).headD [])
      results.length = ops.length ∧ (atTurn n h (earlier ++ [id])).log =
        (atTurn n h earlier).log ++ .got id n :: List.zipWith (LogEntry.did id) ops results
  /-- A channel has the notification after what waits in it. -/
  put : ∀ earlier id later waiting, h.router.listed = earlier ++ id :: later →
    (atTurn n h earlier).router.subscribers[id]? =
      some { active := true, sink := .channel waiting true } →
    (atTurn n h (earlier ++ [id])).router.subscribers[id]? =
      some { active := true, sink := .channel (waiting ++ [n]) true }
  /-- A subscriber whose receiver is gone at its turn is served no longer. -/
  gone : ∀ earlier id later active waiting, h.router.listed = earlier ++ id :: later →
    (atTurn n h earlier).router.subscribers[id]? =
      some { active, sink := .channel waiting false } →
    h'.router.isActive id = false ∧ id ∉ h'.router.listed
  /-- Nobody else goes off the list, unless a callback unsubscribes it or closes the router after
  the moment at which it is still there. -/
  kept : ∀ before later id, turnsMoments n h.router.listed h = before ++ later →
    id ∈ (h.after before).router.listed → id ∉ h'.router.listed →
    (∃ earlier rest waiting, h.router.listed = earlier ++ id :: rest ∧
      (atTurn n h earlier).router.subscribers[id]? =
        some { active := true, sink := .channel waiting false }) ∨
    ∃ between m rest, later = between ++ m :: rest ∧
      (m.happening = .done .close .done ∨ ∃ name, m.happening = .done (.unsubscribe name) .done ∧
        (h.after (before ++ between)).subscriptions.lookup name = some id)

theorem atTurn_concat (n : Notification) (h : Host) (earlier : List Nat) (id : Nat) :
    atTurn n h (earlier ++ [id]) = deliver inside n (atTurn n h earlier) id :=
  List.foldl_concat _ _ _ _

theorem delivering_atTurn (n : Notification) (earlier : List Nat) (hd : h.router.delivering = true) :
    (atTurn n h earlier).router.delivering = true :=
  (foldl_deliver_delivers discreet_inside n earlier hd).2

/-- Who has become inactive at its turn is so after the fan-out. -/
theorem inactive_of_deliver {earlier : List Nat} (hd : h.router.delivering = true)
    (later : List Nat) (hid : id < (atTurn n h earlier).router.subscribers.length)
    (hinactive : (deliver inside n (atTurn n h earlier) id).router.isActive id = false) :
    (atTurn n h (earlier ++ id :: later)).router.isActive id = false := by
  have hdelivering := delivering_atTurn n earlier hd
  have hturn := deliver_delivers discreet_inside n id hdelivering
  have hrest := foldl_deliver_delivers discreet_inside n later hturn.2
  have hlater : atTurn n h (earlier ++ id :: later) =
      later.foldl (deliver inside n) (deliver inside n (atTurn n h earlier) id) :=
    List.foldl_append
  rw [hlater]
  exact hrest.1.moves.precedes.inactive id
    (Nat.lt_of_lt_of_le hid hturn.1.moves.precedes.known) hinactive

theorem getElem?_modify_self {r : Router} {s : Subscriber} (hs : r.subscribers[id]? = some s)
    (f : Subscriber → Subscriber) : (r.modify id f).subscribers[id]? = some (f s) := by
  rw [Router.modify, List.getElem?_modify, hs]
  simp

/-- A subscriber without its receiver is inactive after its turn. -/
theorem isActive_deliver_of_gone {active : Bool} {waiting : List Notification}
    (hs : h.router.subscribers[id]? = some { active, sink := .channel waiting false }) :
    (deliver inside n h id).router.isActive id = false := by
  rw [deliver, hs]
  cases active with
  | false => exact isActive_of_getElem? hs
  | true =>
    have hrouter : (h.router.deactivate id).isActive id = false := by
      rw [Router.isActive_deactivate]
      simp
    exact hrouter

/-- A fan-out tells each subscriber on the list that can be reached at its turn. -/
theorem fanOut_fansOut (n : Notification) (hexact : h.router.Exact) :
    FansOut n (told inside n h.router.listed (h.setDelivering true)) (h.setDelivering true)
      (fanOut inside n h) := by
  have hd : (h.setDelivering true).router.delivering = true := rfl
  have hdelivers := (fanOut_delivers discreet_inside n h).1
  have hafter : (fanOut inside n h).router.Exact := hdelivers.moves.exact hexact
  have hsub := told_sublist inside n h.router.listed (h.setDelivering true)
  have hmem := Host.mem_told_iff n h.router.listed (h.setDelivering true)
  refine ⟨hdelivers.deliveries, hexact.increasing.sublist hsub, hmem, ?_, ?_, ?_, ?_⟩
  · intro earlier id later onSession onError _ hs
    rw [atTurn_concat]
    exact deliver_callbacks hs (delivering_atTurn n earlier hd)
  · intro earlier id later waiting _ hs
    rw [atTurn_concat, deliver, hs]
    exact getElem?_modify_self hs _
  · intro earlier id later active waiting hlisted hs
    have hinactive := inactive_of_deliver hd later (List.getElem?_eq_some_iff.mp hs).1
      (isActive_deliver_of_gone hs)
    rw [← hlisted] at hinactive
    have hout : (fanOut inside n h).router.isActive id = false := hinactive
    exact ⟨hout, by rw [hafter.mem_listed_iff, hout]; exact Bool.false_ne_true⟩
  · intro before later id hmoments hin hout
    have hleads := leads_foldl_deliver n h.router.listed hd
    have hstart : (h.setDelivering true).router.Exact :=
      hexact.of_eq rfl rfl (fun _ => rfl) rfl
    have hmoments' : turnsMoments n h.router.listed (h.setDelivering true) = before ++ later :=
      hmoments
    rw [hmoments'] at hleads
    obtain ⟨hbefore, hlater⟩ := hleads.split
    have hactive := ((hbefore.moves.exact hstart).mem_listed_iff id).mp hin
    rw [hafter.mem_listed_iff, Bool.not_eq_true] at hout
    obtain ⟨between, m, rest, rfl, he⟩ := hlater.exists_ends hactive hout
    rw [← after_append] at he
    cases he with
    | unsubscribed hm hname => exact Or.inr ⟨between, m, rest, rfl, Or.inr ⟨_, hm, hname⟩⟩
    | closed hm _ => exact Or.inr ⟨between, m, rest, rfl, Or.inl hm⟩
    | noticed hm =>
      have hmem : m ∈ turnsMoments n h.router.listed (h.setDelivering true) := by
        rw [hmoments']
        simp
      exact Or.inl (noticed_turnsMoments hmem hm)

/-- **Fan-out, exactly once and to the right subscribers.** Whatever the list of subscribers is, and
whatever callbacks do meanwhile: an event that is handled with a notification, by the router or by
the endpoint, is told to those subscribers on the list who can be reached at their turn, once and in
order. -/
theorem fanOut_once (hexact : h.router.Exact) {event : InboundEvent}
    (hhandled : (∃ localId peer, route inside event localId peer h = (.ok (some n), h')) ∨
      handle inside event h = (.ok (some n), h')) :
    ∃ registry told,
      FansOut n told ((h.withRouter { h.router with registry }).setDelivering true) h' := by
  have hrouted (localId : String) (peer : Option String)
      (hroute : route inside event localId peer h = (.ok (some n), h')) : ∃ registry told,
      FansOut n told ((h.withRouter { h.router with registry }).setDelivering true) h' := by
    obtain ⟨registry, hr⟩ := h.router.exists_classify_eq event localId peer
    rw [route] at hroute
    split_ifs at hroute
    · cases hroute
    · cases hroute
    · generalize h.router.classify event localId peer = judged at hroute hr
      obtain ⟨_ | n', router⟩ := judged
      · cases hroute
      · cases hroute
        obtain rfl : router = { h.router with registry } := hr
        exact ⟨registry, _, fanOut_fansOut n (hexact.of_eq rfl rfl (fun _ => rfl) rfl)⟩
  rcases hhandled with ⟨localId, peer, hroute⟩ | hhandle
  · exact hrouted localId peer hroute
  · rw [handle] at hhandle
    split_ifs at hhandle
    · cases hhandle
    · cases hhandle
    · exact hrouted _ _ hhandle

/-- A callback unsubscribes one that comes later, drops the receiver of another and subscribes a
third, which are all not told. -/
theorem fanOut_once_changing :
    let plan : List Operation :=
      [.unsubscribe "second", .dropReceiver "third", .subscribeChannel "late"]
    let ops : List Operation :=
      [.subscribe "first" [] [{ item := plan, times := 1 }], .subscribeChannel "second",
        .subscribeChannel "third", .subscribeChannel "fourth"]
    let h := run ops (fresh (KeyRing.ofId "alice") .channel true)
    let event : InboundEvent := .transportError "lost" "now"
    let n : Notification := .errorRaised { kind := .transport, message := "lost", timestamp := "now" }
    ∃ h' registry told, handle inside event h = (.ok (some n), h') ∧
      FansOut n told ((h.withRouter { h.router with registry }).setDelivering true) h' ∧
      h'.deliveries = [(0, n), (3, n)] ∧ h'.router.listed = [0, 3, 4] := by
  intro plan ops h event n
  have hexact : h.router.Exact := exact_run (KeyRing.ofId "alice") .channel true ops
  have hopen : h.router.closed = false := by decide +kernel
  have hd : h.router.delivering = false := by decide +kernel
  have hhandled : handle inside event h = (.ok (some n), fanOut inside n (h.withRouter h.router)) :=
    handle_of_open hopen hd
  obtain ⟨registry, told, hfans⟩ := fanOut_once hexact (Or.inr hhandled)
  exact ⟨_, registry, told, hhandled, hfans, by decide +kernel, by decide +kernel⟩

end Host

end ChatRouting
