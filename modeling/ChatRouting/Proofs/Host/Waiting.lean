import ChatRouting.Proofs.Host.Classification
import ChatRouting.Proofs.Host.Inside

/-!
# Handling an event while others wait

Which events wait in the inbound queue does not matter for the event that is handled. It is handled
as on a host for which no event waits, and what callbacks queue meanwhile is put behind the events
that wait. The log has what they queued.

## Main definitions

* `Host.queued`: the events that callbacks have queued, in order
* `Host.Queues`: something is done in the same way whichever events wait
* `Host.handleAll`: events are handled one after the other

## Main results

* `Host.handle_withInbound`, `Host.handleAll_withInbound`
-/

namespace ChatRouting

/-- The event that a callback has queued with an operation. -/
def LogEntry.queued : LogEntry → List InboundEvent
  | did _ op result => op.queued result.answer
  | put _ _ | got _ _ => []

namespace Host

/-- The events that callbacks have queued, in order. -/
def queued (h : Host) : List InboundEvent :=
  h.log.flatMap LogEntry.queued

/-- Something is done with a host in the same way whichever events wait. New ones are put behind
them, which are those that callbacks have queued. -/
structure Queues (f : Host → Host) (new : List InboundEvent) (h : Host) : Prop where
  logged : (f h).queued = h.queued ++ new
  beside : ∀ q, f (h.withInbound q) = (f h).withInbound (q ++ new)

variable {f g : Host → Host} {new new' : List InboundEvent} {h : Host}

theorem queued_note (h : Host) (entry : LogEntry) :
    (h.note entry).queued = h.queued ++ entry.queued := by
  rw [queued, note, List.flatMap_append, List.flatMap_singleton, queued]

/-- Nothing is queued. -/
theorem queues_nil (hlog : (f h).queued = h.queued)
    (hbeside : ∀ q, f (h.withInbound q) = (f h).withInbound q) : Queues f [] h where
  logged := by rw [hlog, List.append_nil]
  beside q := by rw [hbeside, List.append_nil]

/-- One thing is done after the other. -/
theorem Queues.comp (hf : Queues f new h) (hg : Queues g new' (f h)) :
    Queues (fun h => g (f h)) (new ++ new') h where
  logged := by rw [hg.logged, hf.logged, List.append_assoc]
  beside q := by rw [hf.beside, hg.beside, List.append_assoc]

/-- What is done on the host and beside other events that wait is all that matters. -/
theorem Queues.congr (hf : Queues f new h) (hsame : g h = f h)
    (hbeside : ∀ q, g (h.withInbound q) = f (h.withInbound q)) : Queues g new h where
  logged := by rw [hsame, hf.logged]
  beside q := by rw [hbeside, hsame, hf.beside]

/-! ### A fan-out -/

/-- A callback performs an operation. -/
theorem queues_did (id : Nat) (op : Operation) (hd : h.router.delivering = true) :
    Queues (fun h => (inside op h).2.note (.did id op (inside op h).1))
      (op.queued (inside op h).1.answer) h where
  logged := by
    have hlog : (inside op h).2.log = h.log := (step_quiet _ hd op).log
    rw [queued_note, LogEntry.queued, queued, hlog, ← queued]
  beside q := by
    have hstep : inside op (h.withInbound q) = _ := step_withInbound h q _ hd op
    rw [hstep]
    rfl

theorem runPlan_queues (id : Nat) (plan : List Operation) (hd : h.router.delivering = true) :
    ∃ new, Queues (runPlan inside id plan) new h := by
  induction plan generalizing h with
  | nil => exact ⟨[], queues_nil rfl fun _ => rfl⟩
  | cons op rest ih =>
    by_cases hop : op = .panic
    · subst hop
      exact ⟨[], queues_nil rfl fun _ => rfl⟩
    · have hd' : ((inside op h).2.note (.did id op (inside op h).1)).router.delivering = true :=
        (step_quiet _ hd op).delivering.trans hd
      obtain ⟨new, hrest⟩ := ih hd'
      exact ⟨_, ((queues_did id op hd).comp hrest).congr (runPlan_cons inside id rest h hop)
        fun q => runPlan_cons inside id rest (h.withInbound q) hop⟩

/-- A subscriber changes and is told a notification. -/
theorem queues_turn (id : Nat) (change : Subscriber → Subscriber) (entry : LogEntry)
    (hentry : entry.queued = []) (h : Host) :
    Queues (fun h => (h.withRouter (h.router.modify id change)).note entry) [] h :=
  queues_nil (by rw [queued_note, hentry, List.append_nil]; rfl) fun _ => rfl

theorem deliver_queues (n : Notification) (id : Nat) (hd : h.router.delivering = true) :
    ∃ new, Queues (deliver inside n · id) new h := by
  have hsame (q : List InboundEvent) :
      (h.withInbound q).router.subscribers[id]? = h.router.subscribers[id]? := rfl
  rcases hs : h.router.subscribers[id]? with _ | ⟨_ | _, ⟨onSession, onError⟩ | ⟨waiting, _ | _⟩⟩
  case none =>
    exact ⟨[], (queues_nil (f := fun h => h) rfl fun _ => rfl).congr (by simp only [deliver, hs])
      fun q => by simp only [deliver, hsame, hs]⟩
  case some.true.channel.true =>
    exact ⟨[], (queues_turn id (fun s => { s with sink := .channel (waiting ++ [n]) true })
      (.put id n) rfl h).congr (by simp only [deliver, hs])
      fun q => by simp only [deliver, hsame, hs]⟩
  case some.true.channel.false =>
    exact ⟨[], (queues_nil (f := fun h => h.withRouter (h.router.deactivate id)) rfl
      fun _ => rfl).congr (by simp only [deliver, hs]) fun q => by simp only [deliver, hsame, hs]⟩
  case some.true.callbacks =>
    have hturn := queues_turn id
      (fun s => { s with sink := (nextPlan n onSession onError).2 }) (.got id n) rfl h
    obtain ⟨new, hplan⟩ := runPlan_queues (h := (h.withRouter (h.router.modify id fun s =>
      { s with sink := (nextPlan n onSession onError).2 })).note (.got id n)) id
      (nextPlan n onSession onError).1 hd
    exact ⟨_, (hturn.comp hplan).congr (by simp only [deliver, hs])
      fun q => by simp only [deliver, hsame, hs]⟩
  -- Nothing goes to an inactive subscriber.
  all_goals
    exact ⟨[], (queues_nil (f := fun h => h) rfl fun _ => rfl).congr (by simp only [deliver, hs])
      fun q => by simp only [deliver, hsame, hs]⟩

theorem foldl_deliver_queues (n : Notification) (listed : List Nat)
    (hd : h.router.delivering = true) :
    ∃ new, Queues (listed.foldl (deliver inside n)) new h := by
  induction listed generalizing h with
  | nil => exact ⟨[], queues_nil rfl fun _ => rfl⟩
  | cons id rest ih =>
    have hd' : (deliver inside n h id).router.delivering = true :=
      (deliver_delivers (discreet_step _) n id hd).2
    obtain ⟨new, hturn⟩ := deliver_queues n id hd
    obtain ⟨new', hrest⟩ := ih hd'
    exact ⟨_, hturn.comp hrest⟩

theorem fanOut_queues (n : Notification) (h : Host) : ∃ new, Queues (fanOut inside n) new h := by
  have hmark (h : Host) (delivering : Bool) : Queues (setDelivering · delivering) [] h :=
    queues_nil rfl fun _ => rfl
  obtain ⟨new, hturns⟩ := foldl_deliver_queues n h.router.listed (h := h.setDelivering true) rfl
  exact ⟨_, (((hmark h true).comp hturns).comp (hmark _ false)).congr rfl fun _ => rfl⟩

/-! ### Events one after the other -/

theorem handle_of_closed (hclosed : h.router.closed = true) (event : InboundEvent) :
    handle inside event h = (.error .closed, h) := by
  rw [handle, if_pos hclosed]

/-- The delivery of an event that is handled is over afterwards. -/
theorem delivering_handle (event : InboundEvent) (hd : h.router.delivering = false) :
    (handle inside event h).2.router.delivering = false := by
  rcases hopen : h.router.closed with _ | _
  · obtain ⟨registry, hr⟩ :=
      h.router.exists_classify_eq event h.endpoint.localId (h.endpoint.echoPeer event)
    rw [handle_of_open hopen hd]
    split
    · next router hc =>
      rw [hc] at hr
      obtain rfl : router = { h.router with registry } := hr
      exact hd
    · rfl
  · rwa [handle_of_closed hopen]

/-- An event is handled in the same way whichever events wait. What callbacks queue meanwhile is put
behind them. -/
theorem handle_withInbound (event : InboundEvent) (hd : h.router.delivering = false) :
    ∃ new, (handle inside event h).2.queued = h.queued ++ new ∧
      ∀ q, handle inside event (h.withInbound q) =
        ((handle inside event h).1, (handle inside event h).2.withInbound (q ++ new)) := by
  rcases hopen : h.router.closed with _ | _
  · have hopen' (q : List InboundEvent) : (h.withInbound q).router.closed = false := hopen
    have hd' (q : List InboundEvent) : (h.withInbound q).router.delivering = false := hd
    have hclassify (q : List InboundEvent) : (h.withInbound q).router.classify event
        (h.withInbound q).endpoint.localId ((h.withInbound q).endpoint.echoPeer event) =
        h.router.classify event h.endpoint.localId (h.endpoint.echoPeer event) := rfl
    simp only [handle_of_open hopen hd, handle_of_open (hopen' _) (hd' _), hclassify]
    rcases h.router.classify event h.endpoint.localId (h.endpoint.echoPeer event) with
      ⟨_ | n, router⟩
    · refine ⟨[], (List.append_nil _).symm, fun q => ?_⟩
      rw [List.append_nil]
      rfl
    · obtain ⟨new, hfan⟩ := fanOut_queues n (h.withRouter router)
      exact ⟨new, hfan.logged, fun q => Prod.ext rfl (hfan.beside q)⟩
  · have hopen' (q : List InboundEvent) : (h.withInbound q).router.closed = true := hopen
    refine ⟨[], ?_, fun q => ?_⟩
    · rw [handle_of_closed hopen, List.append_nil]
    · rw [handle_of_closed (hopen' q), handle_of_closed hopen, List.append_nil]

/-- Events are handled one after the other. -/
def handleAll : List InboundEvent → Host → List Handling × Host
  | [], h => ([], h)
  | event :: rest, h =>
    let (outcome, h) := handle inside event h
    let (others, h) := handleAll rest h
    ({ event, outcome } :: others, h)

/-- Events are handled one after the other in the same way whichever events wait. -/
theorem handleAll_withInbound (events : List InboundEvent) (hd : h.router.delivering = false) :
    ∃ new, (handleAll events h).2.queued = h.queued ++ new ∧
      ∀ q, handleAll events (h.withInbound q) =
        ((handleAll events h).1, (handleAll events h).2.withInbound (q ++ new)) := by
  induction events generalizing h with
  | nil => exact ⟨[], (List.append_nil _).symm, fun q => by rw [List.append_nil]; rfl⟩
  | cons event rest ih =>
    obtain ⟨new, hlog, hfirst⟩ := handle_withInbound event hd
    obtain ⟨new', hlog', hrest⟩ := ih (delivering_handle event hd)
    refine ⟨new ++ new', ?_, fun q => ?_⟩
    · rw [handleAll, hlog', hlog, List.append_assoc]
    · simp only [handleAll, hfirst, hrest, List.append_assoc]

end Host

end ChatRouting
