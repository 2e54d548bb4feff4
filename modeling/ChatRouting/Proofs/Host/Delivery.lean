import ChatRouting.Proofs.Host.Quiet

/-!
# What a fan-out delivers

The log of a host says who was told what. A stretch of a run *delivers* some notifications when
it adds just these to the log, in order, when the operations that callbacks performed in it
answered as operations inside a callback may, and when the endpoint went through moves.

A fan-out takes the subscribers that are on the list when it begins and gives each a turn. In a
turn a subscriber is told the notification if it can be reached then, and its callback performs
operations that tell nobody anything. So a fan-out delivers one notification, to some of the
subscribers on the list in the order of the list.

## Main definitions

* `Router.reaches`: a subscriber can be told something
* `Host.deliveries`: who was told what, in order
* `Host.told`: who is told a notification in a number of turns
* `Host.AnswersInside`: the operations of callbacks answered as they may
* `Host.Discreet`: what a callback's operation is supposed to do
* `Host.Delivers`

## Main results

* `Host.discreet_step`: whatever callbacks do, they are discreet
* `Host.fanOut_delivers`
-/

namespace ChatRouting

/-- The subscriber that is told something, and what it is told. -/
def LogEntry.delivery? : LogEntry → Option (Nat × Notification)
  | put id n | got id n => some (id, n)
  | did _ _ _ => none

/-- Something can be put into a channel, or a callback be called. -/
def Sink.isOpen : Sink → Bool
  | callbacks _ _ => true
  | channel _ attached => attached

/-- A subscriber can be told something: it is active, and its channel, if it has one, has its
receiver. -/
def Router.reaches (r : Router) (id : Nat) : Bool :=
  r.subscribers[id]?.any fun s => s.active && s.sink.isOpen

namespace Host

/-- Who was told what, in order. -/
def deliveries (h : Host) : List (Nat × Notification) :=
  h.log.filterMap LogEntry.delivery?

/-- The subscriber, if it can be told something. -/
def reached (h : Host) (id : Nat) : List Nat :=
  if h.router.reaches id then [id] else []

/-- The subscribers that are told a notification in their turns. -/
def told (act : Operation → Host → StepResult × Host) (n : Notification) :
    List Nat → Host → List Nat
  | [], _ => []
  | id :: rest, h => h.reached id ++ told act n rest (deliver act n h id)

/-- Every operation that a callback performed has answered as it may inside a callback. -/
def AnswersInside (h : Host) : Prop :=
  ∀ id op result, .did id op result ∈ h.log → op.AnswerInside result.answer

/-- A callback's operation delivers nothing, and answers as it may inside a callback. -/
structure Discreet (act : Operation → Host → StepResult × Host) : Prop where
  quiet : ∀ (op : Operation) (h : Host), h.router.delivering = true → Quiet h (act op h).2
  answer : ∀ (op : Operation) (h : Host), h.router.delivering = true →
    op.AnswerInside (act op h).1.answer

/-- Whatever the callbacks inside it would do, an operation inside a callback is discreet. -/
theorem discreet_step (act : Operation → Host → StepResult × Host) : Discreet (step act) where
  quiet op _ hd := step_quiet act hd op
  answer op _ hd := step_answerInside act hd op

/-- On the way from one host to another just these notifications are delivered. -/
structure Delivers (ds : List (Nat × Notification)) (h h' : Host) : Prop where
  deliveries : h'.deliveries = h.deliveries ++ ds
  moves : h.endpoint.Moves h'.endpoint
  answers : h.AnswersInside → h'.AnswersInside

variable {h h' h'' : Host} {ds ds' : List (Nat × Notification)}

theorem Delivers.trans (h₁ : Delivers ds h h') (h₂ : Delivers ds' h' h'') :
    Delivers (ds ++ ds') h h'' where
  deliveries := by rw [h₂.deliveries, h₁.deliveries, List.append_assoc]
  moves := h₁.moves.trans h₂.moves
  answers ha := h₂.answers (h₁.answers ha)

theorem delivers_of_log_eq (hl : h'.log = h.log) (hm : h.endpoint.Moves h'.endpoint) :
    Delivers [] h h' where
  deliveries := by rw [deliveries, deliveries, hl, List.append_nil]
  moves := hm
  answers ha id op result := by
    rw [hl]
    exact ha id op result

theorem Quiet.delivers (hq : Quiet h h') : Delivers [] h h' :=
  delivers_of_log_eq hq.log hq.changes.moves

theorem delivers_withRouter {router : Router}
    (hm : h.endpoint.Move { h.endpoint with router }) : Delivers [] h (h.withRouter router) :=
  delivers_of_log_eq rfl (.single hm)

theorem delivers_turn (h : Host) (id : Nat) (sink : Sink) :
    Delivers [] h (h.withRouter (h.router.modify id fun s => { s with sink })) :=
  delivers_withRouter (.turn id sink)

theorem deliveries_note (h : Host) (entry : LogEntry) :
    (h.note entry).deliveries = h.deliveries ++ entry.delivery?.toList := by
  rw [deliveries, note, List.filterMap_append, List.filterMap_cons, List.filterMap_nil]
  cases entry.delivery? with
  | none => rfl
  | some d => rfl

theorem answersInside_note {entry : LogEntry} (ha : h.AnswersInside)
    (he : ∀ id op result, entry = .did id op result → op.AnswerInside result.answer) :
    (h.note entry).AnswersInside := by
  intro id op result hmem
  rcases List.mem_append.mp hmem with hmem | hmem
  · exact ha id op result hmem
  · exact he id op result (List.mem_singleton.mp hmem).symm

/-- A subscriber is told something. -/
theorem delivers_note {entry : LogEntry} {d : Nat × Notification}
    (he : entry.delivery? = some d) (h : Host) : Delivers [d] h (h.note entry) where
  deliveries := by rw [deliveries_note, he, Option.toList_some]
  moves := .refl
  answers ha := answersInside_note ha fun id op result hd => by
    subst hd
    cases he

/-- A callback has done something. -/
theorem delivers_note_did (id : Nat) {op : Operation} {result : StepResult}
    (ha : op.AnswerInside result.answer) (h : Host) :
    Delivers [] h (h.note (.did id op result)) where
  deliveries := deliveries_note h _
  moves := .refl
  answers hh := answersInside_note hh fun _ _ _ heq => by
    cases heq
    exact ha

/-! ### A turn -/

variable {act : Operation → Host → StepResult × Host}

theorem runPlan_cons (act : Operation → Host → StepResult × Host) (id : Nat) {op : Operation}
    (rest : List Operation) (h : Host) (hop : op ≠ .panic) :
    runPlan act id (op :: rest) h =
      runPlan act id rest ((act op h).2.note (.did id op (act op h).1)) := by
  cases op with
  | panic => exact absurd rfl hop
  | _ => rfl

/-- The operations of a callback deliver nothing. -/
theorem runPlan_delivers (hact : Discreet act) (id : Nat) (plan : List Operation)
    (hd : h.router.delivering = true) :
    Delivers [] h (runPlan act id plan h) ∧
      (runPlan act id plan h).router.delivering = true := by
  induction plan generalizing h with
  | nil => exact ⟨(Quiet.refl h).delivers, hd⟩
  | cons op rest ih =>
    by_cases hop : op = .panic
    · subst hop
      exact ⟨(Quiet.refl h).delivers, hd⟩
    · rw [runPlan_cons act id rest h hop]
      have hquiet := hact.quiet op h hd
      have hdid := hquiet.delivers.trans
        (delivers_note_did id (hact.answer op h hd) (act op h).2)
      obtain ⟨hrest, hdrest⟩ := ih (h := (act op h).2.note (.did id op (act op h).1))
        (hquiet.delivering.trans hd)
      exact ⟨hdid.trans hrest, hdrest⟩

/-- In a turn a subscriber that can be reached is told the notification, and another nothing. -/
theorem deliver_delivers (hact : Discreet act) (n : Notification) (id : Nat)
    (hd : h.router.delivering = true) :
    Delivers ((h.reached id).map (·, n)) h (deliver act n h id) ∧
      (deliver act n h id).router.delivering = true := by
  rw [deliver, reached, Router.reaches]
  rcases h.router.subscribers[id]? with _ | ⟨active, sink⟩
  · exact ⟨(Quiet.refl h).delivers, hd⟩
  · cases active with
    | false => exact ⟨(Quiet.refl h).delivers, hd⟩
    | true =>
      cases sink with
      | callbacks onSession onError =>
        let sink := (nextPlan n onSession onError).2
        let told := (h.withRouter (h.router.modify id fun s => { s with sink })).note (.got id n)
        have htold : Delivers [(id, n)] h told :=
          (delivers_turn h id sink).trans (delivers_note rfl _)
        have hdtold : told.router.delivering = true := hd
        obtain ⟨hplan, hdplan⟩ := runPlan_delivers hact id (nextPlan n onSession onError).1 hdtold
        exact ⟨htold.trans hplan, hdplan⟩
      | channel waiting attached =>
        cases attached with
        | false => exact ⟨(quiet_of_adjusts (h := h) (.deactivate id)).delivers, hd⟩
        | true =>
          have hturn := delivers_turn h id (.channel (waiting ++ [n]) true)
          exact ⟨hturn.trans (delivers_note rfl _), hd⟩

theorem told_sublist (act : Operation → Host → StepResult × Host) (n : Notification)
    (listed : List Nat) (h : Host) : (told act n listed h).Sublist listed := by
  induction listed generalizing h with
  | nil => exact .refl _
  | cons id rest ih =>
    have hreached : (h.reached id).Sublist [id] := by
      rw [reached]
      split_ifs
      · exact .refl _
      · exact List.nil_sublist _
    exact hreached.append (ih _)

/-- Turns one after the other. -/
theorem foldl_deliver_delivers (hact : Discreet act) (n : Notification) (listed : List Nat)
    (hd : h.router.delivering = true) :
    Delivers ((told act n listed h).map (·, n)) h (listed.foldl (deliver act n) h) ∧
      (listed.foldl (deliver act n) h).router.delivering = true := by
  induction listed generalizing h with
  | nil => exact ⟨(Quiet.refl h).delivers, hd⟩
  | cons id rest ih =>
    obtain ⟨hturn, hdturn⟩ := deliver_delivers hact n id hd
    obtain ⟨hrest, hdrest⟩ := ih hdturn
    refine ⟨?_, hdrest⟩
    rw [told, List.map_append]
    exact hturn.trans hrest

/-! ### A fan-out -/

theorem delivers_setDelivering (h : Host) (delivering : Bool) :
    Delivers [] h (h.setDelivering delivering) :=
  delivers_withRouter (.mark delivering)

/-- A fan-out delivers one notification to some of the subscribers on the list, in order. -/
theorem fanOut_delivers (hact : Discreet act) (n : Notification) (h : Host) :
    Delivers ((told act n h.router.listed (h.setDelivering true)).map (·, n)) h (fanOut act n h) ∧
      (fanOut act n h).router.delivering = false := by
  obtain ⟨hturns, _⟩ :=
    foldl_deliver_delivers hact n h.router.listed (h := h.setDelivering true) rfl
  refine ⟨?_, rfl⟩
  have hall := ((delivers_setDelivering h true).trans hturns).trans
    (delivers_setDelivering _ false)
  rwa [List.nil_append, List.append_nil] at hall

end Host

end ChatRouting
