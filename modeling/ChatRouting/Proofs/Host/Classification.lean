import ChatRouting.Proofs.Host.Serialized
import ChatRouting.Proofs.Session.Ledger

/-!
# What an event means

An event that the router processes comes to one of four things. An own message that has come back
is dropped, whatever else is wrong with it. A failure of the transport is passed on as it is. A
message with a flaw is reported, and no session changes. Any other message updates the session of
its conversation, which is entered if there is none, and no other session. All of this is settled
before the first subscriber is told.

## Main definitions

* `Router.flaw?`: the first thing that is wrong with a message
* `Registry.Updates`: a message updates one session
* `Host.Classified`: what an event comes to

## Main results

* `Router.accept_of_flaw`, `Router.accept_of_sound`
* `Host.classified_route`, `Host.route_classified`
-/

namespace ChatRouting

/-- A message updates the session of its conversation, which is entered with the target if there
is none, and the others stay as they are. -/
structure Registry.Updates (r : Registry) (m : Message) (target : Target) (time : Instant)
    (s : Session) (r' : Registry) : Prop where
  /-- The session is what is found under the conversation. -/
  found : r'.find? m.conversation = some s
  others : ∀ id, id ≠ m.conversation → r'.find? id = r.find? id
  /-- A session that was there has received the message and stays where it was. -/
  received : ∀ s₀, r.find? m.conversation = some s₀ → s = s₀.receive m.plaintext time ∧
    r'.list = r.list.map fun t => if t.id = m.conversation then s else t
  /-- A session that is new comes last. -/
  entered : r.find? m.conversation = none →
    s = Registry.firstSession m target time ∧ r'.list = r.list ++ [s]

theorem Registry.WellKept.updates {r : Registry} (hw : r.WellKept) {m : Message} (target : Target)
    {time : Instant} (hid : m.conversation ≠ "") (ht : Instant.ofText m.timestamp = .ok time) :
    ∃ s, (r.applyAs m target).1 = .ok s ∧
      r.Updates m target time s (r.applyAs m target).2 := by
  cases hf : r.find? m.conversation with
  | some s₀ =>
    have hname : (s₀.receive m.plaintext time).id = m.conversation :=
      (congrArg Prod.fst (s₀.heading_receive m.plaintext time)).trans (hw.id_of_find? hf)
    rw [applyAs_of_present hid ht hf]
    refine ⟨_, rfl, ?_, fun id hne => ?_, fun s₁ hs₁ => ?_, fun hnone => ?_⟩
    · rw [find?_replace, if_pos hname.symm, hf]
      rfl
    · rw [find?_replace, if_neg (by rwa [hname])]
    · cases hf.symm.trans hs₁
      exact ⟨rfl, by rw [hw.list_replace, hname]⟩
    · cases hf.symm.trans hnone
  | none =>
    rw [applyAs_of_absent hid ht hf]
    refine ⟨_, rfl, ?_, fun id hne => ?_, fun s₁ hs₁ => ?_, fun _ => ⟨rfl, hw.list_insert _⟩⟩
    · exact (find?_insert _ _ _).trans (if_pos rfl)
    · exact (find?_insert _ _ _).trans (if_neg hne)
    · cases hf.symm.trans hs₁

/-! ### Flaws of a message -/

namespace Message

variable {m : Message} {f : Fault}

/-- What is wrong with a timestamp is wrong with the event. -/
theorem malformed_of_ofText {text : String} (h : Instant.ofText text = .error f) :
    ∃ reason, f = .malformedEvent reason := by
  rw [Instant.ofText] at h
  split at h
  · cases h
  · cases h
    exact ⟨_, rfl⟩

theorem check_error (h : m.check = .error f) : (∃ reason, f = .malformedEvent reason) ∧
    (m.conversation = "" ∨ m.sender = "" ∨ ∃ f, Instant.ofText m.timestamp = .error f) := by
  by_cases hconversation : m.conversation = ""
  · rw [check, if_pos hconversation] at h
    cases h
    exact ⟨⟨_, rfl⟩, Or.inl hconversation⟩
  · by_cases hsender : m.sender = ""
    · rw [check, if_neg hconversation, if_pos hsender] at h
      cases h
      exact ⟨⟨_, rfl⟩, Or.inr (Or.inl hsender)⟩
    · rw [check, if_neg hconversation, if_neg hsender] at h
      cases ht : Instant.ofText m.timestamp with
      | error f' =>
        rw [ht] at h
        cases h
        exact ⟨malformed_of_ofText ht, Or.inr (Or.inr ⟨f, rfl⟩)⟩
      | ok time =>
        rw [ht] at h
        cases h

theorem check_ok (h : m.check = .ok ()) :
    m.conversation ≠ "" ∧ m.sender ≠ "" ∧ ∃ time, Instant.ofText m.timestamp = .ok time := by
  by_cases hconversation : m.conversation = ""
  · rw [check, if_pos hconversation] at h
    cases h
  · by_cases hsender : m.sender = ""
    · rw [check, if_neg hconversation, if_pos hsender] at h
      cases h
    · rw [check, if_neg hconversation, if_neg hsender] at h
      cases ht : Instant.ofText m.timestamp with
      | error f =>
        rw [ht] at h
        cases h
      | ok time => exact ⟨hconversation, hsender, time, rfl⟩

end Message

namespace Router

variable {r : Router} {m : Message} {localId : String} {peer : Option String} {f : Fault}

/-- An own direct message says nobody whom it was sent to. -/
def Unaddressed (r : Router) (m : Message) (localId : String) (peer : Option String) : Prop :=
  m.isGroup = false ∧ m.sender = localId ∧ peer = none ∧ r.registry.find? m.conversation = none

instance : Decidable (r.Unaddressed m localId peer) :=
  inferInstanceAs (Decidable (_ ∧ _ ∧ _ ∧ _))

/-- The first thing that is wrong with a message. -/
def flaw? (r : Router) (m : Message) (localId : String) (peer : Option String) : Option Fault :=
  match m.check with
  | .error f => some f
  | .ok () =>
    if r.Unaddressed m localId peer then
      some (.malformedEvent s!"own message for unknown direct conversation {m.conversation}")
    else none

theorem flaw?_isSome_iff : (r.flaw? m localId peer).isSome ↔
    m.conversation = "" ∨ m.sender = "" ∨ (∃ f, Instant.ofText m.timestamp = .error f) ∨
      r.Unaddressed m localId peer := by
  rw [flaw?]
  cases hcheck : m.check with
  | error f =>
    have hwhy := (Message.check_error hcheck).2
    simp only [Option.isSome_some, true_iff]
    tauto
  | ok _ =>
    obtain ⟨hconversation, hsender, time, ht⟩ := Message.check_ok hcheck
    simp only [hconversation, hsender, ht, false_or, reduceCtorEq, exists_false]
    split_ifs with h
    · simp [h]
    · simp [h]

theorem targetOf_of_unaddressed (h : r.Unaddressed m localId peer) :
    r.targetOf m localId peer =
      .error (.malformedEvent s!"own message for unknown direct conversation {m.conversation}") := by
  obtain ⟨hgroup, hsender, rfl, hnone⟩ := h
  unfold targetOf
  rw [if_pos (by simp [hgroup, hsender]), hnone]

theorem exists_targetOf (h : ¬ r.Unaddressed m localId peer) :
    ∃ target, r.targetOf m localId peer = .ok target := by
  unfold targetOf
  split_ifs with hown
  · have hown' : m.isGroup = false ∧ m.sender = localId := by simpa using hown
    split
    · exact ⟨_, rfl⟩
    · exact ⟨_, rfl⟩
    · next hnone => exact absurd ⟨hown'.1, hown'.2, rfl, hnone⟩ h
  · exact ⟨_, rfl⟩

/-- A message with a flaw is refused, and nothing changes. -/
theorem accept_of_flaw (h : r.flaw? m localId peer = some f) :
    (∃ reason, f = .malformedEvent reason) ∧ r.accept m localId peer = (.error f, r) := by
  rw [flaw?] at h
  rw [accept]
  cases hcheck : m.check with
  | error f' =>
    rw [hcheck] at h
    cases h
    exact ⟨(Message.check_error hcheck).1, rfl⟩
  | ok _ =>
    simp only [hcheck] at h
    split_ifs at h with hunaddressed
    cases h
    rw [targetOf_of_unaddressed hunaddressed]
    exact ⟨⟨_, rfl⟩, rfl⟩

/-- A message without a flaw updates the session of its conversation. -/
theorem accept_of_sound (hw : r.registry.WellKept) (h : r.flaw? m localId peer = none) :
    ∃ target time s registry, r.targetOf m localId peer = .ok target ∧
      Instant.ofText m.timestamp = .ok time ∧ r.registry.Updates m target time s registry ∧
      r.accept m localId peer = (.ok s, { r with registry }) := by
  rw [flaw?] at h
  cases hcheck : m.check with
  | error f =>
    rw [hcheck] at h
    cases h
  | ok _ =>
    simp only [hcheck] at h
    split_ifs at h with hunaddressed
    obtain ⟨target, htarget⟩ := exists_targetOf hunaddressed
    obtain ⟨hconversation, -, time, ht⟩ := Message.check_ok hcheck
    obtain ⟨s, hs, hupdates⟩ := hw.updates target hconversation ht
    refine ⟨target, time, s, _, htarget, ht, hupdates, ?_⟩
    simp only [accept, hcheck, htarget, hs]
    rfl

/-! ### The judgement of an event -/

theorem dropsEcho_iff :
    r.dropsEcho m localId = true ↔ r.ignoreOwnEcho = true ∧ localId ≠ "" ∧ m.sender = localId := by
  simp [dropsEcho, and_assoc]

theorem dropsEcho_eq_false (h : r.ignoreOwnEcho = true → localId ≠ "" → m.sender ≠ localId) :
    r.dropsEcho m localId = false := by
  rw [← Bool.not_eq_true, dropsEcho_iff]
  exact fun hecho => h hecho.1 hecho.2.1 hecho.2.2

theorem classify_of_echo (h : r.dropsEcho m localId = true) :
    r.classify (.message m) localId peer = (none, r) := by
  simp only [classify, h, if_true]

theorem classify_of_flaw (hecho : r.dropsEcho m localId = false)
    (h : r.flaw? m localId peer = some f) :
    r.classify (.message m) localId peer = (some (.errorRaised (.ofRefused m f)), r) := by
  simp only [classify, hecho, (accept_of_flaw h).2, Bool.false_eq_true, if_false]

theorem classify_of_sound (hw : r.registry.WellKept) (hecho : r.dropsEcho m localId = false)
    (h : r.flaw? m localId peer = none) :
    ∃ target time s registry, r.targetOf m localId peer = .ok target ∧
      Instant.ofText m.timestamp = .ok time ∧ r.registry.Updates m target time s registry ∧
      r.classify (.message m) localId peer = (some (.sessionUpdated s m), { r with registry }) := by
  obtain ⟨target, time, s, registry, htarget, ht, hupdates, haccept⟩ := accept_of_sound hw h
  refine ⟨target, time, s, registry, htarget, ht, hupdates, ?_⟩
  simp only [classify, hecho, haccept, Bool.false_eq_true, if_false]

end Router

namespace Host

/-- What an event that the router processes comes to. -/
structure Classified (act : Operation → Host → StepResult × Host) (event : InboundEvent)
    (localId : String) (peer : Option String) (h : Host)
    (result : Except Fault (Option Notification) × Host) : Prop where
  /-- An own message that has come back is dropped, with a flaw or without. -/
  dropped : ∀ m, event = .message m → h.router.ignoreOwnEcho = true → localId ≠ "" →
    m.sender = localId → result = (.ok none, h)
  /-- A failure of the transport is passed on as it is. -/
  failed : ∀ message timestamp, event = .transportError message timestamp →
    result.1 = .ok (some (.errorRaised { kind := .transport, message, timestamp })) ∧
      result.2 = fanOut act (.errorRaised { kind := .transport, message, timestamp }) h
  /-- The first flaw of a message is reported, and the sessions are as before when the subscribers
  are told. -/
  refused : ∀ m, event = .message m →
    (h.router.ignoreOwnEcho = true → localId ≠ "" → m.sender ≠ localId) →
    (m.conversation = "" ∨ m.sender = "" ∨ (∃ f, Instant.ofText m.timestamp = .error f) ∨
      h.router.Unaddressed m localId peer) →
    ∃ reason, h.router.flaw? m localId peer = some (.malformedEvent reason) ∧
      result.1 = .ok (some (.errorRaised (.ofRefused m (.malformedEvent reason)))) ∧
      result.2 = fanOut act (.errorRaised (.ofRefused m (.malformedEvent reason))) h
  /-- Any other message updates the session of its conversation, and nothing else of the router,
  before the subscribers are told. -/
  updated : ∀ m, event = .message m →
    (h.router.ignoreOwnEcho = true → localId ≠ "" → m.sender ≠ localId) →
    ¬ (m.conversation = "" ∨ m.sender = "" ∨ (∃ f, Instant.ofText m.timestamp = .error f) ∨
      h.router.Unaddressed m localId peer) →
    ∃ target time s registry, h.router.targetOf m localId peer = .ok target ∧
      Instant.ofText m.timestamp = .ok time ∧
      h.router.registry.Updates m target time s registry ∧
      result.1 = .ok (some (.sessionUpdated s m)) ∧
      result.2 = fanOut act (.sessionUpdated s m) (h.withRouter { h.router with registry })

section

variable {act : Operation → Host → StepResult × Host} {event : InboundEvent} {localId : String}
  {peer : Option String} {h : Host} (hopen : h.router.closed = false)
  (hd : h.router.delivering = false)

include hopen hd

theorem route_of_none (hc : h.router.classify event localId peer = (none, h.router)) :
    route act event localId peer h = (.ok none, h) := by
  rw [route, if_neg (Bool.eq_false_iff.mp hopen), if_neg (Bool.eq_false_iff.mp hd), hc]
  rfl

theorem route_of_some {n : Notification} {router : Router}
    (hc : h.router.classify event localId peer = (some n, router)) :
    route act event localId peer h = (.ok (some n), fanOut act n (h.withRouter router)) := by
  rw [route, if_neg (Bool.eq_false_iff.mp hopen), if_neg (Bool.eq_false_iff.mp hd), hc]

/-- Outside of a delivery an open endpoint classifies an event and tells the subscribers. -/
theorem handle_of_open : handle act event h =
    match h.router.classify event h.endpoint.localId (h.endpoint.echoPeer event) with
    | (none, router) => (.ok none, h.withRouter router)
    | (some n, router) => (.ok (some n), fanOut act n (h.withRouter router)) := by
  have hroute : handle act event h =
      route act event h.endpoint.localId (h.endpoint.echoPeer event) h := by
    rw [handle, if_neg (Bool.eq_false_iff.mp hopen), if_neg (Bool.eq_false_iff.mp hd)]
  exact hroute.trans
    ((if_neg (Bool.eq_false_iff.mp hopen)).trans (if_neg (Bool.eq_false_iff.mp hd)))

/-- An open router that is not delivering classifies every event. -/
theorem classified_route (hw : h.router.registry.WellKept) :
    h.Classified act event localId peer (route act event localId peer h) where
  dropped := by
    rintro m rfl hignore hid hsender
    exact route_of_none hopen hd
      (Router.classify_of_echo (Router.dropsEcho_iff.mpr ⟨hignore, hid, hsender⟩))
  failed := by
    rintro message timestamp rfl
    rw [route_of_some hopen hd rfl]
    exact ⟨rfl, rfl⟩
  refused := by
    rintro m rfl hown hflaw
    have hecho := Router.dropsEcho_eq_false hown
    obtain ⟨f, hf⟩ := Option.isSome_iff_exists.mp (Router.flaw?_isSome_iff.mpr hflaw)
    obtain ⟨⟨reason, rfl⟩, -⟩ := Router.accept_of_flaw hf
    rw [route_of_some hopen hd (Router.classify_of_flaw hecho hf)]
    exact ⟨reason, hf, rfl, rfl⟩
  updated := by
    rintro m rfl hown hflaw
    have hecho := Router.dropsEcho_eq_false hown
    have hnone : h.router.flaw? m localId peer = none := by
      rwa [← Option.not_isSome_iff_eq_none, Router.flaw?_isSome_iff]
    obtain ⟨target, time, s, registry, htarget, ht, hupdates, hclassify⟩ :=
      Router.classify_of_sound hw hecho hnone
    rw [route_of_some hopen hd hclassify]
    exact ⟨target, time, s, registry, htarget, ht, hupdates, rfl, rfl⟩

theorem route_ok : ∃ n, (route act event localId peer h).1 = .ok n := by
  rw [route, if_neg (Bool.eq_false_iff.mp hopen), if_neg (Bool.eq_false_iff.mp hd)]
  split
  · exact ⟨_, rfl⟩
  · exact ⟨_, rfl⟩

end

end Host

end ChatRouting
