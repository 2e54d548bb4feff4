import ChatRouting.Router
import ChatRouting.Transport
import Mathlib.Data.List.Basic
import Mathlib.Tactic.SplitIfs

/-!
# Redaction

Keys, nicknames and the texts that are sent are secrets. To *redact* something is to put a mark in
place of every secret in it that is not empty. A subscriber's callback is data, so there can be
secrets in a subscriber as well: in the operations that its callback is going to perform.

The router never looks at a secret. What it does, once it is redacted itself, is the redaction of
what it would have done.

## Main definitions

* `Text.hidden`, `Bytes.hidden`: the marks in place of a text and of a key
* `Request.redact`, `Operation.redact`, `Router.redact`

## Main results

* `Operation.backlog_redact`: the operations of callbacks still add as many events
* `Router.subscribe_redact` and so on: the router looks at no secret
-/

namespace ChatRouting

/-- A mark in place of a text that is not empty. -/
def Text.hidden (s : String) : String :=
  if s = "" then "" else "x"

/-- A mark in place of a key that is not empty. -/
def Bytes.hidden (b : Bytes) : Bytes :=
  if b = [] then [] else [0]

theorem Text.hidden_eq_empty_iff {s : String} : Text.hidden s = "" ↔ s = "" := by
  rw [hidden]
  split_ifs with h
  · simp [h]
  · simp [h]

theorem Text.hidden_congr {s s' : String} (h : s = "" ↔ s' = "") : hidden s = hidden s' := by
  rw [hidden, hidden, if_congr h rfl rfl]

theorem Bytes.hidden_eq_nil_iff {b : Bytes} : b.hidden = [] ↔ b = [] := by
  rw [hidden]
  split_ifs with h
  · simp [h]
  · simp [h]

/-- The mark is not blank at its ends. -/
theorem Text.trim_hidden (s : String) : Text.trim (Text.hidden s) = Text.hidden s := by
  rw [hidden]
  split_ifs
  · decide +kernel
  · decide +kernel

theorem requireNonempty_hidden (s what : String) :
    requireNonempty (Text.hidden s) what = requireNonempty s what := by
  rw [requireNonempty, requireNonempty, if_congr Text.hidden_eq_empty_iff rfl rfl]

/-! ### Identities and keys -/

def Identity.redact (i : Identity) : Identity :=
  { i with nickname := Text.hidden i.nickname }

def KeyPair.redact (p : KeyPair) : KeyPair :=
  { privateKey := p.privateKey.hidden, publicKey := p.publicKey.hidden }

def FriendKey.redact (k : FriendKey) : FriendKey :=
  { k with publicKey := k.publicKey.hidden }

def GroupKey.redact (k : GroupKey) : GroupKey :=
  { k with symmetricKey := k.symmetricKey.hidden }

/-! ### Requests -/

def Request.redact : Request → Request
  | identitySet nickname => identitySet (Text.hidden nickname)
  | keyPairSet pair => keyPairSet pair.redact
  | friendKeyAdded key => friendKeyAdded key.redact
  | groupKeyAdded key => groupKeyAdded key.redact
  | directJoin peer => directJoin peer
  | groupJoin group => groupJoin group
  | directSend peer plaintext => directSend peer (Text.hidden plaintext)
  | groupSend group plaintext => groupSend group (Text.hidden plaintext)

theorem Request.name_redact (r : Request) : r.redact.name = r.name := by
  cases r <;> rfl

theorem Request.subject?_redact (r : Request) : r.redact.subject? = r.subject? := by
  cases r <;> rfl

def Issue.redact (i : Issue) : Issue :=
  { i with request := i.request.redact }

/-! ### Lists -/

section

variable {α β : Type}

/-- An item changes in the same way in a list of marked items. -/
theorem modify_map {f : α → β} {g : β → β} {k : α → α} (h : ∀ a, g (f a) = f (k a)) (l : List α)
    (n : Nat) : (l.map f).modify n g = (l.modify n k).map f := by
  induction l generalizing n with
  | nil => cases n <;> rfl
  | cons a l ih =>
    cases n with
    | zero => exact congrArg (· :: l.map f) (h a)
    | succ n => exact congrArg (f a :: ·) (ih n)

end

namespace Repeated

variable {α β : Type}

/-- Another item as many times in a row. -/
def map (f : α → β) (r : Repeated α) : Repeated β :=
  { item := f r.item, times := r.times }

/-- Reading item by item goes on in the same way when every item is replaced. -/
theorem next?_map (f : α → β) (rs : List (Repeated α)) :
    next? (rs.map (map f)) = (next? rs).map fun next => (f next.1, next.2.map (map f)) := by
  induction rs with
  | nil => rfl
  | cons r rest ih =>
    obtain ⟨item, times⟩ := r
    cases times with
    | zero => exact ih
    | succ n => rfl

end Repeated

/-! ### Operations -/

namespace Operation

mutual
/-- The operation without its secrets, and without those of the callbacks that it subscribes. -/
def redact : Operation → Operation
  | setNickname nickname => setNickname (Text.hidden (Text.trim nickname))
  | setKeyPair pair => setKeyPair pair.redact
  | addFriend key => addFriend key.redact
  | addGroup key => addGroup key.redact
  | send target plaintext => send target (Text.hidden plaintext)
  | sendToSession id plaintext => sendToSession id (Text.hidden plaintext)
  | subscribe name onSession onError =>
    subscribe name (redactPlans onSession) (redactPlans onError)
  | op => op

/-- The operations of one delivery without their secrets. -/
def redactPlan : List Operation → List Operation
  | [] => []
  | op :: rest => op.redact :: redactPlan rest

/-- The operations of some deliveries in a row without their secrets. -/
def redactTurns : Repeated (List Operation) → Repeated (List Operation)
  | { item, times } => { item := redactPlan item, times }

/-- The operations of all deliveries without their secrets. -/
def redactPlans : List (Repeated (List Operation)) → List (Repeated (List Operation))
  | [] => []
  | turns :: rest => redactTurns turns :: redactPlans rest
end

theorem redactPlans_eq_map (plans : List (Repeated (List Operation))) :
    redactPlans plans = plans.map (Repeated.map redactPlan) := by
  induction plans with
  | nil => rfl
  | cons turns rest ih =>
    rw [redactPlans, redactTurns.eq_def, ih]
    rfl

theorem needsEndpoint_redact (op : Operation) : op.redact.needsEndpoint = op.needsEndpoint := by
  cases op <;> rfl

mutual
/-- An operation adds as many events without its secrets. -/
theorem backlog_redact (op : Operation) : op.redact.backlog = op.backlog := by
  cases op with
  | subscribe name onSession onError =>
    rw [redact, backlog, backlog, plansBacklog_redact onSession, plansBacklog_redact onError]
  | _ => rfl

theorem planBacklog_redact (plan : List Operation) :
    planBacklog (redactPlan plan) = planBacklog plan := by
  cases plan with
  | nil => rfl
  | cons op rest =>
    rw [redactPlan, planBacklog, planBacklog, backlog_redact op, planBacklog_redact rest]

theorem turnsBacklog_redact (turns : Repeated (List Operation)) :
    turnsBacklog (redactTurns turns) = turnsBacklog turns := by
  cases turns with
  | mk item times => rw [redactTurns, turnsBacklog, turnsBacklog, planBacklog_redact item]

theorem plansBacklog_redact (plans : List (Repeated (List Operation))) :
    plansBacklog (redactPlans plans) = plansBacklog plans := by
  cases plans with
  | nil => rfl
  | cons turns rest =>
    rw [redactPlans, plansBacklog, plansBacklog, turnsBacklog_redact turns,
      plansBacklog_redact rest]
end

end Operation

/-! ### Subscribers -/

def Sink.redact : Sink → Sink
  | callbacks onSession onError =>
    callbacks (Operation.redactPlans onSession) (Operation.redactPlans onError)
  | channel waiting attached => channel waiting attached

def Subscriber.redact (s : Subscriber) : Subscriber :=
  { s with sink := s.sink.redact }

namespace Router

def redact (r : Router) : Router :=
  { r with subscribers := r.subscribers.map Subscriber.redact }

variable (r : Router)

theorem subscribe_redact (sink : Sink) :
    r.redact.subscribe sink.redact = ((r.subscribe sink).1, (r.subscribe sink).2.redact) := by
  rw [subscribe, subscribe, redact, redact, List.length_map, List.map_append]
  rfl

theorem modify_redact (n : Nat) {f g : Subscriber → Subscriber}
    (hf : ∀ s, g s.redact = (f s).redact) : r.redact.modify n g = (r.modify n f).redact := by
  rw [modify, modify, redact, redact, modify_map hf]

theorem getElem?_redact (n : Nat) :
    r.redact.subscribers[n]? = r.subscribers[n]?.map Subscriber.redact :=
  List.getElem?_map

theorem isActive_redact (n : Nat) : r.redact.isActive n = r.isActive n := by
  rw [isActive, isActive, getElem?_redact, Option.any_map]
  rfl

theorem deactivate_redact (n : Nat) : r.redact.deactivate n = (r.deactivate n).redact := by
  have hmodify := r.modify_redact n (f := fun s => { s with active := false })
    (g := fun s => { s with active := false }) fun _ => rfl
  rw [deactivate, deactivate, hmodify]
  rfl

theorem dropReceiver_redact (n : Nat) : r.redact.dropReceiver n = (r.dropReceiver n).redact := by
  refine r.modify_redact n fun s => ?_
  obtain ⟨active, sink⟩ := s
  cases sink with
  | callbacks | channel => rfl

theorem receive_redact (n : Nat) :
    r.redact.receive n = ((r.receive n).1, (r.receive n).2.redact) := by
  rw [receive, receive, getElem?_redact]
  cases r.subscribers[n]? with
  | none => rfl
  | some s =>
    obtain ⟨active, sink⟩ := s
    cases sink with
    | callbacks => rfl
    | channel waiting attached =>
      cases attached with
      | false => rfl
      | true => exact Prod.ext rfl (r.modify_redact n fun _ => rfl)

theorem close_redact : r.redact.close = r.close.redact := by
  have hall (ns : List Nat) (r : Router) :
      ns.foldl deactivate r.redact = (ns.foldl deactivate r).redact := by
    induction ns generalizing r with
    | nil => rfl
    | cons n ns ih => rw [List.foldl_cons, List.foldl_cons, deactivate_redact, ih]
  have hlisted := hall r.listed r
  rw [close, close]
  exact congrArg (fun r : Router => { r with closed := true }) hlisted

theorem accept_redact (m : Message) (localId : String) (peer : Option String) :
    r.redact.accept m localId peer =
      ((r.accept m localId peer).1, (r.accept m localId peer).2.redact) := by
  have htarget : r.redact.targetOf m localId peer = r.targetOf m localId peer := rfl
  rw [accept, accept, htarget]
  cases m.check with
  | error f => rfl
  | ok _ =>
    cases r.targetOf m localId peer with
    | error f => rfl
    | ok target => rfl

/-- An event is judged by the sessions alone. -/
theorem classify_redact (event : InboundEvent) (localId : String) (peer : Option String) :
    r.redact.classify event localId peer =
      ((r.classify event localId peer).1, (r.classify event localId peer).2.redact) := by
  cases event with
  | transportError message timestamp => rfl
  | message m =>
    have hecho : r.redact.dropsEcho m localId = r.dropsEcho m localId := rfl
    unfold classify
    simp only [hecho, accept_redact]
    split_ifs
    · rfl
    · obtain ⟨_ | s, r'⟩ := r.accept m localId peer
      · rfl
      · rfl

end Router

end ChatRouting
