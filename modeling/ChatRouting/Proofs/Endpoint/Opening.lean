import ChatRouting.Proofs.Endpoint.Joins

/-!
# Opening a conversation and sending to it

To open a conversation is to have its session and its join request, each of which is made unless
there is one. A text goes to whom a conversation is known with. What is checked before is the same
for both: a key is known, and a conversation with the local user has no id.

## Main definitions

* `Target.message`: the request that sends a text
* `Endpoint.openConversation`: the conversation with a friend or a group is opened

## Main results

* `Endpoint.openConversation_of_known`, `Endpoint.openConversation_ok`: what is opened
* `Endpoint.sendRequest_ok`, `Endpoint.sendRequest_inv`: what is sent
-/

namespace ChatRouting

/-- The request that sends a text to a target. -/
def Target.message (plaintext : String) : Target → Request
  | direct peer => .directSend peer plaintext
  | group id => .groupSend id plaintext

namespace Endpoint

/-- The conversation with a friend or a group is opened and joined. -/
def openConversation (e : Endpoint) : Target → Except Fault (Session × Nat) × Endpoint
  | .direct peer => e.startDirect peer
  | .group group => e.joinGroup group

variable {e e' : Endpoint} {id name plaintext : String} {target : Target} {s : Session} {n : Nat}

/-! ### Opening -/

/-- A conversation that may be joined is opened under its id. -/
theorem openConversation_of_known (h : e.knownConversation target = .ok id) :
    e.openConversation target =
      e.openSession id (Session.defaultName id target) target target.join := by
  cases target with
  | direct peer =>
    have hid : e.friendConversation peer = .ok id := h
    rw [openConversation, startDirect, hid]
    rfl
  | group group =>
    have hid : e.groupConversation group = .ok id := h
    rw [openConversation, joinGroup, hid, eq_of_groupId (groupConversation_ok h).2]
    rfl

/-- What may not be joined is refused, and nothing changes. -/
theorem openConversation_of_unknown {f : Fault} (h : e.knownConversation target = .error f) :
    e.openConversation target = (.error f, e) := by
  cases target with
  | direct peer =>
    have hid : e.friendConversation peer = .error f := h
    rw [openConversation, startDirect, hid]
  | group group =>
    have hid : e.groupConversation group = .error f := h
    rw [openConversation, joinGroup, hid]

theorem openConversation_ok (h : e.openConversation target = (.ok (s, n), e')) :
    ∃ id name, e.knownConversation target = .ok id ∧
      e.openSession id name target target.join = (.ok (s, n), e') := by
  cases hk : e.knownConversation target with
  | error f =>
    rw [openConversation_of_unknown hk] at h
    cases h
  | ok id => exact ⟨id, _, rfl, (openConversation_of_known hk).symm.trans h⟩

/-! ### The session and the receipt -/

/-- A conversation that is opened has its session, and its join request is recorded. -/
theorem openSession_ok {r : Request} (h : e.openSession id name target r = (.ok (s, n), e')) :
    (e.router.registry.ensure id name target).1 = .ok s ∧
      (e.ensureSession id name target).2.joinOnce id r = (n, e') := by
  rw [openSession] at h
  split at h
  · cases h
  · next s' e₁ hs =>
    cases h
    rw [hs]
    exact ⟨(Prod.ext_iff.mp hs).1, rfl⟩

/-- Of the router only the sessions change when a conversation is opened. -/
theorem openConversation_router (e : Endpoint) (target : Target) :
    ∃ registry, (e.openConversation target).2.router = { e.router with registry } := by
  rcases hknown : e.knownConversation target with f | id
  · rw [openConversation_of_unknown hknown]
    exact ⟨e.router.registry, rfl⟩
  · rw [openConversation_of_known hknown, openSession, ensureSession]
    rcases e.router.registry.ensure id (Session.defaultName id target) target with ⟨_ | s, registry⟩
    · exact ⟨registry, rfl⟩
    · exact ⟨registry, joinOnce_router id target.join⟩

/-- The session of an id is the one that was there, or a new one with the target. -/
theorem ensure_ok {r : Registry} (hw : r.WellKept) (h : (r.ensure id name target).1 = .ok s) :
    s.id = id ∧ (r.ensure id name target).2.find? id = some s ∧
      (∀ s₀, r.find? id = some s₀ → s = s₀) ∧ (r.find? id = none → s.target = target) := by
  by_cases hid : id = ""
  · subst hid
    cases h
  · cases hf : r.find? id with
    | some s₀ =>
      rw [Registry.ensure_of_present hid hf] at h ⊢
      cases h
      exact ⟨hw.id_of_find? hf, hf, fun _ h => by cases h; rfl, fun h => by cases h⟩
    | none =>
      rw [Registry.ensure_of_absent hid hf] at h ⊢
      cases h
      refine ⟨rfl, ?_, ?_, fun _ => rfl⟩
      · rw [Registry.find?_insert, if_pos rfl]
      · intro s₀ h
        cases h

theorem standingJoin?_eq_some_iff : e.standingJoin? id = some n ↔
    e.joins.lookup id = some n ∧ e.transport.hasFailed n = false := by
  rw [standingJoin?, Option.filter_eq_some_iff, Bool.not_eq_true']

theorem standingJoin?_mem (h : e.standingJoin? id = some n) :
    (id, n) ∈ e.joins ∧ e.transport.hasFailed n = false := by
  obtain ⟨hlookup, hn⟩ := standingJoin?_eq_some_iff.mp h
  exact ⟨Table.mem_of_lookup hlookup, hn⟩

/-- The receipt is that of the join that stands, or of the request that is made. -/
theorem joinOnce_request {r : Request} (h : e.joinOnce id r = (n, e')) :
    e'.keys = e.keys ∧ e'.router = e.router ∧
      ((e.standingJoin? id = some n ∧ e'.transport = e.transport) ∨
        (e.standingJoin? id = none ∧ e'.transport.request? n = some r)) := by
  rw [joinOnce_eq] at h
  cases hs : e.standingJoin? id with
  | some m =>
    rw [hs] at h
    cases h
    exact ⟨rfl, rfl, Or.inl ⟨rfl, rfl⟩⟩
  | none =>
    rw [hs] at h
    cases h
    exact ⟨rfl, rfl, Or.inr ⟨rfl, e.transport.request?_issue r⟩⟩

/-! ### Sending -/

/-- What is sent is a text that is not empty, to a target with which a conversation is known and
to whom it is addressed. The local key pair is set if that is a friend. -/
theorem sendRequest_inv {r : Request} (h : e.sendRequest target plaintext = .ok r) :
    plaintext ≠ "" ∧ (∃ id, e.knownConversation target = .ok id) ∧
      (target.isGroup = false → e.keys.keyPair.isSome) ∧ r = target.message plaintext := by
  by_cases htext : plaintext = ""
  · subst htext
    cases h
  · simp only [sendRequest, Registry.requireNonempty_of_ne htext, bind, Except.bind] at h
    cases target with
    | direct peer =>
      by_cases hpeer : peer = ""
      · subst hpeer
        cases h
      · simp only [Registry.requireNonempty_of_ne hpeer] at h
        split_ifs at h with hfriend hpair
        split at h
        · cases h
        · next id hid =>
          cases h
          have hknown : e.friendConversation peer = .ok id := by
            simp only [friendConversation, Registry.requireNonempty_of_ne hpeer, bind, Except.bind]
            rw [if_pos (by simpa using hfriend), hid]
          have hset : e.keys.keyPair.isSome := by simpa [Option.isSome_iff_ne_none] using hpair
          exact ⟨htext, ⟨id, hknown⟩, fun _ => hset, rfl⟩
    | group group =>
      simp only at h
      split at h
      · cases h
      · next id hid =>
        cases h
        exact ⟨htext, ⟨id, hid⟩, fun hgroup => (by cases hgroup), rfl⟩

/-- A text may be sent to whom a conversation is known with. -/
theorem sendRequest_ok (h : e.knownConversation target = .ok id) (htext : plaintext ≠ "")
    (hkeys : target.isGroup = false → e.keys.keyPair.isSome) :
    e.sendRequest target plaintext = .ok (target.message plaintext) := by
  simp only [sendRequest, Registry.requireNonempty_of_ne htext, bind, Except.bind]
  cases target with
  | direct peer =>
    obtain ⟨hpeer, hfriend, hid⟩ := friendConversation_ok h
    have hpair : e.keys.keyPair.isNone = false := by
      rw [← Option.not_isSome, hkeys rfl]
      rfl
    simp only [Registry.requireNonempty_of_ne hpeer, hfriend, hpair, hid, Bool.not_true,
      Bool.false_eq_true, if_false]
    rfl
  | group group =>
    have hid : e.groupConversation group = .ok id := h
    simp only [hid]
    rfl

theorem send_requests (e : Endpoint) (target : Target) (plaintext : String) :
    (e.send target plaintext).2.transport.requests = e.transport.requests ∨
      (e.send target plaintext).2.transport.requests =
        e.transport.requests ++ [target.message plaintext] := by
  rw [send]
  split
  · exact Or.inl rfl
  · next r hr =>
    obtain ⟨_, _, _, rfl⟩ := sendRequest_inv hr
    exact Or.inr (e.transport.requests_issue _)

theorem sendToSession_of_session? (hs : e.session? id = some s) (hid : id ≠ "")
    (plaintext : String) : e.sendToSession id plaintext = e.send s.target plaintext := by
  have htarget : e.sessionTarget id = .ok s.target := by
    simp only [sessionTarget, Registry.requireNonempty_of_ne hid, bind, Except.bind, hs]
    rfl
  rw [sendToSession, htarget]

theorem send_ok {r : Request} (h : e.sendRequest target plaintext = .ok r) :
    ∃ m, (e.send target plaintext).1 = .ok m ∧
      (e.send target plaintext).2.transport.requests = e.transport.requests ++ [r] := by
  rw [send, h]
  exact ⟨_, rfl, e.transport.requests_issue r⟩

end Endpoint

end ChatRouting
