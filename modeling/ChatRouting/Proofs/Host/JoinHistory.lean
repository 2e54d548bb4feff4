import ChatRouting.Proofs.Endpoint.Requests
import ChatRouting.Proofs.Host.Serialized

/-!
# Joins are requested once

A history lists the joins that were requested, each with the id that the conversation had at the
moment of the request. Of the requests under one id, each was made when all before it had failed.
So no more than one of them has not failed at any time, and it is the one that stands in the
records: the conversation is not joined again while it stands, and is joined again as soon as it
has failed. Sessions have no part in this.

A request that the host answers with a fault has failed, and so has one that is let go without an
answer, or that is made after the host has gone.

## Main definitions

* `Endpoint.JoinHistory`: the joins that were requested on the way to an endpoint
* `Endpoint.JoinsAccounted`: what is recorded of a history
* `Endpoint.JoinsOnce`

## Main results

* `Endpoint.AsksOnce.joining`: what becomes of the joins when one request is made or none
* `Endpoint.JoinHistory.accounted`
* `Endpoint.JoinHistory.once`
-/

namespace ChatRouting

theorem Target.join_injective {target other : Target} (h : target.join = other.join) :
    target = other := by
  cases target with
  | direct _ =>
    cases other with
    | direct _ =>
      cases h
      rfl
    | group _ => cases h
  | group _ =>
    cases other with
    | direct _ => cases h
    | group _ =>
      cases h
      rfl

theorem Target.join_ne_message (other target : Target) (plaintext : String) :
    target.message plaintext ≠ other.join := by
  cases target <;> cases other <;> exact Request.noConfusion

/-- A conversation that has an id has one that is not empty. -/
theorem Conversation.ne_empty_of_idOf {localId id : String} {target : Target}
    (h : idOf localId target = .ok id) : id ≠ "" := by
  cases target with
  | direct peer =>
    simp only [idOf, directId, bind, Except.bind] at h
    repeat' split at h
    all_goals cases h
    -- What is left is a hash, of which sixteen digits are kept.
    intro hempty
    have hlength := congrArg String.length hempty
    simp [hashedId, idLength, Hex.length_encodeChars, Sha256.length_digest] at hlength
  | group group =>
    rintro rfl
    rw [← Endpoint.eq_of_groupId h] at h
    cases h

namespace Endpoint

/-- An endpoint, with the joins that were requested on the way to it: the id that the conversation
had then, and the number of the request. -/
inductive JoinHistory (start : Endpoint) : List (String × Nat) → Endpoint → Prop
  | start : JoinHistory start [] start
  /-- Something happens, and no request to join is new. -/
  | quiet {js : List (String × Nat)} {e e' : Endpoint} (h : JoinHistory start js e)
      (hmoves : e.Moves e') (hasks : e.AsksOnce e') (hquiet : ∀ (n : Nat) (target : Target),
        e'.transport.request? n = some target.join → e.transport.request? n = some target.join) :
      JoinHistory start js e'
  /-- A conversation is joined. -/
  | join {js : List (String × Nat)} {e e' : Endpoint} {target : Target} {id : String}
      (h : JoinHistory start js e) (hmoves : e.Moves e') (hasks : e.AsksOnce e')
      (hid : Conversation.idOf e.localId target = .ok id)
      (hmade : e'.transport.requests = e.transport.requests ++ [target.join]) :
      JoinHistory start (js ++ [(id, e.transport.requests.length)]) e'

variable {start e e' : Endpoint} {js : List (String × Nat)} {target : Target} {id : String}

/-! ### Requests to join -/

/-- A request joins a conversation that is known and has no join standing, which is then recorded,
or it joins none, and the records stay. -/
theorem Asks.joining {r : Request} {keys : KeyRing} {joins : List (String × Nat)}
    (h : e.Asks r keys joins) :
    ((∀ target : Target, r ≠ target.join) ∧ joins = e.joins) ∨
      ∃ target id, r = target.join ∧ e.knownConversation target = .ok id ∧
        e.standingJoin? id = none ∧
        joins = (id, e.transport.requests.length) :: e.joins.filter fun j => j.1 != id := by
  cases h with
  | join h hs => exact Or.inr ⟨_, _, rfl, h, hs, rfl⟩
  | learn h =>
    refine Or.inl ⟨fun target => ?_, rfl⟩
    cases h with
    | nickname | pair | friend | group => cases target <;> exact Request.noConfusion
  | send h =>
    obtain ⟨_, _, _, rfl⟩ := sendRequest_inv h
    exact Or.inl ⟨fun other => other.join_ne_message _ _, rfl⟩

/-- What becomes of the joins: no request to join is new and the records stay, or a conversation
that is known and has no join standing is joined. -/
theorem AsksOnce.joining (h : e.AsksOnce e') :
    ((∀ (n : Nat) (target : Target), e'.transport.request? n = some target.join →
        e.transport.request? n = some target.join) ∧ e'.joins = e.joins) ∨
      ∃ target id, e.knownConversation target = .ok id ∧ e.standingJoin? id = none ∧
        e'.transport.requests = e.transport.requests ++ [target.join] ∧
        e'.joins = (id, e.transport.requests.length) :: e.joins.filter fun j => j.1 != id := by
  rcases h with ⟨hsame, hjoins, -⟩ | ⟨r, hasks, hmade⟩
  · refine Or.inl ⟨fun n target hr => ?_, hjoins⟩
    rwa [Transport.request?_eq, hsame, ← Transport.request?_eq] at hr
  · rcases hasks.joining with ⟨hother, hjoins⟩ | ⟨target, id, rfl, hknown, hs, hjoins⟩
    · refine Or.inl ⟨fun n target hr => ?_, hjoins⟩
      rcases (Transport.request?_of_requests_eq hmade).mp hr with hold | ⟨-, hnew⟩
      · exact hold
      · exact absurd hnew.symm (hother target)
    · exact Or.inr ⟨target, id, hknown, hs, hmade, hjoins⟩

/-- If a request to join is new, it is not so that none is. -/
theorem not_quiet_of_made (hmade : e'.transport.requests = e.transport.requests ++ [target.join])
    (hquiet : ∀ (n : Nat) (target : Target),
      e'.transport.request? n = some target.join → e.transport.request? n = some target.join) :
    False := by
  have hnew := (Transport.request?_of_requests_eq hmade).mpr (Or.inr ⟨rfl, rfl⟩)
  exact Nat.lt_irrefl _ (Transport.lt_of_request? (hquiet _ _ hnew))

theorem AsksOnce.joins_of_quiet (h : e.AsksOnce e') (hquiet : ∀ (n : Nat) (target : Target),
    e'.transport.request? n = some target.join → e.transport.request? n = some target.join) :
    e'.joins = e.joins := by
  rcases h.joining with ⟨-, hjoins⟩ | ⟨_, _, _, _, hmade, _⟩
  · exact hjoins
  · exact (not_quiet_of_made hmade hquiet).elim

theorem AsksOnce.joins_of_made (h : e.AsksOnce e')
    (hmade : e'.transport.requests = e.transport.requests ++ [target.join]) :
    ∃ id, e.knownConversation target = .ok id ∧ e.standingJoin? id = none ∧
      e'.joins = (id, e.transport.requests.length) :: e.joins.filter fun j => j.1 != id := by
  rcases h.joining with ⟨hquiet, -⟩ | ⟨other, id, hknown, hs, hmade', hjoins⟩
  · exact (not_quiet_of_made hmade hquiet).elim
  · have hsame : target.join = other.join := by simpa using hmade.symm.trans hmade'
    rw [Target.join_injective hsame]
    exact ⟨id, hknown, hs, hjoins⟩

/-- A history goes on whatever happens. -/
theorem JoinHistory.exists_of_moves (h : start.Moves e) : ∃ js, start.JoinHistory js e := by
  induction h with
  | refl => exact ⟨[], .start⟩
  | tail _ hmove ih =>
    obtain ⟨js, hjs⟩ := ih
    rcases hmove.asks.joining with ⟨hquiet, -⟩ | ⟨target, id, hknown, -, hmade, -⟩
    · exact ⟨js, .quiet hjs (.single hmove) hmove.asks hquiet⟩
    · exact ⟨_, .join hjs (.single hmove) hmove.asks (idOf_of_knownConversation hknown) hmade⟩

/-! ### What is recorded of a history -/

/-- The join that stands for an id is the request of the history that has not failed. -/
structure JoinsAccounted (js : List (String × Nat)) (e : Endpoint) : Prop where
  increasing : js.Pairwise fun j j' => j.2 < j'.2
  requested_iff : ∀ n, (∃ id, (id, n) ∈ js) ↔
    ∃ target : Target, e.transport.request? n = some target.join
  standing_iff : ∀ id n, e.standingJoin? id = some n ↔
    (id, n) ∈ js ∧ e.transport.hasFailed n = false

section

variable (ha : e.JoinsAccounted js) (hx : e.transport.Extends e'.transport)

include ha hx

/-- Of the requests that still have not failed, those of the history are recorded. -/
theorem JoinsAccounted.lookup_iff {n : Nat} (hn : e'.transport.hasFailed n = false) :
    e.joins.lookup id = some n ↔ (id, n) ∈ js := by
  have hn' : e.transport.hasFailed n = false := hx.hasFailed_eq_false hn
  have hiff := ha.standing_iff id n
  rwa [standingJoin?_eq_some_iff, and_iff_left hn', and_iff_left hn'] at hiff

theorem JoinsAccounted.quiet (hjoins : e'.joins = e.joins)
    (hquiet : ∀ (n : Nat) (target : Target),
      e'.transport.request? n = some target.join → e.transport.request? n = some target.join) :
    e'.JoinsAccounted js where
  increasing := ha.increasing
  requested_iff n := by
    rw [ha.requested_iff]
    exact ⟨fun ⟨target, hr⟩ => ⟨target, hx.request? hr⟩,
      fun ⟨target, hr⟩ => ⟨target, hquiet n target hr⟩⟩
  standing_iff id n := by
    rw [standingJoin?_eq_some_iff, hjoins]
    exact and_congr_left (ha.lookup_iff hx)

theorem JoinsAccounted.join (hs : e.standingJoin? id = none)
    (hmade : e'.transport.requests = e.transport.requests ++ [target.join])
    (hjoins : e'.joins =
      (id, e.transport.requests.length) :: e.joins.filter fun j => j.1 != id) :
    e'.JoinsAccounted (js ++ [(id, e.transport.requests.length)]) where
  increasing := by
    refine List.pairwise_append.mpr ⟨ha.increasing, List.pairwise_singleton _ _, ?_⟩
    rintro ⟨other, n⟩ hmem j hj
    obtain ⟨_, hr⟩ := (ha.requested_iff n).mp ⟨other, hmem⟩
    rw [List.mem_singleton.mp hj]
    exact Transport.lt_of_request? hr
  requested_iff n := by
    constructor
    · rintro ⟨other, hmem⟩
      rcases List.mem_append.mp hmem with hold | hnew
      · obtain ⟨target', hr⟩ := (ha.requested_iff n).mp ⟨other, hold⟩
        exact ⟨target', hx.request? hr⟩
      · cases List.mem_singleton.mp hnew
        exact ⟨target, (Transport.request?_of_requests_eq hmade).mpr (Or.inr ⟨rfl, rfl⟩)⟩
    · rintro ⟨target', hr⟩
      rcases (Transport.request?_of_requests_eq hmade).mp hr with hold | ⟨rfl, -⟩
      · obtain ⟨other, hmem⟩ := (ha.requested_iff n).mpr ⟨target', hold⟩
        exact ⟨other, List.mem_append_left _ hmem⟩
      · exact ⟨id, List.mem_append_right _ (List.mem_singleton.mpr rfl)⟩
  standing_iff other n := by
    rw [standingJoin?_eq_some_iff, hjoins, Table.lookup_cons, Table.lookup_without,
      List.mem_append, List.mem_singleton, Prod.mk.injEq]
    refine and_congr_left fun hn => ?_
    have hbefore : e.joins.lookup other = some n ↔ (other, n) ∈ js := ha.lookup_iff hx hn
    by_cases hother : other = id
    · -- Nothing stood under this id, so that its requests before have failed.
      subst hother
      have hfailed : (other, n) ∉ js := fun hmem => by
        have hn' := hx.hasFailed_eq_false hn
        have hstands := (ha.standing_iff other n).mpr ⟨hmem, hn'⟩
        rw [hs] at hstands
        cases hstands
      simp [hfailed, eq_comm]
    · simp [hother, hbefore]

end

section

variable (hjoins : start.joins = []) (hrequests : start.transport.requests = [])

include hjoins hrequests

/-- What is recorded accounts for the history. -/
theorem JoinHistory.accounted (h : start.JoinHistory js e) : e.JoinsAccounted js := by
  induction h with
  | start =>
    refine ⟨List.Pairwise.nil, fun n => ?_, fun id n => ?_⟩
    · simp [Transport.request?_eq, hrequests]
    · simp [standingJoin?, hjoins]
  | quiet _ hmoves hasks hquiet ih =>
    exact ih.quiet (Moves.extends hmoves) (hasks.joins_of_quiet hquiet) hquiet
  | join _ hmoves hasks hid hmade ih =>
    obtain ⟨id, hknown, hs, hrecorded⟩ := hasks.joins_of_made hmade
    cases hid.symm.trans (idOf_of_knownConversation hknown)
    exact ih.join (Moves.extends hmoves) hs hmade hrecorded

/-- Whatever requests a join next, those that were requested under its id have failed. -/
theorem JoinHistory.failed_of_made (h : start.JoinHistory js e) (hasks : e.AsksOnce e')
    (hmade : e'.transport.requests = e.transport.requests ++ [target.join]) :
    ∃ id, e.knownConversation target = .ok id ∧
      ∀ n, (id, n) ∈ js → e.transport.hasFailed n = true := by
  obtain ⟨id, hknown, hs, -⟩ := hasks.joins_of_made hmade
  refine ⟨id, hknown, fun n hmem => ?_⟩
  by_contra hn
  have hstands := ((h.accounted hjoins hrequests).standing_iff id n).mpr
    ⟨hmem, Bool.eq_false_iff.mpr hn⟩
  rw [hs] at hstands
  cases hstands

end

/-! ### Opening a conversation -/

/-- A conversation that may be joined is opened: its session is there, and then its join. -/
theorem openConversation_eq (hknown : e.knownConversation target = .ok id) :
    ∃ s name, e.openConversation target =
      (.ok (s, ((e.ensureSession id name target).2.joinOnce id target.join).1),
        ((e.ensureSession id name target).2.joinOnce id target.join).2) := by
  have hne : id ≠ "" := Conversation.ne_empty_of_idOf (idOf_of_knownConversation hknown)
  obtain ⟨s, hs⟩ : ∃ s, (e.router.registry.ensure id (Session.defaultName id target) target).1 =
      .ok s := by
    cases hf : e.router.registry.find? id with
    | some s => exact ⟨s, by rw [Registry.ensure_of_present hne hf]⟩
    | none => exact ⟨_, by rw [Registry.ensure_of_absent hne hf]⟩
  refine ⟨s, Session.defaultName id target, ?_⟩
  rw [openConversation_of_known hknown, openSession]
  have hensure : e.ensureSession id (Session.defaultName id target) target =
      (.ok s, (e.ensureSession id (Session.defaultName id target) target).2) :=
    Prod.ext hs rfl
  rw [hensure]

/-- While a join stands, its receipt is what opening the conversation gives, and nothing is
requested. -/
theorem JoinHistory.open_of_standing {n : Nat} (h : start.JoinHistory js e)
    (hknown : e.knownConversation target = .ok id) (hs : e.standingJoin? id = some n) :
    ∃ s e', e.openConversation target = (.ok (s, n), e') ∧ e'.transport = e.transport ∧
      start.JoinHistory js e' := by
  obtain ⟨s, name, hopen⟩ := openConversation_eq hknown
  have hensure := Change.ensure (e := e) id name target
  have hensured : start.JoinHistory js (e.ensureSession id name target).2 :=
    h.quiet (.single (.change hensure)) hensure.asks fun _ _ hr => hr
  have hs' : (e.ensureSession id name target).2.standingJoin? id = some n := hs
  rw [joinOnce_eq, hs'] at hopen
  exact ⟨s, _, hopen, rfl, hensured⟩

/-- If no join stands, opening the conversation requests one. -/
theorem JoinHistory.open_of_none (h : start.JoinHistory js e)
    (hknown : e.knownConversation target = .ok id) (hs : e.standingJoin? id = none) :
    ∃ s e', e.openConversation target = (.ok (s, e.transport.requests.length), e') ∧
      e'.transport.requests = e.transport.requests ++ [target.join] ∧
      start.JoinHistory (js ++ [(id, e.transport.requests.length)]) e' := by
  obtain ⟨s, name, hopen⟩ := openConversation_eq hknown
  have hensure := Change.ensure (e := e) id name target
  have hensured : start.JoinHistory js (e.ensureSession id name target).2 :=
    h.quiet (.single (.change hensure)) hensure.asks fun _ _ hr => hr
  have hknown' : (e.ensureSession id name target).2.knownConversation target = .ok id := hknown
  have hjoined := Change.join hknown'
  have hs' : (e.ensureSession id name target).2.standingJoin? id = none := hs
  rw [joinOnce_eq, hs'] at hopen hjoined
  rw [← e.transport.number_issue target.join]
  have hmade := e.transport.requests_issue target.join
  refine ⟨s, _, hopen, hmade, ?_⟩
  rw [Transport.number_issue]
  exact hensured.join (.single (.change hjoined)) hjoined.asks (idOf_of_knownConversation hknown) hmade

/-- What is so of the joins of a history. -/
structure JoinsOnce (start : Endpoint) (js : List (String × Nat)) (e : Endpoint) : Prop
    extends JoinsAccounted js e where
  /-- Of the requests under one id no more than one has not failed. -/
  single : ∀ id n m, (id, n) ∈ js → (id, m) ∈ js → e.transport.hasFailed n = false →
    e.transport.hasFailed m = false → n = m
  /-- Whatever requests a join next, those that were requested under its id have failed. -/
  next : ∀ e' target, e.AsksOnce e' →
    e'.transport.requests = e.transport.requests ++ [target.join] →
    ∃ id, e.knownConversation target = .ok id ∧
      ∀ n, (id, n) ∈ js → e.transport.hasFailed n = true
  /-- What may not be joined is refused, and nothing changes. -/
  refused : ∀ target f, e.knownConversation target = .error f →
    e.openConversation target = (.error f, e)
  /-- The receipt of a join that stands is given again, and nothing is requested. -/
  given : ∀ target id n, e.knownConversation target = .ok id → e.standingJoin? id = some n →
    ∃ s e', e.openConversation target = (.ok (s, n), e') ∧ e'.transport = e.transport ∧
      start.JoinHistory js e'
  /-- If none stands, one join is requested, and its receipt is given. -/
  made : ∀ target id, e.knownConversation target = .ok id → e.standingJoin? id = none →
    ∃ s e', e.openConversation target = (.ok (s, e.transport.requests.length), e') ∧
      e'.transport.requests = e.transport.requests ++ [target.join] ∧
      start.JoinHistory (js ++ [(id, e.transport.requests.length)]) e'
  /-- A session may be forgotten, and the join stands. -/
  removed : ∀ id, start.JoinHistory js (e.removeSession id).2 ∧
    (e.removeSession id).2.transport = e.transport ∧
    ∀ other, (e.removeSession id).2.standingJoin? other = e.standingJoin? other

theorem JoinHistory.once (h : start.JoinHistory js e) (hjoins : start.joins = [])
    (hrequests : start.transport.requests = []) : start.JoinsOnce js e := by
  have haccounted := h.accounted hjoins hrequests
  refine { haccounted with
    single := ?_
    next := fun _ target hasks hmade => h.failed_of_made hjoins hrequests hasks hmade
    refused := fun target f hf => Endpoint.openConversation_of_unknown hf
    given := fun target id n hknown hs => h.open_of_standing hknown hs
    made := fun target id hknown hs => h.open_of_none hknown hs
    removed := fun id => ?_ }
  · intro id n m hn hm hn' hm'
    have hstands := (haccounted.standing_iff id n).mpr ⟨hn, hn'⟩
    exact Option.some.inj (hstands.symm.trans ((haccounted.standing_iff id m).mpr ⟨hm, hm'⟩))
  · have hremove := Change.remove (e := e) id
    exact ⟨h.quiet (.single (.change hremove)) hremove.asks fun _ _ hr => hr, rfl, fun _ => rfl⟩

end Endpoint

end ChatRouting
