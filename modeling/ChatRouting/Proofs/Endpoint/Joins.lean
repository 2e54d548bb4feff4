import ChatRouting.Proofs.Endpoint.Change
import ChatRouting.Proofs.KeyRing
import ChatRouting.Proofs.Session.Run
import ChatRouting.Proofs.Transport

/-!
# What is recorded of joins and sessions

The joins of an endpoint are *sound* when every recorded receipt whose request has not failed is
that of a join request, for a conversation that has the id under which the receipt is recorded.
The ids of direct conversations depend on the local id, which is why the local id may change only
when all recorded joins have failed. Whatever happens to an endpoint keeps its joins sound and its
sessions well kept, and only adds to the requests that were made.

## Main definitions

* `Endpoint.JoinsSound`

## Main results

* `Endpoint.Moves.joinsSound`, `Endpoint.Moves.wellKept`, `Endpoint.Moves.extends`
-/

namespace ChatRouting

namespace Endpoint

/-- A recorded join that has not failed was requested for a conversation that has the id under
which it is recorded. -/
def JoinsSound (e : Endpoint) : Prop :=
  ∀ id n, (id, n) ∈ e.joins → e.transport.hasFailed n = false →
    ∃ target : Target, e.transport.request? n = some target.join ∧
      Conversation.idOf e.localId target = .ok id

variable {e e' : Endpoint}

/-! ### Frames -/

theorem learns_id {k k' : KeyRing} {r : Request} (h : k.Learns r k') :
    k'.identity.id = k.identity.id := by
  cases h with
  | nickname h =>
    obtain ⟨rfl, rfl⟩ := KeyRing.setNickname_ok h
    rfl
  | pair h => rw [KeyRing.setKeyPair_ok h]
  | friend h => rw [KeyRing.addFriend_ok h]
  | group h => rw [KeyRing.addGroup_ok h]

theorem friendConversation_ok {peer id : String} (h : e.friendConversation peer = .ok id) :
    peer ≠ "" ∧ e.keys.hasFriend peer = true ∧ Conversation.directId e.localId peer = .ok id := by
  by_cases hp : peer = ""
  · subst hp
    cases h
  · simp only [friendConversation, Registry.requireNonempty_of_ne hp, bind, Except.bind] at h
    split_ifs at h with hf
    exact ⟨hp, hf, h⟩

theorem groupConversation_ok {group id : String} (h : e.groupConversation group = .ok id) :
    e.keys.hasGroup group = true ∧ Conversation.groupId group = .ok id := by
  simp only [groupConversation, bind, Except.bind] at h
  split at h
  · cases h
  · next hg =>
    split_ifs at h with hk
    cases h
    exact ⟨hk, hg⟩

/-- Nobody has a conversation with themselves. -/
theorem ne_of_directId {localId peer id : String}
    (h : Conversation.directId localId peer = .ok id) : peer ≠ localId := by
  rintro rfl
  by_cases hpeer : peer = ""
  · subst hpeer
    cases h
  · simp only [Conversation.directId, Registry.requireNonempty_of_ne hpeer, bind, Except.bind,
      if_true] at h
    cases h

theorem eq_of_groupId {group id : String} (h : Conversation.groupId group = .ok id) :
    id = group := by
  by_cases hg : group = ""
  · subst hg
    cases h
  · simp only [Conversation.groupId, Registry.requireNonempty_of_ne hg, bind, Except.bind] at h
    cases h
    rfl

theorem idOf_of_knownConversation {target : Target} {id : String}
    (h : e.knownConversation target = .ok id) : Conversation.idOf e.localId target = .ok id := by
  cases target with
  | direct peer => exact (friendConversation_ok h).2.2
  | group group => exact (groupConversation_ok h).2

theorem joinOnce_eq (e : Endpoint) (id : String) (r : Request) :
    e.joinOnce id r = (match e.standingJoin? id with
      | some n => (n, e)
      | none => ((e.transport.issue r).1, { e.tell r with
          joins := (id, (e.transport.issue r).1) :: e.joins.filter fun j => j.1 != id })) := by
  rw [joinOnce]
  cases e.standingJoin? id with
  | some n => rfl
  | none => rfl

/-- A change adds to the requests that were made. -/
theorem Change.extends (h : Change e e') : e.transport.Extends e'.transport := by
  cases h with
  | learn _ | send _ => exact e.transport.extends_issue _
  | rename _ | ensure | remove | enqueue | subscribers => exact .refl _
  | @join target _ _ =>
    rw [joinOnce_eq]
    split
    · exact .refl _
    · exact e.transport.extends_issue target.join
  | collect => exact e.transport.extends_collect
  | detach => exact e.transport.extends_detach
  | answer n outcome =>
    exact e.transport.extends_modify n fun _ _ ho => Receipt.outcome?_answer ho outcome
  | abandon n => exact e.transport.extends_modify n fun _ _ => Receipt.outcome?_abandon

/-- A change records no join but the one that is requested, and the local id stays as it is
unless all joins have failed. -/
theorem Change.joins (h : Change e e') :
    (e'.joins = e.joins ∧ (e'.localId = e.localId ∨ e.hasJoined = false)) ∨
      ∃ target id, e.knownConversation target = .ok id ∧ e' = (e.joinOnce id target.join).2 := by
  cases h with
  | learn h => exact Or.inl ⟨rfl, Or.inl (learns_id h)⟩
  | rename h => exact Or.inl ⟨rfl, Or.inr h⟩
  | join h => exact Or.inr ⟨_, _, h, rfl⟩
  | ensure | remove | send | enqueue | collect | detach | answer | abandon | subscribers =>
    exact Or.inl ⟨rfl, Or.inl rfl⟩

/-! ### Joins stay sound -/

/-- Joins that are recorded stay sound when requests are added and the local id stays, or when
all of them have failed. -/
theorem JoinsSound.of_extends (hj : e.JoinsSound) (hx : e.transport.Extends e'.transport)
    (hjoins : e'.joins = e.joins) (hid : e'.localId = e.localId ∨ e.hasJoined = false) :
    e'.JoinsSound := by
  intro id n hmem hn
  rw [hjoins] at hmem
  have hn' : e.transport.hasFailed n = false := hx.hasFailed_eq_false hn
  rcases hid with hid | hid
  · obtain ⟨target, hr, ht⟩ := hj id n hmem hn'
    exact ⟨target, hx.request? hr, hid ▸ ht⟩
  · rw [hasJoined, List.any_eq_false] at hid
    exact absurd (by simp [hn']) (hid (id, n) hmem)

theorem JoinsSound.joinOnce (hj : e.JoinsSound) {target : Target} {id : String}
    (hknown : e.knownConversation target = .ok id) :
    (e.joinOnce id target.join).2.JoinsSound := by
  rw [joinOnce_eq]
  cases e.standingJoin? id with
  | some n => exact hj
  | none =>
    -- The new join is on top, and the others were there when the request was made.
    have htold : (e.tell target.join).JoinsSound :=
      hj.of_extends (e.transport.extends_issue target.join) rfl (Or.inl rfl)
    intro id' n hmem hn
    rcases List.mem_cons.mp hmem with hnew | hold
    · cases hnew
      exact ⟨target, e.transport.request?_issue _, idOf_of_knownConversation hknown⟩
    · exact htold id' n (List.mem_filter.mp hold).1 hn

theorem Change.joinsSound (h : Change e e') (hj : e.JoinsSound) : e'.JoinsSound := by
  rcases h.joins with ⟨hjoins, hid⟩ | ⟨target, id, hknown, rfl⟩
  · exact hj.of_extends h.extends hjoins hid
  · exact hj.joinOnce hknown

/-- Whatever happens to an endpoint, its joins stay sound. -/
theorem Moves.joinsSound (h : Moves e e') (hj : e.JoinsSound) : e'.JoinsSound := by
  induction h with
  | refl => exact hj
  | tail _ hmove ih =>
    cases hmove with
    | change h => exact h.joinsSound ih
    | take | classify | mark | turn => exact ih

/-- Whatever happens to an endpoint adds to the requests that were made. -/
theorem Moves.extends (h : Moves e e') : e.transport.Extends e'.transport := by
  induction h with
  | refl => exact .refl _
  | tail _ hmove ih =>
    cases hmove with
    | change h => exact ih.trans h.extends
    | take | classify | mark | turn => exact ih

/-! ### Sessions stay well kept -/

theorem Change.wellKept (h : Change e e') (hw : e.router.registry.WellKept) :
    e'.router.registry.WellKept := by
  cases h with
  | ensure id name target => exact hw.ensure id name target
  | remove id => exact hw.remove id
  | join _ => rwa [joinOnce_router]
  | subscribers hr =>
    obtain ⟨_, _, _, hr⟩ := hr.eq
    rwa [hr]
  | learn | rename | send | enqueue | collect | detach | answer | abandon => exact hw

/-- Whatever happens to an endpoint, its sessions stay well kept. -/
theorem Moves.wellKept (h : Moves e e') (hw : e.router.registry.WellKept) :
    e'.router.registry.WellKept := by
  induction h with
  | refl => exact hw
  | @tail e₁ _ _ hmove ih =>
    cases hmove with
    | change h => exact h.wellKept ih
    | take | mark | turn => exact ih
    | classify event localId peer =>
      rcases e₁.router.classify_eq event localId peer with hr | ⟨m, target, _, _, _, hr⟩
      · rwa [hr]
      · rw [hr]
        exact ih.applyAs m target

end Endpoint

end ChatRouting
