import ChatRouting.Proofs.Endpoint.Plain
import ChatRouting.Proofs.Session.Ledger

/-!
# Where sessions come from

Id, name and target of a session are decided when it is entered. When nobody reaches past the
endpoint into its router, a session is entered for a conversation that is known, or by a message
whose conversation has no session. Neither enters a session with the user who is local at that
moment: there is no conversation with oneself, and an own message is to whom it was sent.

## Main definitions

* `Endpoint.Enters`: a session may be entered

## Main results

* `Endpoint.PlainSessions.entered`: a session was there or is entered
* `Endpoint.Enters.ne_self`
-/

namespace ChatRouting

namespace Registry

variable {r : Registry} {s : Session} {id other name : String} {target : Target} {m : Message}

/-- A session was there before a conversation is opened, or is new and as it is opened. -/
theorem find?_ensure (h : (r.ensure id name target).2.find? other = some s) :
    r.find? other = some s ∨ other = id ∧ s = { id, name, target } := by
  by_cases hid : id = ""
  · subst hid
    exact Or.inl h
  · cases hf : r.find? id with
    | some s₀ =>
      rw [ensure_of_present hid hf] at h
      exact Or.inl h
    | none =>
      rw [ensure_of_absent hid hf, find?_insert] at h
      split_ifs at h with hother
      · exact Or.inr ⟨hother, (Option.some.inj h).symm⟩
      · exact Or.inl h

/-- A session was there before a message is taken, or is new and opened by the message. -/
theorem find?_applyAs (hw : r.WellKept) (h : (r.applyAs m target).2.find? other = some s) :
    (∃ s₀, r.find? other = some s₀ ∧ s₀.heading = s.heading) ∨
      r.find? m.conversation = none ∧ other = m.conversation ∧
        s.heading = (m.conversation, Session.defaultName m.conversation target, target) := by
  by_cases hid : m.conversation = ""
  · rw [applyAs_of_empty hid] at h
    exact Or.inl ⟨s, h, rfl⟩
  · cases ht : Instant.ofText m.timestamp with
    | error f =>
      rw [applyAs_of_unreadable hid ht] at h
      exact Or.inl ⟨s, h, rfl⟩
    | ok time =>
      cases hf : r.find? m.conversation with
      | some s₀ =>
        have hheading := s₀.heading_receive m.plaintext time
        have hname : (s₀.receive m.plaintext time).id = m.conversation :=
          (congrArg Prod.fst hheading).trans (hw.id_of_find? hf)
        rw [applyAs_of_present hid ht hf, find?_replace, hname] at h
        split_ifs at h with hother
        · subst hother
          rw [hf] at h
          cases h
          exact Or.inl ⟨s₀, hf, hheading.symm⟩
        · exact Or.inl ⟨s, h, rfl⟩
      | none =>
        rw [applyAs_of_absent hid ht hf, find?_insert] at h
        split_ifs at h with hother
        · cases h
          exact Or.inr ⟨rfl, hother, rfl⟩
        · exact Or.inl ⟨s, h, rfl⟩

end Registry

namespace Endpoint

variable {e : Endpoint} {id : String} {target : Target} {s : Session}

/-- A session with a target may be entered under an id: the conversation is known, or a message
says so, and there is no session of the id. -/
inductive Enters (e : Endpoint) : String → Target → Prop
  | known {id : String} {target : Target} (h : e.knownConversation target = .ok id) :
      Enters e id target
  | message {m : Message} {target : Target}
      (h : e.router.targetOf m e.localId (e.echoPeer (.message m)) = .ok target)
      (hnew : e.session? m.conversation = none) : Enters e m.conversation target

/-- When nobody reaches past the endpoint, a session was there or may be entered. -/
theorem PlainSessions.entered {r : Registry} (h : e.PlainSessions r)
    (hw : e.router.registry.WellKept) (hs : r.find? id = some s) :
    (∃ s₀, e.session? id = some s₀ ∧ s₀.heading = s.heading) ∨
      s.heading = (id, Session.defaultName id s.target, s.target) ∧ e.Enters id s.target := by
  cases h with
  | keep => exact Or.inl ⟨s, hs, rfl⟩
  | remove other =>
    by_cases hother : other = ""
    · subst hother
      exact Or.inl ⟨s, hs, rfl⟩
    · rw [Registry.remove_of_ne hother, Registry.find?_forget] at hs
      split_ifs at hs
      exact Or.inl ⟨s, hs, rfl⟩
  | @enter target other hknown =>
    rcases Registry.find?_ensure hs with hold | ⟨rfl, rfl⟩
    · exact Or.inl ⟨s, hold, rfl⟩
    · exact Or.inr ⟨rfl, .known hknown⟩
  | judge event =>
    rcases e.router.classify_eq event e.localId (e.echoPeer event) with
      hr | ⟨m, target, rfl, -, ht, hr⟩
    · rw [hr] at hs
      exact Or.inl ⟨s, hs, rfl⟩
    · rw [hr] at hs
      rcases Registry.find?_applyAs hw hs with hold | ⟨hnew, rfl, hheading⟩
      · exact Or.inl hold
      · have htarget : s.target = target := congrArg (·.2.2) hheading
        rw [htarget]
        exact Or.inr ⟨hheading, .message ht hnew⟩

/-! ### No session with oneself is entered -/

/-- The friend that an own message was sent to is not the local user. -/
theorem ne_of_friendOf {peer : String} (h : e.friendOf id = some peer) : peer ≠ e.localId := by
  have hderived := List.find?_some h
  split at hderived
  · next hid => exact ne_of_directId hid
  · cases hderived

/-- No session with the user who is local at the moment is entered. -/
theorem Enters.ne_self (h : e.Enters id target) : target ≠ .direct e.localId := by
  cases h with
  | known hknown =>
    rintro rfl
    exact ne_of_directId (friendConversation_ok hknown).2.2 rfl
  | @message m _ ht hnew =>
    have hnew' : e.router.registry.find? m.conversation = none := hnew
    unfold Router.targetOf at ht
    split_ifs at ht with hown
    · -- An own message says whom it was sent to, since there is no session yet.
      rw [echoPeer, if_pos hown, hnew'] at ht
      cases hfriend : e.friendOf m.conversation with
      | none =>
        rw [hfriend] at ht
        cases ht
      | some peer =>
        rw [hfriend] at ht
        cases ht
        rintro ⟨⟩
        exact ne_of_friendOf hfriend rfl
    · cases ht
      rw [Registry.targetOf]
      split_ifs with hgroup
      · exact Target.noConfusion
      · intro hself
        have hsender : m.sender = e.localId := Target.direct.inj hself
        exact hown (by simp [hgroup, hsender])

end Endpoint

end ChatRouting
