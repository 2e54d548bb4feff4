import ChatRouting.Proofs.Session.Ledger

/-!
# The shape of a session

A session of a group is with the group whose id it has, and a direct session is with a peer that
has an id. The name is made from the id of the group or of the peer. All of this is decided when the
session is entered. What is remembered of the newest message, its text and its time, is there
together or not at all.

The session of an id *stays* if it is still there with the name and the target that it had. A
message does not make it go, whether the session that the message would open is of the same kind or
not, and neither does a conversation that is opened.

## Main definitions

* `Target.Fits`: whom a session of an id may be with
* `Session.WellShaped`, `Registry.WellShaped`
* `Registry.Keeps`: the session of an id stays

## Main results

* `Registry.WellShaped.ensure`, `Registry.WellShaped.applyAs`
* `Registry.keeps_ensure`, `Registry.keeps_applyAs`, `Registry.keeps_remove`
-/

namespace ChatRouting

/-- A session of an id may be with a peer that has an id, and with the group of that id. -/
def Target.Fits (id : String) : Target → Prop
  | direct peer => peer ≠ ""
  | group other => other = id

namespace Session

/-- Name and target of a session are those of its conversation, and the text and the time of a
newest message are there together. -/
structure WellShaped (s : Session) : Prop where
  named : s.id ≠ ""
  group : ∀ group, s.target = .group group →
    group = s.id ∧ s.name = "Group " ++ String.ofList (s.id.toList.take 8)
  direct : ∀ peer, s.target = .direct peer → peer ≠ "" ∧ s.name = "Direct " ++ peer
  newest : s.lastMessage.isSome = s.lastTime.isSome

variable {s : Session} {id : String} {target : Target}

/-- A session that is entered with the name that its target gives it has its shape. -/
theorem wellShaped_of_fits (hid : id ≠ "") (hfits : target.Fits id) :
    WellShaped { id, name := defaultName id target, target } where
  named := hid
  group group htarget := by
    cases htarget
    exact ⟨hfits, rfl⟩
  direct peer htarget := by
    cases htarget
    exact ⟨hfits, rfl⟩
  newest := rfl

theorem WellShaped.receive (h : s.WellShaped) (plaintext : String) (time : Instant) :
    (s.receive plaintext time).WellShaped := by
  rw [Session.receive]
  split_ifs
  · exact ⟨h.named, h.group, h.direct, rfl⟩
  · exact h

end Session

namespace Registry

/-- All sessions have their shape. -/
def WellShaped (r : Registry) : Prop :=
  ∀ id s, r.find? id = some s → s.WellShaped

/-- The session of an id, if there is one, is still there, and so are its name and target. -/
def Keeps (id : String) (r r' : Registry) : Prop :=
  ∀ s, r.find? id = some s → ∃ s', r'.find? id = some s' ∧ s'.heading = s.heading

variable {r r' r'' : Registry} {s t : Session} {id other name : String} {target : Target}
  {m : Message}

/-! ### Sessions have their shape -/

theorem wellShaped_empty : WellShaped {} := by
  intro id s hs
  cases hs

theorem WellShaped.insert (h : r.WellShaped) (hs : s.WellShaped) : (r.insert s).WellShaped := by
  intro id t ht
  rw [find?_insert] at ht
  split_ifs at ht
  · cases ht
    exact hs
  · exact h id t ht

theorem WellShaped.replace (h : r.WellShaped) (hs : s.WellShaped) : (r.replace s).WellShaped := by
  intro id t ht
  rw [find?_replace] at ht
  split_ifs at ht
  · obtain ⟨_, _, rfl⟩ := Option.map_eq_some_iff.mp ht
    exact hs
  · exact h id t ht

theorem WellShaped.forget (h : r.WellShaped) (id : String) : (r.forget id).WellShaped := by
  intro other t ht
  rw [find?_forget] at ht
  split_ifs at ht
  exact h other t ht

/-- A session that is entered for a conversation has the shape that its target gives it. -/
theorem WellShaped.ensure (h : r.WellShaped) (hfits : target.Fits id) :
    (r.ensure id (Session.defaultName id target) target).2.WellShaped := by
  by_cases hid : id = ""
  · subst hid
    exact h
  · cases hf : r.find? id with
    | some s => rwa [ensure_of_present hid hf]
    | none =>
      rw [ensure_of_absent hid hf]
      exact h.insert (Session.wellShaped_of_fits hid hfits)

/-- A message that opens a session gives it the shape of a target that fits. -/
theorem WellShaped.applyAs (h : r.WellShaped)
    (hfits : r.find? m.conversation = none → target.Fits m.conversation) :
    (r.applyAs m target).2.WellShaped := by
  by_cases hid : m.conversation = ""
  · rwa [applyAs_of_empty hid]
  · cases ht : Instant.ofText m.timestamp with
    | error f => rwa [applyAs_of_unreadable hid ht]
    | ok time =>
      cases hf : r.find? m.conversation with
      | some s =>
        rw [applyAs_of_present hid ht hf]
        exact h.replace ((h _ s hf).receive _ time)
      | none =>
        rw [applyAs_of_absent hid ht hf]
        exact h.insert ((Session.wellShaped_of_fits hid (hfits hf)).receive m.plaintext time)

theorem WellShaped.remove (h : r.WellShaped) (id : String) : (r.remove id).2.WellShaped := by
  by_cases hid : id = ""
  · subst hid
    exact h
  · rw [remove_of_ne hid]
    exact h.forget id

/-! ### The session of an id stays -/

theorem Keeps.refl (id : String) (r : Registry) : r.Keeps id r :=
  fun s hs => ⟨s, hs, rfl⟩

theorem Keeps.trans (h : r.Keeps id r') (h' : r'.Keeps id r'') : r.Keeps id r'' := by
  intro s hs
  obtain ⟨s', hs', hheading⟩ := h s hs
  obtain ⟨s'', hs'', hheading'⟩ := h' s' hs'
  exact ⟨s'', hs'', hheading'.trans hheading⟩

theorem keeps_of_none (hf : r.find? id = none) : r.Keeps id r' := by
  intro s hs
  cases hf.symm.trans hs

/-- A session that is new does not take the place of another. -/
theorem keeps_insert (hf : r.find? s.id = none) : r.Keeps id (r.insert s) := by
  intro t ht
  have hne : id ≠ s.id := by
    rintro rfl
    cases hf.symm.trans ht
  exact ⟨t, by rw [find?_insert, if_neg hne, ht], rfl⟩

/-- A session may be exchanged for one with its heading. -/
theorem keeps_replace (hf : r.find? t.id = some s) (hheading : t.heading = s.heading) :
    r.Keeps id (r.replace t) := by
  intro u hu
  by_cases hid : id = t.id
  · subst hid
    cases hf.symm.trans hu
    exact ⟨t, by rw [find?_replace, if_pos rfl, hf]; rfl, hheading⟩
  · exact ⟨u, by rw [find?_replace, if_neg hid, hu], rfl⟩

theorem keeps_ensure : r.Keeps id (r.ensure other name target).2 := by
  by_cases hid : other = ""
  · subst hid
    exact .refl id r
  · cases hf : r.find? other with
    | some s =>
      rw [ensure_of_present hid hf]
      exact .refl id r
    | none =>
      rw [ensure_of_absent hid hf]
      exact keeps_insert hf

/-- Whatever a message says of its conversation, the session that is there stays. -/
theorem keeps_applyAs (hw : r.WellKept) : r.Keeps id (r.applyAs m target).2 := by
  by_cases hid : m.conversation = ""
  · rw [applyAs_of_empty hid]
    exact .refl id r
  · cases ht : Instant.ofText m.timestamp with
    | error f =>
      rw [applyAs_of_unreadable hid ht]
      exact .refl id r
    | ok time =>
      cases hf : r.find? m.conversation with
      | some s =>
        have hheading := s.heading_receive m.plaintext time
        have hname : (s.receive m.plaintext time).id = m.conversation :=
          (congrArg Prod.fst hheading).trans (hw.id_of_find? hf)
        rw [applyAs_of_present hid ht hf]
        exact keeps_replace (by rwa [hname]) hheading
      | none =>
        rw [applyAs_of_absent hid ht hf]
        exact keeps_insert hf

/-- The session stays if it is not the one that is removed. -/
theorem keeps_remove (h : other ≠ id) : r.Keeps id (r.remove other).2 := by
  intro s hs
  by_cases hid : other = ""
  · subst hid
    exact ⟨s, hs, rfl⟩
  · exact ⟨s, by rw [remove_of_ne hid, find?_forget, if_neg (Ne.symm h), hs], rfl⟩

end Registry

end ChatRouting
