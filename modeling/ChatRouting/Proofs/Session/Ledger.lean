import ChatRouting.Proofs.Session.Run

/-!
# A registry is a list of sessions

A *ledger* is the plain account of a registry: a list of sessions with distinct ids, in which
new sessions are written at the end, known ones are changed where they stand and removed ones
are struck out. It has no table, no places and no sorting.

A registry and a ledger that take the same calls give the same answers, and whatever can be
asked of the registry can be read off the ledger. The relation between the two is that the
ledger has what the registry lists; it is kept by every call because of
`Registry.WellKept.list_insert`, `list_replace` and `list_forget`.

## Main definitions

* `Ledger`, `Ledger.perform`, `Ledger.run`
* `Session.heading`: what of a session never changes, and `Registry.Operation.headings`

## Main results

* `Registry.run_refines_ledger`: registries and ledgers answer alike, and what the registry
  lists, counts and finds is what the ledger has
-/

namespace ChatRouting

/-- Sessions in order of creation, no two with the same id. -/
structure Ledger where
  sessions : List Session
  distinct : (sessions.map Session.id).Nodup

/-- What of a session is decided when it is created. -/
def Session.heading (s : Session) : String × String × Target :=
  (s.id, s.name, s.target)

/-- A message changes nothing of a session that is decided when it is created. -/
theorem Session.heading_receive (s : Session) (plaintext : String) (time : Instant) :
    (s.receive plaintext time).heading = s.heading := by
  rw [receive]
  split_ifs
  · rfl
  · rfl

namespace Ledger

/-- No sessions yet. -/
def blank : Ledger where
  sessions := []
  distinct := List.nodup_nil

/-- The session with an id. -/
def find? (l : Ledger) (id : String) : Option Session :=
  l.sessions.find? fun s => s.id = id

theorem id_of_find? {l : Ledger} {id : String} {s : Session} (h : l.find? id = some s) :
    s.id = id := by
  simpa using List.find?_some h

/-- A session is written at the end. -/
def write (l : Ledger) (s : Session) (h : l.find? s.id = none) : Ledger where
  sessions := l.sessions ++ [s]
  distinct := by
    rw [List.map_append, List.nodup_append]
    refine ⟨l.distinct, List.nodup_singleton _, fun id hid other ho heq => ?_⟩
    obtain ⟨t, ht, rfl⟩ := List.mem_map.mp hid
    have hne := List.find?_eq_none.mp h t ht
    simp_all

/-- The session with an id is changed where it stands. -/
def amend (l : Ledger) (s : Session) : Ledger where
  sessions := l.sessions.map fun t => if t.id = s.id then s else t
  distinct := by
    have hid : l.sessions.map (Session.id ∘ fun t => if t.id = s.id then s else t) =
        l.sessions.map Session.id := by
      refine List.map_congr_left fun t _ => ?_
      simp only [Function.comp_apply]
      split_ifs with h
      · exact h.symm
      · rfl
    rw [List.map_map, hid]
    exact l.distinct

/-- The session with an id is struck out. -/
def strike (l : Ledger) (id : String) : Ledger where
  sessions := l.sessions.filter fun t => t.id != id
  distinct := (List.filter_sublist.map _).nodup l.distinct

/-- The session with the id of `s`, changed by `f`; it is `s` to begin with. -/
def record (l : Ledger) (s : Session) (f : Session → Session) (hf : (f s).id = s.id) :
    Session × Ledger :=
  match h : l.find? s.id with
  | some t => (f t, l.amend (f t))
  | none => (f s, l.write (f s) (hf.symm ▸ h))

/-- A message is noted on a session, unless a later one has been noted. -/
def note (m : Message) (time : Instant) (s : Session) : Session :=
  if ∀ noted ∈ s.lastTime, noted.millis ≤ time.millis then
    { s with lastMessage := some m.plaintext, lastTime := some time }
  else s

theorem note_id (m : Message) (time : Instant) (s : Session) : (note m time s).id = s.id := by
  rw [note]
  split_ifs
  · rfl
  · rfl

/-- A message for a target is noted, if its conversation and its time can be read. -/
def deliver (l : Ledger) (m : Message) (target : Target) : Registry.Answer × Ledger :=
  if m.conversation = "" then (.refused (.empty "conversation id"), l)
  else
    match Instant.ofText m.timestamp with
    | .error f => (.refused f, l)
    | .ok time =>
      let opening : Session :=
        { id := m.conversation, name := Session.defaultName m.conversation target, target }
      let (s, l) := l.record opening (note m time) (note_id m time opening)
      (.session s, l)

/-- One call. -/
def perform (l : Ledger) : Registry.Operation → Registry.Answer × Ledger
  | .ensure id name target =>
    if id = "" then (.refused (.empty "conversation id"), l)
    else
      let (s, l) := l.record { id, name, target } (fun s => s) rfl
      (.session s, l)
  | .apply m => l.deliver m (if m.isGroup then .group m.conversation else .direct m.sender)
  | .applyAs m target => l.deliver m target
  | .remove id =>
    if id = "" then (.refused (.empty "conversation id"), l)
    else (.removed (l.find? id).isSome, l.strike id)

/-- The answers of some calls, and the ledger after them. -/
def run : List Registry.Operation → Ledger → List Registry.Answer × Ledger
  | [], l => ([], l)
  | op :: ops, l =>
    let (a, l) := l.perform op
    let (as, l) := run ops l
    (a :: as, l)

variable {l : Ledger} {r : Registry} {s t : Session} {id : String} {f : Session → Session}

theorem find?_eq_some_iff : l.find? id = some s ↔ s ∈ l.sessions ∧ s.id = id := by
  refine ⟨fun h => ⟨List.mem_of_find?_eq_some h, id_of_find? h⟩, fun ⟨hm, hid⟩ => ?_⟩
  cases hf : l.find? id with
  | none =>
    have hne := List.find?_eq_none.mp hf s hm
    simp_all
  | some t =>
    have ht := List.mem_of_find?_eq_some hf
    have heq := List.inj_on_of_nodup_map l.distinct ht hm ((id_of_find? hf).trans hid.symm)
    rw [heq]

theorem record_of_present (hf : (f s).id = s.id) (h : l.find? s.id = some t) :
    l.record s f hf = (f t, l.amend (f t)) := by
  rw [record]
  split
  all_goals simp_all

theorem record_of_absent (hf : (f s).id = s.id) (h : l.find? s.id = none) :
    l.record s f hf = (f s, l.write (f s) (hf.symm ▸ h)) := by
  rw [record]
  split
  all_goals simp_all

/-- Noting a message is what a registry does with the session of its conversation. -/
theorem note_eq_receive (m : Message) (time : Instant) (s : Session) :
    note m time s = s.receive m.plaintext time := by
  rw [note, Session.receive, Session.isNewer]
  cases s.lastTime with
  | none => simp
  | some noted => simp

/-! ### Registries and ledgers -/

/-- The ledger has what the registry lists. -/
structure Describes (l : Ledger) (r : Registry) : Prop where
  wellKept : r.WellKept
  sessions : l.sessions = r.list

theorem Describes.find? (h : l.Describes r) (id : String) : l.find? id = r.find? id := by
  ext s
  rw [find?_eq_some_iff, h.wellKept.find?_eq_some_iff, h.sessions]

theorem Describes.contains (h : l.Describes r) (id : String) :
    (l.find? id).isSome = r.contains id := by
  rw [h.find?, Registry.contains_eq_isSome_find?]

theorem describes_blank : blank.Describes {} where
  wellKept := Registry.wellKept_empty
  sessions := by simp [blank, Registry.list, Registry.ordered]

theorem Describes.amend (h : l.Describes r) (s : Session) :
    (l.amend s).Describes (r.replace s) where
  wellKept := h.wellKept.replace s
  sessions := by rw [h.wellKept.list_replace, ← h.sessions, Ledger.amend]

theorem Describes.write (h : l.Describes r) (hid : s.id ≠ "") (hs : l.find? s.id = none) :
    (l.write s hs).Describes (r.insert s) where
  wellKept := h.wellKept.insert hid (h.find? s.id ▸ hs)
  sessions := by rw [h.wellKept.list_insert, ← h.sessions, Ledger.write]

theorem Describes.strike (h : l.Describes r) (id : String) :
    (l.strike id).Describes (r.forget id) where
  wellKept := h.wellKept.forget id
  sessions := by
    rw [h.wellKept.list_forget, ← h.sessions, Ledger.strike]

/-- The two sides of a call give the same answer, and the ledger goes on describing the
registry. -/
def Agree (a : Registry.Answer × Ledger) (b : Registry.Answer × Registry) : Prop :=
  a.1 = b.1 ∧ a.2.Describes b.2

theorem Describes.agree_refused (h : l.Describes r) (f : Fault) :
    Agree (.refused f, l) (.refused f, r) :=
  ⟨rfl, h⟩

theorem Describes.ensure (h : l.Describes r) (id name : String) (target : Target) :
    Agree (l.perform (.ensure id name target)) (r.perform (.ensure id name target)) := by
  by_cases hid : id = ""
  · subst hid
    exact h.agree_refused _
  · simp only [perform, if_neg hid, Registry.perform]
    cases hf : r.find? id with
    | some s =>
      have hl : l.find? id = some s := (h.find? id).trans hf
      rw [Registry.ensure_of_present hid hf, record_of_present rfl hl]
      refine ⟨rfl, h.wellKept, ?_⟩
      -- The session is written over itself.
      rw [← h.sessions, Ledger.amend]
      refine (List.map_congr_left fun t ht => ?_).trans (List.map_id _)
      have hs := find?_eq_some_iff.mp hl
      split_ifs with hts
      · exact List.inj_on_of_nodup_map l.distinct hs.1 ht hts.symm
      · rfl
    | none =>
      have hl : l.find? id = none := (h.find? id).trans hf
      rw [Registry.ensure_of_absent hid hf, record_of_absent rfl hl]
      exact ⟨rfl, h.write hid hl⟩

theorem Describes.deliver (h : l.Describes r) (m : Message) (target : Target) :
    Agree (l.deliver m target) (r.perform (.applyAs m target)) := by
  simp only [Registry.perform]
  by_cases hid : m.conversation = ""
  · rw [Registry.applyAs_of_empty hid, Ledger.deliver, if_pos hid]
    exact h.agree_refused _
  · rw [Ledger.deliver, if_neg hid]
    cases ht : Instant.ofText m.timestamp with
    | error f =>
      rw [Registry.applyAs_of_unreadable hid ht]
      exact h.agree_refused f
    | ok time =>
      simp only
      cases hf : r.find? m.conversation with
      | some s =>
        have hl : l.find? m.conversation = some s := (h.find? _).trans hf
        rw [Registry.applyAs_of_present hid ht hf, record_of_present _ hl, note_eq_receive]
        exact ⟨rfl, h.amend _⟩
      | none =>
        have hl : l.find? m.conversation = none := (h.find? _).trans hf
        rw [Registry.applyAs_of_absent hid ht hf, record_of_absent _ hl]
        simp only [note_eq_receive]
        exact ⟨rfl, h.write hid hl⟩

theorem Describes.remove (h : l.Describes r) (id : String) :
    Agree (l.perform (.remove id)) (r.perform (.remove id)) := by
  by_cases hid : id = ""
  · subst hid
    exact h.agree_refused _
  · simp only [perform, if_neg hid, Registry.perform, Registry.remove_of_ne hid]
    exact ⟨congrArg Registry.Answer.removed (h.contains id), h.strike id⟩

/-- One call on both sides. -/
theorem Describes.perform (h : l.Describes r) : ∀ op, Agree (l.perform op) (r.perform op)
  | .ensure id name target => h.ensure id name target
  | .apply m => h.deliver m (Registry.targetOf m)
  | .applyAs m target => h.deliver m target
  | .remove id => h.remove id

/-- Any calls on both sides. -/
theorem Describes.run (h : l.Describes r) (ops : List Registry.Operation) :
    (run ops l).1 = (Registry.run ops r).1 ∧ (run ops l).2.Describes (Registry.run ops r).2 := by
  induction ops generalizing l r with
  | nil => exact ⟨rfl, h⟩
  | cons op ops ih =>
    obtain ⟨ha, hd⟩ := h.perform op
    obtain ⟨has, hds⟩ := ih hd
    exact ⟨congrArg₂ List.cons ha has, hds⟩

/-! ### Headings -/

theorem note_heading (m : Message) (time : Instant) (s : Session) :
    (note m time s).heading = s.heading := by
  rw [note_eq_receive, Session.heading_receive]

theorem map_heading_fst (l : Ledger) :
    (l.sessions.map Session.heading).map Prod.fst = l.sessions.map Session.id := by
  rw [List.map_map]
  rfl

end Ledger

/-- The headings after a conversation is opened: a new one is added at the end. -/
def openHeading (heading : String × String × Target) (headings : List (String × String × Target)) :
    List (String × String × Target) :=
  if heading.1 ∈ headings.map Prod.fst then headings else headings ++ [heading]

/-- What a call that is not refused does to the headings of the sessions. -/
def Registry.Operation.headings (headings : List (String × String × Target)) :
    Registry.Operation → List (String × String × Target)
  | .ensure id name target => openHeading (id, name, target) headings
  | .apply m =>
    let target := Registry.targetOf m
    openHeading (m.conversation, Session.defaultName m.conversation target, target) headings
  | .applyAs m target =>
    openHeading (m.conversation, Session.defaultName m.conversation target, target) headings
  | .remove id => headings.filter fun heading => heading.1 != id

namespace Ledger

variable {l : Ledger} {s : Session} {f : Session → Session}

/-- Recording something about a session keeps all headings, and enters one if it is new. -/
theorem record_headings (hf : ∀ t, (f t).heading = t.heading) (hid : (f s).id = s.id) :
    (l.record s f hid).2.sessions.map Session.heading =
      openHeading s.heading (l.sessions.map Session.heading) := by
  rw [openHeading, map_heading_fst, show s.heading.1 = s.id from rfl]
  cases h : l.find? s.id with
  | some t =>
    obtain ⟨ht, hts⟩ := find?_eq_some_iff.mp h
    rw [record_of_present hid h, if_pos (List.mem_map.mpr ⟨t, ht, hts⟩)]
    rw [amend, List.map_map]
    refine List.map_congr_left fun u hu => ?_
    simp only [Function.comp_apply]
    split_ifs with hut
    · have hft : (f t).id = t.id := congrArg Prod.fst (hf t)
      rw [hf t, List.inj_on_of_nodup_map l.distinct hu ht (hut.trans hft)]
    · rfl
  | none =>
    have hs : s.id ∉ l.sessions.map Session.id := by
      intro hm
      obtain ⟨t, ht, hts⟩ := List.mem_map.mp hm
      have hne := List.find?_eq_none.mp h t ht
      simp_all
    rw [record_of_absent hid h, if_neg hs, write, List.map_append, List.map_singleton, hf]

theorem deliver_headings {m : Message} {target : Target}
    (h : ∀ e, (l.deliver m target).1 ≠ .refused e) :
    (l.deliver m target).2.sessions.map Session.heading =
      openHeading (m.conversation, Session.defaultName m.conversation target, target)
        (l.sessions.map Session.heading) := by
  rw [deliver] at h ⊢
  split_ifs at h ⊢ with hid
  · exact absurd rfl (h _)
  · cases ht : Instant.ofText m.timestamp with
    | error e =>
      rw [ht] at h
      exact absurd rfl (h e)
    | ok time => exact record_headings (note_heading m time) _

/-- A call that is not refused keeps all headings where they are, but for the one it opens at
the end or takes out. -/
theorem perform_headings {op : Registry.Operation} (h : ∀ e, (l.perform op).1 ≠ .refused e) :
    (l.perform op).2.sessions.map Session.heading =
      op.headings (l.sessions.map Session.heading) := by
  cases op with
  | ensure id name target =>
    simp only [perform] at h ⊢
    split_ifs at h ⊢
    · exact absurd rfl (h _)
    · exact record_headings (fun _ => rfl) rfl
  | apply m => exact deliver_headings h
  | applyAs m target => exact deliver_headings h
  | remove id =>
    simp only [perform] at h ⊢
    split_ifs at h ⊢
    · exact absurd rfl (h _)
    · rw [strike, Registry.Operation.headings, List.filter_map]
      rfl

end Ledger

/-- A registry answers as the plain list of sessions in order of creation does, whatever calls
it takes; and the list of that account is what it lists, counts and finds. A refused call leaves
the registry as it is, and any other call keeps id, name, target and position of the sessions
there are, adds a new one at the end, or takes one out. -/
theorem Registry.run_refines_ledger (ops : List Registry.Operation) :
    let r := (run ops {}).2
    let l := (Ledger.run ops .blank).2
    (run ops {}).1 = (Ledger.run ops .blank).1 ∧
    r.list = l.sessions ∧ r.size = l.sessions.length ∧
    (r.isEmpty = true ↔ l.sessions = []) ∧
    (∀ id, r.contains id = true ↔ ∃ s ∈ l.sessions, s.id = id) ∧
    (∀ id s, r.find? id = some s ↔ s ∈ l.sessions ∧ s.id = id) ∧
    (∀ op f, (r.perform op).1 = .refused f → (r.perform op).2 = r) ∧
    ∀ op, (∀ f, (r.perform op).1 ≠ .refused f) →
      (r.perform op).2.list.map Session.heading = op.headings (r.list.map Session.heading) := by
  intro r l
  obtain ⟨hanswers, hd⟩ := Ledger.describes_blank.run ops
  have hsize : r.size = l.sessions.length := by
    rw [← length_list, hd.sessions]
  have hfind (id : String) (s : Session) : r.find? id = some s ↔ s ∈ l.sessions ∧ s.id = id := by
    rw [hd.wellKept.find?_eq_some_iff, hd.sessions]
  refine ⟨hanswers.symm, hd.sessions.symm, hsize, ?_, fun id => ?_, hfind,
    fun op f => perform_refused, fun op h => ?_⟩
  · rw [← List.length_eq_zero_iff, ← hsize, isEmpty, List.isEmpty_iff, size,
      List.length_eq_zero_iff]
  · rw [contains_eq_isSome_find?, Option.isSome_iff_exists]
    exact exists_congr fun s => hfind id s
  · obtain ⟨ha, hd'⟩ := hd.perform op
    rw [← hd'.sessions, ← hd.sessions]
    exact Ledger.perform_headings (ha ▸ h)

end ChatRouting
