import ChatRouting.Proofs.Session.Order

/-!
# Runs of a registry

The four operations that change a registry as data, and what each of them does: the calls that
are refused leave the registry as it is, and the others find the session of the id or enter a
new one. A run is a list of such operations from the empty registry on.

## Main definitions

* `Registry.Operation`, `Registry.Answer`
* `Registry.perform`, `Registry.run`

## Main results

* `Registry.WellKept.run`: every registry of a run is well kept
* `Registry.perform_refused`: a refused call changes nothing
-/

namespace ChatRouting.Registry

/-- A call that may change a registry. -/
inductive Operation where
  | ensure (id name : String) (target : Target)
  | apply (m : Message)
  | applyAs (m : Message) (target : Target)
  | remove (id : String)

/-- What such a call answers. -/
inductive Answer where
  | session (s : Session)
  | removed (existed : Bool)
  | refused (f : Fault)
  deriving DecidableEq

/-- The answer of a call that may be refused. -/
def Answer.ofExcept {α : Type} (f : α → Answer) : Except Fault α → Answer
  | .ok a => f a
  | .error e => .refused e

/-- One call. -/
def perform (r : Registry) : Operation → Answer × Registry
  | .ensure id name target =>
    let (result, r) := r.ensure id name target
    (.ofExcept .session result, r)
  | .apply m =>
    let (result, r) := r.apply m
    (.ofExcept .session result, r)
  | .applyAs m target =>
    let (result, r) := r.applyAs m target
    (.ofExcept .session result, r)
  | .remove id =>
    let (result, r) := r.remove id
    (.ofExcept .removed result, r)

/-- The answers of some calls, and the registry after them. -/
def run : List Operation → Registry → List Answer × Registry
  | [], r => ([], r)
  | op :: ops, r =>
    let (a, r) := r.perform op
    let (as, r) := run ops r
    (a :: as, r)

variable {r : Registry} {s : Session} {id name : String} {target : Target} {m : Message}
  {time : Instant}

/-! ### What a call does -/

theorem requireNonempty_of_ne {value what : String} (h : value ≠ "") :
    requireNonempty value what = .ok () :=
  if_neg h

theorem ensure_of_present (hid : id ≠ "") (hf : r.find? id = some s) :
    r.ensure id name target = (.ok s, r) := by
  simp only [ensure, requireNonempty_of_ne hid, obtain, hf]

theorem ensure_of_absent (hid : id ≠ "") (hf : r.find? id = none) :
    r.ensure id name target = (.ok { id, name, target }, r.insert { id, name, target }) := by
  simp only [ensure, requireNonempty_of_ne hid, obtain, hf]

theorem applyAs_of_empty (hid : m.conversation = "") :
    r.applyAs m target = (.error (.empty "conversation id"), r) := by
  rw [applyAs, hid]
  rfl

theorem applyAs_of_unreadable {f : Fault} (hid : m.conversation ≠ "")
    (ht : Instant.ofText m.timestamp = .error f) : r.applyAs m target = (.error f, r) := by
  simp only [applyAs, requireNonempty_of_ne hid, ht]

theorem applyAs_of_present (hid : m.conversation ≠ "") (ht : Instant.ofText m.timestamp = .ok time)
    (hf : r.find? m.conversation = some s) :
    r.applyAs m target =
      (.ok (s.receive m.plaintext time), r.replace (s.receive m.plaintext time)) := by
  simp only [applyAs, requireNonempty_of_ne hid, ht, obtain, hf]

/-- A session that has just been entered can as well be entered as it is afterwards. -/
theorem replace_insert {t : Session} (hf : r.find? s.id = none) (ht : t.id = s.id) :
    (r.insert s).replace t = r.insert t := by
  have hk : ∀ p ∈ r.entries, p.1 ≠ t.id := by
    intro p hp hid
    rw [find?, Option.map_eq_none_iff, List.lookup_eq_none_iff] at hf
    exact absurd (hid.trans ht).symm (by simpa using hf p hp)
  have hr : r.entries.map (fun p => (p.1, if p.1 = t.id then { p.2 with session := t } else p.2)) =
      r.entries := by
    rw [List.map_congr_left (g := id) fun p hp => by rw [if_neg (hk p hp)]; rfl, List.map_id]
  simp only [insert, replace, List.map_cons, ht, if_true]
  rw [← ht, hr]

/-- The session that a message opens in a conversation with a target. -/
def firstSession (m : Message) (target : Target) (time : Instant) : Session :=
  { id := m.conversation, name := Session.defaultName m.conversation target, target
    lastMessage := some m.plaintext, lastTime := some time }

theorem applyAs_of_absent (hid : m.conversation ≠ "") (ht : Instant.ofText m.timestamp = .ok time)
    (hf : r.find? m.conversation = none) :
    r.applyAs m target =
      (.ok (firstSession m target time), r.insert (firstSession m target time)) := by
  simp only [applyAs, requireNonempty_of_ne hid, ht, obtain, hf]
  exact congrArg _ (replace_insert hf rfl)

/-- The first message of a conversation enters the session that is entered without it, and updates
it. So a message and the entry of its session may change places. -/
theorem applyAs_ensure (r : Registry) (m : Message) (target : Target) :
    let name := Session.defaultName m.conversation target
    ((r.ensure m.conversation name target).2.applyAs m target).1 = (r.applyAs m target).1 ∧
      ((r.ensure m.conversation name target).2.applyAs m target).2 =
        ((r.applyAs m target).2.ensure m.conversation name target).2 := by
  intro name
  by_cases hid : m.conversation = ""
  · have hrefused : (r.ensure m.conversation name target).2 = r := by rw [hid]; rfl
    rw [hrefused, applyAs_of_empty hid]
    exact ⟨rfl, hrefused.symm⟩
  · rcases ht : Instant.ofText m.timestamp with f | time
    · rw [applyAs_of_unreadable hid ht, applyAs_of_unreadable hid ht]
      exact ⟨rfl, rfl⟩
    · rcases hf : r.find? m.conversation with _ | s
      · have hfirst : (r.insert { id := m.conversation, name, target }).find? m.conversation =
            some { id := m.conversation, name, target } :=
          (find?_insert _ _ _).trans (if_pos rfl)
        have hfound : (r.insert (firstSession m target time)).find? m.conversation =
            some (firstSession m target time) :=
          (find?_insert _ _ _).trans (if_pos rfl)
        rw [ensure_of_absent hid hf, applyAs_of_present hid ht hfirst, applyAs_of_absent hid ht hf,
          ensure_of_present hid hfound]
        exact ⟨rfl, replace_insert hf rfl⟩
      · have hfound : ∃ t,
            (r.replace (s.receive m.plaintext time)).find? m.conversation = some t := by
          rw [find?_replace, hf]
          split_ifs
          · exact ⟨_, rfl⟩
          · exact ⟨s, rfl⟩
        obtain ⟨t, ht'⟩ := hfound
        rw [ensure_of_present hid hf, applyAs_of_present hid ht hf, ensure_of_present hid ht']
        exact ⟨rfl, rfl⟩

theorem remove_of_ne (hid : id ≠ "") : r.remove id = (.ok (r.contains id), r.forget id) := by
  simp only [remove, requireNonempty_of_ne hid]

/-! ### Invariants of a run -/

theorem WellKept.ensure (h : r.WellKept) (id name : String) (target : Target) :
    (r.ensure id name target).2.WellKept := by
  by_cases hid : id = ""
  · subst hid
    exact h
  · cases hf : r.find? id with
    | some s => rwa [ensure_of_present hid hf]
    | none =>
      rw [ensure_of_absent hid hf]
      exact h.insert hid hf

theorem WellKept.applyAs (h : r.WellKept) (m : Message) (target : Target) :
    (r.applyAs m target).2.WellKept := by
  by_cases hid : m.conversation = ""
  · rwa [applyAs_of_empty hid]
  · cases ht : Instant.ofText m.timestamp with
    | error f => rwa [applyAs_of_unreadable hid ht]
    | ok time =>
      cases hf : r.find? m.conversation with
      | some s =>
        rw [applyAs_of_present hid ht hf]
        exact h.replace _
      | none =>
        rw [applyAs_of_absent hid ht hf]
        exact h.insert hid hf

theorem WellKept.remove (h : r.WellKept) (id : String) : (r.remove id).2.WellKept := by
  by_cases hid : id = ""
  · subst hid
    exact h
  · rw [remove_of_ne hid]
    exact h.forget id

theorem WellKept.perform (h : r.WellKept) : ∀ op, (r.perform op).2.WellKept
  | .ensure id name target => h.ensure id name target
  | .apply m => h.applyAs m (targetOf m)
  | .applyAs m target => h.applyAs m target
  | .remove id => h.remove id

/-- Every registry of a run is well kept. -/
theorem WellKept.run (h : r.WellKept) (ops : List Operation) : (run ops r).2.WellKept := by
  induction ops generalizing r with
  | nil => exact h
  | cons op ops ih => exact ih (h.perform op)

theorem applyAs_error {f : Fault} (h : (r.applyAs m target).1 = .error f) :
    (r.applyAs m target).2 = r := by
  by_cases hid : m.conversation = ""
  · rw [applyAs_of_empty hid]
  · cases ht : Instant.ofText m.timestamp with
    | error f => rw [applyAs_of_unreadable hid ht]
    | ok time =>
      cases hf : r.find? m.conversation with
      | some s =>
        rw [applyAs_of_present hid ht hf] at h
        cases h
      | none =>
        rw [applyAs_of_absent hid ht hf] at h
        cases h

/-- A refused call changes nothing. -/
theorem perform_refused {op : Operation} {f : Fault} (h : (r.perform op).1 = .refused f) :
    (r.perform op).2 = r := by
  cases op with
  | ensure id name target =>
    by_cases hid : id = ""
    · subst hid
      rfl
    · cases hf : r.find? id with
      | some s => simp only [perform, ensure_of_present hid hf]
      | none =>
        simp only [perform, ensure_of_absent hid hf, Answer.ofExcept] at h
        cases h
  | apply m =>
    cases he : (r.apply m).1 with
    | error f => exact applyAs_error he
    | ok s =>
      simp only [perform, he, Answer.ofExcept] at h
      cases h
  | applyAs m target =>
    cases he : (r.applyAs m target).1 with
    | error f => exact applyAs_error he
    | ok s =>
      simp only [perform, he, Answer.ofExcept] at h
      cases h
  | remove id =>
    by_cases hid : id = ""
    · subst hid
      rfl
    · simp only [perform, remove_of_ne hid, Answer.ofExcept] at h
      cases h

end ChatRouting.Registry
