import ChatRouting.Proofs.Receipt.Cell
import ChatRouting.Proofs.Table
import ChatRouting.Proofs.Transport
import Mathlib.Data.List.Basic

/-!
# All handles on a receipt report one outcome

What has become of the receipts of a book is told by its history: what the acknowledgers did, and
what calls on handles reported. The first thing that the acknowledger of a receipt does settles it.
Before that all calls that look at it report that it is outstanding. After that all calls that look
at it report how it was settled, also those that began before. A description has the first outcome
that was reported through any handle.

A call that does not wait for the lock and finds it held has nothing to report, also when the
receipt was settled and the outcome was reported before. A wait that goes on holds the lock, and it
may still do so when the acknowledger has answered. When calls come one after the other, no lock is
ever found held.

## Main definitions

* `Receipt.Book.Event`, `Receipt.Book.history`
* `Receipt.Book.settlement`, `Receipt.Book.report`
* `Receipt.Book.Accounts`: the history accounts for the receipts
* `Receipt.Book.Shares`, `Receipt.Book.Looks`: what calls on a receipt answer

## Main results

* `Receipt.Book.accounts_run`
* `Receipt.Book.leave_look_enter`: a call that nothing comes in between of
* `Receipt.Book.outcome_shared`
* `Receipt.Book.unreported_beside_wait`: a look that finds the lock held
-/

namespace ChatRouting.Receipt

/-- How the acknowledger has settled the request. -/
def settled? (r : Receipt) : Option Outcome :=
  match r.reply with
  | .awaited => none
  | .given o => some o
  | .abandoned => some (.error (.dropped r.id))

theorem settled?_answer (r : Receipt) (o : Outcome) :
    (r.answer o).settled? = r.settled?.or (some o) ∧ (r.answer o).observed = r.observed := by
  obtain ⟨id, reply, observed⟩ := r
  cases reply with
  | awaited | given | abandoned => exact ⟨rfl, rfl⟩

theorem settled?_abandon (r : Receipt) :
    r.abandon.settled? = r.settled?.or (some (.error (.dropped r.id))) ∧
      r.abandon.observed = r.observed := by
  obtain ⟨id, reply, observed⟩ := r
  cases reply with
  | awaited | given | abandoned => exact ⟨rfl, rfl⟩

/-- A look that reports nothing leaves the receipt as it is. -/
theorem poll_of_none {r : Receipt} (ho : r.outcome? = none) : r.poll = (none, r) := by
  have hobs : r.observed = none := by
    cases hobs : r.observed with
    | none => rfl
    | some o =>
      rw [outcome?_of_observed hobs] at ho
      cases ho
  rw [poll, ho, ← hobs]

theorem poll_of_some {r : Receipt} {o : Outcome} (ho : r.outcome? = some o) :
    r.poll = (some o, { r with observed := some o }) := by
  rw [poll, ho]

/-- A call that looks reports nothing and leaves the receipt as it is, or it reports an outcome,
which it writes down. -/
theorem Call.finish?_eq_some {call : Call} {r r' : Receipt} {a : Book.Answer}
    (h : call.finish? r = some (a, r')) :
    (r' = r ∧ ∀ o, a ≠ .outcome (some o)) ∨
      ∃ o, r.outcome? = some o ∧ a = .outcome (some o) ∧ r' = { r with observed := some o } := by
  cases ho : r.outcome? with
  | none =>
    refine Or.inl ?_
    cases call with
    | wait =>
      rw [finish?, poll_of_none ho] at h
      cases h
    | describe =>
      cases h
      exact ⟨rfl, fun _ => by simp⟩
    | poll | waitFor =>
      rw [finish?, poll_of_none ho] at h
      cases h
      exact ⟨rfl, fun _ => by simp⟩
  | some o =>
    cases call with
    | describe =>
      cases h
      exact Or.inl ⟨rfl, fun _ => by simp⟩
    | poll | waitFor | wait =>
      rw [finish?, poll_of_some ho] at h
      cases h
      exact Or.inr ⟨o, rfl, rfl, rfl⟩

theorem Call.finish?_id {call : Call} {r r' : Receipt} {a : Book.Answer}
    (h : call.finish? r = some (a, r')) : r'.id = r.id := by
  rcases finish?_eq_some h with ⟨rfl, -⟩ | ⟨o, -, -, rfl⟩
  · rfl
  · rfl

namespace Book

/-- Something that happens to a receipt. -/
inductive Event where
  /-- The acknowledger is used or dropped. -/
  | settled (receipt : Nat) (o : Outcome)
  /-- A look through a handle reports an outcome. -/
  | reported (receipt : Nat) (o : Outcome)

/-- The number of the receipt to which it happens. -/
def Event.receipt : Event → Nat
  | settled i _ | reported i _ => i

/-- How the event settles a receipt. -/
def Event.settlement? (i : Nat) : Event → Option Outcome
  | settled j o => if j = i then some o else none
  | reported _ _ => none

/-- What the event reports of a receipt. -/
def Event.report? (i : Nat) : Event → Option Outcome
  | settled _ _ => none
  | reported j o => if j = i then some o else none

/-- How a receipt was settled, which is done once. -/
def settlement (es : List Event) (i : Nat) : Option Outcome :=
  es.findSome? (Event.settlement? i)

/-- What was first reported of a receipt. -/
def report (es : List Event) (i : Nat) : Option Outcome :=
  es.findSome? (Event.report? i)

/-- What an answer reports of a receipt. -/
def Answer.reports? (i : Nat) : Answer → Option Event
  | outcome (some o) => some (.reported i o)
  | _ => none

/-- What happens to a receipt in an operation. -/
def happens (b : Book) (op : Operation) : Option Event :=
  match op with
  | .ready _ o => some (.settled b.receipts.length o)
  | .answer i o => b.receipts[i]?.map fun _ => .settled i o
  | .abandon i => b.receipts[i]?.map fun r => .settled i (.error (.dropped r.id))
  | .describe handle | .poll handle | .wait handle =>
    (b.find? handle).bind fun found => (b.perform op).1.reports? found.1
  | .look i => (b.perform op).1.reports? i
  | .issue _ | .copy _ | .id _ | .drop _ | .enter _ _ | .leave _ => none

/-- What happens to receipts in operations one after the other. -/
def history : List Operation → Book → List Event
  | [], _ => []
  | op :: ops, b => (b.happens op).toList ++ history ops (b.perform op).2

/-- The book after operations one after the other. -/
def run (ops : List Operation) (b : Book) : Book :=
  ops.foldl (fun b op => (b.perform op).2) b

/-- The history accounts for some receipts. -/
structure Accounts (es : List Event) (rs : List Receipt) : Prop where
  settled : ∀ i r, rs[i]? = some r → r.settled? = settlement es i
  observed : ∀ i r, rs[i]? = some r → r.observed = report es i
  reports : ∀ i o, .reported i o ∈ es → settlement es i = some o
  known : ∀ e ∈ es, e.receipt < rs.length

/-- The operation uses up a handle. -/
def Operation.usesUp (handle : Nat) : Operation → Prop
  | drop k | wait k | enter k .wait => k = handle
  | _ => False

/-- A call begins, and other operations may come before it returns. -/
def Operation.enters : Operation → Bool
  | enter _ _ => true
  | _ => false

/-- What a handle on a receipt does, by the history up to then. -/
structure Shares (es : List Event) (b : Book) (handle i : Nat) (r : Receipt) : Prop where
  /-- If the lock is free, a look reports how the receipt was settled, or that it was not. -/
  poll : b.holder? i = none → (b.perform (.poll handle)).1 = .outcome (settlement es i)
  /-- If the lock is free, waiting reports how the receipt was settled, and does not end before it
  was. -/
  wait : b.holder? i = none → (b.perform (.wait handle)).1 =
    match settlement es i with
    | none => .wouldBlock
    | some o => .outcome (some o)
  /-- If the lock is free, a description has what was first reported through any handle on the
  receipt. -/
  describe : b.holder? i = none →
    (b.perform (.describe handle)).1 = .text (describeAs r.id (report es i))
  /-- If the lock is free, a call begins and holds it. -/
  enter : b.holder? i = none → ∀ call, (b.perform (.enter handle call)).1 = .done ∧
    (b.perform (.enter handle call)).2.holder? i = some (.begun call)
  /-- While the lock is held, what does not wait for it returns with nothing, and what waits for it
  does not begin. Nothing changes. -/
  held : b.holder? i ≠ none →
    b.perform (.poll handle) = (.outcome none, b) ∧
      b.perform (.describe handle) = (.text (describeAs r.id none), b) ∧
      b.perform (.wait handle) = (.wouldBlock, b) ∧
      ∀ call, b.perform (.enter handle call) = (call.turnedAway r.id, b)
  /-- A copy is a new handle on the same receipt. -/
  copy : ∃ b', b.perform (.copy handle) = (.ready b.handles.length, b') ∧
    b'.find? b.handles.length = some (i, r)
  /-- The handle stays on the receipt until it is dropped or waited with. -/
  stays : ∀ later : List Operation, (∀ op ∈ later, ¬ op.usesUp handle) →
    ∃ r', (run later b).find? handle = some (i, r') ∧ r'.id = r.id

/-- What a call does that has begun and has not looked yet, by the history up to then. -/
structure Looks (es : List Event) (b : Book) (i : Nat) (r : Receipt) (call : Call) : Prop where
  /-- A look reports how the receipt was settled, or that it was not, and a description has what was
  first reported. A wait goes on until the receipt was settled, and reports how. -/
  answer : (b.perform (.look i)).1 =
    match call with
    | .poll | .waitFor => .outcome (settlement es i)
    | .describe => .text (describeAs r.id (report es i))
    | .wait =>
      match settlement es i with
      | none => .wouldBlock
      | some o => .outcome (some o)
  /-- A wait that goes on changes nothing. -/
  waits : call = .wait → settlement es i = none → (b.perform (.look i)).2 = b
  /-- All others have looked once. -/
  looked : (call = .wait → settlement es i ≠ none) →
    (b.perform (.look i)).2.holder? i = some .looked
  /-- It does not return without having looked. -/
  stays : b.perform (.leave i) = (.wouldBlock, b)

variable {b : Book} {es es' : List Event} {rs : List Receipt} {r : Receipt} {i handle : Nat}
  {o : Outcome}

/-! ### Histories -/

theorem settlement_concat (es : List Event) (e : Event) (i : Nat) :
    settlement (es ++ [e]) i = (settlement es i).or (e.settlement? i) := by
  rw [settlement, List.findSome?_append]
  cases h : e.settlement? i <;> simp [settlement, h]

theorem report_concat (es : List Event) (e : Event) (i : Nat) :
    report (es ++ [e]) i = (report es i).or (e.report? i) := by
  rw [report, List.findSome?_append]
  cases h : e.report? i <;> simp [report, h]

theorem settlement_append (h : settlement es i = some o) (es' : List Event) :
    settlement (es ++ es') i = some o := by
  rw [settlement] at h ⊢
  rw [List.findSome?_append, h, Option.some_or]

theorem report_append (h : report es i = some o) (es' : List Event) :
    report (es ++ es') i = some o := by
  rw [report] at h ⊢
  rw [List.findSome?_append, h, Option.some_or]

theorem history_append (ops later : List Operation) (b : Book) :
    history (ops ++ later) b = history ops b ++ history later (run ops b) := by
  induction ops generalizing b with
  | nil => rfl
  | cons op ops ih =>
    rw [List.cons_append, history, ih, history, List.append_assoc]
    rfl

theorem settlement_of_unknown (hi : ∀ e ∈ es, e.receipt ≠ i) : settlement es i = none := by
  refine List.findSome?_eq_none_iff.mpr fun e he => ?_
  cases e with
  | settled j o => exact if_neg (hi _ he)
  | reported j o => rfl

theorem report_of_unknown (hi : ∀ e ∈ es, e.receipt ≠ i) : report es i = none := by
  refine List.findSome?_eq_none_iff.mpr fun e he => ?_
  cases e with
  | settled j o => rfl
  | reported j o => exact if_neg (hi _ he)

theorem mem_of_report (h : report es i = some o) : .reported i o ∈ es := by
  obtain ⟨e, he, hreport⟩ := List.exists_of_findSome?_eq_some h
  cases e with
  | settled j o' => cases hreport
  | reported j o' =>
    rw [Event.report?] at hreport
    split_ifs at hreport with hj
    cases hreport
    rwa [hj] at he

theorem find?_eq_some (h : b.find? handle = some (i, r)) :
    b.handles[handle]? = some (some i) ∧ b.receipts[i]? = some r := by
  simp only [find?, bind, Option.bind_eq_some_iff, Option.join_eq_some_iff] at h
  obtain ⟨j, hj, r', hr', heq⟩ := h
  cases heq
  exact ⟨hj, hr'⟩

theorem find?_of_getElem? (hi : b.handles[handle]? = some (some i)) (hr : b.receipts[i]? = some r) :
    b.find? handle = some (i, r) := by
  simp [find?, hi, hr]

theorem eq_some_of_concat {x : Receipt} (h : (rs ++ [x])[i]? = some r) :
    rs[i]? = some r ∨ i = rs.length ∧ r = x := by
  rcases Nat.lt_trichotomy i rs.length with hlt | rfl | hgt
  · exact Or.inl (by rwa [List.getElem?_append_left hlt] at h)
  · rw [List.getElem?_concat_length] at h
    exact Or.inr ⟨rfl, (Option.some.inj h).symm⟩
  · rw [List.getElem?_eq_none] at h
    · cases h
    · rwa [List.length_append]

theorem eq_some_of_set {j : Nat} {x y : Receipt} (h : (rs.set i x)[j]? = some y) :
    (i = j ∧ y = x) ∨ (i ≠ j ∧ rs[j]? = some y) := by
  by_cases hij : i = j
  · subst hij
    rw [List.getElem?_set_self'] at h
    obtain ⟨_, -, rfl⟩ := Option.map_eq_some_iff.mp h
    exact Or.inl ⟨rfl, rfl⟩
  · rw [List.getElem?_set_ne hij] at h
    exact Or.inr ⟨hij, h⟩

/-! ### Receipts are accounted for -/

namespace Accounts

/-- A look at a receipt reports how it was settled. -/
theorem outcome?_eq (h : Accounts es rs) (hr : rs[i]? = some r) :
    r.outcome? = settlement es i := by
  have hsettled := h.settled i r hr
  have hobserved := h.observed i r hr
  cases hobs : r.observed with
  | some o =>
    rw [outcome?_of_observed hobs, h.reports i o (mem_of_report (hobserved.symm.trans hobs))]
  | none =>
    rw [← hsettled, outcome?, hobs, settled?]
    cases r.reply <;> rfl

theorem settlement_length (h : Accounts es rs) :
    settlement es rs.length = none ∧ report es rs.length = none := by
  have hnew : ∀ e ∈ es, e.receipt ≠ rs.length := fun e he => Nat.ne_of_lt (h.known e he)
  exact ⟨settlement_of_unknown hnew, report_of_unknown hnew⟩

/-- A new receipt has no history. -/
theorem issue (h : Accounts es rs) (id : String) : Accounts es (rs ++ [{ id : Receipt }]) where
  settled j r hr := by
    rcases eq_some_of_concat hr with hr | ⟨rfl, rfl⟩
    · exact h.settled j r hr
    · exact h.settlement_length.1.symm
  observed j r hr := by
    rcases eq_some_of_concat hr with hr | ⟨rfl, rfl⟩
    · exact h.observed j r hr
    · exact h.settlement_length.2.symm
  reports := h.reports
  known e he := by
    rw [List.length_append]
    exact Nat.lt_add_right 1 (h.known e he)

/-- What an acknowledger does settles a receipt that was not settled. -/
theorem settle (h : Accounts es rs) (hr : rs[i]? = some r) {r' : Receipt}
    (hsettled : r'.settled? = r.settled?.or (some o)) (hobserved : r'.observed = r.observed) :
    Accounts (es ++ [.settled i o]) (rs.set i r') where
  settled j x hx := by
    rw [settlement_concat, Event.settlement?]
    rcases eq_some_of_set hx with ⟨rfl, rfl⟩ | ⟨hne, hx⟩
    · rw [if_pos rfl, hsettled, h.settled _ r hr]
    · rw [if_neg hne, Option.or_none, h.settled j x hx]
  observed j x hx := by
    rw [report_concat, Event.report?, Option.or_none]
    rcases eq_some_of_set hx with ⟨rfl, rfl⟩ | ⟨-, hx⟩
    · rw [hobserved, h.observed _ r hr]
    · exact h.observed j x hx
  reports j o' hmem := by
    rcases List.mem_append.mp hmem with hmem | hmem
    · rw [settlement_concat, h.reports j o' hmem, Option.some_or]
    · cases List.mem_singleton.mp hmem
  known e he := by
    rw [List.length_set]
    rcases List.mem_append.mp he with he | he
    · exact h.known e he
    · rw [List.mem_singleton.mp he]
      exact (List.getElem?_eq_some_iff.mp hr).1

/-- A receipt that has its answer is settled from the beginning. -/
theorem ready (h : Accounts es rs) (id : String) (o : Outcome) :
    Accounts (es ++ [.settled rs.length o]) (rs ++ [{ id, reply := .given o }]) := by
  have hnew : (rs ++ [{ id : Receipt }])[rs.length]? = some { id } := List.getElem?_concat_length
  have hsettled : settled? { id, reply := .given o } = (settled? { id }).or (some o) := rfl
  have hall := (h.issue id).settle hnew hsettled rfl
  rwa [List.set_append_right _ _ (Nat.le_refl _), Nat.sub_self] at hall

/-- A look that reports an outcome writes it down. -/
theorem look (h : Accounts es rs) (hr : rs[i]? = some r) (ho : r.outcome? = some o) :
    Accounts (es ++ [.reported i o]) (rs.set i { r with observed := some o }) where
  settled j x hx := by
    rw [settlement_concat, Event.settlement?, Option.or_none]
    rcases eq_some_of_set hx with ⟨rfl, rfl⟩ | ⟨-, hx⟩
    · exact h.settled _ r hr
    · exact h.settled j x hx
  observed j x hx := by
    rw [report_concat, Event.report?]
    rcases eq_some_of_set hx with ⟨rfl, rfl⟩ | ⟨hne, hx⟩
    · rw [if_pos rfl]
      cases hreport : report es i with
      | none => rfl
      | some o' =>
        -- What was reported before is what is reported now.
        rw [← ho, h.outcome?_eq hr, h.reports i o' (mem_of_report hreport)]
        rfl
    · rw [if_neg hne, Option.or_none, h.observed j x hx]
  reports j o' hmem := by
    rw [settlement_concat, Event.settlement?, Option.or_none]
    rcases List.mem_append.mp hmem with hmem | hmem
    · exact h.reports j o' hmem
    · cases List.mem_singleton.mp hmem
      rw [← h.outcome?_eq hr, ho]
  known e he := by
    rw [List.length_set]
    rcases List.mem_append.mp he with he | he
    · exact h.known e he
    · rw [List.mem_singleton.mp he]
      exact (List.getElem?_eq_some_iff.mp hr).1

end Accounts

theorem Answer.reports?_of_ne {a : Answer} (ha : ∀ o, a ≠ .outcome (some o)) :
    a.reports? i = none := by
  cases a with
  | outcome o =>
    cases o with
    | none => rfl
    | some o => exact absurd rfl (ha o)
  | _ => rfl

theorem reports?_turnedAway (call : Call) (id : String) : (call.turnedAway id).reports? i = none := by
  cases call <;> rfl

theorem modify_eq_set (hr : rs[i]? = some r) (f : Receipt → Receipt) :
    rs.modify i f = rs.set i (f r) := by
  rw [List.modify_eq_set_getElem?, hr]
  rfl

theorem modify_of_none (hr : rs[i]? = none) (f : Receipt → Receipt) : rs.modify i f = rs := by
  rw [List.modify_eq_set_getElem?, hr]
  rfl

theorem set_self (hr : rs[i]? = some r) : rs.set i r = rs := by
  obtain ⟨hlt, rfl⟩ := List.getElem?_eq_some_iff.mp hr
  exact List.set_getElem_self hlt

/-- A call that returns accounts for what it does to the receipt. -/
theorem Accounts.finish (h : Accounts es rs) (hr : rs[i]? = some r) {call : Call} {a : Answer}
    {r' : Receipt} (hfinish : call.finish? r = some (a, r')) :
    Accounts (es ++ (a.reports? i).toList) (rs.modify i fun _ => r') := by
  rw [modify_eq_set hr]
  rcases Call.finish?_eq_some hfinish with ⟨rfl, ha⟩ | ⟨o, ho, rfl, rfl⟩
  · rw [Answer.reports?_of_ne ha, Option.toList_none, List.append_nil, set_self hr]
    exact h
  · exact h.look hr ho

/-! ### Calls -/

section

variable {call : Call} {stage : Stage} {a : Answer} {r' : Receipt}

theorem spend_receipts (b : Book) (handle : Nat) (call : Call) :
    (b.spend handle call).receipts = b.receipts := by
  cases call <;> rfl

theorem spend_holders (b : Book) (handle : Nat) (call : Call) :
    (b.spend handle call).holders = b.holders := by
  cases call <;> rfl

theorem call_of_held (hfind : b.find? handle = some (i, r)) (hheld : b.holder? i = some stage) :
    b.call handle call = (call.turnedAway r.id, b) := by
  simp only [Book.call, hfind, hheld]

theorem call_of_waits (hfind : b.find? handle = some (i, r)) (hfree : b.holder? i = none)
    (hfinish : call.finish? r = none) : b.call handle call = (.wouldBlock, b) := by
  simp only [Book.call, hfind, hfree, hfinish]

theorem call_of_finish (hfind : b.find? handle = some (i, r)) (hfree : b.holder? i = none)
    (hfinish : call.finish? r = some (a, r')) :
    b.call handle call = (a, (b.modify i fun _ => r').spend handle call) := by
  simp only [Book.call, hfind, hfree, hfinish]

theorem enter_of_held (hfind : b.find? handle = some (i, r)) (hheld : b.holder? i = some stage) :
    b.enter handle call = (call.turnedAway r.id, b) := by
  simp only [enter, hfind, hheld]

theorem enter_of_free (hfind : b.find? handle = some (i, r)) (hfree : b.holder? i = none) :
    b.enter handle call = (.done, (b.spend handle call).hold i (.begun call)) := by
  simp only [enter, hfind, hfree]

theorem look_of_waits (hheld : b.holder? i = some (.begun call)) (hr : b.receipts[i]? = some r)
    (hfinish : call.finish? r = none) : b.look i = (.wouldBlock, b) := by
  simp only [look, hheld, hr, hfinish]

theorem look_of_finish (hheld : b.holder? i = some (.begun call)) (hr : b.receipts[i]? = some r)
    (hfinish : call.finish? r = some (a, r')) :
    b.look i = (a, (b.modify i fun _ => r').hold i .looked) := by
  simp only [look, hheld, hr, hfinish]

theorem leave_of_looked (hheld : b.holder? i = some .looked) : b.leave i = (.done, b.free i) := by
  simp only [leave, hheld]

/-- What becomes of the book in a call that nothing comes in between of. -/
theorem call_cases (b : Book) (handle : Nat) (call : Call) :
    (b.call handle call).2 = b ∨
      ∃ i r a r', b.find? handle = some (i, r) ∧ call.finish? r = some (a, r') ∧
        (b.call handle call).2 = (b.modify i fun _ => r').spend handle call := by
  rw [Book.call]
  split
  · exact Or.inl rfl
  · next i r hfind =>
    split
    · exact Or.inl rfl
    · split
      · exact Or.inl rfl
      · next a r' hfinish => exact Or.inr ⟨i, r, a, r', hfind, hfinish, rfl⟩

/-- What becomes of the book when a call begins. -/
theorem enter_cases (b : Book) (handle : Nat) (call : Call) :
    (b.enter handle call).2 = b ∨
      ∃ i r, b.find? handle = some (i, r) ∧
        (b.enter handle call).2 = (b.spend handle call).hold i (.begun call) := by
  rw [enter]
  split
  · exact Or.inl rfl
  · next i r hfind =>
    split
    · exact Or.inl rfl
    · exact Or.inr ⟨i, r, hfind, rfl⟩

/-- What becomes of the book when a call looks. -/
theorem look_cases (b : Book) (i : Nat) :
    (b.look i).2 = b ∨
      ∃ call r a r', b.holder? i = some (.begun call) ∧ b.receipts[i]? = some r ∧
        call.finish? r = some (a, r') ∧
        (b.look i).2 = (b.modify i fun _ => r').hold i .looked := by
  rw [look]
  split
  · next call r hheld hr =>
    split
    · exact Or.inl rfl
    · next a r' hfinish => exact Or.inr ⟨call, r, a, r', hheld, hr, hfinish, rfl⟩
  · exact Or.inl rfl

/-- What becomes of the book when a call returns. -/
theorem leave_cases (b : Book) (i : Nat) : (b.leave i).2 = b ∨ (b.leave i).2 = b.free i := by
  rw [leave]
  split
  · exact Or.inr rfl
  · exact Or.inl rfl
  · exact Or.inl rfl

@[simp]
theorem holder?_hold (b : Book) (i : Nat) (stage : Stage) :
    (b.hold i stage).holder? i = some stage :=
  (Table.lookup_cons _ _ _ _).trans (if_pos rfl)

@[simp]
theorem holder?_free (b : Book) (i : Nat) : (b.free i).holder? i = none :=
  (Table.lookup_without b.holders i i).trans (if_pos rfl)

/-- To free a lock that is free changes nothing. -/
theorem free_of_free (hfree : b.holder? i = none) : b.free i = b := by
  have hall : b.holders.filter (fun h => h.1 != i) = b.holders := by
    refine List.filter_eq_self.mpr fun h hh => bne_iff_ne.mpr fun heq => ?_
    have hsome : (b.holders.lookup i).isSome :=
      (Table.lookup_isSome_iff _ i).mpr (List.mem_map.mpr ⟨h, hh, heq⟩)
    rw [holder?] at hfree
    rw [hfree] at hsome
    cases hsome
  rw [free, hall]

theorem free_hold (b : Book) (i : Nat) (stage : Stage) : (b.hold i stage).free i = b.free i := by
  have hall : ((i, stage) :: b.holders.filter fun h => h.1 != i).filter (fun h => h.1 != i) =
      b.holders.filter fun h => h.1 != i := by
    rw [List.filter_cons_of_neg (by simp), List.filter_filter]
    simp only [Bool.and_self]
  simp only [free, hold, hall]

/-- A call that nothing comes in between of is one that begins, looks and returns. -/
theorem leave_look_enter (hfind : b.find? handle = some (i, r)) (hfree : b.holder? i = none)
    (hcall : (b.call handle call).1 ≠ .wouldBlock) :
    ((b.enter handle call).2.look i).1 = (b.call handle call).1 ∧
      ((b.enter handle call).2.look i).2.leave i = (.done, (b.call handle call).2) := by
  cases hfinish : call.finish? r with
  | none => exact absurd (congrArg Prod.fst (call_of_waits hfind hfree hfinish)) hcall
  | some result =>
    obtain ⟨a, r'⟩ := result
    have hr : ((b.spend handle call).hold i (.begun call)).receipts[i]? = some r :=
      (congrArg (·[i]?) (spend_receipts b handle call)).trans (find?_eq_some hfind).2
    rw [enter_of_free hfind hfree, call_of_finish hfind hfree hfinish,
      look_of_finish (holder?_hold _ _ _) hr hfinish, leave_of_looked (holder?_hold _ _ _),
      free_hold]
    refine ⟨rfl, Prod.ext rfl ?_⟩
    -- The look changes a receipt and neither handles nor locks.
    calc (((b.spend handle call).hold i (.begun call)).modify i fun _ => r').free i
      _ = (((b.spend handle call).hold i (.begun call)).free i).modify i fun _ => r' := rfl
      _ = ((b.free i).spend handle call).modify i fun _ => r' := by
        rw [free_hold]
        cases call <;> rfl
      _ = (b.modify i fun _ => r').spend handle call := by
        rw [free_of_free hfree]
        cases call <;> rfl

/-- Calls that are made at once account for what they do to the receipts. -/
theorem accounts_call (h : Accounts es b.receipts) (handle : Nat) (call : Call) :
    Accounts (es ++ ((b.find? handle).bind fun found =>
      (b.call handle call).1.reports? found.1).toList) (b.call handle call).2.receipts := by
  cases hfind : b.find? handle with
  | none =>
    simp only [Book.call, hfind, Option.bind_none, Option.toList_none, List.append_nil]
    exact h
  | some found =>
    obtain ⟨i, r⟩ := found
    have hr := (find?_eq_some hfind).2
    rw [Option.bind_some]
    cases hlock : b.holder? i with
    | some other =>
      rw [call_of_held hfind hlock, reports?_turnedAway, Option.toList_none, List.append_nil]
      exact h
    | none =>
      cases hfinish : call.finish? r with
      | none =>
        rw [call_of_waits hfind hlock hfinish]
        exact (List.append_nil es).symm ▸ h
      | some result =>
        rw [call_of_finish hfind hlock hfinish, spend_receipts]
        exact h.finish hr hfinish

/-- A call that looks when it was under way accounts for what it does to the receipts. -/
theorem accounts_look (h : Accounts es b.receipts) (i : Nat) :
    Accounts (es ++ ((b.look i).1.reports? i).toList) (b.look i).2.receipts := by
  have hnone (a : Answer) (ha : a.reports? i = none) :
      Accounts (es ++ (a.reports? i).toList) b.receipts := by
    rw [ha, Option.toList_none, List.append_nil]
    exact h
  cases hlock : b.holder? i with
  | none =>
    simp only [look, hlock]
    exact hnone .missing rfl
  | some stage =>
    cases stage with
    | looked =>
      simp only [look, hlock]
      exact hnone .missing rfl
    | begun call =>
      cases hr : b.receipts[i]? with
      | none =>
        simp only [look, hlock, hr]
        exact hnone .missing rfl
      | some r =>
        cases hfinish : call.finish? r with
        | none =>
          rw [look_of_waits hlock hr hfinish]
          exact hnone .wouldBlock rfl
        | some result =>
          rw [look_of_finish hlock hr hfinish]
          exact h.finish hr hfinish

end

/-- What happens in an operation accounts for what it does to the receipts. -/
theorem accounts_perform (h : Accounts es b.receipts) (op : Operation) :
    Accounts (es ++ (b.happens op).toList) (b.perform op).2.receipts := by
  cases op with
  | issue id =>
    rw [happens, Option.toList_none, List.append_nil]
    exact h.issue id
  | ready id o => exact h.ready id o
  | drop handle =>
    rw [happens, Option.toList_none, List.append_nil]
    exact h
  | copy handle | id handle =>
    rw [happens, Option.toList_none, List.append_nil, perform]
    cases b.find? handle with
    | none => exact h
    | some found => exact h
  | describe handle => exact accounts_call h handle .describe
  | answer i o =>
    have hreceipts : (b.perform (.answer i o)).2.receipts =
        b.receipts.modify i fun r => r.answer o := rfl
    rw [happens, hreceipts]
    cases hr : b.receipts[i]? with
    | none =>
      rw [modify_of_none hr, Option.map_none, Option.toList_none, List.append_nil]
      exact h
    | some r =>
      rw [modify_eq_set hr]
      exact h.settle hr (r.settled?_answer o).1 (r.settled?_answer o).2
  | abandon i =>
    have hreceipts : (b.perform (.abandon i)).2.receipts = b.receipts.modify i abandon := rfl
    rw [happens, hreceipts]
    cases hr : b.receipts[i]? with
    | none =>
      rw [modify_of_none hr, Option.map_none, Option.toList_none, List.append_nil]
      exact h
    | some r =>
      rw [modify_eq_set hr]
      exact h.settle hr r.settled?_abandon.1 r.settled?_abandon.2
  | enter handle call =>
    rw [happens, Option.toList_none, List.append_nil]
    have hreceipts : (b.enter handle call).2.receipts = b.receipts := by
      rcases b.enter_cases handle call with hsame | ⟨i, r, -, hbegun⟩
      · rw [hsame]
      · rw [hbegun]
        exact spend_receipts b handle call
    exact hreceipts ▸ h
  | poll handle => exact accounts_call h handle .poll
  | wait handle => exact accounts_call h handle .wait
  | look i => exact accounts_look h i
  | leave i =>
    rw [happens, Option.toList_none, List.append_nil, perform]
    rcases b.leave_cases i with hsame | hfreed
    · exact hsame.symm ▸ h
    · exact hfreed.symm ▸ h

/-- The history of a run accounts for the receipts after it. -/
theorem accounts_run (h : Accounts es b.receipts) (ops : List Operation) :
    Accounts (es ++ history ops b) (run ops b).receipts := by
  induction ops generalizing es b with
  | nil =>
    rw [history, List.append_nil]
    exact h
  | cons op ops ih =>
    rw [history, ← List.append_assoc]
    exact ih (accounts_perform h op)

theorem accounts_empty : Accounts [] ({} : Book).receipts where
  settled i r hr := by cases hr
  observed i r hr := by cases hr
  reports i o hmem := by cases hmem
  known e he := by cases he

/-! ### Handles and locks -/

/-- A call uses up no other handles, and its own one only if it waits. -/
theorem handles_spend {x : Option Nat} (hx : b.handles[handle]? = some x) (k : Nat) {call : Call}
    (hk : call = .wait → k ≠ handle) : (b.spend k call).handles[handle]? = some x := by
  cases call with
  | wait => exact (List.getElem?_set_ne (hk rfl)).trans hx
  | poll | describe | waitFor => exact hx

theorem handles_call {x : Option Nat} (hx : b.handles[handle]? = some x) (k : Nat) {call : Call}
    (hk : call = .wait → k ≠ handle) : (b.call k call).2.handles[handle]? = some x := by
  rcases b.call_cases k call with hsame | ⟨j, y, a, y', -, -, hmade⟩
  · rwa [hsame]
  · rw [hmade]
    exact handles_spend (b := b.modify j fun _ => y') hx k hk

theorem handles_perform {x : Option Nat} {op : Operation} (hx : b.handles[handle]? = some x)
    (hop : ¬ op.usesUp handle) : (b.perform op).2.handles[handle]? = some x := by
  have hmore (y : Option Nat) : (b.handles ++ [y])[handle]? = some x := by
    rwa [List.getElem?_append_left (List.getElem?_eq_some_iff.mp hx).1]
  cases op with
  | issue | ready => exact hmore _
  | answer | abandon => exact hx
  | drop k => exact (List.getElem?_set_ne hop).trans hx
  | copy k =>
    rw [perform]
    cases b.find? k with
    | none => exact hx
    | some found => exact hmore _
  | id k =>
    rw [perform]
    cases b.find? k with
    | none => exact hx
    | some found => exact hx
  | describe k | poll k => exact handles_call hx k (by simp)
  | wait k => exact handles_call hx k fun _ => hop
  | enter k call =>
    rw [perform]
    rcases b.enter_cases k call with hsame | ⟨j, y, -, hbegun⟩
    · rwa [hsame]
    · rw [hbegun]
      refine handles_spend hx k fun hcall => ?_
      subst hcall
      exact hop
  | look j =>
    rw [perform]
    rcases b.look_cases j with hsame | ⟨call, y, a, y', -, -, -, hlooked⟩
    · rwa [hsame]
    · rwa [hlooked]
  | leave j =>
    rw [perform]
    rcases b.leave_cases j with hsame | hfreed
    · rwa [hsame]
    · rwa [hfreed]

theorem id_set {j : Nat} {y y' : Receipt} (hy : rs[j]? = some y) (hid : y'.id = y.id)
    (hr : rs[i]? = some r) : ∃ r', (rs.set j y')[i]? = some r' ∧ r'.id = r.id := by
  by_cases hij : j = i
  · subst hij
    rw [hy] at hr
    cases hr
    exact ⟨y', by rw [List.getElem?_set_self', hy]; rfl, hid⟩
  · exact ⟨r, by rwa [List.getElem?_set_ne hij], rfl⟩

theorem id_modify {f : Receipt → Receipt} (hf : ∀ r, (f r).id = r.id) (j : Nat)
    (hr : rs[i]? = some r) : ∃ r', (rs.modify j f)[i]? = some r' ∧ r'.id = r.id := by
  cases hy : rs[j]? with
  | none => exact ⟨r, by rwa [modify_of_none hy], rfl⟩
  | some y =>
    rw [modify_eq_set hy]
    exact id_set hy (hf y) hr

/-- What a call that returns has made of a receipt has its id. -/
theorem id_finish {j : Nat} {y y' : Receipt} {call : Call} {a : Answer} (hy : rs[j]? = some y)
    (hfinish : call.finish? y = some (a, y')) (hr : rs[i]? = some r) :
    ∃ r', (rs.modify j fun _ => y')[i]? = some r' ∧ r'.id = r.id := by
  rw [modify_eq_set hy]
  exact id_set hy (Call.finish?_id hfinish) hr

theorem id_call (hr : b.receipts[i]? = some r) (k : Nat) (call : Call) :
    ∃ r', (b.call k call).2.receipts[i]? = some r' ∧ r'.id = r.id := by
  rcases b.call_cases k call with hsame | ⟨j, y, a, y', hfind, hfinish, hmade⟩
  · exact ⟨r, by rwa [hsame], rfl⟩
  · rw [hmade, spend_receipts]
    exact id_finish (find?_eq_some hfind).2 hfinish hr

theorem id_perform (hr : b.receipts[i]? = some r) (op : Operation) :
    ∃ r', (b.perform op).2.receipts[i]? = some r' ∧ r'.id = r.id := by
  have hsame : ∃ r', b.receipts[i]? = some r' ∧ r'.id = r.id := ⟨r, hr, rfl⟩
  have hmore (x : Receipt) : ∃ r', (b.receipts ++ [x])[i]? = some r' ∧ r'.id = r.id :=
    ⟨r, by rwa [List.getElem?_append_left (List.getElem?_eq_some_iff.mp hr).1], rfl⟩
  cases op with
  | issue | ready => exact hmore _
  | drop => exact hsame
  | answer j o =>
    refine id_modify (fun r => ?_) j hr
    rw [Receipt.answer]
    split_ifs
    · rfl
    · rfl
  | abandon j =>
    refine id_modify (fun r => ?_) j hr
    rw [Receipt.abandon]
    split_ifs
    · rfl
    · rfl
  | copy k | id k =>
    rw [perform]
    cases b.find? k with
    | none => exact hsame
    | some found => exact hsame
  | describe k | poll k | wait k => exact id_call hr k _
  | enter k call =>
    rw [perform]
    rcases b.enter_cases k call with hunchanged | ⟨j, y, -, hbegun⟩
    · rwa [hunchanged]
    · rw [hbegun]
      exact ⟨r, (congrArg (·[i]?) (spend_receipts b k call)).trans hr, rfl⟩
  | look j =>
    rw [perform]
    rcases b.look_cases j with hunchanged | ⟨call, y, a, y', -, hy, hfinish, hlooked⟩
    · rwa [hunchanged]
    · rw [hlooked]
      exact id_finish hy hfinish hr
  | leave j =>
    rw [perform]
    rcases b.leave_cases j with hunchanged | hfreed
    · rwa [hunchanged]
    · rwa [hfreed]

/-- A handle stays on its receipt unless it is dropped or waited with. -/
theorem find?_perform {op : Operation} (hfind : b.find? handle = some (i, r))
    (hop : ¬ op.usesUp handle) :
    ∃ r', (b.perform op).2.find? handle = some (i, r') ∧ r'.id = r.id := by
  obtain ⟨hhandle, hr⟩ := find?_eq_some hfind
  obtain ⟨r', hr', hid⟩ := id_perform hr op
  exact ⟨r', find?_of_getElem? (handles_perform hhandle hop) hr', hid⟩

theorem find?_run {ops : List Operation} (hfind : b.find? handle = some (i, r))
    (hops : ∀ op ∈ ops, ¬ op.usesUp handle) :
    ∃ r', (run ops b).find? handle = some (i, r') ∧ r'.id = r.id := by
  induction ops generalizing b r with
  | nil => exact ⟨r, hfind, rfl⟩
  | cons op ops ih =>
    obtain ⟨r₁, hfind₁, hid₁⟩ := find?_perform hfind (hops op List.mem_cons_self)
    obtain ⟨r₂, hfind₂, hid₂⟩ := ih hfind₁ fun op hop => hops op (List.mem_cons_of_mem _ hop)
    exact ⟨r₂, hfind₂, hid₂.trans hid₁⟩

theorem mem_free {h : Nat × Stage} (hh : h ∈ (b.free i).holders) :
    ∃ stage, (h.1, stage) ∈ b.holders :=
  ⟨h.2, List.mem_of_mem_filter hh⟩

/-- Of the operations only a call that begins takes a lock, and it is that of a receipt. -/
theorem holders_perform {op : Operation} {h : Nat × Stage} (hh : h ∈ (b.perform op).2.holders) :
    (∃ stage, (h.1, stage) ∈ b.holders) ∨
      ∃ k call r, op = .enter k call ∧ b.find? k = some (h.1, r) := by
  have hcall (k : Nat) (call : Call) : (b.call k call).2.holders = b.holders := by
    rcases b.call_cases k call with hsame | ⟨j, y, a, y', -, -, hmade⟩
    · rw [hsame]
    · rw [hmade]
      exact spend_holders (b.modify j fun _ => y') k call
  cases op with
  | issue | ready | drop | answer | abandon => exact Or.inl ⟨h.2, hh⟩
  | copy k | id k =>
    rw [perform] at hh
    cases hfind : b.find? k with
    | none =>
      rw [hfind] at hh
      exact Or.inl ⟨h.2, hh⟩
    | some found =>
      rw [hfind] at hh
      exact Or.inl ⟨h.2, hh⟩
  | describe k | poll k | wait k =>
    rw [perform, hcall] at hh
    exact Or.inl ⟨h.2, hh⟩
  | enter k call =>
    rw [perform] at hh
    rcases b.enter_cases k call with hsame | ⟨i, r, hfind, hbegun⟩
    · exact Or.inl ⟨h.2, hsame ▸ hh⟩
    · rw [hbegun] at hh
      rcases List.mem_cons.mp hh with rfl | hh
      · exact Or.inr ⟨k, call, r, rfl, hfind⟩
      · exact Or.inl (spend_holders b k call ▸ mem_free hh)
  | look j =>
    rw [perform] at hh
    rcases b.look_cases j with hsame | ⟨call, r, a, r', hheld, -, -, hlooked⟩
    · exact Or.inl ⟨h.2, hsame ▸ hh⟩
    · rw [hlooked] at hh
      rcases List.mem_cons.mp hh with rfl | hh
      · exact Or.inl ⟨_, Table.mem_of_lookup hheld⟩
      · exact Or.inl (mem_free hh)
  | leave j =>
    rw [perform] at hh
    rcases b.leave_cases j with hsame | hfreed
    · exact Or.inl ⟨h.2, hsame ▸ hh⟩
    · exact Or.inl (mem_free (hfreed ▸ hh))

/-- The locks that are held are locks of receipts. -/
theorem holders_run (hb : ∀ h ∈ b.holders, ∃ r, b.receipts[h.1]? = some r) (ops : List Operation) :
    ∀ h ∈ (run ops b).holders, ∃ r, (run ops b).receipts[h.1]? = some r := by
  induction ops generalizing b with
  | nil => exact hb
  | cons op ops ih =>
    refine ih fun h hh => ?_
    have hbefore : ∃ r, b.receipts[h.1]? = some r := by
      rcases holders_perform hh with ⟨stage, hstage⟩ | ⟨k, call, r, -, hfind⟩
      · exact hb (h.1, stage) hstage
      · exact ⟨r, (find?_eq_some hfind).2⟩
    obtain ⟨r, hr⟩ := hbefore
    obtain ⟨r', hr', -⟩ := id_perform hr op
    exact ⟨r', hr'⟩

/-- As long as no call begins without returning at once, no lock is held. -/
theorem holders_run_of_not_enters {ops : List Operation} (hops : ∀ op ∈ ops, op.enters = false)
    (hb : b.holders = []) : (run ops b).holders = [] := by
  induction ops generalizing b with
  | nil => exact hb
  | cons op ops ih =>
    refine ih (fun op hop => hops op (List.mem_cons_of_mem _ hop)) ?_
    refine List.eq_nil_iff_forall_not_mem.mpr fun h hh => ?_
    rcases holders_perform hh with ⟨stage, hstage⟩ | ⟨k, call, r, rfl, -⟩
    · rw [hb] at hstage
      cases hstage
    · cases hops _ List.mem_cons_self

/-! ### What calls answer -/

/-- What a call answers that looks, by the history up to then. -/
theorem Accounts.finish? (h : Accounts es b.receipts) (hr : b.receipts[i]? = some r) (call : Call) :
    (call = .wait ∧ settlement es i = none ∧ call.finish? r = none) ∨
      ∃ r', call.finish? r = some (match call with
        | .poll | .waitFor => .outcome (settlement es i)
        | .describe => .text (describeAs r.id (report es i))
        | .wait => .outcome (settlement es i), r') ∧
        (call = .wait → (settlement es i).isSome) := by
  have houtcome := h.outcome?_eq hr
  cases call with
  | poll | waitFor => exact Or.inr ⟨_, by rw [Call.finish?, ← houtcome]; rfl, by simp⟩
  | describe =>
    refine Or.inr ⟨r, ?_, by simp⟩
    rw [Call.finish?, describe, h.observed i r hr]
  | wait =>
    rw [Call.finish?]
    cases ho : settlement es i with
    | none =>
      rw [ho] at houtcome
      exact Or.inl ⟨rfl, rfl, by rw [poll_of_none houtcome]⟩
    | some o =>
      rw [ho] at houtcome
      exact Or.inr ⟨_, by rw [poll_of_some houtcome], fun _ => rfl⟩

theorem shares (h : Accounts es b.receipts) (hfind : b.find? handle = some (i, r)) :
    Shares es b handle i r := by
  obtain ⟨-, hr⟩ := find?_eq_some hfind
  refine { poll := fun hfree => ?_, wait := fun hfree => ?_, describe := fun hfree => ?_,
           enter := fun hfree call => ?_, held := fun hheld => ?_, copy := ?_,
           stays := fun _ => find?_run hfind }
  · rcases h.finish? hr .poll with ⟨hcall, -⟩ | ⟨r', hfinish, -⟩
    · cases hcall
    · exact congrArg Prod.fst (call_of_finish hfind hfree hfinish)
  · rcases h.finish? hr .wait with ⟨-, ho, hfinish⟩ | ⟨r', hfinish, hsome⟩
    · rw [ho]
      exact congrArg Prod.fst (call_of_waits hfind hfree hfinish)
    · obtain ⟨o, ho⟩ := Option.isSome_iff_exists.mp (hsome rfl)
      rw [ho] at hfinish ⊢
      exact congrArg Prod.fst (call_of_finish hfind hfree hfinish)
  · rcases h.finish? hr .describe with ⟨hcall, -⟩ | ⟨r', hfinish, -⟩
    · cases hcall
    · exact congrArg Prod.fst (call_of_finish hfind hfree hfinish)
  · rw [perform, enter_of_free hfind hfree]
    exact ⟨rfl, holder?_hold _ _ _⟩
  · obtain ⟨other, hother⟩ := Option.ne_none_iff_exists'.mp hheld
    exact ⟨call_of_held hfind hother, call_of_held hfind hother, call_of_held hfind hother,
      fun call => enter_of_held hfind hother⟩
  · refine ⟨{ b with handles := b.handles ++ [some i] }, ?_, ?_⟩
    · rw [perform, hfind]
    · exact find?_of_getElem? List.getElem?_concat_length hr

theorem looks (h : Accounts es b.receipts) {call : Call} (hheld : b.holder? i = some (.begun call))
    (hr : b.receipts[i]? = some r) : Looks es b i r call := by
  have hstays : b.perform (.leave i) = (.wouldBlock, b) := by
    rw [perform, leave, hheld]
  rcases h.finish? hr call with ⟨rfl, ho, hfinish⟩ | ⟨r', hfinish, hsome⟩
  · have hlook : b.perform (.look i) = (.wouldBlock, b) := look_of_waits hheld hr hfinish
    refine { answer := ?_, waits := fun _ _ => ?_, looked := fun hsettled => ?_, stays := hstays }
    · rw [hlook, ho]
    · rw [hlook]
    · exact absurd ho (hsettled rfl)
  · have hlook : b.perform (.look i) = _ := look_of_finish hheld hr hfinish
    refine { answer := ?_, waits := fun hcall ho => ?_, looked := fun _ => ?_, stays := hstays }
    · rw [hlook]
      cases call with
      | poll | waitFor | describe => rfl
      | wait =>
        obtain ⟨o, ho⟩ := Option.isSome_iff_exists.mp (hsome rfl)
        simp only [ho]
    · rw [ho] at hsome
      cases hsome hcall
    · rw [hlook]
      exact holder?_hold _ _ _

/-! ### Main result -/

/-- **All handles on a receipt report one outcome.** Receipts give the answers of cells over a
channel. Every outcome that a run reports of a receipt is how the receipt was settled, which stays
as it is, as does what was first reported. Every handle that is there after the run shares the
receipt with all others on it. A call that is under way looks at the receipt once, and then it can
return. After calls that came one after the other, no lock is held. -/
theorem outcome_shared (ops : List Operation) :
    let b := run ops {}
    let es := history ops {}
    Cells.answers ops {} = answers ops {} ∧
    (∀ i o, .reported i o ∈ es → settlement es i = some o) ∧
    (∀ later i o,
      (settlement es i = some o → settlement (history (ops ++ later) {}) i = some o) ∧
      (report es i = some o → report (history (ops ++ later) {}) i = some o)) ∧
    (∀ handle i r, b.find? handle = some (i, r) → Shares es b handle i r) ∧
    (∀ i call, b.holder? i = some (.begun call) →
      ∃ r, b.receipts[i]? = some r ∧ Looks es b i r call) ∧
    (∀ i, b.holder? i = some .looked →
      ∃ b', b.perform (.leave i) = (.done, b') ∧ b'.holder? i = none) ∧
    ((∀ op ∈ ops, op.enters = false) → ∀ i, b.holder? i = none) := by
  intro b es
  have haccounts : Accounts es b.receipts := accounts_run accounts_empty ops
  refine ⟨Cells.answers_eq ops, haccounts.reports, fun later i o => ?_,
    fun _ _ _ => shares haccounts, fun i call hheld => ?_, fun i hheld => ?_, fun hops i => ?_⟩
  · rw [history_append]
    exact ⟨fun h => settlement_append h _, fun h => report_append h _⟩
  · obtain ⟨r, hr⟩ := holders_run (b := {}) nofun ops _ (Table.mem_of_lookup hheld)
    exact ⟨r, hr, looks haccounts hheld hr⟩
  · exact ⟨_, leave_of_looked hheld, holder?_free b i⟩
  · rw [holder?, holders_run_of_not_enters hops rfl]
    rfl

/-- A handle and its copy on a request whose acknowledger was dropped, while a wait through a second
copy was under way and when it has returned. -/
theorem outcome_shared_dropped :
    let ops : List Operation := [.issue "req-1", .copy 0, .copy 0, .poll 1]
    let waiting : List Operation := ops ++ [.enter 2 .wait, .abandon 0]
    let returning : List Operation := waiting ++ [.look 0]
    let returned : List Operation := returning ++ [.leave 0]
    let dropped : Outcome := .error (.dropped "req-1")
    (∀ i, (run ops {}).holder? i = none) ∧
    ((run waiting {}).perform (.poll 1)).1 = .outcome none ∧
    ((run waiting {}).perform (.look 0)).1 = .outcome (some dropped) ∧
    (∃ b', (run returning {}).perform (.leave 0) = (.done, b') ∧ b'.holder? 0 = none) ∧
    ((run returned {}).perform (.poll 1)).1 = .outcome (some dropped) ∧
    ∃ r, (run [.poll 1, .describe 1] (run returned {})).find? 1 = some (0, r) ∧ r.id = "req-1" := by
  intro ops waiting returning returned dropped
  obtain ⟨-, -, -, -, -, -, hsequential⟩ := outcome_shared ops
  obtain ⟨-, -, -, hwaiting, hlooks, -, -⟩ := outcome_shared waiting
  obtain ⟨-, -, -, -, -, hleaves, -⟩ := outcome_shared returning
  obtain ⟨-, -, -, hshares, -, -, -⟩ := outcome_shared returned
  obtain ⟨r, hr, hlook⟩ := hlooks 0 .wait rfl
  have hheld := (hwaiting 1 0 _ rfl).held nofun
  have hreturned := hshares 1 0 _ rfl
  refine ⟨hsequential ?_, congrArg Prod.fst hheld.1, hlook.answer, hleaves 0 rfl,
    hreturned.poll rfl, hreturned.stays _ fun op hop => ?_⟩
  · decide
  · rcases List.mem_cons.mp hop with rfl | hop
    · exact not_false
    · cases List.mem_singleton.mp hop
      exact not_false

/-- The outcome of a receipt is not reported through every handle as soon as there is one. While a
wait is under way that began before the acknowledger answered, a look finds nothing, although the
wait is going to report the answer. While a look is under way, a description has nothing, although
the outcome was reported before. -/
theorem unreported_beside_wait :
    let waiting : List Operation := [.issue "req-1", .copy 0, .enter 0 .wait, .answer 0 (.ok ())]
    let looking : List Operation :=
      [.issue "req-1", .copy 0, .answer 0 (.ok ()), .poll 0, .enter 0 .poll]
    (settlement (history waiting {}) 0 = some (.ok ()) ∧
      ((run waiting {}).find? 1).map Prod.fst = some 0 ∧
      ((run waiting {}).perform (.poll 1)).1 = .outcome none ∧
      ((run waiting {}).perform (.look 0)).1 = .outcome (some (.ok ()))) ∧
    report (history looking {}) 0 = some (.ok ()) ∧
      ((run looking {}).find? 1).map Prod.fst = some 0 ∧
      ((run looking {}).perform (.describe 1)).1 = .text (describeAs "req-1" none) :=
  ⟨⟨rfl, rfl, rfl, rfl⟩, rfl, rfl, rfl⟩

end Book

end ChatRouting.Receipt
