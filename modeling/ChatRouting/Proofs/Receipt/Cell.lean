import ChatRouting.Receipt.Book
import Mathlib.Data.Option.Basic
import Mathlib.Tactic.SplitIfs

/-!
# Receipts over a channel

A receipt can be kept by a channel for one message, which the acknowledger is the only one to send
on, and a cell in which the first look at the channel that finds out how the request ended writes
it down. The message is taken out of the channel by that look. An acknowledger that is dropped
leaves the channel without a sender, but an acknowledger that has answered leaves it so as well,
with the answer in it or taken out of it. The cell has a lock, and a call looks at the cell and at
the channel only while it holds it.

Such a cell is in one of five states, each of which shows a receipt. Whatever is done with cells, by
calls one after the other or by calls that meet at a lock, gives the answers of the receipts that
they show.

## Main definitions

* `Receipt.Cell`, `Receipt.Cell.look`, `Receipt.Cell.complete`, `Receipt.Cell.detach`
* `Receipt.Cell.finish?`: what a call does that holds the lock of a cell and looks at it
* `Receipt.Cell.Shows`: the five states, and what they show
* `Receipt.Cells`: cells with the handles on them

## Main results

* `Receipt.Cells.answers_eq`: cells give the answers of a book
-/

namespace ChatRouting.Receipt

/-- A channel for one message, and the outcome that was found there. -/
structure Cell where
  id : String
  /-- The message in the channel. -/
  slot : Option Outcome := none
  /-- The channel has a sender. -/
  attached : Bool := true
  /-- The outcome that was written down. -/
  outcome : Option Outcome := none

/-- What is found in a channel. -/
inductive Cell.Found where
  | message (o : Outcome)
  | empty
  | disconnected

namespace Cell

/-- A message is taken out of the channel, also if there is no sender any more. -/
def receive (c : Cell) : Found × Cell :=
  match c.slot, c.attached with
  | some o, _ => (.message o, { c with slot := none })
  | none, true => (.empty, c)
  | none, false => (.disconnected, c)

/-- A look at the cell by a call that holds its lock. Only if nothing is written down, the channel
is looked at. -/
def look (c : Cell) : Option Outcome × Cell :=
  match c.outcome with
  | some o => (some o, c)
  | none =>
    match c.receive with
    | (.message o, c) => (some o, { c with outcome := some o })
    | (.empty, c) => (none, c)
    | (.disconnected, c) =>
      (some (.error (.dropped c.id)), { c with outcome := some (.error (.dropped c.id)) })

/-- The acknowledger answers, which uses it up. -/
def complete (c : Cell) (o : Outcome) : Cell :=
  if c.attached then { c with slot := some o, attached := false } else c

/-- The acknowledger is dropped. -/
def detach (c : Cell) : Cell :=
  { c with attached := false }

/-- A description of the cell, which does not look into the channel. -/
def describe (c : Cell) : String :=
  describeAs c.id c.outcome

/-- What a call answers that looks at the cell, with the cell afterwards, unless it goes on
waiting. -/
def finish? (c : Cell) : Call → Option (Book.Answer × Cell)
  | .poll | .waitFor => some (.outcome c.look.1, c.look.2)
  | .describe => some (.text c.describe, c)
  | .wait =>
    match c.look with
    | (none, _) => none
    | (some o, c) => some (.outcome (some o), c)

/-- The states of a cell, and the receipts that they show. -/
inductive Shows : Cell → Receipt → Prop
  | awaited (id : String) : Shows { id } { id }
  /-- The answer is in the channel. -/
  | sent (id : String) (o : Outcome) :
      Shows { id, slot := some o, attached := false } { id, reply := .given o }
  /-- The answer was taken out of the channel. -/
  | taken (id : String) (o : Outcome) :
      Shows { id, attached := false, outcome := some o }
        { id, reply := .given o, observed := some o }
  | dropped (id : String) : Shows { id, attached := false } { id, reply := .abandoned }
  /-- The channel was found without a sender. -/
  | missed (id : String) :
      Shows { id, attached := false, outcome := some (.error (.dropped id)) }
        { id, reply := .abandoned, observed := some (.error (.dropped id)) }

variable {c : Cell} {r : Receipt}

theorem Shows.id_eq (h : Shows c r) : c.id = r.id := by
  cases h <;> rfl

theorem Shows.look_eq (h : Shows c r) : c.look.1 = r.poll.1 := by
  cases h <;> rfl

theorem Shows.look (h : Shows c r) : Shows c.look.2 r.poll.2 := by
  cases h with
  | awaited id => exact .awaited id
  | sent id o | taken id o => exact .taken id o
  | dropped id | missed id => exact .missed id

theorem Shows.complete (h : Shows c r) (o : Outcome) : Shows (c.complete o) (r.answer o) := by
  cases h with
  | awaited id => exact .sent id o
  | sent id o => exact .sent id o
  | taken id o => exact .taken id o
  | dropped id => exact .dropped id
  | missed id => exact .missed id

theorem Shows.detach (h : Shows c r) : Shows c.detach r.abandon := by
  cases h with
  | awaited id | dropped id => exact .dropped id
  | sent id o => exact .sent id o
  | taken id o => exact .taken id o
  | missed id => exact .missed id

theorem Shows.describe_eq (h : Shows c r) : c.describe = r.describe := by
  cases h <;> rfl

/-- A call goes on waiting in both, or looks and has the same answer. -/
theorem Shows.finish? (h : Shows c r) (call : Call) :
    (c.finish? call = none ∧ call.finish? r = none) ∨
      ∃ a c' r', c.finish? call = some (a, c') ∧ call.finish? r = some (a, r') ∧ Shows c' r' := by
  have hlook := h.look_eq
  have hnext := h.look
  cases call with
  | poll | waitFor =>
    exact Or.inr ⟨_, _, _, rfl, by rw [Call.finish?, ← hlook], hnext⟩
  | describe => exact Or.inr ⟨_, _, _, rfl, by rw [Call.finish?, ← h.describe_eq], h⟩
  | wait =>
    rw [Cell.finish?, Call.finish?]
    generalize c.look = look at hlook hnext ⊢
    generalize r.poll = poll at hlook hnext ⊢
    obtain ⟨o, c'⟩ := look
    obtain ⟨o', r'⟩ := poll
    cases hlook
    cases o with
    | none => exact Or.inl ⟨rfl, rfl⟩
    | some o => exact Or.inr ⟨_, _, _, rfl, rfl, hnext⟩

end Cell

/-- Cells and the handles on them. -/
structure Cells where
  cells : List Cell := []
  handles : List (Option Nat) := []
  /-- The cells whose lock is held, each with what the call has done that holds it. -/
  holders : List (Nat × Stage) := []

namespace Cells

/-- The number and the cell of a handle. -/
def find? (b : Cells) (handle : Nat) : Option (Nat × Cell) := do
  let i ← b.handles[handle]?.join
  let c ← b.cells[i]?
  return (i, c)

/-- What the call has done that holds the lock of a cell. -/
def holder? (b : Cells) (i : Nat) : Option Stage :=
  b.holders.lookup i

/-- The lock of a cell is free. -/
def free (b : Cells) (i : Nat) : Cells :=
  { b with holders := b.holders.filter fun h => h.1 != i }

/-- The lock of a cell is held. -/
def hold (b : Cells) (i : Nat) (stage : Stage) : Cells :=
  { b with holders := (i, stage) :: (b.free i).holders }

/-- The cells with another one under a number. -/
def modify (b : Cells) (i : Nat) (f : Cell → Cell) : Cells :=
  { b with cells := b.cells.modify i f }

/-- The cells with another one and a handle on it. -/
def add (b : Cells) (c : Cell) : Cells :=
  { b with cells := b.cells ++ [c], handles := b.handles ++ [some b.cells.length] }

/-- The cells without a handle. -/
def release (b : Cells) (handle : Nat) : Cells :=
  { b with handles := b.handles.set handle none }

/-- The cells after a handle was used for a call, which a wait uses up. -/
def spend (b : Cells) (handle : Nat) : Call → Cells
  | .wait => b.release handle
  | .poll | .describe | .waitFor => b

/-- A call begins. From then on it holds the lock of the cell. -/
def enter (b : Cells) (handle : Nat) (call : Call) : Book.Answer × Cells :=
  match b.find? handle with
  | none => (.missing, b)
  | some (i, c) =>
    match b.holder? i with
    | some _ => (call.turnedAway c.id, b)
    | none => (.done, (b.spend handle call).hold i (.begun call))

/-- The call that holds the lock of a cell looks at it. -/
def look (b : Cells) (i : Nat) : Book.Answer × Cells :=
  match b.holder? i, b.cells[i]? with
  | some (.begun call), some c =>
    match c.finish? call with
    | none => (.wouldBlock, b)
    | some (a, c) => (a, (b.modify i fun _ => c).hold i .looked)
  | _, _ => (.missing, b)

/-- The call that holds the lock of a cell returns if it has looked. -/
def leave (b : Cells) (i : Nat) : Book.Answer × Cells :=
  match b.holder? i with
  | some .looked => (.done, b.free i)
  | some (.begun _) => (.wouldBlock, b)
  | none => (.missing, b)

/-- A call that nothing comes in between of. -/
def call (b : Cells) (handle : Nat) (call : Call) : Book.Answer × Cells :=
  match b.find? handle with
  | none => (.missing, b)
  | some (i, c) =>
    match b.holder? i with
    | some _ => (call.turnedAway c.id, b)
    | none =>
      match c.finish? call with
      | none => (.wouldBlock, b)
      | some (a, c) => (a, (b.modify i fun _ => c).spend handle call)

/-- One operation on cells. -/
def perform (b : Cells) : Book.Operation → Book.Answer × Cells
  | .issue id => (.issued b.handles.length b.cells.length, b.add { id })
  | .ready id o => (.ready b.handles.length, b.add ({ id : Cell }.complete o))
  | .copy handle =>
    match b.find? handle with
    | some (i, _) => (.ready b.handles.length, { b with handles := b.handles ++ [some i] })
    | none => (.missing, b)
  | .id handle =>
    match b.find? handle with
    | some (_, c) => (.text c.id, b)
    | none => (.missing, b)
  | .describe handle => b.call handle .describe
  | .poll handle => b.call handle .poll
  | .wait handle => b.call handle .wait
  | .drop handle => (.done, b.release handle)
  | .answer i o => (.done, b.modify i fun c => c.complete o)
  | .abandon i => (.done, b.modify i Cell.detach)
  | .enter handle call => b.enter handle call
  | .look i => b.look i
  | .leave i => b.leave i

/-- The answers of operations one after the other. -/
def answers : List Book.Operation → Cells → List Book.Answer
  | [], _ => []
  | op :: ops, b => (b.perform op).1 :: answers ops (b.perform op).2

end Cells

/-- The answers of operations one after the other. -/
def Book.answers : List Book.Operation → Book → List Book.Answer
  | [], _ => []
  | op :: ops, b => (b.perform op).1 :: answers ops (b.perform op).2

namespace Cells

/-- The cells show the receipts of a book. -/
structure Shows (b : Cells) (b' : Book) : Prop where
  cells : ∀ i : Nat, Option.Rel Cell.Shows b.cells[i]? b'.receipts[i]?
  length : b.cells.length = b'.receipts.length
  handles : b.handles = b'.handles
  holders : b.holders = b'.holders

variable {b : Cells} {b' : Book} {c : Cell} {r : Receipt}

/-- Under a number there is a cell and the receipt that it shows, or neither. -/
theorem Shows.getElem? (h : b.Shows b') (i : Nat) :
    (b.cells[i]? = none ∧ b'.receipts[i]? = none) ∨
      ∃ c r, b.cells[i]? = some c ∧ b'.receipts[i]? = some r ∧ c.Shows r := by
  have hcell := h.cells i
  generalize b.cells[i]? = c? at hcell ⊢
  generalize b'.receipts[i]? = r? at hcell ⊢
  cases hcell with
  | none => exact Or.inl ⟨rfl, rfl⟩
  | some hshows => exact Or.inr ⟨_, _, rfl, rfl, hshows⟩

/-- A handle is on a cell and on the receipt that it shows, or on neither. -/
theorem Shows.find? (h : b.Shows b') (handle : Nat) :
    (b.find? handle = none ∧ b'.find? handle = none) ∨
      ∃ i c r, b.find? handle = some (i, c) ∧ b'.find? handle = some (i, r) ∧ c.Shows r := by
  rw [Cells.find?, Book.find?, h.handles]
  cases b'.handles[handle]?.join with
  | none => exact Or.inl ⟨rfl, rfl⟩
  | some i =>
    rcases h.getElem? i with ⟨hc, hr⟩ | ⟨c, r, hc, hr, hshows⟩
    · exact Or.inl (by simp [hc, hr])
    · exact Or.inr ⟨i, c, r, by simp [hc], by simp [hr], hshows⟩

theorem Shows.modify (h : b.Shows b') (i : Nat) {f : Cell → Cell} {g : Receipt → Receipt}
    (hfg : ∀ c r, c.Shows r → (f c).Shows (g r)) : (b.modify i f).Shows (b'.modify i g) where
  cells j := by
    rw [Cells.modify, Book.modify, List.getElem?_modify, List.getElem?_modify]
    rcases h.getElem? j with ⟨hc, hr⟩ | ⟨c, r, hc, hr, hshows⟩
    · rw [hc, hr]
      exact .none
    · rw [hc, hr]
      by_cases hij : i = j
      · simpa [hij] using hfg c r hshows
      · simpa [hij] using hshows
  length := by
    rw [Cells.modify, Book.modify, List.length_modify, List.length_modify, h.length]
  handles := h.handles
  holders := h.holders

theorem Shows.add (h : b.Shows b') (hshows : c.Shows r) : (b.add c).Shows (b'.add r) where
  cells i := by
    rw [Cells.add, Book.add, List.getElem?_append, List.getElem?_append, h.length]
    split_ifs
    · exact h.cells i
    · rw [List.getElem?_singleton, List.getElem?_singleton]
      split_ifs
      · exact .some hshows
      · exact .none
  length := by
    rw [Cells.add, Book.add, List.length_append, List.length_append, h.length]
    rfl
  handles := by rw [Cells.add, Book.add, h.handles, h.length]
  holders := h.holders

theorem Shows.release (h : b.Shows b') (handle : Nat) :
    (b.release handle).Shows (b'.release handle) where
  cells := h.cells
  length := h.length
  handles := by rw [Cells.release, Book.release, h.handles]
  holders := h.holders

theorem Shows.spend (h : b.Shows b') (handle : Nat) (call : Call) :
    (b.spend handle call).Shows (b'.spend handle call) := by
  cases call with
  | wait => exact h.release handle
  | poll | describe | waitFor => exact h

theorem Shows.free (h : b.Shows b') (i : Nat) : (b.free i).Shows (b'.free i) :=
  { h with holders := by rw [Cells.free, Book.free, h.holders] }

theorem Shows.hold (h : b.Shows b') (i : Nat) (stage : Stage) :
    (b.hold i stage).Shows (b'.hold i stage) :=
  { h with holders := by rw [Cells.hold, Book.hold, (h.free i).holders] }

theorem Shows.holder?_eq (h : b.Shows b') (i : Nat) : b.holder? i = b'.holder? i := by
  rw [Cells.holder?, Book.holder?, h.holders]

theorem Shows.enter (h : b.Shows b') (handle : Nat) (call : Call) :
    (b.enter handle call).1 = (b'.enter handle call).1 ∧
      (b.enter handle call).2.Shows (b'.enter handle call).2 := by
  rw [Cells.enter, Book.enter]
  rcases h.find? handle with ⟨hc, hr⟩ | ⟨i, c, r, hc, hr, hs⟩
  · simp only [hc, hr]
    exact ⟨trivial, h⟩
  · simp only [hc, hr, h.holder?_eq, hs.id_eq]
    cases b'.holder? i with
    | some _ => exact ⟨rfl, h⟩
    | none => exact ⟨rfl, (h.spend handle call).hold i _⟩

theorem Shows.look (h : b.Shows b') (i : Nat) :
    (b.look i).1 = (b'.look i).1 ∧ (b.look i).2.Shows (b'.look i).2 := by
  rw [Cells.look, Book.look, h.holder?_eq]
  cases b'.holder? i with
  | none => exact ⟨rfl, h⟩
  | some stage =>
    cases stage with
    | looked => exact ⟨rfl, h⟩
    | begun call =>
      rcases h.getElem? i with ⟨hc, hr⟩ | ⟨c, r, hc, hr, hs⟩
      · simp only [hc, hr]
        exact ⟨trivial, h⟩
      · simp only [hc, hr]
        rcases hs.finish? call with ⟨hc', hr'⟩ | ⟨a, c', r', hc', hr', hs'⟩
        · simp only [hc', hr']
          exact ⟨trivial, h⟩
        · simp only [hc', hr']
          exact ⟨trivial, (h.modify i fun _ _ _ => hs').hold i _⟩

theorem Shows.leave (h : b.Shows b') (i : Nat) :
    (b.leave i).1 = (b'.leave i).1 ∧ (b.leave i).2.Shows (b'.leave i).2 := by
  rw [Cells.leave, Book.leave, h.holder?_eq]
  cases b'.holder? i with
  | none => exact ⟨rfl, h⟩
  | some stage =>
    cases stage with
    | begun call => exact ⟨rfl, h⟩
    | looked => exact ⟨rfl, h.free i⟩

theorem Shows.call (h : b.Shows b') (handle : Nat) (call : Call) :
    (b.call handle call).1 = (b'.call handle call).1 ∧
      (b.call handle call).2.Shows (b'.call handle call).2 := by
  rw [Cells.call, Book.call]
  rcases h.find? handle with ⟨hc, hr⟩ | ⟨i, c, r, hc, hr, hs⟩
  · simp only [hc, hr]
    exact ⟨trivial, h⟩
  · simp only [hc, hr, h.holder?_eq, hs.id_eq]
    cases b'.holder? i with
    | some _ => exact ⟨rfl, h⟩
    | none =>
      rcases hs.finish? call with ⟨hc', hr'⟩ | ⟨a, c', r', hc', hr', hs'⟩
      · simp only [hc', hr']
        exact ⟨trivial, h⟩
      · simp only [hc', hr']
        exact ⟨trivial, (h.modify i fun _ _ _ => hs').spend handle call⟩

/-- An operation has the same answer on the cells, and they go on showing the book. -/
theorem Shows.perform (h : b.Shows b') (op : Book.Operation) :
    (b.perform op).1 = (b'.perform op).1 ∧ (b.perform op).2.Shows (b'.perform op).2 := by
  cases op with
  | issue id =>
    refine ⟨?_, h.add (.awaited id)⟩
    rw [Cells.perform, Book.perform, h.handles, h.length]
  | ready id o =>
    refine ⟨?_, h.add (.sent id o)⟩
    rw [Cells.perform, Book.perform, h.handles]
  | drop handle => exact ⟨rfl, h.release handle⟩
  | answer i o => exact ⟨rfl, h.modify i fun _ _ hs => hs.complete o⟩
  | abandon i => exact ⟨rfl, h.modify i fun _ _ hs => hs.detach⟩
  | copy handle =>
    rcases h.find? handle with ⟨hc, hr⟩ | ⟨i, c, r, hc, hr, hs⟩
    · simp only [Cells.perform, Book.perform, hc, hr]
      exact ⟨trivial, h⟩
    · simp only [Cells.perform, Book.perform, hc, hr, h.handles]
      exact ⟨trivial, h.cells, h.length, rfl, h.holders⟩
  | id handle =>
    rcases h.find? handle with ⟨hc, hr⟩ | ⟨i, c, r, hc, hr, hs⟩
    · simp only [Cells.perform, Book.perform, hc, hr]
      exact ⟨trivial, h⟩
    · simp only [Cells.perform, Book.perform, hc, hr, hs.id_eq]
      exact ⟨trivial, h⟩
  | describe handle => exact h.call handle .describe
  | poll handle => exact h.call handle .poll
  | wait handle => exact h.call handle .wait
  | enter handle call => exact h.enter handle call
  | look i => exact h.look i
  | leave i => exact h.leave i

/-- Cells give the answers of the book that they show. -/
theorem Shows.answers (h : b.Shows b') (ops : List Book.Operation) :
    answers ops b = Book.answers ops b' := by
  induction ops generalizing b b' with
  | nil => rfl
  | cons op ops ih =>
    obtain ⟨hanswer, hnext⟩ := h.perform op
    rw [Cells.answers, Book.answers, hanswer, ih hnext]

theorem shows_empty : Shows {} {} where
  cells _ := .none
  length := rfl
  handles := rfl
  holders := rfl

/-- Cells give the answers of a book. -/
theorem answers_eq (ops : List Book.Operation) : answers ops {} = Book.answers ops {} :=
  shows_empty.answers ops

end Cells

end ChatRouting.Receipt
