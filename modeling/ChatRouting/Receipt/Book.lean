import ChatRouting.Receipt.Basic

/-!
# Handles on receipts

A book keeps receipts and the handles on them, each numbered in order of creation. A handle can be
copied. The acknowledger of a receipt has the receipt's number.

The handles on a receipt may be used by several threads. A call holds the lock of the receipt from
when it begins to when it returns, and in between it looks at the receipt once. A wait does not look
before the acknowledger was used or dropped, and holds the lock all that time. A look that does not
wait and a description are not kept up by the lock: if they find it held, they return at once with
nothing. All other calls wait for the lock, and have not begun before they get it. So a call that is
under way is a call that holds a lock, and any operations may come between its beginning, its look
and its return. What it is going to return is known when it has looked.

## Main definitions

* `Receipt.Call`: the calls that take the lock of a receipt
* `Receipt.Stage`: how far a call has come that holds a lock
* `Receipt.Book.enter`, `Receipt.Book.look`, `Receipt.Book.leave`: a call begins, looks and returns
* `Receipt.Book.call`: a call that nothing comes in between of
* `Receipt.Book.perform`
-/

namespace ChatRouting.Receipt

/-- A call on a handle that takes the lock of the receipt. -/
inductive Call where
  /-- A look that waits neither for the lock nor for the acknowledger. -/
  | poll
  /-- A description, which does not wait for the lock. -/
  | describe
  /-- A look that waits for the lock, and for the acknowledger, but not for ever. -/
  | waitFor
  /-- A look that waits for the lock and for the acknowledger. It uses up the handle. -/
  | wait
  deriving DecidableEq

/-- How far a call has come that holds a lock. -/
inductive Stage where
  /-- It has not looked yet. -/
  | begun (call : Call)
  /-- It has looked, and is about to return. -/
  | looked

/-- Receipts and the handles on them. -/
structure Book where
  receipts : List Receipt := []
  /-- The receipt of each handle that is still there. -/
  handles : List (Option Nat) := []
  /-- The receipts whose lock is held, each with what the call has done that holds it. -/
  holders : List (Nat × Stage) := []

namespace Book

/-- What can be done with a book. -/
inductive Operation where
  /-- A new receipt with an acknowledger. -/
  | issue (id : String)
  /-- A new receipt that has its answer. -/
  | ready (id : String) (outcome : Outcome)
  /-- A second handle on a receipt. -/
  | copy (handle : Nat)
  | id (handle : Nat)
  /-- A description that nothing comes in between of. -/
  | describe (handle : Nat)
  /-- A look that nothing comes in between of and that does not wait. -/
  | poll (handle : Nat)
  /-- A wait that nothing comes in between of. It is not made if it would go on. -/
  | wait (handle : Nat)
  | drop (handle : Nat)
  | answer (receipt : Nat) (outcome : Outcome)
  | abandon (receipt : Nat)
  /-- A call begins, if it gets the lock of the receipt. -/
  | enter (handle : Nat) (call : Call)
  /-- The call that holds the lock of a receipt looks at it, unless it goes on waiting. -/
  | look (receipt : Nat)
  /-- The call that has looked returns, and the lock is free. -/
  | leave (receipt : Nat)

/-- What an operation on a book answers. -/
inductive Answer where
  | issued (handle receipt : Nat)
  | ready (handle : Nat)
  | text (s : String)
  | outcome (o : Option Outcome)
  /-- Waiting would last until the acknowledger is used, or until the lock is free. -/
  | wouldBlock
  /-- Done. A call has begun or returned. -/
  | done
  /-- There is no such handle, or no such call. -/
  | missing

end Book

namespace Call

/-- What a call answers that finds the lock held. One that waits for the lock has not begun. -/
def turnedAway (id : String) : Call → Book.Answer
  | poll => .outcome none
  | describe => .text (describeAs id none)
  | waitFor | wait => .wouldBlock

/-- What a call answers that looks at the receipt, with the receipt afterwards, unless it goes on
waiting. One that does not wait for ever may look at any time. -/
def finish? (r : Receipt) : Call → Option (Book.Answer × Receipt)
  | poll | waitFor => some (.outcome r.poll.1, r.poll.2)
  | describe => some (.text r.describe, r)
  | wait =>
    match r.poll with
    | (none, _) => none
    | (some o, r) => some (.outcome (some o), r)

end Call

namespace Book

/-- The number and the receipt of a handle. -/
def find? (b : Book) (handle : Nat) : Option (Nat × Receipt) := do
  let i ← b.handles[handle]?.join
  let r ← b.receipts[i]?
  return (i, r)

/-- What the call has done that holds the lock of a receipt. -/
def holder? (b : Book) (i : Nat) : Option Stage :=
  b.holders.lookup i

/-- The lock of a receipt is free. -/
def free (b : Book) (i : Nat) : Book :=
  { b with holders := b.holders.filter fun h => h.1 != i }

/-- The lock of a receipt is held. -/
def hold (b : Book) (i : Nat) (stage : Stage) : Book :=
  { b with holders := (i, stage) :: (b.free i).holders }

/-- The book with another receipt under a number. -/
def modify (b : Book) (i : Nat) (f : Receipt → Receipt) : Book :=
  { b with receipts := b.receipts.modify i f }

/-- The book with another receipt and a handle on it. -/
def add (b : Book) (r : Receipt) : Book :=
  { b with
    receipts := b.receipts ++ [r]
    handles := b.handles ++ [some b.receipts.length] }

/-- The book without a handle. -/
def release (b : Book) (handle : Nat) : Book :=
  { b with handles := b.handles.set handle none }

/-- The book after a handle was used for a call, which a wait uses up. -/
def spend (b : Book) (handle : Nat) : Call → Book
  | .wait => b.release handle
  | .poll | .describe | .waitFor => b

/-- A call begins. From then on it holds the lock of the receipt. -/
def enter (b : Book) (handle : Nat) (call : Call) : Answer × Book :=
  match b.find? handle with
  | none => (.missing, b)
  | some (i, r) =>
    match b.holder? i with
    | some _ => (call.turnedAway r.id, b)
    | none => (.done, (b.spend handle call).hold i (.begun call))

/-- The call that holds the lock of a receipt looks at it. -/
def look (b : Book) (i : Nat) : Answer × Book :=
  match b.holder? i, b.receipts[i]? with
  | some (.begun call), some r =>
    match call.finish? r with
    | none => (.wouldBlock, b)
    | some (a, r) => (a, (b.modify i fun _ => r).hold i .looked)
  | _, _ => (.missing, b)

/-- The call that holds the lock of a receipt returns if it has looked. -/
def leave (b : Book) (i : Nat) : Answer × Book :=
  match b.holder? i with
  | some .looked => (.done, b.free i)
  | some (.begun _) => (.wouldBlock, b)
  | none => (.missing, b)

/-- A call that nothing comes in between of. It is not made if it would have to wait. -/
def call (b : Book) (handle : Nat) (call : Call) : Answer × Book :=
  match b.find? handle with
  | none => (.missing, b)
  | some (i, r) =>
    match b.holder? i with
    | some _ => (call.turnedAway r.id, b)
    | none =>
      match call.finish? r with
      | none => (.wouldBlock, b)
      | some (a, r) => (a, (b.modify i fun _ => r).spend handle call)

/-- One operation on a book. -/
def perform (b : Book) : Operation → Answer × Book
  | .issue id => (.issued b.handles.length b.receipts.length, b.add { id })
  | .ready id outcome => (.ready b.handles.length, b.add { id, reply := .given outcome })
  | .copy handle =>
    match b.find? handle with
    | some (i, _) => (.ready b.handles.length, { b with handles := b.handles ++ [some i] })
    | none => (.missing, b)
  | .id handle =>
    match b.find? handle with
    | some (_, r) => (.text r.id, b)
    | none => (.missing, b)
  | .describe handle => b.call handle .describe
  | .poll handle => b.call handle .poll
  | .wait handle => b.call handle .wait
  | .drop handle => (.done, b.release handle)
  | .answer i outcome => (.done, b.modify i fun r => r.answer outcome)
  | .abandon i => (.done, b.modify i abandon)
  | .enter handle call => b.enter handle call
  | .look i => b.look i
  | .leave i => b.leave i

end Book

end ChatRouting.Receipt
