/-!
# Repeated items

A list in which an item that comes several times in a row is written once, with the number of
times. It stands for the plain list of all its items, and can be read like it, item by item,
without being written out.

## Main definitions

* `Repeated`, `Repeated.items`: the plain list
* `Repeated.next?`: the first item and what comes after it

## Main results

* `Repeated.items_eq_next?`: reading item by item gives the items of the plain list
-/

namespace ChatRouting

/-- An item and the number of times that it comes in a row. -/
structure Repeated (α : Type) where
  item : α
  times : Nat
  deriving DecidableEq, Repr

namespace Repeated

/-- The plain list of all items. -/
def items {α : Type} : List (Repeated α) → List α
  | [] => []
  | { item, times } :: rest => List.replicate times item ++ items rest

/-- The first item and what comes after it, if there is any. -/
def next? {α : Type} : List (Repeated α) → Option (α × List (Repeated α))
  | [] => none
  | { item := _, times := 0 } :: rest => next? rest
  | { item, times := n + 1 } :: rest => some (item, { item, times := n } :: rest)

/-- What is read first is the head of the plain list, and the rest stands for its tail. -/
theorem items_eq_next? {α : Type} (rs : List (Repeated α)) :
    items rs =
      match next? rs with
      | none => []
      | some (a, rest) => a :: items rest := by
  induction rs with
  | nil => rfl
  | cons r rest ih =>
    obtain ⟨item, times⟩ := r
    cases times with
    | zero => simpa [items, next?] using ih
    | succ n => simp [items, next?, List.replicate_succ]

end Repeated

end ChatRouting
