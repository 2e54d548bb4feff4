import ChatRouting.Json.Basic

/-!
# Decoding JSON values

A type with named parts is read from an object, whose unknown members are skipped, or from
an array of its parts in their declared order. A type with variants names its variant by a
tag, the member of that name or the first item.

A tagged value is judged as a whole before its variant is known, so nothing in it may be
unsound, and it may not stand or reach deeper than `maxDepth` in its text. The value of an
unknown member outside of a tagged value is not judged at all.

## Main definitions

* `Json.Fields`, with `Fields.required`, `Fields.optional`, `Fields.defaulted`
* `Json.Place`, `Json.tagged?`
-/

namespace ChatRouting.Json

/-! ### Plain values -/

/-- The text of a literal that denotes one. -/
def text? : Json → Option String
  | .string s => s
  | _ => none

/-- The truth value. -/
def bool? : Json → Option Bool
  | .bool b => some b
  | _ => none

/-- The integer that a number stands for. -/
def int? : Json → Option Int
  | .number n => n.toInt?
  | _ => none

/-- A value that may be null. -/
def nullable {α : Type} (read : Json → Option α) : Json → Option (Option α)
  | .null => some none
  | v => (read v).map some

/-! ### Named parts -/

/-- The values given for declared parts. -/
structure Fields where
  /-- The parts are given by name and not by order. -/
  named : Bool
  /-- The parts that are present, each once. -/
  members : List (String × Json)

namespace Fields

/-- The members with one of the declared names, if every key denotes a text. -/
def known? (declared : List String) : List (Literal × Json) → Option (List (String × Json))
  | [] => some []
  | (none, _) :: _ => none
  | (some k, v) :: rest =>
    (known? declared rest).map fun ms => if k ∈ declared then (k, v) :: ms else ms

/-- The declared parts of a value. A part given twice, or an item beyond the last part, is
refused. -/
def ofJson? (declared : List String) : Json → Option Fields
  | .object members => do
    let ms ← known? declared members
    if (ms.map (·.1)).Nodup then return ⟨true, ms⟩ else none
  | .array items =>
    if items.length ≤ declared.length then some ⟨false, declared.zip items⟩ else none
  | _ => none

/-- The value given for a part. -/
def find? (f : Fields) (name : String) : Option Json :=
  f.members.lookup name

/-- A part that must be present. -/
def required {α : Type} (f : Fields) (name : String) (read : Json → Option α) : Option α :=
  (f.find? name).bind read

/-- A part that may be null, and absent where parts are given by name. -/
def optional {α : Type} (f : Fields) (name : String) (read : Json → Option α) :
    Option (Option α) :=
  match f.find? name with
  | some v => nullable read v
  | none => if f.named then some none else none

/-- A part with a value of its own for when it is absent. -/
def defaulted {α : Type} (f : Fields) (name : String) (absent : α) (read : Json → Option α) :
    Option α :=
  match f.find? name with
  | some v => read v
  | none => some absent

end Fields

/-! ### Variants -/

/-- Where a value stands. -/
inductive Place where
  /-- Directly in the text, below a number of arrays and objects. -/
  | text (above : Nat)
  /-- Inside a tagged value. -/
  | tagged

/-- The greatest depth in a text that a tagged value may reach. -/
def maxDepth : Nat := 127

/-- The value may be read as a tagged one. What is inside a tagged value was judged with it. -/
def Place.admits : Place → Json → Bool
  | .text above, v => v.isSound && decide (above + v.depth ≤ maxDepth)
  | .tagged, _ => true

/-- The variant that a value names. Inside a tagged value it may also be given by its number. -/
def Place.variant? (place : Place) (variants : List String) : Json → Option String
  | .string (some s) => if s ∈ variants then some s else none
  | .number n =>
    match place, n.toInt? with
    | .tagged, some (.ofNat i) => variants[i]?
    | _, _ => none
  | _ => none

/-- The variant of a tagged value, and the value without the tag. -/
def tagged? (place : Place) (tag : String) (variants : List String) (v : Json) :
    Option (String × Json) :=
  if place.admits v then
    match v with
    | .object members =>
      match members.partition fun m => m.1 == some tag with
      | ([(_, name)], rest) => (place.variant? variants name).map fun s => (s, .object rest)
      | _ => none
    | .array (name :: rest) => (place.variant? variants name).map fun s => (s, .array rest)
    | _ => none
  else none

/-- A variant without parts takes any members and no items. -/
def isBare : Json → Bool
  | .object _ => true
  | .array items => items.isEmpty
  | _ => false

/-- The name of a choice: a text, or an object whose one member has it for a key and stands
for nothing. -/
def choice? (place : Place) (names : List String) (v : Json) : Option String :=
  match v with
  | .string (some s) => if s ∈ names then some s else none
  | .object [(some s, content)] =>
    match place, content with
    | _, .null => if s ∈ names then some s else none
    | .tagged, .object [] => if s ∈ names then some s else none
    | _, _ => none
  | _ => none

end ChatRouting.Json
