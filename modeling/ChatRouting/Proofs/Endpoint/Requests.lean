import ChatRouting.Proofs.Endpoint.Opening

/-!
# What an endpoint asks for

A move of an endpoint makes one request or none. It tells the transport what the key ring has
learnt, joins a conversation that is known and has no join standing, or sends a text. No request
comes with a change of the local id.

## Main definitions

* `Endpoint.Asks`: a request, why it is made, and the keys and the joins afterwards
* `Endpoint.AsksOnce`: one request is made or none

## Main results

* `Endpoint.Move.asks`: a move makes one request or none
* `Endpoint.Moves.isLoopback`: a loopback stays one
-/

namespace ChatRouting.Endpoint

/-- A request is made, and the key ring and the joins that are recorded are as given afterwards. -/
inductive Asks (e : Endpoint) : Request → KeyRing → List (String × Nat) → Prop
  | learn {r : Request} {keys : KeyRing} (h : e.keys.Learns r keys) : Asks e r keys e.joins
  | join {target : Target} {id : String} (h : e.knownConversation target = .ok id)
      (hs : e.standingJoin? id = none) :
      Asks e target.join e.keys
        ((id, e.transport.requests.length) :: e.joins.filter fun j => j.1 != id)
  | send {target : Target} {plaintext : String} {r : Request}
      (h : e.sendRequest target plaintext = .ok r) : Asks e r e.keys e.joins

/-- One request is made or none. If none is made, at most the local id changes of what is kept of
keys and joins. -/
def AsksOnce (e e' : Endpoint) : Prop :=
  (e'.transport.requests = e.transport.requests ∧ e'.joins = e.joins ∧
      ∃ id, e'.keys = { e.keys with identity := { e.keys.identity with id } }) ∨
    ∃ r, e.Asks r e'.keys e'.joins ∧ e'.transport.requests = e.transport.requests ++ [r]

variable {e e' : Endpoint}

/-- A change makes one request or none. -/
theorem Change.asks (h : Change e e') : e.AsksOnce e' := by
  cases h with
  | learn h => exact Or.inr ⟨_, .learn h, e.transport.requests_issue _⟩
  | send h => exact Or.inr ⟨_, .send h, e.transport.requests_issue _⟩
  | @join target id h =>
    rw [joinOnce_eq]
    cases hs : e.standingJoin? id with
    | some n => exact Or.inl ⟨rfl, rfl, _, rfl⟩
    | none =>
      refine Or.inr ⟨_, ?_, e.transport.requests_issue _⟩
      rw [Transport.number_issue]
      exact .join h hs
  | rename _ => exact Or.inl ⟨rfl, rfl, e.keys.setLocalId_eq _⟩
  | detach => exact Or.inl ⟨e.transport.requests_detach, rfl, _, rfl⟩
  | answer n _ | abandon n => exact Or.inl ⟨e.transport.requests_modify n _, rfl, _, rfl⟩
  | ensure | remove | enqueue | collect | subscribers => exact Or.inl ⟨rfl, rfl, _, rfl⟩

theorem Move.asks (h : Move e e') : e.AsksOnce e' := by
  cases h with
  | change h => exact h.asks
  | take | classify | mark | turn => exact Or.inl ⟨rfl, rfl, _, rfl⟩

/-- The local id stays when a request is made. -/
theorem Asks.localId {r : Request} {keys : KeyRing} {joins : List (String × Nat)}
    (h : e.Asks r keys joins) : keys.identity.id = e.localId := by
  cases h with
  | learn h => exact learns_id h
  | join | send => rfl

/-! ### Loopbacks -/

theorem Change.isLoopback (h : Change e e') (hl : e.transport.IsLoopback) :
    e'.transport.IsLoopback := by
  cases h with
  | @join target id h =>
    rw [joinOnce_eq]
    cases e.standingJoin? id with
    | none => exact hl
    | some n => exact hl
  | detach =>
    simp only [hl.detach_eq]
    exact hl
  | learn | rename | send | ensure | remove | enqueue | collect | answer | abandon | subscribers =>
    exact hl

/-- A transport that answers at once stays so. -/
theorem Moves.isLoopback (h : Moves e e') (hl : e.transport.IsLoopback) :
    e'.transport.IsLoopback := by
  induction h with
  | refl => exact hl
  | tail _ hmove ih =>
    cases hmove with
    | change h => exact h.isLoopback ih
    | take | classify | mark | turn => exact ih

end ChatRouting.Endpoint
