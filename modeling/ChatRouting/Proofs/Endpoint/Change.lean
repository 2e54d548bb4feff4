import ChatRouting.Endpoint
import ChatRouting.Proofs.Router
import Mathlib.Logic.Relation

/-!
# Changes of an endpoint

What can become of an endpoint is said once, as a relation with one constructor for each thing
that can happen to it. A *change* is brought about by a call and tells no subscriber anything. A
*move* is a change or a step of the processing of an event. What all of them keep is kept by
whatever happens.

## Main definitions

* `KeyRing.Learns`: the key ring changes, and what the transport is told of it
* `Target.join`: the request that joins a conversation
* `Endpoint.knownConversation`: the conversations that may be joined, with their ids
* `Endpoint.Change`, `Endpoint.Changes`
* `Endpoint.Move`, `Endpoint.Moves`

## Main results

* `Endpoint.Changes.delivering`, `Endpoint.Moves.orderly`: what they keep of the router
-/

namespace ChatRouting

/-- The key ring changes, and the request tells the transport what is new. -/
inductive KeyRing.Learns (k : KeyRing) : Request → KeyRing → Prop
  | nickname {nickname : String} {identity : Identity} {k' : KeyRing}
      (h : k.setNickname nickname = (.ok identity, k')) :
      Learns k (.identitySet identity.nickname) k'
  | pair {pair : KeyPair} {k' : KeyRing} (h : k.setKeyPair pair = (.ok (), k')) :
      Learns k (.keyPairSet pair) k'
  | friend {key : FriendKey} {k' : KeyRing} (h : k.addFriend key = (.ok (), k')) :
      Learns k (.friendKeyAdded key) k'
  | group {key : GroupKey} {k' : KeyRing} (h : k.addGroup key = (.ok (), k')) :
      Learns k (.groupKeyAdded key) k'

/-- The request that joins the conversation with a target. -/
def Target.join : Target → Request
  | direct peer => .directJoin peer
  | group id => .groupJoin id

namespace Endpoint

/-- The id of the conversation with a friend or a group whose key is known. -/
def knownConversation (e : Endpoint) : Target → Except Fault String
  | .direct peer => e.friendConversation peer
  | .group group => e.groupConversation group

/-- Something happens to an endpoint that tells no subscriber anything. -/
inductive Change (e : Endpoint) : Endpoint → Prop
  | learn {r : Request} {keys : KeyRing} (h : e.keys.Learns r keys) :
      Change e ({ e with keys }.tell r)
  | rename {id : String} (h : e.hasJoined = false) :
      Change e { e with keys := (e.keys.setLocalId id).2 }
  | ensure (id name : String) (target : Target) : Change e (e.ensureSession id name target).2
  | remove (id : String) : Change e (e.removeSession id).2
  | join {target : Target} {id : String} (h : e.knownConversation target = .ok id) :
      Change e (e.joinOnce id target.join).2
  | send {target : Target} {plaintext : String} {r : Request}
      (h : e.sendRequest target plaintext = .ok r) : Change e (e.tell r)
  | enqueue (event : InboundEvent) : Change e (e.enqueue event)
  | collect : Change e { e with transport := e.transport.collect.2 }
  | detach : Change e { e with transport := e.transport.detach }
  | answer (n : Nat) (outcome : Outcome) :
      Change e { e with transport := e.transport.modify n fun r => r.answer outcome }
  | abandon (n : Nat) : Change e { e with transport := e.transport.modify n Receipt.abandon }
  | subscribers {router : Router} (h : e.router.Adjusts router) : Change e { e with router }

/-- Any number of changes one after the other. -/
abbrev Changes : Endpoint → Endpoint → Prop :=
  Relation.ReflTransGen Change

/-- Something happens to an endpoint: a change, or a step of the processing of an event. -/
inductive Move (e : Endpoint) : Endpoint → Prop
  | change {e' : Endpoint} (h : Change e e') : Move e e'
  /-- An event is taken out of the inbound queue. -/
  | take {event : InboundEvent} {rest : List InboundEvent} (h : e.inbound = event :: rest) :
      Move e { e with inbound := rest }
  /-- An event that the router was handed is judged. -/
  | classify (event : InboundEvent) (localId : String) (peer : Option String) :
      Move e { e with router := (e.router.classify event localId peer).2 }
  /-- A delivery begins or ends. -/
  | mark (delivering : Bool) : Move e { e with router := { e.router with delivering } }
  /-- A subscriber has its turn. -/
  | turn (n : Nat) (sink : Sink) :
      Move e { e with router := e.router.modify n fun s => { s with sink } }

/-- Any number of moves one after the other. -/
abbrev Moves : Endpoint → Endpoint → Prop :=
  Relation.ReflTransGen Move

theorem Changes.moves {e e' : Endpoint} (h : Changes e e') : Moves e e' :=
  Relation.ReflTransGen.mono (fun _ _ => Move.change) _ _ h

/-! ### What is known -/

variable {e : Endpoint}

/-- Which conversations are known depends on the keys alone. -/
theorem knownConversation_congr {e' : Endpoint} (hk : e'.keys = e.keys) (target : Target) :
    e'.knownConversation target = e.knownConversation target := by
  cases target with
  | direct peer =>
    rw [knownConversation, knownConversation, friendConversation, friendConversation, localId,
      localId, hk]
  | group group =>
    rw [knownConversation, knownConversation, groupConversation, groupConversation, hk]

/-! ### What stays -/

theorem joinOnce_router (id : String) (r : Request) : (e.joinOnce id r).2.router = e.router := by
  rw [joinOnce]
  split
  · rfl
  · rfl

theorem setLocalId_router (e : Endpoint) (id : String) :
    (e.setLocalId id).2.router = e.router := by
  rw [setLocalId]
  split_ifs
  · rfl
  · rfl

theorem joinOnce_keys (id : String) (r : Request) : (e.joinOnce id r).2.keys = e.keys := by
  rw [joinOnce]
  split
  · rfl
  · rfl

/-- A change touches the sessions of the router or its subscribers. -/
theorem Change.router {e' : Endpoint} (h : Change e e') :
    (∃ registry, e'.router = { e.router with registry }) ∨ e.router.Adjusts e'.router := by
  cases h with
  | ensure | remove => exact Or.inl ⟨_, rfl⟩
  | join => exact Or.inl ⟨e.router.registry, joinOnce_router _ _⟩
  | subscribers h => exact Or.inr h
  | learn | rename | send | enqueue | collect | detach | answer | abandon =>
    exact Or.inl ⟨e.router.registry, rfl⟩

theorem Change.delivering {e' : Endpoint} (h : Change e e') :
    e'.router.delivering = e.router.delivering := by
  rcases h.router with ⟨registry, hr⟩ | hr
  · rw [hr]
  · obtain ⟨subscribers, listed, closed, hr⟩ := hr.eq
    rw [hr]

theorem Change.orderly {e' : Endpoint} (h : Change e e') (ho : e.router.Orderly) :
    e'.router.Orderly := by
  rcases h.router with ⟨registry, hr⟩ | hr
  · rw [hr]
    exact ⟨ho.increasing, ho.known⟩
  · exact hr.orderly ho

/-- A change goes on while a delivery is under way, and begins and ends none. -/
theorem Changes.delivering {e' : Endpoint} (h : Changes e e') :
    e'.router.delivering = e.router.delivering := by
  induction h with
  | refl => rfl
  | tail _ h ih => exact h.delivering.trans ih

theorem Move.orderly {e' : Endpoint} (h : Move e e') (ho : e.router.Orderly) :
    e'.router.Orderly := by
  cases h with
  | change h => exact h.orderly ho
  | take _ => exact ho
  | classify event localId peer =>
    obtain ⟨registry, hr⟩ := e.router.exists_classify_eq event localId peer
    simp only [hr]
    exact ⟨ho.increasing, ho.known⟩
  | mark delivering => exact ⟨ho.increasing, ho.known⟩
  | turn n sink => exact ho.modify n _

/-- The list of subscribers stays orderly whatever happens. -/
theorem Moves.orderly {e' : Endpoint} (h : Moves e e') (ho : e.router.Orderly) :
    e'.router.Orderly := by
  induction h with
  | refl => exact ho
  | tail _ h ih => exact h.orderly ih

end Endpoint

end ChatRouting
