import ChatRouting.Proofs.Callbacks
import ChatRouting.Proofs.Endpoint.Opening

/-!
# Plain changes

A host can reach past an endpoint into its router: it can put in a session of its own, and hand in
an event with a local id of its own choice. What is *plain* does neither. So in a plain change a
session is entered only for a conversation that is known, and in a plain move also by an event that
is judged as the endpoint itself judges it.

Every operation on an endpoint but the one that puts in a session is a sequence of plain changes,
whether the callbacks that are subscribed are plain or not.

## Main definitions

* `Operation.isPlain`, `Router.CallbacksPlain`: operations and callbacks that are plain
* `Operation.staysWithin`: the kind of operations that are plain with all that comes of them
* `Endpoint.Plain`: what becomes of the sessions and the callbacks
* `Endpoint.PlainChange`, `Endpoint.PlainMove`, `Endpoint.PlainMoves`

## Main results

* `Endpoint.plain_setNickname` and so on: operations are sequences of plain changes
-/

namespace ChatRouting

namespace Operation

mutual
/-- The operation does not reach past the endpoint into its router, and neither do the callbacks
that it subscribes. -/
def isPlain : Operation → Bool
  | route _ _ _ | ensureSession _ _ _ => false
  | subscribe _ onSession onError => plansPlain onSession && plansPlain onError
  | _ => true

/-- The operations of one delivery are plain. -/
def planPlain : List Operation → Bool
  | [] => true
  | op :: rest => op.isPlain && planPlain rest

/-- The operations of some deliveries in a row are plain. -/
def turnsPlain : Repeated (List Operation) → Bool
  | { item, times := _ } => planPlain item

/-- The operations of all deliveries are plain. -/
def plansPlain : List (Repeated (List Operation)) → Bool
  | [] => true
  | turns :: rest => turnsPlain turns && plansPlain rest
end

end Operation

/-- The callbacks of a sink are plain. -/
def Sink.isPlain : Sink → Bool
  | callbacks onSession onError =>
    Operation.plansPlain onSession && Operation.plansPlain onError
  | channel _ _ => true

/-- All callbacks of a router's subscribers are plain. -/
def Router.CallbacksPlain (r : Router) : Prop :=
  ∀ s ∈ r.subscribers, s.sink.isPlain = true

/-! ### Plain operations as a kind -/

/-- The operation itself does not reach past the endpoint. -/
def Operation.staysWithin : Operation → Bool
  | route _ _ _ | ensureSession _ _ _ => false
  | _ => true

namespace Operation

mutual
/-- An operation is plain if all that comes of it stays within the endpoint. -/
theorem isPlain_eq_every (op : Operation) : op.isPlain = op.every staysWithin := by
  cases op with
  | subscribe name onSession onError =>
    rw [isPlain, every, plansPlain_eq_every onSession, plansPlain_eq_every onError]
    rfl
  | _ => rfl

theorem planPlain_eq_every (plan : List Operation) :
    planPlain plan = planEvery staysWithin plan := by
  cases plan with
  | nil => rfl
  | cons op rest => rw [planPlain, planEvery, isPlain_eq_every op, planPlain_eq_every rest]

theorem turnsPlain_eq_every (turns : Repeated (List Operation)) :
    turnsPlain turns = turnsEvery staysWithin turns := by
  cases turns with
  | mk item times => rw [turnsPlain, turnsEvery, planPlain_eq_every item]

theorem plansPlain_eq_every (plans : List (Repeated (List Operation))) :
    plansPlain plans = plansEvery staysWithin plans := by
  cases plans with
  | nil => rfl
  | cons turns rest =>
    rw [plansPlain, plansEvery, turnsPlain_eq_every turns, plansPlain_eq_every rest]
end

end Operation

theorem Sink.isPlain_eq_every (sink : Sink) : sink.isPlain = sink.every Operation.staysWithin := by
  rcases sink with ⟨onSession, onError⟩ | ⟨waiting, attached⟩
  · rw [isPlain, every, Operation.plansPlain_eq_every, Operation.plansPlain_eq_every]
  · rfl

namespace Router

variable {r r' : Router}

theorem callbacksPlain_iff : r.CallbacksPlain ↔ r.CallbacksAll Operation.staysWithin := by
  simp only [CallbacksPlain, CallbacksAll, Sink.isPlain_eq_every]

theorem CallbacksPlain.of_calms (hc : r.CallbacksPlain) (h : r.Calms r') : r'.CallbacksPlain :=
  callbacksPlain_iff.mpr (h.callbacksAll (callbacksPlain_iff.mp hc))

theorem CallbacksPlain.subscribe (hc : r.CallbacksPlain) {sink : Sink}
    (hsink : sink.isPlain = true) : (r.subscribe sink).2.CallbacksPlain :=
  callbacksPlain_iff.mpr ((callbacksPlain_iff.mp hc).subscribe (sink.isPlain_eq_every ▸ hsink))

/-- A subscriber has had a turn. -/
theorem CallbacksPlain.turn (hc : r.CallbacksPlain) (n : Nat) {sink : Sink}
    (hsink : sink.isPlain = true) :
    (r.modify n fun s => { s with sink }).CallbacksPlain :=
  callbacksPlain_iff.mpr (every_of_mem_modify (callbacksPlain_iff.mp hc)
    fun _ _ => sink.isPlain_eq_every ▸ hsink)

end Router

namespace Endpoint

/-- What can become of the sessions of an endpoint when nobody reaches past it. -/
inductive PlainSessions (e : Endpoint) : Registry → Prop
  | keep : PlainSessions e e.router.registry
  | remove (id : String) : PlainSessions e (e.router.registry.remove id).2
  /-- A conversation that is known has its session. -/
  | enter {target : Target} {id : String} (h : e.knownConversation target = .ok id) :
      PlainSessions e (e.router.registry.ensure id (Session.defaultName id target) target).2
  /-- An event is judged as one of the endpoint. -/
  | judge (event : InboundEvent) :
      PlainSessions e (e.router.classify event e.localId (e.echoPeer event)).2.registry

/-- A plain change of the sessions, with which callbacks that are plain stay plain. -/
structure Plain (e e' : Endpoint) : Prop where
  sessions : e.PlainSessions e'.router.registry
  callbacks : e.router.CallbacksPlain → e'.router.CallbacksPlain

/-- A change that is plain. -/
structure PlainChange (e e' : Endpoint) : Prop extends Plain e e' where
  change : Change e e'

/-- A move that is plain. -/
structure PlainMove (e e' : Endpoint) : Prop extends Plain e e' where
  move : Move e e'

/-- Any number of plain changes one after the other. -/
abbrev PlainChanges : Endpoint → Endpoint → Prop :=
  Relation.ReflTransGen PlainChange

/-- Any number of plain moves one after the other. -/
abbrev PlainMoves : Endpoint → Endpoint → Prop :=
  Relation.ReflTransGen PlainMove

variable {e e' : Endpoint}

theorem PlainChanges.changes (h : PlainChanges e e') : Changes e e' :=
  Relation.ReflTransGen.mono (fun _ _ h => h.change) _ _ h

theorem PlainMoves.moves (h : PlainMoves e e') : Moves e e' :=
  Relation.ReflTransGen.mono (fun _ _ h => h.move) _ _ h

theorem PlainChanges.plainMoves (h : PlainChanges e e') : PlainMoves e e' :=
  Relation.ReflTransGen.mono (fun _ _ h => { h with move := .change h.change }) _ _ h

theorem plain_of_router (hr : e'.router = e.router) : Plain e e' where
  sessions := hr ▸ .keep
  callbacks h := hr ▸ h

/-- A change that does not touch the router is plain. -/
theorem Change.plain (h : Change e e') (hr : e'.router = e.router) : PlainChanges e e' :=
  .single { plain_of_router hr with change := h }

/-- A change of the subscribers that keeps callbacks plain is plain. -/
theorem plain_of_adjusts {router : Router} (hr : e.router.Adjusts router)
    (hc : e.router.CallbacksPlain → router.CallbacksPlain) :
    PlainChanges e { e with router } := by
  have hregistry : router.registry = e.router.registry := by
    obtain ⟨_, _, _, rfl⟩ := hr.eq
    rfl
  exact .single { change := .subscribers hr, sessions := hregistry ▸ .keep, callbacks := hc }

/-! ### Operations are sequences of plain changes -/

section

variable (e : Endpoint)

theorem plain_setNickname (nickname : String) : PlainChanges e (e.setNickname nickname).2 := by
  rw [setNickname]
  split
  · exact .refl
  · exact (Change.learn (.nickname ‹_›)).plain rfl

theorem plain_setLocalId (id : String) : PlainChanges e (e.setLocalId id).2 := by
  rw [setLocalId]
  split_ifs with h
  · exact .refl
  · exact (Change.rename (Bool.eq_false_iff.mpr h)).plain rfl

theorem plain_setKeyPair (pair : KeyPair) : PlainChanges e (e.setKeyPair pair).2 := by
  rw [setKeyPair]
  split
  · exact .refl
  · exact (Change.learn (.pair ‹_›)).plain rfl

theorem plain_addFriend (key : FriendKey) : PlainChanges e (e.addFriend key).2 := by
  rw [addFriend]
  split
  · exact .refl
  · exact (Change.learn (.friend ‹_›)).plain rfl

theorem plain_addGroup (key : GroupKey) : PlainChanges e (e.addGroup key).2 := by
  rw [addGroup]
  split
  · exact .refl
  · exact (Change.learn (.group ‹_›)).plain rfl

theorem plain_removeSession (id : String) : PlainChanges e (e.removeSession id).2 :=
  .single { change := .remove id, sessions := .remove id, callbacks := fun h => h }

theorem plain_openConversation (target : Target) :
    PlainChanges e (e.openConversation target).2 := by
  cases hknown : e.knownConversation target with
  | error f => rw [openConversation_of_unknown hknown]
  | ok id =>
    rw [openConversation_of_known hknown, openSession]
    have hensure : PlainChanges e
        (e.ensureSession id (Session.defaultName id target) target).2 :=
      .single { change := .ensure _ _ _, sessions := .enter hknown, callbacks := fun h => h }
    have hknown' : (e.ensureSession id (Session.defaultName id target) target).2.knownConversation
        target = .ok id := hknown
    split
    · next heq => simpa only [heq] using hensure
    · next heq =>
      rw [heq] at hensure hknown'
      exact hensure.trans ((Change.join hknown').plain (joinOnce_router _ _))

theorem plain_send (target : Target) (plaintext : String) :
    PlainChanges e (e.send target plaintext).2 := by
  rw [send]
  split
  · exact .refl
  · exact (Change.send ‹_›).plain rfl

theorem plain_sendToSession (id plaintext : String) :
    PlainChanges e (e.sendToSession id plaintext).2 := by
  rw [sendToSession]
  split
  · exact .refl
  · exact e.plain_send _ plaintext

end

end Endpoint

end ChatRouting
