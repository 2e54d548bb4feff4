import ChatRouting.Proofs.Endpoint.Opening

/-!
# Endpoints that agree

Endpoints that have the same keys, sessions, joins and requests open a conversation in the same way,
whatever subscribers they have and whichever events wait for them.

## Main definitions

* `Endpoint.Agrees`
* `Endpoint.collected`: the endpoint after its requests were collected

## Main results

* `Endpoint.Agrees.openConversation`
-/

namespace ChatRouting.Endpoint

/-- Two endpoints have the same keys, sessions, joins and requests, and are both open or closed.
They may differ in their subscribers, in the events that wait and in which requests were
collected. -/
structure Agrees (e e' : Endpoint) : Prop where
  keys : e'.keys = e.keys
  registry : e'.router.registry = e.router.registry
  joins : e'.joins = e.joins
  issued : e'.transport.issued = e.transport.issued
  link : e'.transport.link = e.transport.link
  ignoreOwnEcho : e'.router.ignoreOwnEcho = e.router.ignoreOwnEcho
  closed : e'.router.closed = e.router.closed

/-- The requests that were made are collected. -/
def collected (e : Endpoint) : Endpoint :=
  { e with transport := e.transport.collect.2 }

theorem agrees_collected (e : Endpoint) : e.Agrees e.collected :=
  ⟨rfl, rfl, rfl, rfl, rfl, rfl, rfl⟩

/-- Subscribers change, and a delivery begins or ends. -/
theorem agrees_withSubscribers (e : Endpoint) (subscribers : List Subscriber) (listed : List Nat)
    (delivering : Bool) :
    e.Agrees { e with router := { e.router with subscribers, listed, delivering } } :=
  ⟨rfl, rfl, rfl, rfl, rfl, rfl, rfl⟩

theorem agrees_enqueue (e : Endpoint) (event : InboundEvent) : e.Agrees (e.enqueue event) :=
  ⟨rfl, rfl, rfl, rfl, rfl, rfl, rfl⟩

namespace Agrees

variable {e e' e'' : Endpoint}

theorem refl (e : Endpoint) : e.Agrees e :=
  ⟨rfl, rfl, rfl, rfl, rfl, rfl, rfl⟩

theorem symm (h : e.Agrees e') : e'.Agrees e :=
  ⟨h.keys.symm, h.registry.symm, h.joins.symm, h.issued.symm, h.link.symm, h.ignoreOwnEcho.symm,
    h.closed.symm⟩

theorem trans (h : e.Agrees e') (h' : e'.Agrees e'') : e.Agrees e'' :=
  ⟨h'.keys.trans h.keys, h'.registry.trans h.registry, h'.joins.trans h.joins,
    h'.issued.trans h.issued, h'.link.trans h.link, h'.ignoreOwnEcho.trans h.ignoreOwnEcho,
    h'.closed.trans h.closed⟩

/-- The same sessions take the place of those that were the same. -/
theorem withRegistry (h : e.Agrees e') (registry : Registry) :
    { e with router := { e.router with registry } }.Agrees
      { e' with router := { e'.router with registry } } :=
  { h with registry := rfl }

/-- A join that stands for the one stands for the other, and else the same request is made. -/
theorem joinOnce (h : e.Agrees e') (id : String) (r : Request) :
    (e'.joinOnce id r).1 = (e.joinOnce id r).1 ∧
      (e.joinOnce id r).2.Agrees (e'.joinOnce id r).2 := by
  have hfailed (n : Nat) : e'.transport.hasFailed n = e.transport.hasFailed n := by
    rw [Transport.hasFailed, Transport.receipt?, h.issued]
    rfl
  have hstanding : e'.standingJoin? id = e.standingJoin? id := by
    simp only [standingJoin?, h.joins, hfailed]
  rw [joinOnce_eq, joinOnce_eq, hstanding]
  rcases e.standingJoin? id with _ | n
  · have hnext : e'.transport.nextId = e.transport.nextId := by
      rw [Transport.nextId, Transport.nextId, h.link, h.issued]
    have hnumber : (e'.transport.issue r).1 = (e.transport.issue r).1 :=
      congrArg List.length h.issued
    refine ⟨hnumber, { h with joins := ?_, issued := ?_ }⟩
    · simp only [hnumber, h.joins]
    · simp only [tell, request, Transport.issue, hnext, h.issued, h.link]
  · exact ⟨rfl, h⟩

theorem openSession (h : e.Agrees e') (id name : String) (target : Target) (r : Request) :
    (e.openSession id name target r).2.Agrees (e'.openSession id name target r).2 := by
  have hresult : (e'.ensureSession id name target).1 = (e.ensureSession id name target).1 := by
    simp only [ensureSession, h.registry]
  have hagrees : (e.ensureSession id name target).2.Agrees (e'.ensureSession id name target).2 := by
    simp only [ensureSession, h.registry]
    exact h.withRegistry _
  rw [Endpoint.openSession, Endpoint.openSession]
  rcases hs : e.ensureSession id name target with ⟨result, e₁⟩
  rcases hs' : e'.ensureSession id name target with ⟨result', e₁'⟩
  rw [hs, hs'] at hresult hagrees
  obtain rfl : result' = result := hresult
  rcases result' with f | s
  · exact hagrees
  · exact (hagrees.joinOnce id r).2

/-- Endpoints that agree open a conversation alike. -/
theorem openConversation (h : e.Agrees e') (target : Target) :
    (e.openConversation target).2.Agrees (e'.openConversation target).2 := by
  have hknown := knownConversation_congr h.keys target
  rcases hid : e.knownConversation target with f | id
  · rw [openConversation_of_unknown hid, openConversation_of_unknown (hknown.trans hid)]
    exact h
  · rw [openConversation_of_known hid, openConversation_of_known (hknown.trans hid)]
    exact h.openSession id _ target target.join

end Agrees

end ChatRouting.Endpoint
