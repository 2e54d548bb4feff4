import ChatRouting.Proofs.Endpoint.Opening
import ChatRouting.Proofs.Host.Moments

/-!
# Who is addressed

Opening a conversation gives a session and the receipt of a join request, and what is sent to the
session goes to the target of the session. Both are kept under the id of the conversation, and
what is first under an id stays: a session that is there has the target that it was given, by an
inbound event perhaps, and a join that has not failed is not requested again. So the conversation
that is opened is the one that is asked for unless something else has its id. Two friends may have
conversations of one id only if their hashes agree, but the id of a group may be any text, and so
may be the id in an inbound event.

## Main definitions

* `Endpoint.Addressed`: whom a conversation that has been opened reaches

## Main results

* `Host.openConversation_addressed`
* `Host.openConversation_other_target`: an inbound event has taken the place of a friend
-/

namespace ChatRouting

namespace Endpoint

variable {e e' : Endpoint} {target : Target} {s : Session} {n : Nat}

/-- What the session and the receipt of a conversation that is opened are, and who is addressed
when a text is sent to the session. -/
structure Addressed (target : Target) (e e' : Endpoint) (s : Session) (n : Nat) : Prop where
  /-- The session has the id of the conversation. -/
  id : Conversation.idOf e.localId target = .ok s.id
  /-- A session that was there is found as it was. -/
  standing : ∀ s₀, e.session? s.id = some s₀ → s = s₀
  /-- The session is with the target unless one that was there was with another. -/
  target_iff : s.target = target ↔ ∀ s₀, e.session? s.id = some s₀ → s₀.target = target
  /-- The receipt is that of a join request for a conversation of the id. -/
  receipt : ∃ other : Target, e'.transport.request? n = some other.join ∧
    Conversation.idOf e.localId other = .ok s.id
  /-- The target is joined unless a join that stood under the id was for another. -/
  receipt_iff : e'.transport.request? n = some target.join ↔
    ∀ m, e.standingJoin? s.id = some m → e.transport.request? m = some target.join
  /-- At most one request is made to send a text, and it is to the target of the session. -/
  sending : ∀ plaintext,
    (e'.sendToSession s.id plaintext).2.transport.requests = e'.transport.requests ∨
      (e'.sendToSession s.id plaintext).2.transport.requests =
        e'.transport.requests ++ [s.target.message plaintext]
  /-- A text is sent if the session is with the target that was asked for, and the local key pair
  is set when that is a friend. -/
  sent : ∀ plaintext, plaintext ≠ "" → s.target = target →
    (target.isGroup = false → e.keys.keyPair.isSome) →
    ∃ m, (e'.sendToSession s.id plaintext).1 = .ok m ∧
      (e'.sendToSession s.id plaintext).2.transport.requests =
        e'.transport.requests ++ [target.message plaintext]

/-- Whom the session of a conversation that is opened is with, which request its receipt is of, and
what is requested when a text is then sent to the session. -/
def addresses (e : Endpoint) (target : Target) (plaintext : String) :
    Option (Target × Option Request × List Request) :=
  match e.openConversation target with
  | (.ok (s, n), e') =>
    some (s.target, e'.transport.request? n,
      (e'.sendToSession s.id plaintext).2.transport.requests.drop e'.transport.requests.length)
  | (.error _, _) => none

theorem addressed_of_openConversation (hw : e.router.registry.WellKept) (hj : e.JoinsSound)
    (h : e.openConversation target = (.ok (s, n), e')) : Addressed target e e' s n := by
  obtain ⟨id, name, hknown, hopen⟩ := openConversation_ok h
  obtain ⟨hs, hjoin⟩ := openSession_ok hopen
  obtain ⟨rfl, hfind, hstanding, hnew⟩ := ensure_ok hw hs
  obtain ⟨hkeys, hrouter, hrequest⟩ := joinOnce_request hjoin
  have hne : s.id ≠ "" := (hw.ensure s.id name target).ne_empty_of_find? hfind
  have hsession : e'.session? s.id = some s := by
    rw [session?, hrouter]
    exact hfind
  have hsend (plaintext : String) :
      e'.sendToSession s.id plaintext = e'.send s.target plaintext :=
    sendToSession_of_session? hsession hne plaintext
  have hid := idOf_of_knownConversation hknown
  refine ⟨hid, hstanding, ?_, ?_, ?_, ?_, ?_⟩
  · constructor
    · intro ht s₀ hs₀
      rw [← hstanding s₀ hs₀, ht]
    · intro ht
      cases hs₀ : e.session? s.id with
      | none => exact hnew hs₀
      | some s₀ => rw [hstanding s₀ hs₀, ht s₀ hs₀]
  · rcases hrequest with ⟨hstands, ht⟩ | ⟨_, hr⟩
    · obtain ⟨hmem, hn⟩ := standingJoin?_mem hstands
      rw [ht]
      exact hj _ _ hmem hn
    · exact ⟨target, hr, hid⟩
  · rcases hrequest with ⟨hstands, ht⟩ | ⟨hstands, hr⟩
    · have hstands' : e.standingJoin? s.id = some n := hstands
      have ht' : e'.transport = e.transport := ht
      rw [ht', hstands']
      simp
    · have hstands' : e.standingJoin? s.id = none := hstands
      rw [hr, hstands']
      simp
  · intro plaintext
    rw [hsend]
    exact e'.send_requests s.target plaintext
  · intro plaintext htext ht hpair
    rw [hsend, ht]
    have hknown' : e'.knownConversation target = .ok s.id :=
      (knownConversation_congr hkeys target).trans hknown
    exact send_ok (sendRequest_ok hknown' htext (by rwa [hkeys]))

end Endpoint

namespace Host

/-- **A conversation that is opened is the one that is asked for, unless its place is taken.**
This holds of every endpoint that moves lead to, and so at all moments of a run, between operations
and inside callbacks. -/
theorem openConversation_addressed (keys : KeyRing) (transport : Transport)
    (ignoreOwnEcho : Bool) (target : Target) :
    let start := fresh keys transport ignoreOwnEcho
    (∀ ops, start.endpoint.Moves (run ops start).endpoint ∧
        ∀ m ∈ moments ops start, start.endpoint.Moves m.host.endpoint) ∧
      ∀ e, start.endpoint.Moves e → ∀ s n e', e.openConversation target = (.ok (s, n), e') →
        e.Addressed target e' s n := by
  intro start
  refine ⟨fun ops => ?_, fun e he s n e' h => ?_⟩
  · have hl := leads_moments_fresh keys transport ignoreOwnEcho ops
    exact ⟨hl.moves, fun m hm => hl.moves_of_mem hm⟩
  have hw : e.router.registry.WellKept := he.wellKept Registry.wellKept_empty
  have hj : e.JoinsSound := he.joinsSound fun _ _ hmem => by cases hmem
  exact Endpoint.addressed_of_openConversation hw hj h

/-- A friend whose conversation nothing else has the id of is addressed. -/
theorem openConversation_addressed_friend :
    let ops : List Operation := [.addFriend { peer := "bob", publicKey := [1] },
      .setKeyPair { privateKey := [3], publicKey := [4] }]
    let e := (run ops (fresh (KeyRing.ofId "alice") .channel true)).endpoint
    ∃ s n e', e.openConversation (.direct "bob") = (.ok (s, n), e') ∧ s.target = .direct "bob" ∧
      e.Addressed (.direct "bob") e' s n := by
  intro ops e
  have hok : (e.openConversation (.direct "bob")).1.toOption.map (fun opened => opened.1.target) =
      some (.direct "bob") := by
    decide +kernel
  have hall := openConversation_addressed (KeyRing.ofId "alice") .channel true (.direct "bob")
  match h : e.openConversation (.direct "bob") with
  | (.error f, e') =>
    rw [h] at hok
    cases hok
  | (.ok (s, n), e') =>
    rw [h] at hok
    exact ⟨s, n, e', rfl, Option.some.inj hok, hall.2 e (hall.1 ops).1 s n e' h⟩

/-- A group whose id is that of the conversation with a friend is addressed in place of the friend
when it is joined first, and the other way round. When an inbound message has the id, its sender
is addressed. -/
theorem openConversation_other_target :
    let id := "1e2af26470aae838"
    let m : Message :=
      { conversation := id, sender := "mallory", isGroup := false, subject := ""
        timestamp := "2024-01-01T00:00:01Z", plaintext := "hi" }
    let h := run [.addFriend { peer := "bob", publicKey := [1] },
      .addFriend { peer := "mallory", publicKey := [2] },
      .addGroup { group := id, symmetricKey := [5] },
      .setKeyPair { privateKey := [3], publicKey := [4] }]
      (fresh (KeyRing.ofId "alice") .channel true)
    (run [.joinGroup id] h).endpoint.addresses (.direct "bob") "secret" =
        some (.group id, some (.groupJoin id), [.groupSend id "secret"]) ∧
      (run [.startDirect "bob"] h).endpoint.addresses (.group id) "secret" =
        some (.direct "bob", some (.directJoin "bob"), [.directSend "bob" "secret"]) ∧
      (run [.handle (.message m)] h).endpoint.addresses (.direct "bob") "secret" =
        some (.direct "mallory", some (.directJoin "bob"), [.directSend "mallory" "secret"]) := by
  decide +kernel

end Host

end ChatRouting
