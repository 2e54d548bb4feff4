import ChatRouting.Proofs.Endpoint.Origin
import ChatRouting.Proofs.Host.Plain

/-!
# Sessions with the local user

No session is entered with the user who is local at that moment. What is there when the local id
changes stays, however: only the joins that stand keep the local id from changing, and a session
that an inbound message has entered has no join, and one whose join has failed has none that
stands. So the local user may take the id of whom a session is with, and that is the only way in
which a session comes to be with the local user. In a run there is a moment at which this was done.

## Main definitions

* `Host.Renamed`: a session was there when the local user took the present id

## Main results

* `Endpoint.Move.localId`: the local id changes in no other way than by being set
* `Host.PlainLeads.renamed`: how a session comes to be with the local user
* `Host.self_session_iff_renamed`
* `Host.self_session_of_setLocalId`: a session with the local user
-/

namespace ChatRouting

namespace Endpoint

variable {e e' : Endpoint}

/-- The local id changes in no other way than by being set. -/
theorem Move.localId (h : e.Move e') :
    e'.localId = e.localId ∨ ∃ id identity, e.setLocalId id = (.ok identity, e') := by
  cases h with
  | take | classify | mark | turn => exact Or.inl rfl
  | change h =>
    cases h with
    | learn h => exact Or.inl (learns_id h)
    | join _ => exact Or.inl (congrArg (·.identity.id) (joinOnce_keys _ _))
    | @rename id hjoined =>
      by_cases hid : Text.trim id = ""
      · exact Or.inl (by rw [KeyRing.setLocalId_of_blank hid])
      · refine Or.inr ⟨id, { e.keys.identity with id := Text.trim id }, ?_⟩
        rw [setLocalId, if_neg (Bool.eq_false_iff.mp hjoined), KeyRing.setLocalId_of_trim hid]
    | ensure | remove | send | enqueue | collect | detach | answer | abandon | subscribers =>
      exact Or.inl rfl

/-- The local user may take any id as long as no join stands. -/
theorem setLocalId_of_not_joined {name : String} (hjoined : e.hasJoined = false)
    (htrim : Text.trim name = name) (hname : name ≠ "") :
    ∃ identity e', e.setLocalId name = (.ok identity, e') ∧ e'.localId = name ∧
      e'.router = e.router := by
  rw [setLocalId, if_neg (Bool.eq_false_iff.mp hjoined),
    KeyRing.setLocalId_of_trim (by rwa [htrim]), htrim]
  exact ⟨_, _, rfl, rfl, rfl⟩

end Endpoint

namespace Host

variable {start h h' : Host} {id : String} {s : Session} {m : Moment} {ms : List Moment}

/-- Among some moments is one at which the local user has taken the id that is the local id ever
since. There was another local id before, and a session with a target was there. -/
def Renamed (start : Host) (ms : List Moment) (h : Host) (id : String) (target : Target) : Prop :=
  ∃ earlier m rest name identity, ms = earlier ++ m :: rest ∧
    m.happening = .done (.setLocalId name) (.identity identity) ∧
    (start.after earlier).endpoint.localId ≠ h.endpoint.localId ∧
    (∀ x ∈ m :: rest, x.host.endpoint.localId = h.endpoint.localId) ∧
    ∃ s ∈ m.host.endpoint.sessions, s.id = id ∧ s.target = target

/-- The local id stays as it is at the next moment. -/
theorem Renamed.moment {target : Target} (hr : Renamed start ms h id target)
    (hid : m.host.endpoint.localId = h.endpoint.localId) :
    Renamed start (ms ++ [m]) m.host id target := by
  obtain ⟨earlier, m', rest, name, identity, rfl, hset, hne, hsame, hs⟩ := hr
  refine ⟨earlier, m', rest ++ [m], name, identity, by simp, hset, by rwa [hid], ?_, hs⟩
  intro x hx
  rw [hid]
  rw [← List.cons_append] at hx
  rcases List.mem_append.mp hx with hx | hx
  · exact hsame x hx
  · rw [List.mem_singleton.mp hx, hid]

/-- Of sessions with the local user none is new if the local id stays. -/
theorem exists_session_of_plainSessions (hp : h.endpoint.PlainSessions h'.endpoint.router.registry)
    (hw : h.endpoint.router.registry.WellKept)
    (hid : h'.endpoint.localId = h.endpoint.localId) (hs : h'.endpoint.session? id = some s)
    (hself : s.target = .direct h'.endpoint.localId) :
    ∃ s₀, h.endpoint.session? id = some s₀ ∧ s₀.target = s.target := by
  rcases hp.entered hw hs with ⟨s₀, hs₀, hheading⟩ | ⟨-, hentered⟩
  · exact ⟨s₀, hs₀, congrArg (·.2.2) hheading⟩
  · rw [hid] at hself
    exact absurd hself hentered.ne_self

/-- A session that is with the local user was there when the local user took the present id. -/
theorem PlainLeads.renamed (hl : PlainLeads start ms h)
    (hw : start.endpoint.router.registry.WellKept) (hnone : ∀ id, start.endpoint.session? id = none)
    (hs : h.endpoint.session? id = some s) (hself : s.target = .direct h.endpoint.localId) :
    Renamed start ms h id s.target := by
  induction hl generalizing s with
  | refl =>
    rw [hnone] at hs
    cases hs
  | @between ms h h' hl hb hp ih =>
    have hid : h'.endpoint.localId = h.endpoint.localId := hb.spares.localId
    obtain ⟨s₀, hs₀, htarget⟩ := exists_session_of_plainSessions hp.sessions
      (hl.plainMoves.moves.wellKept hw) hid hs hself
    have hbefore := ih hs₀ (by rw [htarget, hself, hid])
    rwa [htarget, Renamed, ← hid] at hbefore
  | @moment ms h m hl ho hx hp ih =>
    have hdoes := ho.does
    by_cases hid : m.host.endpoint.localId = h.endpoint.localId
    · obtain ⟨s₀, hs₀, htarget⟩ := exists_session_of_plainSessions (hdoes.sessions hx)
        (hl.plainMoves.moves.wellKept hw) hid hs hself
      have hbefore := ih hs₀ (by rw [htarget, hself, hid])
      rw [htarget] at hbefore
      exact hbefore.moment hid
    · -- The local id is new, and so this is the moment.
      obtain ⟨name, identity, hset, -⟩ := hdoes.localId.resolve_left hid
      have hkept := (hl.moment ho hx hp).plainMoves.moves.wellKept hw
      obtain ⟨hmem, hname⟩ := hkept.find?_eq_some_iff.mp hs
      refine ⟨ms, m, [], name, identity, rfl, hset, ?_, ?_, s, hmem, hname, rfl⟩
      · rw [← hl.leads.since.spares.localId]
        exact Ne.symm hid
      · intro x hx
        rw [List.mem_singleton.mp hx]

/-- **A session comes to be with the local user when the local user takes the id of whom it is
with, and in no other way.** At a moment of a run of plain operations, those inside callbacks
included, a session that is with the local user was there when the local user took the present id,
at a moment before. At every endpoint that plain moves lead to, and so at every such moment, the
local user may take the id of whom a session is with, as long as no join stands. -/
theorem self_session_iff_renamed (keys : KeyRing) (transport : Transport) (ignoreOwnEcho : Bool) :
    let start := fresh keys transport ignoreOwnEcho
    (∀ ops : List Operation, (∀ op ∈ ops, op.isPlain = true) →
      start.endpoint.PlainMoves (run ops start).endpoint ∧
      ∀ before later, moments ops start = before ++ later →
        let h := start.after before
        start.endpoint.PlainMoves h.endpoint ∧
        ∀ s ∈ h.endpoint.sessions, s.target = .direct h.endpoint.localId →
          Renamed start before h s.id s.target) ∧
      ∀ e, start.endpoint.PlainMoves e →
        ∀ s ∈ e.sessions, ∀ peer, s.target = .direct peer → e.hasJoined = false →
          Text.trim peer = peer → peer ≠ "" →
          ∃ identity e', e.setLocalId peer = (.ok identity, e') ∧ e'.localId = peer ∧
            s ∈ e'.sessions := by
  intro start
  have hstart : start.endpoint.router.registry.WellKept := Registry.wellKept_empty
  refine ⟨fun ops hops => ?_, fun e he s hs peer _ hjoined htrim hpeer => ?_⟩
  · have hl := plainLeads_moments_fresh keys transport ignoreOwnEcho hops
    refine ⟨hl.plainMoves, fun before later hms => ?_⟩
    rw [hms] at hl
    have hbefore := hl.before
    refine ⟨hbefore.plainMoves, fun s hs hself => ?_⟩
    have hw := hbefore.plainMoves.moves.wellKept hstart
    exact hbefore.renamed hstart (fun _ => rfl) (hw.find?_eq_some_iff.mpr ⟨hs, rfl⟩) hself
  · obtain ⟨identity, e', hset, hid, hrouter⟩ :=
      Endpoint.setLocalId_of_not_joined hjoined htrim hpeer
    exact ⟨identity, e', hset, hid, by rwa [Endpoint.sessions, hrouter]⟩

/-- The session that a message of another user has entered is with the local user because the local
user has taken the id of the other. -/
theorem self_session_iff_renamed_message :
    let start := fresh (KeyRing.ofId "alice") .channel true
    let m : Message :=
      { conversation := "c1", sender := "bob", isGroup := false, subject := ""
        timestamp := "2024-01-01T00:00:01Z", plaintext := "hi" }
    let ops : List Operation := [.handle (.message m), .setLocalId "bob"]
    let h := start.after (moments ops start)
    ∃ s ∈ h.endpoint.sessions, s.target = .direct h.endpoint.localId ∧
      Renamed start (moments ops start) h s.id s.target := by
  intro start m ops h
  have hall := self_session_iff_renamed (KeyRing.ofId "alice") .channel true
  have hplain : ∀ op ∈ ops, op.isPlain = true := by decide
  have hself : ∃ s ∈ h.endpoint.sessions, s.target = .direct h.endpoint.localId := by
    decide +kernel
  obtain ⟨s, hs, htarget⟩ := hself
  have hmoment := ((hall.1 ops hplain).2 (moments ops start) [] (List.append_nil _).symm).2
  exact ⟨s, hs, htarget, hmoment s hs htarget⟩

/-- After a message of another user, the local user takes the id of that user, and so after a join
that has failed. The session is then with the local user. -/
theorem self_session_of_setLocalId :
    let start := fresh (KeyRing.ofId "alice") .channel true
    let m : Message :=
      { conversation := "c1", sender := "bob", isGroup := false, subject := ""
        timestamp := "2024-01-01T00:00:01Z", plaintext := "hi" }
    let afterMessage := (run [.handle (.message m), .setLocalId "bob"] start).endpoint
    let afterJoin := (run [.addFriend { peer := "bob", publicKey := [1] }, .startDirect "bob",
      .answer 2 (.error (.transport "down")), .setLocalId "bob"] start).endpoint
    (afterMessage.localId = "bob" ∧
        afterMessage.sessions.map Session.target = [.direct "bob"]) ∧
      afterJoin.localId = "bob" ∧ afterJoin.sessions.map Session.target = [.direct "bob"] := by
  decide +kernel

end Host

end ChatRouting
