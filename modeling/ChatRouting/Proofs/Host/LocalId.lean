import ChatRouting.Proofs.Host.Numbers
import ChatRouting.Proofs.Host.SelfSession

/-!
# When the local id may change

The ids of direct conversations depend on the local id, which is why it may not change while a
conversation is joined. Only the latest join of a conversation is recorded, and under the id that
the conversation had when it was requested. This is enough: a join that is not recorded any more has
failed, so that the local id may change exactly when all joins that were ever requested have failed.
These are the requests of the handles that were returned for conversations.

A join that was acknowledged stays acknowledged, and so the local id does not change any more.

## Main results

* `Endpoint.JoinsAccounted.hasJoined_iff`: some join that was requested has not failed
* `Endpoint.Moves.localId_of_acknowledged`
* `Host.localId_frozen`
-/

namespace ChatRouting

namespace Endpoint

variable {start e e' : Endpoint} {js : List (String × Nat)}

/-- Some join that was requested has not failed, be it recorded or not. -/
theorem JoinsAccounted.hasJoined_iff (ha : e.JoinsAccounted js) (hj : e.JoinsSound) :
    e.hasJoined = true ↔ ∃ (n : Nat) (target : Target),
      e.transport.request? n = some target.join ∧ e.transport.hasFailed n = false := by
  rw [hasJoined, List.any_eq_true]
  constructor
  · rintro ⟨⟨id, n⟩, hmem, hn⟩
    have hn' : e.transport.hasFailed n = false := (Bool.not_eq_true' _).mp hn
    obtain ⟨target, hr, -⟩ := hj id n hmem hn'
    exact ⟨n, target, hr, hn'⟩
  · rintro ⟨n, target, hr, hn⟩
    obtain ⟨id, hmem⟩ := (ha.requested_iff n).mpr ⟨target, hr⟩
    have hstands := (ha.standing_iff id n).mpr ⟨hmem, hn⟩
    exact ⟨(id, n), (standingJoin?_mem hstands).1, (Bool.not_eq_true' _).mpr hn⟩

/-- The local id is set, if it may be, to what is left of a name that is not blank. -/
theorem setLocalId_ok_iff {name : String} (hname : Text.trim name ≠ "") :
    (∃ identity e', e.setLocalId name = (.ok identity, e')) ↔ e.hasJoined = false := by
  rw [setLocalId]
  cases hjoined : e.hasJoined with
  | true =>
    rw [if_pos rfl]
    refine ⟨?_, fun h => by cases h⟩
    rintro ⟨identity, e', h⟩
    cases h
  | false =>
    rw [if_neg Bool.false_ne_true, KeyRing.setLocalId_of_trim hname]
    exact ⟨fun _ => rfl, fun _ => ⟨_, _, rfl⟩⟩

/-- Once a join is acknowledged, the local id does not change. -/
theorem Moves.localId_of_acknowledged (hstart : start.Moves e) (hjoins : start.joins = [])
    (hrequests : start.transport.requests = []) {n : Nat} {target : Target}
    (hr : e.transport.request? n = some target.join)
    (ho : e.transport.outcome? n = some (.ok ())) (h : e.Moves e') : e'.localId = e.localId := by
  induction h with
  | refl => rfl
  | @tail e₁ e₂ hpath hmove ih =>
    rcases hmove.localId with hid | ⟨name, identity, hset⟩
    · exact hid.trans ih
    · -- A join that was acknowledged has not failed.
      have hx : e.transport.Extends e₁.transport := Moves.extends hpath
      have hn : e₁.transport.hasFailed n = false := by
        refine Bool.eq_false_iff.mpr fun hfailed => ?_
        obtain ⟨f, hf⟩ := Transport.hasFailed_iff.mp hfailed
        rw [hx.outcome n _ ho] at hf
        cases hf
      have hmoves : start.Moves e₁ := hstart.trans hpath
      obtain ⟨js, hjs⟩ := JoinHistory.exists_of_moves hmoves
      have hsound : e₁.JoinsSound := hmoves.joinsSound fun id m hmem => by
        rw [hjoins] at hmem
        cases hmem
      have hjoined := ((hjs.accounted hjoins hrequests).hasJoined_iff hsound).mpr
        ⟨n, target, hx.request? hr, hn⟩
      rw [setLocalId, if_pos hjoined] at hset
      cases hset

end Endpoint

namespace Host

variable {h : Host} {ks : List Nat}

/-- All requests to join have failed when all handles on them report a failure. -/
theorem Returned.all_failed_iff (hr : Returned ks h) :
    (∀ (n : Nat) (target : Target), h.endpoint.transport.request? n = some target.join →
      h.endpoint.transport.hasFailed n = true) ↔
    ∀ k ∈ ks, ∃ f, h.outcomeOf? k = some (some (.error f)) := by
  constructor
  · intro hall k hk
    obtain ⟨n, target, hn, hjoin⟩ := hr.join k hk
    obtain ⟨f, hf⟩ := Transport.hasFailed_iff.mp (hall n target hjoin)
    exact ⟨f, by rw [outcomeOf?, hn, Option.map_some, hf]⟩
  · intro hall n target hjoin
    obtain ⟨k, hk, hn⟩ := hr.handle n target hjoin
    obtain ⟨f, hf⟩ := hall k hk
    rw [outcomeOf?, hn, Option.map_some] at hf
    exact Transport.hasFailed_iff.mpr ⟨f, Option.some.inj hf⟩

/-- **The local id may change exactly when all joins have failed.** At every moment of a run, a
local id that is not blank is accepted just if every handle that was returned for a conversation
so far reports a failure. If one of them reports success, the local id is the same at all later
moments. A direct join that is recorded and has not failed stands under the id that the
conversation with the peer has now. -/
theorem localId_frozen (keys : KeyRing) (link : Link) (ignoreOwnEcho : Bool)
    (ops : List Operation) :
    let start := fresh keys { link } ignoreOwnEcho
    ∀ before later, moments ops start = before ++ later →
      let h := start.after before
      let handles := before.filterMap Moment.opened?
      (∀ name, Text.trim name ≠ "" →
        ((∃ identity e, h.endpoint.setLocalId name = (.ok identity, e)) ↔
          ∀ k ∈ handles, ∃ f, h.outcomeOf? k = some (some (.error f)))) ∧
      (∀ k ∈ handles, h.outcomeOf? k = some (some (.ok ())) →
        ∀ m ∈ later, m.host.endpoint.localId = h.endpoint.localId) ∧
      ∀ id n peer, (id, n) ∈ h.endpoint.joins →
        h.endpoint.transport.request? n = some (.directJoin peer) →
        h.endpoint.transport.hasFailed n = false →
          Conversation.directId h.endpoint.localId peer = .ok id := by
  intro start before later hms h handles
  have hl : Leads start (before ++ later) (run ops start) :=
    hms ▸ leads_moments_fresh keys { link } ignoreOwnEcho ops
  obtain ⟨hbefore, hlater⟩ := hl.split
  have hmoves : start.endpoint.Moves h.endpoint := hbefore.moves
  have hsound₀ : start.endpoint.JoinsSound := fun id n hmem => by cases hmem
  have hsound : h.endpoint.JoinsSound := hmoves.joinsSound hsound₀
  have hreturned₀ : Returned [] start :=
    { join := fun k hk => by cases hk
      handle := fun n target hr => by cases hr }
  have hreturned : Returned handles h := hbefore.returned hsound₀ hreturned₀
  obtain ⟨js, hjs⟩ := Endpoint.JoinHistory.exists_of_moves hmoves
  have hjoined := (hjs.accounted rfl rfl).hasJoined_iff hsound
  refine ⟨fun name hname => ?_, fun k hk ho m hm => ?_, fun id n peer hmem hr hn => ?_⟩
  · rw [Endpoint.setLocalId_ok_iff hname, ← hreturned.all_failed_iff, ← Bool.not_eq_true, hjoined]
    simp only [not_exists, not_and, Bool.not_eq_false]
  · obtain ⟨n, target, hn, hjoin⟩ := hreturned.join k hk
    rw [outcomeOf?, hn, Option.map_some] at ho
    exact Endpoint.Moves.localId_of_acknowledged hmoves rfl rfl hjoin (Option.some.inj ho)
      (hlater.moves_of_mem hm)
  · obtain ⟨target, htarget, hid⟩ := hsound id n hmem hn
    have hpeer : target = .direct peer :=
      Target.join_injective (Option.some.inj (htarget.symm.trans hr))
    rw [hpeer] at hid
    exact hid

/-- A friend whose join has failed and is requested again under another local id. When the second
join is acknowledged, the local id stays. -/
theorem localId_frozen_retried :
    let ops : List Operation := [.addFriend { peer := "bob", publicKey := [1] },
      .startDirect "bob", .answer 2 (.error (.transport "down")), .setLocalId "carol",
      .startDirect "bob", .answer 3 (.ok ()), .setLocalId "dave"]
    let ms := moments ops (fresh (KeyRing.ofId "alice") .channel true)
    let h := (fresh (KeyRing.ofId "alice") .channel true).after (ms.take 6)
    (ms.take 6).filterMap Moment.opened? = [0, 1] ∧ h.endpoint.localId = "carol" ∧
      h.outcomeOf? 1 = some (some (.ok ())) ∧
      (∀ m ∈ ms.drop 6, m.host.endpoint.localId = "carol") ∧
      ¬∃ identity e, h.endpoint.setLocalId "dave" = (.ok identity, e) := by
  intro ops ms h
  have hall := localId_frozen (KeyRing.ofId "alice") (.channel true) true ops
  obtain ⟨hset, hfrozen, -⟩ := hall (ms.take 6) (ms.drop 6) (List.take_append_drop 6 ms).symm
  have hhandles : (ms.take 6).filterMap Moment.opened? = [0, 1] := by decide +kernel
  have hid : h.endpoint.localId = "carol" := by decide +kernel
  have hok : h.outcomeOf? 1 = some (some (.ok ())) := by decide +kernel
  have hmem : 1 ∈ (ms.take 6).filterMap Moment.opened? := by
    rw [hhandles]
    decide
  refine ⟨hhandles, hid, hok, fun m hm => (hfrozen 1 hmem hok m hm).trans hid, fun hdave => ?_⟩
  obtain ⟨f, hf⟩ := (hset "dave" (by decide +kernel)).mp hdave 1 hmem
  cases hok.symm.trans hf

end Host

end ChatRouting
