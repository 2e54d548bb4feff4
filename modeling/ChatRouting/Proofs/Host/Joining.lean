import ChatRouting.Proofs.Host.Asking

/-!
# The joins of a run

The joins that a run has requested are read off its moments: when a request to join is new at a
moment, the conversation has the id that it has just before. They are a history of joins, so that
all that is so of such histories is so of a run, at each of its moments.

## Main definitions

* `Endpoint.joinMade?`: the join that is requested between two endpoints
* `Host.joinsMade`: the joins that are requested at some moments

## Main results

* `Host.Leads.joinHistory`
* `Host.joins_once`
-/

namespace ChatRouting

/-- The conversation that a request joins. -/
def Request.joins? : Request → Option Target
  | directJoin peer => some (.direct peer)
  | groupJoin group => some (.group group)
  | _ => none

theorem Request.joins?_eq_some_iff {r : Request} {target : Target} :
    r.joins? = some target ↔ r = target.join := by
  constructor
  · intro h
    cases r <;> cases h <;> rfl
  · rintro rfl
    cases target <;> rfl

namespace Endpoint

/-- The join that is requested between two endpoints if one request is made: the id that the
conversation has before, and the number of the request. -/
def joinMade? (e e' : Endpoint) : Option (String × Nat) := do
  let r ← e'.transport.request? e.transport.requests.length
  let target ← r.joins?
  let id ← (Conversation.idOf e.localId target).toOption
  return (id, e.transport.requests.length)

variable {e e' e₁ : Endpoint} {target : Target} {id : String}

theorem joinMade?_of_quiet (hquiet : ∀ (n : Nat) (target : Target),
    e'.transport.request? n = some target.join → e.transport.request? n = some target.join) :
    e.joinMade? e' = none := by
  refine Option.eq_none_iff_forall_ne_some.mpr fun made hmade => ?_
  simp only [joinMade?, bind, Option.bind_eq_some_iff] at hmade
  obtain ⟨r, hr, target, htarget, -⟩ := hmade
  rw [Request.joins?_eq_some_iff.mp htarget] at hr
  exact Nat.lt_irrefl _ (Transport.lt_of_request? (hquiet _ _ hr))

theorem joinMade?_of_made (hid : Conversation.idOf e.localId target = .ok id)
    (hmade : e'.transport.requests = e.transport.requests ++ [target.join]) :
    e.joinMade? e' = some (id, e.transport.requests.length) := by
  have hr : e'.transport.request? e.transport.requests.length = some target.join :=
    (Transport.request?_of_requests_eq hmade).mpr (Or.inr ⟨rfl, rfl⟩)
  have htarget : target.join.joins? = some target := Request.joins?_eq_some_iff.mpr rfl
  simp only [joinMade?, hr, htarget, hid, bind, Option.bind_some, Except.toOption]
  rfl

theorem Spares.joinMade?_eq (hs : e.Spares e₁) (e' : Endpoint) :
    e₁.joinMade? e' = e.joinMade? e' := by
  rw [joinMade?, joinMade?, hs.localId, hs.transport]

end Endpoint

namespace Host

/-- The joins that are requested at some moments, from a host on. -/
def joinsMade : Host → List Moment → List (String × Nat)
  | _, [] => []
  | h, m :: ms => (h.endpoint.joinMade? m.host.endpoint).toList ++ joinsMade m.host ms

variable {start h h' : Host} {m : Moment} {ms : List Moment}

theorem joinsMade_append_singleton (h : Host) (ms : List Moment) (m : Moment) :
    h.joinsMade (ms ++ [m]) =
      h.joinsMade ms ++ ((h.after ms).endpoint.joinMade? m.host.endpoint).toList := by
  induction ms generalizing h with
  | nil => exact List.append_nil _
  | cons m' ms ih =>
    rw [List.cons_append, joinsMade, joinsMade, ih, after_cons, List.append_assoc]

/-- What becomes of the joins at the next moment, which may be some way off. -/
theorem joinsMade_next (hs : (start.after ms).endpoint.Spares h.endpoint)
    (hasks : h.endpoint.AsksOnce m.host.endpoint) :
    ((∀ (n : Nat) (target : Target), m.host.endpoint.transport.request? n = some target.join →
        h.endpoint.transport.request? n = some target.join) ∧
      start.joinsMade (ms ++ [m]) = start.joinsMade ms) ∨
    ∃ target id, h.endpoint.knownConversation target = .ok id ∧
      Conversation.idOf h.endpoint.localId target = .ok id ∧
      m.host.endpoint.transport.requests = h.endpoint.transport.requests ++ [target.join] ∧
      start.joinsMade (ms ++ [m]) =
        start.joinsMade ms ++ [(id, h.endpoint.transport.requests.length)] := by
  rw [joinsMade_append_singleton, ← hs.joinMade?_eq]
  rcases hasks.joining with ⟨hquiet, -⟩ | ⟨target, id, hknown, -, hmade, -⟩
  · refine Or.inl ⟨hquiet, ?_⟩
    rw [Endpoint.joinMade?_of_quiet hquiet, Option.toList_none, List.append_nil]
  · have hid := Endpoint.idOf_of_knownConversation hknown
    refine Or.inr ⟨target, id, hknown, hid, hmade, ?_⟩
    rw [Endpoint.joinMade?_of_made hid hmade]
    rfl

/-- The joins of a run are a history. -/
theorem Leads.joinHistory (hl : Leads start ms h) :
    start.endpoint.JoinHistory (start.joinsMade ms) h.endpoint := by
  induction hl with
  | refl => exact .start
  | between _ hb ih =>
    refine ih.quiet hb.moves hb.spares.asks fun n target hr => ?_
    rwa [hb.spares.transport] at hr
  | moment hl ho ih =>
    rcases joinsMade_next hl.since.spares ho.does.asks with
      ⟨hquiet, hmade⟩ | ⟨target, id, -, hid, hrequests, hmade⟩
    · rw [hmade]
      exact ih.quiet ho.moves ho.does.asks hquiet
    · rw [hmade]
      exact ih.join ho.moves ho.does.asks hid hrequests

/-- **No conversation is joined again while a join of it stands.** The first part holds of every
history of joins. The joins that a run has requested up to one of its moments, those inside
callbacks included, are such a history, and when a join is requested at the next moment then all
that were requested under its id have failed. -/
theorem joins_once (keys : KeyRing) (link : Link) (ignoreOwnEcho : Bool) :
    let start := fresh keys { link } ignoreOwnEcho
    (∀ js e, start.endpoint.JoinHistory js e → start.endpoint.JoinsOnce js e) ∧
      ∀ ops, start.endpoint.JoinHistory (start.joinsMade (moments ops start))
          (run ops start).endpoint ∧
        ∀ before later, moments ops start = before ++ later →
          let e := (start.after before).endpoint
          start.endpoint.JoinHistory (start.joinsMade before) e ∧
          ∀ m rest, later = m :: rest →
            start.joinsMade (before ++ [m]) = start.joinsMade before ∨
            ∃ target id, Conversation.idOf e.localId target = .ok id ∧
              m.host.endpoint.transport.requests = e.transport.requests ++ [target.join] ∧
              start.joinsMade (before ++ [m]) =
                start.joinsMade before ++ [(id, e.transport.requests.length)] ∧
              ∀ n, (id, n) ∈ start.joinsMade before → e.transport.hasFailed n = true := by
  intro start
  refine ⟨fun js e h => h.once rfl rfl, fun ops => ?_⟩
  have hl := leads_moments_fresh keys { link } ignoreOwnEcho ops
  refine ⟨hl.joinHistory, fun before later hms => ?_⟩
  rw [hms] at hl
  obtain ⟨hbefore, hlater⟩ := hl.split
  refine ⟨hbefore.joinHistory, ?_⟩
  rintro m rest rfl
  have hasks := hlater.asks_next
  rcases joinsMade_next (.refl _) hasks with ⟨-, hsame⟩ | ⟨target, id, hknown, hid, hmade, hmore⟩
  · exact Or.inl hsame
  · refine Or.inr ⟨target, id, hid, hmade, hmore, ?_⟩
    obtain ⟨other, hother, hfailed⟩ := hbefore.joinHistory.failed_of_made rfl rfl hasks hmade
    cases hknown.symm.trans hother
    exact hfailed

/-- A group whose join has failed is joined again. -/
theorem joins_once_group :
    let ops : List Operation := [.addGroup { group := "crew", symmetricKey := [5] },
      .joinGroup "crew", .answer 2 (.error (.transport "down")), .joinGroup "crew"]
    let start := fresh (KeyRing.ofId "alice") .channel true
    let e := (run ops start).endpoint
    let js := start.joinsMade (moments ops start)
    e.transport.hasFailed 1 = true ∧ e.standingJoin? "crew" = some 2 ∧
      js = [("crew", 1), ("crew", 2)] ∧ start.endpoint.JoinsOnce js e := by
  intro ops start e js
  have hall := joins_once (KeyRing.ofId "alice") (.channel true) true
  exact ⟨by decide +kernel, by decide +kernel, by decide +kernel, hall.1 js e (hall.2 ops).1⟩

end Host

end ChatRouting
