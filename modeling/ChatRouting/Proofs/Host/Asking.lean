import ChatRouting.Proofs.Endpoint.Requests
import ChatRouting.Proofs.Host.Inside

/-!
# What is asked for at a moment

Between two moments of a run nothing is asked for. At a moment one request is made or none, since
no operation makes two, and the local id changes if that is what the operation says. So every
request of a run was made at a moment of its own, before which just the requests before it had
been made.

Sessions are left alone by most operations. One that does not reach past the endpoint enters a
session only for a conversation that is known.

## Main definitions

* `Happening.staysWithin`: what happens does not reach past the endpoint
* `Happening.Does`: what becomes of an endpoint
* `Endpoint.Spares`: keys, joins and requests are the same

## Main results

* `Host.Occurs.does`
* `Host.Leads.asks_next`: what is asked for at the next moment
* `Host.Leads.exists_asked`: the moment at which a request was made
-/

namespace ChatRouting

/-- What happens does not reach past the endpoint. -/
def Happening.staysWithin : Happening → Bool
  | done op _ => op.staysWithin
  | told _ _ | passed _ | noticed _ => true

/-- What becomes of the endpoint at a moment. -/
structure Happening.Does (x : Happening) (e e' : Endpoint) : Prop where
  asks : e.AsksOnce e'
  /-- The local id changes only by being set, which leaves the sessions alone. -/
  localId : e'.localId = e.localId ∨ ∃ name identity,
    x = .done (.setLocalId name) (.identity identity) ∧ e'.router.registry = e.router.registry
  sessions : x.staysWithin = true → e.PlainSessions e'.router.registry

namespace Endpoint

/-- Two endpoints have the same keys, joins and requests. They may differ in their router and in the
events that wait. -/
structure Spares (e e' : Endpoint) : Prop where
  keys : e'.keys = e.keys
  joins : e'.joins = e.joins
  transport : e'.transport = e.transport

variable {e e' e'' : Endpoint}

theorem Agrees.requests_eq (h : e.Agrees e') : e'.transport.requests = e.transport.requests := by
  rw [Transport.requests, Transport.requests, h.issued]

/-- What may be sent is decided by the keys. -/
theorem sendRequest_congr (hkeys : e'.keys = e.keys) (target : Target) (plaintext : String) :
    e'.sendRequest target plaintext = e.sendRequest target plaintext := by
  simp only [sendRequest, localId, groupConversation, hkeys]

theorem Spares.refl (e : Endpoint) : e.Spares e :=
  ⟨rfl, rfl, rfl⟩

theorem Spares.trans (h : e.Spares e') (h' : e'.Spares e'') : e.Spares e'' :=
  ⟨h'.keys.trans h.keys, h'.joins.trans h.joins, h'.transport.trans h.transport⟩

theorem Spares.localId (h : e.Spares e') : e'.localId = e.localId :=
  congrArg (·.identity.id) h.keys

theorem Spares.standingJoin?_eq (h : e.Spares e') (id : String) :
    e'.standingJoin? id = e.standingJoin? id := by
  rw [standingJoin?, standingJoin?, h.joins, h.transport]

/-- What is asked of one endpoint may be asked of the other. -/
theorem Asks.of_spares {r : Request} {keys : KeyRing} {joins : List (String × Nat)}
    (hs : e.Spares e') (h : e'.Asks r keys joins) : e.Asks r keys joins := by
  cases h with
  | learn h =>
    rw [hs.joins]
    exact .learn (hs.keys ▸ h)
  | @join target id h hnone =>
    rw [hs.keys, hs.joins, hs.transport]
    exact .join ((knownConversation_congr hs.keys target).symm.trans h)
      ((hs.standingJoin?_eq id).symm.trans hnone)
  | @send target plaintext _ h =>
    rw [hs.keys, hs.joins]
    exact .send ((sendRequest_congr hs.keys target plaintext).symm.trans h)

/-- Nothing is asked for. -/
theorem Spares.asks (h : e.Spares e') : e.AsksOnce e' :=
  Or.inl ⟨congrArg _ h.transport, h.joins, e.localId, h.keys⟩

theorem AsksOnce.of_spares (hs : e.Spares e') (h : e'.AsksOnce e'') : e.AsksOnce e'' := by
  rcases h with ⟨hsame, hjoins, id, hkeys⟩ | ⟨r, hasks, hmade⟩
  · exact Or.inl ⟨hsame.trans (congrArg _ hs.transport), hjoins.trans hs.joins, id,
      hs.keys ▸ hkeys⟩
  · exact Or.inr ⟨r, hasks.of_spares hs, hmade.trans (by rw [hs.transport])⟩

end Endpoint

namespace Happening

variable {e e' e'' : Endpoint} {x : Happening}

/-! ### Operations on an endpoint -/

theorem does_of_agrees (x : Happening) (h : e.Agrees e') : x.Does e e' where
  asks := Or.inl ⟨h.requests_eq, h.joins, e.localId, h.keys⟩
  localId := Or.inl (congrArg (·.identity.id) h.keys)
  sessions _ := h.registry ▸ .keep

theorem does_self (x : Happening) (e : Endpoint) : x.Does e e :=
  does_of_agrees x (.refl e)

/-- It does not matter which requests were collected and who subscribes. -/
theorem Does.trans_agrees (h : x.Does e e') (ha : e'.Agrees e'') : x.Does e e'' where
  asks := by
    rw [Endpoint.AsksOnce, ha.requests_eq, ha.joins, ha.keys]
    exact h.asks
  localId := by
    have hid : e''.localId = e'.localId := congrArg (·.identity.id) ha.keys
    rw [hid, ha.registry]
    exact h.localId
  sessions hx := ha.registry ▸ h.sessions hx

/-- A change of neither local id nor sessions. -/
theorem does_of_change (x : Happening) (h : e.Change e') (hid : e'.localId = e.localId)
    (hr : e'.router.registry = e.router.registry) : x.Does e e' where
  asks := h.asks
  localId := Or.inl hid
  sessions _ := hr ▸ .keep

section

variable (x : Happening) (e : Endpoint)

/-- What is learnt is told to the transport. -/
theorem does_of_learns {r : Request} {keys : KeyRing} (h : e.keys.Learns r keys) :
    x.Does e ({ e with keys }.tell r) :=
  x.does_of_change (.learn h) (Endpoint.learns_id h) rfl

theorem does_setNickname (nickname : String) : x.Does e (e.setNickname nickname).2 := by
  rw [Endpoint.setNickname]
  split
  · exact x.does_self e
  · next h => exact x.does_of_learns e (.nickname h)

theorem does_setKeyPair (pair : KeyPair) : x.Does e (e.setKeyPair pair).2 := by
  rw [Endpoint.setKeyPair]
  split
  · exact x.does_self e
  · next h => exact x.does_of_learns e (.pair h)

theorem does_addFriend (key : FriendKey) : x.Does e (e.addFriend key).2 := by
  rw [Endpoint.addFriend]
  split
  · exact x.does_self e
  · next h => exact x.does_of_learns e (.friend h)

theorem does_addGroup (key : GroupKey) : x.Does e (e.addGroup key).2 := by
  rw [Endpoint.addGroup]
  split
  · exact x.does_self e
  · next h => exact x.does_of_learns e (.group h)

theorem does_send (target : Target) (plaintext : String) :
    x.Does e (e.send target plaintext).2 := by
  rw [Endpoint.send]
  split
  · exact x.does_self e
  · next h => exact x.does_of_change (.send h) rfl rfl

theorem does_sendToSession (id plaintext : String) :
    x.Does e (e.sendToSession id plaintext).2 := by
  rw [Endpoint.sendToSession]
  split
  · exact x.does_self e
  · exact x.does_send e _ plaintext

/-- A conversation that is opened has its session, and then its join. -/
theorem does_openConversation (target : Target) :
    x.Does e (e.openConversation target).2 := by
  cases hknown : e.knownConversation target with
  | error f =>
    rw [Endpoint.openConversation_of_unknown hknown]
    exact x.does_self e
  | ok id =>
    have hsessions := Endpoint.PlainSessions.enter hknown
    rw [Endpoint.openConversation_of_known hknown, Endpoint.openSession]
    generalize hensure : e.ensureSession id (Session.defaultName id target) target = result
    have hregistry : result.2.router.registry =
        (e.router.registry.ensure id (Session.defaultName id target) target).2 := by
      rw [← hensure]
      rfl
    have hspares : e.Spares result.2 := by
      rw [← hensure]
      exact ⟨rfl, rfl, rfl⟩
    obtain ⟨_ | s, e₁⟩ := result
    · exact
        { asks := hspares.asks
          localId := Or.inl hspares.localId
          sessions := fun _ => hregistry ▸ hsessions }
    · have hknown₁ : e₁.knownConversation target = .ok id :=
        (Endpoint.knownConversation_congr hspares.keys target).trans hknown
      have hid : (e₁.joinOnce id target.join).2.localId = e₁.localId :=
        congrArg (·.identity.id) (Endpoint.joinOnce_keys _ _)
      exact
        { asks := Endpoint.AsksOnce.of_spares hspares (Endpoint.Change.join hknown₁).asks
          localId := Or.inl (hid.trans hspares.localId)
          sessions := fun _ => by
            simp only [Endpoint.joinOnce_router]
            exact hregistry ▸ hsessions }

/-- The local id is set, or nothing happens. -/
theorem does_setLocalId (name : String) :
    (done (.setLocalId name) (Answer.ofExcept .identity (e.setLocalId name).1)).Does e
      (e.setLocalId name).2 := by
  rw [Endpoint.setLocalId]
  split_ifs with hjoined
  · exact does_self _ e
  · by_cases hname : Text.trim name = ""
    · rw [KeyRing.setLocalId_of_blank hname]
      exact does_self _ e
    · have hrename := @Endpoint.Change.rename e name (Bool.eq_false_iff.mpr hjoined)
      rw [KeyRing.setLocalId_of_trim hname] at hrename ⊢
      exact
        { asks := hrename.asks
          localId := Or.inr ⟨name, _, rfl, rfl⟩
          sessions := fun _ => .keep }

end

end Happening

namespace Host

variable {h h' : Host} {m : Moment} {ms : List Moment}

/-! ### Operations of a host -/

theorem onOpened_endpoint (h : Host) (result : Except Fault (Session × Nat) × Endpoint) :
    (h.onOpened result).2.endpoint = result.2 := by
  rcases result with ⟨_ | ⟨s, receipt⟩, e⟩
  · rfl
  · obtain ⟨request, sighted, hhold⟩ := (h.withEndpoint e).hold_eq receipt
    simp only [onOpened, hhold]
    rfl

theorem onSent_endpoint (h : Host) (result : Except Fault Nat × Endpoint) :
    (h.onSent result).2.endpoint = result.2 := by
  rcases result with ⟨_ | receipt, e⟩
  · rfl
  · obtain ⟨request, sighted, hhold⟩ := (h.withEndpoint e).hold_eq receipt
    simp only [onSent, hhold]
    rfl

theorem does_onAcknowledger (x : Happening) (h : Host) (request : Nat) {f : Receipt → Receipt}
    (hf : ∀ n, h.endpoint.Change
      { h.endpoint with transport := h.endpoint.transport.modify n f }) :
    x.Does h.endpoint (h.onAcknowledger request f).2.endpoint := by
  rw [onAcknowledger]
  split
  · exact x.does_self _
  · split_ifs
    · exact x.does_of_change (hf _) rfl rfl
    · exact x.does_self _

/-- An operation that does not leave the core of the endpoint alone. -/
theorem does_stepHeld (act : Operation → Host → StepResult × Host) (h : Host) {op : Operation}
    (hop : op.sparesCore = false) :
    (Happening.done op (stepHeld act h op).1).Does h.endpoint (stepHeld act h op).2.endpoint := by
  cases op with
  | ensureSession id name target =>
    exact
      { asks := (Endpoint.Change.ensure id name target).asks
        localId := Or.inl rfl
        sessions := fun hstays => by cases hstays }
  | removeSession id =>
    exact
      { asks := (Endpoint.Change.remove id).asks
        localId := Or.inl rfl
        sessions := fun _ => .remove id }
  | close =>
    have hregistry : h.router.close.registry = h.router.registry := by
      obtain ⟨_, _, _, hr⟩ := (Router.Adjusts.close (r := h.router)).eq
      rw [hr]
    exact Happening.does_of_change _ (.subscribers .close) rfl hregistry
  | setNickname nickname => exact Happening.does_setNickname _ _ nickname
  | setLocalId name => exact Happening.does_setLocalId _ name
  | setKeyPair pair => exact Happening.does_setKeyPair _ _ pair
  | addFriend key => exact Happening.does_addFriend _ _ key
  | addGroup key => exact Happening.does_addGroup _ _ key
  | startDirect peer =>
    simp only [stepHeld, onOpened_endpoint]
    exact Happening.does_openConversation _ _ (.direct peer)
  | joinGroup group =>
    simp only [stepHeld, onOpened_endpoint]
    exact Happening.does_openConversation _ _ (.group group)
  | send target plaintext =>
    simp only [stepHeld, onSent_endpoint]
    exact Happening.does_send _ _ target plaintext
  | sendToSession id plaintext =>
    simp only [stepHeld, onSent_endpoint]
    exact Happening.does_sendToSession _ _ id plaintext
  | release => exact Happening.does_self _ _
  | detach => exact Happening.does_of_change _ .detach rfl rfl
  | answer request outcome =>
    exact does_onAcknowledger _ h request fun n => .answer n outcome
  | abandon request => exact does_onAcknowledger _ h request fun n => .abandon n
  | _ => cases hop

/-- What an operation does that processes no event, or is performed by a callback. -/
theorem step_does (act : Operation → Host → StepResult × Host) {op : Operation}
    (hop : op.processes = false ∨ h.router.delivering = true) :
    (Happening.done op (step act op h).1.answer).Does h.endpoint (step act op h).2.endpoint := by
  have hcollected (a : Answer) (h' : Host)
      (hdoes : (Happening.done op a).Does h.endpoint h'.endpoint) :
      (Happening.done op a).Does h.endpoint (collect (a, h')).2.endpoint := by
    rw [(collect_endpoint a h').1]
    exact hdoes.trans_agrees h'.endpoint.agrees_collected
  rw [step]
  split_ifs
  · exact hcollected .gone h (Happening.does_self _ _)
  · refine hcollected _ _ ?_
    cases hspares : op.sparesCore with
    | false => exact does_stepHeld act h hspares
    | true =>
      have heffects : Effects op (stepHeld act h op).1 h (stepHeld act h op).2 := by
        rcases hop with hop | hd
        · exact stepHeld_effects_of_not_processes act h hop
        · exact stepHeld_effects act hd op
      exact Happening.does_of_agrees _ (heffects.spares hspares).1

/-! ### Moments -/

theorem Occurs.does (ho : Occurs h m) : m.happening.Does h.endpoint m.host.endpoint := by
  cases ho with
  | told sink _ _ => exact Happening.does_of_agrees _ (h.endpoint.agrees_withSubscribers _ _ _)
  | passed => exact Happening.does_self _ _
  | noticed id _ => exact Happening.does_of_agrees _ (h.endpoint.agrees_withSubscribers _ _ _)
  | inside id op hd => exact step_does _ (Or.inr hd)
  | outside hop => exact step_does _ (Or.inl hop)
  | @processed _ a _ _ =>
    rw [(collect_endpoint a h).1]
    exact Happening.does_of_agrees _ h.endpoint.agrees_collected

theorem Between.spares (hb : Between h h') : h.endpoint.Spares h'.endpoint := by
  cases hb with
  | take | classify | mark => exact ⟨rfl, rfl, rfl⟩

/-- Between two moments keys, joins and requests stay. -/
theorem Leads.spares (hl : Leads h [] h') : h.endpoint.Spares h'.endpoint := by
  generalize hms : ([] : List Moment) = ms at hl
  induction hl with
  | refl => exact .refl _
  | between _ hb ih => exact (ih hms).trans hb.spares
  | moment => exact absurd hms.symm (by simp)

/-- What is asked for at the next moment. -/
theorem Leads.asks_next (hl : Leads h (m :: ms) h') : h.endpoint.AsksOnce m.host.endpoint := by
  obtain ⟨h₁, hway, ho, -⟩ := hl.uncons
  exact .of_spares hway.spares ho.does.asks

/-- A request was made at a moment before which just the requests before it had been made. -/
theorem Leads.exists_asked (hl : Leads h ms h') (hnone : h.endpoint.transport.requests = [])
    {n : Nat} {r : Request} (hr : h'.endpoint.transport.request? n = some r) :
    ∃ before m later, ms = before ++ m :: later ∧
      (h.after before).endpoint.transport.requests = h'.endpoint.transport.requests.take n ∧
      m.host.endpoint.transport.requests =
        (h.after before).endpoint.transport.requests ++ [r] := by
  induction hl with
  | refl =>
    rw [Transport.request?_eq, hnone] at hr
    cases hr
  | between _ hb ih =>
    rw [hb.spares.transport] at hr ⊢
    exact ih hr
  | @moment ms h₁ m hl ho ih =>
    -- The moments so far are those of the way there, and then this one.
    have hhere := hl.since.spares.transport
    have hbefore (hold : h₁.endpoint.transport.request? n = some r)
        (htake : h₁.endpoint.transport.requests.take n = m.host.endpoint.transport.requests.take n) :
        ∃ before m' later, ms ++ [m] = before ++ m' :: later ∧
          (h.after before).endpoint.transport.requests =
            m.host.endpoint.transport.requests.take n ∧
          m'.host.endpoint.transport.requests =
            (h.after before).endpoint.transport.requests ++ [r] := by
      obtain ⟨before, m', later, rfl, hfirst, hmade⟩ := ih hold
      exact ⟨before, m', later ++ [m], by simp, hfirst.trans htake, hmade⟩
    rcases ho.does.asks with ⟨hsame, -⟩ | ⟨r', -, hmade⟩
    · rw [Transport.request?_eq, hsame, ← Transport.request?_eq] at hr
      exact hbefore hr (by rw [hsame])
    · rcases (Transport.request?_of_requests_eq hmade).mp hr with hold | ⟨rfl, rfl⟩
      · have hlt := Transport.lt_of_request? hold
        exact hbefore hold (by rw [hmade, List.take_append_of_le_length (Nat.le_of_lt hlt)])
      · -- The request is the one that is made here.
        refine ⟨ms, m, [], rfl, ?_, ?_⟩
        · rw [hmade, List.take_left' rfl, hhere]
        · rw [hmade, hhere]

end Host

end ChatRouting
