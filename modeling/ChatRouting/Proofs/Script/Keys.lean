import ChatRouting.Proofs.Bytes.Base64
import ChatRouting.Proofs.Host.Held
import ChatRouting.Proofs.Host.Informed
import ChatRouting.Proofs.Host.Lost
import ChatRouting.Proofs.Host.Plain
import ChatRouting.Proofs.Script.Stopping

/-!
# Keys of scripts arrive unchanged

A script gives keys as base64 text. A step that gives keys succeeds just if each of its texts is the
base64 text of a byte string that is not empty. Then the key ring has these bytes and the transport
is told of them, in one request. Since a byte string has one base64 text, the bytes tell the text
again. Otherwise the step fails, the host stays as it was and no request is made.

This is so wherever a replay has got to. No operation of a script lets the endpoint go or subscribes
callbacks, the transport answers at once, and the requests of a step are collected with its answer.

## Main definitions

* `Script.Step.IsKeyed`: the steps that give keys
* `Script.Step.Tells`: the request that a step makes if its texts are those of keys
* `Script.Replaying`: hosts on which scripts are replayed
* `Script.Arrives`: what becomes of a key that is accepted

## Main results

* `Script.Replaying.hostAfter`: wherever a replay has got to
* `Script.arrivesOrFails`: one step that gives keys
* `Script.keys_arrive`
-/

namespace ChatRouting

/-- The key ring has the keys that the request tells. -/
def KeyRing.Has (k : KeyRing) : Request → Prop
  | .keyPairSet pair => k.keyPair = some pair
  | .friendKeyAdded key => k.friend? key.peer = some key
  | .groupKeyAdded key => k.group? key.group = some key
  | _ => False

namespace Script

namespace Step

/-- The step gives keys, to somebody whose id is not empty. -/
def IsKeyed : Step → Prop
  | setKeyPair _ _ => True
  | addFriend id _ | addGroup id _ => id ≠ ""
  | _ => False

/-- What the transport is told by a step that gives keys, if each of its texts is the base64 text
of a byte string that is not empty. -/
inductive Tells : Step → Request → Prop
  | setKeyPair {pair : KeyPair} (hprivate : pair.privateKey ≠ []) (hpublic : pair.publicKey ≠ []) :
      Tells (setKeyPair (Base64.encode pair.privateKey) (Base64.encode pair.publicKey))
        (.keyPairSet pair)
  | addFriend {key : FriendKey} (hkey : key.publicKey ≠ []) :
      Tells (addFriend key.peer (Base64.encode key.publicKey)) (.friendKeyAdded key)
  | addGroup {key : GroupKey} (hkey : key.symmetricKey ≠ []) :
      Tells (addGroup key.group (Base64.encode key.symmetricKey)) (.groupKeyAdded key)

variable {step step' : Step} {r : Request} {k k' : KeyRing}

/-- What is told tells the step, and so its texts. -/
theorem Tells.eq_of_request (h : step.Tells r) (h' : step'.Tells r) : step' = step := by
  cases h with
  | setKeyPair | addFriend | addGroup =>
    cases h'
    rfl

/-- The bytes of two key texts, as they are read. -/
def readPair (privateText publicText : String) : Except Base64.Fault KeyPair := do
  let privateKey ← Base64.decode privateText
  let publicKey ← Base64.decode publicText
  return { privateKey, publicKey }

theorem readPair_eq_ok_iff {privateText publicText : String} {pair : KeyPair} :
    readPair privateText publicText = .ok pair ↔
      privateText = Base64.encode pair.privateKey ∧ publicText = Base64.encode pair.publicKey := by
  constructor
  · intro h
    obtain ⟨privateKey, hprivate, h⟩ := Base64.bind_ok h
    obtain ⟨publicKey, hpublic, h⟩ := Base64.bind_ok h
    cases h
    exact ⟨Base64.decode_eq_ok_iff.mp hprivate, Base64.decode_eq_ok_iff.mp hpublic⟩
  · rintro ⟨rfl, rfl⟩
    rw [readPair, Base64.decode_eq_ok_iff.mpr rfl, Base64.decode_eq_ok_iff.mpr rfl]
    rfl

theorem tells_setKeyPair_iff {privateText publicText : String} :
    (setKeyPair privateText publicText).Tells r ↔
      ∃ pair, readPair privateText publicText = .ok pair ∧
        (pair.privateKey ≠ [] ∧ pair.publicKey ≠ []) ∧ r = .keyPairSet pair := by
  simp only [readPair_eq_ok_iff]
  constructor
  · intro h
    cases h with
    | setKeyPair hprivate hpublic => exact ⟨_, ⟨rfl, rfl⟩, ⟨hprivate, hpublic⟩, rfl⟩
  · rintro ⟨pair, ⟨rfl, rfl⟩, ⟨hprivate, hpublic⟩, rfl⟩
    exact .setKeyPair hprivate hpublic

theorem tells_addFriend_iff {peer text : String} : (addFriend peer text).Tells r ↔
    ∃ publicKey, Base64.decode text = .ok publicKey ∧ publicKey ≠ [] ∧
      r = .friendKeyAdded { peer, publicKey } := by
  simp only [Base64.decode_eq_ok_iff]
  constructor
  · intro h
    cases h with
    | addFriend hkey => exact ⟨_, rfl, hkey, rfl⟩
  · rintro ⟨publicKey, rfl, hkey, rfl⟩
    exact @Tells.addFriend { peer, publicKey } hkey

theorem tells_addGroup_iff {group text : String} : (addGroup group text).Tells r ↔
    ∃ symmetricKey, Base64.decode text = .ok symmetricKey ∧ symmetricKey ≠ [] ∧
      r = .groupKeyAdded { group, symmetricKey } := by
  simp only [Base64.decode_eq_ok_iff]
  constructor
  · intro h
    cases h with
    | addGroup hkey => exact ⟨_, rfl, hkey, rfl⟩
  · rintro ⟨symmetricKey, rfl, hkey, rfl⟩
    exact @Tells.addGroup { group, symmetricKey } hkey

/-- A step tells one thing. -/
theorem Tells.eq_of_step {r' : Request} (h : step.Tells r) (h' : step.Tells r') : r = r' := by
  cases step with
  | setKeyPair =>
    obtain ⟨pair, hread, -, rfl⟩ := tells_setKeyPair_iff.mp h
    obtain ⟨pair', hread', -, rfl⟩ := tells_setKeyPair_iff.mp h'
    rw [Except.ok.inj (hread.symm.trans hread')]
  | addFriend =>
    obtain ⟨key, hread, -, rfl⟩ := tells_addFriend_iff.mp h
    obtain ⟨key', hread', -, rfl⟩ := tells_addFriend_iff.mp h'
    rw [Except.ok.inj (hread.symm.trans hread')]
  | addGroup =>
    obtain ⟨key, hread, -, rfl⟩ := tells_addGroup_iff.mp h
    obtain ⟨key', hread', -, rfl⟩ := tells_addGroup_iff.mp h'
    rw [Except.ok.inj (hread.symm.trans hread')]
  | _ => cases h

theorem Tells.has (h : step.Tells r) (hears : k.Hears r k') : k'.Has r := by
  cases h with
  | setKeyPair => exact hears.keyPair
  | @addFriend key =>
    have hkey := hears.friend key.peer
    rwa [Request.friendKey?, if_pos rfl] at hkey
  | @addGroup key =>
    have hkey := hears.group key.group
    rwa [Request.groupKey?, if_pos rfl] at hkey

end Step

/-! ### Where a replay may have got to -/

/-- A host on which scripts are replayed. The endpoint is held, its transport answers at once, no
callback changes this, and no requests are left over. -/
structure Replaying (h : Host) : Prop where
  holding : h.Holding
  plain : h.router.CallbacksPlain
  loopback : h.endpoint.transport.IsLoopback
  collected : h.endpoint.transport.outbox = []

variable {h : Host} {op : Operation}

theorem host_operate (h : Host) (op : Operation) : (operate h op).host = (h.perform op).2 := by
  rw [operate.eq_def]
  generalize h.perform op = result
  obtain ⟨⟨a, requests⟩, h⟩ := result
  cases a <;> rfl

theorem host_remove (h : Host) (id : String) :
    (remove h id).host = (h.perform (.removeSession id)).2 := by
  rw [remove.eq_def]
  generalize h.perform (.removeSession id) = result
  obtain ⟨⟨a, requests⟩, h⟩ := result
  cases a with
  | truth b => cases b <;> rfl
  | _ => rfl

theorem host_told (h : Host) : (told h).2 = (h.perform (.receive subscription)).2 := by
  rw [told.eq_def]
  generalize h.perform (.receive subscription) = result
  obtain ⟨⟨a, requests⟩, h⟩ := result
  cases a <;> rfl

namespace Replaying

theorem perform (hr : Replaying h) (hplain : op.isPlain = true)
    (hholds : op.every Operation.holds = true) : Replaying (h.perform op).2 :=
  have hmoves := Host.perform_plain hplain hr.plain
  { holding := hr.holding.perform hholds
    plain := hmoves.callbacksPlain hr.plain
    loopback := hmoves.moves.isLoopback hr.loopback
    collected := Host.collected_step _ op h }

theorem operate (hr : Replaying h) (hplain : op.isPlain = true)
    (hholds : op.every Operation.holds = true) : Replaying (operate h op).host := by
  rw [host_operate]
  exact hr.perform hplain hholds

theorem withKeys (hr : Replaying h) {keys : Except Base64.Fault Operation}
    (hkeys : ∀ op, keys = .ok op → op.isPlain = true ∧ op.every Operation.holds = true) :
    Replaying (withKeys h keys).host := by
  cases keys with
  | error f => exact hr
  | ok op => exact hr.operate (hkeys op rfl).1 (hkeys op rfl).2

theorem mark (hr : Replaying h) (id : String) (unreachable : Bool) :
    Replaying (mark h id unreachable) where
  holding := ⟨hr.holding.held, hr.holding.callbacks⟩
  plain := hr.plain
  loopback := hr.loopback.setReachable id _
  collected := (h.endpoint.transport.outbox_setReachable id _).trans hr.collected

/-- A step leads to another host on which scripts are replayed. -/
theorem execute (hr : Replaying h) (step : Step) : Replaying (execute h step).host := by
  cases step with
  | setKeyPair privateKey publicKey =>
    refine hr.withKeys fun op hop => ?_
    obtain ⟨_, -, hop⟩ := Base64.bind_ok hop
    obtain ⟨_, -, hop⟩ := Base64.bind_ok hop
    cases hop
    exact ⟨rfl, rfl⟩
  | addFriend peer publicKey =>
    refine hr.withKeys fun op hop => ?_
    obtain ⟨_, -, hop⟩ := Base64.bind_ok hop
    cases hop
    exact ⟨rfl, rfl⟩
  | addGroup group symmetricKey =>
    refine hr.withKeys fun op hop => ?_
    obtain ⟨_, -, hop⟩ := Base64.bind_ok hop
    cases hop
    exact ⟨rfl, rfl⟩
  | deliver | transportError => exact (hr.perform rfl rfl).operate rfl rfl
  | removeSession id =>
    rw [Script.execute, host_remove]
    exact hr.perform rfl rfl
  | sessions => exact hr
  | unreachable id unreachable => exact hr.mark id unreachable
  | setNickname | setLocalId | startDirect | joinGroup | send | sendToSession =>
    exact hr.operate rfl rfl

theorem told (hr : Replaying h) : Replaying (told h).2 := by
  rw [host_told]
  exact hr.perform rfl rfl

theorem hostAfter (hr : Replaying h) (steps : List (Nat × Step)) :
    Replaying (hostAfter h (executions h steps)) := by
  induction steps generalizing h with
  | nil => exact hr
  | cons numbered rest ih =>
    rw [executions, hostAfter_cons]
    exact ih (hr.execute numbered.2).told

end Replaying

/-- A script starts on such a host. -/
theorem replaying_start {options : Options} {freshId : String}
    (hstart : start options freshId = .ok h) : Replaying h := by
  rw [start] at hstart
  rcases hmake : Endpoint.make options freshId .loopback with f | e
  · rw [hmake] at hstart
    cases hstart
  · rw [hmake] at hstart
    cases hstart
    obtain ⟨identity, rfl⟩ := Host.endpoint_make hmake
    have hfresh : Replaying (Host.fresh { identity } .loopback options.ignoreOwnEcho) :=
      ⟨⟨rfl, by simp [Host.fresh, Host.router, Router.CallbacksAll]⟩,
        by simp [Host.fresh, Host.router, Router.CallbacksPlain], ⟨[], rfl⟩, rfl⟩
    exact hfresh.perform rfl rfl

/-! ### One operation -/

/-- The step has succeeded. The key ring has heard the request and nothing else, and the transport
was asked for this one thing. -/
structure Arrives (h : Host) (r : Request) (run : StepRun) : Prop where
  ending : run.ending = .ok ()
  hears : h.endpoint.keys.Hears r run.host.endpoint.keys
  requests : run.host.endpoint.transport.requests = h.endpoint.transport.requests ++ [r]
  events : ∃ id delivered, run.events = [.transportRequest id r.name r.subject? delivered]

/-- The step has failed. Nothing is reported in the course of it and the host is as it was. -/
def Fails (h : Host) (run : StepRun) : Prop :=
  ∃ cause, run = { ending := .error cause, host := h }

variable {r : Request} {keys : KeyRing}

/-- The one request that was made is collected. -/
theorem collect_told (hr : Replaying h) (keys : KeyRing) (r : Request) (a : Answer) :
    ∃ number h', Host.collect (a, h.withEndpoint ({ h.endpoint with keys }.tell r)) =
        ({ answer := a, requests := [(number, r)] }, h') ∧
      h'.endpoint = ({ h.endpoint with keys }.tell r).collected := by
  let transport := (h.endpoint.transport.issue r).2
  have hcollect : transport.collect =
      ([((h.endpoint.transport.issue r).1, r)], { transport with outbox := [] }) := by
    have houtbox : transport.outbox = [(h.endpoint.transport.issue r).1] := by
      rw [hr.loopback.outbox_issue, hr.collected, List.nil_append]
    rw [Transport.collect, houtbox, List.filterMap_cons, Transport.request?_issue]
    rfl
  let taken := h.withEndpoint ({ h.endpoint with keys }.tell r).collected
  obtain ⟨sighted, hsight⟩ := taken.sight_eq (h.endpoint.transport.issue r).1
  refine ⟨(taken.sight (h.endpoint.transport.issue r).1).1, { taken with sighted }, ?_, rfl⟩
  have hmade : (h.withEndpoint ({ h.endpoint with keys }.tell r)).endpoint.transport = transport :=
    rfl
  simp only [Host.collect, hmade, hcollect, Host.sightAll]
  rw [← hsight]
  rfl

/-- A key that the key ring accepts arrives. -/
theorem arrives_of_learns (hr : Replaying h) (hlearns : h.endpoint.keys.Learns r keys)
    (hop : Host.stepHeld Host.inside h op =
      (.done, h.withEndpoint ({ h.endpoint with keys }.tell r))) :
    Arrives h r (operate h op) := by
  have hheld : (op.needsEndpoint && !h.held) = false := by
    rw [hr.holding.held, Bool.not_true, Bool.and_false]
  obtain ⟨number, h', hcollect, hendpoint⟩ := collect_told hr keys r .done
  have hrun : operate h op = { events := [requestEvent h' (number, r)], host := h' } := by
    rw [operate, Host.perform_of_held hheld, hop, hcollect]
    rfl
  rw [hrun]
  refine ⟨rfl, ?_, ?_, _, _, rfl⟩
  · rw [hendpoint]
    exact hlearns.hears
  · rw [hendpoint]
    exact h.endpoint.transport.requests_issue r

/-- A key that the key ring refuses changes nothing. -/
theorem fails_of_refused (hr : Replaying h) {f : Fault}
    (hop : Host.stepHeld Host.inside h op = (.refused f, h)) : Fails h (operate h op) := by
  have hheld : (op.needsEndpoint && !h.held) = false := by
    rw [hr.holding.held, Bool.not_true, Bool.and_false]
  refine ⟨.refused f, ?_⟩
  rw [operate, Host.perform_of_held hheld, hop, Host.collect_of_collected hr.collected]
  rfl

/-! ### One step -/

/-- The step succeeds with the keys that its texts give, or its texts give none and it fails. -/
def ArrivesOrFails (h : Host) (step : Step) : Prop :=
  (∃ r, step.Tells r ∧ Arrives h r (execute h step)) ∨
    (∀ r, ¬step.Tells r) ∧ Fails h (execute h step)

section

variable {step : Step} {K : Type} {read : Except Base64.Fault K} {complete : K → Prop}
  {tell : K → Request} (op : K → Operation)

/-- All steps that give keys go on in the same way: what the texts give is read, and the key ring
accepts what is complete. -/
theorem arrivesOrFails_of_read (hr : Replaying h)
    (hexecute : execute h step = withKeys h (read.map op))
    (htells : ∀ r, step.Tells r ↔ ∃ keys, read = .ok keys ∧ complete keys ∧ r = tell keys)
    (haccepted : ∀ given, complete given → ∃ keys, h.endpoint.keys.Learns (tell given) keys ∧
      Host.stepHeld Host.inside h (op given) =
        (.done, h.withEndpoint ({ h.endpoint with keys }.tell (tell given))))
    (hrefused : ∀ given, ¬complete given →
      ∃ f, Host.stepHeld Host.inside h (op given) = (.refused f, h)) :
    ArrivesOrFails h step := by
  rw [ArrivesOrFails, hexecute]
  rcases hread : read with f | given
  · -- What cannot be read gives no keys, and the endpoint is not asked.
    refine Or.inr ⟨fun r htold => ?_, .key f, rfl⟩
    obtain ⟨given, hgiven, -⟩ := (htells r).mp htold
    rw [hread] at hgiven
    cases hgiven
  · by_cases hcomplete : complete given
    · obtain ⟨keys, hlearns, hdone⟩ := haccepted given hcomplete
      exact Or.inl ⟨tell given, (htells _).mpr ⟨given, hread, hcomplete, rfl⟩,
        arrives_of_learns hr hlearns hdone⟩
    · obtain ⟨f, hf⟩ := hrefused given hcomplete
      refine Or.inr ⟨fun r htold => ?_, fails_of_refused hr hf⟩
      obtain ⟨given', hgiven', hcomplete', -⟩ := (htells r).mp htold
      rw [hread] at hgiven'
      cases hgiven'
      exact hcomplete hcomplete'

end

/-- A step that gives keys succeeds with them, or there are none and it fails. -/
theorem arrivesOrFails (hr : Replaying h) {step : Step} (hstep : step.IsKeyed) :
    ArrivesOrFails h step := by
  cases step with
  | setKeyPair privateText publicText =>
    refine arrivesOrFails_of_read .setKeyPair hr ?_
      (fun _ => Step.tells_setKeyPair_iff) (fun pair hpair => ?_) (fun pair hpair => ?_)
    · rw [execute, Step.readPair]
      rcases Base64.decode privateText with f | privateKey
      · rfl
      · rcases Base64.decode publicText with f | publicKey <;> rfl
    · have hok := @KeyRing.setKeyPair_of_complete h.endpoint.keys pair hpair.1 hpair.2
      refine ⟨_, .pair hok, ?_⟩
      simp only [Host.stepHeld, Host.onEndpoint, Endpoint.setKeyPair, hok]
      rfl
    · have hf := @KeyRing.setKeyPair_of_empty h.endpoint.keys pair (or_iff_not_and_not.mpr hpair)
      refine ⟨.empty "local keypair", ?_⟩
      simp only [Host.stepHeld, Host.onEndpoint, Endpoint.setKeyPair, hf]
      rfl
  | addFriend peer text =>
    refine arrivesOrFails_of_read (fun publicKey => .addFriend { peer, publicKey }) hr ?_
      (fun _ => Step.tells_addFriend_iff) (fun publicKey hkey => ?_) (fun publicKey hkey => ?_)
    · rw [execute]
      rcases Base64.decode text with f | publicKey <;> rfl
    · have hok := @KeyRing.addFriend_of_complete h.endpoint.keys { peer, publicKey } hstep hkey
      refine ⟨_, .friend hok, ?_⟩
      simp only [Host.stepHeld, Host.onEndpoint, Endpoint.addFriend, hok]
      rfl
    · obtain ⟨f, hf⟩ := @KeyRing.addFriend_of_empty h.endpoint.keys { peer, publicKey }
        (Or.inr (not_not.mp hkey))
      refine ⟨f, ?_⟩
      simp only [Host.stepHeld, Host.onEndpoint, Endpoint.addFriend, hf]
      rfl
  | addGroup group text =>
    refine arrivesOrFails_of_read (fun symmetricKey => .addGroup { group, symmetricKey }) hr
      ?_ (fun _ => Step.tells_addGroup_iff) (fun symmetricKey hkey => ?_)
      (fun symmetricKey hkey => ?_)
    · rw [execute]
      rcases Base64.decode text with f | symmetricKey <;> rfl
    · have hok := @KeyRing.addGroup_of_complete h.endpoint.keys { group, symmetricKey } hstep hkey
      refine ⟨_, .group hok, ?_⟩
      simp only [Host.stepHeld, Host.onEndpoint, Endpoint.addGroup, hok]
      rfl
    · obtain ⟨f, hf⟩ := @KeyRing.addGroup_of_empty h.endpoint.keys { group, symmetricKey }
        (Or.inr (not_not.mp hkey))
      refine ⟨f, ?_⟩
      simp only [Host.stepHeld, Host.onEndpoint, Endpoint.addGroup, hf]
      rfl
  | _ => exact hstep.elim

/-- A step that fails is counted, or ends the replay. -/
theorem replayFrom_of_fails {step : Step} {cause : Failure}
    (hfails : execute h step = { ending := .error cause, host := h }) (line : Nat)
    (rest : List (Nat × Step)) :
    (replayFrom false h ((line, step) :: rest)).2 =
        (replayFrom false (told h).2 rest).2.map (fun last => (last.1 + 1, last.2)) ∧
      (replayFrom true h ((line, step) :: rest)).2 = .error (.step step.verb line cause) := by
  have hending : (Execution.of h (line, step)).ending = .error cause :=
    congrArg StepRun.ending hfails
  have hhost : (Execution.of h (line, step)).host = (told h).2 :=
    congrArg (fun run : StepRun => (told run.host).2) hfails
  rw [replayFrom_cons_of_failed hending, replayFrom_cons_of_stopped hending, hhost]
  exact ⟨rfl, rfl⟩

/-! ### Main result -/

/-- **Keys arrive unchanged.** Wherever the replay of a script has got to, a step that gives keys
with ids that are not empty succeeds just if each of its texts is the base64 text of some bytes, at
least one. Then the key ring has exactly these bytes and is otherwise as it was, and the transport
is asked for one thing more, which carries them. No other step would have asked for the same, and
no two texts give the same key. Otherwise the step fails and counts as failed, no request is made
and the host stays as it was. -/
theorem keys_arrive {options : Options} {freshId : String} {h₀ : Host}
    (hstart : start options freshId = .ok h₀) (earlier : List (Nat × Step)) {step : Step}
    (hstep : step.IsKeyed) :
    let h := hostAfter h₀ (executions h₀ earlier)
    let run := execute h step
    (run.ending = .ok () ↔ ∃ r, step.Tells r) ∧
    (∀ r, step.Tells r → Arrives h r run ∧ run.host.endpoint.keys.Has r ∧
      ∀ step' : Step, step'.Tells r → step' = step) ∧
    ((∀ r, ¬step.Tells r) → ∃ cause, run = { ending := .error cause, host := h } ∧
      ∀ line rest,
        (replayFrom false h ((line, step) :: rest)).2 =
          (replayFrom false (told h).2 rest).2.map (fun last => (last.1 + 1, last.2)) ∧
        (replayFrom true h ((line, step) :: rest)).2 = .error (.step step.verb line cause)) ∧
    ∀ text text' key, Base64.decode text = .ok key → Base64.decode text' = .ok key →
      text = text' := by
  intro h run
  have hr : Replaying h := (replaying_start hstart).hostAfter earlier
  have htexts : ∀ text text' key, Base64.decode text = .ok key →
      Base64.decode text' = .ok key → text = text' := fun _ _ _ htext htext' =>
    (Base64.decode_eq_ok_iff.mp htext).trans (Base64.decode_eq_ok_iff.mp htext').symm
  rcases arrivesOrFails hr hstep with ⟨r, htold, harrives⟩ | ⟨hnone, cause, hfails⟩
  · refine ⟨⟨fun _ => ⟨r, htold⟩, fun _ => harrives.ending⟩, fun r' htold' => ?_,
      fun hnone => absurd htold (hnone r), htexts⟩
    obtain rfl := htold.eq_of_step htold'
    exact ⟨harrives, htold.has harrives.hears, fun _ => htold.eq_of_request⟩
  · refine ⟨⟨fun hok => ?_, fun ⟨r, htold⟩ => absurd htold (hnone r)⟩,
      fun r htold => absurd htold (hnone r),
      fun _ => ⟨cause, hfails, replayFrom_of_fails hfails⟩, htexts⟩
    have hending : run.ending = .error cause := congrArg StepRun.ending hfails
    rw [hending] at hok
    cases hok

/-- A friend's key is given again, and then once more as a text that has stray bits at its end. -/
theorem keys_arrive_again :
    let earlier : List (Nat × Step) := [(1, .unreachable "bob" true), (2, .addFriend "bob" "b2xk")]
    let again : Step := .addFriend "bob" "bmV3"
    let stray : Step := .addFriend "bob" "bmV="
    let key : FriendKey := { peer := "bob", publicKey := [110, 101, 119] }
    ∃ h₀ h, start {} "alice" = .ok h₀ ∧ h = hostAfter h₀ (executions h₀ earlier) ∧
      again.IsKeyed ∧ (execute h again).ending = .ok () ∧
      (execute h again).host.endpoint.keys.friend? "bob" = some key ∧
      (execute h again).host.endpoint.transport.requests =
        h.endpoint.transport.requests ++ [.friendKeyAdded key] ∧
      stray.IsKeyed ∧ ∃ cause, execute h stray = { ending := .error cause, host := h } := by
  intro earlier again stray key
  obtain ⟨h₀, hstart⟩ : ∃ h₀, start {} "alice" = .ok h₀ := ⟨_, rfl⟩
  obtain ⟨h, hh⟩ : ∃ h, h = hostAfter h₀ (executions h₀ earlier) := ⟨_, rfl⟩
  have hid : "bob" ≠ "" := by decide
  have hagain : again.IsKeyed := hid
  have hstray : stray.IsKeyed := hid
  have htold : again.Tells (.friendKeyAdded key) :=
    Step.tells_addFriend_iff.mpr ⟨[110, 101, 119], by decide +kernel, by decide, rfl⟩
  have hnone (r : Request) : ¬stray.Tells r := by
    intro htold
    obtain ⟨bytes, hread, -⟩ := Step.tells_addFriend_iff.mp htold
    have hbits : Base64.decode "bmV=" = .error (.strayBits 2 86) := by decide +kernel
    rw [hbits] at hread
    cases hread
  obtain ⟨-, harrives, -⟩ := keys_arrive hstart earlier hagain
  obtain ⟨-, -, hfails, -⟩ := keys_arrive hstart earlier hstray
  rw [← hh] at harrives hfails
  obtain ⟨hdone, hhas, -⟩ := harrives _ htold
  obtain ⟨cause, hcause, -⟩ := hfails hnone
  exact ⟨h₀, h, hstart, hh, hagain, hdone.ending, hhas, hdone.requests, hstray, cause, hcause⟩

end Script

end ChatRouting
