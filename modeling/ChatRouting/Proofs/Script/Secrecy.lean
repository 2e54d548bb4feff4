import ChatRouting.Proofs.Host.Redaction
import ChatRouting.Script.Replay

/-!
# Scripts keep their secrets

The secrets of a script are its keys, its nicknames and the texts that it sends. None of them comes
out when the script is replayed: what is reported and how the replay ends say no more of a secret
than whether it is empty, and of a key whether it is base64 text.

A script without its secrets has marks in their place. Every step of it does what the step itself
does, on hosts that differ in their secrets alone, and so the whole script is replayed in the same
way.

## Main definitions

* `Script.Step.Alike`: two steps that differ in their secrets alone
* `Script.Step.redact`: a step without its secrets

## Main results

* `Script.execute_redact`: one step on hosts that differ in their secrets
* `Script.replay_of_alike`: scripts that differ in their secrets are replayed in the same way
-/

namespace ChatRouting.Script

namespace Step

/-- The base64 text of a key that is not empty. -/
def IsKey (text : String) : Prop :=
  ∃ key, Base64.decode text = .ok key ∧ key ≠ []

/-- Two texts are the same, or both are the base64 text of a key that is not empty. -/
def AlikeKeys (text text' : String) : Prop :=
  text = text' ∨ IsKey text ∧ IsKey text'

/-- Two steps that differ in their secrets alone. They agree in whether a nickname is blank, and in
whether a text that is sent is empty. -/
inductive Alike : Step → Step → Prop
  | same (step : Step) : Alike step step
  | setNickname {nickname nickname' : String}
      (h : Text.trim nickname = "" ↔ Text.trim nickname' = "") :
      Alike (setNickname nickname) (setNickname nickname')
  | setKeyPair {privateKey privateKey' publicKey publicKey' : String}
      (h : AlikeKeys privateKey privateKey') (h' : AlikeKeys publicKey publicKey') :
      Alike (setKeyPair privateKey publicKey) (setKeyPair privateKey' publicKey')
  | addFriend (peer : String) {publicKey publicKey' : String} (h : AlikeKeys publicKey publicKey') :
      Alike (addFriend peer publicKey) (addFriend peer publicKey')
  | addGroup (group : String) {symmetricKey symmetricKey' : String}
      (h : AlikeKeys symmetricKey symmetricKey') :
      Alike (addGroup group symmetricKey) (addGroup group symmetricKey')
  | send (target : Target) {plaintext plaintext' : String} (h : plaintext = "" ↔ plaintext' = "") :
      Alike (send target plaintext) (send target plaintext')
  | sendToSession (id : String) {plaintext plaintext' : String}
      (h : plaintext = "" ↔ plaintext' = "") :
      Alike (sendToSession id plaintext) (sendToSession id plaintext')

/-- The text of a mark in place of the text of a key that is not empty. -/
def hiddenKey (text : String) : String :=
  match Base64.decode text with
  | .ok (_ :: _) => "AA=="
  | _ => text

/-- A step without its secrets. -/
def redact : Step → Step
  | setNickname nickname => setNickname (Text.hidden (Text.trim nickname))
  | setKeyPair privateKey publicKey => setKeyPair (hiddenKey privateKey) (hiddenKey publicKey)
  | addFriend peer publicKey => addFriend peer (hiddenKey publicKey)
  | addGroup group symmetricKey => addGroup group (hiddenKey symmetricKey)
  | send target plaintext => send target (Text.hidden plaintext)
  | sendToSession id plaintext => sendToSession id (Text.hidden plaintext)
  | step => step

theorem verb_redact (step : Step) : step.redact.verb = step.verb := by
  cases step <;> rfl

/-! ### Steps that differ in their secrets alone -/

theorem hiddenKey_of_isKey {text : String} (h : IsKey text) : hiddenKey text = "AA==" := by
  obtain ⟨key, hdecode, hkey⟩ := h
  obtain ⟨byte, rest, rfl⟩ := List.exists_cons_of_ne_nil hkey
  rw [hiddenKey, hdecode]

theorem AlikeKeys.hiddenKey {text text' : String} (h : AlikeKeys text text') :
    hiddenKey text = hiddenKey text' := by
  rcases h with rfl | ⟨h, h'⟩
  · rfl
  · rw [hiddenKey_of_isKey h, hiddenKey_of_isKey h']

theorem Alike.redact_eq {step step' : Step} (h : Alike step step') :
    step.redact = step'.redact := by
  cases h with
  | same => rfl
  | setNickname h => exact congrArg Step.setNickname (Text.hidden_congr h)
  | setKeyPair h h' => exact congrArg₂ Step.setKeyPair h.hiddenKey h'.hiddenKey
  | addFriend peer h => exact congrArg (Step.addFriend peer) h.hiddenKey
  | addGroup group h => exact congrArg (Step.addGroup group) h.hiddenKey
  | send target h => exact congrArg (Step.send target) (Text.hidden_congr h)
  | sendToSession id h => exact congrArg (Step.sendToSession id) (Text.hidden_congr h)

/-- The mark in place of a text is the text of the mark in place of the key. -/
theorem decode_hiddenKey (text : String) :
    Base64.decode (hiddenKey text) = (Base64.decode text).map Bytes.hidden := by
  have hmark : Base64.decode "AA==" = .ok [0] := by decide +kernel
  rw [hiddenKey]
  rcases hdecode : Base64.decode text with f | _ | ⟨byte, rest⟩
  · exact hdecode
  · exact hdecode
  · exact hmark

end Step

/-! ### One step -/

/-- What a step comes to, on the host without its secrets. -/
def StepRun.redact (run : StepRun) : StepRun :=
  { run with host := run.host.redact }

variable (h : Host)

theorem requestEvent_redact (r : Nat × Request) :
    requestEvent h.redact (r.1, r.2.redact) = requestEvent h r := by
  have hreceipt : h.redact.endpoint.transport.receipt? = h.endpoint.transport.receipt? :=
    funext h.endpoint.transport.receipt?_redact
  have hknown : h.redact.receiptOf? r.1 = h.receiptOf? r.1 := rfl
  simp only [requestEvent, hknown, hreceipt, Request.name_redact, Request.subject?_redact]

theorem settle_redact (handle : Nat) : settle h.redact handle = settle h handle := by
  have hreceipt : h.redact.endpoint.transport.receipt? = h.endpoint.transport.receipt? :=
    funext h.endpoint.transport.receipt?_redact
  have hhandles : h.redact.handles = h.handles := rfl
  rw [settle, settle, hhandles, hreceipt]

theorem operate_redact (op : Operation) :
    operate h.redact op.redact = (operate h op).redact := by
  have hrequests (h : Host) (requests : List (Nat × Request)) :
      (requests.map fun p => (p.1, p.2.redact)).map (requestEvent h.redact) =
        requests.map (requestEvent h) := by
    rw [List.map_map]
    exact List.map_congr_left fun r _ => requestEvent_redact h r
  rw [operate.eq_def, operate.eq_def, Host.blind_perform]
  generalize h.perform op = result
  obtain ⟨⟨a, requests⟩, h⟩ := result
  cases a with
  | opened s handle request =>
    simp only [StepResult.redact, Answer.redact, hrequests, settle_redact]
    rfl
  | sent handle request =>
    simp only [StepResult.redact, Answer.redact, hrequests, settle_redact]
    rfl
  | _ =>
    simp only [StepResult.redact, Answer.redact, hrequests]
    rfl

theorem takeIn_redact (op : Operation) : takeIn h.redact op.redact = (takeIn h op).redact := by
  rw [takeIn, takeIn, Host.blind_perform]
  exact operate_redact _ .processPending

theorem remove_redact (id : String) : remove h.redact id = (remove h id).redact := by
  have hremove : h.redact.perform (.removeSession id) = _ :=
    Host.blind_perform (.removeSession id) h
  rw [remove.eq_def, remove.eq_def, hremove]
  generalize h.perform (.removeSession id) = result
  obtain ⟨⟨a, requests⟩, h⟩ := result
  cases a with
  | truth b => cases b <;> rfl
  | _ => rfl

theorem mark_redact (id : String) (unreachable : Bool) :
    mark h.redact id unreachable = (mark h id unreachable).redact := by
  have hreach := h.endpoint.transport.setReachable_redact id (!unreachable)
  exact congrArg (fun transport => h.redact.withEndpoint { h.redact.endpoint with transport }) hreach

theorem withKeys_redact (keys : Except Base64.Fault Operation) :
    withKeys h.redact (keys.map Operation.redact) = (withKeys h keys).redact := by
  cases keys with
  | error f => rfl
  | ok op => exact operate_redact h op

/-- A step without its secrets does what the step does. -/
theorem execute_redact (step : Step) :
    execute h.redact step.redact = (execute h step).redact := by
  cases step with
  | setNickname nickname => exact operate_redact h (.setNickname nickname)
  | setLocalId id => exact operate_redact h (.setLocalId id)
  | setKeyPair privateKey publicKey =>
    rw [Step.redact, execute, execute, ← withKeys_redact, Step.decode_hiddenKey,
      Step.decode_hiddenKey]
    cases Base64.decode privateKey with
    | error f => rfl
    | ok privateKey =>
      cases Base64.decode publicKey with
      | error f => rfl
      | ok publicKey => rfl
  | addFriend peer publicKey =>
    rw [Step.redact, execute, execute, ← withKeys_redact, Step.decode_hiddenKey]
    cases Base64.decode publicKey with
    | error f => rfl
    | ok publicKey => rfl
  | addGroup group symmetricKey =>
    rw [Step.redact, execute, execute, ← withKeys_redact, Step.decode_hiddenKey]
    cases Base64.decode symmetricKey with
    | error f => rfl
    | ok symmetricKey => rfl
  | startDirect peer => exact operate_redact h (.startDirect peer)
  | joinGroup group => exact operate_redact h (.joinGroup group)
  | send target plaintext => exact operate_redact h (.send target plaintext)
  | sendToSession id plaintext => exact operate_redact h (.sendToSession id plaintext)
  | deliver m => exact takeIn_redact h (.queueMessage m)
  | transportError reason timestamp => exact takeIn_redact h (.queueError reason timestamp)
  | removeSession id => exact remove_redact h id
  | sessions => rfl
  | unreachable id unreachable =>
    exact congrArg (fun host => ({ host } : StepRun)) (mark_redact h id unreachable)

theorem told_redact : told h.redact = ((told h).1, (told h).2.redact) := by
  have hreceive : h.redact.perform (.receive subscription) = _ :=
    Host.blind_perform (.receive subscription) h
  rw [told.eq_def, told.eq_def, hreceive]
  generalize h.perform (.receive subscription) = result
  obtain ⟨⟨a, requests⟩, h⟩ := result
  cases a <;> rfl

/-! ### A whole script -/

/-- A script without its secrets. -/
def redact (steps : List (Nat × Step)) : List (Nat × Step) :=
  steps.map fun p => (p.1, p.2.redact)

/-- Without its secrets a script is replayed in the same way, from a host without its secrets. -/
theorem replayFrom_redact (failFast : Bool) (steps : List (Nat × Step)) :
    replayFrom failFast h.redact (redact steps) =
      ((replayFrom failFast h steps).1,
        (replayFrom failFast h steps).2.map fun last => (last.1, last.2.redact)) := by
  induction steps generalizing h with
  | nil => rfl
  | cons numbered rest ih =>
    obtain ⟨line, step⟩ := numbered
    have hrest : redact ((line, step) :: rest) = (line, step.redact) :: redact rest := rfl
    rw [hrest, replayFrom.eq_def, replayFrom.eq_def failFast h]
    simp only [execute_redact, StepRun.redact, told_redact, ih, Step.verb_redact]
    generalize replayFrom failFast (told (execute h step).host).2 rest = later
    obtain ⟨events, later⟩ := later
    cases (execute h step).ending with
    | ok _ => rfl
    | error f =>
      simp only
      split_ifs
      · rfl
      · cases later with
        | error f => rfl
        | ok last => rfl

/-- Steps that differ in their secrets alone are the same without them. -/
theorem redact_of_alike {steps steps' : List (Nat × Step)}
    (hsteps : List.Forall₂ (fun a b => a.1 = b.1 ∧ a.2.Alike b.2) steps steps') :
    redact steps = redact steps' := by
  induction hsteps with
  | nil => rfl
  | cons hstep _ ih => exact congrArg₂ List.cons (Prod.ext hstep.1 hstep.2.redact_eq) ih

/-- A replay writes and comes to what can be told without the secrets. -/
theorem replay_eq (failFast : Bool) (options : Options) (freshId : String)
    (steps : List (Nat × Step)) :
    replay failFast options freshId steps =
      match start options freshId with
      | .error f => ([], .error (.refused f))
      | .ok h =>
        let run := replayFrom failFast h.redact (redact steps)
        (run.1, run.2.map fun last =>
          { steps := steps.length, failed := last.1, sessions := last.2.endpoint.sessions }) := by
  rw [replay.eq_def]
  cases start options freshId with
  | error f => rfl
  | ok h =>
    simp only [replayFrom_redact]
    cases (replayFrom failFast h steps).2 with
    | error f => rfl
    | ok last => rfl

/-- **Secrets do not come out.** If two scripts have the same lines and their steps differ in their
secrets alone, then with the same options both replays write the same lines for every reader, and
both end with the same summary or with the same failure. -/
theorem replay_of_alike {steps steps' : List (Nat × Step)}
    (hsteps : List.Forall₂ (fun a b => a.1 = b.1 ∧ a.2.Alike b.2) steps steps') (failFast : Bool)
    (options : Options) (freshId : String) :
    let replayed := replay failFast options freshId steps
    let replayed' := replay failFast options freshId steps'
    (∀ mode : Report.Mode,
      replayed.1.map (Report.event mode) = replayed'.1.map (Report.event mode)) ∧
      replayed.2 = replayed'.2 := by
  have hsame : replay failFast options freshId steps = replay failFast options freshId steps' := by
    rw [replay_eq, replay_eq, redact_of_alike hsteps, hsteps.length_eq]
  simp only [hsame, implies_true, and_self]

/-- Another nickname, other keys and another text change nothing that is written. -/
theorem replay_of_alike_sent :
    let script (nickname key text : String) : List (Nat × Step) :=
      [(1, .setNickname nickname), (2, .setKeyPair key key), (3, .addGroup "g" key),
        (5, .joinGroup "g"), (8, .send (.group "g") text)]
    let replayed := replay true {} "alice" (script "Al" "c2s=" "hello")
    let replayed' := replay true {} "alice" (script "Alice" "AQID" "good morning")
    (∀ mode : Report.Mode,
      replayed.1.map (Report.event mode) = replayed'.1.map (Report.event mode)) ∧
      replayed.2 = replayed'.2 ∧ replayed.2.map Summary.failed = .ok 0 ∧
      replayed'.1.map (Report.event .text) =
        ["-> identitySet", "-> keyPairSet", "-> groupKeyAdded g", "-> groupJoinRequested g",
          "opened Group g [g]", "-> groupSendRequested g"] := by
  intro script
  have hkeys : Step.AlikeKeys "c2s=" "AQID" :=
    .inr ⟨⟨[115, 107], by decide +kernel, by decide⟩, ⟨[1, 2, 3], by decide +kernel, by decide⟩⟩
  have hsteps : List.Forall₂ (fun a b => a.1 = b.1 ∧ a.2.Alike b.2)
      (script "Al" "c2s=" "hello") (script "Alice" "AQID" "good morning") :=
    .cons ⟨rfl, .setNickname (by decide +kernel)⟩ <| .cons ⟨rfl, .setKeyPair hkeys hkeys⟩ <|
      .cons ⟨rfl, .addGroup "g" hkeys⟩ <| .cons ⟨rfl, .same (.joinGroup "g")⟩ <|
      .cons ⟨rfl, .send (.group "g") (by decide)⟩ .nil
  have hsame := replay_of_alike hsteps true {} "alice"
  exact ⟨hsame.1, hsame.2, by decide +kernel, (hsame.1 .text).symm.trans (by decide +kernel)⟩

end ChatRouting.Script
