import ChatRouting.Failure
import ChatRouting.Host.Step
import ChatRouting.Report
import ChatRouting.Script.Step

/-!
# Replaying scripts

A script is replayed on a fresh endpoint whose transport is a loopback. Every step reports
the requests it makes, the session it opens and then what subscribers are told. A step that
fails is reported and counted, or, if asked for, ends the replay.

## Main definitions

* `Script.execute`: one step
* `Script.replay`: a whole script
* `Script.Summary`
-/

namespace ChatRouting.Script

open Report (Event)

/-- What a replay comes to. -/
structure Summary where
  steps : Nat
  failed : Nat
  sessions : List Session

/-- The summary for programs. -/
def Summary.toJson (s : Summary) : Json :=
  .record [("steps", .int s.steps), ("failed", .int s.failed),
    ("sessions", .array (s.sessions.map Session.toJson))]

/-- What a step comes to: how it ended, what it reports, and the host after it. -/
structure StepRun where
  ending : Except Failure Unit := .ok ()
  events : List Event := []
  host : Host

/-- The name under which a replay subscribes. -/
def subscription : String := "replay"

/-- The report of a request that was collected under a number. -/
def requestEvent (h : Host) (r : Nat × Request) : Event :=
  let receipt? := (h.receiptOf? r.1).bind h.endpoint.transport.receipt?
  .transportRequest (receipt?.elim "" Receipt.id) r.2.name r.2.subject?
    (!receipt?.any Receipt.hasFailed)

/-- How the request that a handle is on ended. -/
def settle (h : Host) (handle : Nat) : Except Failure Unit :=
  match h.handles[handle]?.bind h.endpoint.transport.receipt? with
  | none => .ok ()
  | some receipt =>
    match receipt.outcome? with
    | some (.error f) => .error (.request receipt.id f)
    | _ => .ok ()

/-- A step that is one operation. What it opens or sends has to end well. -/
def operate (h : Host) (op : Operation) : StepRun :=
  let (result, h) := h.perform op
  let requests := result.requests.map (requestEvent h)
  match result.answer with
  | .refused f => { ending := .error (.refused f), events := requests, host := h }
  | .opened s handle _ =>
    { ending := settle h handle, events := requests ++ [.sessionOpened s], host := h }
  | .sent handle _ => { ending := settle h handle, events := requests, host := h }
  | _ => { events := requests, host := h }

/-- An operation that takes keys from base64 text. -/
def withKeys (h : Host) (keys : Except Base64.Fault Operation) : StepRun :=
  match keys with
  | .error f => { ending := .error (.key f), host := h }
  | .ok op => operate h op

/-- An inbound event is queued and the queue is processed. -/
def takeIn (h : Host) (op : Operation) : StepRun :=
  operate (h.perform op).2 .processPending

/-- The session of an id is forgotten, and there has to be one. -/
def remove (h : Host) (id : String) : StepRun :=
  let (result, h) := h.perform (.removeSession id)
  match result.answer with
  | .refused f => { ending := .error (.refused f), host := h }
  | .truth false => { ending := .error (.noSession id), host := h }
  | _ => { host := h }

/-- The loopback reaches a peer or group, or does not. -/
def mark (h : Host) (id : String) (unreachable : Bool) : Host :=
  h.withEndpoint
    { h.endpoint with transport := h.endpoint.transport.setReachable id (!unreachable) }

/-- One step, without what subscribers are told. -/
def execute (h : Host) : Step → StepRun
  | .setNickname nickname => operate h (.setNickname nickname)
  | .setLocalId id => operate h (.setLocalId id)
  | .setKeyPair privateKey publicKey => withKeys h do
    let privateKey ← Base64.decode privateKey
    let publicKey ← Base64.decode publicKey
    return .setKeyPair { privateKey, publicKey }
  | .addFriend peer publicKey => withKeys h do
    let publicKey ← Base64.decode publicKey
    return .addFriend { peer, publicKey }
  | .addGroup group symmetricKey => withKeys h do
    let symmetricKey ← Base64.decode symmetricKey
    return .addGroup { group, symmetricKey }
  | .startDirect peer => operate h (.startDirect peer)
  | .joinGroup group => operate h (.joinGroup group)
  | .send target plaintext => operate h (.send target plaintext)
  | .sendToSession id plaintext => operate h (.sendToSession id plaintext)
  | .deliver m => takeIn h (.queueMessage m)
  | .transportError reason timestamp => takeIn h (.queueError reason timestamp)
  | .removeSession id => remove h id
  | .sessions => { events := [.sessions h.endpoint.sessions], host := h }
  | .unreachable id unreachable => { host := mark h id unreachable }

/-- The report of what subscribers are told. -/
def notificationEvent : Notification → Event
  | .sessionUpdated s m => .sessionUpdated s m
  | .errorRaised n => .errorRaised n

/-- What subscribers were told since the last time. -/
def told (h : Host) : List Event × Host :=
  let (result, h) := h.perform (.receive subscription)
  match result.answer with
  | .received ns => (ns.map notificationEvent, h)
  | _ => ([], h)

/-- The reports of numbered steps, and the number of those that failed with the host after
them, or the failure that ended the replay. -/
def replayFrom (failFast : Bool) (h : Host) :
    List (Nat × Step) → List Event × Except Failure (Nat × Host)
  | [] => ([], .ok (0, h))
  | (line, step) :: rest =>
    let run := execute h step
    let (news, h) := told run.host
    match run.ending with
    | .ok () =>
      let (events, result) := replayFrom failFast h rest
      (run.events ++ news ++ events, result)
    | .error f =>
      if failFast then (run.events ++ news, .error (.step step.verb line f))
      else
        let (events, result) := replayFrom failFast h rest
        (run.events ++ news ++ .stepError line step.verb f.message :: events,
          result.map fun (failed, h) => (failed + 1, h))

/-- The host on which a script is replayed. -/
def start (options : Options) (freshId : String) : Except Fault Host := do
  let endpoint ← Endpoint.make options freshId .loopback
  return (Host.perform (.subscribeChannel subscription) { endpoint }).2

/-- The reports of a script, and its summary or the failure that ended the replay. -/
def replay (failFast : Bool) (options : Options) (freshId : String) (steps : List (Nat × Step)) :
    List Event × Except Failure Summary :=
  match start options freshId with
  | .error f => ([], .error (.refused f))
  | .ok h =>
    let (events, result) := replayFrom failFast h steps
    (events, result.map fun (failed, h) =>
      { steps := steps.length, failed, sessions := h.endpoint.sessions })

end ChatRouting.Script
