import ChatRouting.Proofs.Script.Reading
import ChatRouting.Script.Replay
import Mathlib.Data.List.Basic
import Mathlib.Tactic.SplitIfs

/-!
# Replays that stop at a failure

A replay either goes on after a step that fails, and reports the failure, or stops there. Both do
the same up to the first failure. So a replay that stops has written what the other one writes
before its first report of a failure, with all that the failing step itself has brought about.

The replay that goes on executes all steps. Its *executions* are these steps one after the other,
each on the host that the one before has left, and what it writes are the reports of its executions.

## Main definitions

* `Script.Execution`, `Script.executions`
* `Report.Event.failedLine?`: the line whose failure is reported

## Main results

* `Script.replayFrom_eq`: what the replay that goes on comes to
* `Script.replayFrom_of_ok`, `Script.replayFrom_of_failed`: the replay that stops
* `Script.replay_stops_at_first_failure`
-/

namespace ChatRouting

/-- The line whose failure is reported. -/
def Report.Event.failedLine? : Report.Event → Option Nat
  | stepError line _ _ => some line
  | _ => none

namespace Script

open Report (Event)

/-- A step that was executed: how it ended, what was reported in the course of it and of telling
the subscribers, and the host after it. -/
structure Execution where
  line : Nat
  step : Step
  ending : Except Failure Unit
  events : List Event
  host : Host

namespace Execution

/-- A step is executed on a host. -/
def of (h : Host) (numbered : Nat × Step) : Execution :=
  let run := execute h numbered.2
  let (news, h) := told run.host
  { line := numbered.1, step := numbered.2, ending := run.ending, events := run.events ++ news
    host := h }

/-- The step has failed. -/
def hasFailed (x : Execution) : Bool :=
  match x.ending with
  | .ok () => false
  | .error _ => true

/-- All that is reported of a step if the replay goes on. -/
def reports (x : Execution) : List Event :=
  x.events ++
    match x.ending with
    | .ok () => []
    | .error f => [.stepError x.line x.step.verb f.message]

end Execution

namespace Execution

theorem hasFailed_of_ok {x : Execution} (h : x.ending = .ok ()) : x.hasFailed = false := by
  rw [hasFailed, h]

theorem hasFailed_of_error {x : Execution} {f : Failure} (h : x.ending = .error f) :
    x.hasFailed = true := by
  rw [hasFailed, h]

theorem reports_of_ok {x : Execution} (h : x.ending = .ok ()) : x.reports = x.events := by
  rw [reports, h]
  exact List.append_nil x.events

theorem reports_of_error {x : Execution} {f : Failure} (h : x.ending = .error f) :
    x.reports = x.events ++ [.stepError x.line x.step.verb f.message] := by
  rw [reports, h]

/-- Either no step fails or there is a first one that does. -/
theorem exists_first_failure (xs : List Execution) :
    (∀ x ∈ xs, x.ending = .ok ()) ∨ ∃ earlier x later cause,
      xs = earlier ++ x :: later ∧ (∀ y ∈ earlier, y.ending = .ok ()) ∧
        x.ending = .error cause := by
  induction xs with
  | nil => exact Or.inl fun _ hx => absurd hx List.not_mem_nil
  | cons x xs ih =>
    rcases hx : x.ending with cause | _
    · exact Or.inr ⟨[], x, xs, cause, rfl, fun _ hy => absurd hy List.not_mem_nil, hx⟩
    · rcases ih with hok | ⟨earlier, y, later, cause, rfl, hok, hcause⟩
      · exact Or.inl (List.forall_mem_cons.mpr ⟨hx, hok⟩)
      · exact Or.inr
          ⟨x :: earlier, y, later, cause, rfl, List.forall_mem_cons.mpr ⟨hx, hok⟩, hcause⟩

end Execution

/-- Steps are executed one after the other. -/
def executions (h : Host) : List (Nat × Step) → List Execution
  | [] => []
  | numbered :: rest =>
    let x := Execution.of h numbered
    x :: executions x.host rest

/-- The host after the last of some executions, or as it was if there are none. -/
def hostAfter (h : Host) (xs : List Execution) : Host :=
  (xs.getLast?.map Execution.host).getD h

theorem hostAfter_cons (h : Host) (x : Execution) (xs : List Execution) :
    hostAfter h (x :: xs) = hostAfter x.host xs := by
  rw [hostAfter, hostAfter, List.getLast?_cons]
  cases xs.getLast? with
  | none => rfl
  | some last => rfl

/-- Every step is executed. -/
theorem map_executions (h : Host) (steps : List (Nat × Step)) :
    (executions h steps).map (fun x => (x.line, x.step)) = steps := by
  induction steps generalizing h with
  | nil => rfl
  | cons numbered rest ih => exact congrArg (numbered :: ·) (ih _)

/-! ### One step at a time -/

variable {h : Host} {numbered : Nat × Step} {rest : List (Nat × Step)}

theorem replayFrom_cons_of_ok (failFast : Bool) (hok : (Execution.of h numbered).ending = .ok ()) :
    replayFrom failFast h (numbered :: rest) =
      ((Execution.of h numbered).reports
          ++ (replayFrom failFast (Execution.of h numbered).host rest).1,
        (replayFrom failFast (Execution.of h numbered).host rest).2) := by
  have hending : (execute h numbered.2).ending = .ok () := hok
  rw [replayFrom.eq_def, Execution.reports_of_ok hok]
  simp only [hending]
  rfl

theorem replayFrom_cons_of_failed {f : Failure}
    (hfailed : (Execution.of h numbered).ending = .error f) :
    replayFrom false h (numbered :: rest) =
      ((Execution.of h numbered).reports
          ++ (replayFrom false (Execution.of h numbered).host rest).1,
        (replayFrom false (Execution.of h numbered).host rest).2.map fun last =>
          (last.1 + 1, last.2)) := by
  have hending : (execute h numbered.2).ending = .error f := hfailed
  rw [replayFrom.eq_def, Execution.reports_of_error hfailed, List.append_assoc]
  simp only [hending, Bool.false_eq_true, if_false]
  rfl

theorem replayFrom_cons_of_stopped {f : Failure}
    (hfailed : (Execution.of h numbered).ending = .error f) :
    replayFrom true h (numbered :: rest) =
      ((Execution.of h numbered).events, .error (.step numbered.2.verb numbered.1 f)) := by
  have hending : (execute h numbered.2).ending = .error f := hfailed
  rw [replayFrom.eq_def]
  simp only [hending, if_true]
  rfl

/-! ### Whole replays -/

/-- The replay that goes on writes the reports of all steps and counts those that failed. -/
theorem replayFrom_eq (h : Host) (steps : List (Nat × Step)) :
    replayFrom false h steps =
      ((executions h steps).flatMap Execution.reports,
        .ok ((executions h steps).countP Execution.hasFailed,
          hostAfter h (executions h steps))) := by
  induction steps generalizing h with
  | nil => rfl
  | cons numbered rest ih =>
    rw [executions, List.flatMap_cons, hostAfter_cons]
    rcases hending : (Execution.of h numbered).ending with f | _
    · rw [replayFrom_cons_of_failed hending, ih,
        List.countP_cons_of_pos (Execution.hasFailed_of_error hending)]
      rfl
    · rw [replayFrom_cons_of_ok false hending, ih,
        List.countP_cons_of_neg (Bool.eq_false_iff.mp (Execution.hasFailed_of_ok hending))]

/-- Where no step fails, the replay that stops at a failure is the one that goes on. -/
theorem replayFrom_of_ok {steps : List (Nat × Step)}
    (hok : ∀ x ∈ executions h steps, x.ending = .ok ()) :
    replayFrom true h steps = replayFrom false h steps := by
  induction steps generalizing h with
  | nil => rfl
  | cons numbered rest ih =>
    rw [executions, List.forall_mem_cons] at hok
    rw [replayFrom_cons_of_ok true hok.1, replayFrom_cons_of_ok false hok.1, ih hok.2]

/-- The replay that stops at a failure has written the reports of the steps before, and what was
reported of the failing step. -/
theorem replayFrom_of_failed {steps : List (Nat × Step)} {earlier later : List Execution}
    {x : Execution} {f : Failure} (hsplit : executions h steps = earlier ++ x :: later)
    (hok : ∀ y ∈ earlier, y.ending = .ok ()) (hfailed : x.ending = .error f) :
    replayFrom true h steps =
      (earlier.flatMap Execution.reports ++ x.events, .error (.step x.step.verb x.line f)) := by
  induction steps generalizing h earlier with
  | nil => exact absurd hsplit.symm (by simp [executions])
  | cons numbered rest ih =>
    rw [executions] at hsplit
    cases earlier with
    | nil =>
      obtain ⟨rfl, -⟩ := List.cons.inj hsplit
      exact replayFrom_cons_of_stopped hfailed
    | cons y earlier =>
      obtain ⟨rfl, hrest⟩ := List.cons.inj hsplit
      rw [List.forall_mem_cons] at hok
      rw [replayFrom_cons_of_ok true hok.1, ih hrest hok.2, List.flatMap_cons, List.append_assoc]

/-- On the host that a script starts on, a replay is the replay from there. -/
theorem replay_of_start {options : Options} {freshId : String}
    (hstart : start options freshId = .ok h) (failFast : Bool) (steps : List (Nat × Step)) :
    replay failFast options freshId steps =
      ((replayFrom failFast h steps).1, (replayFrom failFast h steps).2.map fun last =>
        { steps := steps.length, failed := last.1, sessions := last.2.endpoint.sessions }) := by
  rw [replay, hstart]

/-! ### The reports of failures -/

theorem failedLine?_operate (h : Host) (op : Operation) :
    ∀ e ∈ (operate h op).events, e.failedLine? = none := by
  rw [operate.eq_def]
  generalize h.perform op = result
  obtain ⟨⟨a, requests⟩, h⟩ := result
  have hrequests : ∀ e ∈ requests.map (requestEvent h), e.failedLine? = none := by
    intro e he
    obtain ⟨r, -, rfl⟩ := List.mem_map.mp he
    rfl
  cases a with
  | opened s handle request =>
    exact List.forall_mem_append.mpr ⟨hrequests, List.forall_mem_singleton.mpr rfl⟩
  | _ => exact hrequests

/-- In the course of a step no failure of a step is reported. -/
theorem failedLine?_execute (h : Host) (step : Step) :
    ∀ e ∈ (execute h step).events, e.failedLine? = none := by
  have hnone : ∀ e ∈ ([] : List Event), e.failedLine? = none := fun _ he => by cases he
  have hkeys (keys : Except Base64.Fault Operation) :
      ∀ e ∈ (withKeys h keys).events, e.failedLine? = none := by
    cases keys with
    | error f => exact hnone
    | ok op => exact failedLine?_operate h op
  cases step with
  | setKeyPair | addFriend | addGroup => exact hkeys _
  | deliver | transportError => exact failedLine?_operate _ .processPending
  | removeSession id =>
    rw [execute, remove.eq_def]
    generalize h.perform (.removeSession id) = result
    obtain ⟨⟨a, requests⟩, h⟩ := result
    cases a with
    | truth b => cases b <;> exact hnone
    | _ => exact hnone
  | sessions => exact List.forall_mem_singleton.mpr rfl
  | unreachable => exact hnone
  | _ => exact failedLine?_operate h _

/-- What subscribers are told is no failure of a step. -/
theorem failedLine?_told (h : Host) : ∀ e ∈ (told h).1, e.failedLine? = none := by
  rw [told.eq_def]
  generalize h.perform (.receive subscription) = result
  obtain ⟨⟨a, requests⟩, h⟩ := result
  intro e he
  cases a with
  | received ns =>
    obtain ⟨n, -, rfl⟩ := List.mem_map.mp he
    cases n <;> rfl
  | _ => exact absurd he List.not_mem_nil

theorem filterMap_failedLine?_events {steps : List (Nat × Step)} {x : Execution}
    (hx : x ∈ executions h steps) : x.events.filterMap Event.failedLine? = [] := by
  induction steps generalizing h with
  | nil => cases hx
  | cons numbered rest ih =>
    rcases List.mem_cons.mp hx with rfl | hx
    · refine List.filterMap_eq_nil_iff.mpr fun e he => ?_
      rcases List.mem_append.mp he with he | he
      · exact failedLine?_execute h numbered.2 e he
      · exact failedLine?_told _ e he
    · exact ih hx

/-- The failures that are reported are those of the steps that failed. -/
theorem filterMap_failedLine?_reports {xs : List Execution}
    (hxs : ∀ x ∈ xs, x.events.filterMap Event.failedLine? = []) :
    (xs.flatMap Execution.reports).filterMap Event.failedLine? =
      (xs.filter Execution.hasFailed).map Execution.line := by
  induction xs with
  | nil => rfl
  | cons x xs ih =>
    rw [List.forall_mem_cons] at hxs
    rw [List.flatMap_cons, List.filterMap_append, ih hxs.2]
    rcases hending : x.ending with f | _
    · rw [Execution.reports_of_error hending, List.filterMap_append, hxs.1,
        List.filter_cons_of_pos (Execution.hasFailed_of_error hending)]
      rfl
    · rw [Execution.reports_of_ok hending, hxs.1,
        List.filter_cons_of_neg (Bool.eq_false_iff.mp (Execution.hasFailed_of_ok hending))]
      rfl

/-- Where no step fails, no failure is reported. -/
theorem filterMap_failedLine?_of_ok {xs : List Execution}
    (hxs : ∀ x ∈ xs, x.events.filterMap Event.failedLine? = [])
    (hok : ∀ x ∈ xs, x.ending = .ok ()) :
    (xs.flatMap Execution.reports).filterMap Event.failedLine? = [] := by
  rw [filterMap_failedLine?_reports hxs, List.map_eq_nil_iff, List.filter_eq_nil_iff]
  exact fun x hx => Bool.eq_false_iff.mp (Execution.hasFailed_of_ok (hok x hx))

/-! ### The numbers of lines -/

/-- The steps that are executed have the numbers of their lines. -/
theorem pairwise_line_executions (h : Host) {steps : List (Nat × Step)}
    (hsteps : (steps.map Prod.fst).Pairwise (· < ·)) :
    ((executions h steps).map Execution.line).Pairwise (· < ·) := by
  rwa [← map_executions h steps, List.map_map] at hsteps

/-! ### Main result -/

/-- **A replay that stops at a failure writes a prefix.** Of a script that can be read, the replay
that goes on executes every step. The lines whose failures it reports increase, and its summary
counts them and the steps. If no step fails, the replay that stops at a failure is the same.
Otherwise it has written, for every reader, what the other one writes before its first report of a
failure, and it fails with the operation, the line and the cause of the step that is reported
there. -/
theorem replay_stops_at_first_failure {file : Bytes} {steps : List (Nat × Step)}
    (hparse : parse file = .ok steps) {options : Options} {freshId : String} {h : Host}
    (hstart : start options freshId = .ok h) :
    let xs := executions h steps
    let full := replay false options freshId steps
    let stopped := replay true options freshId steps
    xs.map (fun x => (x.line, x.step)) = steps ∧
    full = (xs.flatMap Execution.reports, .ok {
      steps := steps.length
      failed := (full.1.filterMap Event.failedLine?).length
      sessions := (hostAfter h xs).endpoint.sessions }) ∧
    (full.1.filterMap Event.failedLine?).Pairwise (· < ·) ∧
    ((∀ x ∈ xs, x.ending = .ok ()) ∧ stopped = full ∨
      ∃ earlier x later cause,
        xs = earlier ++ x :: later ∧ (∀ y ∈ earlier, y.ending = .ok ()) ∧
        x.ending = .error cause ∧
        stopped.1 = earlier.flatMap Execution.reports ++ x.events ∧
        stopped.1.filterMap Event.failedLine? = [] ∧
        stopped.2 = .error (.step x.step.verb x.line cause) ∧
        ∀ mode, full.1.map (Report.event mode) =
          stopped.1.map (Report.event mode)
            ++ Report.event mode (.stepError x.line x.step.verb cause.message)
              :: (later.flatMap Execution.reports).map (Report.event mode)) := by
  intro xs full stopped
  have hfull : full = (xs.flatMap Execution.reports, .ok {
      steps := steps.length
      failed := xs.countP Execution.hasFailed
      sessions := (hostAfter h xs).endpoint.sessions }) := by
    rw [show full = _ from replay_of_start hstart false steps, replayFrom_eq]
    rfl
  have hstopped : stopped = _ := replay_of_start hstart true steps
  have hevents : ∀ x ∈ xs, x.events.filterMap Event.failedLine? = [] :=
    fun x => filterMap_failedLine?_events
  have hlines : full.1.filterMap Event.failedLine? =
      (xs.filter Execution.hasFailed).map Execution.line := by
    rw [hfull]
    exact filterMap_failedLine?_reports hevents
  refine ⟨map_executions h steps, ?_, ?_, ?_⟩
  · rw [hlines, List.length_map, ← List.countP_eq_length_filter]
    exact hfull
  · rw [hlines]
    exact (pairwise_line_executions h (parseLines_ordered hparse).1).sublist
      (List.filter_sublist.map _)
  · rcases Execution.exists_first_failure xs with hok | ⟨earlier, x, later, cause, hxs, hok, hcause⟩
    · refine Or.inl ⟨hok, ?_⟩
      rw [hstopped, replayFrom_of_ok hok]
      exact (replay_of_start hstart false steps).symm
    · rw [replayFrom_of_failed hxs hok hcause] at hstopped
      rw [hxs, List.forall_mem_append, List.forall_mem_cons] at hevents
      refine Or.inr ⟨earlier, x, later, cause, hxs, hok, hcause, by rw [hstopped], ?_,
        by rw [hstopped]; rfl, fun mode => ?_⟩
      · rw [hstopped, List.filterMap_append, filterMap_failedLine?_of_ok hevents.1 hok,
          hevents.2.1]
        rfl
      · rw [hfull, hstopped, hxs, List.flatMap_append, List.flatMap_cons,
          Execution.reports_of_error hcause]
        simp only [List.map_append, List.append_assoc, List.map_cons, List.singleton_append]

/-- The first step that fails has made a request and opened a session before. -/
theorem replay_stops_at_first_failure_joining :
    let file := Bytes.ofText ("\n".intercalate [
      "\x7b\"op\":\"addGroup\",\"groupId\":\"g\",\"symmetricKey\":\"c2s=\"\x7d", "# nobody is there",
      "\x7b\"op\":\"unreachable\",\"id\":\"g\"\x7d", "\x7b\"op\":\"joinGroup\",\"groupId\":\"g\"\x7d",
      "\x7b\"op\":\"removeSession\",\"conversationId\":\"x\"\x7d"])
    let steps : List (Nat × Step) :=
      [(1, .addGroup "g" "c2s="), (3, .unreachable "g" true), (4, .joinGroup "g"),
        (5, .removeSession "x")]
    let full := replay false {} "alice" steps
    let stopped := replay true {} "alice" steps
    parse file = .ok steps ∧
    (∃ h, start {} "alice" = .ok h ∧
      (executions h steps).map (fun x => (x.line, x.step)) = steps) ∧
    (full.1.filterMap Event.failedLine?).Pairwise (· < ·) ∧
    full.2.map Summary.failed = .ok 2 ∧
    stopped.1.map (Report.event .text) =
      ["-> groupKeyAdded g", "-> groupJoinRequested g (failed)", "opened Group g [g]"] ∧
    full.1.map (Report.event .text) = stopped.1.map (Report.event .text)
      ++ ["line 4 joinGroup failed: Transport request loop-2 failed: Transport error: g unreachable",
        "line 5 removeSession failed: No session x"] ∧
    stopped.2.map Summary.failed =
      .error (.step "joinGroup" 4 (.request "loop-2" (.transport "g unreachable"))) := by
  intro file steps full stopped
  have hparse : parse file = .ok steps := by decide +kernel
  obtain ⟨h, hstart⟩ : ∃ h, start {} "alice" = .ok h := ⟨_, rfl⟩
  obtain ⟨hsteps, -, hlines, -⟩ := replay_stops_at_first_failure hparse hstart
  exact ⟨hparse, ⟨h, hstart, hsteps⟩, hlines, by decide +kernel, by decide +kernel,
    by decide +kernel, by decide +kernel⟩

end Script

end ChatRouting
