import ChatRouting.Proofs.Host.Bystanders
import ChatRouting.Proofs.Host.Refusal

/-!
# Isolation of subscribers

Nobody notices a bystander. A run is compared with the run without the operations about the name
under which bystanders subscribe. The two have different subscribers with different numbers, the
lists that a fan-out goes through are different, and so are the logs. But whatever happens in the
one run either happens in the other as well, to the subscriber of the same rank, or is a bystander's
turn or an operation about bystanders, and does not show.

A callback may break off, which ends its turn and nothing else. The receiver of a channel may be
gone, which is noticed in the middle of a fan-out and takes the subscriber off the list. If these
are bystanders, then neither shows.

## Main definitions

* `Mirrored`: a log with the bystanders, and the log without them
* `Host.Mirrors`: a host, and the host without its bystanders

## Main results

* `Host.Mirrors.step_kept`, `Host.Mirrors.step_hidden`: one operation
* `Host.Mirrors.deliver_kept`, `Host.Mirrors.deliver_hidden`: one turn
* `Host.subscribers_isolated`: all runs
-/

namespace ChatRouting

open Marked (rank renumber)

variable {name : String} {m : List Bool}

/-! ### Results and logs -/

/-- Results are alike when the requests are the same and the answers are alike, unless the operation
asks how many subscribers there are. -/
structure StepResult.Alike (m : List Bool) (op : Operation) (r r' : StepResult) : Prop where
  requests : r'.requests = r.requests
  answer : op ≠ .subscriberCount → r.answer.Alike m r'.answer

/-- The results of an operation of the host. Who subscribes under the name of the bystanders is not
marked, and any other operation has results that are alike. -/
structure StepResult.Isolated (name : String) (m : List Bool) (op : Operation)
    (r r' : StepResult) : Prop where
  about : op.isAbout name = true → ∀ n active, r.answer = .subscribed n active → m[n]? = some false
  alike : op.isAbout name = false → r.Alike m op r'

namespace LogEntry

/-- What is logged of a subscriber that is marked, with the bystanders and without them. -/
inductive Alike (name : String) (m : List Bool) : LogEntry → LogEntry → Prop
  | put {k : Nat} (n : Notification) (hk : m[k]? = some true) :
      Alike name m (.put k n) (.put (rank m k) n)
  | got {k : Nat} (n : Notification) (hk : m[k]? = some true) :
      Alike name m (.got k n) (.got (rank m k) n)
  | did {k : Nat} {op : Operation} {r r' : StepResult} (hk : m[k]? = some true)
      (habout : op.isAbout name = false) (hr : r.Alike m op r') :
      Alike name m (.did k op r) (.did (rank m k) (op.without name) r')

/-- What is logged of a bystander, or of an operation about bystanders. -/
inductive Hidden (name : String) (m : List Bool) : LogEntry → Prop
  | put {k : Nat} (n : Notification) (hk : m[k]? = some false) : Hidden name m (.put k n)
  | got {k : Nat} (n : Notification) (hk : m[k]? = some false) : Hidden name m (.got k n)
  | did {k : Nat} (op : Operation) (r : StepResult) (hk : m[k]? = some false) :
      Hidden name m (.did k op r)
  | about (k : Nat) {op : Operation} {r : StepResult} (habout : op.isAbout name = true)
      (hr : ∀ n active, r.answer = .subscribed n active → m[n]? = some false) :
      Hidden name m (.did k op r)

end LogEntry

/-- A log with the bystanders, and the log without them. -/
inductive Mirrored (name : String) (m : List Bool) : List LogEntry → List LogEntry → Prop
  | nil : Mirrored name m [] []
  | shown {log log' : List LogEntry} {entry entry' : LogEntry} (h : Mirrored name m log log')
      (hentry : entry.Alike name m entry') : Mirrored name m (log ++ [entry]) (log' ++ [entry'])
  | hidden {log log' : List LogEntry} {entry : LogEntry} (h : Mirrored name m log log')
      (hentry : entry.Hidden name m) : Mirrored name m (log ++ [entry]) log'

theorem Answer.Alike.extend {a a' : Answer} (h : a.Alike m a') (more : List Bool) :
    a.Alike (m ++ more) a' := by
  cases h with
  | same h => exact .same h
  | subscribed active h =>
    rw [← Marked.rank_extend h more]
    exact .subscribed active (Marked.getElem?_extend h more)

theorem StepResult.Alike.extend {op : Operation} {r r' : StepResult} (h : r.Alike m op r')
    (more : List Bool) : r.Alike (m ++ more) op r' :=
  ⟨h.requests, fun hop => (h.answer hop).extend more⟩

theorem StepResult.Isolated.of_about {op : Operation} {r r' : StepResult}
    (habout : op.isAbout name = true)
    (hgiven : ∀ n active, r.answer = .subscribed n active → m[n]? = some false) :
    r.Isolated name m op r' where
  about _ := hgiven
  alike hother := by
    rw [habout] at hother
    cases hother

theorem StepResult.Alike.isolated {op : Operation} {r r' : StepResult} (h : r.Alike m op r')
    (habout : op.isAbout name = false) : r.Isolated name m op r' where
  about hother := by
    rw [habout] at hother
    cases hother
  alike _ := h

theorem StepResult.Isolated.extend {op : Operation} {r r' : StepResult}
    (h : r.Isolated name m op r') (more : List Bool) : r.Isolated name (m ++ more) op r' :=
  ⟨fun habout n active hn => Marked.getElem?_extend (h.about habout n active hn) more,
    fun habout => (h.alike habout).extend more⟩

theorem LogEntry.Alike.extend {entry entry' : LogEntry} (h : entry.Alike name m entry')
    (more : List Bool) : entry.Alike name (m ++ more) entry' := by
  cases h with
  | put n hk =>
    rw [← Marked.rank_extend hk more]
    exact .put n (Marked.getElem?_extend hk more)
  | got n hk =>
    rw [← Marked.rank_extend hk more]
    exact .got n (Marked.getElem?_extend hk more)
  | did hk habout hr =>
    rw [← Marked.rank_extend hk more]
    exact .did (Marked.getElem?_extend hk more) habout (hr.extend more)

theorem LogEntry.Hidden.extend {entry : LogEntry} (h : entry.Hidden name m) (more : List Bool) :
    entry.Hidden name (m ++ more) := by
  cases h with
  | put n hk => exact .put n (Marked.getElem?_extend hk more)
  | got n hk => exact .got n (Marked.getElem?_extend hk more)
  | did op r hk => exact .did op r (Marked.getElem?_extend hk more)
  | about k habout hr =>
    exact .about k habout fun n active hn => Marked.getElem?_extend (hr n active hn) more

namespace Mirrored

variable {log log' : List LogEntry} {k : Nat}

theorem extend (h : Mirrored name m log log') (more : List Bool) :
    Mirrored name (m ++ more) log log' := by
  induction h with
  | nil => exact .nil
  | shown _ hentry ih => exact ih.shown (hentry.extend more)
  | hidden _ hentry ih => exact ih.hidden (hentry.extend more)

/-- A subscriber that is marked was told the same. -/
theorem told (h : Mirrored name m log log') (hk : m[k]? = some true) :
    ((log'.filterMap LogEntry.delivery?).filter fun d => d.1 = rank m k).map Prod.snd =
      ((log.filterMap LogEntry.delivery?).filter fun d => d.1 = k).map Prod.snd := by
  have hsame {i : Nat} (hi : m[i]? = some true) : rank m i = rank m k ↔ i = k :=
    ⟨fun h => Marked.rank_inj hi hk h, fun h => congrArg (rank m) h⟩
  have hother {i : Nat} (hi : m[i]? = some false) : i ≠ k := by
    rintro rfl
    rw [hi] at hk
    cases hk
  induction h with
  | nil => rfl
  | shown _ hentry ih =>
    simp only [List.filterMap_append, List.filter_append, List.map_append, ih]
    cases hentry with
    | @put i n hi | @got i n hi =>
      by_cases hik : i = k
      · simp [LogEntry.delivery?, hik]
      · simp [LogEntry.delivery?, hsame hi, hik]
    | did => rfl
  | hidden _ hentry ih =>
    simp only [List.filterMap_append, List.filter_append, List.map_append, ih]
    cases hentry with
    | put n hi | got n hi => simp [LogEntry.delivery?, hother hi]
    | did | about => exact (List.append_nil _).symm

end Mirrored

namespace Host

/-- A host, and the host without its bystanders. No requests are left over. -/
structure Mirrors (name : String) (m : List Bool) (h h' : Host) : Prop where
  marks : Marks name m h
  collected : h.endpoint.transport.outbox = []
  host : ∃ log, h' = h.without name m log ∧ Mirrored name m h.log log

variable {h h' : Host} {log : List LogEntry} {op : Operation} {k : Nat}

/-! ### Single operations -/

theorem collect_without (a : Answer) :
    collect (a, h.without name m log) =
      ((collect (a, h)).1, (collect (a, h)).2.without name m log) := by
  obtain ⟨haudience, hinbound⟩ := h.audience_collect a
  rw [without, without, haudience, hinbound]
  exact h.collect_beside (h.audience.without name m log) h.endpoint.inbound a

/-- Without the endpoint both hosts are left as they are. -/
theorem Marks.keeps_gone (hm : Marks name m h) :
    Keeps name m log op (.gone, h) (.gone, h.without name m log) :=
  ⟨hm, rfl, fun _ => .same rfl⟩

/-- What an operation keeps is kept when its requests are collected. -/
theorem Keeps.collect {result result' : Answer × Host} (hk : Keeps name m log op result result')
    (hlog : Mirrored name m result.2.log log) :
    Mirrors name m (collect result).2 (collect result').2 ∧
      (Host.collect result).1.Alike m op (Host.collect result').1 := by
  obtain ⟨a, h⟩ := result
  obtain ⟨a', h'⟩ := result'
  obtain ⟨hm, rfl, hanswer⟩ := hk
  rw [collect_without]
  have hquiet := plainQuiet_collect a h
  refine ⟨⟨hm.congr (h.audience_collect a).1, collected_collect _, log, rfl, ?_⟩, rfl, hanswer⟩
  rw [hquiet.log]
  exact hlog

namespace Mirrors

theorem shown {entry entry' : LogEntry} (hs : Mirrors name m h h')
    (hentry : entry.Alike name m entry') : Mirrors name m (h.note entry) (h'.note entry') := by
  obtain ⟨hm, hout, log, rfl, hlog⟩ := hs
  exact ⟨⟨hm.router, hm.subscriptions, hm.receivers⟩, hout, _, rfl, hlog.shown hentry⟩

theorem hidden {entry : LogEntry} (hs : Mirrors name m h h') (hentry : entry.Hidden name m) :
    Mirrors name m (h.note entry) h' := by
  obtain ⟨hm, hout, log, rfl, hlog⟩ := hs
  exact ⟨⟨hm.router, hm.subscriptions, hm.receivers⟩, hout, log, rfl, hlog.hidden hentry⟩

variable (act : Operation → Host → StepResult × Host)

/-- An operation that is not about bystanders and processes no event. -/
theorem step_kept (hs : Mirrors name m h h') (habout : op.isAbout name = false)
    (hstands : op.every (Operation.standsBy name) = true)
    (hquiet : op.processes = false ∨ h.router.delivering = true) :
    ∃ more, Mirrors name (m ++ more) (step act op h).2 (step act (op.without name) h').2 ∧
      (step act op h).1.Alike (m ++ more) op (step act (op.without name) h').1 := by
  obtain ⟨hm, -, log, rfl, hlog⟩ := hs
  have hheld : (h.without name m log).held = h.held := rfl
  rw [step, step, Operation.needsEndpoint_without, hheld]
  split_ifs
  · refine ⟨[], ?_⟩
    rw [List.append_nil]
    exact hm.keeps_gone.collect hlog
  · obtain ⟨m', ⟨more, rfl⟩, hkeeps⟩ := stepHeld_kept act hm log habout hstands hquiet
    have hsame : (stepHeld act h op).2.log = h.log := by
      rcases hquiet with hop | hd
      · exact (stepHeld_quiet_of_not_processes act h hop).log
      · exact (stepHeld_quiet act hd op).log
    exact ⟨more, hkeeps.collect (hsame ▸ hlog.extend more)⟩

/-- An operation about bystanders. -/
theorem step_hidden (hs : Mirrors name m h h') (habout : op.isAbout name = true)
    (hstands : op.every (Operation.standsBy name) = true) :
    ∃ more, Mirrors name (m ++ more) (step act op h).2 h' ∧
      ∀ n active, (step act op h).1.answer = .subscribed n active →
        (m ++ more)[n]? = some false := by
  obtain ⟨hm, hout, log, rfl, hlog⟩ := hs
  rw [step]
  split_ifs
  · rw [collect_of_collected hout]
    refine ⟨[], ?_, fun _ _ hgiven => by cases hgiven⟩
    rw [List.append_nil]
    exact ⟨hm, hout, log, rfl, hlog⟩
  · obtain ⟨m', ⟨more, rfl⟩, hhides⟩ := stepHeld_hidden act hm log habout hstands
    have hprocesses : op.processes = false := by
      cases op with
      | route | handle | processPending | processNext => cases habout
      | _ => rfl
    have hsame := (stepHeld_quiet_of_not_processes act h hprocesses).log
    have hout' : (stepHeld act h op).2.endpoint.transport.outbox = [] :=
      (congrArg (·.endpoint.transport.outbox) hhides.host).trans hout
    rw [← Prod.eta (stepHeld act h op), collect_of_collected hout']
    exact ⟨more, ⟨hhides.marks, hout', log, hhides.host.symm, hsame ▸ hlog.extend more⟩,
      hhides.answer⟩

end Mirrors

/-! ### Turns -/

/-- An operation that only asks changes nothing. -/
theorem inside_of_onlyAsks (hasks : op.onlyAsks = true)
    (hout : h.endpoint.transport.outbox = []) : (inside op h).2 = h := by
  have hheld : (stepHeld (fun _ h => ({ answer := .done }, h)) h op).2 = h := by
    cases op with
    | poll handle | wait handle =>
      simp only [stepHeld]
      split <;> rfl
    | isActive | subscriberCount | hasSession | session | sessions | isClosed | isDelivering
    | identity | friendKey | groupKey | friendIds | groupIds | conversationId | unreadable
    | panic => rfl
    | _ => cases hasks
  rw [inside, step]
  split_ifs
  · rw [collect_of_collected hout]
  · rw [← Prod.eta (stepHeld _ h op), hheld, collect_of_collected hout]

namespace Mirrors

/-- A bystander asks for things and breaks off. -/
theorem runPlan_hidden {plan : List Operation} (hs : Mirrors name m h h')
    (hk : m[k]? = some false) (hplan : Operation.planEvery Operation.onlyAsks plan = true) :
    Mirrors name m (runPlan inside k plan h) h' := by
  induction plan generalizing h with
  | nil => exact hs
  | cons op rest ih =>
    by_cases hop : op = .panic
    · subst hop
      exact hs
    · rw [Operation.planEvery, Bool.and_eq_true] at hplan
      have hasked := inside_of_onlyAsks (Operation.every.self hplan.1) hs.collected
      rw [runPlan_cons inside k rest h hop, hasked]
      exact ih (hs.hidden (.did op _ hk)) hplan.2

/-- The callback of another subscriber performs its operations. -/
theorem runPlan_kept {plan : List Operation} (hs : Mirrors name m h h')
    (hd : h.router.delivering = true) (hk : m[k]? = some true)
    (hplan : Operation.planEvery (Operation.standsBy name) plan = true) :
    ∃ more, Mirrors name (m ++ more) (runPlan inside k plan h)
      (runPlan inside (rank m k) (Operation.planWithout name plan) h') := by
  induction plan generalizing m h h' with
  | nil =>
    rw [Operation.planWithout]
    exact ⟨[], by rwa [List.append_nil]⟩
  | cons op rest ih =>
    by_cases hop : op = .panic
    · subst hop
      rw [Operation.planWithout_cons rfl, Operation.without_eq_panic_iff.mpr rfl]
      exact ⟨[], by rwa [List.append_nil]⟩
    rw [Operation.planEvery, Bool.and_eq_true] at hplan
    have hd' : (inside op h).2.router.delivering = true := (step_quiet _ hd op).delivering.trans hd
    rw [runPlan_cons inside k rest h hop]
    cases habout : op.isAbout name with
    | true =>
      obtain ⟨more, hstep, hgiven⟩ := hs.step_hidden _ habout hplan.1
      obtain ⟨more', hrest⟩ := ih (hstep.hidden (.about k habout hgiven)) hd'
        (Marked.getElem?_extend hk more) hplan.2
      rw [Marked.rank_extend hk, List.append_assoc] at hrest
      rw [Operation.planWithout_cons_of_about habout]
      exact ⟨more ++ more', hrest⟩
    | false =>
      obtain ⟨more, hstep, halike⟩ := hs.step_kept _ habout hplan.1 (Or.inr hd)
      have hk' := Marked.getElem?_extend hk more
      obtain ⟨more', hrest⟩ := ih (hstep.shown (.did hk' habout halike)) hd' hk' hplan.2
      rw [Marked.rank_extend hk, List.append_assoc] at hrest
      rw [Operation.planWithout_cons habout,
        runPlan_cons inside _ _ _ (mt Operation.without_eq_panic_iff.mp hop)]
      exact ⟨more ++ more', hrest⟩

variable {n : Notification}

/-- The sink of another subscriber changes, and its callbacks are of the kinds that they were. -/
theorem turn_kept (hs : Mirrors name m h h') (hk : m[k]? = some true) {s : Subscriber}
    (hsub : h.router.subscribers[k]? = some s) (sink : Sink)
    (hsink : ∀ kind, s.sink.every kind = true → sink.every kind = true) :
    Mirrors name m (h.withRouter (h.router.modify k fun s => { s with sink }))
      (h'.withRouter
        (h'.router.modify (rank m k) fun s => { s with sink := sink.without name })) := by
  obtain ⟨hm, hout, log, rfl, hlog⟩ := hs
  have hmodify : (h.router.without name m).modify (rank m k) _ = _ :=
    Router.modify_kept (f := fun s => { s with sink })
      (g := fun s => { s with sink := sink.without name }) hk fun _ => rfl
  exact ⟨⟨hm.router.turn hsub hsink, hm.subscriptions, hm.receivers⟩, hout, log,
    congrArg (h.without name m log).withRouter hmodify, hlog⟩

/-- The sink of a bystander changes, and its callbacks are of the kinds that they were. -/
theorem turn_hidden (hs : Mirrors name m h h') (hk : m[k]? = some false) {s : Subscriber}
    (hsub : h.router.subscribers[k]? = some s) (sink : Sink)
    (hsink : ∀ kind, s.sink.every kind = true → sink.every kind = true) :
    Mirrors name m (h.withRouter (h.router.modify k fun s => { s with sink })) h' := by
  obtain ⟨hm, hout, log, rfl, hlog⟩ := hs
  have hunmarked : m[k]? ≠ some true := by
    rw [hk]
    decide
  have hmodify : (h.router.modify k fun s => { s with sink }).without name m =
      h.router.without name m := Router.modify_hidden hunmarked _
  exact ⟨⟨hm.router.turn hsub hsink, hm.subscriptions, hm.receivers⟩, hout, log,
    (congrArg (h.without name m log).withRouter hmodify).symm, hlog⟩

/-- Another subscriber has its turn. -/
theorem deliver_kept (hs : Mirrors name m h h') (hd : h.router.delivering = true)
    (hk : m[k]? = some true) :
    ∃ more, Mirrors name (m ++ more) (deliver inside n h k) (deliver inside n h' (rank m k)) := by
  have hsubscriber : h'.router.subscribers[rank m k]? =
      h.router.subscribers[k]?.map (Subscriber.without name) := by
    obtain ⟨-, -, log, rfl, -⟩ := hs
    exact Router.getElem?_without hk
  rw [deliver.eq_def, deliver.eq_def inside n h', hsubscriber]
  rcases hsub : h.router.subscribers[k]? with _ | ⟨_ | _, sink⟩
  · exact ⟨[], by rwa [List.append_nil]⟩
  · exact ⟨[], by rwa [List.append_nil]⟩
  · cases sink with
    | channel waiting attached =>
      refine ⟨[], ?_⟩
      rw [List.append_nil]
      cases attached with
      | false =>
        obtain ⟨hm, hout, log, rfl, hlog⟩ := hs
        exact ⟨⟨hm.router.deactivate k, hm.subscriptions, hm.receivers⟩, hout, log,
          congrArg (h.without name m log).withRouter (Router.deactivate_kept hk), hlog⟩
      | true =>
        exact (hs.turn_kept hk hsub (.channel (waiting ++ [n]) true) fun _ _ => rfl).shown
          (.put n hk)
    | callbacks onSession onError =>
      have htold := (hs.turn_kept hk hsub _ fun _ hkind => (nextPlan_every n hkind).2).shown
        (.got n hk)
      have hplan := (nextPlan_every n (hs.marks.router.callbacks k _ hsub).1).1
      simp only [Option.map_some, Subscriber.without, Sink.without, nextPlan_without]
      exact htold.runPlan_kept hd hk hplan

/-- A bystander has its turn. -/
theorem deliver_hidden (hs : Mirrors name m h h') (hk : m[k]? = some false) :
    Mirrors name m (deliver inside n h k) h' := by
  rw [deliver]
  split
  · exact hs
  · exact hs
  · next waiting hsub =>
    exact (hs.turn_hidden hk hsub (.channel (waiting ++ [n]) true) fun _ _ => rfl).hidden
      (.put n hk)
  · obtain ⟨hm, hout, log, rfl, hlog⟩ := hs
    have hunmarked : m[k]? ≠ some true := by
      rw [hk]
      decide
    have hgone : (h.router.deactivate k).without name m = h.router.without name m :=
      Router.deactivate_hidden hunmarked
    exact ⟨⟨hm.router.deactivate k, hm.subscriptions, hm.receivers⟩, hout, log,
      (congrArg (h.without name m log).withRouter hgone).symm, hlog⟩
  · next onSession onError hsub =>
    have htold := (hs.turn_hidden hk hsub _ fun _ hkind => (nextPlan_every n hkind).2).hidden
      (.got n hk)
    exact htold.runPlan_hidden hk (nextPlan_every n ((hs.marks.router.callbacks k _ hsub).2 hk)).1

/-- Some subscribers have their turns, bystanders among them. -/
theorem foldl_deliver (hs : Mirrors name m h h') (hd : h.router.delivering = true)
    {ks : List Nat} (hks : ∀ k ∈ ks, k < m.length) :
    ∃ more, Mirrors name (m ++ more) (ks.foldl (deliver inside n) h)
      ((renumber m ks).foldl (deliver inside n) h') := by
  induction ks generalizing m h h' with
  | nil => exact ⟨[], by rwa [List.append_nil]⟩
  | cons k ks ih =>
    have hd' : (deliver inside n h k).router.delivering = true :=
      (deliver_delivers (discreet_step _) n k hd).2
    have hlt : k < m.length := hks k List.mem_cons_self
    have hrest (i : Nat) (hi : i ∈ ks) : i < m.length := hks i (List.mem_cons_of_mem k hi)
    cases hmark : m[k] with
    | false =>
      have hk : m[k]? = some false := by rw [List.getElem?_eq_getElem hlt, hmark]
      rw [Marked.renumber_cons_of_unmarked (by rw [hk]; decide)]
      exact ih (hs.deliver_hidden hk) hd' hrest
    | true =>
      have hk : m[k]? = some true := by rw [List.getElem?_eq_getElem hlt, hmark]
      obtain ⟨more, hturn⟩ := hs.deliver_kept (n := n) hd hk
      obtain ⟨more', hall⟩ := ih hturn hd' fun i hi =>
        Nat.lt_of_lt_of_le (hrest i hi) (List.length_append ▸ Nat.le_add_right _ _)
      rw [Marked.renumber_extend hrest, List.append_assoc] at hall
      rw [Marked.renumber_cons_of_marked hk]
      exact ⟨more ++ more', hall⟩

/-! ### Events -/

theorem setDelivering (hs : Mirrors name m h h') (delivering : Bool) :
    Mirrors name m (h.setDelivering delivering) (h'.setDelivering delivering) := by
  obtain ⟨hm, hout, log, rfl, hlog⟩ := hs
  exact ⟨⟨⟨hm.router.length, hm.router.listed, hm.router.callbacks⟩, hm.subscriptions,
    hm.receivers⟩, hout, log, rfl, hlog⟩

/-- The same events wait. -/
theorem inbound (hs : Mirrors name m h h') : h'.endpoint.inbound = h.endpoint.inbound := by
  obtain ⟨-, -, log, rfl, -⟩ := hs
  rfl

theorem closed (hs : Mirrors name m h h') : h'.router.closed = h.router.closed := by
  obtain ⟨-, -, log, rfl, -⟩ := hs
  rfl

theorem delivering (hs : Mirrors name m h h') : h'.router.delivering = h.router.delivering := by
  obtain ⟨-, -, log, rfl, -⟩ := hs
  rfl

/-- As many events can come out of the queue. -/
theorem pendingBound (hs : Mirrors name m h h') : h'.pendingBound = h.pendingBound := by
  obtain ⟨hm, -, log, rfl, -⟩ := hs
  exact congrArg (h.endpoint.inbound.length + ·) (Router.backlog_without hm.router)

theorem withInbound (hs : Mirrors name m h h') (inbound : List InboundEvent) :
    Mirrors name m (h.withEndpoint { h.endpoint with inbound })
      (h'.withEndpoint { h'.endpoint with inbound }) := by
  obtain ⟨hm, hout, log, rfl, hlog⟩ := hs
  exact ⟨⟨hm.router, hm.subscriptions, hm.receivers⟩, hout, log, rfl, hlog⟩

theorem fanOut (hs : Mirrors name m h h') (n : Notification) :
    ∃ more, Mirrors name (m ++ more) (fanOut inside n h) (fanOut inside n h') := by
  have hlisted : h'.router.listed = renumber m h.router.listed := by
    obtain ⟨-, -, log, rfl, -⟩ := hs
    rfl
  obtain ⟨more, hall⟩ := (hs.setDelivering true).foldl_deliver (n := n) rfl hs.marks.router.listed
  rw [Host.fanOut, Host.fanOut, hlisted]
  exact ⟨more, hall.setDelivering false⟩

/-- An event is judged in the same way. -/
theorem classify (hs : Mirrors name m h h') (event : InboundEvent) (localId : String)
    (peer : Option String) :
    (h'.router.classify event localId peer).1 = (h.router.classify event localId peer).1 ∧
      Mirrors name m (h.withRouter (h.router.classify event localId peer).2)
        (h'.withRouter (h'.router.classify event localId peer).2) := by
  obtain ⟨hm, hout, log, rfl, hlog⟩ := hs
  obtain ⟨registry, hr⟩ := h.router.exists_classify_eq event localId peer
  rw [router_without, Router.classify_without, hr]
  exact ⟨rfl, ⟨⟨hm.router.length, hm.router.listed, hm.router.callbacks⟩, hm.subscriptions,
    hm.receivers⟩, hout, log, rfl, hlog⟩

end Mirrors

/-- Something is done to a host and to the host without its bystanders, with the same result. -/
def Tracks {α : Type} (name : String) (m : List Bool) (result result' : α × Host) : Prop :=
  ∃ more, Mirrors name (m ++ more) result.2 result'.2 ∧ result'.1 = result.1

theorem Mirrors.tracks {α : Type} (hs : Mirrors name m h h') (a : α) :
    Tracks name m (a, h) (a, h') :=
  ⟨[], by rwa [List.append_nil], rfl⟩

theorem tracks_route (hs : Mirrors name m h h') (event : InboundEvent) (localId : String)
    (peer : Option String) :
    Tracks name m (route inside event localId peer h) (route inside event localId peer h') := by
  obtain ⟨hsame, hjudged⟩ := hs.classify event localId peer
  rw [route.eq_def, route.eq_def inside event localId peer h', hs.closed, hs.delivering]
  split_ifs
  · exact hs.tracks _
  · exact hs.tracks _
  · revert hsame hjudged
    generalize h.router.classify event localId peer = judged
    generalize h'.router.classify event localId peer = judged'
    obtain ⟨told, router⟩ := judged
    obtain ⟨told', router'⟩ := judged'
    rintro ⟨⟩ hjudged
    cases told with
    | none => exact hjudged.tracks _
    | some n =>
      obtain ⟨more, hall⟩ := hjudged.fanOut n
      exact ⟨more, hall, rfl⟩

theorem tracks_handle (hs : Mirrors name m h h') (event : InboundEvent) :
    Tracks name m (handle inside event h) (handle inside event h') := by
  have hqueued := hs.withInbound (h.endpoint.inbound ++ [event])
  have hrouted := tracks_route hs event h.endpoint.localId (h.endpoint.echoPeer event)
  rw [handle, handle, hs.closed, hs.delivering]
  obtain ⟨-, -, log, rfl, -⟩ := id hs
  split_ifs
  · exact hs.tracks _
  · exact hqueued.tracks _
  · exact hrouted

/-- The first event that waits is processed, if one does. -/
theorem tracks_handleNext (hs : Mirrors name m h h') :
    handleNext inside h = none ∧ handleNext inside h' = none ∨
      ∃ result h₁ h₁' more, handleNext inside h = some (result, h₁) ∧
        handleNext inside h' = some (result, h₁') ∧ Mirrors name (m ++ more) h₁ h₁' := by
  rw [handleNext.eq_def, handleNext.eq_def inside h', hs.inbound]
  rcases h.endpoint.inbound with _ | ⟨event, rest⟩
  · exact Or.inl ⟨rfl, rfl⟩
  · obtain ⟨more, hrest, hsame⟩ := tracks_handle (hs.withInbound rest) event
    refine Or.inr ⟨_, _, _, more, congrArg some (Prod.eta _).symm, ?_, hrest⟩
    exact congrArg some (Prod.ext hsame rfl)

theorem tracks_drain (hs : Mirrors name m h h') (bound processed : Nat) :
    Tracks name m (drain inside bound processed h) (drain inside bound processed h') := by
  induction bound generalizing m h h' processed with
  | zero => exact hs.tracks _
  | succ bound ih =>
    rw [drain, drain]
    rcases tracks_handleNext hs with ⟨hnone, hnone'⟩ | ⟨result, h₁, h₁', more, hn, hn', hrest⟩
    · rw [hnone, hnone']
      exact hs.tracks _
    · rw [hn, hn']
      cases result with
      | error f => exact ⟨more, hrest, rfl⟩
      | ok told =>
        obtain ⟨more', hall, hsame⟩ := ih hrest (processed + 1)
        rw [List.append_assoc] at hall
        exact ⟨more ++ more', hall, hsame⟩

theorem tracks_processPending (hs : Mirrors name m h h') :
    Tracks name m (processPending inside h) (processPending inside h') := by
  rw [processPending, processPending, hs.delivering, hs.pendingBound]
  split_ifs
  · exact hs.tracks _
  · exact tracks_drain hs _ _

theorem tracks_processNext (hs : Mirrors name m h h') :
    Tracks name m (processNext inside h) (processNext inside h') := by
  rw [processNext, processNext, hs.delivering]
  split_ifs
  · exact hs.tracks _
  · rcases tracks_handleNext hs with ⟨hnone, hnone'⟩ | ⟨result, h₁, h₁', more, hn, hn', hrest⟩
    · rw [hnone, hnone']
      exact hs.tracks _
    · rw [hn, hn']
      cases result with
      | error f => exact ⟨more, hrest, rfl⟩
      | ok told => exact ⟨more, hrest, rfl⟩

/-! ### Runs -/

/-- An operation that processes events. -/
theorem tracks_stepHeld (hs : Mirrors name m h h') (hop : op.processes = true) :
    Tracks name m (stepHeld inside h op) (stepHeld inside h' op) := by
  cases op with
  | route event localId peer =>
    obtain ⟨more, hrest, hsame⟩ := tracks_route hs event localId peer
    exact ⟨more, hrest, congrArg (Answer.ofExcept .notified) hsame⟩
  | handle event =>
    obtain ⟨more, hrest, hsame⟩ := tracks_handle hs event
    exact ⟨more, hrest, congrArg (Answer.ofExcept .notified) hsame⟩
  | processPending =>
    obtain ⟨more, hrest, hsame⟩ := tracks_processPending hs
    exact ⟨more, hrest, congrArg (Answer.ofExcept .count) hsame⟩
  | processNext =>
    obtain ⟨more, hrest, hsame⟩ := tracks_processNext hs
    exact ⟨more, hrest, congrArg (Answer.ofExcept .truth) hsame⟩
  | _ => cases hop

namespace Mirrors

/-- An operation that is not about bystanders. -/
theorem perform_kept (hs : Mirrors name m h h') (habout : op.isAbout name = false)
    (hstands : op.every (Operation.standsBy name) = true) :
    ∃ more, Mirrors name (m ++ more) (perform op h).2 (perform (op.without name) h').2 ∧
      (perform op h).1.Alike (m ++ more) op (perform (op.without name) h').1 := by
  cases hop : op.processes with
  | false => exact hs.step_kept inside habout hstands (Or.inl hop)
  | true =>
    have hspares : op.sparesAudience = true := by
      cases op with
      | route | handle | processPending | processNext => rfl
      | _ => cases hop
    have hheld : h'.held = h.held := by
      obtain ⟨-, -, log, rfl, -⟩ := hs
      rfl
    rw [Operation.without_of_sparesAudience name hspares, perform, step, step, hheld]
    split_ifs
    · obtain ⟨hm, -, log, rfl, hlog⟩ := hs
      refine ⟨[], ?_⟩
      rw [List.append_nil]
      exact hm.keeps_gone.collect hlog
    · obtain ⟨more, ⟨hm, -, log, hhost, hlog⟩, hsame⟩ := tracks_stepHeld hs hop
      refine ⟨more, Keeps.collect ⟨hm, hhost, fun _ => ?_⟩ hlog⟩
      rw [hsame]
      exact .same (subscribed?_of_sparesAudience inside hspares h)

/-- An operation of the host, which is left out if it is about bystanders. -/
theorem perform (hs : Mirrors name m h h') (hstands : op.every (Operation.standsBy name) = true) :
    ∃ more, Mirrors name (m ++ more) (perform op h).2 (run (Operation.planWithout name [op]) h') ∧
      (perform op h).1.Isolated name (m ++ more) op (perform (op.without name) h').1 := by
  cases habout : op.isAbout name with
  | true =>
    obtain ⟨more, hstep, hgiven⟩ := hs.step_hidden inside habout hstands
    rw [Operation.planWithout_cons_of_about habout, Operation.planWithout]
    exact ⟨more, hstep, .of_about habout hgiven⟩
  | false =>
    obtain ⟨more, hstep, halike⟩ := hs.perform_kept habout hstands
    rw [Operation.planWithout_cons habout, Operation.planWithout]
    exact ⟨more, hstep, halike.isolated habout⟩

/-- A run of the host. -/
theorem run (hs : Mirrors name m h h') {ops : List Operation}
    (hops : Operation.planEvery (Operation.standsBy name) ops = true) :
    ∃ more, Mirrors name (m ++ more) (run ops h) (run (Operation.planWithout name ops) h') ∧
      ∀ before op later, ops = before ++ op :: later →
        (Host.perform op (Host.run before h)).1.Isolated name (m ++ more) op
          (Host.perform (op.without name)
            (Host.run (Operation.planWithout name before) h')).1 := by
  induction ops generalizing m h h' with
  | nil =>
    refine ⟨[], ?_, fun before op later hsplit => absurd hsplit.symm (by simp)⟩
    rw [Operation.planWithout, List.append_nil]
    exact hs
  | cons op ops ih =>
    have hrun (rest : List Operation) : Host.run (Operation.planWithout name (op :: rest)) h' =
        Host.run (Operation.planWithout name rest)
          (Host.run (Operation.planWithout name [op]) h') := by
      rw [← List.singleton_append, Operation.planWithout_append]
      exact List.foldl_append
    rw [Operation.planEvery, Bool.and_eq_true] at hops
    obtain ⟨more, hstep, hresult⟩ := hs.perform hops.1
    obtain ⟨more', hrest, hresults⟩ := ih hstep hops.2
    refine ⟨more ++ more', ?_, fun before op' later hsplit => ?_⟩
    · rw [hrun, ← List.append_assoc]
      exact hrest
    · rw [← List.append_assoc]
      rcases before with _ | ⟨op'', before⟩
      · cases hsplit
        rw [Operation.planWithout]
        exact hresult.extend more'
      · cases hsplit
        rw [hrun]
        exact hresults before op' later rfl

theorem sessions (hs : Mirrors name m h h') : h'.endpoint.sessions = h.endpoint.sessions := by
  obtain ⟨-, -, log, rfl, -⟩ := hs
  rfl

end Mirrors

theorem mirrors_fresh (name : String) (keys : KeyRing) (link : Link) (ignoreOwnEcho : Bool) :
    Mirrors name [] (fresh keys { link } ignoreOwnEcho) (fresh keys { link } ignoreOwnEcho) where
  marks := {
    router := ⟨rfl, fun _ hn => absurd hn List.not_mem_nil, fun _ _ hs => by cases hs⟩
    subscriptions := fun _ hentry => absurd hentry List.not_mem_nil
    receivers := fun _ hentry => absurd hentry List.not_mem_nil }
  collected := rfl
  host := ⟨[], rfl, .nil⟩

/-- **Subscribers are isolated.** Under a name channels are subscribed, or callbacks that only ask
and may break off, any number of times, and anything may be done to these subscriptions. In the same
run without the operations about that name the sessions are the same after every step. All other
subscribers are told the same in the same order. Every other operation of the host and of callbacks
makes the same requests and answers the same, but for the numbers of subscribers and how many there
are. The marks say who the others are, going by the names under which the numbers were given.
Callbacks without operations about the name are the same in both runs, by
`Operation.without_of_every`. -/
theorem subscribers_isolated (keys : KeyRing) (link : Link) (ignoreOwnEcho : Bool) (name : String)
    (ops : List Operation) (hops : Operation.planEvery (Operation.standsBy name) ops = true) :
    let start := fresh keys { link } ignoreOwnEcho
    let others := Operation.planWithout name ops
    (∀ k, (run (Operation.planWithout name (ops.take k)) start).endpoint.sessions =
      (run (ops.take k) start).endpoint.sessions) ∧
    ∃ m : List Bool, m.length = (run ops start).router.subscribers.length ∧
      (∀ n, m[n]? = some true →
        (run others start).receivedBy (rank m n) = (run ops start).receivedBy n) ∧
      (∀ before op later, ops = before ++ op :: later →
        (perform op (run before start)).1.Isolated name m op
          (perform (op.without name) (run (Operation.planWithout name before) start)).1) ∧
      Mirrored name m (run ops start).log (run others start).log := by
  intro start others
  have hstart := mirrors_fresh name keys link ignoreOwnEcho
  refine ⟨fun k => ?_, ?_⟩
  · have hbefore : Operation.planEvery (Operation.standsBy name) (ops.take k) = true := by
      rw [← List.take_append_drop k ops, Operation.planEvery_append, Bool.and_eq_true] at hops
      exact hops.1
    obtain ⟨m, hend, -⟩ := hstart.run hbefore
    exact hend.sessions
  · obtain ⟨m, ⟨hm, -, log, hhost, hlog⟩, hresults⟩ := hstart.run hops
    have hlog' : Mirrored name m (run ops start).log (run others start).log := by
      rw [hhost]
      exact hlog
    exact ⟨m, hm.router.length, fun n hn => hlog'.told hn, hresults, hlog'⟩

/-- A callback breaks off before another subscriber has its turn. -/
theorem subscribers_isolated_panic :
    let start := fresh (KeyRing.ofId "alice") { link := .channel true } true
    let panics : Operation := .subscribe "bystander" [] [{ item := [.panic], times := 1 }]
    let asks : Operation := .subscribe "ui" [] [{ item := [.isDelivering], times := 1 }]
    let event : Operation := .handle (.transportError "lost" "now")
    Operation.planEvery (Operation.standsBy "bystander") [panics, asks, event] = true ∧
      (run [panics, asks, event] start).receivedBy 0 =
        [.errorRaised { kind := .transport, message := "lost", timestamp := some "now" }] ∧
      (run [panics, asks, event] start).receivedBy 1 =
        [.errorRaised { kind := .transport, message := "lost", timestamp := some "now" }] ∧
      (run [asks, event] start).receivedBy 0 = (run [panics, asks, event] start).receivedBy 1 := by
  intro start panics asks event
  have hstands : Operation.planEvery (Operation.standsBy "bystander") [panics, asks, event] =
      true := by
    decide +kernel
  have hothers : Operation.planWithout "bystander" [panics, asks, event] = [asks, event] := rfl
  obtain ⟨-, m, -, htold, hresults, -⟩ := subscribers_isolated (KeyRing.ofId "alice")
    (.channel true) true "bystander" [panics, asks, event] hstands
  have hfirst : m[0]? = some false := by
    have hgiven : (perform panics (run [] start)).1.answer = .subscribed 0 true := rfl
    exact (hresults [] panics [asks, event] rfl).about (by decide) 0 true hgiven
  have hsecond : m[1]? = some true := by
    have hgiven : (perform asks (run [panics] start)).1.answer = .subscribed 1 true := rfl
    have halike := ((hresults [panics] asks [event] rfl).alike (by decide)).answer
      Operation.noConfusion
    rw [hgiven] at halike
    generalize (perform _ _).1.answer = a at halike
    cases halike with
    | same h => cases h
    | subscribed _ h => exact h
  have hrank : rank m 1 = 0 := by
    obtain ⟨mark, m, rfl⟩ := List.exists_cons_of_ne_nil (l := m) (by rintro rfl; cases hfirst)
    obtain rfl : mark = false := Option.some.inj hfirst
    rw [Marked.rank_cons, Marked.rank_zero]
    rfl
  have hsame := htold 1 hsecond
  rw [hrank, hothers] at hsame
  refine ⟨hstands, ?_, ?_, hsame⟩
  · decide +kernel
  · decide +kernel

end Host

end ChatRouting
