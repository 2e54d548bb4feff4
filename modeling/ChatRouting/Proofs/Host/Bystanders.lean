import ChatRouting.Proofs.Bystanders
import ChatRouting.Proofs.Host.Beside
import ChatRouting.Proofs.Host.Moments

/-!
# Hosts without bystanders

A host without its bystanders has the other subscribers, with the numbers that they have among
themselves. An operation about bystanders does not show in it. Any other operation that processes no
event does there what it does with the bystanders, and answers alike: it differs in the number of a
new subscriber, and in how many subscribers there are.

Who is a bystander goes by the name under which somebody subscribes. So marks are added when
somebody subscribes, and never change.

## Main definitions

* `Host.without`: the host without its bystanders
* `Host.Marks`: the subscribers that are not marked are bystanders
* `Answer.Alike`: answers with the bystanders and without them
* `Host.Keeps`, `Host.Hides`: what operations do with the bystanders and without them

## Main results

* `Host.stepHeld_hidden`: an operation about bystanders
* `Host.stepHeld_kept`: any other operation
-/

namespace ChatRouting

open Marked (keep rank renumber)

/-- Answers are alike when they are the same, up to the number of a new subscriber. -/
inductive Answer.Alike (m : List Bool) : Answer → Answer → Prop
  | same {a : Answer} (h : a.subscribed? = none) : Alike m a a
  | subscribed {n : Nat} (active : Bool) (h : m[n]? = some true) :
      Alike m (.subscribed n active) (.subscribed (rank m n) active)

theorem Operation.without_of_sparesAudience (name : String) {op : Operation}
    (hspares : op.sparesAudience = true) : op.without name = op := by
  cases op with
  | subscribe => cases hspares
  | _ => simp only [without]

namespace Host

/-- The entries of a table under other names, with the numbers that they have among themselves. -/
def retable (name : String) (m : List Bool) (table : List (String × Nat)) : List (String × Nat) :=
  (table.filter fun entry => entry.1 != name).map fun entry => (entry.1, rank m entry.2)

/-- What a host keeps about the subscribers that are marked, with another log. -/
def Audience.without (name : String) (m : List Bool) (log : List LogEntry) (v : Audience) :
    Audience where
  subscribers := (keep m v.subscribers).map (Subscriber.without name)
  listed := renumber m v.listed
  subscriptions := retable name m v.subscriptions
  receivers := retable name m v.receivers
  log := log

/-- The host without its bystanders, with another log. -/
def without (name : String) (m : List Bool) (log : List LogEntry) (h : Host) : Host :=
  h.beside (h.audience.without name m log) h.endpoint.inbound

/-- The entries of a table that are under a name are those that are not marked. -/
def TableMarks (name : String) (m : List Bool) (table : List (String × Nat)) : Prop :=
  ∀ entry ∈ table, m[entry.2]? = some (entry.1 != name)

/-- The subscribers that are not marked are those under a name, and they are bystanders. -/
structure Marks (name : String) (m : List Bool) (h : Host) : Prop where
  router : h.router.Marks name m
  subscriptions : TableMarks name m h.subscriptions
  receivers : TableMarks name m h.receivers

/-- What an operation does with the bystanders, and what it does without them. -/
structure Keeps (name : String) (m : List Bool) (log : List LogEntry) (op : Operation)
    (result result' : Answer × Host) : Prop where
  marks : Marks name m result.2
  host : result'.2 = result.2.without name m log
  answer : op ≠ .subscriberCount → result.1.Alike m result'.1

/-- What an operation does that does not show without the bystanders. -/
structure Hides (name : String) (m m' : List Bool) (log : List LogEntry) (h : Host)
    (result : Answer × Host) : Prop where
  marks : Marks name m' result.2
  host : result.2.without name m' log = h.without name m log
  answer : ∀ n active, result.1 = .subscribed n active → m'[n]? = some false

variable {name other : String} {m : List Bool} {h h' : Host} {n : Nat} {log : List LogEntry}
  {table : List (String × Nat)}

/-! ### Tables -/

theorem lookup_retable (table : List (String × Nat)) (hother : other ≠ name) :
    (retable name m table).lookup other = (table.lookup other).map (rank m) := by
  rw [retable, Table.lookup_mapValues _ fun _ => rank m, Table.lookup_without, if_neg hother]

theorem retable_unname (table : List (String × Nat)) :
    retable name m (unname other table) = unname other (retable name m table) := by
  rw [retable, retable, unname, unname, List.filter_map, List.filter_filter, List.filter_filter]
  exact congrArg (List.map _) (List.filter_congr fun entry _ => Bool.and_comm _ _)

theorem retable_unname_self (table : List (String × Nat)) :
    retable name m (unname name table) = retable name m table := by
  rw [retable, retable, unname, List.filter_filter]
  exact congrArg (List.map _) (List.filter_congr fun entry _ => Bool.and_self _)

theorem retable_cons (hother : other ≠ name) (table : List (String × Nat)) :
    retable name m ((other, n) :: table) = (other, rank m n) :: retable name m table := by
  rw [retable, List.filter_cons_of_pos (by simpa using hother), List.map_cons, retable]

theorem retable_cons_self (table : List (String × Nat)) :
    retable name m ((name, n) :: table) = retable name m table := by
  rw [retable, List.filter_cons_of_neg (by simp), retable]

namespace TableMarks

theorem marked (ht : TableMarks name m table) (hother : other ≠ name)
    (hlookup : table.lookup other = some n) : m[n]? = some true := by
  rw [ht (other, n) (Table.mem_of_lookup hlookup), bne_iff_ne.mpr hother]

theorem unmarked (ht : TableMarks name m table) (hlookup : table.lookup name = some n) :
    m[n]? ≠ some true := by
  rw [ht (name, n) (Table.mem_of_lookup hlookup), bne_self_eq_false]
  decide

theorem unname (ht : TableMarks name m table) (other : String) :
    TableMarks name m (Host.unname other table) :=
  fun entry hentry => ht entry (List.mem_filter.mp hentry).1

theorem extend (ht : TableMarks name m table) (mark : Bool) : TableMarks name (m ++ [mark]) table :=
  fun entry hentry => Marked.getElem?_extend (ht entry hentry) _

/-- Somebody subscribes under a name. -/
theorem cons (ht : TableMarks name m table) (other : String) :
    TableMarks name (m ++ [other != name]) ((other, m.length) :: table) := by
  intro entry hentry
  rcases List.mem_cons.mp hentry with rfl | hentry
  · exact List.getElem?_concat_length
  · exact ht.extend _ entry hentry

/-- Marks that are added do not matter to the subscribers before. -/
theorem retable_extend (ht : TableMarks name m table) (mark : Bool) :
    retable name (m ++ [mark]) table = retable name m table := by
  refine List.map_congr_left fun entry hentry => ?_
  rw [Marked.rank_extend (ht entry (List.mem_filter.mp hentry).1)]

end TableMarks

/-! ### Subscriptions and receivers -/

theorem router_without : (h.without name m log).router = h.router.without name m :=
  rfl

/-- The host with other subscribers and tables, without its bystanders. -/
theorem without_eq (router : Router) (subscriptions receivers : List (String × Nat)) :
    ({ h.withRouter router with subscriptions, receivers } : Host).without name m log =
      { (h.without name m log).withRouter (router.without name m) with
        subscriptions := retable name m subscriptions
        receivers := retable name m receivers } :=
  rfl

theorem Marks.congr (hm : Marks name m h) (haudience : h'.audience = h.audience) :
    Marks name m h' := by
  have hsubscribers : h'.router.subscribers = h.router.subscribers :=
    congrArg Audience.subscribers haudience
  have hlisted : h'.router.listed = h.router.listed := congrArg Audience.listed haudience
  have hsubscriptions : h'.subscriptions = h.subscriptions :=
    congrArg Audience.subscriptions haudience
  have hreceivers : h'.receivers = h.receivers := congrArg Audience.receivers haudience
  exact ⟨⟨hsubscribers ▸ hm.router.length, hlisted ▸ hm.router.listed,
    hsubscribers ▸ hm.router.callbacks⟩, hsubscriptions ▸ hm.subscriptions,
    hreceivers ▸ hm.receivers⟩

theorem Marks.dropReceiver (hm : Marks name m h) (other : String) :
    Marks name m (h.dropReceiver other) := by
  rw [Host.dropReceiver]
  split
  · exact ⟨hm.router.dropReceiver _, hm.subscriptions, hm.receivers.unname other⟩
  · exact hm

/-- Somebody else's receiver is dropped. -/
theorem dropReceiver_kept (hm : Marks name m h) (hother : other ≠ name) :
    (h.without name m log).dropReceiver other = (h.dropReceiver other).without name m log := by
  have hlookup : (h.without name m log).receivers.lookup other = _ :=
    lookup_retable h.receivers hother
  rw [dropReceiver.eq_def, dropReceiver.eq_def, hlookup]
  rcases hn : h.receivers.lookup other with _ | n
  · rfl
  · have hmarked := hm.receivers.marked hother hn
    simp only [Option.map_some, router_without, Router.dropReceiver_kept hmarked, without_eq,
      retable_unname]
    rfl

/-- The receiver of a bystander is dropped. -/
theorem dropReceiver_hidden (hm : Marks name m h) :
    (h.dropReceiver name).without name m log = h.without name m log := by
  rw [dropReceiver]
  split
  · next n hn =>
    have hunmarked := hm.receivers.unmarked hn
    simp only [without_eq, Router.dropReceiver_hidden hunmarked, retable_unname_self]
    rfl
  · rfl

/-- What is subscribed under a name comes after the receiver under the name is dropped. -/
theorem subscribe_of_dropReceiver {dropped : Host} (hdrop : h.dropReceiver other = dropped)
    (sink : Sink) (receiver : Bool) :
    h.subscribe other sink receiver =
      let (n, router) := dropped.router.subscribe sink
      (.subscribed n (!router.closed), { dropped.withRouter router with
        subscriptions := (other, n) :: unname other dropped.subscriptions
        receivers := if receiver then (other, n) :: dropped.receivers else dropped.receivers }) :=
  hdrop ▸ rfl

/-- Somebody subscribes, and is marked if it is no bystander. -/
theorem Marks.subscribe (hm : Marks name m h) (other : String) {sink : Sink}
    (hstands : sink.every (Operation.standsBy name) = true)
    (hasks : other = name → sink.every Operation.onlyAsks = true) (receiver : Bool) :
    Marks name (m ++ [other != name]) (h.subscribe other sink receiver).2 := by
  have hdropped := hm.dropReceiver other
  have hnumber : (h.dropReceiver other).router.subscribers.length = m.length :=
    hdropped.router.length.symm
  rw [Host.subscribe, Router.subscribe, hnumber]
  refine ⟨?_, (hdropped.subscriptions.unname other).cons other, ?_⟩
  · have hnew := hdropped.router.subscribe (other != name) hstands
      fun hmark => hasks (by simpa using hmark)
    rwa [Router.subscribe, hnumber] at hnew
  · cases receiver with
    | false => exact hdropped.receivers.extend _
    | true => exact hdropped.receivers.cons other

/-- Somebody else subscribes. -/
theorem subscribe_kept (hm : Marks name m h) (hother : other ≠ name) {sink : Sink}
    (hstands : sink.every (Operation.standsBy name) = true) (receiver : Bool) (op : Operation) :
    Keeps name (m ++ [true]) log op (h.subscribe other sink receiver)
      ((h.without name m log).subscribe other (sink.without name) receiver) := by
  have hdropped := hm.dropReceiver other
  have hmark : (other != name) = true := bne_iff_ne.mpr hother
  have hmarks := hm.subscribe other hstands (fun h => absurd h hother) receiver
  rw [hmark] at hmarks
  rw [subscribe_of_dropReceiver (dropReceiver_kept hm hother), router_without,
    Router.subscribe_kept hdropped.router]
  have hrank : rank (m ++ [true]) (h.dropReceiver other).router.subscribers.length =
      rank m (h.dropReceiver other).router.subscribers.length :=
    Marked.rank_append (Nat.le_of_eq hdropped.router.length.symm)
  have hnew : (m ++ [true])[(h.dropReceiver other).router.subscribers.length]? = some true := by
    rw [← hdropped.router.length, List.getElem?_concat_length]
  refine ⟨hmarks, ?_, fun _ => ?_⟩
  · rw [subscribe, Router.subscribe, without_eq, retable_cons hother, retable_unname,
      hdropped.subscriptions.retable_extend, hrank]
    cases receiver with
    | false =>
      simp only [Bool.false_eq_true, if_false]
      rw [hdropped.receivers.retable_extend]
      rfl
    | true =>
      simp only [if_true]
      rw [retable_cons hother, hdropped.receivers.retable_extend, hrank]
      rfl
  · rw [← hrank]
    exact .subscribed _ hnew

/-- A bystander subscribes. -/
theorem subscribe_hidden (hm : Marks name m h) (sink : Sink)
    (hstands : sink.every (Operation.standsBy name) = true)
    (hasks : sink.every Operation.onlyAsks = true) (receiver : Bool) :
    Hides name m (m ++ [false]) log h (h.subscribe name sink receiver) := by
  have hdropped := hm.dropReceiver name
  have hmarks := hm.subscribe name hstands (fun _ => hasks) receiver
  rw [bne_self_eq_false] at hmarks
  refine ⟨hmarks, ?_, ?_⟩
  · rw [← dropReceiver_hidden hm, subscribe, without_eq, Router.subscribe_hidden hdropped.router,
      retable_cons_self, retable_unname_self, hdropped.subscriptions.retable_extend]
    cases receiver with
    | false =>
      simp only [Bool.false_eq_true, if_false]
      rw [hdropped.receivers.retable_extend]
      rfl
    | true =>
      simp only [if_true]
      rw [retable_cons_self, hdropped.receivers.retable_extend]
      rfl
  · rintro n active ⟨⟩
    rw [← hdropped.router.length, List.getElem?_concat_length]

/-! ### Operations -/

variable (act : Operation → Host → StepResult × Host)

/-- Only to subscribe gives a number. -/
theorem subscribed?_of_sparesAudience {op : Operation} (hspares : op.sparesAudience = true)
    (h : Host) : (stepHeld act h op).1.subscribed? = none := by
  have hopened (result : Except Fault (Session × Nat) × Endpoint) :
      (h.onOpened result).1.subscribed? = none := by
    obtain ⟨_ | _, e⟩ := result <;> rfl
  have hsent (result : Except Fault Nat × Endpoint) :
      (h.onSent result).1.subscribed? = none := by
    obtain ⟨_ | _, e⟩ := result <;> rfl
  have hqueue (event : InboundEvent) : (h.onQueue event).1.subscribed? = none := by
    rw [onQueue]
    split_ifs <;> rfl
  cases op with
  | subscribe | subscribeChannel | unsubscribe | forget | dropReceiver | isActive | receive
  | subscriberCount | close => cases hspares
  | route | handle | processPending | processNext =>
    exact (stepHeld_isBare_of_processes act h rfl).1
  | ensureSession | removeSession | setNickname | setLocalId | setKeyPair | addFriend | addGroup
  | conversationId => exact (isBare_ofExcept (fun _ => ⟨rfl, rfl⟩) _).1
  | startDirect peer => exact hopened _
  | joinGroup group => exact hopened _
  | send target plaintext => exact hsent _
  | sendToSession id plaintext => exact hsent _
  | queue event => exact hqueue event
  | queueMessage m => exact hqueue (.message m)
  | queueError reason timestamp => exact hqueue (.transportError reason timestamp)
  | answer request | abandon request =>
    simp only [stepHeld, onAcknowledger]
    split
    · rfl
    · split_ifs <;> rfl
  | poll handle | wait handle =>
    simp only [stepHeld]
    split <;> rfl
  | _ => rfl

/-- An operation that has nothing to do with subscribers. -/
theorem stepHeld_kept_of_sparesAudience (hm : Marks name m h) {op : Operation}
    (hspares : op.sparesAudience = true)
    (hquiet : op.processes = false ∨ h.router.delivering = true) :
    Keeps name m log op (stepHeld act h op) (stepHeld act (h.without name m log) op) := by
  obtain ⟨haudience, hinbound⟩ := h.audience_stepHeld act hspares hquiet
  have hsame : stepHeld act (h.without name m log) op =
      ((stepHeld act h op).1, (stepHeld act h op).2.without name m log) := by
    rw [without, without, haudience, hinbound]
    exact h.stepHeld_beside (h.audience.without name m log) h.endpoint.inbound act hspares hquiet
  rw [hsame]
  exact ⟨hm.congr haudience, rfl, fun _ => .same (subscribed?_of_sparesAudience act hspares h)⟩

/-- An operation that is not about bystanders does the same with the bystanders and without them. -/
theorem stepHeld_kept (hm : Marks name m h) (log : List LogEntry) {op : Operation}
    (habout : op.isAbout name = false) (hstands : op.every (Operation.standsBy name) = true)
    (hquiet : op.processes = false ∨ h.router.delivering = true) :
    ∃ m', m <+: m' ∧ Keeps name m' log op (stepHeld act h op)
      (stepHeld act (h.without name m log) (op.without name)) := by
  by_cases hspares : op.sparesAudience = true
  · rw [Operation.without_of_sparesAudience name hspares]
    exact ⟨m, List.prefix_rfl, stepHeld_kept_of_sparesAudience act hm hspares hquiet⟩
  cases op with
  | subscribe other onSession onError =>
    have hsink : (Sink.callbacks onSession onError).every (Operation.standsBy name) = true := by
      rw [Operation.every, Bool.and_assoc, Bool.and_eq_true] at hstands
      exact hstands.2
    rw [Operation.without]
    exact ⟨_, List.prefix_append m [true],
      subscribe_kept hm (by simpa [Operation.isAbout] using habout) hsink false _⟩
  | subscribeChannel other =>
    have hsink : (Sink.channel [] true).every (Operation.standsBy name) = true := rfl
    simp only [Operation.without]
    exact ⟨_, List.prefix_append m [true],
      subscribe_kept hm (by simpa [Operation.isAbout] using habout) hsink true _⟩
  | unsubscribe other =>
    have hother : other ≠ name := by simpa [Operation.isAbout] using habout
    have hlookup : (h.without name m log).subscriptions.lookup other = _ :=
      lookup_retable h.subscriptions hother
    refine ⟨m, List.prefix_rfl, ?_⟩
    simp only [Operation.without, stepHeld, hlookup]
    rcases hn : h.subscriptions.lookup other with _ | n
    · exact ⟨hm, rfl, fun _ => .same rfl⟩
    · have hmarked := hm.subscriptions.marked hother hn
      refine ⟨⟨hm.router.deactivate n, hm.subscriptions.unname other, hm.receivers⟩, ?_,
        fun _ => .same rfl⟩
      simp only [Option.map_some, router_without, Router.deactivate_kept hmarked]
      rw [without_eq, retable_unname]
      rfl
  | forget other =>
    refine ⟨m, List.prefix_rfl, ⟨hm.router, hm.subscriptions.unname other, hm.receivers⟩, ?_,
      fun _ => .same rfl⟩
    have hnames : retable name m (unname other h.subscriptions) = _ :=
      retable_unname h.subscriptions
    simp only [Operation.without, stepHeld]
    exact congrArg (fun subscriptions => { h.without name m log with subscriptions }) hnames.symm
  | dropReceiver other =>
    have hother : other ≠ name := by simpa [Operation.isAbout] using habout
    refine ⟨m, List.prefix_rfl, hm.dropReceiver other, ?_, fun _ => .same rfl⟩
    simp only [Operation.without, stepHeld, dropReceiver_kept hm hother]
  | isActive other =>
    have hother : other ≠ name := by simpa [Operation.isAbout] using habout
    have hlookup : (h.without name m log).subscriptions.lookup other = _ :=
      lookup_retable h.subscriptions hother
    refine ⟨m, List.prefix_rfl, hm, by simp only [Operation.without, stepHeld], fun _ => ?_⟩
    have hactive : (stepHeld act (h.without name m log) (.isActive other)).1 =
        (stepHeld act h (.isActive other)).1 := by
      simp only [stepHeld, hlookup]
      rcases hn : h.subscriptions.lookup other with _ | n
      · rfl
      · have hmarked := hm.subscriptions.marked hother hn
        simp only [Option.map_some, router_without, Router.isActive_kept hmarked]
    simp only [Operation.without, hactive]
    exact .same rfl
  | receive other =>
    have hother : other ≠ name := by simpa [Operation.isAbout] using habout
    have hlookup : (h.without name m log).receivers.lookup other = _ :=
      lookup_retable h.receivers hother
    refine ⟨m, List.prefix_rfl, ?_⟩
    simp only [Operation.without, stepHeld, hlookup]
    rcases hn : h.receivers.lookup other with _ | n
    · exact ⟨hm, rfl, fun _ => .same rfl⟩
    · have hmarked := hm.receivers.marked hother hn
      simp only [Option.map_some, router_without, Router.receive_kept hmarked]
      exact ⟨⟨hm.router.receive n, hm.subscriptions, hm.receivers⟩, rfl, fun _ => .same rfl⟩
  | subscriberCount =>
    refine ⟨m, List.prefix_rfl, hm, ?_, fun h => absurd rfl h⟩
    simp only [Operation.without, stepHeld]
  | close =>
    refine ⟨m, List.prefix_rfl, ⟨hm.router.close, hm.subscriptions, hm.receivers⟩, ?_,
      fun _ => .same rfl⟩
    simp only [Operation.without, stepHeld, router_without, Router.close_without]
    rfl
  | _ => exact absurd rfl hspares

/-- What gives no number does not show if the host without its bystanders stays the same. -/
theorem hides_of_without {result : Answer × Host} (hm : Marks name m result.2)
    (hhost : result.2.without name m log = h.without name m log)
    (ha : result.1.subscribed? = none) : Hides name m m log h result :=
  ⟨hm, hhost, fun n active hgiven => by
    rw [hgiven] at ha
    cases ha⟩

/-- An operation about bystanders does not show. -/
theorem stepHeld_hidden (hm : Marks name m h) (log : List LogEntry) {op : Operation}
    (habout : op.isAbout name = true) (hstands : op.every (Operation.standsBy name) = true) :
    ∃ m', m <+: m' ∧ Hides name m m' log h (stepHeld act h op) := by
  cases op with
  | subscribe other onSession onError =>
    obtain rfl : other = name := beq_iff_eq.mp habout
    have hsink := Bool.and_eq_true_iff.mpr
      (Operation.standsBy_subscribe (Operation.every.self hstands) rfl)
    have hevery : (Sink.callbacks onSession onError).every (Operation.standsBy other) = true := by
      rw [Operation.every, Bool.and_assoc, Bool.and_eq_true] at hstands
      exact hstands.2
    exact ⟨_, List.prefix_append m [false], subscribe_hidden hm _ hevery hsink false⟩
  | subscribeChannel other =>
    obtain rfl : other = name := beq_iff_eq.mp habout
    exact ⟨_, List.prefix_append m [false],
      subscribe_hidden hm (.channel [] true) rfl rfl true⟩
  | unsubscribe other =>
    obtain rfl : other = name := beq_iff_eq.mp habout
    refine ⟨m, List.prefix_rfl, ?_⟩
    simp only [stepHeld]
    split
    · exact hides_of_without hm rfl rfl
    · next n hn =>
      refine hides_of_without
        ⟨hm.router.deactivate n, hm.subscriptions.unname other, hm.receivers⟩ ?_ rfl
      rw [without_eq, Router.deactivate_hidden (hm.subscriptions.unmarked hn), retable_unname_self]
      rfl
  | forget other =>
    obtain rfl : other = name := beq_iff_eq.mp habout
    have hnames : retable other m (unname other h.subscriptions) = _ :=
      retable_unname_self h.subscriptions
    exact ⟨m, List.prefix_rfl, hides_of_without
      ⟨hm.router, hm.subscriptions.unname other, hm.receivers⟩
      (congrArg (fun subscriptions => { h.without other m log with subscriptions }) hnames) rfl⟩
  | dropReceiver other =>
    obtain rfl : other = name := beq_iff_eq.mp habout
    exact ⟨m, List.prefix_rfl,
      hides_of_without (hm.dropReceiver other) (dropReceiver_hidden hm) rfl⟩
  | isActive other => exact ⟨m, List.prefix_rfl, hides_of_without hm rfl rfl⟩
  | receive other =>
    obtain rfl : other = name := beq_iff_eq.mp habout
    refine ⟨m, List.prefix_rfl, ?_⟩
    simp only [stepHeld]
    split
    · exact hides_of_without hm rfl rfl
    · next n hn =>
      have htaken : (h.router.receive n).2.without other m = h.router.without other m :=
        Router.receive_hidden (hm.receivers.unmarked hn)
      exact hides_of_without ⟨hm.router.receive n, hm.subscriptions, hm.receivers⟩
        (congrArg (h.without other m log).withRouter htaken) rfl
  | _ => cases habout

end Host

end ChatRouting
