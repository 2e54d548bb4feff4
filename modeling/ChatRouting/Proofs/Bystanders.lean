import ChatRouting.Proofs.Callbacks
import ChatRouting.Proofs.Marked
import ChatRouting.Proofs.Redaction
import ChatRouting.Proofs.Table

/-!
# Bystanders

A *bystander* is a subscriber that only watches: it is a channel, or its callbacks do nothing but
ask for things and break off. Bystanders are subscribed under a name. The operations about that name
can be left out of a list of operations, and of the callbacks that are subscribed by the others.

A router without its bystanders has the other subscribers only. These have other numbers there, but
are in the same order. What is done to one of them is done to it in both routers, and what is done
to a bystander does not show in the router without it.

## Main definitions

* `Operation.isAbout`, `Operation.onlyAsks`, `Operation.standsBy`
* `Operation.without`, `Operation.planWithout`: operations without those about a name
* `Router.without`: the router without its bystanders
* `Router.Marks`: the subscribers that are not marked are bystanders

## Main results

* `Operation.planBacklog_without`: operations about bystanders queue no events
* `Router.subscribe_kept`, `Router.modify_kept` and so on: what is done to the others
* `Router.subscribe_hidden`, `Router.modify_hidden` and so on: what is done to a bystander
-/

namespace ChatRouting

open Marked (keep rank renumber)

/-! ### Operations -/

namespace Operation

/-- The operation is about the subscription or the receiver under a name. -/
def isAbout (name : String) : Operation → Bool
  | subscribe other _ _ | subscribeChannel other | unsubscribe other | forget other
  | dropReceiver other | isActive other | receive other => other == name
  | _ => false

/-- The operation changes nothing. A callback that breaks off changes nothing either. -/
def onlyAsks : Operation → Bool
  | isActive _ | subscriberCount | hasSession _ | session _ | sessions | isClosed | isDelivering
  | identity | friendKey _ | groupKey _ | friendIds | groupIds | conversationId _ | poll _ | wait _
  | unreadable _ _ | panic => true
  | _ => false

/-- Callbacks that are subscribed under a name only ask. -/
def standsBy (name : String) : Operation → Bool
  | subscribe other onSession onError =>
    other != name || (plansEvery onlyAsks onSession && plansEvery onlyAsks onError)
  | _ => true

mutual
/-- The operation, whose callbacks do without the operations about a name. -/
def without (name : String) : Operation → Operation
  | subscribe other onSession onError =>
    subscribe other (plansWithout name onSession) (plansWithout name onError)
  | op => op

/-- The operations of one delivery that are not about a name. -/
def planWithout (name : String) : List Operation → List Operation
  | [] => []
  | op :: rest =>
    if op.isAbout name then planWithout name rest else op.without name :: planWithout name rest

/-- The operations of some deliveries in a row that are not about a name. -/
def turnsWithout (name : String) : Repeated (List Operation) → Repeated (List Operation)
  | { item, times } => { item := planWithout name item, times }

/-- The operations of all deliveries that are not about a name. -/
def plansWithout (name : String) :
    List (Repeated (List Operation)) → List (Repeated (List Operation))
  | [] => []
  | turns :: rest => turnsWithout name turns :: plansWithout name rest
end

variable {name : String}

theorem planWithout_cons_of_about {op : Operation} (h : op.isAbout name = true)
    (rest : List Operation) : planWithout name (op :: rest) = planWithout name rest := by
  rw [planWithout, if_pos h]

theorem planWithout_cons {op : Operation} (h : op.isAbout name = false) (rest : List Operation) :
    planWithout name (op :: rest) = op.without name :: planWithout name rest := by
  rw [planWithout, if_neg (Bool.eq_false_iff.mp h)]

theorem planWithout_append (plan plan' : List Operation) :
    planWithout name (plan ++ plan') = planWithout name plan ++ planWithout name plan' := by
  induction plan with
  | nil => rw [planWithout, List.nil_append, List.nil_append]
  | cons op rest ih =>
    cases h : op.isAbout name with
    | true => rw [List.cons_append, planWithout_cons_of_about h, planWithout_cons_of_about h, ih]
    | false => rw [List.cons_append, planWithout_cons h, planWithout_cons h, ih, List.cons_append]

theorem plansWithout_eq_map (plans : List (Repeated (List Operation))) :
    plansWithout name plans = plans.map (Repeated.map (planWithout name)) := by
  induction plans with
  | nil => rw [plansWithout, List.map_nil]
  | cons turns rest ih =>
    rw [plansWithout, turnsWithout.eq_def, ih]
    rfl

theorem planEvery_append {kind : Operation → Bool} (plan plan' : List Operation) :
    planEvery kind (plan ++ plan') = (planEvery kind plan && planEvery kind plan') := by
  induction plan with
  | nil => rw [planEvery, List.nil_append, Bool.true_and]
  | cons op rest ih => rw [List.cons_append, planEvery, planEvery, ih, Bool.and_assoc]

theorem needsEndpoint_without (op : Operation) :
    (op.without name).needsEndpoint = op.needsEndpoint := by
  cases op <;> simp only [without, needsEndpoint]

theorem without_eq_panic_iff {op : Operation} : op.without name = panic ↔ op = panic := by
  cases op <;> simp [without]

mutual
/-- Callbacks that have no operation about a name stay as they are. -/
theorem without_of_every (op : Operation) (h : op.every (fun op => !op.isAbout name) = true) :
    op.without name = op := by
  cases op with
  | subscribe other onSession onError =>
    rw [every, Bool.and_eq_true, Bool.and_eq_true] at h
    rw [without, plansWithout_of_every onSession h.1.2, plansWithout_of_every onError h.2]
  | _ => rw [without]; simp

theorem planWithout_of_every (plan : List Operation)
    (h : planEvery (fun op => !op.isAbout name) plan = true) : planWithout name plan = plan := by
  cases plan with
  | nil => rw [planWithout]
  | cons op rest =>
    rw [planEvery, Bool.and_eq_true] at h
    have habout : op.isAbout name = false := by simpa using every.self h.1
    rw [planWithout_cons habout, without_of_every op h.1, planWithout_of_every rest h.2]

theorem turnsWithout_of_every (turns : Repeated (List Operation))
    (h : turnsEvery (fun op => !op.isAbout name) turns = true) :
    turnsWithout name turns = turns := by
  cases turns with
  | mk item times =>
    rw [turnsEvery] at h
    rw [turnsWithout, planWithout_of_every item h]

theorem plansWithout_of_every (plans : List (Repeated (List Operation)))
    (h : plansEvery (fun op => !op.isAbout name) plans = true) :
    plansWithout name plans = plans := by
  cases plans with
  | nil => rw [plansWithout]
  | cons turns rest =>
    rw [plansEvery, Bool.and_eq_true] at h
    rw [plansWithout, turnsWithout_of_every turns h.1, plansWithout_of_every rest h.2]
end

/-! ### What operations can queue -/

theorem planBacklog_of_onlyAsks {plan : List Operation} (h : planEvery onlyAsks plan = true) :
    planBacklog plan = 0 := by
  induction plan with
  | nil => rw [planBacklog]
  | cons op rest ih =>
    rw [planEvery, Bool.and_eq_true] at h
    have hop : op.backlog = 0 := by
      have hasks := every.self h.1
      cases op with
      | handle | queue | queueMessage | queueError | subscribe => cases hasks
      | _ => simp only [backlog]
    rw [planBacklog, hop, ih h.2]

/-- Callbacks that only ask queue nothing. -/
theorem plansBacklog_of_onlyAsks {plans : List (Repeated (List Operation))}
    (h : plansEvery onlyAsks plans = true) : plansBacklog plans = 0 := by
  induction plans with
  | nil => rw [plansBacklog]
  | cons turns rest ih =>
    obtain ⟨item, times⟩ := turns
    rw [plansEvery, turnsEvery, Bool.and_eq_true] at h
    rw [plansBacklog, turnsBacklog, planBacklog_of_onlyAsks h.1, ih h.2, Nat.mul_zero]

theorem standsBy_subscribe {other : String} {onSession onError : List (Repeated (List Operation))}
    (h : (subscribe other onSession onError).standsBy name = true) (hother : other = name) :
    plansEvery onlyAsks onSession = true ∧ plansEvery onlyAsks onError = true := by
  rw [standsBy, hother, bne_self_eq_false, Bool.false_or, Bool.and_eq_true] at h
  exact h

theorem backlog_of_about {op : Operation} (habout : op.isAbout name = true)
    (h : op.every (standsBy name) = true) : op.backlog = 0 := by
  cases op with
  | subscribe other onSession onError =>
    obtain ⟨hsession, herror⟩ := standsBy_subscribe (every.self h) (beq_iff_eq.mp habout)
    rw [backlog, plansBacklog_of_onlyAsks hsession, plansBacklog_of_onlyAsks herror]
  | handle | queue | queueMessage | queueError => cases habout
  | _ => simp only [backlog]

mutual
/-- Callbacks queue as much without the operations about bystanders. -/
theorem backlog_without (op : Operation) (h : op.every (standsBy name) = true) :
    (op.without name).backlog = op.backlog := by
  cases op with
  | subscribe other onSession onError =>
    rw [every, Bool.and_eq_true, Bool.and_eq_true] at h
    rw [without, backlog, backlog, plansBacklog_without onSession h.1.2,
      plansBacklog_without onError h.2]
  | _ => rw [without]; simp

theorem planBacklog_without (plan : List Operation) (h : planEvery (standsBy name) plan = true) :
    planBacklog (planWithout name plan) = planBacklog plan := by
  cases plan with
  | nil => rw [planWithout]
  | cons op rest =>
    rw [planEvery, Bool.and_eq_true] at h
    cases habout : op.isAbout name with
    | true =>
      rw [planWithout_cons_of_about habout, planBacklog_without rest h.2, planBacklog,
        backlog_of_about habout h.1, Nat.zero_add]
    | false =>
      rw [planWithout_cons habout, planBacklog, planBacklog, backlog_without op h.1,
        planBacklog_without rest h.2]

theorem turnsBacklog_without (turns : Repeated (List Operation))
    (h : turnsEvery (standsBy name) turns = true) :
    turnsBacklog (turnsWithout name turns) = turnsBacklog turns := by
  cases turns with
  | mk item times =>
    rw [turnsEvery] at h
    rw [turnsWithout, turnsBacklog, turnsBacklog, planBacklog_without item h]

theorem plansBacklog_without (plans : List (Repeated (List Operation)))
    (h : plansEvery (standsBy name) plans = true) :
    plansBacklog (plansWithout name plans) = plansBacklog plans := by
  cases plans with
  | nil => rw [plansWithout]
  | cons turns rest =>
    rw [plansEvery, Bool.and_eq_true] at h
    rw [plansWithout, plansBacklog, plansBacklog, turnsBacklog_without turns h.1,
      plansBacklog_without rest h.2]
end

end Operation

/-! ### Turns -/

/-- Callbacks without the operations about a name. -/
def Sink.without (name : String) : Sink → Sink
  | callbacks onSession onError =>
    callbacks (Operation.plansWithout name onSession) (Operation.plansWithout name onError)
  | channel waiting attached => channel waiting attached

/-- The subscriber, whose callbacks do without the operations about a name. -/
def Subscriber.without (name : String) (s : Subscriber) : Subscriber :=
  { s with sink := s.sink.without name }

namespace Host

theorem nextTurn_without (name : String) (turns : List (Repeated (List Operation))) :
    nextTurn (Operation.plansWithout name turns) =
      (Operation.planWithout name (nextTurn turns).1,
        Operation.plansWithout name (nextTurn turns).2) := by
  rw [nextTurn, nextTurn, Operation.plansWithout_eq_map, Repeated.next?_map]
  cases Repeated.next? turns with
  | none =>
    rw [Option.map_none, Option.getD_none]
    simp only [Operation.planWithout, Operation.plansWithout]
  | some next => exact congrArg (Prod.mk _) (Operation.plansWithout_eq_map next.2).symm

theorem nextPlan_without (name : String) (n : Notification)
    (onSession onError : List (Repeated (List Operation))) :
    nextPlan n (Operation.plansWithout name onSession) (Operation.plansWithout name onError) =
      (Operation.planWithout name (nextPlan n onSession onError).1,
        (nextPlan n onSession onError).2.without name) := by
  cases n with
  | sessionUpdated s m => simp only [nextPlan, nextTurn_without, Sink.without]
  | errorRaised n => simp only [nextPlan, nextTurn_without, Sink.without]

theorem sinkBacklog_without {name : String} {sink : Sink}
    (h : sink.every (Operation.standsBy name) = true) :
    sinkBacklog (sink.without name) = sinkBacklog sink := by
  cases sink with
  | callbacks onSession onError =>
    rw [Sink.every, Bool.and_eq_true] at h
    rw [Sink.without, sinkBacklog, sinkBacklog, Operation.plansBacklog_without onSession h.1,
      Operation.plansBacklog_without onError h.2]
  | channel => rfl

theorem sinkBacklog_of_onlyAsks {sink : Sink} (h : sink.every Operation.onlyAsks = true) :
    sinkBacklog sink = 0 := by
  cases sink with
  | callbacks onSession onError =>
    rw [Sink.every, Bool.and_eq_true] at h
    rw [sinkBacklog, Operation.plansBacklog_of_onlyAsks h.1,
      Operation.plansBacklog_of_onlyAsks h.2]
  | channel => rfl

end Host

/-! ### The router -/

namespace Router

/-- The router with the subscribers that are marked, whose callbacks do without the operations about
a name. -/
def without (name : String) (m : List Bool) (r : Router) : Router :=
  { r with
    subscribers := (keep m r.subscribers).map (Subscriber.without name)
    listed := renumber m r.listed }

/-- The subscribers of a router are marked, and those that are not are bystanders. -/
structure Marks (name : String) (m : List Bool) (r : Router) : Prop where
  length : m.length = r.subscribers.length
  listed : ∀ n ∈ r.listed, n < m.length
  callbacks : ∀ (n : Nat) (s : Subscriber), r.subscribers[n]? = some s →
    s.sink.every (Operation.standsBy name) = true ∧
      (m[n]? = some false → s.sink.every Operation.onlyAsks = true)

variable {name : String} {m : List Bool} {r r' : Router} {n : Nat}

theorem getElem?_without (hn : m[n]? = some true) :
    (r.without name m).subscribers[rank m n]? =
      r.subscribers[n]?.map (Subscriber.without name) := by
  rw [without, List.getElem?_map, Marked.getElem?_keep hn]

/-! #### Marks -/

namespace Marks

/-- A subscriber changes, whose callbacks are of the kinds that they were. -/
theorem modify (hm : Marks name m r) {f : Subscriber → Subscriber}
    (hf : ∀ (kind : Operation → Bool) (s : Subscriber), r.subscribers[n]? = some s →
      s.sink.every kind = true → (f s).sink.every kind = true) : Marks name m (r.modify n f) where
  length := hm.length.trans (r.length_modify n f).symm
  listed := hm.listed
  callbacks k s hs := by
    rw [Router.modify, List.getElem?_modify] at hs
    obtain ⟨s₀, hs₀, rfl⟩ := Option.map_eq_some_iff.mp hs
    obtain ⟨hstands, hasks⟩ := hm.callbacks k s₀ hs₀
    by_cases hkn : n = k
    · subst hkn
      rw [if_pos rfl]
      exact ⟨hf _ s₀ hs₀ hstands, fun hn => hf _ s₀ hs₀ (hasks hn)⟩
    · rw [if_neg hkn]
      exact ⟨hstands, hasks⟩

/-- The sink of a subscriber changes, and its callbacks are of the kinds that they were. -/
theorem turn (hm : Marks name m r) {s : Subscriber} (hs : r.subscribers[n]? = some s) {sink : Sink}
    (hsink : ∀ kind, s.sink.every kind = true → sink.every kind = true) :
    Marks name m (r.modify n fun s => { s with sink }) :=
  hm.modify fun kind _ hs' hkind => by
    cases hs.symm.trans hs'
    exact hsink kind hkind

/-- No callbacks are new. -/
theorem of_calms (hm : Marks name m r) (hcalms : r.Calms r')
    (hlisted : ∀ n ∈ r'.listed, n ∈ r.listed) : Marks name m r' := by
  have hall (ss : List Subscriber) (hss : Relation.ReflTransGen CalmsOne r.subscribers ss) :
      Marks name m { r with subscribers := ss } := by
    induction hss with
    | refl => exact hm
    | tail _ hstep ih =>
      obtain ⟨n, f, hf, rfl⟩ := hstep
      exact ih.modify (n := n) fun kind s _ hs => (hf s).every hs
  have hend := hall r'.subscribers hcalms
  exact ⟨hend.length, fun n hn => hm.listed n (hlisted n hn), hend.callbacks⟩

theorem dropReceiver (hm : Marks name m r) (n : Nat) : Marks name m (r.dropReceiver n) :=
  hm.of_calms (r.calms_dropReceiver n) fun _ hk => hk

theorem receive (hm : Marks name m r) (n : Nat) : Marks name m (r.receive n).2 :=
  hm.of_calms (r.calms_receive n) fun _ hk => r.listed_receive n ▸ hk

theorem deactivate (hm : Marks name m r) (n : Nat) : Marks name m (r.deactivate n) :=
  hm.of_calms (r.calms_deactivate n) fun _ hk => (List.mem_filter.mp hk).1

theorem close (hm : Marks name m r) : Marks name m r.close :=
  hm.of_calms r.calms_close fun k hk => by
    rw [r.listed_close] at hk
    cases hk

/-- Somebody subscribes, and is marked if it is no bystander. -/
theorem subscribe (hm : Marks name m r) {sink : Sink} (mark : Bool)
    (hstands : sink.every (Operation.standsBy name) = true)
    (hasks : mark = false → sink.every Operation.onlyAsks = true) :
    Marks name (m ++ [mark]) (r.subscribe sink).2 where
  length := by
    rw [Router.subscribe, List.length_append, List.length_append, hm.length]
    rfl
  listed n hn := by
    have hold (hn : n ∈ r.listed) : n < m.length + 1 := Nat.lt_succ_of_lt (hm.listed n hn)
    rw [List.length_append, List.length_singleton]
    rw [Router.subscribe] at hn
    split_ifs at hn
    · exact hold hn
    · rcases List.mem_append.mp hn with hn | hn
      · exact hold hn
      · rw [List.mem_singleton.mp hn, hm.length]
        exact Nat.lt_succ_self _
  callbacks n s hs := by
    rw [Router.subscribe] at hs
    rcases Nat.lt_or_ge n r.subscribers.length with hlt | hge
    · rw [List.getElem?_append_left hlt] at hs
      rw [List.getElem?_append_left (hm.length ▸ hlt)]
      exact hm.callbacks n s hs
    · rw [List.getElem?_append_right hge, List.getElem?_singleton] at hs
      split_ifs at hs with hzero
      obtain rfl : n = m.length := hm.length ▸ Nat.le_antisymm (Nat.le_of_sub_eq_zero hzero) hge
      cases hs
      rw [List.getElem?_concat_length]
      exact ⟨hstands, fun hmark => hasks (Option.some.inj hmark)⟩

end Marks

/-- Callbacks queue as much without the bystanders. -/
theorem backlog_without (hm : Marks name m r) :
    Host.backlog (r.without name m).subscribers = Host.backlog r.subscribers := by
  have hall (m : List Bool) (ss : List Subscriber) (hlength : m.length = ss.length)
      (hss : ∀ (n : Nat) (s : Subscriber), ss[n]? = some s →
        s.sink.every (Operation.standsBy name) = true ∧
          (m[n]? = some false → s.sink.every Operation.onlyAsks = true)) :
      Host.backlog ((keep m ss).map (Subscriber.without name)) = Host.backlog ss := by
    induction m generalizing ss with
    | nil =>
      obtain rfl := List.length_eq_zero_iff.mp hlength.symm
      rfl
    | cons b m ih =>
      cases ss with
      | nil => cases hlength
      | cons s ss =>
        have hrest := ih ss (Nat.succ.inj hlength) fun n => hss (n + 1)
        obtain ⟨hstands, hasks⟩ := hss 0 s rfl
        cases b with
        | false =>
          rw [keep, hrest, Host.backlog, Host.sinkBacklog_of_onlyAsks (hasks rfl), Nat.zero_add]
        | true =>
          rw [keep, List.map_cons, Host.backlog, Host.backlog, hrest]
          exact congrArg (· + Host.backlog ss) (Host.sinkBacklog_without hstands)
  exact hall m r.subscribers hm.length hm.callbacks

/-! #### Subscribing -/

/-- Somebody else subscribes. -/
theorem subscribe_kept (hm : Marks name m r) (sink : Sink) :
    (r.without name m).subscribe (sink.without name) =
      (rank m r.subscribers.length, (r.subscribe sink).2.without name (m ++ [true])) := by
  have hnumber : ((keep m r.subscribers).map (Subscriber.without name)).length =
      rank m r.subscribers.length := by
    rw [List.length_map, Marked.length_keep hm.length]
  have hmarked : (m ++ [true])[r.subscribers.length]? = some true := by
    rw [← hm.length, List.getElem?_concat_length]
  have hrank : rank (m ++ [true]) r.subscribers.length = rank m r.subscribers.length :=
    Marked.rank_append (Nat.le_of_eq hm.length.symm)
  have hsubscribers : keep (m ++ [true]) (r.subscribers ++ [{ active := !r.closed, sink }]) =
      keep m r.subscribers ++ [{ active := !r.closed, sink }] :=
    Marked.keep_append hm.length
  have hnew : renumber (m ++ [true]) (r.listed ++ [r.subscribers.length]) =
      renumber m r.listed ++ [rank m r.subscribers.length] := by
    rw [Marked.renumber_append, Marked.renumber_extend hm.listed,
      Marked.renumber_cons_of_marked hmarked, hrank]
    rfl
  simp only [subscribe, without, hnumber, hsubscribers, List.map_append, List.map_cons,
    List.map_nil, Subscriber.without]
  split_ifs
  · rw [Marked.renumber_extend hm.listed]
  · rw [hnew]

/-- A bystander subscribes. -/
theorem subscribe_hidden (hm : Marks name m r) (sink : Sink) :
    (r.subscribe sink).2.without name (m ++ [false]) = r.without name m := by
  have hunmarked : (m ++ [false])[r.subscribers.length]? ≠ some true := by
    rw [← hm.length, List.getElem?_concat_length]
    decide
  have hsubscribers : keep (m ++ [false]) (r.subscribers ++ [{ active := !r.closed, sink }]) =
      keep m r.subscribers := by
    rw [Marked.keep_append hm.length]
    exact List.append_nil _
  have hnew : renumber (m ++ [false]) (r.listed ++ [r.subscribers.length]) =
      renumber m r.listed := by
    rw [Marked.renumber_append, Marked.renumber_extend hm.listed,
      Marked.renumber_cons_of_unmarked hunmarked]
    exact List.append_nil _
  simp only [subscribe, without, hsubscribers]
  split_ifs
  · rw [Marked.renumber_extend hm.listed]
  · rw [hnew]

/-! #### Changes of a subscriber -/

/-- Another subscriber changes. -/
theorem modify_kept (hn : m[n]? = some true) {f g : Subscriber → Subscriber}
    (hf : ∀ s : Subscriber, g (s.without name) = (f s).without name) :
    (r.without name m).modify (rank m n) g = (r.modify n f).without name m := by
  rw [modify, modify, without, without, modify_map hf, Marked.keep_modify_of_marked hn]

/-- A bystander changes. -/
theorem modify_hidden (hn : m[n]? ≠ some true) (f : Subscriber → Subscriber) :
    (r.modify n f).without name m = r.without name m := by
  rw [modify, without, without, Marked.keep_modify_of_unmarked hn]

theorem isActive_kept (hn : m[n]? = some true) :
    (r.without name m).isActive (rank m n) = r.isActive n := by
  rw [isActive, isActive, getElem?_without hn, Option.any_map]
  rfl

theorem deactivate_kept (hn : m[n]? = some true) :
    (r.without name m).deactivate (rank m n) = (r.deactivate n).without name m := by
  have hmodify : (r.without name m).modify (rank m n) (fun s => { s with active := false }) =
      (r.modify n fun s => { s with active := false }).without name m :=
    modify_kept hn fun _ => rfl
  have hlisted := Marked.renumber_without_marked hn r.listed
  rw [deactivate, deactivate, hmodify]
  exact congrArg (fun listed => { (r.modify n fun s => { s with active := false }).without name m
    with listed }) hlisted.symm

theorem deactivate_hidden (hn : m[n]? ≠ some true) :
    (r.deactivate n).without name m = r.without name m := by
  have hmodify : (r.modify n fun s => { s with active := false }).without name m =
      r.without name m := modify_hidden hn _
  have hlisted := Marked.renumber_without_unmarked hn r.listed
  rw [← hmodify]
  exact congrArg (fun listed => { (r.modify n fun s => { s with active := false }).without name m
    with listed }) hlisted

theorem dropReceiver_kept (hn : m[n]? = some true) :
    (r.without name m).dropReceiver (rank m n) = (r.dropReceiver n).without name m := by
  refine modify_kept hn fun s => ?_
  obtain ⟨active, sink⟩ := s
  cases sink with
  | callbacks | channel => rfl

theorem dropReceiver_hidden (hn : m[n]? ≠ some true) :
    (r.dropReceiver n).without name m = r.without name m :=
  modify_hidden hn _

theorem receive_kept (hn : m[n]? = some true) :
    (r.without name m).receive (rank m n) =
      ((r.receive n).1, (r.receive n).2.without name m) := by
  rw [receive, receive, getElem?_without hn]
  cases r.subscribers[n]? with
  | none => rfl
  | some s =>
    obtain ⟨active, sink⟩ := s
    cases sink with
    | callbacks => rfl
    | channel waiting attached =>
      cases attached with
      | false => rfl
      | true => exact Prod.ext rfl (modify_kept hn fun _ => rfl)

theorem receive_hidden (hn : m[n]? ≠ some true) :
    (r.receive n).2.without name m = r.without name m := by
  rw [receive]
  split
  · exact modify_hidden hn _
  · rfl

theorem foldl_deactivate_without (ns : List Nat) (r : Router) :
    (renumber m ns).foldl deactivate (r.without name m) =
      (ns.foldl deactivate r).without name m := by
  induction ns generalizing r with
  | nil => rfl
  | cons n ns ih =>
    by_cases hn : m[n]? = some true
    · rw [Marked.renumber_cons_of_marked hn, List.foldl_cons, List.foldl_cons, deactivate_kept hn,
        ih]
    · rw [Marked.renumber_cons_of_unmarked hn, List.foldl_cons, ← ih, deactivate_hidden hn]

theorem close_without : (r.without name m).close = r.close.without name m :=
  congrArg (fun r : Router => { r with closed := true }) (foldl_deactivate_without r.listed r)

/-! #### Events -/

/-- Events are judged in the same way without the bystanders. -/
theorem classify_without (event : InboundEvent) (localId : String) (peer : Option String) :
    (r.without name m).classify event localId peer =
      ((r.classify event localId peer).1, (r.classify event localId peer).2.without name m) := by
  cases event with
  | transportError message timestamp => rfl
  | message message =>
    have hecho : (r.without name m).dropsEcho message localId = r.dropsEcho message localId := rfl
    have haccept : (r.without name m).accept message localId peer =
        ((r.accept message localId peer).1, (r.accept message localId peer).2.without name m) := by
      have htarget : (r.without name m).targetOf message localId peer =
          r.targetOf message localId peer := rfl
      rw [accept, accept, htarget]
      rcases message.check, r.targetOf message localId peer with ⟨_ | _, _ | _⟩
      · rfl
      · rfl
      · rfl
      · rfl
    unfold classify
    simp only [hecho, haccept]
    split_ifs
    · rfl
    · rcases r.accept message localId peer with ⟨_ | s, r'⟩
      · rfl
      · rfl

end Router

end ChatRouting
