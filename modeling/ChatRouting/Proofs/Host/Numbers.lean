import ChatRouting.Proofs.Endpoint.Requests
import ChatRouting.Proofs.Host.JoinHistory
import ChatRouting.Proofs.Host.Moments
import ChatRouting.Proofs.Subscribers

/-!
# The numbers that operations give

The host gives numbers to subscribers and to handles, each in order. A subscriber gets the next
number, and the host keeps names only for numbers that were given. A join that is requested is on
a handle that is returned by the same operation, and a handle that is returned for a conversation
is on a request to join.

All other operations pass this by: they change the subscribers without a new one, or they change the
endpoint *aside* from its subscribers and from joins.

## Main definitions

* `Endpoint.Aside`
* `Host.Gives`: what an operation gives
* `Host.Returned`: the handles on requests to join

## Main results

* `Host.step_gives`
* `Host.Leads.numbers`, `Host.Leads.returned`: what is given on the way
-/

namespace ChatRouting

theorem KeyRing.Learns.ne_join {k k' : KeyRing} {r : Request} (h : k.Learns r k')
    (target : Target) : r ≠ target.join := by
  cases h with
  | nickname | pair | friend | group => cases target <;> exact Request.noConfusion

namespace Endpoint

/-- The endpoint changes aside from its subscribers, and no request to join is new. -/
structure Aside (e e' : Endpoint) : Prop where
  router : ∃ registry, e'.router = { e.router with registry }
  quiet : ∀ (n : Nat) (target : Target),
    e'.transport.request? n = some target.join → e.transport.request? n = some target.join

variable {e e' : Endpoint}

theorem Aside.refl (e : Endpoint) : Aside e e :=
  ⟨⟨_, rfl⟩, fun _ _ h => h⟩

/-- The requests stay as they are. -/
theorem aside_of_requests (hr : ∃ registry, e'.router = { e.router with registry })
    (hrequests : e'.transport.requests = e.transport.requests) : Aside e e' where
  router := hr
  quiet n target h := by rwa [Transport.request?_eq, hrequests, ← Transport.request?_eq] at h

section

variable (e)

theorem aside_tell (keys : KeyRing) {r : Request} (hr : ∀ target : Target, r ≠ target.join) :
    Aside e ({ e with keys }.tell r) where
  router := ⟨_, rfl⟩
  quiet n target h := by
    rcases (Transport.request?_of_requests_eq (e.transport.requests_issue r)).mp h with h | ⟨-, h⟩
    · exact h
    · exact absurd h.symm (hr target)

theorem aside_setNickname (nickname : String) : Aside e (e.setNickname nickname).2 := by
  rw [setNickname]
  split
  · exact .refl e
  · exact e.aside_tell _ (KeyRing.Learns.nickname ‹_›).ne_join

theorem aside_setLocalId (id : String) : Aside e (e.setLocalId id).2 := by
  rw [setLocalId]
  split_ifs
  · exact .refl e
  · exact ⟨⟨_, rfl⟩, fun _ _ h => h⟩

theorem aside_setKeyPair (pair : KeyPair) : Aside e (e.setKeyPair pair).2 := by
  rw [setKeyPair]
  split
  · exact .refl e
  · exact e.aside_tell _ (KeyRing.Learns.pair ‹_›).ne_join

theorem aside_addFriend (key : FriendKey) : Aside e (e.addFriend key).2 := by
  rw [addFriend]
  split
  · exact .refl e
  · exact e.aside_tell _ (KeyRing.Learns.friend ‹_›).ne_join

theorem aside_addGroup (key : GroupKey) : Aside e (e.addGroup key).2 := by
  rw [addGroup]
  split
  · exact .refl e
  · exact e.aside_tell _ (KeyRing.Learns.group ‹_›).ne_join

theorem aside_send (target : Target) (plaintext : String) :
    Aside e (e.send target plaintext).2 := by
  rw [send]
  split
  · exact .refl e
  · next hr =>
    obtain ⟨_, _, _, rfl⟩ := sendRequest_inv hr
    exact e.aside_tell e.keys fun other => other.join_ne_message _ _

theorem aside_sendToSession (id plaintext : String) :
    Aside e (e.sendToSession id plaintext).2 := by
  rw [sendToSession]
  split
  · exact .refl e
  · exact e.aside_send _ plaintext

theorem joinOnce_quiet (id : String) (target : Target) {n : Nat} {other : Target}
    (h : (e.joinOnce id target.join).2.transport.request? n = some other.join) :
    e.transport.request? n = some other.join ∨ n = (e.joinOnce id target.join).1 := by
  rw [joinOnce_eq] at h ⊢
  cases hs : e.standingJoin? id with
  | some m =>
    rw [hs] at h
    exact Or.inl h
  | none =>
    rw [hs] at h
    rcases (Transport.request?_of_requests_eq (e.transport.requests_issue _)).mp h with h | ⟨h, -⟩
    · exact Or.inl h
    · rw [← Transport.number_issue _ target.join] at h
      exact Or.inr h

/-- The receipt is that of a request to join, also if the join was recorded before. -/
theorem joinOnce_join {e : Endpoint} (hj : e.JoinsSound) (id : String) (target : Target) :
    ∃ other : Target, (e.joinOnce id target.join).2.transport.request?
      (e.joinOnce id target.join).1 = some other.join := by
  rw [joinOnce_eq]
  cases hs : e.standingJoin? id with
  | some n =>
    obtain ⟨hmem, hn⟩ := standingJoin?_mem hs
    obtain ⟨other, hr, -⟩ := hj id n hmem hn
    exact ⟨other, hr⟩
  | none => exact ⟨target, e.transport.request?_issue target.join⟩

/-- What opening a conversation does to the subscribers and to joins. -/
theorem openConversation_cases (hj : e.JoinsSound) (target : Target) :
    (∃ f, e.openConversation target = (.error f, e)) ∨
      ∃ s n e', e.openConversation target = (.ok (s, n), e') ∧
        (∃ registry, e'.router = { e.router with registry }) ∧
        (∃ other : Target, e'.transport.request? n = some other.join) ∧
        ∀ (m : Nat) (other : Target), e'.transport.request? m = some other.join →
          e.transport.request? m = some other.join ∨ m = n := by
  cases hknown : e.knownConversation target with
  | error f => exact Or.inl ⟨f, openConversation_of_unknown hknown⟩
  | ok id =>
    obtain ⟨s, name, hopen⟩ := openConversation_eq hknown
    have hj₁ : (e.ensureSession id name target).2.JoinsSound := hj
    exact Or.inr ⟨s, _, _, hopen, ⟨_, (joinOnce_router _ _).trans rfl⟩, joinOnce_join hj₁ id target,
      fun m other h => joinOnce_quiet _ id target h⟩

end

end Endpoint

namespace Host

/-- What an operation gives. -/
structure Gives (a : Answer) (h h' : Host) : Prop where
  /-- A subscriber is given the next number. -/
  numbers : List.range h'.router.subscribers.length =
    List.range h.router.subscribers.length ++ a.subscribed?.toList
  /-- A name is kept only for a number that was given. -/
  names : ∀ p ∈ h'.subscriptions, p ∈ h.subscriptions ∨ p.2 < h'.router.subscribers.length
  /-- Handles stay where they are. -/
  handles : h.handles <+: h'.handles
  /-- A handle that is returned for a conversation is on a request to join. -/
  opened : ∀ k, a.opened? = some k → ∃ (n : Nat) (target : Target),
    h'.handles[k]? = some n ∧ h'.endpoint.transport.request? n = some target.join
  /-- A handle is returned on a request to join that is new. -/
  joins : ∀ (n : Nat) (target : Target), h'.endpoint.transport.request? n = some target.join →
    h.endpoint.transport.request? n = some target.join ∨
      ∃ k, a.opened? = some k ∧ h'.handles[k]? = some n

/-- These handles are on the requests to join that were made, and on no other requests. -/
structure Returned (ks : List Nat) (h : Host) : Prop where
  join : ∀ k ∈ ks, ∃ (n : Nat) (target : Target),
    h.handles[k]? = some n ∧ h.endpoint.transport.request? n = some target.join
  handle : ∀ (n : Nat) (target : Target), h.endpoint.transport.request? n = some target.join →
    ∃ k ∈ ks, h.handles[k]? = some n

variable {h h' h'' : Host} {m : Moment} {ms : List Moment} {a : Answer} {ks : List Nat}

/-! ### What the host keeps for itself -/

/-- A handle has the next number. -/
theorem hold_eq (h : Host) (receipt : Nat) :
    ∃ request sighted, h.hold receipt =
      ((h.handles.length, request), { h with sighted, handles := h.handles ++ [receipt] }) := by
  obtain ⟨sighted, hs⟩ := h.sight_eq receipt
  exact ⟨(h.sight receipt).1, sighted, by simp only [hold, hs]⟩

theorem collect_eq (a : Answer) (h : Host) :
    ∃ sighted, (collect (a, h)).2 =
      { h.withEndpoint { h.endpoint with transport := h.endpoint.transport.collect.2 } with
        sighted } :=
  sightAll_eq _ _

theorem mem_of_mem_unname {name : String} {table : List (String × Nat)} {p : String × Nat}
    (hp : p ∈ unname name table) : p ∈ table :=
  (List.mem_filter.mp hp).1

theorem dropReceiver_length (h : Host) (name : String) :
    (h.dropReceiver name).router.subscribers.length = h.router.subscribers.length ∧
      (h.dropReceiver name).router.closed = h.router.closed ∧
      (h.dropReceiver name).subscriptions = h.subscriptions := by
  rw [dropReceiver]
  split
  · next n _ => exact ⟨h.router.length_dropReceiver n, rfl, rfl⟩
  · exact ⟨rfl, rfl, rfl⟩

theorem dropReceiver_transport (h : Host) (name : String) :
    (h.dropReceiver name).endpoint.transport = h.endpoint.transport ∧
      (h.dropReceiver name).handles = h.handles := by
  rw [dropReceiver]
  split
  · exact ⟨rfl, rfl⟩
  · exact ⟨rfl, rfl⟩

/-! ### What operations give -/

theorem gives_bare (ha : a.IsBare)
    (hlength : h'.router.subscribers.length = h.router.subscribers.length)
    (hnames : ∀ p ∈ h'.subscriptions, p ∈ h.subscriptions) (hhandles : h.handles <+: h'.handles)
    (hquiet : ∀ (n : Nat) (target : Target), h'.endpoint.transport.request? n = some target.join →
      h.endpoint.transport.request? n = some target.join) : Gives a h h' where
  numbers := by rw [hlength, ha.1, Option.toList_none, List.append_nil]
  names p hp := Or.inl (hnames p hp)
  handles := hhandles
  opened k hk := by
    rw [ha.2] at hk
    cases hk
  joins n target hr := Or.inl (hquiet n target hr)

/-- The subscribers change without a new one, or a name is forgotten. -/
theorem gives_subscribers {router : Router} {subscriptions receivers : List (String × Nat)}
    {held : Bool} (ha : a.IsBare)
    (hlength : router.subscribers.length = h.router.subscribers.length)
    (hnames : ∀ p ∈ subscriptions, p ∈ h.subscriptions) :
    Gives a h { h.withRouter router with subscriptions, receivers, held } :=
  gives_bare ha hlength hnames List.prefix_rfl fun _ _ hr => hr

theorem gives_self (ha : a.IsBare) : Gives a h h :=
  gives_subscribers ha rfl fun _ hp => hp

theorem gives_withEndpoint {e : Endpoint} (ha : a.IsBare) (he : h.endpoint.Aside e) :
    Gives a h (h.withEndpoint e) := by
  obtain ⟨registry, hr⟩ := he.router
  refine gives_bare ha ?_ (fun _ hp => hp) List.prefix_rfl he.quiet
  exact congrArg (·.subscribers.length) hr

theorem gives_onEndpoint {α : Type} {f : α → Answer} (hf : ∀ x, (f x).IsBare)
    {result : Except Fault α × Endpoint} (he : h.endpoint.Aside result.2) :
    Gives (h.onEndpoint f result).1 h (h.onEndpoint f result).2 :=
  gives_withEndpoint (isBare_ofExcept hf _) he

theorem gives_onOpened (hj : h.endpoint.JoinsSound) (target : Target) :
    Gives (h.onOpened (h.endpoint.openConversation target)).1 h
      (h.onOpened (h.endpoint.openConversation target)).2 := by
  rcases h.endpoint.openConversation_cases hj target with
    ⟨f, hopen⟩ | ⟨s, n, e, hopen, ⟨registry, hr⟩, hjoin, hnew⟩
  · rw [hopen]
    exact gives_withEndpoint ⟨rfl, rfl⟩ (.refl _)
  · obtain ⟨request, sighted, hhold⟩ := (h.withEndpoint e).hold_eq n
    have hlast : (h.handles ++ [n])[h.handles.length]? = some n := List.getElem?_concat_length
    simp only [hopen, onOpened, hhold]
    refine { numbers := ?_, names := fun p hp => Or.inl hp, handles := List.prefix_append _ _
             opened := ?_, joins := fun m other hm => ?_ }
    · exact (congrArg (fun r : Router => List.range r.subscribers.length) hr).trans
        (List.append_nil _).symm
    · rintro k ⟨⟩
      obtain ⟨other, hother⟩ := hjoin
      exact ⟨n, other, hlast, hother⟩
    · rcases hnew m other hm with hold | rfl
      · exact Or.inl hold
      · exact Or.inr ⟨_, rfl, hlast⟩

theorem gives_onSent {result : Except Fault Nat × Endpoint} (he : h.endpoint.Aside result.2) :
    Gives (h.onSent result).1 h (h.onSent result).2 := by
  obtain ⟨_ | receipt, e⟩ := result
  · exact gives_withEndpoint ⟨rfl, rfl⟩ he
  · obtain ⟨request, sighted, hhold⟩ := (h.withEndpoint e).hold_eq receipt
    obtain ⟨registry, hr⟩ := he.router
    simp only [onSent, hhold]
    exact gives_bare ⟨rfl, rfl⟩ (congrArg (·.subscribers.length) hr) (fun _ hp => hp)
      (List.prefix_append _ _) he.quiet

theorem gives_onAcknowledger (request : Nat) (f : Receipt → Receipt) :
    Gives (h.onAcknowledger request f).1 h (h.onAcknowledger request f).2 := by
  rw [onAcknowledger]
  split
  · exact gives_self ⟨rfl, rfl⟩
  · next n _ =>
    split_ifs
    · exact gives_withEndpoint ⟨rfl, rfl⟩
        (Endpoint.aside_of_requests ⟨_, rfl⟩ (h.endpoint.transport.requests_modify n f))
    · exact gives_self ⟨rfl, rfl⟩

theorem gives_onQueue (event : InboundEvent) :
    Gives (h.onQueue event).1 h (h.onQueue event).2 := by
  rw [onQueue]
  split_ifs
  · exact gives_withEndpoint ⟨rfl, rfl⟩ (Endpoint.aside_of_requests ⟨_, rfl⟩ rfl)
  · exact gives_self ⟨rfl, rfl⟩

theorem gives_subscribe (h : Host) (name : String) (sink : Sink) (receiver : Bool) :
    Gives (h.subscribe name sink receiver).1 h (h.subscribe name sink receiver).2 := by
  obtain ⟨hlength, -, hnames⟩ := h.dropReceiver_length name
  obtain ⟨htransport, hhandles⟩ := h.dropReceiver_transport name
  have hnew : (h.subscribe name sink receiver).2.router.subscribers.length =
      h.router.subscribers.length + 1 := by
    rw [← hlength]
    exact List.length_append
  refine { numbers := ?_, names := fun p hp => ?_, handles := ?_, opened := nofun
           joins := fun n target hr => Or.inl ?_ }
  · rw [hnew, List.range_succ, ← hlength]
    rfl
  · rw [hnew]
    rcases List.mem_cons.mp hp with rfl | hp
    · exact Or.inr (hlength ▸ Nat.lt_succ_self _)
    · exact Or.inl (hnames ▸ mem_of_mem_unname hp)
  · exact hhandles ▸ List.prefix_rfl
  · rw [← htransport]
    exact hr

variable (act : Operation → Host → StepResult × Host)

theorem stepHeld_gives_of_not_processes (hj : h.endpoint.JoinsSound) {op : Operation}
    (hop : op.processes = false) : Gives (stepHeld act h op).1 h (stepHeld act h op).2 := by
  cases op with
  | route | handle | processPending | processNext => cases hop
  | subscribe | subscribeChannel => exact gives_subscribe h _ _ _
  | unsubscribe name =>
    simp only [stepHeld]
    split
    · exact gives_self ⟨rfl, rfl⟩
    · next n _ =>
      exact gives_subscribers ⟨rfl, rfl⟩ (h.router.length_modify n _) fun _ => mem_of_mem_unname
  | forget name => exact gives_subscribers ⟨rfl, rfl⟩ rfl fun _ => mem_of_mem_unname
  | dropReceiver name =>
    obtain ⟨hlength, -, hnames⟩ := h.dropReceiver_length name
    obtain ⟨htransport, hhandles⟩ := h.dropReceiver_transport name
    refine gives_bare ⟨rfl, rfl⟩ hlength (fun p hp => hnames ▸ hp) (hhandles ▸ List.prefix_rfl) ?_
    exact fun n target hr => htransport ▸ hr
  | receive name =>
    simp only [stepHeld]
    split
    · exact gives_self ⟨rfl, rfl⟩
    · next n _ =>
      exact gives_subscribers ⟨rfl, rfl⟩ (h.router.length_receive n) fun _ hp => hp
  | close => exact gives_subscribers ⟨rfl, rfl⟩ h.router.length_close fun _ hp => hp
  | ensureSession | removeSession =>
    exact gives_onEndpoint (fun _ => ⟨rfl, rfl⟩) (Endpoint.aside_of_requests ⟨_, rfl⟩ rfl)
  | setNickname nickname =>
    exact gives_onEndpoint (fun _ => ⟨rfl, rfl⟩) (h.endpoint.aside_setNickname nickname)
  | setLocalId id => exact gives_onEndpoint (fun _ => ⟨rfl, rfl⟩) (h.endpoint.aside_setLocalId id)
  | setKeyPair pair =>
    exact gives_onEndpoint (fun _ => ⟨rfl, rfl⟩) (h.endpoint.aside_setKeyPair pair)
  | addFriend key => exact gives_onEndpoint (fun _ => ⟨rfl, rfl⟩) (h.endpoint.aside_addFriend key)
  | addGroup key => exact gives_onEndpoint (fun _ => ⟨rfl, rfl⟩) (h.endpoint.aside_addGroup key)
  | startDirect peer => exact gives_onOpened hj (.direct peer)
  | joinGroup group => exact gives_onOpened hj (.group group)
  | send target plaintext => exact gives_onSent (h.endpoint.aside_send target plaintext)
  | sendToSession id plaintext => exact gives_onSent (h.endpoint.aside_sendToSession id plaintext)
  | queue event => exact gives_onQueue event
  | queueMessage m => exact gives_onQueue (.message m)
  | queueError reason timestamp => exact gives_onQueue (.transportError reason timestamp)
  | answer request => exact gives_onAcknowledger request _
  | abandon request => exact gives_onAcknowledger request _
  | detach =>
    exact gives_withEndpoint ⟨rfl, rfl⟩
      (Endpoint.aside_of_requests ⟨_, rfl⟩ h.endpoint.transport.requests_detach)
  | release => exact gives_subscribers ⟨rfl, rfl⟩ rfl fun _ hp => hp
  | poll handle =>
    simp only [stepHeld]
    split
    · exact gives_self ⟨rfl, rfl⟩
    · exact gives_self ⟨rfl, rfl⟩
  | wait handle =>
    simp only [stepHeld]
    split
    · exact gives_self ⟨rfl, rfl⟩
    · exact gives_self ⟨rfl, rfl⟩
    · exact gives_self ⟨rfl, rfl⟩
  | conversationId peer => exact gives_self (isBare_ofExcept (fun _ => ⟨rfl, rfl⟩) _)
  | isActive | subscriberCount | hasSession | session | sessions | isClosed | isDelivering
  | identity | friendKey | groupKey | friendIds | groupIds | unreadable | panic =>
    exact gives_self ⟨rfl, rfl⟩

theorem stepHeld_gives (hj : h.endpoint.JoinsSound) (hd : h.router.delivering = true)
    (op : Operation) : Gives (stepHeld act h op).1 h (stepHeld act h op).2 := by
  cases op with
  | route event localId peer =>
    obtain ⟨f, hf⟩ := route_of_delivering act hd event localId peer
    simp only [stepHeld, hf]
    exact gives_self ⟨rfl, rfl⟩
  | handle event =>
    simp only [stepHeld, handle_of_delivering act hd event]
    split_ifs
    · exact gives_self ⟨rfl, rfl⟩
    · exact gives_withEndpoint ⟨rfl, rfl⟩ (Endpoint.aside_of_requests ⟨_, rfl⟩ rfl)
  | processPending =>
    simp only [stepHeld, processPending_of_delivering act hd]
    exact gives_self ⟨rfl, rfl⟩
  | processNext =>
    simp only [stepHeld, processNext_of_delivering act hd]
    exact gives_self ⟨rfl, rfl⟩
  | _ => exact stepHeld_gives_of_not_processes act hj rfl

/-- To collect the requests and to log something gives nothing more. -/
theorem Gives.congr (hg : Gives a h h') (hrouter : h''.router = h'.router)
    (hnames : h''.subscriptions = h'.subscriptions) (hhandles : h''.handles = h'.handles)
    (hrequests : h''.endpoint.transport.requests = h'.endpoint.transport.requests) :
    Gives a h h'' := by
  have hrequest (n : Nat) :
      h''.endpoint.transport.request? n = h'.endpoint.transport.request? n := by
    rw [Transport.request?_eq, hrequests, ← Transport.request?_eq]
  refine { numbers := ?_, names := ?_, handles := ?_, opened := ?_, joins := ?_ }
  · rw [hrouter, hg.numbers]
  · rw [hrouter, hnames]
    exact hg.names
  · rw [hhandles]
    exact hg.handles
  · simpa only [hhandles, hrequest] using hg.opened
  · simpa only [hhandles, hrequest] using hg.joins

theorem Gives.collect (hg : Gives a h h') : Gives a h (collect (a, h')).2 := by
  obtain ⟨sighted, hcollect⟩ := collect_eq a h'
  rw [hcollect]
  exact hg.congr rfl rfl rfl rfl

/-- What an operation gives that processes no event, or is done in a callback. -/
theorem step_gives (hj : h.endpoint.JoinsSound) {op : Operation}
    (hop : op.processes = false ∨ h.router.delivering = true) :
    Gives (step act op h).1.answer h (step act op h).2 := by
  have hheld : Gives (stepHeld act h op).1 h (stepHeld act h op).2 := by
    rcases hop with hop | hd
    · exact stepHeld_gives_of_not_processes act hj hop
    · exact stepHeld_gives act hj hd op
  rw [step]
  split_ifs
  · exact (gives_self ⟨rfl, rfl⟩).collect
  · exact hheld.collect

/-! ### What is given on the way -/

theorem Gives.known (hg : Gives a h h') :
    h.router.subscribers.length ≤ h'.router.subscribers.length := by
  have hlength := congrArg List.length hg.numbers
  rw [List.length_range, List.length_append, List.length_range] at hlength
  exact hlength ▸ Nat.le_add_right _ _

theorem Gives.handle (hg : Gives a h h') {k n : Nat} (hn : h.handles[k]? = some n) :
    h'.handles[k]? = some n := by
  obtain ⟨more, hmore⟩ := hg.handles
  rwa [← hmore, List.getElem?_append_left (List.getElem?_eq_some_iff.mp hn).1]

theorem Gives.returned (hg : Gives a h h') (hx : h.endpoint.transport.Extends h'.endpoint.transport)
    (hr : Returned ks h) : Returned (ks ++ a.opened?.toList) h' where
  join k hk := by
    rcases List.mem_append.mp hk with hk | hk
    · obtain ⟨n, target, hn, hjoin⟩ := hr.join k hk
      exact ⟨n, target, hg.handle hn, hx.request? hjoin⟩
    · exact hg.opened k (Option.mem_toList.mp hk)
  handle n target hjoin := by
    rcases hg.joins n target hjoin with hold | ⟨k, hk, hn⟩
    · obtain ⟨k, hk, hn⟩ := hr.handle n target hold
      exact ⟨k, List.mem_append_left _ hk, hg.handle hn⟩
    · exact ⟨k, List.mem_append_right _ (Option.mem_toList.mpr hk), hn⟩

/-- What is given at a moment is what the operation gives that is completed, if one is. -/
theorem Occurs.gives (ho : Occurs h m) (hj : h.endpoint.JoinsSound) :
    ∃ a, m.subscribed? = a.subscribed? ∧ m.opened? = a.opened? ∧ Gives a h m.host := by
  cases ho with
  | @told id _ _ sink _ _ =>
    have hlength := h.router.length_modify id fun s => { s with sink }
    exact ⟨.done, rfl, rfl, gives_bare ⟨rfl, rfl⟩ hlength (fun _ hp => hp) List.prefix_rfl
      fun _ _ hr => hr⟩
  | passed => exact ⟨.done, rfl, rfl, gives_self ⟨rfl, rfl⟩⟩
  | noticed id _ =>
    have hlength := h.router.length_modify id fun s => { s with active := false }
    exact ⟨.done, rfl, rfl, gives_subscribers ⟨rfl, rfl⟩ hlength fun _ hp => hp⟩
  | inside id op hd =>
    have hstep : Gives (Host.inside op h).1.answer h (Host.inside op h).2 :=
      step_gives _ hj (Or.inr hd)
    exact ⟨_, rfl, rfl, hstep.congr rfl rfl rfl rfl⟩
  | outside hop => exact ⟨_, rfl, rfl, step_gives _ hj (Or.inl hop)⟩
  | processed _ ha => exact ⟨_, rfl, rfl, (gives_self ha).collect⟩

/-- Nothing is given between moments. -/
theorem Between.gives (hb : Between h h') : Gives .done h h' := by
  cases hb with
  | take | mark => exact gives_bare ⟨rfl, rfl⟩ rfl (fun _ hp => hp) List.prefix_rfl fun _ _ hr => hr
  | classify event localId peer _ =>
    obtain ⟨registry, hr⟩ := h.router.exists_classify_eq event localId peer
    rw [hr]
    exact gives_bare ⟨rfl, rfl⟩ rfl (fun _ hp => hp) List.prefix_rfl fun _ _ hr => hr

section

variable (hl : Leads h ms h') (hj : h.endpoint.JoinsSound)

include hl hj

/-- The numbers that are given are the next ones in order, and names are kept for given numbers. -/
theorem Leads.numbers :
    List.range h'.router.subscribers.length =
        List.range h.router.subscribers.length ++ ms.filterMap Moment.subscribed? ∧
      ((∀ p ∈ h.subscriptions, p.2 < h.router.subscribers.length) →
        ∀ p ∈ h'.subscriptions, p.2 < h'.router.subscribers.length) := by
  induction hl with
  | refl => exact ⟨(List.append_nil _).symm, fun hn => hn⟩
  | between _ hb ih =>
    have hg := hb.gives
    refine ⟨?_, fun hn p hp => ?_⟩
    · rw [hg.numbers, ih.1]
      exact List.append_nil _
    · exact (hg.names p hp).elim (fun hp => Nat.lt_of_lt_of_le (ih.2 hn p hp) hg.known) id
  | @moment _ h₁ m hl ho ih =>
    obtain ⟨a, hs, -, hg⟩ := ho.gives (hl.moves.joinsSound hj)
    refine ⟨?_, fun hn p hp => ?_⟩
    · rw [hg.numbers, ih.1, List.filterMap_append, List.append_assoc, ← hs]
      rfl
    · exact (hg.names p hp).elim (fun hp => Nat.lt_of_lt_of_le (ih.2 hn p hp) hg.known) id

/-- The handles that are returned for conversations are those on the requests to join. -/
theorem Leads.returned (hr : Returned ks h) :
    Returned (ks ++ ms.filterMap Moment.opened?) h' := by
  induction hl with
  | refl => rwa [List.filterMap_nil, List.append_nil]
  | between _ hb ih =>
    have hnext := hb.gives.returned hb.moves.extends ih
    have hnone : Answer.done.opened?.toList = [] := rfl
    rwa [hnone, List.append_nil] at hnext
  | moment hl ho ih =>
    obtain ⟨a, -, hopened, hg⟩ := ho.gives (hl.moves.joinsSound hj)
    rw [List.filterMap_append, ← List.append_assoc]
    have hnext := hg.returned ho.moves.extends ih
    rw [← hopened] at hnext
    exact hnext

end

end Host

end ChatRouting
