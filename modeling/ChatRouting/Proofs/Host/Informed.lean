import ChatRouting.Proofs.Host.Asking

/-!
# The transport is informed

The transport hears of every key before anything is asked of it that takes the key. What the
requests so far say last of a peer, a group, the local key pair and the nickname is what the key
ring has, so that a transport that only listens knows the keys of its endpoint. A join or a send
comes after the keys that it takes, a text that is sent is not empty, and no direct request is to
the user who is local at the moment of the run at which it is made.

## Main definitions

* `Request.last?`: what some requests say last
* `Request.PreparedBy`: the keys that a request takes are told by the requests before it
* `Request.IsDirectTo`
* `Endpoint.Informed`

## Main results

* `Endpoint.Moves.informed`, `Endpoint.Asks.preparedBy`
* `Host.transport_informed`
-/

namespace ChatRouting

namespace Request

/-- The nickname that a request tells. -/
def nickname? : Request → Option String
  | identitySet nickname => some nickname
  | _ => none

/-- The local key pair that a request tells. -/
def keyPair? : Request → Option KeyPair
  | keyPairSet pair => some pair
  | _ => none

/-- The key of a peer that a request tells. -/
def friendKey? (peer : String) : Request → Option FriendKey
  | friendKeyAdded key => if key.peer = peer then some key else none
  | _ => none

/-- The key of a group that a request tells. -/
def groupKey? (group : String) : Request → Option GroupKey
  | groupKeyAdded key => if key.group = group then some key else none
  | _ => none

/-- What some requests say last. -/
def last? {α : Type} (f : Request → Option α) (rs : List Request) : Option α :=
  (rs.filterMap f).getLast?

/-- The keys that a request takes are told by the requests before it, and a text that it sends is
not empty. -/
def PreparedBy (before : List Request) : Request → Prop
  | directJoin peer => ∃ key, friendKeyAdded key ∈ before ∧ key.peer = peer
  | groupJoin group => ∃ key, groupKeyAdded key ∈ before ∧ key.group = group
  | directSend peer plaintext =>
    (∃ key, friendKeyAdded key ∈ before ∧ key.peer = peer) ∧
      (∃ pair, keyPairSet pair ∈ before) ∧ plaintext ≠ ""
  | groupSend group plaintext =>
    (∃ key, groupKeyAdded key ∈ before ∧ key.group = group) ∧ plaintext ≠ ""
  | identitySet _ | keyPairSet _ | friendKeyAdded _ | groupKeyAdded _ => True

/-- The request joins or sends to a user directly. -/
def IsDirectTo (user : String) : Request → Prop
  | directJoin peer | directSend peer _ => peer = user
  | _ => False

section

variable {α : Type} {f : Request → Option α} {rs : List Request}

theorem last?_append (f : Request → Option α) (rs : List Request) (r : Request) :
    last? f (rs ++ [r]) = (f r).or (last? f rs) :=
  Table.getLast?_filterMap_append f rs r

/-- Something is said last if a request that says something is there. -/
theorem isSome_last? {β : Type} {c : β → Request} {p : β → Prop}
    (hf : ∀ r : Request, (f r).isSome ↔ ∃ b, c b = r ∧ p b) :
    (last? f rs).isSome ↔ ∃ b, c b ∈ rs ∧ p b := by
  simp only [last?, Option.isSome_iff_ne_none, ne_eq, List.getLast?_eq_none_iff,
    List.filterMap_eq_nil_iff, not_forall, exists_prop] at hf ⊢
  constructor
  · rintro ⟨r, hr, hsome⟩
    obtain ⟨b, rfl, hb⟩ := (hf r).mp hsome
    exact ⟨b, hr, hb⟩
  · rintro ⟨b, hr, hb⟩
    exact ⟨c b, hr, (hf (c b)).mpr ⟨b, rfl, hb⟩⟩

end

variable {rs : List Request}

theorem isSome_last?_friendKey? {peer : String} : (last? (friendKey? peer) rs).isSome ↔
    ∃ key : FriendKey, friendKeyAdded key ∈ rs ∧ key.peer = peer := by
  refine isSome_last? fun r => ?_
  cases r with
  | friendKeyAdded key => simp [friendKey?]
  | _ => simp [friendKey?]

theorem isSome_last?_groupKey? {group : String} : (last? (groupKey? group) rs).isSome ↔
    ∃ key : GroupKey, groupKeyAdded key ∈ rs ∧ key.group = group := by
  refine isSome_last? fun r => ?_
  cases r with
  | groupKeyAdded key => simp [groupKey?]
  | _ => simp [groupKey?]

theorem isSome_last?_keyPair? :
    (last? keyPair? rs).isSome ↔ ∃ pair, keyPairSet pair ∈ rs := by
  have hf (r : Request) : r.keyPair?.isSome ↔ ∃ pair, keyPairSet pair = r ∧ True := by
    cases r with
    | keyPairSet pair => simp [keyPair?]
    | _ => simp [keyPair?]
  simpa only [and_true] using isSome_last? hf

theorem isSome_last?_nickname? :
    (last? nickname? rs).isSome ↔ ∃ nickname, identitySet nickname ∈ rs := by
  have hf (r : Request) : r.nickname?.isSome ↔ ∃ nickname, identitySet nickname = r ∧ True := by
    cases r with
    | identitySet nickname => simp [nickname?]
    | _ => simp [nickname?]
  simpa only [and_true] using isSome_last? hf

end Request

/-- The key ring afterwards has what the request tells, and is as it was where the request tells
nothing. -/
structure KeyRing.Hears (k : KeyRing) (r : Request) (k' : KeyRing) : Prop where
  friend : ∀ peer, k'.friend? peer = (r.friendKey? peer).or (k.friend? peer)
  group : ∀ group, k'.group? group = (r.groupKey? group).or (k.group? group)
  keyPair : k'.keyPair = r.keyPair?.or k.keyPair
  nickname : k'.identity.nickname = r.nickname?.getD k.identity.nickname

/-- What the key ring learns, the request tells. -/
theorem KeyRing.Learns.hears {k k' : KeyRing} {r : Request} (h : k.Learns r k') :
    k.Hears r k' := by
  cases h with
  | nickname h =>
    obtain ⟨rfl, rfl⟩ := KeyRing.setNickname_ok h
    exact ⟨fun _ => rfl, fun _ => rfl, rfl, rfl⟩
  | pair h =>
    rw [KeyRing.setKeyPair_ok h]
    exact ⟨fun _ => rfl, fun _ => rfl, rfl, rfl⟩
  | @friend key _ h =>
    rw [KeyRing.addFriend_ok h]
    refine ⟨fun peer => ?_, fun _ => rfl, rfl, rfl⟩
    rw [KeyRing.friend?_insert, Request.friendKey?]
    split_ifs
    · rfl
    · rfl
  | @group key _ h =>
    rw [KeyRing.addGroup_ok h]
    refine ⟨fun _ => rfl, fun group => ?_, rfl, rfl⟩
    rw [KeyRing.group?_insert, Request.groupKey?]
    split_ifs
    · rfl
    · rfl

/-- A join tells nothing. -/
theorem KeyRing.hears_join (k : KeyRing) : ∀ target : Target, k.Hears target.join k
  | .direct _ | .group _ => ⟨fun _ => rfl, fun _ => rfl, rfl, rfl⟩

/-- A text that is sent tells nothing. -/
theorem KeyRing.hears_message (k : KeyRing) (plaintext : String) :
    ∀ target : Target, k.Hears (target.message plaintext) k
  | .direct _ | .group _ => ⟨fun _ => rfl, fun _ => rfl, rfl, rfl⟩

namespace Endpoint

variable {e e' : Endpoint} {r : Request} {keys : KeyRing} {joins : List (String × Nat)}
  {initial : String}

theorem Asks.hears (h : e.Asks r keys joins) : e.keys.Hears r keys := by
  cases h with
  | learn h => exact h.hears
  | join _ _ => exact e.keys.hears_join _
  | send h =>
    obtain ⟨_, _, _, rfl⟩ := sendRequest_inv h
    exact e.keys.hears_message _ _

/-- What the requests so far say last is what the key ring has. The nickname is the initial one
until a request tells another. -/
structure Informed (initial : String) (e : Endpoint) : Prop where
  friend : ∀ peer,
    e.keys.friend? peer = Request.last? (Request.friendKey? peer) e.transport.requests
  group : ∀ group,
    e.keys.group? group = Request.last? (Request.groupKey? group) e.transport.requests
  keyPair : e.keys.keyPair = Request.last? Request.keyPair? e.transport.requests
  nickname : e.keys.identity.nickname =
    (Request.last? Request.nickname? e.transport.requests).getD initial

/-- One more request is made, and the key ring hears what it tells. -/
theorem Informed.hears (hi : e.Informed initial) (h : e.keys.Hears r e'.keys)
    (hmade : e'.transport.requests = e.transport.requests ++ [r]) : e'.Informed initial where
  friend peer := by rw [h.friend, hmade, Request.last?_append, hi.friend]
  group group := by rw [h.group, hmade, Request.last?_append, hi.group]
  keyPair := by rw [h.keyPair, hmade, Request.last?_append, hi.keyPair]
  nickname := by rw [h.nickname, hmade, Request.last?_append, hi.nickname, Option.getD_or]

theorem Move.informed (h : Move e e') (hi : e.Informed initial) : e'.Informed initial := by
  rcases h.asks with ⟨hsame, -, id, hkeys⟩ | ⟨r, hasks, hmade⟩
  · -- Neither the keys nor the nickname change.
    have hfriend : e'.keys.friend? = e.keys.friend? := by rw [hkeys]; rfl
    have hgroup : e'.keys.group? = e.keys.group? := by rw [hkeys]; rfl
    exact ⟨hfriend ▸ hsame ▸ hi.friend, hgroup ▸ hsame ▸ hi.group,
      by rw [hkeys, hsame]; exact hi.keyPair, by rw [hkeys, hsame]; exact hi.nickname⟩
  · exact hi.hears hasks.hears hmade

/-- Whatever happens to an endpoint, its transport stays informed. -/
theorem Moves.informed (h : Moves e e') (hi : e.Informed initial) : e'.Informed initial := by
  induction h with
  | refl => exact hi
  | tail _ hmove ih => exact hmove.informed ih

/-! ### What comes before a request -/

section

variable (hi : e.Informed initial)

include hi

/-- The keys of a conversation that is known have been told. -/
theorem Informed.preparedBy_join {target : Target} {id : String}
    (h : e.knownConversation target = .ok id) : target.join.PreparedBy e.transport.requests := by
  cases target with
  | direct peer =>
    have hfriend := (friendConversation_ok h).2.1
    rw [KeyRing.hasFriend_eq, hi.friend] at hfriend
    exact Request.isSome_last?_friendKey?.mp hfriend
  | group group =>
    have hgroup := (groupConversation_ok h).1
    rw [KeyRing.hasGroup_eq, hi.group] at hgroup
    exact Request.isSome_last?_groupKey?.mp hgroup

/-- What a request takes has been told when it is made. -/
theorem Asks.preparedBy (h : e.Asks r keys joins) :
    r.PreparedBy e.transport.requests := by
  cases h with
  | learn h =>
    cases h with
    | nickname | pair | friend | group => trivial
  | join h _ => exact hi.preparedBy_join h
  | @send target plaintext _ h =>
    obtain ⟨htext, ⟨id, hknown⟩, hpair, rfl⟩ := sendRequest_inv h
    have htold := hi.preparedBy_join hknown
    cases target with
    | direct peer =>
      have hset := hpair rfl
      rw [hi.keyPair] at hset
      exact ⟨htold, Request.isSome_last?_keyPair?.mp hset, htext⟩
    | group group => exact ⟨htold, htext⟩

end

/-- No direct conversation with the local user is known. -/
theorem ne_localId_of_known {peer id : String} (h : e.knownConversation (.direct peer) = .ok id) :
    peer ≠ e.localId :=
  ne_of_directId (friendConversation_ok h).2.2

/-- No direct request is to the local user. -/
theorem Asks.not_isDirectTo (h : e.Asks r keys joins) : ¬ r.IsDirectTo e.localId := by
  cases h with
  | learn h =>
    cases h with
    | nickname | pair | friend | group => exact id
  | @join target id h _ =>
    cases target with
    | direct peer => exact ne_localId_of_known h
    | group group => exact not_false
  | @send target plaintext _ h =>
    obtain ⟨_, ⟨id, hknown⟩, _, rfl⟩ := sendRequest_inv h
    cases target with
    | direct peer => exact ne_localId_of_known hknown
    | group group => exact not_false

/-- A nickname that was given is the last one told. -/
theorem nickname_of_setNickname {nickname : String} {identity : Identity} {e₁ e₂ : Endpoint}
    (hi : e₁.Informed initial) (hset : e₁.setNickname nickname = (.ok identity, e₂))
    (h : e₂.Moves e) :
    Request.last? Request.nickname? e.transport.requests = some e.keys.identity.nickname := by
  have htold : .identitySet identity.nickname ∈ e₂.transport.requests := by
    rw [setNickname] at hset
    split at hset
    · cases hset
    · cases hset
      rw [tell, request, Transport.requests_issue]
      exact List.mem_append_right _ (List.mem_singleton.mpr rfl)
  have hchanges : e₁.Changes e₂ := by
    have hall := (e₁.plain_setNickname nickname).changes
    rwa [hset] at hall
  have hnow : e.Informed initial := h.informed (hchanges.moves.informed hi)
  -- What has been told once is among the requests for good, so that some nickname is last.
  have hsome : (Request.last? Request.nickname? e.transport.requests).isSome :=
    Request.isSome_last?_nickname?.mpr ⟨_, h.extends.requests.subset htold⟩
  obtain ⟨last, hlast⟩ := Option.isSome_iff_exists.mp hsome
  rw [hnow.nickname, hlast, Option.getD_some]

end Endpoint

namespace Host

/-- **The transport knows the keys of its endpoint, and knows them before they are taken.** The
first part holds of every endpoint that can be reached, and so at every moment of a run, between
operations and inside callbacks. At each moment of a run at most one request is new. Its keys were
told before, and if it is direct it is to somebody else than the user who is local at that moment.
Every request of a run was new at some moment. -/
theorem transport_informed (identity : Identity) (link : Link) (ignoreOwnEcho : Bool) :
    let start := fresh { identity } { link } ignoreOwnEcho
    (∀ e, start.endpoint.Moves e → e.Informed identity.nickname ∧
        (∀ peer, peer ∈ e.keys.friendIds ↔
          ∃ key : FriendKey, .friendKeyAdded key ∈ e.transport.requests ∧ key.peer = peer) ∧
        (∀ group, group ∈ e.keys.groupIds ↔
          ∃ key : GroupKey, .groupKeyAdded key ∈ e.transport.requests ∧ key.group = group) ∧
        ∀ e₁ nickname given e₂, start.endpoint.Moves e₁ →
          e₁.setNickname nickname = (.ok given, e₂) → e₂.Moves e →
          Request.last? Request.nickname? e.transport.requests = some e.keys.identity.nickname) ∧
      ∀ ops, start.endpoint.Moves (run ops start).endpoint ∧
        (∀ m ∈ moments ops start, start.endpoint.Moves m.host.endpoint) ∧
        (∀ before m later, moments ops start = before ++ m :: later →
          let e := (start.after before).endpoint
          m.host.endpoint.transport.requests = e.transport.requests ∨
            ∃ r, m.host.endpoint.transport.requests = e.transport.requests ++ [r] ∧
              r.PreparedBy e.transport.requests ∧ ¬ r.IsDirectTo e.localId ∧
              m.host.endpoint.localId = e.localId) ∧
        ∀ n r, (run ops start).endpoint.transport.request? n = some r →
          ∃ before m later, moments ops start = before ++ m :: later ∧
            (start.after before).endpoint.transport.requests =
              (run ops start).endpoint.transport.requests.take n ∧
            m.host.endpoint.transport.requests =
              (start.after before).endpoint.transport.requests ++ [r] := by
  intro start
  have hstart : start.endpoint.Informed identity.nickname :=
    ⟨fun _ => rfl, fun _ => rfl, rfl, rfl⟩
  refine ⟨fun e he => ?_, fun ops => ?_⟩
  · have hnow := he.informed hstart
    refine ⟨hnow, fun peer => ?_, fun group => ?_, fun e₁ nickname given e₂ he₁ hset h => ?_⟩
    · rw [KeyRing.mem_friendIds_iff, hnow.friend, Request.isSome_last?_friendKey?]
    · rw [KeyRing.mem_groupIds_iff, hnow.group, Request.isSome_last?_groupKey?]
    · exact Endpoint.nickname_of_setNickname (he₁.informed hstart) hset h
  · have hl := leads_moments_fresh { identity } { link } ignoreOwnEcho ops
    refine ⟨hl.moves, fun m hm => hl.moves_of_mem hm, fun before m later hms => ?_,
      fun n r hr => hl.exists_asked rfl hr⟩
    rw [hms] at hl
    obtain ⟨hbefore, hnext⟩ := hl.split
    have hnow := hbefore.moves.informed hstart
    rcases hnext.asks_next with ⟨hsame, -⟩ | ⟨r, hasks, hmade⟩
    · exact Or.inl hsame
    · exact Or.inr ⟨r, hmade, hasks.preparedBy hnow, hasks.not_isDirectTo, hasks.localId⟩

/-- A key of a friend and the local key pair have been told when a text is sent to the friend, and
a nickname that is given is told. -/
theorem transport_informed_friend :
    let ops : List Operation := [.addFriend { peer := "bob", publicKey := [1] },
      .setKeyPair { privateKey := [3], publicKey := [4] }, .send (.direct "bob") "hi"]
    let start := fresh (KeyRing.ofId "alice") .channel true
    let e := (run ops start).endpoint
    let named := (start.endpoint.setNickname "Al").2
    let sent : Request := .directSend "bob" "hi"
    e.transport.request? 2 = some sent ∧ e.Informed "" ∧
      (∃ before m later, moments ops start = before ++ m :: later ∧
        m.host.endpoint.transport.requests =
          (start.after before).endpoint.transport.requests ++ [sent] ∧
        sent.PreparedBy (start.after before).endpoint.transport.requests ∧
        ¬ sent.IsDirectTo (start.after before).endpoint.localId) ∧
      Request.last? Request.nickname? named.transport.requests = some "Al" := by
  intro ops start e named sent
  have hsent : e.transport.request? 2 = some sent := by decide +kernel
  have hstart : fresh { identity := { id := "alice", nickname := "" } } { link := .channel true }
      true = start := rfl
  have hall := transport_informed { id := "alice", nickname := "" } (.channel true) true
  simp only [hstart] at hall
  obtain ⟨hmoves, -, hnext, hmoment⟩ := hall.2 ops
  obtain ⟨before, m, later, hms, -, hmade⟩ := hmoment 2 sent hsent
  have hprepared : sent.PreparedBy (start.after before).endpoint.transport.requests ∧
      ¬ sent.IsDirectTo (start.after before).endpoint.localId := by
    rcases hnext before m later hms with hsame | ⟨r, hmade', hprepared, hother, -⟩
    · simp [hsame] at hmade
    · have hr : sent = r := by simpa using hmade.symm.trans hmade'
      rw [hr]
      exact ⟨hprepared, hother⟩
  have hnamed : start.endpoint.setNickname "Al" = (.ok ⟨"alice", "Al"⟩, named) := rfl
  have hgiven : start.endpoint.Moves named := (start.endpoint.plain_setNickname "Al").changes.moves
  have hlast := (hall.1 named hgiven).2.2.2 _ _ _ _ .refl hnamed .refl
  exact ⟨hsent, (hall.1 e hmoves).1, ⟨before, m, later, hms, hmade, hprepared⟩, hlast⟩

end Host

end ChatRouting
