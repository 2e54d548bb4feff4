import ChatRouting.Proofs.KeyRing
import ChatRouting.Proofs.Text

/-!
# The key ring keeps what was accepted last

An update of a key ring is accepted just if nothing it tells is empty, whatever the ring has, and
one that is refused changes nothing. So after any number of updates, accepted or refused, the ring
has what the accepted ones say last: of every friend and of every group by itself, of the local key
pair, of the nickname and of the local id. The friends and the groups are listed in the order of
the bytes of their ids, each of them once.

## Main definitions

* `KeyRing.Update`, `KeyRing.perform`: one update and its answer
* `KeyRing.after`, `KeyRing.accepted`: what some updates leave, and those that were accepted
* `KeyRing.Reflects`, `KeyRing.Lists`, `KeyRing.NothingEmpty`

## Main results

* `KeyRing.accepts_iff`, `KeyRing.refused_keeps`: the answer to one update
* `KeyRing.Reflects.put`: what one accepted update does
* `KeyRing.lastAccepted_kept`
-/

namespace ChatRouting.KeyRing

/-- An update of a key ring. -/
inductive Update where
  | nickname (nickname : String)
  | localId (id : String)
  | keyPair (pair : KeyPair)
  | friend (key : FriendKey)
  | group (key : GroupKey)

namespace Update

/-- Nothing that the update tells is empty. -/
def IsComplete : Update → Prop
  | nickname name => Text.trim name ≠ ""
  | localId id => Text.trim id ≠ ""
  | keyPair pair => pair.privateKey ≠ [] ∧ pair.publicKey ≠ []
  | friend key => key.peer ≠ "" ∧ key.publicKey ≠ []
  | group key => key.group ≠ "" ∧ key.symmetricKey ≠ []

instance : DecidablePred IsComplete
  | nickname _ | localId _ => inferInstanceAs (Decidable (_ ≠ _))
  | keyPair _ | friend _ | group _ => inferInstanceAs (Decidable (_ ∧ _))

/-- The nickname that an update tells. -/
def nickname? : Update → Option String
  | nickname name => some name
  | _ => none

/-- The local id that an update tells. -/
def localId? : Update → Option String
  | localId id => some id
  | _ => none

/-- The local key pair that an update tells. -/
def keyPair? : Update → Option KeyPair
  | keyPair pair => some pair
  | _ => none

/-- The key of a friend that an update tells. -/
def friendKey? (peer : String) : Update → Option FriendKey
  | friend key => if key.peer = peer then some key else none
  | _ => none

/-- The key of a group that an update tells. -/
def groupKey? (group : String) : Update → Option GroupKey
  | Update.group key => if key.group = group then some key else none
  | _ => none

/-- What some updates say last. -/
def last? {α : Type} (f : Update → Option α) (us : List Update) : Option α :=
  (us.filterMap f).getLast?

theorem last?_append {α : Type} (f : Update → Option α) (us : List Update) (u : Update) :
    last? f (us ++ [u]) = (f u).or (last? f us) :=
  Table.getLast?_filterMap_append f us u

theorem last?_mem {α : Type} {f : Update → Option α} {us : List Update} {a : α}
    (h : last? f us = some a) : ∃ u ∈ us, f u = some a :=
  List.mem_filterMap.mp (List.mem_of_getLast? h)

theorem isSome_last?_iff {α : Type} (f : Update → Option α) (us : List Update) :
    (last? f us).isSome ↔ ∃ u ∈ us, (f u).isSome := by
  rw [last?, List.getLast?_isSome, ne_eq, List.filterMap_eq_nil_iff]
  simp [Option.isSome_iff_ne_none]

theorem friendKey?_eq_some_iff {u : Update} {peer : String} {key : FriendKey} :
    u.friendKey? peer = some key ↔ u = friend key ∧ key.peer = peer := by
  cases u with
  | friend other =>
    simp only [friendKey?, friend.injEq]
    split_ifs with h
    · exact ⟨fun hk => Option.some.inj hk ▸ ⟨rfl, h⟩, fun hk => congrArg some hk.1⟩
    · exact ⟨nofun, fun hk => absurd (hk.1 ▸ hk.2) h⟩
  | nickname _ | localId _ | keyPair _ | group _ => simp [friendKey?]

theorem groupKey?_eq_some_iff {u : Update} {group : String} {key : GroupKey} :
    u.groupKey? group = some key ↔ u = Update.group key ∧ key.group = group := by
  cases u with
  | group other =>
    simp only [groupKey?, Update.group.injEq]
    split_ifs with h
    · exact ⟨fun hk => Option.some.inj hk ▸ ⟨rfl, h⟩, fun hk => congrArg some hk.1⟩
    · exact ⟨nofun, fun hk => absurd (hk.1 ▸ hk.2) h⟩
  | nickname _ | localId _ | keyPair _ | friend _ => simp [groupKey?]

end Update

/-! ### One update -/

/-- The answer to an update, without what it gives back, and the ring that it leaves. -/
def perform (k : KeyRing) : Update → Except Fault Unit × KeyRing
  | .nickname name => ((k.setNickname name).1.map fun _ => (), (k.setNickname name).2)
  | .localId id => ((k.setLocalId id).1.map fun _ => (), (k.setLocalId id).2)
  | .keyPair pair => k.setKeyPair pair
  | .friend key => k.addFriend key
  | .group key => k.addGroup key

/-- The ring with what an update tells. -/
def put (k : KeyRing) : Update → KeyRing
  | .nickname name => { k with identity := { k.identity with nickname := Text.trim name } }
  | .localId id => { k with identity := { k.identity with id := Text.trim id } }
  | .keyPair pair => { k with keyPair := some pair }
  | .friend key => { k with friends := KeyTable.insert key.peer key.publicKey k.friends }
  | .group key => { k with groups := KeyTable.insert key.group key.symmetricKey k.groups }

variable {u : Update}

/-- A complete update is accepted and put in. -/
theorem perform_of_complete (k : KeyRing) (h : u.IsComplete) :
    k.perform u = (.ok (), k.put u) := by
  cases u with
  | nickname name =>
    rw [perform, setNickname_of_trim h]
    rfl
  | localId id =>
    rw [perform, setLocalId_of_trim h]
    rfl
  | keyPair pair => exact setKeyPair_of_complete h.1 h.2
  | friend key => exact addFriend_of_complete h.1 h.2
  | group key => exact addGroup_of_complete h.1 h.2

/-- Another update is refused, and changes nothing. -/
theorem perform_of_incomplete (k : KeyRing) (h : ¬u.IsComplete) :
    ∃ f, k.perform u = (.error f, k) := by
  cases u with
  | nickname name =>
    refine ⟨.empty "nickname", ?_⟩
    rw [perform, setNickname_of_blank (not_not.mp h)]
    rfl
  | localId id =>
    refine ⟨.empty "local id", ?_⟩
    rw [perform, setLocalId_of_blank (not_not.mp h)]
    rfl
  | keyPair pair => exact ⟨_, setKeyPair_of_empty (or_iff_not_and_not.mpr h)⟩
  | friend key => exact addFriend_of_empty (or_iff_not_and_not.mpr h)
  | group key => exact addGroup_of_empty (or_iff_not_and_not.mpr h)

theorem accepts_iff (k : KeyRing) (u : Update) : (k.perform u).1 = .ok () ↔ u.IsComplete := by
  by_cases h : u.IsComplete
  · rw [perform_of_complete k h]
    exact ⟨fun _ => h, fun _ => rfl⟩
  · obtain ⟨f, hf⟩ := perform_of_incomplete k h
    rw [hf]
    exact ⟨nofun, fun hu => absurd hu h⟩

/-- An update that is refused changes nothing. -/
theorem refused_keeps {k : KeyRing} {f : Fault} (h : (k.perform u).1 = .error f) :
    (k.perform u).2 = k := by
  by_cases hu : u.IsComplete
  · rw [perform_of_complete k hu] at h
    cases h
  · obtain ⟨f', hf⟩ := perform_of_incomplete k hu
    rw [hf]

/-! ### Many updates -/

/-- What some updates leave. -/
def after (k : KeyRing) (us : List Update) : KeyRing :=
  us.foldl (fun k u => (k.perform u).2) k

/-- The updates that were accepted among those made one after the other. -/
def accepted (k : KeyRing) : List Update → List Update
  | [] => []
  | u :: us =>
    match k.perform u with
    | (.ok (), k') => u :: accepted k' us
    | (.error _, k') => accepted k' us

/-- The complete updates are accepted. -/
theorem accepted_eq_filter (k : KeyRing) (us : List Update) :
    k.accepted us = us.filter fun u => u.IsComplete := by
  induction us generalizing k with
  | nil => rfl
  | cons u us ih =>
    by_cases hu : u.IsComplete
    · rw [accepted, perform_of_complete k hu, List.filter_cons_of_pos (by simpa using hu)]
      exact congrArg _ (ih _)
    · obtain ⟨f, hf⟩ := perform_of_incomplete k hu
      rw [accepted, hf, List.filter_cons_of_neg (by simpa using hu)]
      exact ih k

/-- The ring has what was put in by the accepted updates, one after the other. -/
theorem after_eq_foldl_put (k : KeyRing) (us : List Update) :
    k.after us = (k.accepted us).foldl put k := by
  induction us generalizing k with
  | nil => rfl
  | cons u us ih =>
    rw [after, List.foldl_cons, ← after, accepted]
    by_cases hu : u.IsComplete
    · rw [perform_of_complete k hu]
      exact ih _
    · obtain ⟨f, hf⟩ := perform_of_incomplete k hu
      rw [hf]
      exact ih k

/-! ### What an accepted update does -/

theorem friend?_put (k : KeyRing) (u : Update) (peer : String) :
    (k.put u).friend? peer = (u.friendKey? peer).or (k.friend? peer) := by
  cases u with
  | friend key =>
    rw [put, friend?_insert, Update.friendKey?]
    split_ifs
    · rfl
    · rfl
  | nickname _ | localId _ | keyPair _ | group _ => rfl

theorem group?_put (k : KeyRing) (u : Update) (group : String) :
    (k.put u).group? group = (u.groupKey? group).or (k.group? group) := by
  cases u with
  | group key =>
    rw [put, group?_insert, Update.groupKey?]
    split_ifs
    · rfl
    · rfl
  | nickname _ | localId _ | keyPair _ | friend _ => rfl

theorem keyPair_put (k : KeyRing) (u : Update) :
    (k.put u).keyPair = u.keyPair?.or k.keyPair := by
  cases u with
  | keyPair _ | nickname _ | localId _ | friend _ | group _ => rfl

theorem nickname_put (k : KeyRing) (u : Update) :
    (k.put u).identity.nickname = u.nickname?.elim k.identity.nickname Text.trim := by
  cases u with
  | nickname _ | localId _ | keyPair _ | friend _ | group _ => rfl

theorem localId_put (k : KeyRing) (u : Update) :
    (k.put u).identity.id = u.localId?.elim k.identity.id Text.trim := by
  cases u with
  | nickname _ | localId _ | keyPair _ | friend _ | group _ => rfl

theorem pairwise_friendIds_put {k : KeyRing} (h : k.friendIds.Pairwise (· < ·)) (u : Update) :
    (k.put u).friendIds.Pairwise (· < ·) := by
  cases u with
  | friend key => exact KeyTable.pairwise_ids_insert h key.peer key.publicKey
  | nickname _ | localId _ | keyPair _ | group _ => exact h

theorem pairwise_groupIds_put {k : KeyRing} (h : k.groupIds.Pairwise (· < ·)) (u : Update) :
    (k.put u).groupIds.Pairwise (· < ·) := by
  cases u with
  | group key => exact KeyTable.pairwise_ids_insert h key.group key.symmetricKey
  | nickname _ | localId _ | keyPair _ | friend _ => exact h

/-! ### What the ring has -/

/-- The ring of a user has what the updates say last, and lists each id once. -/
structure Reflects (id : String) (us : List Update) (k : KeyRing) : Prop where
  friend : ∀ peer, k.friend? peer = Update.last? (Update.friendKey? peer) us
  group : ∀ group, k.group? group = Update.last? (Update.groupKey? group) us
  keyPair : k.keyPair = Update.last? Update.keyPair? us
  nickname : k.identity.nickname = (Update.last? Update.nickname? us).elim "" Text.trim
  localId : k.identity.id = (Update.last? Update.localId? us).elim id Text.trim
  friendIds : k.friendIds.Pairwise (· < ·)
  groupIds : k.groupIds.Pairwise (· < ·)

/-- The friends and the groups of the ring are those that the updates tell of. They are listed in
the order of the bytes of their ids, each of them once. -/
structure Lists (us : List Update) (k : KeyRing) : Prop where
  friend : ∀ peer, (k.friend? peer).isSome ↔ ∃ key, .friend key ∈ us ∧ key.peer = peer
  hasFriend : ∀ peer, k.hasFriend peer = (k.friend? peer).isSome
  mem_friendIds : ∀ peer, peer ∈ k.friendIds ↔ (k.friend? peer).isSome
  friendIds : k.friendIds.Pairwise fun peer other => Bytes.ofText peer < Bytes.ofText other
  group : ∀ group, (k.group? group).isSome ↔ ∃ key, .group key ∈ us ∧ key.group = group
  hasGroup : ∀ group, k.hasGroup group = (k.group? group).isSome
  mem_groupIds : ∀ group, group ∈ k.groupIds ↔ (k.group? group).isSome
  groupIds : k.groupIds.Pairwise fun group other => Bytes.ofText group < Bytes.ofText other

/-- No id and no key that the ring has is empty. -/
structure NothingEmpty (k : KeyRing) : Prop where
  friends : ∀ peer publicKey, (peer, publicKey) ∈ k.friends → peer ≠ "" ∧ publicKey ≠ []
  groups : ∀ group symmetricKey, (group, symmetricKey) ∈ k.groups →
    group ≠ "" ∧ symmetricKey ≠ []
  keyPair : ∀ pair, k.keyPair = some pair → pair.privateKey ≠ [] ∧ pair.publicKey ≠ []

variable {id : String} {us : List Update} {k : KeyRing}

/-- One more update says what it tells last, and the rest stays as it is. -/
theorem Reflects.put (h : Reflects id us k) (u : Update) : Reflects id (us ++ [u]) (k.put u) where
  friend peer := by rw [friend?_put, h.friend, Update.last?_append]
  group group := by rw [group?_put, h.group, Update.last?_append]
  keyPair := by rw [keyPair_put, h.keyPair, Update.last?_append]
  nickname := by
    rw [nickname_put, h.nickname, Update.last?_append]
    cases u.nickname? with
    | none => rfl
    | some name => rfl
  localId := by
    rw [localId_put, h.localId, Update.last?_append]
    cases u.localId? with
    | none => rfl
    | some id => rfl
  friendIds := pairwise_friendIds_put h.friendIds u
  groupIds := pairwise_groupIds_put h.groupIds u

theorem reflects_ofId (id : String) : Reflects id [] (ofId id) where
  friend _ := rfl
  group _ := rfl
  keyPair := rfl
  nickname := rfl
  localId := rfl
  friendIds := .nil
  groupIds := .nil

/-- After some more updates the ring has what all of them say last. -/
theorem Reflects.foldl_put {before : List Update} (h : Reflects id before k) (us : List Update) :
    Reflects id (before ++ us) (us.foldl KeyRing.put k) := by
  induction us generalizing before k with
  | nil => rwa [List.append_nil]
  | cons u us ih =>
    rw [List.append_cons]
    exact ih (h.put u)

/-! ### What follows -/

theorem Reflects.friend?_ok (h : Reflects id us k) {peer : String} {key : FriendKey}
    (hkey : k.friend? peer = some key) : .friend key ∈ us ∧ key.peer = peer := by
  rw [h.friend] at hkey
  obtain ⟨u, hu, htold⟩ := Update.last?_mem hkey
  obtain ⟨rfl, hpeer⟩ := Update.friendKey?_eq_some_iff.mp htold
  exact ⟨hu, hpeer⟩

theorem Reflects.group?_ok (h : Reflects id us k) {group : String} {key : GroupKey}
    (hkey : k.group? group = some key) : .group key ∈ us ∧ key.group = group := by
  rw [h.group] at hkey
  obtain ⟨u, hu, htold⟩ := Update.last?_mem hkey
  obtain ⟨rfl, hgroup⟩ := Update.groupKey?_eq_some_iff.mp htold
  exact ⟨hu, hgroup⟩

theorem Reflects.lists (h : Reflects id us k) : Lists us k where
  friend peer := by
    rw [h.friend, Update.isSome_last?_iff]
    simp only [Option.isSome_iff_exists, Update.friendKey?_eq_some_iff]
    exact ⟨fun ⟨_, hu, key, hkey, hpeer⟩ => ⟨key, hkey ▸ hu, hpeer⟩,
      fun ⟨key, hu, hpeer⟩ => ⟨_, hu, key, rfl, hpeer⟩⟩
  hasFriend := k.hasFriend_eq
  mem_friendIds := k.mem_friendIds_iff
  friendIds := h.friendIds.imp Bytes.ofText_lt_ofText
  group group := by
    rw [h.group, Update.isSome_last?_iff]
    simp only [Option.isSome_iff_exists, Update.groupKey?_eq_some_iff]
    exact ⟨fun ⟨_, hu, key, hkey, hgroup⟩ => ⟨key, hkey ▸ hu, hgroup⟩,
      fun ⟨key, hu, hgroup⟩ => ⟨_, hu, key, rfl, hgroup⟩⟩
  hasGroup := k.hasGroup_eq
  mem_groupIds := k.mem_groupIds_iff
  groupIds := h.groupIds.imp Bytes.ofText_lt_ofText

/-- A ring that has what complete updates say has nothing empty. -/
theorem Reflects.nothingEmpty (h : Reflects id us k) (hus : ∀ u ∈ us, u.IsComplete) :
    NothingEmpty k where
  friends peer publicKey he := by
    have hfound : k.friend? peer = some ⟨peer, publicKey⟩ :=
      congrArg (Option.map _) ((Table.lookup_eq_some_iff_mem (h.friendIds.imp ne_of_lt)).mpr he)
    exact hus _ (h.friend?_ok hfound).1
  groups group symmetricKey he := by
    have hfound : k.group? group = some ⟨group, symmetricKey⟩ :=
      congrArg (Option.map _) ((Table.lookup_eq_some_iff_mem (h.groupIds.imp ne_of_lt)).mpr he)
    exact hus _ (h.group?_ok hfound).1
  keyPair pair hpair := by
    rw [h.keyPair] at hpair
    obtain ⟨u, hu, htold⟩ := Update.last?_mem hpair
    cases u with
    | keyPair other => exact Option.some.inj htold ▸ hus _ hu
    | nickname _ | localId _ | friend _ | group _ => cases htold

/-- **The last accepted update counts.** After any updates the key ring of a user has what the
accepted ones say last: the key of a friend and of a group each for itself, the local key pair,
and the nickname and the local id without the blanks around them. A key is found just for those
that an accepted update tells of, and they are listed in the order of the bytes of their ids. No id
and no key is empty. An update that is refused changes nothing, whatever the ring has. -/
theorem lastAccepted_kept (id : String) (us : List Update) :
    Reflects id ((ofId id).accepted us) ((ofId id).after us) ∧
      Lists ((ofId id).accepted us) ((ofId id).after us) ∧
      NothingEmpty ((ofId id).after us) ∧
      (∀ peer key, ((ofId id).after us).friend? peer = some key → key.peer = peer) ∧
      (∀ group key, ((ofId id).after us).group? group = some key → key.group = group) ∧
      ∀ (k : KeyRing) (u : Update) (f : Fault), (k.perform u).1 = .error f → (k.perform u).2 = k := by
  have hcomplete : ∀ u ∈ (ofId id).accepted us, u.IsComplete := by
    intro u hu
    rw [accepted_eq_filter, List.mem_filter] at hu
    exact of_decide_eq_true hu.2
  have hring : Reflects id ((ofId id).accepted us) ((ofId id).after us) := by
    rw [after_eq_foldl_put]
    exact (reflects_ofId id).foldl_put _
  exact ⟨hring, hring.lists, hring.nothingEmpty hcomplete, fun _ _ h => (hring.friend?_ok h).2,
    fun _ _ h => (hring.group?_ok h).2, fun _ _ _ => refused_keeps⟩

end ChatRouting.KeyRing
