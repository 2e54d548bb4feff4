import ChatRouting.KeyRing
import ChatRouting.Proofs.Table
import Mathlib.Data.String.Basic
import Mathlib.Tactic.SplitIfs

/-!
# What is known after a key is added

A key that is added is found under its id, and nothing else that can be looked up changes. An
update of the key ring that is accepted puts one thing in and leaves the rest as it is. One with
something empty in it is refused.

## Main results

* `KeyTable.find?_insert`, `KeyTable.mem_ids_iff`
* `KeyTable.pairwise_ids_insert`: the ids stay in order
* `KeyRing.setNickname_ok` and so on: what an accepted update puts in
* `KeyRing.friend?_insert`, `KeyRing.group?_insert`: look-ups after it
-/

namespace ChatRouting

namespace KeyTable

/-- The key of one id is put in, and the others stay. -/
theorem find?_insert (t : KeyTable) (id other : String) (key : Bytes) :
    find? (insert id key t) other = if other = id then some key else find? t other := by
  induction t with
  | nil => exact Table.lookup_cons [] id key other
  | cons e t ih =>
    obtain ⟨head, old⟩ := e
    simp only [find?] at ih ⊢
    by_cases hlt : id < head
    · rw [insert, if_pos hlt]
      exact Table.lookup_cons _ id key other
    · by_cases heq : id = head
      · rw [insert, if_neg hlt, if_pos heq, ← heq, Table.lookup_cons, Table.lookup_cons]
        split_ifs
        · rfl
        · rfl
      · rw [insert, if_neg hlt, if_neg heq, Table.lookup_cons, Table.lookup_cons, ih]
        by_cases h : other = head
        · rw [if_pos h, if_pos h, if_neg fun hid => heq (hid.symm.trans h)]
        · rw [if_neg h, if_neg h]

/-- The ids that are listed are those under which there is a key. -/
theorem mem_ids_iff (t : KeyTable) (id : String) : id ∈ ids t ↔ (find? t id).isSome :=
  (Table.lookup_isSome_iff t id).symm

theorem mem_ids_insert_iff (t : KeyTable) (id other : String) (key : Bytes) :
    other ∈ ids (insert id key t) ↔ other = id ∨ other ∈ ids t := by
  rw [mem_ids_iff, mem_ids_iff, find?_insert]
  split_ifs with h
  · simp [h]
  · simp [h]

/-- The ids stay in increasing order, each of them once. -/
theorem pairwise_ids_insert {t : KeyTable} (h : (ids t).Pairwise (· < ·)) (id : String)
    (key : Bytes) : (ids (insert id key t)).Pairwise (· < ·) := by
  induction t with
  | nil => exact List.pairwise_singleton _ id
  | cons e t ih =>
    obtain ⟨head, old⟩ := e
    obtain ⟨hhead, hrest⟩ := List.pairwise_cons.mp h
    rw [insert]
    split_ifs with hlt heq
    · refine List.pairwise_cons.mpr ⟨List.forall_mem_cons.mpr ⟨hlt, fun other hother => ?_⟩, h⟩
      exact lt_trans hlt (hhead other hother)
    · rw [heq]
      exact h
    · refine List.pairwise_cons.mpr ⟨fun other hother => ?_, ih hrest⟩
      rcases (mem_ids_insert_iff t id other key).mp hother with rfl | hother
      · exact lt_of_le_of_ne (not_lt.mp hlt) (Ne.symm heq)
      · exact hhead other hother

end KeyTable

namespace KeyRing

variable {k k' : KeyRing}

/-! ### What an update puts in -/

theorem setNickname_ok {nickname : String} {identity : Identity}
    (h : k.setNickname nickname = (.ok identity, k')) :
    identity = { k.identity with nickname := Text.trim nickname } ∧ k' = { k with identity } := by
  simp only [setNickname] at h
  split at h
  · cases h
  · cases h
    exact ⟨rfl, rfl⟩

theorem setNickname_of_blank {nickname : String} (h : Text.trim nickname = "") :
    k.setNickname nickname = (.error (.empty "nickname"), k) := by
  have hcheck : requireNonempty (Text.trim nickname) "nickname" = .error (.empty "nickname") :=
    if_pos h
  simp only [setNickname, hcheck]

theorem setNickname_of_trim {nickname : String} (h : Text.trim nickname ≠ "") :
    k.setNickname nickname = (.ok { k.identity with nickname := Text.trim nickname },
      { k with identity := { k.identity with nickname := Text.trim nickname } }) := by
  have hcheck : requireNonempty (Text.trim nickname) "nickname" = .ok () := if_neg h
  simp only [setNickname, hcheck]

theorem setLocalId_of_blank {id : String} (h : Text.trim id = "") :
    k.setLocalId id = (.error (.empty "local id"), k) := by
  have hcheck : requireNonempty (Text.trim id) "local id" = .error (.empty "local id") := if_pos h
  simp only [setLocalId, hcheck]

theorem setLocalId_of_trim {id : String} (h : Text.trim id ≠ "") :
    k.setLocalId id = (.ok { k.identity with id := Text.trim id },
      { k with identity := { k.identity with id := Text.trim id } }) := by
  have hcheck : requireNonempty (Text.trim id) "local id" = .ok () := if_neg h
  simp only [setLocalId, hcheck]

/-- At most the local id changes. -/
theorem setLocalId_eq (k : KeyRing) (id : String) :
    ∃ id', (k.setLocalId id).2 = { k with identity := { k.identity with id := id' } } := by
  by_cases h : Text.trim id = ""
  · exact ⟨k.identity.id, by rw [setLocalId_of_blank h]⟩
  · exact ⟨_, by rw [setLocalId_of_trim h]⟩

theorem setKeyPair_ok {pair : KeyPair} (h : k.setKeyPair pair = (.ok (), k')) :
    k' = { k with keyPair := some pair } := by
  rw [setKeyPair] at h
  split_ifs at h
  · cases h
  · cases h
    rfl

theorem setKeyPair_of_complete {pair : KeyPair} (hprivate : pair.privateKey ≠ [])
    (hpublic : pair.publicKey ≠ []) :
    k.setKeyPair pair = (.ok (), { k with keyPair := some pair }) := by
  rw [setKeyPair, if_neg (not_or.mpr ⟨hprivate, hpublic⟩)]

theorem setKeyPair_of_empty {pair : KeyPair} (h : pair.privateKey = [] ∨ pair.publicKey = []) :
    k.setKeyPair pair = (.error (.empty "local keypair"), k) := by
  rw [setKeyPair, if_pos h]

theorem addFriend_ok {key : FriendKey} (h : k.addFriend key = (.ok (), k')) :
    k' = { k with friends := KeyTable.insert key.peer key.publicKey k.friends } := by
  rw [addFriend] at h
  split at h
  · cases h
  · split_ifs at h
    · cases h
    · cases h
      rfl

theorem addFriend_of_complete {key : FriendKey} (hpeer : key.peer ≠ "")
    (hkey : key.publicKey ≠ []) :
    k.addFriend key =
      (.ok (), { k with friends := KeyTable.insert key.peer key.publicKey k.friends }) := by
  have hcheck : requireNonempty key.peer "peer id" = .ok () := if_neg hpeer
  simp only [addFriend, hcheck, if_neg hkey]

theorem addFriend_of_empty {key : FriendKey} (h : key.peer = "" ∨ key.publicKey = []) :
    ∃ f, k.addFriend key = (.error f, k) := by
  by_cases hpeer : key.peer = ""
  · have hcheck : requireNonempty key.peer "peer id" = .error (.empty "peer id") := if_pos hpeer
    exact ⟨.empty "peer id", by simp only [addFriend, hcheck]⟩
  · have hcheck : requireNonempty key.peer "peer id" = .ok () := if_neg hpeer
    exact ⟨.invalidInput s!"public key for {key.peer} is empty",
      by simp only [addFriend, hcheck, if_pos (h.resolve_left hpeer)]⟩

theorem addGroup_ok {key : GroupKey} (h : k.addGroup key = (.ok (), k')) :
    k' = { k with groups := KeyTable.insert key.group key.symmetricKey k.groups } := by
  rw [addGroup] at h
  split at h
  · cases h
  · split_ifs at h
    · cases h
    · cases h
      rfl

theorem addGroup_of_complete {key : GroupKey} (hgroup : key.group ≠ "")
    (hkey : key.symmetricKey ≠ []) :
    k.addGroup key =
      (.ok (), { k with groups := KeyTable.insert key.group key.symmetricKey k.groups }) := by
  have hcheck : requireNonempty key.group "group id" = .ok () := if_neg hgroup
  simp only [addGroup, hcheck, if_neg hkey]

theorem addGroup_of_empty {key : GroupKey} (h : key.group = "" ∨ key.symmetricKey = []) :
    ∃ f, k.addGroup key = (.error f, k) := by
  by_cases hgroup : key.group = ""
  · have hcheck : requireNonempty key.group "group id" = .error (.empty "group id") :=
      if_pos hgroup
    exact ⟨.empty "group id", by simp only [addGroup, hcheck]⟩
  · have hcheck : requireNonempty key.group "group id" = .ok () := if_neg hgroup
    exact ⟨.invalidInput s!"symmetric key for {key.group} is empty",
      by simp only [addGroup, hcheck, if_pos (h.resolve_left hgroup)]⟩

/-! ### Look-ups -/

theorem friend?_insert (k : KeyRing) (key : FriendKey) (peer : String) :
    { k with friends := KeyTable.insert key.peer key.publicKey k.friends }.friend? peer =
      if key.peer = peer then some key else k.friend? peer := by
  simp only [friend?, KeyTable.find?_insert]
  by_cases h : key.peer = peer
  · rw [if_pos h, if_pos h.symm, ← h]
    rfl
  · rw [if_neg h, if_neg (Ne.symm h)]

theorem group?_insert (k : KeyRing) (key : GroupKey) (group : String) :
    { k with groups := KeyTable.insert key.group key.symmetricKey k.groups }.group? group =
      if key.group = group then some key else k.group? group := by
  simp only [group?, KeyTable.find?_insert]
  by_cases h : key.group = group
  · rw [if_pos h, if_pos h.symm, ← h]
    rfl
  · rw [if_neg h, if_neg (Ne.symm h)]

theorem hasFriend_eq (k : KeyRing) (peer : String) : k.hasFriend peer = (k.friend? peer).isSome :=
  Option.isSome_map.symm

theorem hasGroup_eq (k : KeyRing) (group : String) : k.hasGroup group = (k.group? group).isSome :=
  Option.isSome_map.symm

theorem mem_friendIds_iff (k : KeyRing) (peer : String) :
    peer ∈ k.friendIds ↔ (k.friend? peer).isSome := by
  rw [friendIds, KeyTable.mem_ids_iff, friend?, Option.isSome_map]

theorem mem_groupIds_iff (k : KeyRing) (group : String) :
    group ∈ k.groupIds ↔ (k.group? group).isSome := by
  rw [groupIds, KeyTable.mem_ids_iff, group?, Option.isSome_map]

end KeyRing

end ChatRouting
