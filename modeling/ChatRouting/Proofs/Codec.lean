import ChatRouting.Codec.Event
import ChatRouting.Codec.Keys
import ChatRouting.Options
import ChatRouting.Proofs.Json.Decoding

/-!
# Values that travel as JSON

Ten types travel as JSON. A value of each of them is read back from the text that is written for it:
a text of any characters, a key of any bytes, any time of sixty-four bits, and what is absent. So
reading a text and writing its value again gives a canonical form of the text, which another round
does not change.

A session is written with a mark that says whether it is a group's, which is worked out from its
target. Reading skips the mark, so that a canonical form is marked right whatever was claimed.

## Main definitions

* `Schema`, `Schema.Value`: the types and their values
* `Schema.write`, `Schema.read?`, `Schema.canonical?`
* `Json.MarksGroup`: the mark of a session agrees with its target

## Main results

* `Schema.read?_write`: a value is read back from its text
* `Schema.round_trip`: canonical forms
-/

namespace ChatRouting

open Json (text? bool? isDecimal isSound depth Place)

/-! ### Identities, keys and options -/

theorem Identity.ofJson?_toJson (i : Identity) : Identity.ofJson? i.toJson = some i := by
  rw [Identity.ofJson?, Identity.toJson, Json.Fields.ofJson?_record _ (by simp)]
  simp [Json.Fields.required, Json.Fields.find?, List.lookup_cons]

/-- The bytes of a key are read back from their hexadecimal text. -/
@[simp] theorem Json.hexBytes?_encode (bytes : Bytes) :
    Json.hexBytes? (.text (Hex.encode bytes)) = some bytes :=
  Hex.decode?_encode bytes

theorem FriendKey.ofJson?_toJson (k : FriendKey) : FriendKey.ofJson? k.toJson = some k := by
  rw [FriendKey.ofJson?, FriendKey.toJson, Json.Fields.ofJson?_record _ (by simp)]
  simp [Json.Fields.required, Json.Fields.find?, List.lookup_cons]

theorem GroupKey.ofJson?_toJson (k : GroupKey) : GroupKey.ofJson? k.toJson = some k := by
  rw [GroupKey.ofJson?, GroupKey.toJson, Json.Fields.ofJson?_record _ (by simp)]
  simp [Json.Fields.required, Json.Fields.find?, List.lookup_cons]

theorem Options.ofJson?_toJson (o : Options) : Options.ofJson? o.toJson = some o := by
  rw [Options.ofJson?, Options.toJson, Json.Fields.ofJson?_record _ (by simp)]
  simp [Json.Fields.defaulted, Json.Fields.find?, List.lookup_cons, bool?]

/-! ### Targets, messages and sessions -/

theorem Target.ofJson?_toJson {place : Place} {t : Target} (hplace : place.admits t.toJson) :
    Target.ofJson? place t.toJson = some t := by
  rcases t with peer | id
  · rw [Target.ofJson?, Target.toJson, Json.tagged?_record hplace (by simp) (by simp)]
    simp [Json.Fields.ofJson?_record, Json.Fields.required, Json.Fields.find?]
  · rw [Target.ofJson?, Target.toJson, Json.tagged?_record hplace (by simp) (by simp)]
    simp [Json.Fields.ofJson?_record, Json.Fields.required, Json.Fields.find?]

theorem Message.ofJson?_members (m : Message) :
    Message.ofJson? (.record m.members) = some m := by
  rw [Message.ofJson?, Json.Fields.ofJson?_record _ (by simp [Message.members])]
  simp [Message.members, Json.Fields.required, Json.Fields.defaulted, Json.Fields.find?,
    List.lookup_cons, bool?]

theorem Instant.ofJson?_toJson (i : Instant) : Instant.ofJson? i.toJson = some i := by
  simp [Instant.ofJson?, Instant.toJson, Instant.ofMillis?, i.inRange]

theorem Session.ofJson?_toJson {place : Place} {s : Session}
    (hplace : (Session.inside place).admits s.target.toJson) :
    Session.ofJson? place s.toJson = some s := by
  have htime : Json.nullable Instant.ofJson? (s.lastTime.elim .null Instant.toJson)
      = some s.lastTime := by
    rcases s.lastTime with _ | i
    · rfl
    · exact congrArg (Option.map some) (Instant.ofJson?_toJson i)
  rw [Session.ofJson?, Session.toJson, Json.Fields.ofJson?_record _ (by simp)]
  simp [Json.Fields.required, Json.Fields.optional, Json.Fields.find?, List.lookup_cons,
    Target.ofJson?_toJson hplace, htime]

theorem Message.toJson_injective : Function.Injective Message.toJson := by
  intro m m' h
  have hread (m : Message) : Message.ofJson? m.toJson = some m := m.ofJson?_members
  rw [← Option.some.injEq, ← hread m, h, hread m']

theorem Session.toJson_injective : Function.Injective Session.toJson := by
  intro s s' h
  have hread (s : Session) : Session.ofJson? .tagged s.toJson = some s :=
    Session.ofJson?_toJson rfl
  rw [← Option.some.injEq, ← hread s, h, hread s']

/-! ### Events, notices and notifications -/

theorem InboundEvent.ofJson?_toJson {place : Place} {e : InboundEvent}
    (hplace : place.admits e.toJson) : InboundEvent.ofJson? place e.toJson = some e := by
  rcases e with m | ⟨reason, timestamp⟩
  · rw [InboundEvent.ofJson?, InboundEvent.toJson,
      Json.tagged?_record hplace (by simp) (by simp [Message.members])]
    simp [Message.ofJson?_members]
  · rw [InboundEvent.ofJson?, InboundEvent.toJson,
      Json.tagged?_record hplace (by simp) (by simp)]
    simp [InboundEvent.transportErrorOfJson?, Json.Fields.ofJson?_record, Json.Fields.required,
      Json.Fields.defaulted, Json.Fields.find?, List.lookup_cons]

theorem NoticeKind.ofJson?_name (place : Place) (k : NoticeKind) :
    NoticeKind.ofJson? place (.text k.name) = some k := by
  cases k <;> simp [NoticeKind.ofJson?, Json.choice?, NoticeKind.name, Json.text]

theorem Notice.ofJson?_members (place : Place) (n : Notice) :
    Notice.ofJson? place (.record n.members) = some n := by
  rw [Notice.ofJson?, Json.Fields.ofJson?_record _ (by simp [Notice.members])]
  simp [Notice.members, Json.Fields.required, Json.Fields.optional, Json.Fields.find?,
    List.lookup_cons, NoticeKind.ofJson?_name]

theorem Notice.toJson_injective : Function.Injective Notice.toJson := by
  intro n n' h
  have hread (n : Notice) : Notice.ofJson? .tagged n.toJson = some n := n.ofJson?_members _
  rw [← Option.some.injEq, ← hread n, h, hread n']

theorem Notification.ofJson?_toJson {place : Place} {n : Notification}
    (hplace : place.admits n.toJson) : Notification.ofJson? place n.toJson = some n := by
  rcases n with ⟨s, m⟩ | n
  · rw [Notification.ofJson?, Notification.toJson,
      Json.tagged?_record hplace (by simp) (by simp)]
    have hs : Session.ofJson? .tagged s.toJson = some s := Session.ofJson?_toJson rfl
    simp [Json.Fields.ofJson?_record, Json.Fields.required, Json.Fields.find?, List.lookup_cons, hs,
      Message.toJson, Message.ofJson?_members]
  · rw [Notification.ofJson?, Notification.toJson,
      Json.tagged?_record hplace (by simp) (by simp [Notice.members])]
    simp [Notice.ofJson?_members]

/-! ### What a tagged value must be -/

theorem Target.isSound_toJson (t : Target) : t.toJson.isSound := by
  cases t <;> simp [Target.toJson]

theorem Target.depth_toJson_le (t : Target) : t.toJson.depth ≤ 1 := by
  cases t <;> exact Json.depth_record_le (by simp)

theorem Instant.isSound_toJson (i : Instant) : i.toJson.isSound := by
  have hrange := i.inRange
  exact Numeral.isFinite_ofInt (by simp only [Numeral.significandBound]; omega)

/-- A time that may be absent is a sound value without depth, and its decimals are digits. -/
theorem Instant.elim_toJson (time : Option Instant) :
    (time.elim Json.null Instant.toJson).isSound ∧ (time.elim Json.null Instant.toJson).depth = 0 ∧
      (time.elim Json.null Instant.toJson).isDecimal := by
  rcases time with _ | i
  · simp [isSound, depth, isDecimal]
  · exact ⟨i.isSound_toJson, by simp [toJson, Json.int, depth], Json.isDecimal_int i.millis⟩

theorem Session.isSound_toJson (s : Session) : s.toJson.isSound := by
  simp [Session.toJson, isSound, s.target.isSound_toJson, Instant.elim_toJson]

theorem Session.depth_toJson_le (s : Session) : s.toJson.depth ≤ 2 :=
  Json.depth_record_le (by simp [depth, s.target.depth_toJson_le, Instant.elim_toJson])

theorem Message.isSound_toJson (m : Message) : m.toJson.isSound := by
  simp [Message.toJson, Message.members, isSound]

theorem Message.depth_toJson_le (m : Message) : m.toJson.depth ≤ 1 :=
  Json.depth_record_le (by simp [Message.members, depth])

theorem InboundEvent.isSound_toJson (e : InboundEvent) : e.toJson.isSound := by
  cases e <;> simp [InboundEvent.toJson, Message.members, isSound]

theorem InboundEvent.depth_toJson_le (e : InboundEvent) : e.toJson.depth ≤ 1 := by
  cases e <;> exact Json.depth_record_le (by simp [Message.members, depth])

theorem Notification.isSound_toJson (n : Notification) : n.toJson.isSound := by
  rcases n with ⟨s, m⟩ | n
  · simp [Notification.toJson, s.isSound_toJson, m.isSound_toJson]
  · simp [Notification.toJson, Notice.members]

theorem Notification.depth_toJson_le (n : Notification) : n.toJson.depth ≤ 3 := by
  rcases n with ⟨s, m⟩ | n
  · have hs := s.depth_toJson_le
    have hm := m.depth_toJson_le
    exact Json.depth_record_le (by simp; omega)
  · exact Json.depth_record_le (by simp [Notice.members])

/-! ### Texts -/

/-- The types whose values travel as JSON. -/
inductive Schema where
  | identity
  | friendKey
  | groupKey
  | target
  | message
  | session
  | event
  | notice
  | notification
  | options

namespace Schema

/-- The values of a type. -/
def Value : Schema → Type
  | identity => Identity
  | friendKey => FriendKey
  | groupKey => GroupKey
  | target => Target
  | message => Message
  | session => Session
  | event => InboundEvent
  | notice => Notice
  | notification => Notification
  | options => Options

/-- The JSON of a value. -/
def toJson : (t : Schema) → t.Value → Json
  | identity => Identity.toJson
  | friendKey => FriendKey.toJson
  | groupKey => GroupKey.toJson
  | target => Target.toJson
  | message => Message.toJson
  | session => Session.toJson
  | event => InboundEvent.toJson
  | notice => Notice.toJson
  | notification => Notification.toJson
  | options => Options.toJson

/-- The value of the JSON of a whole text. -/
def ofJson? : (t : Schema) → Json → Option t.Value
  | identity => Identity.ofJson?
  | friendKey => FriendKey.ofJson?
  | groupKey => GroupKey.ofJson?
  | target => Target.ofJson? (.text 0)
  | message => Message.ofJson?
  | session => Session.ofJson? (.text 0)
  | event => InboundEvent.ofJson? (.text 0)
  | notice => Notice.ofJson? (.text 0)
  | notification => Notification.ofJson? (.text 0)
  | options => Options.ofJson?

/-- The compact text of a value. -/
def write (t : Schema) (v : t.Value) : String :=
  (t.toJson v).compact

/-- The value of a text. -/
def read? (t : Schema) (s : String) : Option t.Value :=
  (Json.parse s).bind t.ofJson?

/-- The text of the value of a text. -/
def canonical? (t : Schema) (s : String) : Option String :=
  (t.read? s).map t.write

/-- Every decimal that is written is a digit. -/
theorem isDecimal_toJson (t : Schema) (v : t.Value) : (t.toJson v).isDecimal := by
  have htarget (v : Target) : v.toJson.isDecimal := by
    rcases v with peer | id <;> simp [Target.toJson]
  have hmessage (m : Message) : m.members.all fun n => n.2.isDecimal := by
    simp [Message.members, isDecimal]
  have hsession (s : Session) : s.toJson.isDecimal := by
    simp [Session.toJson, isDecimal, htarget, Instant.elim_toJson]
  have hnotice (n : Notice) : n.members.all fun n => n.2.isDecimal := by
    simp [Notice.members]
  cases t with
  | identity => simp [toJson, Identity.toJson]
  | friendKey => simp [toJson, FriendKey.toJson]
  | groupKey => simp [toJson, GroupKey.toJson]
  | target => exact htarget v
  | message => exact (Json.isDecimal_record _).trans (hmessage v)
  | session => exact hsession v
  | event =>
    rcases v with m | ⟨reason, timestamp⟩
    · simpa [toJson, InboundEvent.toJson] using hmessage m
    · simp [toJson, InboundEvent.toJson]
  | notice => exact (Json.isDecimal_record _).trans (hnotice v)
  | notification =>
    rcases v with ⟨s, m⟩ | n
    · simpa [toJson, Notification.toJson, Message.toJson, hsession] using hmessage m
    · simpa [toJson, Notification.toJson] using hnotice n
  | options => simp [toJson, Options.toJson, isDecimal]

/-- The JSON of a value gives the value back. -/
theorem ofJson?_toJson (t : Schema) (v : t.Value) : t.ofJson? (t.toJson v) = some v := by
  cases t with
  | identity => exact Identity.ofJson?_toJson v
  | friendKey => exact FriendKey.ofJson?_toJson v
  | groupKey => exact GroupKey.ofJson?_toJson v
  | target =>
    exact Target.ofJson?_toJson
      (Json.admits_of_isSound (Target.isSound_toJson v) (Target.depth_toJson_le v) (by decide))
  | message => exact Message.ofJson?_members v
  | session =>
    exact Session.ofJson?_toJson (Json.admits_of_isSound (Target.isSound_toJson (Session.target v))
      (Target.depth_toJson_le (Session.target v)) (by decide))
  | event =>
    exact InboundEvent.ofJson?_toJson (Json.admits_of_isSound (InboundEvent.isSound_toJson v)
      (InboundEvent.depth_toJson_le v) (by decide))
  | notice => exact Notice.ofJson?_members _ v
  | notification =>
    exact Notification.ofJson?_toJson (Json.admits_of_isSound (Notification.isSound_toJson v)
      (Notification.depth_toJson_le v) (by decide))
  | options => exact Options.ofJson?_toJson v

/-- **A value is read back from its text.** -/
theorem read?_write (t : Schema) (v : t.Value) : t.read? (t.write v) = some v := by
  rw [read?, write, Json.parse_compact (t.isDecimal_toJson v), Option.bind_some, t.ofJson?_toJson]

end Schema

/-! ### The mark of a group -/

namespace Json

/-- The target in the object of a session is a group. -/
def targetsGroup (session : Json) : Bool :=
  match (session.member? "target").bind (member? "kind") with
  | some (.string (some kind)) => kind == "group"
  | _ => false

/-- The object of a session is marked as a group's exactly if its target is a group. -/
def MarksGroup (session : Json) : Prop :=
  session.member? "isGroup" = some (.bool session.targetsGroup)

/-- The members of an object but for the marks of a group. -/
def unmarked (members : List (Literal × Json)) : List (Literal × Json) :=
  members.filter fun m => m.1 ≠ some "isGroup"

end Json

/-- The mark of a session that is written is worked out from its target. -/
theorem Session.marksGroup_toJson (s : Session) : s.toJson.MarksGroup := by
  rcases s with ⟨id, name, peer | group, lastMessage, lastTime⟩ <;>
    simp [Json.MarksGroup, Json.targetsGroup, Json.member?, toJson, isGroup, Target.isGroup,
      Target.toJson, Json.record, Json.text, List.lookup_cons]

namespace Schema

/-- Every session in the JSON of a value of the type is marked right. -/
def MarksGroups : Schema → Json → Prop
  | session, j => j.MarksGroup
  | notification, j => ∀ s, j.member? "session" = some s → s.MarksGroup
  | _, _ => True

theorem marksGroups_toJson (t : Schema) (v : t.Value) : t.MarksGroups (t.toJson v) := by
  cases t with
  | session => exact Session.marksGroup_toJson v
  | notification =>
    intro j hj
    rcases v with ⟨s, m⟩ | n
    · obtain rfl : s.toJson = j := by
        simpa [toJson, Notification.toJson, Json.record, Json.member?, List.lookup_cons] using hj
      exact s.marksGroup_toJson
    · simp [toJson, Notification.toJson, Notice.members, Json.record, Json.member?,
        List.lookup_cons] at hj
  | _ => trivial

/-- What an object says about being a group's does not enter its session. -/
theorem session_ofJson?_unmarked (members : List (Literal × Json)) :
    session.ofJson? (.object (Json.unmarked members)) = session.ofJson? (.object members) := by
  simp only [ofJson?, Session.ofJson?, Json.unmarked]
  rw [Json.Fields.ofJson?_without (by simp)]

/-- **JSON round trip.** A value of any type that travels as JSON is read back from its text. So
the canonical form of a text that is read, its value written again, is its own canonical form. A
session in it is marked as a group's exactly if its target is a group, and texts of sessions that
differ in what they say about that have one canonical form. -/
theorem round_trip (t : Schema) :
    (∀ v : t.Value, t.read? (t.write v) = some v) ∧
    (∀ s c, t.canonical? s = some c →
      t.canonical? c = some c ∧ ∃ j, Json.parse c = some j ∧ t.MarksGroups j) ∧
    ∀ s s' members members', Json.parse s = some (.object members) →
      Json.parse s' = some (.object members') → Json.unmarked members = Json.unmarked members' →
      session.canonical? s = session.canonical? s' := by
  refine ⟨t.read?_write, ?_, ?_⟩
  · intro s c hc
    obtain ⟨v, -, rfl⟩ := Option.map_eq_some_iff.mp hc
    refine ⟨?_, t.toJson v, Json.parse_compact (t.isDecimal_toJson v), t.marksGroups_toJson v⟩
    rw [canonical?, t.read?_write, Option.map_some]
  · intro s s' members members' hs hs' hsame
    rw [canonical?, canonical?, read?, read?, hs, hs', Option.bind_some, Option.bind_some,
      ← session_ofJson?_unmarked, hsame, session_ofJson?_unmarked]

/-- The members of a direct session's object that claims to be a group's, or not to be. -/
def claiming (claim : Bool) : List (Literal × Json) :=
  [(some "isGroup", .bool claim), (some "id", .text "c"), (some "displayName", .text "Direct bob"),
    (some "target", .record [("peerId", .text "bob"), ("kind", .text "direct")]),
    (some "lastTimeEpochMs", .int (-9223372036854775808))]

/-- The canonical text of that session. -/
def unclaimed : String :=
  "\x7b\"id\":\"c\",\"displayName\":\"Direct bob\",\"isGroup\":false," ++
  "\"target\":\x7b\"kind\":\"direct\",\"peerId\":\"bob\"\x7d," ++
  "\"lastMessage\":null,\"lastTimeEpochMs\":-9223372036854775808\x7d"

/-- The claim to be a group's is gone from the canonical text. -/
theorem round_trip_claiming :
    session.canonical? (Json.object (claiming true)).compact = some unclaimed ∧
      session.canonical? unclaimed = some unclaimed ∧
      session.canonical? (Json.object (claiming true)).compact
        = session.canonical? (Json.object (claiming false)).compact := by
  have hread : session.canonical? (Json.object (claiming true)).compact = some unclaimed := by
    decide +kernel
  have hobject (claim : Bool) : Json.parse (Json.object (claiming claim)).compact
      = some (.object (claiming claim)) :=
    Json.parse_compact (by rfl)
  exact ⟨hread, ((round_trip session).2.1 _ _ hread).1,
    (round_trip session).2.2 _ _ _ _ (hobject true) (hobject false) rfl⟩

end Schema

end ChatRouting
