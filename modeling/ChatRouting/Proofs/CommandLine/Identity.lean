import ChatRouting.CommandLine.Program
import ChatRouting.Proofs.Conversation
import ChatRouting.Proofs.Json.Decoding
import ChatRouting.Proofs.Json.Reading
import ChatRouting.Proofs.KeyRing
import ChatRouting.Proofs.Host.Numbers
import ChatRouting.Proofs.Script.Stopping
import ChatRouting.Proofs.Text

/-!
# Who the commands take the local user for

The commands about the identity use the stored id as it is: one prints it, and another derives the
ids of conversations from it. The command that replays a script makes an endpoint with the stored id
and nickname. An endpoint trims both, and is not made when one of them is blank.

So the commands agree on who the local user is just when there is nothing to trim from the stored id
and the stored nickname does not stand in the way of an endpoint. Neither is checked when a profile
is loaded. An id that was generated is as it should be.

## Main definitions

* `Program.replayHost`: the host on which a script is replayed
* `Program.PrintsLocalId`, `Program.PrintsConversation`: what the commands print
* `Program.CommandsAgree`

## Main results

* `Json.result_texts_inj`: what is printed tells what was to be printed
* `Endpoint.make_accepted`, `Endpoint.make_refused`: which profiles make an endpoint
* `Program.commandsAgree_iff`
-/

namespace ChatRouting

/-- An id that is made of eight random bytes is a generated one. -/
theorem Identity.isGeneratedId_generatedId {random : Bytes} (h : random.length = 8) :
    isGeneratedId (generatedId random) = true := by
  have hsplit : (generatedId random).toList.splitAt 5 =
      ("user_".toList, Hex.encodeChars random) := by
    have hrest : (Hex.encode random).toList = Hex.encodeChars random := String.toList_ofList
    rw [List.splitAt_eq, generatedId, String.toList_append, hrest]
    rfl
  have hlength : (Hex.encodeChars random).length = 16 := by
    rw [Hex.length_encodeChars, h]
  have hdigits : ∀ c ∈ Hex.encodeChars random,
      (c.isDigit || (decide ('a' ≤ c) && decide (c ≤ 'f'))) = true := by
    have hdigit : ∀ n < 16, ((Hex.digit n).isDigit ||
        (decide ('a' ≤ Hex.digit n) && decide (Hex.digit n ≤ 'f'))) = true := by decide
    intro c hc
    obtain ⟨b, -, hc⟩ := List.mem_flatMap.mp hc
    have hb := b.toNat_lt
    rcases List.mem_pair.mp hc with rfl | rfl
    · exact hdigit _ (by omega)
    · exact hdigit _ (by omega)
  rw [isGeneratedId, hsplit]
  simp only [hlength, List.all_eq_true.mpr hdigits, beq_self_eq_true, Bool.and_self]

/-- An id that was generated has nothing to be trimmed, and is not empty. -/
theorem Identity.trim_of_isGeneratedId {id : String} (h : isGeneratedId id = true) :
    Text.trim id = id ∧ id ≠ "" := by
  simp only [isGeneratedId, List.splitAt_eq, Bool.and_eq_true, beq_iff_eq, List.all_eq_true] at h
  obtain ⟨⟨hmark, hlength⟩, hrest⟩ := h
  constructor
  · refine Text.trim_eq_self fun c hc => ?_
    rw [← List.take_append_drop 5 id.toList, hmark] at hc
    rcases List.mem_append.mp hc with hc | hc
    · have hmarks : "user_".toList.all (fun c => !Text.isBlank c) = true := by decide
      simpa using List.all_eq_true.mp hmarks c hc
    · exact Text.isBlank_of_hex (hrest c hc)
  · rintro rfl
    cases hlength

/-! ### What a report tells -/

namespace Json

/-- An object whose members are texts. -/
def texts (members : List (String × String)) : Json :=
  .object (members.map fun m => (some m.1, .string (some m.2)))

/-- What is written after a literal does not change what the literal is read as. -/
theorem literal_append_inj {s s' : Literal} {rest rest' : List Char}
    (h : Writer.literal s ++ rest = Writer.literal s' ++ rest') : s = s' ∧ rest = rest' := by
  obtain ⟨cs, hcs, hread⟩ := Reader.literal_written s rest
  obtain ⟨cs', hcs', hread'⟩ := Reader.literal_written s' rest'
  rw [h, hcs'] at hcs
  obtain rfl : cs' = cs := (List.cons.inj hcs).2
  rw [hread] at hread'
  exact Prod.ext_iff.mp (Option.some.inj hread')

theorem prettyMembers_texts_inj (level : Nat) {ms ms' : List (String × String)}
    (h : Writer.prettyMembers level (ms.map fun m => (some m.1, .string (some m.2))) =
      Writer.prettyMembers level (ms'.map fun m => (some m.1, .string (some m.2)))) : ms = ms' := by
  induction ms generalizing ms' with
  | nil =>
    cases ms' with
    | nil => rfl
    | cons m ms' =>
      rw [List.map_nil, List.map_cons, Writer.prettyMembers, Writer.prettyMembers] at h
      exact absurd (List.cons.inj h).1 (by decide)
  | cons m ms ih =>
    cases ms' with
    | nil =>
      rw [List.map_nil, List.map_cons, Writer.prettyMembers, Writer.prettyMembers] at h
      exact absurd (List.cons.inj h).1 (by decide)
    | cons m' ms' =>
      simp only [List.map_cons, Writer.prettyMembers, Writer.prettyValue, Writer.value,
        List.append_assoc, List.cons_append, List.cons.injEq, true_and,
        List.append_cancel_left_eq] at h
      obtain ⟨hname, hrest⟩ := literal_append_inj h
      obtain ⟨htext, hrest⟩ := literal_append_inj (List.cons.inj (List.cons.inj hrest).2).2
      rw [Prod.ext (Option.some.inj hname) (Option.some.inj htext), ih hrest]

/-- The first member stands after a brace where the others stand after a comma. -/
theorem pretty_texts_inj {ms ms' : List (String × String)}
    (h : (texts ms).pretty = (texts ms').pretty) : ms = ms' := by
  have hchars := String.ofList_injective h
  rcases ms with _ | ⟨m, ms⟩ <;> rcases ms' with _ | ⟨m', ms'⟩
  · rfl
  · simp [texts, Writer.prettyValue, Writer.lineStart] at hchars
  · simp [texts, Writer.prettyValue, Writer.lineStart] at hchars
  · refine prettyMembers_texts_inj 0 ?_
    exact congrArg (',' :: ·) (List.cons.inj hchars).2

theorem isDecimal_texts (ms : List (String × String)) : (texts ms).isDecimal = true := by
  rw [texts, isDecimal]
  induction ms with
  | nil => rfl
  | cons m ms ih => rw [List.map_cons, membersDecimal, ih]; rfl

/-- Whoever reads it, a report of texts tells the texts. -/
theorem result_texts_inj {mode : Report.Mode} {command : String} (ms ms' : List (String × String))
    (h : Report.result mode command (texts ms) = Report.result mode command (texts ms')) :
    ms = ms' := by
  cases mode with
  | text => exact pretty_texts_inj h
  | json =>
    have hdecimal (ms : List (String × String)) :
        (Report.resultJson command (texts ms)).isDecimal = true := by
      simp [Report.resultJson, isDecimal_texts]
    have hread := parse_compact (hdecimal ms)
    have hsame : (Report.resultJson command (texts ms)).compact =
      (Report.resultJson command (texts ms')).compact := h
    rw [hsame, parse_compact (hdecimal ms')] at hread
    simp only [Report.resultJson, record, texts, Option.some.injEq, Json.object.injEq,
      List.map_cons, List.cons.injEq, Prod.mk.injEq, true_and, List.map_nil, and_true] at hread
    refine (List.map_injective_iff.mpr ?_ hread).symm
    rintro ⟨name, text⟩ ⟨name', text'⟩ heq
    cases heq
    rfl

end Json

/-! ### The endpoint of a profile -/

namespace Endpoint

variable (options : Options) (freshId : String) (transport : Transport) {id : String}

/-- With an id, an endpoint is made for the trimmed id. -/
theorem make_accepted (hid : options.localId = some id) (htrim : Text.trim id ≠ "")
    (hnames : ∀ name, options.nickname = some name → Text.trim name ≠ "") :
    ∃ e, make options freshId transport = .ok e ∧ e.localId = Text.trim id := by
  have hcheck : requireNonempty (Text.trim id) "local id" = .ok () := if_neg htrim
  simp only [make, hid, hcheck, bind, Except.bind, pure, Except.pure]
  cases hname : options.nickname with
  | none => exact ⟨_, rfl, rfl⟩
  | some name =>
    simp only [KeyRing.setNickname_of_trim (hnames name hname)]
    exact ⟨_, rfl, rfl⟩

/-- No endpoint is made for a blank id or with a blank nickname. -/
theorem make_refused (hid : options.localId = some id)
    (h : Text.trim id = "" ∨ ∃ name, options.nickname = some name ∧ Text.trim name = "") :
    ∃ f, make options freshId transport = .error f := by
  by_cases htrim : Text.trim id = ""
  · have hcheck : requireNonempty (Text.trim id) "local id" = .error (.empty "local id") :=
      if_pos htrim
    simp only [make, hid, hcheck, bind, Except.bind]
    exact ⟨_, rfl⟩
  · obtain ⟨name, hname, hblank⟩ := h.resolve_left htrim
    have hcheck : requireNonempty (Text.trim id) "local id" = .ok () := if_neg htrim
    simp only [make, hid, hcheck, hname, KeyRing.setNickname_of_blank hblank, bind, Except.bind,
      pure, Except.pure]
    exact ⟨_, rfl⟩

end Endpoint

/-! ### The commands -/

namespace Program

open Report (Mode)

/-- The host on which a script is replayed, if the profile can be used and its endpoint be made. -/
def replayHost (mode : Mode) (s : Surroundings) (dataDir : Option String) :
    Except Failure Host := do
  let p ← profile s dataDir
  let (_, p, _) ← identify mode s p
  (Script.start p.options s.freshId).mapError .refused

/-- The command that prints who the local user is prints an id. -/
def PrintsLocalId (s : Surroundings) (json : Bool) (dataDir : Option String) (id : String) : Prop :=
  let e := execute s { json, dataDir, command := .whoami }
  e.succeeded = true ∧ ∃ nickname : String, e.output =
    [introduce (Mode.ofFlag json) { localId := some id, nickname := some nickname }]

/-- The command that prints the id of the conversation with a peer succeeds and prints an id. -/
def PrintsConversation (s : Surroundings) (json : Bool) (dataDir : Option String)
    (peer id : String) : Prop :=
  let e := execute s { json, dataDir, command := .conversation peer }
  e.succeeded = true ∧ ∃ localId : String, e.output =
    [conversation (Mode.ofFlag json) localId peer id]

/-- The commands about the identity say what the endpoint says on which a script is replayed. -/
structure CommandsAgree (s : Surroundings) (json : Bool) (dataDir : Option String) : Prop where
  /-- The id of the conversation with a peer is printed just when the endpoint gives it. -/
  conversation : ∀ peer id, PrintsConversation s json dataDir peer id ↔
    ∃ h, replayHost (Mode.ofFlag json) s dataDir = .ok h ∧
      (Host.perform (.conversationId peer) h).1.answer = .text id
  /-- The local id that is printed is that of the endpoint. -/
  localId : ∀ h, replayHost (Mode.ofFlag json) s dataDir = .ok h →
    PrintsLocalId s json dataDir h.endpoint.localId

variable {s : Surroundings} {mode : Mode} {json : Bool} {dataDir : Option String} {p : Profile}

/-- A command has an id for the local user if one that is generated can be stored. -/
theorem identify_eq (hw : p.localId = none → s.unwritable = none) (mode : Mode) :
    ∃ e : Effect, identify mode s p =
      .ok ((p.ensureId s.freshId).1, (p.ensureId s.freshId).2, e) ∧
      e.succeeded = true ∧ e.output = [] := by
  rw [identify, Profile.ensureId]
  cases hid : p.localId with
  | some id => exact ⟨{}, rfl, rfl, rfl⟩
  | none =>
    simp only [store, hw hid]
    exact ⟨_, rfl, rfl, rfl⟩

theorem snd_ensureId (p : Profile) (freshId : String) :
    (p.ensureId freshId).2 = { p with localId := some (p.ensureId freshId).1 } := by
  obtain ⟨_ | id, nickname, ignoreOwnEcho⟩ := p <;> rfl

/-- The host of a script has an endpoint with the options. -/
theorem start_of_make {options : Options} {freshId : String} {e : Endpoint}
    (he : Endpoint.make options freshId .loopback = .ok e) :
    ∃ h, Script.start options freshId = .ok h ∧ h.held = true ∧ h.endpoint.keys = e.keys := by
  let subscribed := Host.subscribe { endpoint := e } Script.subscription (.channel [] true) true
  obtain ⟨sighted, hcollect⟩ := Host.collect_eq subscribed.1 subscribed.2
  refine ⟨(Host.collect subscribed).2, by rw [Script.start, he]; rfl, ?_⟩
  rw [hcollect]
  exact ⟨rfl, rfl⟩

theorem conversationId_answer {h : Host} (hheld : h.held = true) {peer id : String} :
    (Host.perform (.conversationId peer) h).1.answer = .text id ↔
      Conversation.directId h.endpoint.localId peer = .ok id := by
  have hanswer : (Host.perform (.conversationId peer) h).1.answer =
      Answer.ofExcept .text (Conversation.directId h.endpoint.localId peer) := by
    rw [Host.perform, Host.step, hheld, Bool.not_true, Bool.and_false, if_neg Bool.false_ne_true]
    rfl
  rw [hanswer]
  rcases Conversation.directId h.endpoint.localId peer with f | id'
  · exact ⟨fun h => (by cases h), fun h => by cases h⟩
  · exact ⟨fun h => (by cases h; rfl), fun h => by cases h; rfl⟩

section

variable (hp : profile s dataDir = .ok p) (hw : p.localId = none → s.unwritable = none)

include hp hw

/-- A command of a local user starts with nothing printed. -/
theorem execute_eq (json : Bool) (command : Command) (hc : command ≠ .reset) :
    ∃ e : Effect, execute s { json, dataDir, command } =
      run (Mode.ofFlag json) s (p.ensureId s.freshId).1 (p.ensureId s.freshId).2 e command ∧
      e.succeeded = true ∧ e.output = [] := by
  obtain ⟨e, he, hsucceeded, houtput⟩ := identify_eq hw (Mode.ofFlag json)
  refine ⟨e, ?_, hsucceeded, houtput⟩
  simp only [execute, hp]
  cases command with
  | reset => exact absurd rfl hc
  | _ => simp only [he]

theorem replayHost_eq (mode : Mode) : replayHost mode s dataDir =
    (Script.start (p.ensureId s.freshId).2.options s.freshId).mapError .refused := by
  obtain ⟨e, he, -, -⟩ := identify_eq hw mode
  simp only [replayHost, hp, he, bind, Except.bind]

/-- The host that is made for a script is the one it starts on. -/
theorem start_of_replayHost {h : Host} (hh : replayHost mode s dataDir = .ok h) :
    Script.start (p.ensureId s.freshId).2.options s.freshId = .ok h := by
  rw [replayHost_eq hp hw] at hh
  rcases hs : Script.start (p.ensureId s.freshId).2.options s.freshId with f | h'
  · rw [hs] at hh
    cases hh
  · rw [hs] at hh
    cases hh
    rfl

/-- The id of the conversation is derived from the stored id as it is. -/
theorem printsConversation_iff (json : Bool) {peer id : String} :
    PrintsConversation s json dataDir peer id ↔
      Conversation.directId (p.ensureId s.freshId).1 peer = .ok id := by
  obtain ⟨e, he, hsucceeded, houtput⟩ := execute_eq hp hw json (.conversation peer)
    (fun hc => by cases hc)
  rw [PrintsConversation, he, run]
  rcases Conversation.directId (p.ensureId s.freshId).1 peer with f | id'
  · exact ⟨fun h => (by cases h.1), fun h => by cases h⟩
  · simp only [print, hsucceeded, houtput, List.nil_append, List.cons.injEq, and_true, true_and,
      Except.ok.injEq]
    constructor
    · rintro ⟨localId, h⟩
      have hmembers := Json.result_texts_inj [("localId", (p.ensureId s.freshId).1),
        ("peerId", peer), ("conversationId", id')] [("localId", localId),
        ("peerId", peer), ("conversationId", id)] h
      cases hmembers
      rfl
    · rintro rfl
      exact ⟨_, rfl⟩

/-- The stored id is printed as it is. -/
theorem printsLocalId_iff (json : Bool) {id : String} :
    PrintsLocalId s json dataDir id ↔ (p.ensureId s.freshId).1 = id := by
  obtain ⟨e, he, hsucceeded, houtput⟩ := execute_eq hp hw json .whoami
    (fun hc => by cases hc)
  rw [PrintsLocalId, he, run, snd_ensureId]
  simp only [print, hsucceeded, houtput, List.nil_append, List.cons.injEq, and_true, true_and]
  constructor
  · rintro ⟨nickname, h⟩
    have hmembers := Json.result_texts_inj [("localId", (p.ensureId s.freshId).1),
      ("nickname", p.nickname.getD "")] [("localId", id), ("nickname", nickname)] h
    cases hmembers
    rfl
  · rintro rfl
    exact ⟨p.nickname.getD "", rfl⟩

/-- A script is replayed on an endpoint for the trimmed id. -/
theorem replayHost_accepted (mode : Mode) (htrim : Text.trim (p.ensureId s.freshId).1 ≠ "")
    (hnames : ∀ name, p.nickname = some name → Text.trim name ≠ "") :
    ∃ h, replayHost mode s dataDir = .ok h ∧ h.held = true ∧
      h.endpoint.localId = Text.trim (p.ensureId s.freshId).1 := by
  obtain ⟨e, he, hid⟩ := Endpoint.make_accepted (p.ensureId s.freshId).2.options
    s.freshId .loopback (by rw [snd_ensureId]; rfl) htrim
    (by rw [snd_ensureId]; exact hnames)
  obtain ⟨h, hh, hheld, hkeys⟩ := start_of_make he
  refine ⟨h, by rw [replayHost_eq hp hw, hh]; rfl, hheld, ?_⟩
  rw [← hid, Endpoint.localId, Endpoint.localId, hkeys]

/-- No script is replayed for a blank id or with a blank nickname. -/
theorem replayHost_refused (mode : Mode) (h : Text.trim (p.ensureId s.freshId).1 = "" ∨
    ∃ name, p.nickname = some name ∧ Text.trim name = "") :
    ∃ f, replayHost mode s dataDir = .error f := by
  obtain ⟨f, hf⟩ := Endpoint.make_refused (p.ensureId s.freshId).2.options
    s.freshId .loopback (by rw [snd_ensureId]; rfl)
    (by rw [snd_ensureId]; exact h)
  rw [replayHost_eq hp hw, Script.start, hf]
  exact ⟨_, rfl⟩

/-- Where a script is replayed, neither the id nor the nickname is blank. -/
theorem accepted_of_replayHost {h : Host} (hh : replayHost mode s dataDir = .ok h) :
    Text.trim (p.ensureId s.freshId).1 ≠ "" ∧
      ∀ name, p.nickname = some name → Text.trim name ≠ "" := by
  have hok (hblank : Text.trim (p.ensureId s.freshId).1 = "" ∨
      ∃ name, p.nickname = some name ∧ Text.trim name = "") : False := by
    obtain ⟨f, hf⟩ := replayHost_refused hp hw mode hblank
    rw [hf] at hh
    cases hh
  exact ⟨fun htrim => hok (Or.inl htrim), fun name hname htrim => hok (Or.inr ⟨name, hname, htrim⟩)⟩

/-- The commands agree with an endpoint for the stored id. -/
theorem agree_of_accepted {h : Host} (hh : replayHost (Mode.ofFlag json) s dataDir = .ok h)
    (hheld : h.held = true) (hlocal : h.endpoint.localId = (p.ensureId s.freshId).1) :
    CommandsAgree s json dataDir where
  conversation peer id := by
    rw [printsConversation_iff hp hw, hh, ← hlocal, ← conversationId_answer hheld]
    refine ⟨fun hanswer => ⟨h, rfl, hanswer⟩, ?_⟩
    rintro ⟨_, ⟨⟩, hanswer⟩
    exact hanswer
  localId h' hh' := by
    rw [hh] at hh'
    cases hh'
    exact (printsLocalId_iff hp hw json).mpr hlocal.symm

/-- Nobody has a conversation with an empty id, and there is no endpoint for it. -/
theorem agree_of_refused {f : Failure} (hf : replayHost (Mode.ofFlag json) s dataDir = .error f)
    (hid : (p.ensureId s.freshId).1 = "") : CommandsAgree s json dataDir where
  conversation peer id := by
    rw [printsConversation_iff hp hw, hid, hf]
    exact ⟨fun h => (by cases h), fun ⟨_, h, _⟩ => by cases h⟩
  localId h hh := by
    rw [hf] at hh
    cases hh

end

/-- Two users with different ids have a conversation. -/
theorem directId_of_ne (id peer : String) (hid : id ≠ "") (hpeer : peer ≠ "") (hne : id ≠ peer) :
    ∃ c, Conversation.directId id peer = .ok c :=
  ⟨_, Conversation.directId_eq_ok_iff.mpr ⟨⟨hid, hpeer, hne⟩, rfl⟩⟩

/-- **When the commands agree on who the local user is.** They do, for every peer, exactly if the
stored id has nothing to be trimmed and the stored nickname is not blank. A part that is not stored
does not matter, and beside an empty id the nickname does not matter either. -/
theorem commandsAgree_iff (hp : profile s dataDir = .ok p)
    (hw : p.localId = none → s.unwritable = none)
    (hfresh : Identity.isGeneratedId s.freshId = true) (json : Bool) :
    CommandsAgree s json dataDir ↔
      (∀ id, p.localId = some id → Text.trim id = id) ∧
        (p.localId = some "" ∨ ∀ name, p.nickname = some name → Text.trim name ≠ "") := by
  obtain ⟨htrimfresh, hnefresh⟩ := Identity.trim_of_isGeneratedId hfresh
  have htrims : (∀ id, p.localId = some id → Text.trim id = id) ↔
      Text.trim (p.ensureId s.freshId).1 = (p.ensureId s.freshId).1 := by
    rw [Profile.ensureId]
    cases p.localId <;> simp [htrimfresh]
  have hempty : p.localId = some "" ↔ (p.ensureId s.freshId).1 = "" := by
    rw [Profile.ensureId]
    cases p.localId <;> simp [hnefresh]
  rw [htrims, hempty]
  constructor
  · intro hagree
    by_cases hid : (p.ensureId s.freshId).1 = ""
    · exact ⟨by rw [hid]; rfl, Or.inl hid⟩
    · -- There is somebody to have a conversation with, so there is an endpoint.
      obtain ⟨c, hc⟩ := directId_of_ne _ ((p.ensureId s.freshId).1 ++ "x") hid
        (fun h => by simpa using congrArg String.length h)
        (fun h => by simpa using congrArg String.length h)
      obtain ⟨h, hh, -⟩ :=
        (hagree.conversation _ c).mp ((printsConversation_iff hp hw json).mpr hc)
      have haccepted := accepted_of_replayHost hp hw hh
      obtain ⟨h', hh', -, hlocal⟩ :=
        replayHost_accepted hp hw (Mode.ofFlag json) haccepted.1 haccepted.2
      have hprinted := (printsLocalId_iff hp hw json).mp (hagree.localId h' hh')
      exact ⟨hlocal.symm.trans hprinted.symm, Or.inr haccepted.2⟩
  · rintro ⟨htrim, hnames⟩
    by_cases hid : (p.ensureId s.freshId).1 = ""
    · obtain ⟨f, hf⟩ := replayHost_refused hp hw (Mode.ofFlag json) (Or.inl (htrim.trans hid))
      exact agree_of_refused hp hw hf hid
    · obtain ⟨h, hh, hheld, hlocal⟩ := replayHost_accepted hp hw (Mode.ofFlag json)
        (by rwa [htrim]) (hnames.resolve_left hid)
      exact agree_of_accepted hp hw hh hheld (hlocal.trans htrim)

/-- An id without blanks is read out of a profile and agreed on. -/
theorem commandsAgree_iff_trimmed :
    let s : Surroundings :=
      { profile := .ok (some (.file (Bytes.ofText "\x7b\"localId\":\"alice\"\x7d")))
        freshId := "user_0123456789abcdef", stdin := [], opened := fun _ => .error .notFound }
    profile s none = .ok { localId := some "alice" } ∧
      Identity.isGeneratedId s.freshId = true ∧ CommandsAgree s true none := by
  intro s
  have hp : profile s none = .ok { localId := some "alice" } := by decide +kernel
  have hfresh : Identity.isGeneratedId s.freshId = true := by decide +kernel
  refine ⟨hp, hfresh, (commandsAgree_iff hp (fun _ => rfl) hfresh true).mpr ⟨?_, Or.inr ?_⟩⟩
  · intro id hid
    cases hid
    decide +kernel
  · intro name hname
    cases hname

/-- A padded id is printed as it is stored, and is taken for another user than the one whom a script
is replayed for: with the stored id there is a conversation with that user. -/
theorem commands_disagree_padded :
    let s : Surroundings :=
      { profile := .ok (some (.file (Bytes.ofText "\x7b\"localId\":\" alice \"\x7d")))
        freshId := "user_0123456789abcdef", stdin := [], opened := fun _ => .error .notFound }
    PrintsLocalId s true none " alice " ∧ (∃ id, PrintsConversation s true none "alice" id) ∧
      (∃ h, replayHost .json s none = .ok h ∧ h.endpoint.localId = "alice" ∧
        Conversation.directId h.endpoint.localId "alice" =
          .error (.invalidInput "cannot open a conversation with yourself")) ∧
      ¬ CommandsAgree s true none := by
  intro s
  have hp : profile s none = .ok { localId := some " alice " } := by decide +kernel
  have hlocal : Text.trim " alice " = "alice" := by decide +kernel
  obtain ⟨h, hh, -, hid⟩ := replayHost_accepted hp (fun _ => rfl) .json
    (by rw [Profile.ensureId, hlocal]; decide) (fun name hname => by cases hname)
  have hid : h.endpoint.localId = "alice" := hid.trans hlocal
  have hprints : PrintsLocalId s true none " alice " :=
    (printsLocalId_iff hp (fun _ => rfl) true).mpr rfl
  obtain ⟨c, hc⟩ := directId_of_ne " alice " "alice" (by decide) (by decide)
    (by decide)
  refine ⟨hprints, ⟨c, (printsConversation_iff hp (fun _ => rfl) true).mpr hc⟩,
    ⟨h, hh, hid, by rw [hid]; rfl⟩, fun hagree => ?_⟩
  have hsame := (printsLocalId_iff hp (fun _ => rfl) true).mp (hagree.localId h hh)
  rw [hid] at hsame
  exact absurd hsame (by decide)

end Program

end ChatRouting
