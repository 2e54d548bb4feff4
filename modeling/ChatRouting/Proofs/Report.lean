import ChatRouting.Proofs.Codec
import ChatRouting.Proofs.CommandLine.Identity
import ChatRouting.Proofs.Script.Reading
import ChatRouting.Report

/-!
# Reports on lines

The reports for programs are lines of JSON. No character below the space is written in a compact
form: in a text such a character is escaped, whoever has sent the text. So a report stays on its
line, and a stream of reports is read back line by line, each line to the value that was reported.

The values tell apart what was reported. An event has its name and its parts in places of their own,
and a text in them is a value of its own. So nothing that a peer puts into a message makes one
report look like another, or like more than one.

## Main definitions

* `Report.Framed`: a report is a line that reads back to a value
* `Report.stream`, `Report.read?`: what is printed, and reading it line by line
* `Report.transcript`: the reports of a replay that comes to its end

## Main results

* `Json.Writer.inline_value`: a compact form is written without control characters
* `Report.read?_stream`: reports are read back from a stream
* `Report.Event.toJson_injective`: the value of an event tells the event
* `Program.framed_reports`
-/

namespace ChatRouting

/-! ### Compact forms -/

namespace Json.Writer

/-- No character is below the space, so that none ends a line. -/
def Inline (cs : List Char) : Prop :=
  ∀ c ∈ cs, ' ' ≤ c

instance (cs : List Char) : Decidable (Inline cs) :=
  List.decidableBAll _ cs

theorem inline_nil : Inline [] := by
  simp [Inline]

theorem inline_cons {c : Char} {cs : List Char} : Inline (c :: cs) ↔ ' ' ≤ c ∧ Inline cs :=
  List.forall_mem_cons

theorem inline_append {cs ds : List Char} : Inline (cs ++ ds) ↔ Inline cs ∧ Inline ds :=
  List.forall_mem_append

theorem Inline.feed_not_mem {cs : List Char} (h : Inline cs) : '\n' ∉ cs :=
  fun hmem => absurd (h _ hmem) (by decide)

theorem Inline.return_not_mem {cs : List Char} (h : Inline cs) : '\r' ∉ cs :=
  fun hmem => absurd (h _ hmem) (by decide)

/-- A character is escaped if it is below the space. -/
theorem inline_escape (c : Char) : Inline (escape c) := by
  unfold escape
  split_ifs with _ _ _ _ _ _ _ hspace
  · decide
  · decide
  · decide
  · decide
  · decide
  · decide
  · decide
  · have hdigit : ∀ n < 16, ' ' ≤ Hex.digit n := by decide
    have hlt := Reader.toNat_lt_of_lt_space hspace
    have hfront : Inline ['\\', 'u', '0', '0'] := by decide
    exact inline_append.mpr ⟨hfront, inline_cons.mpr ⟨hdigit _ (by omega),
      inline_cons.mpr ⟨hdigit _ (by omega), inline_nil⟩⟩⟩
  · exact inline_cons.mpr ⟨Char.not_lt.mp hspace, inline_nil⟩

theorem inline_literal (s : Literal) : Inline (literal s) := by
  cases s with
  | none => exact (by decide : Inline "\"\\ud800\"".toList)
  | some s =>
    have htext : Inline (s.toList.flatMap escape) := by
      intro c hc
      obtain ⟨d, -, hc⟩ := List.mem_flatMap.mp hc
      exact inline_escape d c hc
    exact inline_append.mpr ⟨inline_cons.mpr ⟨by decide, htext⟩, by decide⟩

theorem inline_digits (n : Nat) : Inline (digits n) := by
  intro c hc
  have hdigit := Reader.isDigit_of_mem_digits hc
  rw [Char.isDigit, Bool.and_eq_true, decide_eq_true_eq] at hdigit
  exact Char.le_trans (by decide) hdigit.1

theorem inline_int (i : Int) : Inline (int i) := by
  unfold int
  split_ifs
  · exact inline_cons.mpr ⟨by decide, inline_digits _⟩
  · exact inline_digits _

theorem inline_numeral (n : Numeral) : Inline (numeral n) := by
  have hsign : Inline (if n.negative then ['-'] else []) := by
    split_ifs <;> decide
  have hdecimals : Inline (Reader.pointed n.decimals) := by
    unfold Reader.pointed
    split_ifs
    · exact inline_nil
    · refine inline_cons.mpr ⟨by decide, fun c hc => ?_⟩
      obtain ⟨d, -, hc⟩ := List.mem_flatMap.mp hc
      exact inline_digits d c hc
  have hpower : Inline (Reader.powered n.exponent) := by
    cases n.exponent with
    | none => exact inline_nil
    | some i => exact inline_cons.mpr ⟨by decide, inline_int i⟩
  rw [Reader.numeral_eq]
  exact inline_append.mpr
    ⟨inline_append.mpr ⟨inline_append.mpr ⟨hsign, inline_digits _⟩, hdecimals⟩, hpower⟩

mutual
/-- **A compact form is written without control characters.** -/
theorem inline_value : ∀ v : Json, Inline (value v)
  | .null => (by decide : Inline "null".toList)
  | .bool true => (by decide : Inline "true".toList)
  | .bool false => (by decide : Inline "false".toList)
  | .number n => inline_numeral n
  | .string s => inline_literal s
  | .array [] => (by decide : Inline "[]".toList)
  | .array (v :: rest) =>
    inline_append.mpr ⟨inline_cons.mpr ⟨by decide, inline_value v⟩, inline_items rest⟩
  | .object [] => (by decide : Inline "\x7b\x7d".toList)
  | .object ((k, v) :: rest) =>
    inline_append.mpr ⟨inline_append.mpr ⟨inline_cons.mpr ⟨by decide, inline_literal k⟩,
      inline_cons.mpr ⟨by decide, inline_value v⟩⟩, inline_members rest⟩

/-- The items after the first are written without control characters. -/
theorem inline_items : ∀ vs : List Json, Inline (items vs)
  | [] => (by decide : Inline [']'])
  | v :: rest =>
    inline_append.mpr ⟨inline_cons.mpr ⟨by decide, inline_value v⟩, inline_items rest⟩

/-- The members after the first are written without control characters. -/
theorem inline_members : ∀ ms : List (Literal × Json), Inline (members ms)
  | [] => (by decide : Inline ['\x7d'])
  | (k, v) :: rest =>
    inline_append.mpr ⟨inline_append.mpr ⟨inline_cons.mpr ⟨by decide, inline_literal k⟩,
      inline_cons.mpr ⟨by decide, inline_value v⟩⟩, inline_members rest⟩
end

end Json.Writer

/-! ### Values of events -/

theorem Session.isDecimal_toJson (s : Session) : s.toJson.isDecimal = true :=
  Schema.session.isDecimal_toJson s

theorem Message.isDecimal_toJson (m : Message) : m.toJson.isDecimal = true :=
  Schema.message.isDecimal_toJson m

theorem Session.isDecimal_list (ss : List Session) :
    (Json.array (ss.map Session.toJson)).isDecimal = true := by
  simp [Json.isDecimal_array, isDecimal_toJson]

namespace Report.Event

theorem isDecimal_toJson (e : Event) : e.toJson.isDecimal = true := by
  have hdata : e.data.isDecimal = true := by
    cases e with
    | transportRequest id name subject acknowledged =>
      cases subject <;> simp [data, Json.isDecimal]
    | sessionOpened s => exact s.isDecimal_toJson
    | sessionUpdated s m => simp [data, s.isDecimal_toJson, m.isDecimal_toJson]
    | errorRaised n => exact Schema.notice.isDecimal_toJson n
    | sessions ss => exact Session.isDecimal_list ss
    | stepError line verb error => simp [data]
  simp [toJson, hdata]

/-- **The value of an event tells the event.** -/
theorem toJson_injective : Function.Injective Event.toJson := by
  intro e e' h
  obtain ⟨hname, hdata⟩ : e.name = e'.name ∧ e.data = e'.data := by
    have hmembers := Json.record_inj h
    simp only [List.cons.injEq, Prod.mk.injEq, true_and, and_true] at hmembers
    exact ⟨Json.text_inj hmembers.1, hmembers.2⟩
  cases e with
  | transportRequest id name subject acknowledged =>
    cases e' with
    | transportRequest id' name' subject' acknowledged' =>
      have hmembers := Json.record_inj hdata
      cases subject <;> cases subject' <;> simp [Json.text] at hmembers
      · obtain ⟨rfl, rfl, rfl⟩ := hmembers
        rfl
      · obtain ⟨rfl, rfl, rfl, rfl⟩ := hmembers
        rfl
    | _ => simp [Event.name] at hname
  | sessionOpened s =>
    cases e' with
    | sessionOpened s' => rw [Session.toJson_injective hdata]
    | _ => simp [Event.name] at hname
  | sessionUpdated s m =>
    cases e' with
    | sessionUpdated s' m' =>
      have hmembers := Json.record_inj hdata
      simp only [List.cons.injEq, Prod.mk.injEq, true_and, and_true] at hmembers
      rw [Session.toJson_injective hmembers.1, Message.toJson_injective hmembers.2]
    | _ => simp [Event.name] at hname
  | errorRaised n =>
    cases e' with
    | errorRaised n' => rw [Notice.toJson_injective hdata]
    | _ => simp [Event.name] at hname
  | sessions ss =>
    cases e' with
    | sessions ss' =>
      rw [data, data, Json.array.injEq] at hdata
      rw [List.map_injective_iff.mpr Session.toJson_injective hdata]
    | _ => simp [Event.name] at hname
  | stepError line verb error =>
    cases e' with
    | stepError line' verb' error' =>
      have hmembers := Json.record_inj hdata
      simp only [List.cons.injEq, Prod.mk.injEq, true_and, and_true] at hmembers
      rw [Int.ofNat_inj.mp (Json.int_inj hmembers.1), Json.text_inj hmembers.2.1,
        Json.text_inj hmembers.2.2]
    | _ => simp [Event.name] at hname

end Report.Event

theorem Script.Summary.isDecimal_toJson (s : Script.Summary) : s.toJson.isDecimal = true := by
  simp [toJson, Session.isDecimal_list]

theorem Script.Summary.toJson_injective : Function.Injective Script.Summary.toJson := by
  rintro ⟨steps, failed, ss⟩ ⟨steps', failed', ss'⟩ h
  have hmembers := Json.record_inj h
  simp only [List.cons.injEq, Prod.mk.injEq, true_and, and_true, Json.array.injEq] at hmembers
  rw [Int.ofNat_inj.mp (Json.int_inj hmembers.1), Int.ofNat_inj.mp (Json.int_inj hmembers.2.1),
    List.map_injective_iff.mpr Session.toJson_injective hmembers.2.2]

namespace Report

/-! ### Lines -/

/-- A report is a line that reads back to a value. -/
structure Framed (report : String) (v : Json) : Prop where
  feedless : '\n' ∉ report.toList
  returnless : '\r' ∉ report.toList
  parsed : Json.parse report = some v

/-- Compact forms are lines. -/
theorem framed_compact {v : Json} (h : v.isDecimal = true) : Framed v.compact v := by
  have hinline : Json.Writer.Inline v.compact.toList := by
    rw [Json.compact, String.toList_ofList]
    exact Json.Writer.inline_value v
  exact ⟨hinline.feed_not_mem, hinline.return_not_mem, Json.parse_compact h⟩

theorem framed_event (e : Event) : Framed (event .json e) e.toJson :=
  framed_compact e.isDecimal_toJson

theorem framed_result (command : String) {data : Json} (h : data.isDecimal = true) :
    Framed (result .json command data) (resultJson command data) :=
  framed_compact (by simp [resultJson, h])

theorem framed_failure (message : String) :
    Framed (failure .json message) (failureJson message) :=
  framed_compact (by simp [failureJson])

/-! ### Streams -/

/-- What is printed of reports: each of them and a line feed. -/
def stream : List String → String
  | [] => ""
  | report :: rest => report ++ ("\n" ++ stream rest)

/-- The values on the lines of a stream, if there is one on each line. -/
def read? (printed : String) : Option (List Json) :=
  (Script.lines (Bytes.ofText printed)).mapM fun line => (Bytes.text? line).bind Json.parse

/-- **Reports that are lines are read back from a stream.** -/
theorem read?_stream {reports : List String} {vs : List Json}
    (h : List.Forall₂ Framed reports vs) : read? (stream reports) = some vs := by
  induction h with
  | nil => rfl
  | @cons report v reports vs hreport _ ih =>
    have hlines : Script.lines (Bytes.ofText (stream (report :: reports))) =
        Bytes.ofText report :: Script.lines (Bytes.ofText (stream reports)) := by
      rw [stream, Bytes.ofText_append, Bytes.ofText_append]
      exact Script.lines_append_feed (mt Bytes.feed_mem_ofText_iff.mp hreport.feedless) _
    rw [read?] at ih ⊢
    rw [hlines, List.mapM_cons, Bytes.text?_ofText, Option.bind_some, hreport.parsed, ih]
    rfl

/-- The reports of a replay that comes to its end. -/
def transcript (events : List Event) (summary : Script.Summary) : List String :=
  events.map (event .json) ++ [result .json "run" summary.toJson]

theorem framed_transcript (events : List Event) (summary : Script.Summary) :
    List.Forall₂ Framed (transcript events summary)
      (events.map Event.toJson ++ [resultJson "run" summary.toJson]) := by
  refine List.rel_append ?_ (.cons (framed_result "run" summary.isDecimal_toJson) .nil)
  rw [List.forall₂_map_left_iff, List.forall₂_map_right_iff]
  exact List.forall₂_same.mpr fun e _ => framed_event e

/-- What is printed of a replay tells what it came to. -/
theorem stream_transcript_inj {events events' : List Event} {summary summary' : Script.Summary}
    (h : stream (transcript events summary) = stream (transcript events' summary')) :
    events = events' ∧ summary = summary' := by
  have hread := read?_stream (framed_transcript events summary)
  rw [h, read?_stream (framed_transcript events' summary'), Option.some.injEq] at hread
  obtain ⟨hevents, hlast⟩ := List.append_inj' hread rfl
  have hmembers := Json.record_inj (List.cons.inj hlast).1
  simp only [List.cons.injEq, Prod.mk.injEq, true_and, and_true] at hmembers
  exact ⟨(List.map_injective_iff.mpr Event.toJson_injective hevents).symm,
    (Script.Summary.toJson_injective hmembers).symm⟩

end Report

/-! ### Commands -/

/-- Everything that is printed is framed: on the standard output the values of events and of
results, on the standard error those of failures. -/
structure Effect.IsFramed (e : Effect) : Prop where
  output : ∀ report ∈ e.output, ∃ v, Report.Framed report v ∧
    ((∃ e : Report.Event, v = e.toJson) ∨ ∃ command data, v = Report.resultJson command data)
  errors : ∀ report ∈ e.errors, ∃ message, Report.Framed report (Report.failureJson message)

namespace Program

open Report (Event Framed transcript stream read?)

variable {e : Effect}

theorem isFramed_fail (h : e.IsFramed) (f : Failure) : (fail .json e f).IsFramed where
  output := h.output
  errors := List.forall_mem_append.mpr
    ⟨h.errors, List.forall_mem_singleton.mpr ⟨_, Report.framed_failure f.message⟩⟩

theorem isFramed_print (h : e.IsFramed) (command : String) {data : Json}
    (hdata : data.isDecimal = true) :
    (print e (Report.result .json command data)).IsFramed where
  output := List.forall_mem_append.mpr ⟨h.output,
    List.forall_mem_singleton.mpr ⟨_, Report.framed_result command hdata, Or.inr ⟨_, _, rfl⟩⟩⟩
  errors := h.errors

/-- Nothing is printed while a profile is written. -/
theorem eq_of_store {s : Surroundings} {p : Profile} {e' : Effect} (h : store s p e = .ok e') :
    e' = { e with saved := some p.save } := by
  rw [store] at h
  cases hw : s.unwritable with
  | some f =>
    rw [hw] at h
    cases h
  | none =>
    rw [hw] at h
    exact (Except.ok.inj h).symm

theorem isFramed_store (h : e.IsFramed) {s : Surroundings} {p : Profile} {e' : Effect}
    (hstore : store s p e = .ok e') : e'.IsFramed := by
  rw [eq_of_store hstore]
  exact ⟨h.output, h.errors⟩

/-- A command prints what is framed. -/
theorem isFramed_run (h : e.IsFramed) (s : Surroundings) (localId : String) (p : Profile)
    (command : Command) : (run .json s localId p e command).IsFramed := by
  cases command with
  | whoami => exact isFramed_print h _ (by simp)
  | nickname name =>
    rw [run]
    rcases p.rename name with f | p
    · exact isFramed_fail h f
    · cases hstore : store s p e with
      | error f =>
        simp only [hstore]
        exact isFramed_fail h f
      | ok e' =>
        simp only [hstore]
        exact isFramed_print (isFramed_store h hstore) _ (by simp)
  | reset =>
    rw [run]
    cases hstore : store s p.forget e with
    | error f => exact isFramed_fail h f
    | ok e' => exact isFramed_print (isFramed_store h hstore) _ (by simp)
  | conversation peer =>
    rw [run]
    rcases Conversation.directId localId peer with f | id
    · exact isFramed_fail h (.refused f)
    · exact isFramed_print h _ (by simp)
  | replay path failFast =>
    rw [run]
    rcases replay s p path failFast with ⟨events, result⟩
    have hevents : Effect.IsFramed { e with output := e.output ++ events.map (Report.event .json) }
        := by
      refine ⟨List.forall_mem_append.mpr ⟨h.output, ?_⟩, h.errors⟩
      rw [List.forall_mem_map]
      exact fun e _ => ⟨_, Report.framed_event e, Or.inl ⟨e, rfl⟩⟩
    rcases result with f | summary
    · exact isFramed_fail hevents f
    · exact isFramed_print hevents "run" summary.isDecimal_toJson

/-- Nothing is printed while a command that prints JSON finds or makes a local id. -/
theorem identify_quiet {s : Surroundings} {p p' : Profile} {id : String}
    (h : identify .json s p = .ok (id, p', e)) :
    p' = (p.ensureId s.freshId).2 ∧ e.output = [] ∧ e.errors = [] := by
  rw [identify, Profile.ensureId] at h
  rw [Profile.ensureId]
  cases hid : p.localId with
  | some stored =>
    rw [hid] at h
    cases h
    exact ⟨rfl, rfl, rfl⟩
  | none =>
    rw [hid] at h
    cases hstore : store s { p with localId := some s.freshId } {} with
    | error f =>
      simp only [hstore] at h
      cases h
    | ok e' =>
      simp only [hstore] at h
      cases h
      exact ⟨rfl, by rw [eq_of_store hstore], rfl⟩

/-- **Every command that prints JSON prints what is framed.** -/
theorem isFramed_execute (s : Surroundings) {i : Invocation} (hjson : i.json = true) :
    (execute s i).IsFramed := by
  have hquiet {e : Effect} (h : e.output = [] ∧ e.errors = []) : e.IsFramed :=
    ⟨by simp [h.1], by simp [h.2]⟩
  have hmode : Report.Mode.ofFlag i.json = .json := by rw [hjson]; rfl
  rw [execute, hmode]
  cases profile s i.dataDir with
  | error f => exact isFramed_fail (hquiet ⟨rfl, rfl⟩) f
  | ok p =>
    cases i.command with
    | reset => exact isFramed_run (hquiet ⟨rfl, rfl⟩) s "" p .reset
    | _ =>
      simp only
      cases hidentify : identify .json s p with
      | error f => exact isFramed_fail (hquiet ⟨rfl, rfl⟩) f
      | ok found => exact isFramed_run (hquiet (identify_quiet hidentify).2) s _ _ _

/-- A replay that comes to its end prints its transcript. -/
theorem output_of_replayed {s : Surroundings} {i : Invocation} {path : String} {failFast : Bool}
    (hjson : i.json = true) (hcommand : i.command = .replay path failFast)
    (h : (execute s i).succeeded = true) :
    ∃ p events summary, profile s i.dataDir = .ok p ∧
      replay s (p.ensureId s.freshId).2 path failFast = (events, .ok summary) ∧
      (execute s i).output = transcript events summary ∧ (execute s i).errors = [] := by
  have hmode : Report.Mode.ofFlag i.json = .json := by rw [hjson]; rfl
  rw [execute, hmode, hcommand] at h ⊢
  cases hp : profile s i.dataDir with
  | error f =>
    rw [hp] at h
    cases h
  | ok p =>
    simp only [hp] at h ⊢
    cases hidentify : identify .json s p with
    | error f =>
      rw [hidentify] at h
      cases h
    | ok found =>
      obtain ⟨id, p', e⟩ := found
      obtain ⟨rfl, houtput, herrors⟩ := identify_quiet hidentify
      simp only [hidentify, run] at h ⊢
      rcases hreplay : replay s (p.ensureId s.freshId).2 path failFast with ⟨events, f | summary⟩
      · rw [hreplay] at h
        cases h
      · refine ⟨p, events, summary, rfl, hreplay, ?_, herrors⟩
        simp only [print, houtput, List.nil_append]
        rfl

end Program

end ChatRouting
