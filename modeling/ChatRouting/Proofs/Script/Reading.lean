import Mathlib.Data.List.Basic
import ChatRouting.CommandLine.Program
import ChatRouting.Proofs.Text
import ChatRouting.Script.Source

/-!
# Reading scripts

A file of text is made of lines that end at a line feed, perhaps with a carriage return before it,
and the last of which may end with the file. How they end does not matter: a carriage return is
trimmed, and after the last line feed there is no line. So a script is read line by line, and its
steps are those of the lines that say one, with the numbers of the lines. A line that is blank or a
comment says nothing, and every other line has to say a step. The first that does not is reported,
and then nothing of the script is replayed.

## Main definitions

* `Script.Consists`: the lines that a file is made of
* `Script.Skipped`, `Script.stepOf?`, `Script.Offends`: what a line says
* `Script.numbered`: the steps of lines with the numbers of the lines
* `Script.moved`: what is read when another line is put in

## Main results

* `Script.parse_of_consists`: the ends of lines do not matter
* `Script.parseLines_of_sound`, `Script.parseLines_of_offended`
* `Script.parse_numbered`: what is read of a script
-/

namespace ChatRouting.Script

/-! ### Lines -/

/-- A file is made of lines of text. Each ends at a line feed, with a carriage return before it or
without, but the last, which may end with the file. -/
inductive Consists : List String → Bytes → Prop
  | none : Consists [] []
  | last {line : String} (feedless : '\n' ∉ line.toList) (nonempty : line ≠ "") :
      Consists [line] (Bytes.ofText line)
  | feed {line : String} {rest : List String} {file : Bytes} (feedless : '\n' ∉ line.toList)
      (h : Consists rest file) : Consists (line :: rest) (Bytes.ofText line ++ 10 :: file)
  | returned {line : String} {rest : List String} {file : Bytes} (feedless : '\n' ∉ line.toList)
      (h : Consists rest file) : Consists (line :: rest) (Bytes.ofText line ++ 13 :: 10 :: file)

/-- A character in front of a file is in front of its first line, unless it ends a line of its
own. -/
theorem Consists.exists_cons {lines : List String} {file : Bytes} (h : Consists lines file)
    (c : Char) : ∃ lines', Consists lines' (String.utf8EncodeChar c ++ file) := by
  by_cases hc : c = '\n'
  · subst hc
    have hempty : '\n' ∉ "".toList := by decide
    exact ⟨"" :: lines, .feed hempty h⟩
  have hfront (line : String) : Bytes.ofText (String.ofList (c :: line.toList)) =
      String.utf8EncodeChar c ++ Bytes.ofText line := by
    simp [Bytes.ofText]
  have hfeedless {line : String} (h : '\n' ∉ line.toList) :
      '\n' ∉ (String.ofList (c :: line.toList)).toList := by
    simpa [Ne.symm hc] using h
  have hnonempty (line : String) : String.ofList (c :: line.toList) ≠ "" := by
    intro h
    simpa using congrArg String.toList h
  cases h with
  | none =>
    have hbytes : String.utf8EncodeChar c ++ [] = Bytes.ofText (String.ofList (c :: "".toList)) :=
      (hfront "").symm
    rw [hbytes]
    exact ⟨_, .last (hfeedless (by decide)) (hnonempty "")⟩
  | last feedless nonempty =>
    rw [← hfront]
    exact ⟨_, .last (hfeedless feedless) (hnonempty _)⟩
  | feed feedless h =>
    rw [← List.append_assoc, ← hfront]
    exact ⟨_, .feed (hfeedless feedless) h⟩
  | returned feedless h =>
    rw [← List.append_assoc, ← hfront]
    exact ⟨_, .returned (hfeedless feedless) h⟩

/-- Every text is made of lines. -/
theorem exists_consists (text : String) : ∃ lines, Consists lines (Bytes.ofText text) := by
  rw [Bytes.ofText]
  induction text.toList with
  | nil => exact ⟨[], .none⟩
  | cons c cs ih =>
    obtain ⟨lines, h⟩ := ih
    rw [List.flatMap_cons]
    exact h.exists_cons c

/-! ### The ends of lines -/

theorem lines_append_feed {line : Bytes} (h : 10 ∉ line) (rest : Bytes) :
    lines (line ++ 10 :: rest) = line :: lines rest := by
  induction line with
  | nil => rw [List.nil_append, lines, if_pos rfl]
  | cons b line ih =>
    rw [List.mem_cons, not_or] at h
    rw [List.cons_append, lines, if_neg (Ne.symm h.1), ih h.2]

theorem lines_of_feedless {line : Bytes} (h : 10 ∉ line) (hne : line ≠ []) :
    lines line = [line] := by
  induction line with
  | nil => exact absurd rfl hne
  | cons b line ih =>
    rw [List.mem_cons, not_or] at h
    rw [lines, if_neg (Ne.symm h.1)]
    rcases line with _ | ⟨b', line⟩
    · rfl
    · rw [ih h.2 (List.cons_ne_nil _ _)]

theorem readLine_ofText (number : Nat) (line : String) :
    readLine number (Bytes.ofText line) = readText number line := by
  rw [readLine, Bytes.text?_ofText]

/-- A carriage return at the end of a line does not matter. -/
theorem readLine_returned (number : Nat) (line : String) :
    readLine number (Bytes.ofText line ++ [13]) = readLine number (Bytes.ofText line) := by
  have hbytes : Bytes.ofText line ++ [13] = Bytes.ofText (line ++ "\r") := by
    rw [Bytes.ofText_append]
    rfl
  have htrim : Text.trimChars (line ++ "\r").toList = Text.trimChars line.toList := by
    rw [String.toList_append]
    exact Text.trimChars_append_blank (List.all_eq_true.mp rfl) _
  rw [hbytes, readLine_ofText, readLine_ofText, readText, readText, htrim]

theorem parseLines_of_consists {ls : List String} {file : Bytes} (h : Consists ls file)
    (number : Nat) : parseLines number (lines file) = parseLines number (ls.map Bytes.ofText) := by
  induction h generalizing number with
  | none => rfl
  | @last line feedless nonempty =>
    have hne : Bytes.ofText line ≠ [] := by
      intro h
      exact nonempty (Bytes.ofText_injective h)
    rw [lines_of_feedless (mt Bytes.feed_mem_ofText_iff.mp feedless) hne]
    rfl
  | feed feedless h ih =>
    rw [lines_append_feed (mt Bytes.feed_mem_ofText_iff.mp feedless), List.map_cons, parseLines,
      ih, parseLines]
  | @returned line rest file feedless h ih =>
    have hfeedless : 10 ∉ Bytes.ofText line ++ [13] := by
      simpa using mt Bytes.feed_mem_ofText_iff.mp feedless
    have hbytes : Bytes.ofText line ++ 13 :: 10 :: file =
        (Bytes.ofText line ++ [13]) ++ 10 :: file := by simp
    rw [hbytes, lines_append_feed hfeedless, List.map_cons, parseLines, readLine_returned, ih,
      parseLines]

/-- **How lines end does not matter.** -/
theorem parse_of_consists {ls : List String} {file : Bytes} (h : Consists ls file) :
    parse file = parseLines 1 (ls.map Bytes.ofText) :=
  parseLines_of_consists h 1

/-! ### What a line says -/

/-- A line is blank or a comment. -/
def Skipped (line : String) : Prop :=
  Text.trim line = "" ∨ ∃ comment, Text.trim line = "#" ++ comment

/-- The step that a line says, if it says one. -/
def stepOf? (line : String) : Option Step :=
  (Json.parse (Text.trim line)).bind Step.ofJson?

/-- A line has to say a step and does not. -/
def Offends (line : String) : Prop :=
  ¬Skipped line ∧ stepOf? line = none

theorem isSkipped_iff {line : String} : isSkipped (Text.trimChars line.toList) ↔ Skipped line := by
  rw [Skipped, Text.trim]
  rcases Text.trimChars line.toList with _ | ⟨c, cs⟩
  · exact iff_of_true rfl (Or.inl rfl)
  · constructor
    · intro h
      obtain rfl : c = '#' := by simpa [isSkipped] using h
      exact Or.inr ⟨String.ofList cs, by simp [String.ofList_cons]⟩
    · rintro (h | ⟨comment, h⟩)
      · simpa using congrArg String.toList h
      · have hchars := congrArg String.toList h
        rw [String.toList_ofList, String.toList_append] at hchars
        obtain ⟨rfl, -⟩ := List.cons.inj hchars
        rfl

/-- What is skipped says no step. -/
theorem stepOf?_of_skipped {line : String} (h : Skipped line) : stepOf? line = none := by
  have hnone : Json.parse (Text.trim line) = none := by
    rcases h with h | ⟨comment, h⟩
    · rw [h]
      decide
    · have hchars : (Text.trim line).toList = '#' :: comment.toList := by
        rw [h, String.toList_append]
        rfl
      rw [Json.parse, hchars]
      simp [Json.parseChars, Json.Reader.value, Json.Reader.skipSpace, Json.Reader.isSpace,
        Json.Reader.number, Json.Reader.unsigned, Json.Reader.whole, Json.Reader.digits]
  rw [stepOf?, hnone, Option.bind_none]

theorem readText_eq (number : Nat) (line : String) : readText number line =
    if isSkipped (Text.trimChars line.toList) then .ok none
    else match stepOf? line with
      | some step => .ok (some step)
      | none => .error (.parseLine number) := by
  have hparse : (Json.parseChars (Text.trimChars line.toList)).bind Step.ofJson? =
      stepOf? line := by
    rw [stepOf?, Json.parse, Text.trim, String.toList_ofList]
  cases hstep : stepOf? line with
  | none => rw [readText, hparse, hstep]
  | some step => rw [readText, hparse, hstep]

theorem readText_of_offends {line : String} (h : Offends line) (number : Nat) :
    readText number line = .error (.parseLine number) := by
  rw [readText_eq, if_neg (mt isSkipped_iff.mp h.1), h.2]

/-- A line that does not offend is read as what it says. -/
theorem readText_of_sound {line : String} (h : ¬Offends line) (number : Nat) :
    readText number line = .ok (stepOf? line) := by
  rw [readText_eq]
  by_cases hskipped : Skipped line
  · rw [if_pos (isSkipped_iff.mpr hskipped), stepOf?_of_skipped hskipped]
  · rw [if_neg (mt isSkipped_iff.mp hskipped)]
    cases hstep : stepOf? line with
    | none => exact absurd ⟨hskipped, hstep⟩ h
    | some step => rfl

/-! ### Scripts -/

/-- The steps of lines with the numbers of the lines, counted up from a number. -/
def numbered (number : Nat) (ls : List String) : List (Nat × Step) :=
  (ls.zipIdx number).filterMap fun (line, number) => (stepOf? line).map (number, ·)

theorem numbered_cons (number : Nat) (line : String) (ls : List String) :
    numbered number (line :: ls) =
      ((stepOf? line).map (number, ·)).toList ++ numbered (number + 1) ls := by
  simp only [numbered, List.zipIdx_cons, List.filterMap_cons]
  cases stepOf? line <;> rfl

theorem numbered_append (number : Nat) (ls ls' : List String) :
    numbered number (ls ++ ls') = numbered number ls ++ numbered (number + ls.length) ls' := by
  rw [numbered, List.zipIdx_append, List.filterMap_append, ← numbered, Nat.add_comm, ← numbered,
    Nat.add_comm]

/-- The steps of numbered lines have increasing numbers, none below the first. -/
theorem parseLines_ordered {number : Nat} {lines : List Bytes} {steps : List (Nat × Step)}
    (hparse : parseLines number lines = .ok steps) :
    (steps.map Prod.fst).Pairwise (· < ·) ∧ ∀ line ∈ steps.map Prod.fst, number ≤ line := by
  induction lines generalizing number steps with
  | nil =>
    cases hparse
    exact ⟨List.Pairwise.nil, by simp⟩
  | cons line lines ih =>
    rw [parseLines] at hparse
    rcases hline : readLine number line with f | step?
    · rw [hline] at hparse
      cases hparse
    rcases hlater : parseLines (number + 1) lines with f | later
    · rw [hline, hlater] at hparse
      cases hparse
    rw [hline, hlater] at hparse
    obtain ⟨hordered, hfrom⟩ := ih hlater
    cases step? with
    | none =>
      cases hparse
      exact ⟨hordered, fun line hmem => Nat.le_of_succ_le (hfrom line hmem)⟩
    | some step =>
      cases hparse
      rw [List.map_cons, List.pairwise_cons, List.forall_mem_cons]
      exact ⟨⟨hfrom, hordered⟩, Nat.le_refl _, fun line hmem => Nat.le_of_succ_le (hfrom line hmem)⟩

/-- Lines that do not offend are read as the steps that they say. -/
theorem parseLines_of_sound {ls : List String} (h : ∀ line ∈ ls, ¬Offends line) (number : Nat) :
    parseLines number (ls.map Bytes.ofText) = .ok (numbered number ls) := by
  induction ls generalizing number with
  | nil => rfl
  | cons line ls ih =>
    rw [List.forall_mem_cons] at h
    rw [List.map_cons, parseLines, readLine_ofText, readText_of_sound h.1, ih h.2, numbered_cons]
    cases stepOf? line <;> rfl

/-- The first line that offends is reported with its number. -/
theorem parseLines_of_offended {before : List String} {line : String}
    (hbefore : ∀ l ∈ before, ¬Offends l) (hline : Offends line) (after : List String)
    (number : Nat) : parseLines number ((before ++ line :: after).map Bytes.ofText) =
      .error (.parseLine (number + before.length)) := by
  induction before generalizing number with
  | nil =>
    rw [List.nil_append, List.map_cons, parseLines, readLine_ofText, readText_of_offends hline]
    rfl
  | cons l before ih =>
    rw [List.forall_mem_cons] at hbefore
    rw [List.cons_append, List.map_cons, parseLines, readLine_ofText,
      readText_of_sound hbefore.1, ih hbefore.2, List.length_cons, Nat.add_right_comm,
      Nat.add_assoc]
    rfl

/-- Unless no line offends, there is a first one that does. -/
theorem exists_first_offending (ls : List String) : (∀ line ∈ ls, ¬Offends line) ∨
    ∃ before line after, ls = before ++ line :: after ∧ (∀ l ∈ before, ¬Offends l) ∧
      Offends line := by
  induction ls with
  | nil => exact Or.inl (by simp)
  | cons line ls ih =>
    by_cases hline : Offends line
    · exact Or.inr ⟨[], line, ls, rfl, by simp, hline⟩
    · rcases ih with hsound | ⟨before, line', after, rfl, hbefore, hline'⟩
      · exact Or.inl (List.forall_mem_cons.mpr ⟨hline, hsound⟩)
      · exact Or.inr ⟨line :: before, line', after, rfl,
          List.forall_mem_cons.mpr ⟨hline, hbefore⟩, hline'⟩

/-! ### Another line -/

/-- The number of a line after another line has been put in under a number. -/
def moveNumber (place number : Nat) : Nat :=
  if place ≤ number then number + 1 else number

/-- What is read after a line that says nothing has been put in under a number. -/
def moved (place : Nat) : Except Failure (List (Nat × Step)) → Except Failure (List (Nat × Step))
  | .ok steps => .ok (steps.map fun (number, step) => (moveNumber place number, step))
  | .error (.parseLine number) => .error (.parseLine (moveNumber place number))
  | .error f => .error f

/-- Steps before the place keep their numbers. -/
theorem map_moveNumber_of_before {place number : Nat} {ls : List String}
    (h : number + ls.length ≤ place) :
    (numbered number ls).map (fun (n, step) => (moveNumber place n, step)) =
      numbered number ls := by
  induction ls generalizing number with
  | nil => rfl
  | cons line ls ih =>
    rw [List.length_cons] at h
    have hnumber : moveNumber place number = number := if_neg (by omega)
    rw [numbered_cons, List.map_append, ih (by omega)]
    cases stepOf? line <;> simp [hnumber]

/-- Steps from the place on have numbers that are greater by one. -/
theorem map_moveNumber_of_after {place number : Nat} (h : place ≤ number) (ls : List String) :
    (numbered number ls).map (fun (n, step) => (moveNumber place n, step)) =
      numbered (number + 1) ls := by
  induction ls generalizing number with
  | nil => rfl
  | cons line ls ih =>
    have hnumber : moveNumber place number = number + 1 := if_pos h
    rw [numbered_cons, List.map_append, ih (by omega), numbered_cons]
    cases stepOf? line <;> simp [hnumber]

/-- **A line that is skipped only moves the numbers of later lines.** -/
theorem parseLines_insert {line : String} (hline : Skipped line) (before after : List String)
    (number : Nat) : parseLines number ((before ++ line :: after).map Bytes.ofText) =
      moved (number + before.length) (parseLines number ((before ++ after).map Bytes.ofText)) := by
  have hsound : ¬Offends line := fun h => h.1 hline
  rcases exists_first_offending before with hbefore | ⟨first, bad, rest, rfl, hfirst, hbad⟩
  · rcases exists_first_offending after with hafter | ⟨first, bad, rest, rfl, hfirst, hbad⟩
    · rw [parseLines_of_sound (List.forall_mem_append.mpr ⟨hbefore, hafter⟩),
        parseLines_of_sound (List.forall_mem_append.mpr
          ⟨hbefore, List.forall_mem_cons.mpr ⟨hsound, hafter⟩⟩), moved, numbered_append,
        numbered_append, numbered_cons, stepOf?_of_skipped hline, List.map_append,
        map_moveNumber_of_before (Nat.le_refl _), map_moveNumber_of_after (Nat.le_refl _)]
      rfl
    · have hall : ∀ l ∈ before ++ line :: first, ¬Offends l :=
        List.forall_mem_append.mpr ⟨hbefore, List.forall_mem_cons.mpr ⟨hsound, hfirst⟩⟩
      have hlater := parseLines_of_offended hall hbad rest number
      have hearlier := parseLines_of_offended (List.forall_mem_append.mpr ⟨hbefore, hfirst⟩) hbad
        rest number
      rw [List.append_assoc, List.cons_append, List.length_append, List.length_cons] at hlater
      rw [List.append_assoc, List.length_append] at hearlier
      have hnumber : moveNumber (number + before.length)
          (number + (before.length + first.length)) =
          number + (before.length + (first.length + 1)) := by
        rw [moveNumber, if_pos (by omega)]
        omega
      rw [hlater, hearlier, moved, hnumber]
  · have hnumber : moveNumber (number + (first ++ bad :: rest).length) (number + first.length) =
        number + first.length := by
      rw [moveNumber, if_neg]
      rw [List.length_append, List.length_cons]
      omega
    rw [List.append_assoc, List.cons_append, parseLines_of_offended hfirst hbad, List.append_assoc,
      List.cons_append, parseLines_of_offended hfirst hbad, moved, hnumber]

/-! ### Main result -/

/-- A script that cannot be read is not replayed. -/
theorem run_of_unreadable {s : Surroundings} {path : String} {file : Bytes} {f : Failure}
    (hsource : Program.source s path = .ok file) (hparse : parse file = .error f)
    (mode : Report.Mode) (localId : String) (p : Profile) (e : Effect) (failFast : Bool) :
    Program.replay s p path failFast = ([], .error f) ∧
      Program.run mode s localId p e (.replay path failFast) = Program.fail mode e f := by
  have hreplay : Program.replay s p path failFast = ([], .error f) := by
    simp only [Program.replay, hsource, bind, Except.bind, hparse]
  refine ⟨hreplay, ?_⟩
  simp only [Program.run, hreplay, List.map_nil, List.append_nil]

/-- **A script is read line by line.** Every text is made of lines, and what is read of a file that
is made of some lines is said by these alone. It can be read just if no line offends. Then the steps
are those that the lines say, in order and with the numbers of the lines, which increase. Otherwise
the first line that offends is reported, and a command that replays the script does nothing else.
A line that is skipped may be put in anywhere: it moves the numbers of later lines by one. -/
theorem parse_numbered :
    (∀ (file : Bytes) (text : String), Bytes.text? file = some text → ∃ ls, Consists ls file) ∧
    ∀ (ls : List String) (file : Bytes), Consists ls file →
      ((∃ steps, parse file = .ok steps) ↔ ∀ line ∈ ls, ¬Offends line) ∧
      (∀ steps, parse file = .ok steps →
        steps = numbered 1 ls ∧ (steps.map Prod.fst).Pairwise (· < ·)) ∧
      (∀ f, parse file = .error f →
        (∃ before line after, ls = before ++ line :: after ∧ (∀ l ∈ before, ¬Offends l) ∧
          Offends line ∧ f = .parseLine (before.length + 1)) ∧
        ∀ s path, Program.source s path = .ok file → ∀ mode localId p e failFast,
          Program.replay s p path failFast = ([], .error f) ∧
            Program.run mode s localId p e (.replay path failFast) = Program.fail mode e f) ∧
      ∀ before after line file', ls = before ++ after → Skipped line →
        Consists (before ++ line :: after) file' →
          parse file' = moved (before.length + 1) (parse file) := by
  refine ⟨fun file text htext => ?_, fun ls file hls => ?_⟩
  · rw [Bytes.text?_eq_some_iff.mp htext]
    exact exists_consists text
  have hinsert (before after : List String) (line : String) (file' : Bytes)
      (hsplit : ls = before ++ after) (hline : Skipped line)
      (hls' : Consists (before ++ line :: after) file') :
      parse file' = moved (before.length + 1) (parse file) := by
    rw [parse_of_consists hls', parse_of_consists hls, parseLines_insert hline, hsplit,
      Nat.add_comm]
  rcases exists_first_offending ls with hsound | ⟨before, line, after, hsplit, hbefore, hline⟩
  · have hparse : parse file = .ok (numbered 1 ls) := by
      rw [parse_of_consists hls, parseLines_of_sound hsound]
    refine ⟨iff_of_true ⟨_, hparse⟩ hsound, fun steps hsteps => ?_, fun f hf => ?_, hinsert⟩
    · exact ⟨Except.ok.inj (hsteps.symm.trans hparse), (parseLines_ordered hsteps).1⟩
    · rw [hparse] at hf
      cases hf
  · have hparse : parse file = .error (.parseLine (before.length + 1)) := by
      rw [parse_of_consists hls, hsplit, parseLines_of_offended hbefore hline, Nat.add_comm]
    refine ⟨iff_of_false ?_ fun hsound => hsound line ?_ hline, fun steps hsteps => ?_,
      fun f hf => ⟨⟨before, line, after, hsplit, hbefore, hline, ?_⟩, ?_⟩, hinsert⟩
    · rintro ⟨steps, hsteps⟩
      rw [hparse] at hsteps
      cases hsteps
    · rw [hsplit]
      exact List.mem_append_right _ List.mem_cons_self
    · rw [hparse] at hsteps
      cases hsteps
    · exact Except.error.inj (hf.symm.trans hparse)
    · exact fun s path hsource mode localId p e failFast =>
        run_of_unreadable hsource hf mode localId p e failFast

/-- Lines that end in different ways, a comment and a blank one among them. Another comment is put
in before the last. -/
theorem parse_numbered_mixed :
    let sessions := "\x7b\"op\":\"sessions\"\x7d"
    let direct := "\x7b\"op\":\"startDirect\",\"peerId\":\"bob\"\x7d"
    let ls := ["\u3000# first", sessions, " \t", direct]
    let file := Bytes.ofText ("\u3000# first\n" ++ (sessions ++ ("\r\n \t\r\n" ++ direct)))
    let file' := Bytes.ofText
      ("\u3000# first\n" ++ (sessions ++ ("\r\n \t\r\n" ++ ("# last\n" ++ direct))))
    Consists ls file ∧ Skipped "# last" ∧
      parse file = .ok [(2, .sessions), (4, .startDirect "bob")] ∧
      parse file' = .ok [(2, .sessions), (5, .startDirect "bob")] := by
  intro sessions direct ls file file'
  have hdirect : Consists [direct] (Bytes.ofText direct) := .last (by decide) (by decide)
  have hlast : Consists ["# last", direct] (Bytes.ofText "# last" ++ 10 :: Bytes.ofText direct) :=
    .feed (by decide) hdirect
  have hfirst {rest : List String} {bytes : Bytes} (h : Consists rest bytes) :
      Consists ("\u3000# first" :: sessions :: " \t" :: rest) (Bytes.ofText "\u3000# first" ++
        10 :: (Bytes.ofText sessions ++ 13 :: 10 :: (Bytes.ofText " \t" ++ 13 :: 10 :: bytes))) :=
    .feed (by decide) (.returned (by decide) (.returned (by decide) h))
  have hfile : Consists ls file := by
    simp only [file, Bytes.ofText_append]
    exact hfirst hdirect
  have hfile' : Consists ["\u3000# first", sessions, " \t", "# last", direct] file' := by
    simp only [file', Bytes.ofText_append]
    exact hfirst hlast
  have hskipped : Skipped "# last" := isSkipped_iff.mp (by decide)
  have hsound : ∀ line ∈ ls, ¬Offends line := by
    have hmeaning : ∀ line ∈ ls, isSkipped (Text.trimChars line.toList) ∨
        (stepOf? line).isSome := by
      decide +kernel
    rintro line hmem ⟨hneed, hnone⟩
    rcases hmeaning line hmem with hskip | hsome
    · exact hneed (isSkipped_iff.mp hskip)
    · simp [hnone] at hsome
  have hsteps : numbered 1 ls = [(2, .sessions), (4, .startDirect "bob")] := by decide +kernel
  obtain ⟨hreadable, hread, -, hinsert⟩ := parse_numbered.2 _ _ hfile
  obtain ⟨steps, hparse⟩ := hreadable.mpr hsound
  rw [(hread steps hparse).1, hsteps] at hparse
  refine ⟨hfile, hskipped, hparse, ?_⟩
  rw [hinsert ["\u3000# first", sessions, " \t"] [direct] "# last" file' rfl hskipped hfile',
    hparse]
  rfl

end ChatRouting.Script
