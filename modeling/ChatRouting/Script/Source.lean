import ChatRouting.Bytes.Basic
import ChatRouting.Failure
import ChatRouting.Json.Reader
import ChatRouting.Script.Step
import ChatRouting.Text.Blank

/-!
# Script sources

A script is a file of lines that end at line feeds. Blank lines and lines that start with a
number sign are skipped, after trimming; every other line is a step, which keeps its number.
The first line that cannot be read decides how reading fails.

## Main definitions

* `Script.lines`: the lines of a file
* `Script.readLine`: what one line means
* `Script.parse`: the numbered steps of a file
-/

namespace ChatRouting.Script

/-- The lines of a file without their line feeds. Nothing after the last line feed is no line. -/
def lines : Bytes → List Bytes
  | [] => []
  | b :: rest =>
    if b = 10 then [] :: lines rest
    else
      match lines rest with
      | [] => [[b]]
      | l :: ls => (b :: l) :: ls

/-- The line says nothing to do. -/
def isSkipped (trimmed : List Char) : Bool :=
  match trimmed with
  | [] => true
  | c :: _ => c == '#'

/-- The step on a line of text, if the line is not skipped. -/
def readText (number : Nat) (line : String) : Except Failure (Option Step) :=
  let trimmed := Text.trimChars line.toList
  if isSkipped trimmed then .ok none
  else
    match (Json.parseChars trimmed).bind Step.ofJson? with
    | some step => .ok (some step)
    | none => .error (.parseLine number)

/-- The step on a line, if the line is not skipped. -/
def readLine (number : Nat) (line : Bytes) : Except Failure (Option Step) :=
  match Bytes.text? line with
  | none => .error (.readLine number .notText)
  | some text => readText number text

/-- The steps on lines that are numbered from a number on. -/
def parseLines (number : Nat) : List Bytes → Except Failure (List (Nat × Step))
  | [] => .ok []
  | line :: rest => do
    let step? ← readLine number line
    let steps ← parseLines (number + 1) rest
    match step? with
    | some step => return (number, step) :: steps
    | none => return steps

/-- The steps of a file with the numbers of their lines. -/
def parse (file : Bytes) : Except Failure (List (Nat × Step)) :=
  parseLines 1 (lines file)

end ChatRouting.Script
