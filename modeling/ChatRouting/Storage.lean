import ChatRouting.Bytes.Basic

/-!
# Storage

What the system answers when a path is opened and what is behind it is read. The system gives
each of its refusals a number and a wording, and both are shown. To the system a zero byte ends
a path, so a path that has one inside is refused without asking.

## Main definitions

* `SystemFault`: why a path is refused
* `SystemFault.ofPath?`: why a path is refused without asking the system
* `Opened`, with `Opened.bytes`: what is behind a path
* `ReadFault`: why something cannot be read as text
-/

namespace ChatRouting

/-- Why something is refused, in words and with the number the system has for it. -/
structure SystemFault where
  /-- What the system has not been asked for has no number. -/
  number : Option Nat
  wording : String
  deriving DecidableEq, Repr

namespace SystemFault

/-- There is nothing under the path. -/
def notFound : SystemFault :=
  ⟨some 2, "No such file or directory"⟩

/-- There is something else under the path already. -/
def taken : SystemFault :=
  ⟨some 17, "File exists"⟩

/-- A path goes on below something that is no directory. -/
def notDirectory : SystemFault :=
  ⟨some 20, "Not a directory"⟩

/-- A directory has no bytes to read. -/
def isDirectory : SystemFault :=
  ⟨some 21, "Is a directory"⟩

/-- The path, or a name in it, is longer than the system takes. -/
def nameTooLong : SystemFault :=
  ⟨some 36, "File name too long"⟩

/-- There is a zero byte inside the path. -/
def zeroInPath : SystemFault :=
  ⟨none, "file name contained an unexpected NUL byte"⟩

/-- Why a path is refused without asking the system, if it is. -/
def ofPath? (path : String) : Option SystemFault :=
  if '\x00' ∈ path.toList then some zeroInPath else none

/-- The wording of a refusal, with its number if it has one. -/
def message (f : SystemFault) : String :=
  match f.number with
  | some number => s!"{f.wording} (os error {number})"
  | none => f.wording

end SystemFault

/-- Why something that is open cannot be read as text. -/
inductive ReadFault where
  /-- Its bytes are not UTF-8. -/
  | notText
  | system (f : SystemFault)
  deriving DecidableEq, Repr

/-- The wording of a fault of reading. -/
def ReadFault.message : ReadFault → String
  | .notText => "stream did not contain valid UTF-8"
  | .system f => f.message

/-- What is behind a path that can be opened. -/
inductive Opened where
  | file (bytes : Bytes)
  /-- A directory, which opens like a file and cannot be read. -/
  | directory

/-- The bytes of what is open. -/
def Opened.bytes : Opened → Except SystemFault Bytes
  | .file bytes => .ok bytes
  | .directory => .error .isDirectory

end ChatRouting
