/-!
# Arguments of the command line

The arguments select a command. There are two levels: what stands before the command's name,
and what stands after it. The flags `--json` (or `-j`) and `--help` (or `-h`) and the option
`--data-dir` are understood on both levels, and a flag or option may stand once on each. The
value of an option is the next argument, unless that starts with a hyphen, or what follows an
equals sign. After a lone `--` every argument is a plain one.

The arguments are read from left to right and the first fault counts. The value of an option
is judged when the next flag, option or plain argument is read, or at the end of the level.

## Main definitions

* `Command`, `Invocation`
* `UsageFault`
* `Arguments.parse`
-/

namespace ChatRouting

/-- What is to be done. -/
inductive Command where
  | whoami
  | nickname (name : String)
  | reset
  | conversation (peer : String)
  /-- A script is replayed. The source `-` is the standard input. -/
  | replay (source : String) (failFast : Bool)
  deriving DecidableEq, Repr

/-- What the arguments ask for. -/
structure Invocation where
  json : Bool
  dataDir : Option String
  command : Command
  deriving DecidableEq, Repr

/-- Why the arguments name no command to be done. -/
inductive UsageFault where
  | missingSubcommand
  | invalidSubcommand
  | unknownArgument
  /-- A flag or option stands twice. -/
  | argumentConflict
  | missingRequiredArgument
  /-- An option has no value. -/
  | invalidValue
  /-- A flag has a value. -/
  | tooManyValues
  | displayHelp
  | displayVersion
  deriving DecidableEq, Repr

namespace Arguments

/-- The commands by name. -/
inductive Verb where
  | whoami
  | nickname
  | reset
  | cid
  | run
  deriving DecidableEq, Repr

/-- The command with a name. -/
def Verb.ofName? : String → Option Verb
  | "whoami" => some .whoami
  | "nickname" => some .nickname
  | "reset" => some .reset
  | "cid" => some .cid
  | "run" => some .run
  | _ => none

/-- How many plain arguments a command takes. -/
def Verb.arity : Verb → Nat
  | .whoami | .reset => 0
  | .nickname | .cid | .run => 1

/-- The option that has no value yet, or one that is not judged. -/
inductive OpenOption where
  | awaiting
  | given (value : String)

/-- What has been read on one level. -/
structure Level where
  /-- The command after whose name the level stands; none on the first level. -/
  verb : Option Verb
  json : Bool := false
  dataDir : Option String := none
  openOption : Option OpenOption := none
  failFast : Bool := false
  /-- The plain arguments in order. -/
  plain : List String := []
  /-- A lone `--` has been read. -/
  onlyPlain : Bool := false

namespace Level

/-- The value of the data directory, which may be set once and must not be empty. -/
def setDataDir (l : Level) (value : String) : Except UsageFault Level :=
  if l.dataDir.isSome then .error .argumentConflict
  else if value = "" then .error .invalidValue
  else .ok { l with dataDir := some value, openOption := none }

/-- The option that is open, if any, is judged. -/
def settle (l : Level) : Except UsageFault Level :=
  match l.openOption with
  | none => .ok l
  | some .awaiting => .error .invalidValue
  | some (.given value) => l.setDataDir value

/-- The next argument is the value of an option. -/
def isAwaiting (l : Level) : Bool :=
  match l.openOption with
  | some .awaiting => true
  | _ => false

/-- The flag for output as JSON. -/
def setJson (l : Level) : Except UsageFault Level := do
  let l ← l.settle
  if l.json then .error .argumentConflict else return { l with json := true }

/-- The flag for stopping at the first step that fails. -/
def setFailFast (l : Level) : Except UsageFault Level := do
  let l ← l.settle
  if l.failFast then .error .argumentConflict else return { l with failFast := true }

/-- A request for help or for the version ends the reading. -/
def display (l : Level) (f : UsageFault) : Except UsageFault Level := do
  let _ ← l.settle
  .error f

/-- A flag that may have come with a value. -/
def flag (value? : Option String) (set : Except UsageFault Level) : Except UsageFault Level :=
  if value?.isSome then .error .tooManyValues else set

/-- A name after two hyphens, with what follows an equals sign. -/
def long (l : Level) (name : String) (value? : Option String) : Except UsageFault Level :=
  match name, l.verb with
  | "json", _ => flag value? l.setJson
  | "help", _ => flag value? (l.display .displayHelp)
  | "version", none => flag value? (l.display .displayVersion)
  | "fail-fast", some .run => flag value? l.setFailFast
  | "data-dir", _ => do
    let l ← l.settle
    match value? with
    | some value => l.setDataDir value
    | none => return { l with openOption := some .awaiting }
  | _, _ => .error .unknownArgument

/-- The letters after one hyphen. -/
def short (l : Level) : List Char → Except UsageFault Level
  | [] => .ok l
  | c :: rest =>
    match c, l.verb with
    | 'j', _ => do
      let l ← l.setJson
      l.short rest
    | 'h', _ => l.display .displayHelp
    | 'V', none => l.display .displayVersion
    | _, _ => .error .unknownArgument

/-- A plain argument of a command. -/
def addPlain (l : Level) (verb : Verb) (arg : String) : Except UsageFault Level :=
  if l.plain.length < verb.arity then do
    let l ← l.settle
    return { l with plain := l.plain ++ [arg] }
  else .error .unknownArgument

end Level

/-- How an argument looks. -/
inductive Shape where
  /-- A lone `--`. -/
  | escape
  | long (name : String) (value? : Option String)
  | short (letters : List Char)
  | plain

/-- The parts before and after the first equals sign. -/
def splitValue (cs : List Char) : String × Option String :=
  let (name, rest) := cs.span (· ≠ '=')
  (String.ofList name, rest.tail?.map String.ofList)

/-- How an argument looks. A lone hyphen is plain. -/
def shape (arg : String) : Shape :=
  match arg.toList with
  | ['-', '-'] => .escape
  | '-' :: '-' :: rest =>
    let (name, value?) := splitValue rest
    .long name value?
  | '-' :: c :: rest => .short (c :: rest)
  | _ => .plain

/-- An argument that cannot be the name of a command or after one, read on a level: as the
value of an option that awaits one, as a flag or option, or as a plain one with `takePlain`. -/
def readOne (takePlain : Level → Except UsageFault Level) (l : Level) (arg : String) :
    Except UsageFault Level :=
  if l.onlyPlain then takePlain l
  else
    match shape arg with
    | .escape => .ok { l with onlyPlain := true }
    | .long name value? => l.long name value?
    | .short letters => l.short letters
    | .plain =>
      if l.isAwaiting then .ok { l with openOption := some (.given arg) } else takePlain l

/-- The arguments after the name of a command. -/
def readCommand (verb : Verb) (l : Level) : List String → Except UsageFault Level
  | [] => l.settle
  | arg :: rest => do
    let l ← readOne (fun l => l.addPlain verb arg) l arg
    readCommand verb l rest

/-- The command of a level that is read to its end. -/
def command? (verb : Verb) (l : Level) : Except UsageFault Command :=
  match verb, l.plain with
  | .whoami, _ => .ok .whoami
  | .reset, _ => .ok .reset
  | .nickname, name :: _ => .ok (.nickname name)
  | .cid, peer :: _ => .ok (.conversation peer)
  | .run, plain => .ok (.replay (plain.headD "-") l.failFast)
  | _, [] => .error .missingRequiredArgument

/-- Help on a command, which is named by the arguments. -/
def help : List String → UsageFault
  | [] => .displayHelp
  | [name] =>
    if name = "help" ∨ (Verb.ofName? name).isSome then .displayHelp else .invalidSubcommand
  | _ => .invalidSubcommand

/-- A plain argument where the name of a command has to stand. -/
def strayName (l : Level) (arg : String) : UsageFault :=
  if l.onlyPlain ∧ (arg = "help" ∨ (Verb.ofName? arg).isSome) then .unknownArgument
  else .invalidSubcommand

/-- A command and the arguments after its name, below a first level. -/
def readBelow (l : Level) (verb : Verb) (args : List String) : Except UsageFault Invocation := do
  let below ← readCommand verb { verb := some verb } args
  let command ← command? verb below
  let l ← l.settle
  return { json := l.json || below.json, dataDir := below.dataDir <|> l.dataDir, command }

/-- The arguments from the first level on. -/
def readAll (l : Level) : List String → Except UsageFault Invocation
  | [] => do
    let _ ← l.settle
    .error .missingSubcommand
  | arg :: rest =>
    let named := !l.onlyPlain && !l.isAwaiting
    match named, arg, Verb.ofName? arg with
    | true, "help", _ => .error (help rest)
    | true, _, some verb => readBelow l verb rest
    | _, _, _ => do
      let l ← readOne (fun l => .error (strayName l arg)) l arg
      readAll l rest

/-- What the arguments ask for. -/
def parse (args : List String) : Except UsageFault Invocation :=
  readAll { verb := none } args

end Arguments

end ChatRouting
