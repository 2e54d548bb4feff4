import ChatRouting.Proofs.CommandLine.Identity
import ChatRouting.Proofs.Profile

/-!
# The life of a profile

Commands that are run one after the other on one directory each find the profile's file that the one
before left. What they do to the profile can be told without the file: a reset takes the id and the
nickname out, every other command puts an id in where there is none, and a new nickname is put in
trimmed unless it is blank. Nothing else ever changes, neither by commands that fail nor by scripts.

A directory without a file therefore never comes to hold an id or a nickname that stands in the way
of an endpoint, so that whatever was run before, a script is replayed.

## Main definitions

* `Program.Call`: a command with what it finds besides the profile
* `Program.fileAfter`: the file that commands leave
* `Program.Call.update`, `Program.profileAfter`: what they do to the profile
* `Program.LifeCycle`

## Main results

* `Program.Call.stored_effect`: what one command leaves
* `Program.lifeCycle`
-/

namespace ChatRouting

/-- The file of a profile is there and holds the profile. -/
def Profile.Stored (p : Profile) (file : Option Bytes) : Prop :=
  file.isSome = true ∧ load file = .ok p

/-- A profile with an id, if it has one, that was generated, and no blank nickname. -/
structure Profile.Usable (p : Profile) : Prop where
  localId : ∀ id, p.localId = some id → Identity.isGeneratedId id = true
  nickname : ∀ name, p.nickname = some name → Text.trim name ≠ ""

theorem Profile.usable_of_none {p : Profile} (hid : p.localId = none) (hname : p.nickname = none) :
    p.Usable where
  localId id h := by
    rw [hid] at h
    cases h
  nickname name h := by
    rw [hname] at h
    cases h

/-- The file after an effect. -/
def Effect.leaves (e : Effect) (file : Option Bytes) : Option Bytes :=
  (e.saved.map Bytes.ofText).or file

namespace Program

open Report (Mode)

/-- A command, with what it finds besides the file of the profile. -/
structure Call where
  command : Command
  json : Bool
  freshId : String
  stdin : Bytes
  opened : String → Except SystemFault Opened

/-- What a command finds where files can be written. -/
def Call.surroundings (c : Call) (file : Option Bytes) : Surroundings :=
  { profile := .ok (file.map .file), freshId := c.freshId, stdin := c.stdin, opened := c.opened }

/-- What a command does in a directory. -/
def Call.effect (c : Call) (dataDir : Option String) (file : Option Bytes) : Effect :=
  execute (c.surroundings file) { json := c.json, dataDir, command := c.command }

/-- The file that commands leave. Each finds the file that the one before it left. -/
def fileAfter (dataDir : Option String) (file : Option Bytes) (calls : List Call) : Option Bytes :=
  calls.foldl (fun file c => (c.effect dataDir file).leaves file) file

/-- The profile after a command. -/
def Call.update (c : Call) (p : Profile) : Profile :=
  match c.command with
  | .reset => { p with localId := none, nickname := none }
  | .nickname name =>
    { p with
      localId := some (p.localId.getD c.freshId)
      nickname := if Text.trim name = "" then p.nickname else some (Text.trim name) }
  | _ => { p with localId := some (p.localId.getD c.freshId) }

/-- The profile after commands. -/
def profileAfter (p : Profile) (calls : List Call) : Profile :=
  calls.foldl (fun p c => c.update p) p

/-! ### One command -/

variable {s : Surroundings} {dataDir : Option String} {file : Option Bytes} {p : Profile}

/-- The file that was written holds what was written. -/
theorem stored_of_saved {e : Effect} (he : e.saved = some p.save) (file : Option Bytes) :
    p.Stored (e.leaves file) := by
  rw [Effect.leaves, he]
  exact ⟨rfl, p.load_save⟩

/-- A file is there if it holds an id. -/
theorem stored_of_localId (hload : Profile.load file = .ok p) {id : String}
    (hid : p.localId = some id) : p.Stored file := by
  rcases file with _ | bytes
  · cases hload
    cases hid
  · exact ⟨rfl, hload⟩

/-- A command starts with a profile in the file that has an id. -/
theorem identify_stored (hw : s.unwritable = none) (hload : Profile.load file = .ok p)
    (mode : Mode) :
    ∃ e : Effect, identify mode s p =
        .ok (p.localId.getD s.freshId, { p with localId := some (p.localId.getD s.freshId) }, e) ∧
      Profile.Stored { p with localId := some (p.localId.getD s.freshId) } (e.leaves file) ∧
      e.succeeded = true := by
  obtain ⟨localId, nickname, ignoreOwnEcho⟩ := p
  rw [identify, Profile.ensureId]
  rcases localId with _ | id
  · simp only [store, hw]
    exact ⟨_, rfl, stored_of_saved rfl file, rfl⟩
  · exact ⟨{}, rfl, stored_of_localId hload rfl, rfl⟩

/-- A command of a local user leaves the profile it starts with, but for a new nickname. -/
theorem stored_run (hw : s.unwritable = none) {e : Effect} (hstored : p.Stored (e.leaves file))
    (mode : Mode) (localId : String) (command : Command) (hc : command ≠ .reset) :
    Profile.Stored
      (match command with
        | .nickname name =>
          { p with nickname := if Text.trim name = "" then p.nickname else some (Text.trim name) }
        | _ => p)
      ((run mode s localId p e command).leaves file) := by
  cases command with
  | whoami => exact hstored
  | nickname name =>
    simp only [run, Profile.rename]
    by_cases hblank : Text.trim name = ""
    · simp only [if_pos hblank]
      exact hstored
    · simp only [if_neg hblank, store, hw]
      exact stored_of_saved rfl file
  | reset => exact absurd rfl hc
  | conversation peer =>
    simp only [run]
    rcases Conversation.directId localId peer with f | id <;> exact hstored
  | replay path failFast =>
    simp only [run]
    rcases (replay s p path failFast).2 with f | summary <;> exact hstored

/-- The profile in a directory without a fault is the one in its file. -/
theorem profile_eq (hdir : dataDir.bind SystemFault.ofPath? = none)
    (hload : Profile.load file = .ok p) (c : Call) :
    profile (c.surroundings file) dataDir = .ok p := by
  rw [profile, hdir, Call.surroundings]
  rcases file with _ | bytes <;> exact hload

/-- **A command leaves the file of the profile after it.** -/
theorem Call.stored_effect (hdir : dataDir.bind SystemFault.ofPath? = none)
    (hload : Profile.load file = .ok p) (c : Call) :
    (c.update p).Stored ((c.effect dataDir file).leaves file) := by
  have hp := profile_eq hdir hload c
  obtain ⟨e, he, hstored, -⟩ :=
    identify_stored (s := c.surroundings file) rfl hload (Mode.ofFlag c.json)
  have hrun := stored_run (s := c.surroundings file) rfl hstored (Mode.ofFlag c.json)
    (p.localId.getD c.freshId) c.command
  rw [effect, execute, hp, update]
  cases hc : c.command with
  | reset => exact stored_of_saved rfl file
  | _ =>
    rw [hc] at hrun
    simp only [he]
    exact hrun (fun h => by cases h)

/-- A nickname is refused just if it is blank. -/
theorem Call.succeeded_nickname (hdir : dataDir.bind SystemFault.ofPath? = none)
    (hload : Profile.load file = .ok p) {c : Call} {name : String} (hc : c.command = .nickname name) :
    (c.effect dataDir file).succeeded = true ↔ Text.trim name ≠ "" := by
  obtain ⟨e, he, hsucceeded, -⟩ := execute_eq (profile_eq hdir hload c) (fun _ => rfl) c.json
    c.command (by rw [hc]; exact fun h => by cases h)
  rw [effect, he, hc, run, Profile.rename]
  by_cases hblank : Text.trim name = ""
  · simp [hblank, fail]
  · simpa [hblank, store, Call.surroundings, print] using hsucceeded

/-- A replay on a host succeeds just if its script can be read and is replayed to its end. -/
theorem Call.succeeded_replay (hdir : dataDir.bind SystemFault.ofPath? = none)
    (hload : Profile.load file = .ok p) {c : Call} {path : String} {failFast : Bool}
    (hc : c.command = .replay path failFast) {h : Host}
    (hh : replayHost (Mode.ofFlag c.json) (c.surroundings file) dataDir = .ok h) :
    (c.effect dataDir file).succeeded = true ↔
      ∃ steps last, source (c.surroundings file) path >>= Script.parse = .ok steps ∧
        (Script.replayFrom failFast h steps).2 = .ok last := by
  have hp := profile_eq hdir hload c
  have hstart := start_of_replayHost hp (fun _ => rfl) hh
  obtain ⟨e, he, hsucceeded, -⟩ := execute_eq hp (fun _ => rfl) c.json c.command
    (by rw [hc]; exact fun h => by cases h)
  rw [effect, he, hc, run, replay]
  rcases hsteps : source (c.surroundings file) path >>= Script.parse with f | steps
  · simp [fail]
  · simp only [Script.replay_of_start hstart]
    rcases hlast : (Script.replayFrom failFast h steps).2 with f | ⟨failed, last⟩
    · simp [fail, hlast, Except.map]
    · simp [print, hsucceeded, hlast, Except.map]

/-! ### Commands one after the other -/

theorem fileAfter_append (dataDir : Option String) (file : Option Bytes) (first second : List Call) :
    fileAfter dataDir file (first ++ second) =
      fileAfter dataDir (fileAfter dataDir file first) second :=
  List.foldl_append

/-- Commands leave a file with the profile after them. -/
theorem load_fileAfter (hdir : dataDir.bind SystemFault.ofPath? = none)
    (hload : Profile.load file = .ok p) (calls : List Call) :
    Profile.load (fileAfter dataDir file calls) = .ok (profileAfter p calls) := by
  induction calls generalizing file p with
  | nil => exact hload
  | cons c calls ih => exact ih (c.stored_effect hdir hload).2

theorem Call.ignoreOwnEcho_update (c : Call) (p : Profile) :
    (c.update p).ignoreOwnEcho = p.ignoreOwnEcho := by
  rw [update]
  cases c.command <;> rfl

theorem ignoreOwnEcho_profileAfter (p : Profile) (calls : List Call) :
    (profileAfter p calls).ignoreOwnEcho = p.ignoreOwnEcho := by
  induction calls generalizing p with
  | nil => rfl
  | cons c calls ih => exact (ih (c.update p)).trans (c.ignoreOwnEcho_update p)

/-- Only a reset takes an id away. -/
theorem Call.localId_update {c : Call} (hc : c.command ≠ .reset) (p : Profile) :
    (c.update p).localId = some (p.localId.getD c.freshId) := by
  rw [update]
  cases hcommand : c.command with
  | reset => exact absurd hcommand hc
  | _ => rfl

theorem localId_profileAfter {calls : List Call} (hcalls : ∀ c ∈ calls, c.command ≠ .reset)
    {id : String} (hid : p.localId = some id) : (profileAfter p calls).localId = some id := by
  induction calls generalizing p with
  | nil => exact hid
  | cons c calls ih =>
    obtain ⟨hc, hcalls⟩ := List.forall_mem_cons.mp hcalls
    exact ih hcalls (by rw [c.localId_update hc, hid]; rfl)

/-- A command with an id that was generated leaves a usable profile. -/
theorem Call.usable_update {c : Call} (hc : Identity.isGeneratedId c.freshId = true)
    (hp : p.Usable) : (c.update p).Usable := by
  have hid : ∀ id, some (p.localId.getD c.freshId) = some id → Identity.isGeneratedId id = true := by
    rintro _ ⟨⟩
    cases hlocal : p.localId with
    | none => exact hc
    | some id => exact hp.localId id hlocal
  rw [update]
  cases c.command with
  | reset => exact Profile.usable_of_none rfl rfl
  | nickname name =>
    refine ⟨hid, fun name' hname => ?_⟩
    by_cases hblank : Text.trim name = ""
    · exact hp.nickname name' (by simpa only [if_pos hblank] using hname)
    · obtain rfl : Text.trim name = name' := by simpa only [if_neg hblank, Option.some.injEq] using hname
      rwa [Text.trim_trim]
  | _ => exact ⟨hid, hp.nickname⟩

theorem usable_profileAfter {calls : List Call}
    (hcalls : ∀ c ∈ calls, Identity.isGeneratedId c.freshId = true) (hp : p.Usable) :
    (profileAfter p calls).Usable := by
  induction calls generalizing p with
  | nil => exact hp
  | cons c calls ih =>
    obtain ⟨hc, hcalls⟩ := List.forall_mem_cons.mp hcalls
    exact ih hcalls (c.usable_update hc hp)

/-- With a usable profile an endpoint is made. -/
theorem exists_replayHost (hdir : dataDir.bind SystemFault.ofPath? = none)
    (hload : Profile.load file = .ok p) (hp : p.Usable) {c : Call}
    (hc : Identity.isGeneratedId c.freshId = true) (mode : Mode) :
    ∃ h, replayHost mode (c.surroundings file) dataDir = .ok h := by
  have hid : Identity.isGeneratedId (p.ensureId c.freshId).1 = true := by
    rw [Profile.ensureId]
    cases hlocal : p.localId with
    | none => exact hc
    | some id => exact hp.localId id hlocal
  obtain ⟨htrim, hne⟩ := Identity.trim_of_isGeneratedId hid
  obtain ⟨h, hh, -⟩ := replayHost_accepted (profile_eq hdir hload c) (fun _ => rfl) mode
    (htrim.symm ▸ hne) hp.nickname
  exact ⟨h, hh⟩

/-- What becomes of a profile, starting from a file that holds it or from no file. -/
structure LifeCycle (dataDir : Option String) (file : Option Bytes) (p : Profile) : Prop where
  /-- After every command there is a file, and it holds the profile after the commands. -/
  stored : ∀ (done : List Call) (c : Call),
    (c.update (profileAfter p done)).Stored (fileAfter dataDir file (done ++ [c]))
  /-- A nickname is refused just if it is blank. -/
  nickname : ∀ (done : List Call) (c : Call) (name : String), c.command = .nickname name →
    ((c.effect dataDir (fileAfter dataDir file done)).succeeded = true ↔ Text.trim name ≠ "")
  /-- No command changes whether own messages that come back are dropped. -/
  ignoreOwnEcho : ∀ done q, Profile.load (fileAfter dataDir file done) = .ok q →
    q.ignoreOwnEcho = p.ignoreOwnEcho
  /-- An id stays until a reset. -/
  localId : ∀ (done between : List Call) (q : Profile) (id : String),
    Profile.load (fileAfter dataDir file done) = .ok q → q.localId = some id →
    (∀ c ∈ between, c.command ≠ .reset) →
    ∃ r, Profile.load (fileAfter dataDir file (done ++ between)) = .ok r ∧ r.localId = some id
  /-- If there was no file, every script has a host to be replayed on, and only its own faults and
  those of its steps make it fail. -/
  replay : file = none → ∀ (done : List Call) (c : Call) (path : String) (failFast : Bool),
    c.command = .replay path failFast →
    (∀ d ∈ done ++ [c], Identity.isGeneratedId d.freshId = true) →
    ∃ h, replayHost (Mode.ofFlag c.json) (c.surroundings (fileAfter dataDir file done)) dataDir
        = .ok h ∧
      ((c.effect dataDir (fileAfter dataDir file done)).succeeded = true ↔
        ∃ steps last,
          source (c.surroundings (fileAfter dataDir file done)) path >>= Script.parse = .ok steps ∧
          (Script.replayFrom failFast h steps).2 = .ok last)

/-- **The life of a profile.** Whatever commands are run on a directory without a profile or with
one that can be loaded, as long as its file can be written: each leaves a file with the profile
after it, and the id, the nickname and the treatment of own messages change as that says. If there
was no profile at first, a script never lacks a host. -/
theorem lifeCycle (hdir : dataDir.bind SystemFault.ofPath? = none)
    (hload : Profile.load file = .ok p) : LifeCycle dataDir file p where
  stored done c := by
    rw [fileAfter_append]
    exact c.stored_effect hdir (load_fileAfter hdir hload done)
  nickname done c name hc := Call.succeeded_nickname hdir (load_fileAfter hdir hload done) hc
  ignoreOwnEcho done q hq := by
    obtain rfl : profileAfter p done = q := by
      simpa only [load_fileAfter hdir hload done, Except.ok.injEq] using hq
    exact ignoreOwnEcho_profileAfter p done
  localId done between q id hq hid hbetween := by
    rw [fileAfter_append]
    exact ⟨_, load_fileAfter hdir hq between, localId_profileAfter hbetween hid⟩
  replay hfile done c path failFast hc hfresh := by
    subst hfile
    obtain rfl : ({} : Profile) = p := by simpa only [Profile.load, Except.ok.injEq] using hload
    rw [List.forall_mem_append, List.forall_mem_singleton] at hfresh
    have hblank : Profile.Usable {} := Profile.usable_of_none rfl rfl
    have hafter := load_fileAfter hdir hload done
    obtain ⟨h, hh⟩ := exists_replayHost hdir hafter (usable_profileAfter hfresh.1 hblank) hfresh.2
      (Mode.ofFlag c.json)
    exact ⟨h, hh, Call.succeeded_replay hdir hafter hc hh⟩

/-- A nickname is stored trimmed beside an id that was there, and a blank one is not stored. -/
theorem lifeCycle_renamed :
    let file := some (Bytes.ofText "\x7b\"localId\":\"user_x\"\x7d")
    let rename (name : String) : Call :=
      { command := .nickname name, json := true, freshId := "user_0123456789abcdef", stdin := []
        opened := fun _ => .error .notFound }
    SystemFault.ofPath? "data" = none ∧ Profile.load file = .ok { localId := some "user_x" } ∧
      LifeCycle (some "data") file { localId := some "user_x" } ∧
      Profile.Stored { localId := some "user_x", nickname := some "Alice" }
        (fileAfter (some "data") file [rename " Alice ", rename " "]) := by
  intro file rename
  have hdir : SystemFault.ofPath? "data" = none := by decide +kernel
  have hload : Profile.load file = .ok { localId := some "user_x" } := by decide +kernel
  have hlife : LifeCycle (some "data") file { localId := some "user_x" } := lifeCycle hdir hload
  have hupdate : (rename " ").update (profileAfter { localId := some "user_x" } [rename " Alice "]) =
      { localId := some "user_x", nickname := some "Alice" } := by decide +kernel
  exact ⟨hdir, hload, hlife, hupdate ▸ hlife.stored [rename " Alice "] (rename " ")⟩

end Program

end ChatRouting
