import PageRoutes.CommandLine
import PageRoutes.Proofs.Disk.Writing
/-!
# Runs step by step

A run takes place in a world: it looks at the disk, may print and may write a file, one after the
other. A step that fails ends the run, but what the steps before it have done to the world stays
done. `CommandLine.execute` carries out a command line in this way, and does what `CommandLine.run`
says where the devices behind the output take all of it.

All steps of a run before its last one only look. The last one prints a text or writes a file, and a
file is opened before it is written. So there is nothing a run has done when it finds out that its
arguments or options are wrong, that a scan or a parse fails, that the router is bound elsewhere or
the call is missing, that a file cannot be read, or that the file for the output cannot be opened.
It is another matter what a device does with the bytes once the output has begun: a full disk takes
some of them and refuses the next, and then a part of the output is out.

## Main definitions

* `CommandLine.World`, `CommandLine.Action` : worlds, and what happens in them.
* `CommandLine.Devices` : what takes the output.
* `CommandLine.execute` : a run of the program, step by step.
* `CommandLine.Ending` : how a run may end in a world.
* `CommandLine.CutOff` : the end of a run whose output was refused behind its first bytes.

## Main results

* `CommandLine.execute_eq` : the run step by step is the run of the program.
* `CommandLine.ending_execute` : a run that does not fail comes to one output.
* `CommandLine.execute_world` : what a run changes.
-/

namespace PageRoutes

/-- The bytes of a byte string as a list. -/
def Octets.bytes (o : Octets) : List UInt8 := o.toBytes.data.toList

namespace CommandLine

/-- The disk, and the bytes that have been printed. -/
structure World where
  disk : Disk
  printed : List UInt8

/-- The devices behind the output of a run. -/
structure Devices where
  /-- The device of the file that is written. -/
  file : Disk.Device := {}
  /-- The device of the standard output. -/
  print : Disk.Device := {}
  /-- Whether the run learns that its standard output was refused. What is still in a buffer when
  the process ends is written without a check. -/
  isChecked : Bool := true

/-- What ends a run early. -/
inductive Halt where
  /-- The run has found out that it cannot do what it was asked to do. -/
  | failed (failure : Failure)
  /-- The device of the open file has refused a part of the output. -/
  | refused (cause : DiskFault)
  /-- The standard output has refused a part of the output. -/
  | panicked

/-- A run's exit code. -/
def exitCode : Except Halt Unit → Nat
  | .ok _ => 0
  | .error (.failed failure) => failure.exitCode
  | .error (.refused _) => 1
  | .error .panicked => 101

/-- Something that happens in a world and may end the run. The world after that is the one at the
moment of the end. -/
abbrev Action (α : Type) := ExceptT Halt (StateM World) α

namespace Action

variable {α β : Type}

/-- The end of an action in a world, and the world after it. -/
def after (x : Action α) (world : World) : Except Halt α × World := x.run.run world

/-- Looks at the disk, which may show that the run cannot go on. -/
def look (f : Disk → Except Failure α) : Action α :=
  ExceptT.mk fun world ↦ ((f world.disk).mapError .failed, world)

/-- Prints a text, as far as the standard output takes it. -/
def print (devices : Devices) (text : String) : Action Unit :=
  ExceptT.mk fun world ↦
    let (taken, result) := devices.print.take (.text text)
    let world := { world with printed := world.printed ++ taken.bytes }
    match result, devices.isChecked with
    | .error _, true => (.error .panicked, world)
    | _, _ => (.ok (), world)

/-- Writes a file. It is opened first, and then it is written as far as its device takes it. -/
def write (devices : Devices) (workingDir path : DiskPath) (text : String) : Action Unit :=
  ExceptT.mk fun world ↦
    match world.disk.openFile workingDir path with
    | .error cause => (.error (.failed (.system cause)), world)
    | .ok _ =>
      let (result, disk) := world.disk.write workingDir path (.text text) devices.file
      (result.mapError .refused, { world with disk })

/-- Writes a file if one is named, and prints otherwise. -/
def output (devices : Devices) (workingDir : DiskPath) (out : Option DiskPath) (text : String) :
    Action Unit :=
  match out with
  | some path => write devices workingDir path text
  | none => print devices text

end Action

open CommandLine.Action in
/-- Carries out a command. -/
def executeCommand (devices : Devices) (workingDir : DiskPath) (settings : Settings) :
    Command → Action Unit
  | .generate out => do
    let options ← look fun disk ↦ orFail (options settings disk workingDir)
    let root := (project settings options workingDir).root
    let session ← look fun disk ↦ orFail (Session.resolve { options } disk workingDir root)
    output devices workingDir out
      (((Session.resolveId EntryFile.routesModuleId).bind session.load).getD "")
  | .routes => do
    let options ← look fun disk ↦ orFail (options settings disk workingDir)
    let routes ← look fun disk ↦
      orFail ((project settings options workingDir).routes disk workingDir)
    print devices (Route.tableText routes ++ "\n")
  | .transform file out => do
    let options ← look fun disk ↦ orFail (options settings disk workingDir)
    let root := (project settings options workingDir).root
    let file := DiskPath.absolutize workingDir file
    let code ← look fun disk ↦ readSource disk workingDir file
    let session ← look fun disk ↦ orFail (Session.resolve { options } disk workingDir root)
    let text ← look fun _ ↦ orFail (session.transform code file.text)
    output devices workingDir out (text.getD code)

open CommandLine.Action in
/-- Carries out a command line, step by step. -/
def execute (devices : Devices) (workingDir : DiskPath) (args : List String) : Action Unit := do
  match ← look fun _ ↦ read args with
  | .version => print devices (programName ++ " " ++ version ++ "\n")
  | .help => print devices usageText
  | .command settings command => executeCommand devices workingDir settings command

/-! ### The run of the program -/

namespace Action

variable {α β : Type} (devices : Devices) (world : World)

theorem after_bind (x : Action α) (f : α → Action β) :
    (x >>= f).after world =
      match x.after world with
      | (.ok a, world) => (f a).after world
      | (.error halt, world) => (.error halt, world) := by
  simp only [after, ExceptT.run_bind, StateT.run_bind]
  rcases x.run.run world with ⟨_ | _, _⟩ <;> rfl

@[simp] theorem after_look (f : Disk → Except Failure α) :
    (look f).after world = ((f world.disk).mapError .failed, world) := rfl

theorem after_print (text : String) :
    (print devices text).after world =
      (if (devices.print.take (.text text)).2.isOk || !devices.isChecked then .ok ()
        else .error .panicked,
        { world with
          printed := world.printed ++ (devices.print.take (.text text)).1.bytes }) := by
  rw [after, print]
  cases hresult : (devices.print.take (.text text)).2 <;> cases devices.isChecked <;>
    simp [hresult, Except.isOk, Except.toBool, StateT.run, ExceptT.run, ExceptT.mk]

theorem after_write_of_error {workingDir path : DiskPath} {cause : DiskFault}
    (h : world.disk.openFile workingDir path = .error cause) (text : String) :
    (write devices workingDir path text).after world =
      (.error (.failed (.system cause)), world) := by
  simp [after, write, h, StateT.run, ExceptT.run, ExceptT.mk]

theorem after_write_of_ok {workingDir path : DiskPath} {opened : List Octets × Disk}
    (h : world.disk.openFile workingDir path = .ok opened) (text : String) :
    (write devices workingDir path text).after world =
      ((devices.file.take (.text text)).2.mapError .refused,
        { world with
          disk := (world.disk.write workingDir path (.text text) devices.file).2 }) := by
  obtain ⟨names, opened⟩ := opened
  simp [after, write, h, StateT.run, ExceptT.run, ExceptT.mk, Disk.write_of_openFile_ok h]

end Action

/-- What is left of a run in a world that had printed something before it. -/
def leave (world : World) : Except Failure Outcome → Except Halt Unit × World
  | .ok outcome => (.ok (), ⟨outcome.disk, world.printed ++ (Octets.text outcome.printed).bytes⟩)
  | .error failure => (.error (.failed failure), world)

/-- On devices that take everything, the output of a run is its effect. -/
theorem after_output (world : World) (workingDir : DiskPath) (out : Option DiskPath)
    (text : String) :
    (Action.output {} workingDir out text).after world =
      leave world ((Effect.output out text).apply world.disk workingDir) := by
  cases out with
  | none =>
    rw [Action.output, Action.after_print]
    rfl
  | some path =>
    rw [Action.output, Effect.output, Effect.apply]
    cases hopen : world.disk.openFile workingDir path with
    | error cause =>
      rw [Action.after_write_of_error _ _ hopen, Disk.write_of_openFile_error hopen]
      rfl
    | ok opened =>
      rw [Action.after_write_of_ok _ _ hopen, Disk.write_of_openFile_ok hopen]
      simp [leave, Octets.bytes, Octets.toBytes, Except.mapError]

/-- What a run goes on to do after a look at the disk. -/
theorem after_look_bind {α : Type} {world : World} {f : Disk → Except Failure α}
    {g : α → Action Unit} {outcome : α → Except Failure Outcome}
    (h : ∀ a, (g a).after world = leave world (outcome a)) :
    (Action.look f >>= g).after world = leave world (f world.disk >>= outcome) := by
  rw [Action.after_bind, Action.after_look]
  cases f world.disk with
  | error failure => rfl
  | ok a => exact h a

theorem after_executeCommand (world : World) (workingDir : DiskPath) (settings : Settings)
    (command : Command) :
    (executeCommand {} workingDir settings command).after world =
      leave world (performCommand settings command world.disk workingDir >>=
        Effect.apply world.disk workingDir) := by
  cases command with
  | generate out =>
    simp only [executeCommand, performCommand, bind_assoc]
    refine after_look_bind fun options ↦ after_look_bind fun session ↦ ?_
    exact after_output world workingDir out _
  | routes =>
    simp only [executeCommand, performCommand, bind_assoc]
    refine after_look_bind fun options ↦ after_look_bind fun routes ↦ ?_
    exact after_output world workingDir none _
  | transform file out =>
    simp only [executeCommand, performCommand, bind_assoc]
    refine after_look_bind fun options ↦ after_look_bind fun code ↦ after_look_bind fun session ↦
      after_look_bind fun text ↦ ?_
    exact after_output world workingDir out _

/-- **A run step by step.** Carried out step by step on devices that take everything, a command line
does what the run of the program says: it ends in the same way, with the same disk, and has printed
the same text. -/
theorem execute_eq (world : World) (workingDir : DiskPath) (args : List String) :
    (execute {} workingDir args).after world = leave world (run world.disk workingDir args) := by
  refine after_look_bind fun request ↦ ?_
  cases request with
  | version => exact after_output world workingDir none _
  | help => exact after_output world workingDir none _
  | command settings command => exact after_executeCommand world workingDir settings command

/-! ### What a run leaves behind -/

/-- The file that a command names for its output. -/
def Command.out? : Command → Option DiskPath
  | .generate out => out
  | .routes => none
  | .transform _ out => out

/-- The file that a request names for its output. -/
def Request.out? : Request → Option DiskPath
  | .command _ asked => asked.out?
  | .version | .help => none

/-- The ends of a run in a world, given the file that was named for the output: a failure that left
the world as it was, a text that went to the standard output, or a text that went to the file, which
was open. -/
inductive Ending (devices : Devices) (workingDir : DiskPath) (out : Option DiskPath)
    (world : World) : Except Halt Unit × World → Prop
  | failed (failure : Failure) :
    Ending devices workingDir out world (.error (.failed failure), world)
  | printed (text : String) (hout : out = none) :
    Ending devices workingDir out world ((Action.print devices text).after world)
  | written {path : DiskPath} {opened : List Octets × Disk} (text : String) (hout : out = some path)
    (hopen : world.disk.openFile workingDir path = .ok opened) :
    Ending devices workingDir out world ((Action.write devices workingDir path text).after world)

section Endings

variable (devices : Devices) (workingDir : DiskPath) (out : Option DiskPath) (world : World)

theorem ending_output (text : String) :
    Ending devices workingDir out world
      ((Action.output devices workingDir out text).after world) := by
  cases out with
  | none => exact .printed text rfl
  | some path =>
    rw [Action.output]
    cases hopen : world.disk.openFile workingDir path with
    | error cause =>
      rw [Action.after_write_of_error _ _ hopen]
      exact .failed _
    | ok opened => exact .written text rfl hopen

variable {devices workingDir out world}

/-- A look at the disk may be a run's failure, but it changes nothing. -/
theorem ending_look_bind {α : Type} {f : Disk → Except Failure α} {g : α → Action Unit}
    (h : ∀ a, f world.disk = .ok a → Ending devices workingDir out world ((g a).after world)) :
    Ending devices workingDir out world ((Action.look f >>= g).after world) := by
  rw [Action.after_bind, Action.after_look]
  cases hlook : f world.disk with
  | error failure => exact .failed failure
  | ok a => exact h a hlook

variable (devices workingDir world)

theorem ending_executeCommand (settings : Settings) (command : Command) :
    Ending devices workingDir command.out? world
      ((executeCommand devices workingDir settings command).after world) := by
  cases command with
  | generate out =>
    exact ending_look_bind fun options _ ↦ ending_look_bind fun session _ ↦
      ending_output devices workingDir out world _
  | routes =>
    exact ending_look_bind fun options _ ↦ ending_look_bind fun routes _ ↦ .printed _ rfl
  | transform file out =>
    exact ending_look_bind fun options _ ↦ ending_look_bind fun code _ ↦
      ending_look_bind fun session _ ↦ ending_look_bind fun text _ ↦
        ending_output devices workingDir out world _

/-- **One output.** A run fails and leaves the world as it was, or it comes to one output: it prints
a text, or it writes one file, which is the one that its arguments name for the output. -/
theorem ending_execute (args : List String) :
    Ending devices workingDir ((read args).toOption.bind Request.out?) world
      ((execute devices workingDir args).after world) := by
  refine ending_look_bind fun request hread ↦ ?_
  rw [hread]
  cases request with
  | version => exact .printed _ rfl
  | help => exact .printed _ rfl
  | command settings command =>
    exact ending_executeCommand devices workingDir world settings command

end Endings

/-- What a run leaves on the disk that has put some content into the file to which a path leads:
this file, and under all other names what was there. -/
def HasPut (workingDir path : DiskPath) (content : Octets) (before after : Disk) : Prop :=
  ∃ place, before.locate workingDir path = .ok place ∧
    after.at? place.names = some (.file content) ∧
    ∀ names ≠ place.names,
      (after.at? names).map Entry.shell = (before.at? names).map Entry.shell

theorem hasPut_write (devices : Devices) {workingDir path : DiskPath} {before : Disk}
    {opened : List Octets × Disk} (h : before.openFile workingDir path = .ok opened)
    (content : Octets) :
    HasPut workingDir path (devices.file.take content).1 before
      (before.write workingDir path content devices.file).2 := by
  obtain ⟨names, opened⟩ := opened
  obtain ⟨place, hplace, rfl, -⟩ := Disk.place_of_openFile h
  obtain ⟨hfile, hother⟩ := Disk.shell_at?_write h content devices.file
  exact ⟨place, hplace, hfile, hother⟩

/-- The ends of a run whose output has begun and was not taken to its end. The device of the open
file, or of the standard output, took so many bytes and refused the next one. -/
inductive CutOff (devices : Devices) (workingDir : DiskPath) (world : World) :
    Option DiskPath → Except Halt Unit × World → Prop
  | file {out : DiskPath} {text : String} {count : Nat} {cause : DiskFault} {disk : Disk}
    (hrefusal : devices.file.refusal = some (count, cause))
    (hcount : count < (Octets.text text).size)
    (hput : HasPut workingDir out ((Octets.text text).take count) world.disk disk) :
    CutOff devices workingDir world (some out) (.error (.refused cause), { world with disk })
  | print {text : String} {count : Nat} {cause : DiskFault}
    (hrefusal : devices.print.refusal = some (count, cause))
    (hcount : count < (Octets.text text).size) :
    CutOff devices workingDir world none
      (.error .panicked,
        { world with printed := world.printed ++ ((Octets.text text).take count).bytes })

/-- What the end of a run says of the world. -/
theorem Ending.changes {devices : Devices} {workingDir : DiskPath} {out : Option DiskPath}
    {world : World} {ended : Except Halt Unit × World} :
    Ending devices workingDir out world ended →
      (∀ failure, ended.1 = .error (.failed failure) → exitCode ended.1 ≠ 0 ∧ ended.2 = world) ∧
      (exitCode ended.1 ≠ 0 → (∃ failure, ended.1 = .error (.failed failure)) ∨
        CutOff devices workingDir world out ended) ∧
      (exitCode ended.1 = 0 →
        match out with
        | none => ended.2.disk = world.disk
        | some out => ended.2.printed = world.printed ∧
          ∃ text, HasPut workingDir out (.text text) world.disk ended.2.disk) := by
  intro h
  cases h with
  | failed failure =>
    have hcode : failure.exitCode ≠ 0 := by cases failure <;> simp [Failure.exitCode]
    exact ⟨fun _ _ ↦ ⟨hcode, rfl⟩, fun _ ↦ .inl ⟨failure, rfl⟩, fun h ↦ absurd h hcode⟩
  | printed text hout =>
    subst hout
    rw [Action.after_print]
    refine ⟨fun failure h ↦ ?_, fun h ↦ .inr ?_, fun _ ↦ rfl⟩
    · simp only at h
      split at h <;> cases h
    · cases htake : (devices.print.take (.text text)).2 with
      | ok => simp [htake, Except.isOk, Except.toBool, exitCode] at h
      | error cause =>
        obtain ⟨count, hcount, hrefusal, htaken⟩ := Disk.Device.take_of_error htake
        cases hchecked : devices.isChecked with
        | false => simp [hchecked, exitCode] at h
        | true =>
          rw [htaken]
          exact .print hrefusal hcount
  | @written path opened text hout hopen =>
    subst hout
    have hput := hasPut_write devices hopen (.text text)
    rw [Action.after_write_of_ok _ _ hopen]
    cases htake : (devices.file.take (.text text)).2 with
    | ok =>
      rw [Disk.Device.take_of_ok htake] at hput
      exact ⟨fun _ h ↦ (nomatch h), fun h ↦ absurd rfl h, fun _ ↦ ⟨rfl, text, hput⟩⟩
    | error cause =>
      obtain ⟨count, hcount, hrefusal, htaken⟩ := Disk.Device.take_of_error htake
      rw [htaken] at hput
      exact ⟨fun _ h ↦ (nomatch h), fun _ ↦ .inr (.file hrefusal hcount hput),
        fun h ↦ (nomatch h)⟩

/-- A project in which a link in the page directory leads to the entry file. -/
def linkedDisk : Disk :=
  let index : Entry := .file (.text "")
  let pages : Entry := .dir [(.text "boot.ts", .link ⟨"../main.ts"⟩), (.text "index.vue", index)]
  let main : Entry := .file (.text "createApp(App);\n")
  ⟨[(.text "w", .dir [(.text "src", .dir [(.text "main.ts", main), (.text "pages", pages)])])]⟩

/-- The entry file is transformed into itself, through a link in the page directory. -/
example :
    let args := ["transform", "src/main.ts", "-o", "src/pages/boot.ts"]
    let ended := (execute {} ⟨"/w"⟩ args).after ⟨linkedDisk, []⟩
    let main := ended.2.disk.at? [.text "w", .text "src", .text "main.ts"]
    exitCode ended.1 = 0 ∧ ended.2.printed = [] ∧
      (main.map Disk.textOf).map Except.toOption =
        some (some ("import router from 'virtual:convention-import-routes';\n" ++
          "createApp(App).use(router);\n")) := by
  decide +kernel

end CommandLine

end PageRoutes
