import PageRoutes.Session
/-!
# The command line

A run of the program is read off its arguments, computed from a disk, and ends with one effect: a
text is printed or written to a file. Here all devices take what is written to them.

Options that hold for every command may stand before or behind the command's name; an option may be
given once on each side, and then the one behind wins. A value is the next argument, or follows its
option after `=` or, for a short option, immediately.

## Main definitions

* `CommandLine.read` : the request that a list of arguments stands for.
* `CommandLine.perform` : the effect of a request.
* `CommandLine.run` : the printed text and the disk after a run on devices without faults.
-/

namespace PageRoutes

namespace CommandLine

/-- The options of all commands. -/
structure Settings where
  root : Option DiskPath := none
  config : Option DiskPath := none
  pageDir : Option DiskPath := none
  history : Option HistoryMode := none
  /-- How often more log output was asked for. -/
  verbosity : Nat := 0

/-- A command with its own options. -/
inductive Command where
  | generate (out : Option DiskPath)
  | routes
  | transform (file : DiskPath) (out : Option DiskPath)

/-- What a run is asked to do. -/
inductive Request where
  | version
  | help
  | command (settings : Settings) (command : Command)

/-- Why a run failed. -/
inductive Failure where
  | usage
  | fault (cause : Fault)
  | system (cause : DiskFault)

/-- What a run does to the outside. -/
inductive Effect where
  | print (text : String)
  | write (path : DiskPath) (text : String)

/-- The name of the program. -/
def programName : String := "vue-convention-routes"

/-- The version of the program. -/
def version : String := "0.1.0"

/-! ### Reading the arguments -/

/-- The commands by name. -/
inductive CommandName where
  | generate
  | routes
  | transform
  deriving DecidableEq

/-- The word that asks for help in place of a command's name. -/
def helpName : String := "help"

/-- The command with a name. -/
def CommandName.ofText? : String → Option CommandName
  | "generate" => some .generate
  | "routes" => some .routes
  | "transform" => some .transform
  | _ => none

/-- The options of the program. -/
inductive Flag where
  | root
  | config
  | pageDir
  | history
  | verbose
  | out
  | version
  | help
  deriving DecidableEq

/-- The option with a long name. -/
def Flag.ofLong? : String → Option Flag
  | "root" => some .root
  | "config" => some .config
  | "page-dir" => some .pageDir
  | "history" => some .history
  | "verbose" => some .verbose
  | "out" => some .out
  | "version" => some .version
  | "help" => some .help
  | _ => none

/-- The option with a short name. -/
def Flag.ofShort? : Char → Option Flag
  | 'r' => some .root
  | 'c' => some .config
  | 'v' => some .verbose
  | 'o' => some .out
  | 'V' => some .version
  | 'h' => some .help
  | _ => none

/-- Whether an option has a value. -/
def Flag.hasValue : Flag → Bool
  | .verbose | .version | .help => false
  | _ => true

/-- Whether an option may stand before the command's name, for `none`, or behind a name. -/
def Flag.allowed (flag : Flag) : Option CommandName → Bool
  | none => flag ≠ .out
  | some .routes => flag ≠ .out && flag ≠ .version
  | some _ => flag ≠ .version

/-- What has been read on one side of the command's name. -/
structure Side where
  settings : Settings := {}
  out : Option DiskPath := none
  file : Option DiskPath := none

/-- What ends the reading of the arguments early. -/
inductive Stop where
  | usage
  | version
  | help

/-- A path, which is no empty text. -/
def readPath (text : String) : Except Stop DiskPath :=
  if text.isEmpty then .error .usage else .ok ⟨text⟩

/-- Sets a value that must not have been set before. -/
def once {α : Type} (old : Option α) (new : Except Stop α) : Except Stop (Option α) :=
  match old with
  | some _ => .error .usage
  | none => new.map some

/-- Takes an option with its value. -/
def Side.setValue (side : Side) (flag : Flag) (value : String) : Except Stop Side := do
  let s := side.settings
  match flag with
  | .root => .ok { side with settings := { s with root := ← once s.root (readPath value) } }
  | .config => .ok { side with settings := { s with config := ← once s.config (readPath value) } }
  | .pageDir => .ok { side with settings := { s with pageDir := ← once s.pageDir (readPath value) } }
  | .history =>
    let mode : Except Stop HistoryMode :=
      match HistoryMode.ofName? value with
      | some mode => .ok mode
      | none => .error .usage
    .ok { side with settings := { s with history := ← once s.history mode } }
  | .out => .ok { side with out := ← once side.out (readPath value) }
  | _ => .error .usage

/-- Takes an option without a value. -/
def Side.setFlag (side : Side) : Flag → Except Stop Side
  | .verbose =>
    .ok { side with settings := { side.settings with verbosity := side.settings.verbosity + 1 } }
  | .version => .error .version
  | .help => .error .help
  | _ => .error .usage

/-- Whether an argument can be the value of the option before it. -/
def isValue (arg : String) : Bool :=
  match arg.toList with
  | '-' :: _ :: _ => false
  | _ => true

/-- Reads the short options of one argument. The result names the option whose value is the next
argument, if there is one. -/
def readShort (at? : Option CommandName) : List Char → Side → Except Stop (Side × Option Flag)
  | [], side => .ok (side, none)
  | c :: rest, side =>
    match Flag.ofShort? c with
    | none => .error .usage
    | some flag =>
      if !flag.allowed at? then .error .usage
      else if flag.hasValue then
        match rest with
        | [] => .ok (side, some flag)
        | '=' :: value => do .ok (← side.setValue flag (String.ofList value), none)
        | value => do .ok (← side.setValue flag (String.ofList value), none)
      else do readShort at? rest (← side.setFlag flag)

/-- Reads one long option, without its dashes. -/
def readLong (at? : Option CommandName) (text : List Char) (side : Side) :
    Except Stop (Side × Option Flag) :=
  match Flag.ofLong? (String.ofList (text.takeWhile (· ≠ '='))) with
  | none => .error .usage
  | some flag =>
    if !flag.allowed at? then .error .usage
    else
      match text.dropWhile (· ≠ '='), flag.hasValue with
      | [], true => .ok (side, some flag)
      | [], false => do .ok (← side.setFlag flag, none)
      | _ :: value, true => do .ok (← side.setValue flag (String.ofList value), none)
      | _ :: _, false => .error .usage

/-- Takes an argument that is no option behind a command's name. -/
def Side.setFile (side : Side) (name : CommandName) (arg : String) : Except Stop Side :=
  match name with
  | .transform => do .ok { side with file := ← once side.file (readPath arg) }
  | _ => .error .usage

/-- Puts both sides of a command's name together. -/
def combine (before behind : Side) (name : CommandName) : Except Stop Request :=
  let b := before.settings
  let s := behind.settings
  let settings : Settings :=
    ⟨s.root <|> b.root, s.config <|> b.config, s.pageDir <|> b.pageDir, s.history <|> b.history,
      b.verbosity + s.verbosity⟩
  match name, behind.file with
  | .generate, _ => .ok (.command settings (.generate behind.out))
  | .routes, _ => .ok (.command settings .routes)
  | .transform, some file => .ok (.command settings (.transform file behind.out))
  | .transform, none => .error .usage

/-- Where the reading of the arguments stands. -/
structure Progress where
  before : Side := {}
  command : Option (CommandName × Side) := none
  /-- The option that waits for its value. -/
  pending : Option Flag := none
  /-- Whether `--` has ended the options. -/
  optionsEnded : Bool := false
  /-- The words behind `help`, if that was the command's name. -/
  topics : Option (List String) := none

/-- The side of the command's name that is being read. -/
def Progress.side (p : Progress) : Side :=
  match p.command with
  | some (_, side) => side
  | none => p.before

/-- The progress after the side that is being read has changed. -/
def Progress.withSide (p : Progress) (side : Side) (pending : Option Flag) : Progress :=
  match p.command with
  | some (name, _) => { p with command := some (name, side), pending }
  | none => { p with before := side, pending }

/-- Takes an argument that is no option. -/
def Progress.setPositional (p : Progress) (arg : String) : Except Stop Progress := do
  match p.command with
  | some (name, side) => .ok { p with command := some (name, ← side.setFile name arg) }
  | none =>
    if p.optionsEnded then .error .usage
    else if arg = helpName then .ok { p with topics := some [] }
    else
      match CommandName.ofText? arg with
      | some name => .ok { p with command := some (name, {}) }
      | none => .error .usage

/-- Reads one argument. Behind `help` every argument is a word, also one that looks like an option.
-/
def Progress.step (p : Progress) (arg : String) : Except Stop Progress := do
  let name := p.command.map Prod.fst
  match p.topics, p.pending with
  | some topics, _ => .ok { p with topics := some (topics ++ [arg]) }
  | none, some flag =>
    if isValue arg then .ok (p.withSide (← p.side.setValue flag arg) none) else .error .usage
  | none, none =>
    if p.optionsEnded then p.setPositional arg
    else
      match arg.toList with
      | ['-', '-'] => .ok { p with optionsEnded := true }
      | '-' :: '-' :: text => do
        let (side, pending) ← readLong name text p.side
        .ok (p.withSide side pending)
      | '-' :: c :: text => do
        let (side, pending) ← readShort name (c :: text) p.side
        .ok (p.withSide side pending)
      | _ => p.setPositional arg

/-- Whether there is help on some words: on none, or on the name of one command. -/
def isTopic : List String → Bool
  | [] => true
  | [word] => word = helpName || (CommandName.ofText? word).isSome
  | _ => false

/-- The request that a list of arguments stands for. -/
def read (args : List String) : Except Failure Request :=
  let progress : Except Stop Progress := args.foldlM Progress.step {}
  let request : Except Stop Request := do
    let p ← progress
    match p.topics, p.pending, p.command with
    | some topics, _, _ => .error (if isTopic topics then .help else .usage)
    | none, none, some (name, side) => combine p.before side name
    | _, _, _ => .error .usage
  match request with
  | .ok request => .ok request
  | .error .version => .ok .version
  | .error .help => .ok .help
  | .error .usage => .error .usage

/-! ### Carrying out a request -/

/-- A computation that may end in a library fault, as one that may end in any failure. -/
def orFail {α : Type} : Except Fault α → Except Failure α
  | .ok a => .ok a
  | .error cause => .error (.fault cause)

/-- Output goes to a file if one is named, and is printed otherwise. -/
def Effect.output (out : Option DiskPath) (text : String) : Effect :=
  match out with
  | some path => .write path text
  | none => .print text

/-- The options of a run: those of the options file, changed by the arguments. -/
def options (settings : Settings) (disk : Disk) (workingDir : DiskPath) : Except Fault Options := do
  let options ←
    match settings.config with
    | some path => Options.load disk workingDir path
    | none => .ok {}
  let options := (settings.pageDir.map options.withPageDir).getD options
  .ok ((settings.history.map options.withHistory).getD options)

/-- The text of a file that is to be transformed. -/
def readSource (disk : Disk) (workingDir file : DiskPath) : Except Failure String :=
  match disk.readText workingDir file with
  | .ok text => .ok text
  | .error cause => .error (.system cause)

/-- The project of a run. -/
def project (settings : Settings) (options : Options) (workingDir : DiskPath) : Project :=
  ⟨DiskPath.absolutize workingDir (settings.root.getD ⟨"."⟩), options⟩

/-- The effect of a command. -/
def performCommand (settings : Settings) (command : Command) (disk : Disk) (workingDir : DiskPath) :
    Except Failure Effect := do
  let project := project settings (← orFail (options settings disk workingDir)) workingDir
  match command with
  | .generate out =>
    let session ← orFail (Session.resolve ⟨project.options, none⟩ disk workingDir project.root)
    let text := (Session.resolveId EntryFile.routesModuleId).bind session.load
    .ok (.output out (text.getD ""))
  | .routes =>
    let routes ← orFail (project.routes disk workingDir)
    .ok (.print (Route.tableText routes ++ "\n"))
  | .transform file out =>
    let file := DiskPath.absolutize workingDir file
    let code ← readSource disk workingDir file
    let session ← orFail (Session.resolve ⟨project.options, none⟩ disk workingDir project.root)
    let text ← orFail (session.transform code file.text)
    .ok (.output out (text.getD code))

/-- How the program is called. -/
def usageText : String :=
  "Usage: " ++ programName ++ " [OPTIONS] <COMMAND>\n\n"
    ++ "Commands:\n"
    ++ "  generate [-o FILE]        write the routes module\n"
    ++ "  routes                    print the routing table as JSON\n"
    ++ "  transform FILE [-o FILE]  add the router to an entry file\n\n"
    ++ "Options:\n"
    ++ "  -r, --root DIR            the root of the project\n"
    ++ "  -c, --config FILE         the options file\n"
    ++ "      --page-dir DIR        the page directory\n"
    ++ "      --history MODE        history or hash\n"
    ++ "  -v, --verbose             more log output\n"

/-- The effect of a request. -/
def perform (request : Request) (disk : Disk) (workingDir : DiskPath) : Except Failure Effect :=
  match request with
  | .version => .ok (.print (programName ++ " " ++ version ++ "\n"))
  | .help => .ok (.print usageText)
  | .command settings command => performCommand settings command disk workingDir

/-! ### What a run reads -/

/-- The files that a request names and reads. -/
def Request.files : Request → List DiskPath
  | .command settings (.transform file _) => settings.config.toList ++ [file]
  | .command settings _ => settings.config.toList
  | .version | .help => []

/-- The directory that a request scans, given a disk with the options file. -/
def Request.scanned? (request : Request) (disk : Disk) (workingDir : DiskPath) : Option DiskPath :=
  match request with
  | .command settings _ =>
    (options settings disk workingDir).toOption.map fun options =>
      (project settings options workingDir).pageDir workingDir
  | .version | .help => none

/-! ### Runs -/

/-- What is left of a run: the text that it printed, and the disk. -/
structure Outcome where
  printed : String
  disk : Disk

/-- Lets an effect happen, on devices that take everything. -/
def Effect.apply (disk : Disk) (workingDir : DiskPath) : Effect → Except Failure Outcome
  | .print text => .ok ⟨text, disk⟩
  | .write path text =>
    match disk.write workingDir path (.text text) with
    | (.ok (), disk) => .ok ⟨"", disk⟩
    | (.error cause, _) => .error (.system cause)

/-- A run of the program, on devices that take everything. -/
def run (disk : Disk) (workingDir : DiskPath) (args : List String) : Except Failure Outcome := do
  let request ← read args
  let effect ← perform request disk workingDir
  effect.apply disk workingDir

/-- The exit code of a failed run. -/
def Failure.exitCode : Failure → Nat
  | .usage => 2
  | .fault _ | .system _ => 1

/-- A failure in words. -/
def Failure.message : Failure → String
  | .usage => usageText
  | .fault cause => "Error: " ++ cause.message
  | .system cause => "Error: " ++ cause.message

end CommandLine

end PageRoutes
