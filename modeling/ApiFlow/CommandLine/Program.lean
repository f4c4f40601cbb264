import ApiFlow.CommandLine.Usage
import ApiFlow.Run.Runner
import ApiFlow.Settings.Load
import ApiFlow.Text.Case

/-!
# The program

The program reads its arguments, carries out the command, and ends with a status: 0 if every step passed or the flowchart
is printed, 1 if a step failed, and 2 if the arguments, the settings or a file are no good.  A fault that is none of
these ends the program without a status.

* `logLevel` is the least level of a note that the log keeps.
* `Program.run` carries out the arguments.
-/

set_option autoImplicit false

namespace ApiFlow

open CommandLine

/-- What the program has said and done, besides what its run has printed and done. -/
structure Session where
  errors : Text := []
  logLevel? : Option Nat := none
  run : RunState

/-- How the program ends. -/
inductive Ending where
  /-- The arguments are no command. -/
  | unread (status : Nat)
  /-- The command is carried out or refused. -/
  | status (n : Nat)
  /-- A fault ends the program. -/
  | fault (f : Fault)
  deriving DecidableEq, Repr

namespace Program

/-- The levels of the log by their names. -/
def levels : Table Nat := [
  ("CRITICAL".toList, 50), ("FATAL".toList, 50), ("ERROR".toList, 40), ("WARN".toList, 30), ("WARNING".toList, 30),
  ("INFO".toList, 20), ("DEBUG".toList, 10), ("NOTSET".toList, 0)]

/-- The level of the log: everything if the run is verbose, otherwise the one that the environment names, or warnings. -/
def logLevel (verbose : Bool) (env : Table Text) : Nat :=
  if verbose then 10
  else ((env.get? Settings.levelVariable).bind fun name => levels.get? (Text.upper name)).getD 30

/-- A line that tells why the program cannot go on. -/
def errorLine (message : Text) : Text := "error: ".toList ++ message ++ ['\n']

/-- Why a command is not carried out: it is refused with a message, or a fault ends it. -/
inductive Stop where
  | refused (message : Text)
  | fault (f : Fault)
  deriving DecidableEq, Repr

/-- What ends a command whose settings cannot be loaded. -/
def Stop.ofConfig : ConfigStop → Stop
  | .refused e => .refused e.message
  | .fault f => .fault f

/-- What ends a command whose files cannot be read; only a refusal by the system is told as a message. -/
def Stop.ofFault (f : Fault) : Stop :=
  match f with
  | .file (.refused r path) => .refused (Files.Error.refused r path).message
  | f => .fault f

/-- What is carried out before it ends or stops. -/
abbrev Acting (α : Type) := ExceptT Stop (StateM RunState) α

def stop {α : Type} (s : Stop) : Acting α := throw s

/-- A part of a run, with its faults. -/
def within {α : Type} (act : Running α) : Acting α :=
  ExceptT.mk do
    match ← act.run with
    | .ok x => return .ok x
    | .error f => return .error (Stop.ofFault f)

/-- The file for the log of a session. -/
def logFile (files : Files.Tree) (folder : Path) : Path := (files.work.within (folder.child "kest.log".toList)).flat

def openLog (files : Files.Tree) (folder : Path) : Except Files.Error Path := do
  files.makeDirectory folder
  let file := logFile files folder
  if files.isDirectory file then .error (.refused .isDirectory file) else .ok file

/-- The log of a session, if the settings ask for one and it can be opened. -/
def sessionLog (files : Files.Tree) (settings : Settings) : Option Path × List Note :=
  match settings.logEnabled, settings.logFolder? with
  | true, some folder =>
    match openLog files folder with
    | .ok file => (some file, [])
    | .error e => (none, [⟨.warning, .commands, "Session log disabled: ".toList ++ e.message⟩])
  | _, _ => (none, [])

def startNote (file : Path) (settings : Settings) : Note :=
  ⟨.info, .commands, "Running ".toList ++ file.text ++ " (env=".toList ++ settings.activeEnv ++ ", project=".toList
    ++ settings.projectId ++ ")".toList⟩

/-- The setup of a run in a world that has everything but the settings. -/
def setupOf (world : Setup) (settings : Settings) (request : RunRequest) : Setup :=
  { world with
    settings
    commandTimeout := request.commandTimeout
    showVariables := request.showVariables
    keepHistory := request.keepHistory
    verbose := request.verbose }

def optionsOf (request : RunRequest) : RunOptions :=
  ⟨request.parallel, request.jobs, request.failFast, request.strict⟩

/-- The environment of a run: the one that is asked for is the one in use. -/
def environmentOf (request : RunRequest) (env : Table Text) : Table Text :=
  match request.environment? with
  | some name => env.set Settings.envVariable name
  | none => env

def checkFile (files : Files.Tree) (path : Path) : Except Stop Unit :=
  match files.isFile path with
  | .ok true => .ok ()
  | .ok false => .error (.refused ("file not found: ".toList ++ path.text))
  | .error e => .error (.fault (.file e))

def loadSettings (world : Setup) (env : Table Text) (request : RunRequest) : Acting Settings := do
  let (notes, result) :=
    Settings.load world.files (environmentOf request env) request.config? world.files.work world.configReader
  within (Running.noteAll notes)
  match result with
  | .ok settings => return settings
  | .error e => stop (Stop.ofConfig e)

/-- Runs a file; the status tells whether every step passed. -/
def runFile (world : Setup) (env : Table Text) (request : RunRequest) : Acting Nat := do
  match assignments request.vars with
  | .error e => stop (.refused e.message)
  | .ok vars => do
    let settings ← loadSettings world env request
    match checkFile world.files request.file with
    | .error s => stop s
    | .ok () => do
      let (log?, notes) := sessionLog world.files settings
      let setup := setupOf world settings request
      within (Running.noteAll (notes ++ [startNote request.file settings]))
      modify fun s => { s with context := Context.ofCommandLine vars, store? := some {} }
      let summary ← within (Running.runFile setup (optionsOf request) request.file)
      if let some path := log? then
        within (Running.say setup ("\nSession log: ".toList ++ path.text ++ ['\n']))
      return if summary.allPassed then 0 else 1

/-- Prints the flowchart of a document. -/
def graph (world : Setup) (path : Path) : Acting Nat := do
  match readText world.files path with
  | .error f => stop (Stop.ofFault f)
  | .ok content => do
    let r ← within (Running.readDocument content)
    within (Running.say world (Flow.diagram r.document ++ ['\n']))
    return 0

def perform (world : Setup) (env : Table Text) (command : Command) : Acting Nat :=
  match command with
  | .run request => runFile world env request
  | .graph path => graph world path

/-- Whether a command asks for everything to be told. -/
def isVerbose : Command → Bool
  | .run request => request.verbose
  | .graph _ => false

/-- The session of a command that has ended. -/
def ended (level : Nat) (result : Except Stop Nat) (s : RunState) : Ending × Session :=
  match result with
  | .ok n => (.status n, { logLevel? := some level, run := s })
  | .error (.refused message) => (.status 2, { errors := errorLine message, logLevel? := some level, run := s })
  | .error (.fault f) => (.fault f, { logLevel? := some level, run := s })

/-- Carries out the arguments of the program in a world that has everything but the settings. -/
def run (world : Setup) (env : Table Text) (s : RunState) (arguments : List Text) : Ending × Session :=
  match Command.read arguments with
  | .error .help => (.unread 0, { run := s })
  | .error (.refused r) => (.unread 2, { errors := r.message, run := s })
  | .ok command =>
    let (result, s) := (perform world env command).run.run s
    ended (logLevel (isVerbose command) env) result s

end Program

end ApiFlow
