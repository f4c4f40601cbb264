import ApiFlow.CommandLine.Options
import ApiFlow.Files.Path

/-!
# The commands of the program

The program has two commands: one runs a file, one prints the flowchart of a document.

* `Command.read` reads the arguments of the program.
* `Refusal.message` is the line for arguments that are no command.
-/

set_option autoImplicit false

namespace ApiFlow.CommandLine

open Options

/-- What to run, and how. -/
structure RunRequest where
  file : Path
  parallel : Bool := false
  jobs : Int := 4
  vars : List Text := []
  commandTimeout : Double := Double.ofInt 30
  verbose : Bool := false
  showVariables : Bool := false
  failFast : Bool := false
  strict : Bool := false
  environment? : Option Text := none
  config? : Option Path := none
  keepHistory : Bool := true
  deriving DecidableEq, Repr

inductive Command where
  | run (request : RunRequest)
  | graph (file : Path)
  deriving DecidableEq, Repr

/-- Arguments that are no command: the part of the program that refuses them, and why. -/
structure Refusal where
  program : Text
  error : Error
  deriving DecidableEq, Repr

def Refusal.message (r : Refusal) : Text := r.program ++ ": error: ".toList ++ r.error.message

/-- Why there is no command: help is asked for, or the arguments are refused. -/
inductive NoCommand where
  | help
  | refused (r : Refusal)
  deriving DecidableEq, Repr

def programName : Text := "kest".toList

def helpSwitch : Switch := ⟨"help".toList, ["-h".toList, "--help".toList], .help⟩

/-- The grammar of the program. -/
def mainGrammar : Grammar where
  switches := [helpSwitch]
  positional := some (.command "command" ["run", "graph"])

def runGrammar : Grammar where
  switches := [
    helpSwitch,
    ⟨"parallel", ["--parallel", "-p"], .flag⟩,
    ⟨"jobs", ["--jobs", "-j"], .integer⟩,
    ⟨"var", ["--var"], .text⟩,
    ⟨"exec-timeout", ["--exec-timeout"], .number⟩,
    ⟨"verbose", ["--verbose", "-v"], .flag⟩,
    ⟨"debug-vars", ["--debug-vars"], .flag⟩,
    ⟨"fail-fast", ["--fail-fast"], .flag⟩,
    ⟨"strict", ["--strict"], .flag⟩,
    ⟨"env", ["--env"], .text⟩,
    ⟨"config", ["--config"], .text⟩,
    ⟨"no-record", ["--no-record"], .flag⟩]
  positional := some (.one "file")

def graphGrammar : Grammar where
  switches := [helpSwitch]
  positional := some (.one "file")

def fileOf (p : Parsed) : Path := Path.ofText ((p.positional.getD []).headD [])

def RunRequest.ofParsed (p : Parsed) : RunRequest where
  file := fileOf p
  parallel := p.hasFlag "parallel"
  jobs := (p.integer? "jobs").getD 4
  vars := p.texts "var"
  commandTimeout := (p.number? "exec-timeout").getD (Double.ofInt 30)
  verbose := p.hasFlag "verbose"
  showVariables := p.hasFlag "debug-vars"
  failFast := p.hasFlag "fail-fast"
  strict := p.hasFlag "strict"
  environment? := (p.text? "env").filter fun name => !name.isEmpty
  config? := (p.text? "config").map Path.ofText
  keepHistory := !p.hasFlag "no-record"

/-- Reads arguments by the grammar of a part of the program. -/
def parseAs (program : Text) (g : Grammar) (arguments : List Text) : Except NoCommand Parsed :=
  match g.parse arguments with
  | .ok p => .ok p
  | .error .help => .error .help
  | .error (.error e) => .error (.refused ⟨program, e⟩)

/-- Refuses what no grammar has a place for. -/
def noExtras (extras : List Text) : Except NoCommand Unit :=
  if extras.isEmpty then .ok () else .error (.refused ⟨programName, .unrecognized extras⟩)

def Command.ofWords (word : Text) (arguments extras : List Text) : Except NoCommand Command := do
  let isRun := word = "run".toList
  let p ← parseAs (programName ++ ' ' :: word) (if isRun then runGrammar else graphGrammar) arguments
  noExtras (extras ++ p.extras)
  return if isRun then .run (.ofParsed p) else .graph (fileOf p)

def Command.read (arguments : List Text) : Except NoCommand Command := do
  let p ← parseAs programName mainGrammar arguments
  match p.positional.getD [] with
  | word :: rest => Command.ofWords word rest p.extras
  | [] => .error (.refused ⟨programName, .missing "command"⟩)

end ApiFlow.CommandLine
