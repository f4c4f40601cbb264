import ApiFlow.Report
import ApiFlow.Request.Prepare
import ApiFlow.Note
import ApiFlow.Variable.Context
import ApiFlow.Yaml.Read

/-!
# The state of a run

What is given to a run is its setup and never changes; what a run does is kept in its state: variables, stored values,
the clock, and everything that was sent, run, printed or noted.  A fault ends a computation and keeps the state reached
so far.

Two services are taken to do what they are asked for: the stream accepts every text that is printed, and a sleep of any
length returns.  The reader of configuration files is given with the setup.

* `chain` gives the variables that a step sees.
* `sleep` lets time pass.
-/

set_option autoImplicit false

namespace ApiFlow

/-- What a run is given. -/
structure Setup where
  settings : Settings := {}
  builtins : Builtins
  service : Service
  shell : Shell
  files : Files.Tree := {}
  configReader : Yaml.Reader := Yaml.read
  commandTimeout : Double := Double.ofInt 30
  showVariables : Bool := false
  keepHistory : Bool := true
  quiet : Bool := false
  verbose : Bool := false
  startTime : TimeOfDay := {}

/-- Where a step is in its life. -/
inductive StepState where
  | pending
  | running
  | succeeded
  | failed
  deriving DecidableEq, Repr

/-- Where a run is in its life. -/
inductive Phase where
  | pending
  | running
  | allPassed
  | someFailed
  deriving DecidableEq, Repr

/-- What a run has done so far. -/
structure RunState where
  context : Context := []
  store? : Option Store := none
  draws : Draws
  clock : Double := Double.zero false
  sent : List Request := []
  commands : List (Text × Double) := []
  sleeps : List Double := []
  printed : Text := []
  notes : List Note := []
  phase : Phase := .pending
  stepStates : Table StepState := []

/-- A computation of a run. -/
abbrev Running (α : Type) := ExceptT Fault (StateM RunState) α

namespace Running

def guard {α : Type} (result : Except Fault α) : Running α := ExceptT.mk (pure result)

/-- Prints a text, unless the run is quiet.  The stream is taken to accept it. -/
def say (setup : Setup) (text : Text) : Running Unit :=
  modify fun s => if setup.quiet then s else { s with printed := s.printed ++ text }

def noteAll (notes : List Note) : Running Unit := modify fun s => { s with notes := s.notes ++ notes }

/-- Lets some seconds pass. -/
def pass (seconds : Double) : Running Unit := modify fun s => { s with clock := s.clock.add seconds }

/-- Sleeps for some seconds.  The sleep is taken to return. -/
def sleep (seconds : Double) : Running Unit := do
  modify fun s => { s with sleeps := s.sleeps ++ [seconds] }
  pass seconds

/-- The clock reading in seconds. -/
def now : Running Double := return (← get).clock

/-- Changes the store, if there is one. -/
def inStore (f : Store → Store) : Running Unit := modify fun s => { s with store? := s.store?.map f }

/-- Draws values from the state of the run. -/
def draw {α : Type} (f : Draws → α × Draws) : Running α :=
  modifyGet fun s => ((f s.draws).1, { s with draws := (f s.draws).2 })

end Running

/-- The stored variables of the project and environment in use. -/
def RunState.stored (s : RunState) (settings : Settings) : Table Text :=
  match s.store? with
  | some store => store.values settings.projectId settings.activeEnv
  | none => []

/-- The variables that a step sees: those of the run come before stored ones, and these before configured ones. -/
def RunState.chain (s : RunState) (settings : Settings) : Table Text :=
  Table.setAll (Table.setAll settings.environment.values (s.stored settings)) s.context.values

end ApiFlow
