import ApiFlow.Assertion.Basic
import ApiFlow.Flow.Basic
import ApiFlow.Run.State
import ApiFlow.Variable.Capture

/-!
# Checks of a step

Before a step of a flow runs, every name that only a variable can give must have a value.  After it, its captures are
applied and its assertions are decided.

* `captureOrigins` tells which step is to capture a variable.
* `missingNames` are the names without a value, and `preflight?` is the message about the first of them.
* `capture` applies capture entries to the variables of the run.
* `check` decides an assertion with the variables that hold at that moment.
-/

set_option autoImplicit false

/-! ## Before a step -/

namespace ApiFlow

open ApiFlow.Flow

/-- The captured variables of some steps with the step that captures each; the last one counts. -/
def captureOrigins (steps : List Step) : Table Text :=
  Table.ofWrites (steps.flatMap fun s =>
    (s.captures.filterMap Capture.parse?).filterMap fun p =>
      if p.1.isEmpty then none else some (p.1, s.displayName))

/-- The texts of a step that are filled in. -/
def templatesOf (s : Step) : List Text :=
  [s.request.url, s.request.body, s.command.command] ++ s.request.headers ++ s.request.queries ++ s.asserts

/-- The names that a step needs and that have no value. -/
def missingNames (builtins : Builtins) (vars : Table Text) (s : Step) : List Text :=
  ((templatesOf s).flatMap (Template.requiredNames builtins)).filter fun n => !vars.has n

def firstName? (names : List Text) : Option Text := (Text.sort names).head?

/-- The message about a name without a value. -/
def missingMessage (origins : Table Text) (failed : List Text) (name : Text) : Text :=
  match origins.get? name with
  | none => "required variable '" ++ name ++ "' not provided"
  | some step =>
    if failed.contains step then "variable '" ++ name ++ "' was not captured (" ++ step ++ " failed)"
    else "variable '" ++ name ++ "' was not captured (expected from " ++ step ++ ")"

/-- The message about a step that cannot run. -/
def preflight? (builtins : Builtins) (vars : Table Text) (s : Step) (origins : Table Text) (failed : List Text) :
    Option Text :=
  (firstName? (missingNames builtins vars s)).map (missingMessage origins failed)

end ApiFlow

/-! ## After a step -/

namespace ApiFlow.Running

/-- Applies capture entries; what was captured before a fault stays. -/
def capture (product : Capture.Product) (step : Text) (entries : List Text) : Running (List Capture.Outcome) := do
  let h := Capture.harvest product step (← get).context entries
  modify fun s => { s with context := h.context, notes := s.notes ++ h.notes }
  match h.fault? with
  | some fault => throw fault
  | none => return h.outcomes

def check (setup : Setup) (subject : Assertion.Subject) (vars : Table Text) (assertion : Text) :
    Running Assertion.Verdict := do
  guard (← draw (Assertion.check setup.builtins vars subject assertion))

def checkAll (setup : Setup) (subject : Assertion.Subject) (vars : Table Text) (assertions : List Text) :
    Running (List (Text × Assertion.Verdict)) :=
  assertions.mapM fun a => return (a, ← check setup subject vars a)

def firstFailure? (checked : List (Text × Assertion.Verdict)) : Option (Text × Assertion.Verdict) :=
  checked.find? fun c => !c.2.passed

def assertionError (failed : Text × Assertion.Verdict) : Text :=
  "assertion failed: " ++ failed.1 ++ " (" ++ failed.2.message ++ ")"

def sayChecked (setup : Setup) (checked : Text × Assertion.Verdict) : Running Unit :=
  say setup (Report.assertion checked.1 checked.2.passed checked.2.message)

def sayCaptured (setup : Setup) (o : Capture.Outcome) : Running Unit :=
  match o.value? with
  | none => say setup (Report.captureMissing o.name)
  | some value => say setup (Report.captured o.name value)

def markFailed (step : Text) : Running Unit := modify fun s => { s with context := s.context.markFailed step }

end ApiFlow.Running
