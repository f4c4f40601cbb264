import ApiFlow.Run.Check
import ApiFlow.Run.Retry

/-!
# Command steps

A command step runs its command, with retries.  If no try exits with status zero the step fails before anything is
captured.  Otherwise captures and assertions read the trimmed output, and the first failed assertion is the error.

* `commandStep` gives the result of a step.
-/

set_option autoImplicit false

namespace ApiFlow.Running

open ApiFlow.Flow

def commandLimit (setup : Setup) (step : Step) : Except Fault Double :=
  if 0 < step.timeoutMs then Duration.seconds step.timeoutMs else .ok setup.commandTimeout

/-- Prints what a command has written, if the run is verbose. -/
def sayOutput (setup : Setup) (label text : Text) : Running Unit :=
  if setup.verbose then say setup (Report.output label text) else return

/-- Decides an assertion and prints its outcome. -/
def checkAloud (setup : Setup) (subject : Assertion.Subject) (vars : Table Text) (assertion : Text) :
    Running (Text × Assertion.Verdict) := do
  let verdict ← check setup subject vars assertion
  sayChecked setup (assertion, verdict)
  return (assertion, verdict)

def succeeded (setup : Setup) (step : Step) (c : CommandTemplate) (result : StepResult) (o : Output) :
    Running StepResult := do
  let stdout := Text.trim o.stdout
  let result := { result with durationMs := o.durationMs, status := o.code, body := stdout }
  sayOutput setup "stdout" stdout
  sayOutput setup "stderr" (Text.trim o.stderr)
  let outcomes ← capture (.output stdout) step.displayName c.captures
  outcomes.forM (sayCaptured setup)
  let vars := (← get).chain setup.settings
  let checked ← c.asserts.mapM (checkAloud setup ⟨o.code, stdout, o.durationMs⟩ vars)
  match firstFailure? checked with
  | none => return result.judged
  | some failed => do
    markFailed step.displayName
    return { result with error := assertionError failed }.judged

def noCommandError (line : Nat) : Text := "exec step has no command at line " ++ Text.ofNat line

def commandStep (setup : Setup) (step : Step) (c : CommandTemplate) : Running StepResult := do
  let result : StepResult := { name := step.displayName, method := "EXEC", start := setup.startTime }
  if c.command.isEmpty then return { result with error := noCommandError step.line }
  let vars := (← get).chain setup.settings
  let command := (← draw (Template.fill setup.builtins vars c.command)).text
  let result := { result with url := (Text.lines command).head?.getD [] }
  say setup (Report.command command)
  let limit ← guard (commandLimit setup step)
  let start ← now
  match ← runCommand setup command limit ⟨step.retry, step.retryWaitMs⟩ with
  | .error e => do
    let durationMs ← guard (elapsedMs start (← now))
    return { result with durationMs, error := e.message }
  | .ok o => succeeded setup step c result o

end ApiFlow.Running
