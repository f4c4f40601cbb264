import ApiFlow.Summary.Render
import ApiFlow.Variable.Context

/-!
# What a run prints

The lines that tell the course of a run: its steps, their assertions and captures, and the summary at the end.  Each
function gives whole lines with their ends.
-/

set_option autoImplicit false

namespace ApiFlow.Report

def line (text : Text) : Text := text ++ ['\n']

/-- The heading of a run. -/
def runStarted (count : Int) (source mode : Text) : Text :=
  line ("\nRunning " ++ Text.ofInt count ++ " step(s) from " ++ source) ++ line ("Mode: " ++ mode)

/-- A remark. -/
def notice (message : Text) : Text := line ("! " ++ message)

def flowchart (diagram : Text) : Text := line "\nMermaid (flowchart):" ++ line diagram

/-- The end of a run that stops at the first failure. -/
def stopped (step reason : Text) (skipped : Int) : Text :=
  line "\n! Stopping execution (--fail-fast enabled)" ++ line ("  Failed step: " ++ step)
    ++ (if reason.isEmpty then [] else line ("  Reason: " ++ reason))
    ++ (if skipped = 0 then [] else line ("  Skipped " ++ Text.ofInt skipped ++ " remaining step(s)"))

/-- The table at the end. -/
def summary (s : Summary) : Text := line [] ++ line s.render

/-- The heading of a step; line zero is not shown. -/
def stepStarted (name detail : Text) (number : Int) : Text :=
  let place : Text := if number = 0 then [] else " (line " ++ Text.ofInt number ++ ")"
  line (Text.trimRight ("\n> " ++ name ++ ' ' :: detail ++ place))

/-- A wait before a step. -/
def waiting (name : Text) (ms : Int) : Text := line ("  waiting " ++ Text.ofInt ms ++ "ms before " ++ name)

def command (command : Text) : Text := line ("  $ " ++ command)

/-- A failed try that is followed by another one. -/
def retry (attempt retries waitMs : Int) : Text :=
  line ("  retry attempt " ++ Text.ofInt attempt ++ "/" ++ Text.ofInt retries ++ " (waiting " ++ Text.ofInt waitMs ++ "ms)")

def captured (name value : Text) : Text := line ("  Captured: " ++ name ++ " = " ++ value)

def captureMissing (name : Text) : Text := line ("  ! Capture '" ++ name ++ "' produced no value")

/-- The outcome of an assertion; further lines of the diagnostic are indented. -/
def assertion (text : Text) (passed : Bool) (diagnostic : Text) : Text :=
  if passed then line ("  ✓ " ++ text)
  else line ("  ✗ Assertion Failed: " ++ text) ++ line ("    " ++ Text.replaceAll ['\n'] "\n    " diagnostic)

/-- What a command has written. -/
def output (label text : Text) : Text := if text.isEmpty then [] else line ("  " ++ label ++ ": " ++ text)

def stepFinished (r : StepResult) : Text :=
  if r.success then
    let status : Text := if r.method = "EXEC".toList then [] else " -> " ++ Text.ofInt r.status
    line ("  ✓ " ++ Text.trim (r.method ++ ' ' :: r.url) ++ status ++ " (" ++ Text.ofInt r.durationMs ++ "ms)")
  else line ("  ✗ " ++ r.name ++ ": " ++ r.error)

/-- The name of an origin. -/
def originName : Origin → Text
  | .commandLine => "cli"
  | .capture => "capture"
  | .config => "config"
  | .builtin => "builtin"

/-- Where a variable came from. -/
def sourceText (context : Context) (name : Text) : Text :=
  match Table.get? context name with
  | none => "config/store"
  | some s => if s.step.isEmpty then originName s.origin else originName s.origin ++ " from " ++ s.step

/-- The first fifty characters of a value. -/
def shortened (value : Text) : Text := if value.length ≤ 50 then value else value.take 50 ++ "..."

def variableLine (context : Context) (name value : Text) : Text :=
  line (r"  {{" ++ name ++ r#"}} -> ""# ++ shortened value ++ "\" (from: " ++ sourceText context name ++ ")")

/-- The variables that a request is filled with, by name. -/
def resolution (chain : Table Text) (context : Context) : Text :=
  if chain.isEmpty then []
  else line "\nVariable Resolution:"
    ++ (Text.sort chain.names).flatMap fun name => variableLine context name ((chain.get? name).getD [])

end ApiFlow.Report
