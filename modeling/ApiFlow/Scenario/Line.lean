import ApiFlow.CommandLine.Options
import ApiFlow.Flow.Request

/-!
# Scenario lines

A scenario holds one request a line, in the form of a command: method, address, and options for the body, headers,
query entries, captures, assertions, time limit and retries.  Blank lines and comments are skipped.

* `requests` gives the lines of a scenario.
* `Line.read` reads one line.
-/

set_option autoImplicit false

namespace ApiFlow.Scenario

open ApiFlow.Flow

def requests (content : Text) : List PlainRequest :=
  ((Text.lines content).zipIdx 1).filterMap fun p =>
    let trimmed := Text.trim p.1
    if isIdle trimmed then none else some ⟨p.2, trimmed, false⟩

/-- The wait between retries of a line that does not set one. -/
def defaultRetryWaitMs : Int := 1000

def grammar : Options.Grammar where
  switches := [
    ⟨"data", ["-d", "--data"], .text⟩,
    ⟨"header", ["-H", "--header"], .text⟩,
    ⟨"query", ["-q", "--query"], .text⟩,
    ⟨"capture", ["-c", "--capture"], .text⟩,
    ⟨"assert", ["-a", "--assert"], .text⟩,
    ⟨"no-record", ["--no-record"], .flag⟩,
    ⟨"max-time", ["--max-time"], .integer⟩,
    ⟨"retry", ["--retry"], .integer⟩,
    ⟨"retry-delay", ["--retry-delay"], .integer⟩]

inductive LineError where
  | format
  | options (e : Options.Error)
  deriving DecidableEq, Repr

def LineError.message : LineError → Text
  | format => "invalid command format"
  | options e => e.message

/-- A line as a step, and whether its request belongs into the history. -/
structure Line where
  step : Step
  record : Bool := true
  deriving DecidableEq, Repr

/-- The step of a line with its options read. -/
def Line.ofOptions (raw method url : Text) (number : Nat) (p : Options.Parsed) : Line where
  step := {
    name := "Line " ++ Text.ofNat number
    retry := (p.integer? "retry").getD 0
    retryWaitMs := (p.integer? "retry-delay").getD defaultRetryWaitMs
    maxDurationMs := (p.integer? "max-time").getD 0
    line := number
    raw := raw
    action := .send {
      method := Text.upper method
      url := url
      headers := p.texts "header"
      queries := p.texts "query"
      body := (p.text? "data").getD []
      captures := p.texts "capture"
      asserts := p.texts "assert" } }
  record := !p.hasFlag "no-record"

def Line.read (raw : Text) (number : Nat) : Except LineError Line :=
  match Text.arguments raw with
  | method :: url :: options =>
    match grammar.parse options with
    | .error (.error e) => .error (.options e)
    | .error .help => .error .format
    | .ok p =>
      if p.extras.isEmpty then .ok (.ofOptions raw method url number p)
      else .error (.options (.unrecognized p.extras))
  | _ => .error .format

end ApiFlow.Scenario
