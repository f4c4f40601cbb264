import ApiFlow.Run.CommandStep
import ApiFlow.Run.RequestStep
import ApiFlow.Scenario.Line

/-!
# Running steps and plain requests

* `runStep` runs a step of either kind.
* `runPlain` runs a plain request; one that cannot be read has a failed result.
-/

set_option autoImplicit false

namespace ApiFlow.Running

open ApiFlow.Flow

def waitBefore (setup : Setup) (step : Step) : Running Unit :=
  if step.waitMs = 0 then return
  else do
    say setup (Report.waiting step.displayName step.waitMs)
    sleep (← guard (Duration.seconds step.waitMs))

def runStep (setup : Setup) (step : Step) (strict : Bool) (flowHeaders : Table Text) : Running StepResult :=
  match step.action with
  | .send t => requestStep setup step t strict flowHeaders true
  | .run c => commandStep setup step c

/-- A plain request as a step and whether it belongs into the history, or why it cannot be read. -/
def readPlain (p : PlainRequest) : Except Text (Step × RequestTemplate × Bool) :=
  if p.isBlock then
    match RequestTemplate.ofBlock p.raw with
    | .ok t => .ok ({ name := p.name, line := p.line, raw := p.raw, action := .send t }, t, true)
    | .error e => .error e.message
  else
    match Scenario.Line.read p.raw p.line with
    | .ok l => .ok (l.step, l.step.request, l.record)
    | .error e => .error e.message

/-- The error of a plain request that cannot be read. -/
def unreadableError (line : Nat) (reason : Text) : Text :=
  "parse error at line " ++ Text.ofNat line ++ ": " ++ reason

def runPlain (setup : Setup) (p : PlainRequest) (strict : Bool) : Running StepResult :=
  match readPlain p with
  | .error reason =>
    return { name := p.name, error := unreadableError p.line reason, start := setup.startTime }
  | .ok (step, t, record) => do
    say setup (Report.stepStarted p.name (t.method ++ ' ' :: t.url) 0)
    requestStep setup step t strict [] record

end ApiFlow.Running
