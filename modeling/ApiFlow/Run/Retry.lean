import ApiFlow.Run.State

/-!
# Retries

A try that fails is repeated a number of times with a fixed wait between the tries.  Only failures are repeated; a fault
ends the tries at once.  The loop is the one that libraries for retries document; what is taken for granted of it is
spelled out where its properties are proved.

* `Retry.repeated` makes the tries and counts them.
* `send` and `runCommand` are the two things that are tried.
-/

set_option autoImplicit false

namespace ApiFlow

/-- How often a failure is repeated, and the milliseconds between two tries; a negative number counts as zero. -/
structure Retry where
  retries : Int := 0
  waitMs : Int := 0
  deriving DecidableEq, Repr

namespace Retry

open Running

/-- Tries until a try does not fail or no repetition is left; gives the outcome and the number of the last try. -/
def repeated {ε α : Type} (attempt : Running (Except ε α)) (pause : Nat → Running Unit) :
    (left number : Nat) → Running (Except ε α × Nat)
  | 0, number => do return (← attempt, number)
  | left + 1, number => do
    match ← attempt with
    | .ok a => return (.ok a, number)
    | .error _ => do
      pause number
      repeated attempt pause left (number + 1)

/-- What happens between two tries: a line is printed, then the wait. -/
def pause (r : Retry) (setup : Setup) (wait : Double) (number : Nat) : Running Unit := do
  say setup (Report.retry number r.retries r.waitMs)
  sleep wait

/-- Tries as often as the rule says. -/
def run {ε α : Type} (r : Retry) (setup : Setup) (attempt : Running (Except ε α)) : Running (Except ε α × Nat) := do
  let wait ← guard (Duration.seconds (max r.waitMs 0))
  repeated attempt (r.pause setup wait) (max r.retries 0).toNat 1

end Retry

/-- Why a request has brought no acceptable response. -/
inductive SendError where
  | noResponse (reason : Text)
  | overBudget (durationMs budgetMs : Int)
  deriving DecidableEq, Repr

/-- The wording of a send error. -/
def SendError.message : SendError → Text
  | noResponse reason => reason
  | overBudget durationMs budgetMs =>
    "duration assertion failed: " ++ Text.ofInt durationMs ++ "ms > " ++ Text.ofInt budgetMs ++ "ms"

inductive CommandError where
  | exitStatus (code : Int) (stderr : Text)
  | refused (reason : Text)
  | timedOut (seconds : Double)
  deriving DecidableEq, Repr

/-- Seconds without a fraction if they are whole, else with six digits. -/
def secondsText (x : Double) : Text := if x.isInteger then x.plain else x.sixDigits

def CommandError.message : CommandError → Text
  | exitStatus code stderr => "exec failed: exit status " ++ Text.ofInt code ++ "\nstderr: " ++ Text.trim stderr
  | refused reason => reason
  | timedOut seconds => "exec timed out after " ++ secondsText seconds ++ "s"

namespace Running

/-- A response, unless it took longer than the budget; without a positive budget any response will do. -/
def withinBudget (budgetMs : Int) (r : Response) : Except SendError Response :=
  if 0 < budgetMs && decide (budgetMs < r.durationMs) then .error (.overBudget r.durationMs budgetMs) else .ok r

def sendOnce (setup : Setup) (request : Request) (budgetMs : Int) : Running (Except SendError Response) := do
  let reply := setup.service (← get).sent.length request
  modify fun s => { s with sent := s.sent ++ [request] }
  pass reply.elapsed
  match reply.outcome with
  | .response r => return withinBudget budgetMs r
  | .noResponse reason => return .error (.noResponse reason)
  | .broken message => throw (.service message)

/-- Sends a request with retries; gives the outcome and the number of sends. -/
def send (setup : Setup) (request : Request) (retry : Retry) (budgetMs : Int) :
    Running (Except SendError Response × Nat) :=
  retry.run setup (sendOnce setup request budgetMs)

def withoutFailure (o : Output) : Except CommandError Output :=
  if o.code = 0 then .ok o else .error (.exitStatus o.code o.stderr)

def runOnce (setup : Setup) (command : Text) (limit : Double) : Running (Except CommandError Output) := do
  let reply := setup.shell (← get).commands.length command limit
  modify fun s => { s with commands := s.commands ++ [(command, limit)] }
  pass reply.elapsed
  match reply.outcome with
  | .output o => return withoutFailure o
  | .refused reason => return .error (.refused reason)
  | .timedOut => return .error (.timedOut limit)
  | .broken message => throw (.service message)

def runCommand (setup : Setup) (command : Text) (limit : Double) (retry : Retry) :
    Running (Except CommandError Output) := do
  return (← retry.run setup (runOnce setup command limit)).1

end Running

end ApiFlow
