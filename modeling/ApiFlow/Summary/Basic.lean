import ApiFlow.Fault
import ApiFlow.Number.Double
import ApiFlow.Table

/-!
# Results of a run

Each step that was tried has a result, and a summary holds the results in order with the names of the steps that were
skipped.  The time a run took is fixed when its summary is closed.  Of the durations it shows the slowest, and the one at
the 95th percentile: with the durations sorted, the one at the integer part of `(n - 1) * 0.95`, worked out in double
precision.

* `StepResult.success` is derived: a result is a success exactly when it has no error text.
* `Summary.close` fixes the elapsed time; closing again changes nothing.
* `Latency.slowest`, `Latency.percentile` are the figures for durations.
-/

set_option autoImplicit false

namespace ApiFlow

structure TimeOfDay where
  hour : Fin 24 := 0
  minute : Fin 60 := 0
  second : Fin 60 := 0
  deriving DecidableEq, Repr

def twoPlaces (n : Nat) : Text := (Nat.toDigits 10 (100 + n % 100)).drop 1

def TimeOfDay.text (t : TimeOfDay) : Text :=
  twoPlaces t.hour ++ ':' :: twoPlaces t.minute ++ ':' :: twoPlaces t.second

/-- The outcome of a step. -/
structure StepResult where
  name : Text
  method : Text := []
  url : Text := []
  status : Int := 0
  durationMs : Int := 0
  success : Bool := false
  error : Text := []
  body : Text := []
  start : TimeOfDay := {}
  attempts : Nat := 0
  deriving DecidableEq, Repr

/-- A result with its verdict: a success exactly when there is no error text. -/
def StepResult.judged (r : StepResult) : StepResult := { r with success := r.error.isEmpty }

/-- The results of a run. -/
structure Summary where
  results : List StepResult := []
  skipped : List Text := []
  started : Double := Double.zero false
  elapsedMs? : Option Int := none
  deriving DecidableEq, Repr

/-- The milliseconds between two clock readings in seconds, without fraction. -/
def elapsedMs (start now : Double) : Except Fault Int :=
  match Double.mul (now.sub start) (Double.ofInt 1000) with
  | .nan => .error .notANumberInteger
  | .infinite _ => .error .infiniteInteger
  | x => .ok (x.truncate?.getD 0)

namespace Summary

def add (s : Summary) (r : StepResult) : Summary := { s with results := s.results ++ [r] }

/-- A summary with the names of steps that are not run. -/
def skip (s : Summary) (names : List Text) : Summary := { s with skipped := s.skipped ++ names }

/-- The number of results. -/
def total (s : Summary) : Nat := s.results.length

/-- The number of successes. -/
def passed (s : Summary) : Nat := (s.results.filter (·.success)).length

/-- The number of failures. -/
def failed (s : Summary) : Nat := s.total - s.passed

/-- The time that all results took together. -/
def totalMs (s : Summary) : Int := (s.results.map (·.durationMs)).foldl (· + ·) 0

/-- Whether there is no failure. -/
def allPassed (s : Summary) : Bool := s.failed = 0

def durations (s : Summary) : List Int := s.results.map (·.durationMs)

/-- Fixes the elapsed time at a clock reading, unless it is fixed already. -/
def close (s : Summary) (now : Double) : Except Fault Summary :=
  match s.elapsedMs? with
  | some _ => .ok s
  | none => (elapsedMs s.started now).map fun ms => { s with elapsedMs? := some ms }

end Summary

end ApiFlow

/-! ## Latency figures -/

namespace ApiFlow.Latency

/-- The share of durations below the percentile. -/
def share : Double := Double.ofDecimal false 95 (-2)

/-- The place of the percentile among `n` sorted durations. -/
def percentilePlace (n : Nat) : Nat :=
  min ((Double.truncate? (Double.mul (Double.ofInt ((n : Int) - 1)) share)).getD 0).toNat (n - 1)

def sorted (durations : List Int) : List Int := durations.mergeSort fun a b => decide (a ≤ b)

/-- The longest duration, zero if there is none. -/
def slowest (durations : List Int) : Int := (sorted durations).getLast?.getD 0

/-- The duration at the percentile, zero if there is none. -/
def percentile (durations : List Int) : Int := (sorted durations)[percentilePlace durations.length]?.getD 0

end ApiFlow.Latency
