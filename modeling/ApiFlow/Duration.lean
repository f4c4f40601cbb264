import ApiFlow.Fault
import ApiFlow.Number.Double

/-!
# Durations

Documents give durations in whole milliseconds, clocks count seconds as doubles.
-/

set_option autoImplicit false

namespace ApiFlow.Duration

/-- Milliseconds as seconds; too many of them are a fault. -/
def seconds (ms : Int) : Except Fault Double :=
  match Double.ofQuotient ms 1000 with
  | .infinite _ => .error .durationTooLarge
  | x => .ok x

/-- Milliseconds as seconds on three places. -/
def secondsText (ms : Nat) : Text :=
  let fraction := Text.ofNat (ms % 1000)
  Text.ofNat (ms / 1000) ++ '.' :: List.replicate (3 - fraction.length) '0' ++ fraction

end ApiFlow.Duration
