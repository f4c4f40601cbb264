import ApiFlow.Number.Double
import ApiFlow.Table
import ApiFlow.Text.Case
import ApiFlow.Text.Class

/-!
# Requests, commands and what answers them

A service answers requests and a shell runs commands.  Both are functions of what they are asked and of how often they
have been asked before, so that any course of a run can be stated.  A reply tells how much time has passed until it was
there.

Header names are compared in their canonical form: trimmed, and each part between hyphens with a first capital and the
rest in lower case.
-/

set_option autoImplicit false

namespace ApiFlow

/-- A request ready to be sent; the timeout is in seconds. -/
structure Request where
  method : Text
  url : Text
  headers : Table Text := []
  body : List UInt8 := []
  timeout : Double := Double.ofInt 30
  deriving DecidableEq, Repr

/-- What a service answers. -/
structure Response where
  status : Int := 200
  headers : Table Text := []
  body : Text := []
  durationMs : Int := 0
  deriving DecidableEq, Repr

/-- What a command has brought. -/
structure Output where
  stdout : Text := []
  stderr : Text := []
  code : Int := 0
  durationMs : Int := 0
  deriving DecidableEq, Repr

/-- What may come of a request. -/
inductive ServiceOutcome where
  | response (r : Response)
  | noResponse (reason : Text)
  | broken (message : Text)
  deriving DecidableEq, Repr

/-- What may come of a command. -/
inductive ShellOutcome where
  | output (o : Output)
  | refused (reason : Text)
  | timedOut
  | broken (message : Text)
  deriving DecidableEq, Repr

/-- An outcome and the seconds that pass until it is there. -/
structure Reply (α : Type) where
  elapsed : Double := Double.zero false
  outcome : α

/-- Answers a request, given how many were sent before it. -/
abbrev Service := (sent : Nat) → Request → Reply ServiceOutcome

/-- Runs a command with a time limit in seconds, given how many were run before it. -/
abbrev Shell := (run : Nat) → (command : Text) → (limit : Double) → Reply ShellOutcome

end ApiFlow

/-! ## Header names -/

namespace ApiFlow.Header

/-- A part with a capital in front. -/
def capitalize : Text → Text
  | [] => []
  | c :: s => Text.upperChar c ++ Text.lower s

/-- The canonical form of a name. -/
def canonical (name : Text) : Text :=
  Text.join ['-'] ((Text.splitAt '-' (Text.trim name)).map capitalize)

/-- The header in a line; a line without a colon or without a name has none. -/
def ofLine? (line : Text) : Option (Text × Text) :=
  match Text.cutAt? ':' line with
  | some (name, value) => if (Text.trim name).isEmpty then none else some (canonical name, Text.trim value)
  | none => none

end ApiFlow.Header
