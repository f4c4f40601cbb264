import ApiFlow.Number.Integer

/-!
# What is wrong with a pattern

Most texts that are no pattern are refused alike.  A few break off the search for a reason of their own: a count of
repetitions that is no number to work with, flags that exclude each other, a look behind from too far away, and a group
that ends before it begins.

* `Refusal.message` words a reason.
-/

set_option autoImplicit false

namespace ApiFlow.Pattern

/-- Why a pattern is not searched for. -/
inductive Refusal where
  /-- The text is no pattern. -/
  | malformed
  /-- A count of repetitions has too many digits. -/
  | count (e : Integer.ReadError)
  /-- A count of repetitions is too large. -/
  | countTooLarge
  /-- The flags exclude each other. -/
  | flagConflict
  /-- What should stand behind a place is too long. -/
  | tooFarBehind
  /-- A group ends before it begins. -/
  | crossedGroup
  deriving DecidableEq, Repr

def Refusal.message : Refusal → Text
  | malformed => "malformed pattern"
  | count e => e.message
  | countTooLarge => "the repetition number is too large"
  | flagConflict => "ASCII and UNICODE flags are incompatible"
  | tooFarBehind => "invalid SRE code"
  | crossedGroup => "The span of capturing group is wrong, please report a bug for the re module."

end ApiFlow.Pattern
