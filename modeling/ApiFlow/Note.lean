import ApiFlow.Text.Basic

/-!
# Notes for the log

A note is a message with a level and the topic it is about.  Functions that have something to say besides their
result give it as a list of notes, in the order in which they arise.
-/

set_option autoImplicit false

namespace ApiFlow

inductive Level where
  | debug
  | info
  | warning
  | error
  | critical
  deriving DecidableEq, Repr

/-- The number of a level; a log keeps the notes that reach its own number. -/
def Level.number : Level → Nat
  | debug => 10
  | info => 20
  | warning => 30
  | error => 40
  | critical => 50

inductive Topic where
  | fences
  | documents
  | ordering
  | captures
  | steps
  | runs
  | settings
  | commands
  deriving DecidableEq, Repr

/-- A message for the log. -/
structure Note where
  level : Level
  topic : Topic
  message : Text
  deriving DecidableEq, Repr

end ApiFlow
