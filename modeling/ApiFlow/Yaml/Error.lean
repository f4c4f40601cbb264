import ApiFlow.Number.Integer

/-!
# What is wrong with a configuration text

A text is malformed if it has no structure, or if a tag asks for what a node is not.  A scalar whose tag calls it a number,
a truth value or a date although it is none is an error of its own, and so is an escape for a character that there is not.
-/

set_option autoImplicit false

namespace ApiFlow.Yaml

/-- Which part of a date or time is out of its range. -/
inductive CalendarPart where
  | year (n : Nat)
  | month
  | day
  | hour
  | minute
  | second
  | offset (minutes : Int)
  deriving DecidableEq, Repr

/-- Why a scalar has no value. -/
inductive ScalarError where
  /-- An integer is none. -/
  | integer (e : Integer.ReadError)
  /-- A real number is none. -/
  | real (text : Text)
  /-- A date or a time does not exist. -/
  | calendar (part : CalendarPart)
  /-- A number has no digits at all. -/
  | noDigits
  /-- A truth value is none. -/
  | truth (text : Text)
  /-- A date is none. -/
  | time
  /-- A map stands in the place of a date. -/
  | timeOfMap
  /-- A sixtieth is too small a part of a real number. -/
  | tooManySixtieths
  /-- An escape asks for a character beyond the last one. -/
  | character
  /-- An escape asks for a character whose number has no sign bit left. -/
  | characterNumber
  deriving DecidableEq, Repr

/-- A span of minutes in days and seconds, where only the days have a sign. -/
def spanText (minutes : Int) : Text :=
  let days := Int.fdiv minutes 1440
  let seconds := Int.fmod minutes 1440 * 60
  let parts : List Text :=
    (if days = 0 then [] else ["days=" ++ Text.ofInt days]) ++ (if seconds = 0 then [] else ["seconds=" ++ Text.ofInt seconds])
  "datetime.timedelta(" ++ (if parts.isEmpty then ['0'] else Text.join ", " parts) ++ ")"

def CalendarPart.message : CalendarPart → Text
  | year n => "year " ++ Text.ofNat n ++ " is out of range"
  | month => "month must be in 1..12"
  | day => "day is out of range for month"
  | hour => "hour must be in 0..23"
  | minute => "minute must be in 0..59"
  | second => "second must be in 0..59"
  | offset minutes =>
    "offset must be a timedelta strictly between -timedelta(hours=24) and timedelta(hours=24), not " ++ spanText minutes ++ "."

def ScalarError.message : ScalarError → Text
  | integer e => e.message
  | real text => "could not convert string to float: " ++ Text.quoted text
  | calendar part => part.message
  | noDigits => "string index out of range"
  | truth text => Text.quoted text
  | time => "'NoneType' object has no attribute 'groupdict'"
  | timeOfMap => "expected string or bytes-like object, got 'list'"
  | tooManySixtieths => "int too large to convert to float"
  | character => "chr() arg not in range(0x110000)"
  | characterNumber => "Python int too large to convert to C int"

/-- Why a text has no value. -/
inductive Error where
  | malformed
  | scalar (e : ScalarError)
  deriving DecidableEq, Repr

/-- What an optional value gives; where there is none, the text is malformed. -/
def orMalformed {α : Type} (value? : Option α) : Except Error α := value?.elim (.error .malformed) .ok

def wrongScalar {α : Type} (e : ScalarError) : Except Error α := .error (.scalar e)

end ApiFlow.Yaml
