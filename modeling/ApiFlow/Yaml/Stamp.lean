import ApiFlow.Yaml.Cursor
import ApiFlow.Yaml.Value

/-!
# Dates and times as they are written

A date has a year, a month and a day between hyphens; a time may stand behind it, with a fraction of a second and an
offset from universal time.

* `Stamp.read?` reads the parts.
* `Stamp.value` gives the day or the moment, unless a part is out of its range.
* `isTime` tells what looks like a date or time.
-/

set_option autoImplicit false

namespace ApiFlow.Yaml

/-- The parts of a date and a time as they are written. -/
structure Stamp where
  year : Nat
  month : Nat
  day : Nat
  time? : Option (Nat × Nat × Nat) := none
  micro : Nat := 0
  offset? : Option Int := none
  deriving DecidableEq, Repr

/-- A number of at least `least` and at most `most` digits, with the rest. -/
def digits? (least most : Nat) (s : Text) : Option (Nat × Text) :=
  let digits := (s.take most).takeWhile Char.isDigit
  if digits.length < least then none
  else some (digits.foldl (fun n d => 10 * n + (d.toNat - 48)) 0, s.drop digits.length)

/-- The rest behind a character. -/
def behind? (c : Char) : Text → Option Text
  | x :: s => if x = c then some s else none
  | [] => none

def microsOf (fraction : Text) : Nat :=
  ((fraction.take 6 ++ List.replicate 6 '0').take 6).foldl (fun n d => 10 * n + (d.toNat - 48)) 0

def fraction : Text → Nat × Text
  | '.' :: s => (microsOf (s.takeWhile Char.isDigit), s.dropWhile Char.isDigit)
  | s => (0, s)

/-- An offset from universal time, in minutes; nothing may follow it. -/
def offsetOf? (s : Text) : Option Int :=
  if s = ['Z'] then some 0
  else do
    let sign ← s.head?
    if sign != '-' && sign != '+' then none
    let (hours, rest) ← digits? 1 2 s.tail
    let minutes ← if rest.isEmpty then some 0 else do
      let (minutes, rest) ← digits? 2 2 (← behind? ':' rest)
      if rest.isEmpty then some minutes else none
    let n : Int := 60 * hours + minutes
    some (if sign = '-' then -n else n)

/-- What stands between the date and the time. -/
def timeSign? : Text → Option Text
  | c :: s => if c = 'T' || c = 't' then some s else if isSpace c then some (s.dropWhile isSpace) else none
  | [] => none

/-- A date, and a time behind it. -/
def Stamp.ofLine? (s : Text) : Option Stamp := do
  let (year, s) ← digits? 4 4 s
  let (month, s) ← digits? 1 2 (← behind? '-' s)
  let (day, s) ← digits? 1 2 (← behind? '-' s)
  if s.isEmpty then some { year, month, day }
  else
    let (hour, s) ← digits? 1 2 (← timeSign? s)
    let (minute, s) ← digits? 2 2 (← behind? ':' s)
    let (second, s) ← digits? 2 2 (← behind? ':' s)
    let (micro, s) := fraction s
    let time? := some (hour, minute, second)
    if s.isEmpty then some { year, month, day, time?, micro }
    else
      let offset ← offsetOf? (s.dropWhile isSpace)
      some { year, month, day, time?, micro, offset? := some offset }

def withoutBreak (s : Text) : Text := (Text.stripEnd? ['\n'] s).getD s

/-- A date, and a time behind it; a line end may follow. -/
def Stamp.read? (s : Text) : Option Stamp := Stamp.ofLine? (withoutBreak s)

/-- A date on its full places, or a date and a time. -/
def isTime (s : Text) : Bool :=
  match Stamp.ofLine? s with
  | some stamp => stamp.time?.isSome || s.length = 10
  | none => false

/-- A part of a date or time that is out of its range. -/
def outOfRange {α : Type} (part : CalendarPart) : Except Error α := wrongScalar (.calendar part)

/-- The day that a stamp gives. -/
def Stamp.date (s : Stamp) : Except Error Date :=
  if s.year = 0 then outOfRange (.year s.year)
  else if s.month < 1 || 12 < s.month then outOfRange .month
  else if s.day < 1 || daysOf s.year s.month < s.day then outOfRange .day
  else .ok ⟨s.year, s.month, s.day⟩

/-- The day or moment that a stamp gives; an offset is less than a day. -/
def Stamp.value (s : Stamp) : Except Error Value :=
  match s.time? with
  | none => s.date.map .date
  | some (hour, minute, second) => do
    if let some n := s.offset? then
      if 1440 ≤ n.natAbs then outOfRange (.offset n)
    let date ← s.date
    if 24 ≤ hour then outOfRange .hour
    if 60 ≤ minute then outOfRange .minute
    if 60 ≤ second then outOfRange .second
    return .moment { date, hour, minute, second, micro := s.micro, offset? := s.offset? }

end ApiFlow.Yaml
