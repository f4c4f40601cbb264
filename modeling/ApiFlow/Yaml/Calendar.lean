import ApiFlow.Yaml.Error

/-!
# Dates and moments

The days of the calendar and the moments of a day.  A moment may say how far its clock is ahead of universal time; two
that do are the same if they are the same instant.

* `Date.text` and `Moment.text` are their texts; `Date.nested` and `Moment.nested` are their forms inside lists.
* `Moment.same` is the equality of moments.
-/

set_option autoImplicit false

namespace ApiFlow.Yaml

structure Date where
  year : Nat
  month : Nat
  day : Nat
  deriving DecidableEq, Repr

/-- A moment of a day; the offset from universal time is in minutes. -/
structure Moment where
  date : Date
  hour : Nat
  minute : Nat
  second : Nat
  micro : Nat := 0
  offset? : Option Int := none
  deriving DecidableEq, Repr

/-- Whether a year has a leap day. -/
def isLeap (year : Nat) : Bool := year % 4 = 0 && (year % 100 != 0 || year % 400 = 0)

def daysOf (year month : Nat) : Nat :=
  if month = 2 then if isLeap year then 29 else 28
  else if [4, 6, 9, 11].contains month then 30
  else 31

/-- A number on a given number of places. -/
def padded (width n : Nat) : Text :=
  let digits := Text.ofNat n
  List.replicate (width - digits.length) '0' ++ digits

def numberList (numbers : List Nat) : Text := Text.join ", " (numbers.map Text.ofNat)

namespace Date

def text (d : Date) : Text := padded 4 d.year ++ '-' :: padded 2 d.month ++ '-' :: padded 2 d.day

def nested (d : Date) : Text := "datetime.date(" ++ numberList [d.year, d.month, d.day] ++ ")"

/-- The number of days in front of a date, from the first day of the first year on. -/
def daysBefore (d : Date) : Nat :=
  let years := d.year - 1
  let months := (List.range (d.month - 1)).map fun m => daysOf d.year (m + 1)
  365 * years + years / 4 - years / 100 + years / 400 + months.foldl (· + ·) 0 + (d.day - 1)

end Date

/-- An offset with its sign. -/
def offsetText (minutes : Int) : Text :=
  (if minutes < 0 then '-' else '+') :: padded 2 (minutes.natAbs / 60) ++ ':' :: padded 2 (minutes.natAbs % 60)

def offsetNested (minutes : Int) : Text :=
  if minutes = 0 then "datetime.timezone.utc" else "datetime.timezone(" ++ spanText minutes ++ ")"

namespace Moment

/-- A moment with a blank between date and time. -/
def text (m : Moment) : Text :=
  m.date.text ++ ' ' :: padded 2 m.hour ++ ':' :: padded 2 m.minute ++ ':' :: padded 2 m.second
    ++ (if m.micro = 0 then [] else '.' :: padded 6 m.micro) ++ (m.offset?.map offsetText).getD []

/-- The parts of a moment behind the minute that are not zero at the end. -/
def tail (m : Moment) : List Nat :=
  if m.micro != 0 then [m.second, m.micro] else if m.second != 0 then [m.second] else []

def nested (m : Moment) : Text :=
  "datetime.datetime(" ++ numberList ([m.date.year, m.date.month, m.date.day, m.hour, m.minute] ++ m.tail)
    ++ ((m.offset?.map fun o => ", tzinfo=" ++ offsetNested o).getD []) ++ ")"

/-- The number of seconds in front of a moment by its own clock, and the millionths of a second behind them. -/
def clock (m : Moment) : Nat × Nat :=
  (((m.date.daysBefore * 24 + m.hour) * 60 + m.minute) * 60 + m.second, m.micro)

/-- Whether two moments are equal: by their clocks, or as instants if both have an offset. -/
def same (m n : Moment) : Bool :=
  match m.offset?, n.offset? with
  | none, none => m.clock = n.clock
  | some a, some b => (m.clock.1 : Int) - 60 * a = n.clock.1 - 60 * b && m.micro = n.micro
  | _, _ => false

end Moment

end ApiFlow.Yaml
