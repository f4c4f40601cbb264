import ApiFlow.Number.Double
import ApiFlow.Table

/-!
# Built-in values

Names that start with a dollar sign stand for values from outside the document: random numbers and identifiers, the time,
and the environment.  They come before variables of the same name.

* `Draws` is what changes when a value is drawn: the seed of the number generator and the count of identifiers.
* `Builtins.resolve` gives the value of a name and the draws behind it.
-/

set_option autoImplicit false

namespace ApiFlow

/-- What the draws so far have left: the seed of the number generator and the number of identifiers drawn. -/
structure Draws where
  seed : Int
  drawn : Nat := 0
  deriving DecidableEq, Repr

namespace Draws

/-- The next seed of the linear congruential generator, below 2^31. -/
def nextSeed (seed : Int) : Int := (seed * 1103515245 + 12345) % (twoTo 31 : Int)

/-- A number from zero up to and without `upper`; nothing is drawn below one. -/
def number (d : Draws) (upper : Int) : Int × Draws :=
  if upper ≤ 0 then (0, d)
  else (nextSeed d.seed % upper, { d with seed := nextSeed d.seed })

end Draws

/-- The sources of built-in values: the time in nanoseconds since 1970, the environment, the identifiers and the random
strings in the order in which they are drawn, and names added by a caller. -/
structure Builtins where
  nowNs : Int
  env : Table Text
  uuid : Nat → Text
  token : Nat → Text
  added : Table Text := []

namespace Builtins

/-- The start of a name that stands for an environment variable. -/
def envMark : Text := "$env."

/-- The names with a value of their own. -/
def standardNames : List Text :=
  ["$randomInt", "$timestamp", "$unixMs", "$isoDate", "$uuid", "$randomEmail", "$randomString"]

def seconds (b : Builtins) : Int :=
  (Double.truncate? (Double.div (Double.ofInt b.nowNs) (Double.ofInt 1000000000))).getD 0

/-- The year, month and day of a day counted from the first of January 1970. -/
def civilDate (days : Int) : Int × Int × Int :=
  let z := days + 719468
  let era := Int.fdiv z 146097
  let dayOfEra := z - era * 146097
  let yearOfEra := (dayOfEra - dayOfEra / 1460 + dayOfEra / 36524 - dayOfEra / 146096) / 365
  let dayOfYear := dayOfEra - (365 * yearOfEra + yearOfEra / 4 - yearOfEra / 100)
  let shifted := (5 * dayOfYear + 2) / 153
  let day := dayOfYear - (153 * shifted + 2) / 5 + 1
  let month := if shifted < 10 then shifted + 3 else shifted - 9
  let year := yearOfEra + era * 400 + (if month ≤ 2 then 1 else 0)
  (year, month, day)

def twoDigits (n : Int) : Text :=
  let digits := Text.ofInt n
  if digits.length < 2 then '0' :: digits else digits

/-- A second since 1970 as date and time in UTC. -/
def isoDate (second : Int) : Text :=
  let days := Int.fdiv second 86400
  let rest := second - days * 86400
  let (year, month, day) := civilDate days
  Text.ofInt year ++ '-' :: twoDigits month ++ '-' :: twoDigits day ++ 'T' :: twoDigits (rest / 3600)
    ++ ':' :: twoDigits (rest / 60 % 60) ++ ':' :: twoDigits (rest % 60) ++ ['Z']

def has (b : Builtins) (name : Text) : Bool :=
  b.added.has name || standardNames.contains name || envMark.isPrefixOf name

/-- The value of a standard name, and the draws behind it. -/
def standard (b : Builtins) (name : Text) (d : Draws) : Text × Draws :=
  if name = "$randomInt".toList then
    let (n, d) := d.number 10000
    (Text.ofInt n, d)
  else if name = "$timestamp".toList then (Text.ofInt b.seconds, d)
  else if name = "$unixMs".toList then (Text.ofInt (Int.fdiv b.nowNs 1000000), d)
  else if name = "$isoDate".toList then (isoDate b.seconds, d)
  else if name = "$uuid".toList then (b.uuid d.drawn, { d with drawn := d.drawn + 1 })
  else if name = "$randomEmail".toList then
    let (n, d) := d.number 999999
    ("user" ++ Text.ofInt n ++ "@example.com", d)
  else if name = "$randomString".toList then (b.token d.drawn, { d with drawn := d.drawn + 1 })
  else ([], d)

/-- The value of a name, and the draws behind it; a name without a value is empty. -/
def resolve (b : Builtins) (name : Text) (d : Draws) : Text × Draws :=
  if envMark.isPrefixOf name then ((b.env.get? (name.drop envMark.length)).getD [], d)
  else match b.added.get? name with
    | some value => (value, d)
    | none => b.standard name d

def add (b : Builtins) (name value : Text) : Builtins := { b with added := b.added.set name value }

end Builtins

end ApiFlow
