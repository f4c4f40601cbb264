import ApiFlow.Number.Double

/-!
# The decimal text of a double

The shortest decimal that reads back as the same double, and of the shortest the nearest.  For one digit, then two,
up to seventeen, the two neighbours of the value on that decimal grid are tried; the first grid with a neighbour
inside the interval of reals that round to the double gives the digits.

* `shortest` gives the digits and the power of ten of the last one.
* `text` writes a double: positional notation for powers from -4 to 15, an exponent of two digits or more otherwise.
* `plain` writes it positionally whatever its size, and integers without a point.
* `sixDigits` rounds to six significant digits.
-/

set_option autoImplicit false

namespace ApiFlow.Double

/-- Whether `a / b < 10 ^ k`. -/
def belowPower (a b : Nat) (k : Int) : Bool := a * tenTo (-k).toNat < b * tenTo k.toNat

/-- The power of ten of the first digit of `a / b`, for positive numbers. -/
def leadingPower (a b : Nat) : Int :=
  let guess : Int := (((a.log2 : Int) - b.log2) * 30103) / 100000
  if belowPower a b guess then guess - 1
  else if belowPower a b (guess + 1) then guess
  else if belowPower a b (guess + 2) then guess + 1
  else guess + 2

/-- A positive finite double as a quotient, with the distances to the ends of its rounding interval: all four are
multiples of the same quarter unit. -/
structure Interval where
  value : Nat
  below : Nat
  above : Nat
  den : Nat
  closed : Bool

/-- The rounding interval of `m * 2 ^ e`. -/
def Interval.of (m : Nat) (e : Int) : Interval where
  value := 4 * m * twoTo e.toNat
  below := (if m = twoTo 52 && minExponent < e then 1 else 2) * twoTo e.toNat
  above := 2 * twoTo e.toNat
  den := 4 * twoTo (-e).toNat
  closed := m % 2 = 0

/-- Whether `digits * 10 ^ power` rounds to the double. -/
def Interval.holds (i : Interval) (digits : Nat) (power : Int) : Bool :=
  let point := digits * tenTo power.toNat * i.den
  let unit := tenTo (-power).toNat
  let low := (i.value - i.below) * unit
  let high := (i.value + i.above) * unit
  if i.closed then low ≤ point && point ≤ high else low < point && point < high

/-- Searches the grids of `have` digits and more for a point that rounds to the double; `tries` grids are left. -/
def Interval.search (i : Interval) (lead : Int) : (tries places : Nat) → Nat × Int
  | 0, places => (i.value * tenTo places / i.den, -(places : Int))
  | tries + 1, places =>
    let power := lead - places + 1
    let num := i.value * tenTo (-power).toNat
    let den := i.den * tenTo power.toNat
    let q := num / den
    let lowHit := i.holds q power && q != 0
    let highHit := i.holds (q + 1) power
    if lowHit && highHit then
      (if 2 * (num % den) < den || (2 * (num % den) = den && q % 2 = 0) then q else q + 1, power)
    else if lowHit then (q, power)
    else if highHit then (q + 1, power)
    else i.search lead tries (places + 1)

/-- Drops the zeros at the end of a row of digits, and counts them into the power. -/
def dropZeros : (fuel : Nat) → Nat → Int → Nat × Int
  | 0, n, power => (n, power)
  | fuel + 1, n, power => if n % 10 = 0 && n != 0 then dropZeros fuel (n / 10) (power + 1) else (n, power)

/-- The digits of the shortest decimal that reads back as `m * 2 ^ e`, and the power of ten of the last. -/
def shortest (m : Nat) (e : Int) : Nat × Int :=
  let i := Interval.of m e
  let (n, power) := i.search (leadingPower i.value i.den) 17 1
  dropZeros 20 n power

/-- Digits in positional notation: zeros are filled in up to the point or behind it; `point` asks for a fraction
of at least one digit. -/
def positional (digits : Text) (power : Int) (point : Bool) : Text :=
  if 0 ≤ power then
    digits ++ List.replicate power.toNat '0' ++ (if point then ".0".toList else [])
  else
    let places := (-power).toNat
    let padded := List.replicate (places + 1 - digits.length) '0' ++ digits
    padded.take (padded.length - places) ++ '.' :: padded.drop (padded.length - places)

/-- Digits with one before the point and the exponent of ten, which has a sign and at least two digits. -/
def scientific (digits : Text) (power : Int) : Text :=
  let exponent := power + digits.length - 1
  let size := Text.ofNat exponent.natAbs
  digits.take 1 ++ (if digits.length > 1 then '.' :: digits.drop 1 else [])
    ++ 'e' :: (if exponent < 0 then '-' else '+') :: (if size.length < 2 then '0' :: size else size)

def signText (negative : Bool) : Text := if negative then ['-'] else []

def infinityText (negative : Bool) : Text := signText negative ++ "inf"

/-- The text of a double: the shortest decimal that reads back. -/
def text : Double → Text
  | .nan => "nan"
  | .infinite negative => infinityText negative
  | .finite negative 0 _ => signText negative ++ "0.0"
  | .finite negative m e =>
    let (n, power) := shortest m e
    let digits := Text.ofNat n
    let leading := power + digits.length - 1
    signText negative ++
      if -4 ≤ leading && leading < 16 then positional digits power true else scientific digits power

/-- The text of a double without an exponent; an integer has no point. -/
def plain : Double → Text
  | .nan => "nan"
  | .infinite negative => infinityText negative
  | .finite negative m e =>
    if isInteger (.finite negative m e) then
      Text.ofInt ((truncate? (.finite negative m e)).getD 0)
    else
      let (n, power) := shortest m e
      signText negative ++ positional (Text.ofNat n) power false

/-- The text of a double rounded to six significant digits, without zeros at the end. -/
def sixDigits : Double → Text
  | .nan => "nan"
  | .infinite negative => infinityText negative
  | .finite negative 0 _ => signText negative ++ "0"
  | .finite negative m e =>
    let num := m * twoTo e.toNat
    let den := twoTo (-e).toNat
    let lead := leadingPower num den
    let power := lead - 5
    let rounded := roundQuotient (num * tenTo (-power).toNat) (den * tenTo power.toNat)
    let (n, power) := dropZeros 20 rounded power
    let digits := Text.ofNat n
    let leading := power + digits.length - 1
    signText negative ++
      if -4 ≤ leading && leading < 6 then positional digits power false else scientific digits power

end ApiFlow.Double
