import ApiFlow.Number.Integer

/-!
# Double precision numbers in exact arithmetic

A double is a sign, a mantissa below 2^53 and a power of two, an infinity, or no number at all.  Every operation is
carried out on exact integers and rounded once, to the nearest double, a tie going to the even mantissa.

* `ofRatio` rounds a quotient of natural numbers; reading, sums, products and quotients all end in it.
* `compare?` orders doubles by value; no number is ordered with nothing.
* `truncate?` drops the fraction.
* `gap` counts the doubles between two doubles, so it bounds every strictly growing sequence of them.
-/

set_option autoImplicit false

namespace ApiFlow

/-- A double precision number. -/
inductive Double where
  | finite (negative : Bool) (mantissa : Nat) (exponent : Int)
  | infinite (negative : Bool)
  | nan
  deriving DecidableEq, Repr

namespace Double

def minExponent : Int := -1074

def maxExponent : Int := 971

def zero (negative : Bool) : Double := .finite negative 0 minExponent

/-- The nearest natural number to a quotient; a tie goes to the even one. -/
def roundQuotient (num den : Nat) : Nat :=
  let q := num / den
  let r := num % den
  if 2 * r < den then q else if den < 2 * r then q + 1 else q + q % 2

/-- The numerator and denominator of `num / den / 2 ^ exponent`. -/
def scaled (num den : Nat) (exponent : Int) : Nat × Nat :=
  (num * twoTo (-exponent).toNat, den * twoTo exponent.toNat)

/-- The nearest double to `num / den`, for a positive `den`. -/
def ofRatio (negative : Bool) (num den : Nat) : Double :=
  if num = 0 then zero negative
  else
    let low : Int := (num.log2 : Int) - den.log2 - 53
    let (n, d) := scaled num den low
    let fitted := if n / d < twoTo 53 then low else low + 1
    let exponent := if fitted < minExponent then minExponent else fitted
    let (n, d) := scaled num den exponent
    let m := roundQuotient n d
    let (m, exponent) := if m = twoTo 53 then (twoTo 52, exponent + 1) else (m, exponent)
    if maxExponent < exponent then .infinite negative else .finite negative m exponent

/-- The nearest double to an integer; an infinity where it is too large. -/
def ofInt (i : Int) : Double := ofRatio (decide (i < 0)) i.natAbs 1

/-- The nearest double to a quotient of integers with a positive divisor. -/
def ofQuotient (num : Int) (den : Nat) : Double := ofRatio (decide (num < 0)) num.natAbs den

/-- The nearest double to `digits * 10 ^ exponent`. -/
def ofDecimal (negative : Bool) (digits : Nat) (exponent : Int) : Double :=
  if digits = 0 then zero negative
  else
    let size : Int := (Nat.toDigits 10 digits).length + exponent
    if 400 < size then .infinite negative
    else if size < -400 then zero negative
    else ofRatio negative (digits * tenTo exponent.toNat) (tenTo (-exponent).toNat)

/-- The integer `n` with value `n * 2 ^ exponent`. -/
def signed (negative : Bool) (n : Nat) : Int := if negative then -(n : Int) else n

/-- The double nearest to `n * 2 ^ exponent`; `zeroSign` is the sign of an exact zero. -/
def ofScaled (zeroSign : Bool) (n : Int) (exponent : Int) : Double :=
  if n = 0 then zero zeroSign
  else ofRatio (decide (n < 0)) (n.natAbs * twoTo exponent.toNat) (twoTo (-exponent).toNat)

/-- The value of a mantissa over a smaller exponent. -/
def atExponent (negative : Bool) (m : Nat) (e low : Int) : Int := signed negative (m * twoTo (e - low).toNat)

/-- The sum, rounded once. -/
def add : Double → Double → Double
  | .nan, _ => .nan
  | _, .nan => .nan
  | .infinite a, .infinite b => if a = b then .infinite a else .nan
  | .infinite a, _ => .infinite a
  | _, .infinite b => .infinite b
  | .finite a m d, .finite b n e =>
    let low := min d e
    ofScaled (a && b) (atExponent a m d low + atExponent b n e low) low

def neg : Double → Double
  | .finite a m e => .finite (!a) m e
  | .infinite a => .infinite (!a)
  | .nan => .nan

/-- The difference, rounded once. -/
def sub (x y : Double) : Double := add x (neg y)

/-- The product, rounded once. -/
def mul : Double → Double → Double
  | .nan, _ => .nan
  | _, .nan => .nan
  | .infinite a, .infinite b => .infinite (a != b)
  | .infinite a, .finite b n _ => if n = 0 then .nan else .infinite (a != b)
  | .finite a m _, .infinite b => if m = 0 then .nan else .infinite (a != b)
  | .finite a m d, .finite b n e =>
    ofScaled (a != b) (signed (a != b) (m * n)) (d + e)

/-- The quotient of finite numbers by a non-zero finite number, rounded once. -/
def div : Double → Double → Double
  | .nan, _ => .nan
  | _, .nan => .nan
  | .infinite _, .infinite _ => .nan
  | .infinite a, .finite b _ _ => .infinite (a != b)
  | .finite a _ _, .infinite b => zero (a != b)
  | .finite a m d, .finite b n e =>
    if n = 0 then if m = 0 then .nan else .infinite (a != b)
    else
      let (p, q) := scaled m n (e - d)
      ofRatio (a != b) p q

def compare? : Double → Double → Option Ordering
  | .nan, _ => none
  | _, .nan => none
  | .infinite a, .infinite b =>
    some (if a = b then .eq else if a then .lt else .gt)
  | .infinite a, _ => some (if a then .lt else .gt)
  | _, .infinite b => some (if b then .gt else .lt)
  | .finite a m d, .finite b n e =>
    let low := min d e
    some (compare (atExponent a m d low) (atExponent b n e low))

/-- Less by value. -/
def lt (x y : Double) : Bool := compare? x y == some .lt

/-- At most by value. -/
def le (x y : Double) : Bool := compare? x y == some .lt || compare? x y == some .eq

def truncate? : Double → Option Int
  | .finite a m e =>
    some (signed a (m * twoTo e.toNat / twoTo (-e).toNat))
  | _ => none

def isInteger : Double → Bool
  | .finite _ m e => m % twoTo (-e).toNat = 0
  | _ => false

/-- The place of a number among the doubles, counted from zero; the infinities stand at the ends. -/
def rank : Double → Int
  | .finite a m e => signed a (m + (e - minExponent).toNat * twoTo 52)
  | .infinite a => signed a (twoTo 63)
  | .nan => 0

/-- How many doubles lie above `x` up to `limit`. -/
def gap (x limit : Double) : Nat := (limit.rank - x.rank).toNat

/-- The digit values of a fraction part, if one follows. -/
def fractionRun : Text → Option (List Nat × Text)
  | '.' :: s => Integer.digitRun false s
  | s => some ([], s)

/-- The exponent of a literal, if one follows; the rest must be empty. -/
def exponentPart : Text → Option Int
  | [] => some 0
  | c :: s =>
    if c = 'e' || c = 'E' then
      let (negative, body) := Integer.signOf s
      match Integer.digitRun false body with
      | some (d :: digits, []) => some (signed negative (Integer.valueOf (d :: digits)))
      | _ => none
    else none

/-- The double that a text spells: a decimal with optional fraction and exponent, or one of the names of infinity and
of no number, with blanks around it. -/
def read? (text : Text) : Option Double :=
  let (negative, body) := Integer.signOf (Text.trimNumber text)
  let name := body.map Char.toLower
  if name = "inf".toList || name = "infinity".toList then some (.infinite negative)
  else if name = "nan".toList then some .nan
  else do
    let (whole, rest) ← Integer.digitRun false body
    let (fraction, rest) ← fractionRun rest
    if whole.isEmpty && fraction.isEmpty then none
    let exponent ← exponentPart rest
    some (ofDecimal negative (Integer.valueOf (whole ++ fraction)) (exponent - fraction.length))

end Double

end ApiFlow
