import ApiFlow.Number.Double

/-!
# Decimal arithmetic with 28 digits

A decimal is an integer times a power of ten.  Sums, differences, products and quotients are exact up to 28
significant digits and rounded there to the nearest, a tie going to the even digit.

The exponents have no bounds.  Decimal arithmetic usually overflows at 10^1000000; the numbers of a flow are taken to stay
below that.

* `ofLiteral?` reads a plain decimal literal exactly, however long it is.
* `round` keeps 28 digits.
* `toDouble` gives the nearest double.
-/

set_option autoImplicit false

namespace ApiFlow

/-- The number `coefficient * 10 ^ exponent`. -/
structure Decimal where
  coefficient : Int
  exponent : Int
  deriving DecidableEq, Repr

namespace Decimal

/-- The number of significant digits that a result keeps. -/
def precision : Nat := 28

/-- The number of decimal digits of a natural number; zero has one. -/
def digitCount (n : Nat) : Nat := (Nat.toDigits 10 n).length

/-- Rounds a quotient to the nearest integer, a tie to the even one, keeping the sign of `n`. -/
def roundSigned (n : Int) (d : Nat) : Int := Double.signed (decide (n < 0)) (Double.roundQuotient n.natAbs d)

/-- Keeps 28 digits. -/
def round (x : Decimal) : Decimal :=
  let excess := digitCount x.coefficient.natAbs - precision
  if excess = 0 then x
  else
    let c := roundSigned x.coefficient (tenTo excess)
    if digitCount c.natAbs > precision then ⟨c / 10, x.exponent + excess + 1⟩
    else ⟨c, x.exponent + excess⟩

/-- The coefficient over a smaller exponent. -/
def atExponent (x : Decimal) (low : Int) : Int := x.coefficient * (tenTo (x.exponent - low).toNat : Int)

/-- The sum, rounded. -/
def add (x y : Decimal) : Decimal :=
  let low := min x.exponent y.exponent
  round ⟨x.atExponent low + y.atExponent low, low⟩

/-- The difference, rounded. -/
def sub (x y : Decimal) : Decimal := add x ⟨-y.coefficient, y.exponent⟩

/-- The product, rounded. -/
def mul (x y : Decimal) : Decimal := round ⟨x.coefficient * y.coefficient, x.exponent + y.exponent⟩

/-- The quotient by a number other than zero, rounded.  The dividend is widened until the quotient has 30 digits or
more; a remainder then counts as one more digit, which keeps ties and near ties apart. -/
def div (x y : Decimal) : Decimal :=
  let num := x.coefficient.natAbs
  let den := y.coefficient.natAbs
  let shift := digitCount den + precision + 2 - digitCount num
  let wide := num * tenTo shift
  let q := wide / den
  let sticky := if wide % den = 0 then q * 10 else q * 10 + 1
  round ⟨Double.signed (decide (x.coefficient < 0) != decide (y.coefficient < 0)) sticky, x.exponent - y.exponent - shift - 1⟩

def isZero (x : Decimal) : Bool := x.coefficient = 0

/-- The digit values of a text that holds nothing but decimal digits. -/
def allDigits? (s : Text) : Option (List Nat) := s.mapM Text.decimalValue?

/-- Reads a literal: an optional sign, then digits, digits with a fraction, or a fraction alone. -/
def ofLiteral? (text : Text) : Option Decimal := do
  let (negative, body) := Integer.signOf text
  match Text.cutAt? '.' body with
  | none =>
    let whole ← allDigits? body
    if whole.isEmpty then none
    some ⟨Double.signed negative (Integer.valueOf whole), 0⟩
  | some (whole, fraction) =>
    let whole ← allDigits? whole
    let fraction ← allDigits? fraction
    if fraction.isEmpty then none
    some ⟨Double.signed negative (Integer.valueOf (whole ++ fraction)), -(fraction.length : Int)⟩

def toDouble (x : Decimal) : Double :=
  Double.ofDecimal (decide (x.coefficient < 0)) x.coefficient.natAbs x.exponent

end Decimal

end ApiFlow
