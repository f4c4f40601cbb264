import ApiFlow.Number.Decimal
import ApiFlow.Proofs.Number.Digits
import Mathlib.Data.Rat.Cast.Order

/-!
# Decimal literals and decimals that are integers

A literal is an optional sign and a row of decimal digits of any script, which may go on behind a point or begin with one.
It stands for a rational number, and it is read without rounding.

An integer below 10^28 has no more digits than arithmetic keeps.  Where it is written with zeros behind a point it may
have more, and then rounding drops some of these zeros and nothing else.  So sums, differences and products are exact as
long as they stay below that bound, however many digits the two numbers have that they are made of.

* `Literal` : a literal, with its text and its value.
* `Decimal.value` : the number that a decimal stands for.
* `ofLiteral?_eq_some_iff`, `value_decimal` : which texts are read as literals, and what is read.
* `IsWhole` : a decimal that is an integer, and `isWhole_decimal` : literals that stand for integers.
* `IsWhole.round` : rounding keeps it.
* `IsWhole.add`, `IsWhole.sub`, `IsWhole.mul` : exact results.
-/

set_option autoImplicit false

namespace ApiFlow

/-- A decimal literal: a sign or none, then digits, digits with a fraction, or a fraction alone. -/
structure Literal where
  sign : Text
  whole : Text
  fraction? : Option Text
  signs : sign ∈ [[], ['+'], ['-']]
  filled : fraction? = none → whole ≠ []
  wholeDigits : ∀ c ∈ whole, Text.isDecimal c = true
  fractionDigits : ∀ f ∈ fraction?, f ≠ [] ∧ ∀ c ∈ f, Text.isDecimal c = true

namespace Literal

/-- The digits behind the point. -/
def fraction (l : Literal) : Text := l.fraction?.getD []

/-- The literal without its sign. -/
def body (l : Literal) : Text :=
  match l.fraction? with
  | none => l.whole
  | some f => l.whole ++ '.' :: f

/-- The literal as it is written. -/
def text (l : Literal) : Text := l.sign ++ l.body

/-- The number that the literal stands for. -/
def value (l : Literal) : ℚ :=
  (if l.sign = ['-'] then -1 else 1) * Integer.spelled (l.whole ++ l.fraction) / 10 ^ l.fraction.length

/-- The decimal that is read. -/
def decimal (l : Literal) : Decimal :=
  ⟨Double.signed (decide (l.sign = ['-'])) (Integer.spelled (l.whole ++ l.fraction)), -(l.fraction.length : Int)⟩

end Literal

/-- The number that a decimal stands for. -/
def Decimal.value (x : Decimal) : ℚ := x.coefficient * tenTo x.exponent.toNat / tenTo (-x.exponent).toNat

/-! ## Signs and digits -/

/-- A text is a sign or none and what follows it. -/
theorem exists_sign (t : Text) : ∃ sign ∈ [[], ['+'], ['-']], sign ++ (Integer.signOf t).2 = t := by
  unfold Integer.signOf
  split
  · exact ⟨['-'], by decide, rfl⟩
  · exact ⟨['+'], by decide, rfl⟩
  · exact ⟨[], by decide, rfl⟩

theorem signOf_append {sign body : Text} (signs : sign ∈ [[], ['+'], ['-']])
    (unsigned : ∀ c ∈ body.head?, c ≠ '+' ∧ c ≠ '-') :
    Integer.signOf (sign ++ body) = (decide (sign = ['-']), body) := by
  simp only [List.mem_cons, List.not_mem_nil, or_false] at signs
  rcases signs with rfl | rfl | rfl
  · unfold Integer.signOf
    rw [List.nil_append]
    split
    · exact absurd rfl (unsigned '-' rfl).2
    · exact absurd rfl (unsigned '+' rfl).1
    · rfl
  · rfl
  · rfl

/-- A row of decimal digits, and nothing else, is read as its values. -/
theorem allDigits?_eq_some_iff {s : Text} {digits : List Nat} :
    Decimal.allDigits? s = some digits ↔
      (∀ c ∈ s, Text.isDecimal c = true) ∧ digits = s.filterMap Text.decimalValue? := by
  induction s generalizing digits with
  | nil =>
      have none : Decimal.allDigits? [] = some [] := rfl
      rw [none, Option.some.injEq, List.filterMap_nil]
      exact ⟨fun same => ⟨List.forall_mem_nil _, same.symm⟩, fun same => same.2.symm⟩
  | cons c s ih =>
      have opened : Decimal.allDigits? (c :: s) =
          (Text.decimalValue? c).bind fun d => (Decimal.allDigits? s).bind fun more => some (d :: more) := by
        rw [Decimal.allDigits?, List.mapM_cons]
        rfl
      rw [opened]
      cases value : Text.decimalValue? c with
      | none => simp [Text.isDecimal, value]
      | some d =>
          rw [Option.bind_some, List.forall_mem_cons, List.filterMap_cons_some value]
          constructor
          · intro read
            obtain ⟨more, rest, same⟩ := Option.bind_eq_some_iff.mp read
            obtain ⟨decimal, rfl⟩ := ih.mp rest
            exact ⟨⟨by simp [Text.isDecimal, value], decimal⟩, (Option.some.inj same).symm⟩
          · rintro ⟨⟨-, decimal⟩, rfl⟩
            rw [ih.mpr ⟨decimal, rfl⟩, Option.bind_some]

theorem filterMap_decimal_isEmpty {s : Text} (decimal : ∀ c ∈ s, Text.isDecimal c = true) :
    (s.filterMap Text.decimalValue?).isEmpty = s.isEmpty := by
  have length : (s.filterMap Text.decimalValue?).length = s.length := List.filterMap_length_eq_length.mpr decimal
  rw [Bool.eq_iff_iff, List.isEmpty_iff_length_eq_zero, List.isEmpty_iff_length_eq_zero, length]

/-! ## Reading a literal -/

namespace Literal

theorem mem_body {l : Literal} {c : Char} (member : c ∈ l.body) : Text.isDecimal c = true ∨ c = '.' := by
  unfold body at member
  split at member
  · exact .inl (l.wholeDigits c member)
  · rename_i f fraction
    simp only [List.mem_append, List.mem_cons] at member
    rcases member with front | point | back
    · exact .inl (l.wholeDigits c front)
    · exact .inr point
    · exact .inl ((l.fractionDigits f fraction).2 c back)

theorem signOf_text (l : Literal) : Integer.signOf l.text = (decide (l.sign = ['-']), l.body) := by
  refine signOf_append l.signs fun c first => ?_
  constructor <;> rintro rfl <;> rcases mem_body (List.mem_of_mem_head? first) with digit | point
  · exact absurd digit (by decide)
  · exact absurd point (by decide)
  · exact absurd digit (by decide)
  · exact absurd point (by decide)

/-- **A literal is read without rounding.** -/
theorem ofLiteral?_text (l : Literal) : Decimal.ofLiteral? l.text = some l.decimal := by
  have noPoint : '.' ∉ l.whole := fun member => absurd (l.wholeDigits '.' member) (by decide)
  have digits := allDigits?_eq_some_iff.mpr ⟨l.wholeDigits, rfl⟩
  rw [Decimal.ofLiteral?, signOf_text, body]
  dsimp only
  cases fraction : l.fraction? with
  | none =>
      have filled : (l.whole.filterMap Text.decimalValue?).isEmpty = false := by
        rw [filterMap_decimal_isEmpty l.wholeDigits]
        simpa using l.filled fraction
      dsimp only
      rw [Text.cutAt?_of_not_mem noPoint]
      dsimp only
      rw [digits]
      rw [Option.bind_eq_bind, Option.bind_some, filled, decimal, Literal.fraction, fraction, Option.getD_none,
        List.append_nil]
      rfl
  | some f =>
      obtain ⟨someDigits, decimals⟩ := l.fractionDigits f fraction
      have filled : (f.filterMap Text.decimalValue?).isEmpty = false := by
        rw [filterMap_decimal_isEmpty decimals]
        simpa using someDigits
      have length : (f.filterMap Text.decimalValue?).length = f.length := List.filterMap_length_eq_length.mpr decimals
      dsimp only
      rw [Text.cutAt?_append noPoint]
      dsimp only
      rw [digits, allDigits?_eq_some_iff.mpr ⟨decimals, rfl⟩]
      rw [Option.bind_eq_bind, Option.bind_some, Option.bind_eq_bind, Option.bind_some, filled, length, decimal,
        Literal.fraction, fraction, Option.getD_some, Integer.spelled, List.filterMap_append]
      rfl

/-- **What is read as a literal is one.** -/
theorem exists_of_ofLiteral? {t : Text} {x : Decimal} (read : Decimal.ofLiteral? t = some x) :
    ∃ l : Literal, l.text = t ∧ l.decimal = x := by
  obtain ⟨sign, signs, whole⟩ := exists_sign t
  have known {l : Literal} (same : l.text = t) : l.decimal = x := by
    rw [← same, ofLiteral?_text] at read
    exact Option.some.inj read
  suffices ∃ l : Literal, l.text = t from this.imp fun l same => ⟨same, known same⟩
  unfold Decimal.ofLiteral? at read
  dsimp only at read
  split at read
  · rename_i noPoint
    obtain ⟨digits, all, rest⟩ := Option.bind_eq_some_iff.mp read
    obtain ⟨decimals, rfl⟩ := allDigits?_eq_some_iff.mp all
    have filled : (Integer.signOf t).2 ≠ [] := by
      intro none
      rw [none] at rest
      cases rest
    exact ⟨⟨sign, (Integer.signOf t).2, none, signs, fun _ => filled, decimals, nofun⟩, whole⟩
  · rename_i front back point
    obtain ⟨parts, -⟩ := Text.cutAt?_eq_some_iff.mp point
    obtain ⟨digits, all, rest⟩ := Option.bind_eq_some_iff.mp read
    obtain ⟨decimals, rfl⟩ := allDigits?_eq_some_iff.mp all
    obtain ⟨digits', all', rest⟩ := Option.bind_eq_some_iff.mp rest
    obtain ⟨decimals', rfl⟩ := allDigits?_eq_some_iff.mp all'
    have filled : back ≠ [] := by
      intro none
      rw [none] at rest
      cases rest
    refine ⟨⟨sign, front, some back, signs, nofun, decimals, ?_⟩, ?_⟩
    · rintro _ ⟨⟩
      exact ⟨filled, decimals'⟩
    · exact (congrArg (sign ++ ·) parts.symm).trans whole

/-- **Which texts are read as literals**, and what is read. -/
theorem ofLiteral?_eq_some_iff {t : Text} {x : Decimal} :
    Decimal.ofLiteral? t = some x ↔ ∃ l : Literal, l.text = t ∧ l.decimal = x := by
  refine ⟨exists_of_ofLiteral?, ?_⟩
  rintro ⟨l, rfl, rfl⟩
  exact l.ofLiteral?_text

/-! ## What a literal stands for -/

theorem value_decimal (l : Literal) : l.decimal.value = l.value := by
  have up : (-(l.fraction.length : Int)).toNat = 0 := by omega
  have down : (- -(l.fraction.length : Int)).toNat = l.fraction.length := by omega
  rw [Decimal.value, decimal, up, down, value, Double.signed]
  by_cases minus : l.sign = ['-'] <;> simp [minus, tenTo]

theorem isZero_decimal (l : Literal) : l.decimal.isZero = true ↔ l.value = 0 := by
  rw [← value_decimal, Decimal.value, Decimal.isZero]
  have some (n : Nat) : tenTo n ≠ 0 := Nat.ne_of_gt (Nat.pow_pos (by decide))
  simp [some]

end Literal

namespace Decimal

/-- The decimal is the integer `n`, written with a fraction of zeros or without one. -/
structure IsWhole (x : Decimal) (n : Int) : Prop where
  fraction : x.exponent ≤ 0
  coefficient : x.coefficient = n * tenTo (-x.exponent).toNat

variable {x y : Decimal} {n m : Int}

theorem tenTo_pos (k : Nat) : 0 < tenTo k := Nat.pow_pos (by decide)

theorem tenTo_add (j k : Nat) : tenTo (j + k) = tenTo j * tenTo k := Nat.pow_add 10 j k

theorem IsWhole.value_eq (whole : x.IsWhole n) : x.value = n := by
  have up : x.exponent.toNat = 0 := Int.toNat_eq_zero.mpr whole.fraction
  have some : (tenTo (-x.exponent).toNat : ℚ) ≠ 0 := Nat.cast_ne_zero.mpr (Nat.ne_of_gt (tenTo_pos _))
  have one : tenTo 0 = 1 := rfl
  rw [value, whole.coefficient, up, one]
  push_cast
  rw [mul_one, mul_div_assoc, div_self some, mul_one]

/-! ## Rounding -/

/-- A multiple is divided without rounding. -/
theorem roundQuotient_mul {s : Nat} (positive : 0 < s) (q : Nat) : Double.roundQuotient (q * s) s = q := by
  simp [Double.roundQuotient, Nat.mul_div_cancel q positive, positive]

theorem roundSigned_mul {s : Nat} (positive : 0 < s) (q : Int) : roundSigned (q * s) s = q := by
  have size : (q * s).natAbs = q.natAbs * s := Int.natAbs_mul q s
  have sign : q * s < 0 ↔ q < 0 := by
    constructor
    · exact fun less => Int.not_le.mp fun some => Int.not_lt.mpr (Int.mul_nonneg some (Int.natCast_nonneg s)) less
    · exact fun less => Int.mul_neg_of_neg_of_pos less (Int.natCast_pos.mpr positive)
  rw [roundSigned, size, roundQuotient_mul positive, Double.signed, decide_eq_decide.mpr sign]
  by_cases negative : q < 0
  · rw [if_pos (decide_eq_true negative)]
    omega
  · rw [if_neg (by simpa using negative)]
    omega

theorem digitCount_le_iff {k : Nat} (some : 0 < k) (n : Nat) : digitCount n ≤ k ↔ n < tenTo k :=
  Nat.length_toDigits_le_iff (by decide) some

/-- **Rounding keeps an integer below 10^28.** -/
theorem IsWhole.round (whole : x.IsWhole n) (short : n.natAbs < tenTo precision) : x.round.IsWhole n := by
  obtain ⟨fraction, coefficient⟩ := whole
  rw [Decimal.round]
  dsimp only
  generalize excess : digitCount x.coefficient.natAbs - precision = e
  generalize places : (-x.exponent).toNat = k at coefficient
  by_cases none : e = 0
  · rw [if_pos none]
    exact ⟨fraction, places ▸ coefficient⟩
  · have size : x.coefficient.natAbs = n.natAbs * tenTo k := by rw [coefficient, Int.natAbs_mul, Int.natAbs_natCast]
    -- the digits beyond 28 are zeros of the fraction
    have zeros : e ≤ k := by
      have bound : x.coefficient.natAbs < tenTo (precision + k) := by
        rw [size, tenTo_add]
        exact (Nat.mul_lt_mul_right (tenTo_pos k)).mpr short
      have digits := (digitCount_le_iff (by rw [precision]; omega) _).mpr bound
      omega
    have kept : x.coefficient = n * tenTo (k - e) * tenTo e := by
      rw [coefficient, Int.mul_assoc, ← Int.natCast_mul, ← tenTo_add, Nat.sub_add_cancel zeros]
    have fits : ¬ digitCount (n * tenTo (k - e)).natAbs > precision := by
      have total : x.coefficient.natAbs < tenTo (precision + e) :=
        (digitCount_le_iff (by rw [precision]; omega) _).mp (by omega)
      rw [kept, Int.natAbs_mul, Int.natAbs_natCast, tenTo_add] at total
      exact Nat.not_lt.mpr ((digitCount_le_iff (by decide) _).mpr (Nat.lt_of_mul_lt_mul_right total))
    rw [if_neg none, kept, roundSigned_mul (tenTo_pos e), if_neg fits]
    refine ⟨by dsimp only; omega, ?_⟩
    dsimp only
    rw [show (-(x.exponent + (e : Int))).toNat = k - e by omega]

/-! ## Arithmetic -/

/-- The coefficient of an integer over a smaller exponent. -/
theorem IsWhole.atExponent (whole : x.IsWhole n) {low : Int} (below : low ≤ x.exponent) :
    x.atExponent low = n * tenTo (-low).toNat := by
  have fraction := whole.fraction
  rw [Decimal.atExponent, whole.coefficient, Int.mul_assoc, ← Int.natCast_mul, ← tenTo_add]
  rw [show (-x.exponent).toNat + (x.exponent - low).toNat = (-low).toNat by omega]

theorem IsWhole.add (first : x.IsWhole n) (second : y.IsWhole m) (short : (n + m).natAbs < tenTo precision) :
    (x.add y).IsWhole (n + m) := by
  have low := first.fraction
  refine IsWhole.round ⟨by dsimp only; omega, ?_⟩ short
  dsimp only
  rw [first.atExponent (Int.min_le_left _ _), second.atExponent (Int.min_le_right _ _), ← Int.add_mul]

theorem IsWhole.sub (first : x.IsWhole n) (second : y.IsWhole m) (short : (n - m).natAbs < tenTo precision) :
    (x.sub y).IsWhole (n - m) := by
  have negative : IsWhole ⟨-y.coefficient, y.exponent⟩ (-m) :=
    ⟨second.fraction, by dsimp only; rw [second.coefficient, Int.neg_mul]⟩
  rw [Int.sub_eq_add_neg] at short ⊢
  exact first.add negative short

theorem IsWhole.mul (first : x.IsWhole n) (second : y.IsWhole m) (short : (n * m).natAbs < tenTo precision) :
    (x.mul y).IsWhole (n * m) := by
  have one := first.fraction
  have two := second.fraction
  refine IsWhole.round ⟨by dsimp only; omega, ?_⟩ short
  dsimp only
  rw [first.coefficient, second.coefficient,
    show (-(x.exponent + y.exponent)).toNat = (-x.exponent).toNat + (-y.exponent).toNat by omega, tenTo_add]
  push_cast
  exact mul_mul_mul_comm _ _ _ _

end Decimal

/-- **A literal that stands for an integer is one.** -/
theorem Literal.isWhole_decimal {l : Literal} {n : Int} (same : l.value = n) : l.decimal.IsWhole n := by
  have fraction : l.decimal.exponent ≤ 0 := by
    rw [decimal]
    dsimp only
    omega
  refine ⟨fraction, ?_⟩
  have up : l.decimal.exponent.toNat = 0 := Int.toNat_eq_zero.mpr fraction
  have some : (tenTo (-l.decimal.exponent).toNat : ℚ) ≠ 0 := Nat.cast_ne_zero.mpr (Nat.ne_of_gt (Decimal.tenTo_pos _))
  rw [← value_decimal, Decimal.value, up, div_eq_iff some] at same
  have one : tenTo 0 = 1 := rfl
  rw [one, Nat.cast_one, mul_one] at same
  exact_mod_cast same

end ApiFlow
