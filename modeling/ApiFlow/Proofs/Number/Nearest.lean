import ApiFlow.Assertion.Comparison
import Mathlib.Data.Nat.Dist

/-!
# The double nearest to an integer

Integers below 2^53 are doubles.  Above, the doubles about an integer are the multiples of a power of two, and an integer
between two of them is rounded to the nearer one, and in the middle to the one with an even mantissa.

* `FitsIn`, `IsNearest` : the doubles among the natural numbers, and the rule of rounding.
* `isNearest_iff` : the rule gives one number, the nearest multiple of the spacing.
* `canonical_integer` : an integer in an assertion is written as the double nearest to it.
-/

set_option autoImplicit false

namespace ApiFlow

namespace Double

/-- The number is one of so many bits with zeros behind them. -/
def FitsIn (bits n : Nat) : Prop := ∃ m e, m < 2 ^ bits ∧ n = m * 2 ^ e

/-- The double nearest to a natural number.  Of two that are equally near it is the one with an even mantissa, which does
without the last bit. -/
structure IsNearest (n v : Nat) : Prop where
  fits : FitsIn 53 v
  closest : ∀ u, FitsIn 53 u → Nat.dist n v ≤ Nat.dist n u
  even : ∀ u, FitsIn 53 u → u ≠ v → Nat.dist n u = Nat.dist n v → FitsIn 52 v

/-- The distance of the doubles about a natural number, at least one. -/
def spacing (n : Nat) : Nat := 2 ^ (n.log2 - 52)

/-- The multiple of the spacing that a natural number is rounded to. -/
def nearest (n : Nat) : Nat := roundQuotient n (spacing n) * spacing n

variable {n s u : Nat}

/-! ## Rounding a quotient -/

theorem roundQuotient_cases (n s : Nat) : roundQuotient n s = n / s ∨ roundQuotient n s = n / s + 1 := by
  unfold roundQuotient
  dsimp only
  split
  · exact .inl rfl
  · split
    · exact .inr rfl
    · omega

theorem dist_roundQuotient (positive : 0 < s) :
    2 * Nat.dist n (roundQuotient n s * s) ≤ s ∧
      (2 * Nat.dist n (roundQuotient n s * s) = s → roundQuotient n s % 2 = 0) := by
  have whole : n / s * s + n % s = n := Nat.div_add_mod' n s
  have small : n % s < s := Nat.mod_lt n positive
  have next : (n / s + 1) * s = n / s * s + s := Nat.succ_mul _ _
  unfold roundQuotient Nat.dist
  dsimp only
  split
  · omega
  · split
    · rw [next]
      omega
    · rcases Nat.mod_two_eq_zero_or_one (n / s) with even | odd
      · rw [even, Nat.add_zero]
        omega
      · rw [odd, next]
        omega

/-! ## Doubles are multiples of the spacing -/

/-- A number of `bits + 1` bits that is at least `2 ^ bits * 2 ^ j` has `j` zeros at its end. -/
theorem FitsIn.dvd {bits j : Nat} (fits : FitsIn (bits + 1) u) (large : 2 ^ bits * 2 ^ j ≤ u) : 2 ^ j ∣ u := by
  obtain ⟨m, e, short, rfl⟩ := fits
  refine Dvd.dvd.mul_left (Nat.pow_dvd_pow 2 (Nat.not_lt.mp fun less => ?_)) m
  have below : m * 2 ^ e < 2 ^ bits * 2 ^ (e + 1) := by
    calc m * 2 ^ e < 2 ^ (bits + 1) * 2 ^ e := (Nat.mul_lt_mul_right (Nat.two_pow_pos e)).mpr short
      _ = 2 ^ bits * 2 ^ (e + 1) := by rw [← Nat.pow_add, ← Nat.pow_add, Nat.add_right_comm, Nat.add_assoc]
  have above : 2 ^ bits * 2 ^ (e + 1) ≤ 2 ^ bits * 2 ^ j :=
    Nat.mul_le_mul_left _ (Nat.pow_le_pow_right (by decide) less)
  omega

theorem FitsIn.of_lt {bits : Nat} (short : n < 2 ^ bits) : FitsIn bits n :=
  ⟨n, 0, short, by rw [Nat.pow_zero, Nat.mul_one]⟩

theorem spacing_pos (n : Nat) : 0 < spacing n := Nat.two_pow_pos _

theorem spacing_of_small (small : n < 2 ^ 53) : spacing n = 1 := by
  by_cases zero : n = 0
  · rw [zero]
    rfl
  · have short : n.log2 < 53 := (Nat.log2_lt zero).mpr small
    rw [spacing, Nat.sub_eq_zero_of_le (by omega), Nat.pow_zero]

/-- A large number is a row of 53 bits and what the spacing leaves. -/
theorem spacing_bounds (large : 2 ^ 53 ≤ n) : 2 ^ 52 * spacing n ≤ n ∧ n < 2 ^ 53 * spacing n := by
  have positive : n ≠ 0 := by omega
  have long : 52 ≤ n.log2 := by
    have := (Nat.log2_lt positive (k := 53)).not.mpr (by omega)
    omega
  have below : 2 ^ 52 * spacing n = 2 ^ n.log2 := by rw [spacing, ← Nat.pow_add, Nat.add_sub_cancel' long]
  have above : 2 ^ 53 * spacing n = 2 ^ (n.log2 + 1) := by
    rw [spacing, ← Nat.pow_add]
    congr 1
    omega
  exact ⟨below ▸ Nat.log2_self_le positive, above ▸ Nat.lt_log2_self⟩

/-! ## The nearest double -/

theorem isNearest_of_fits {v : Nat} (fits : FitsIn 53 n) : IsNearest n v ↔ v = n := by
  have none : Nat.dist n n = 0 := Nat.dist_self n
  constructor
  · intro near
    have closest := near.closest n fits
    exact (Nat.eq_of_dist_eq_zero (by omega)).symm
  · rintro rfl
    exact ⟨fits, fun u _ => by omega, fun u _ other same =>
      absurd (Nat.eq_of_dist_eq_zero (same.trans none)).symm other⟩

/-- Two multiples are together as far from a number as they are from each other. -/
theorem le_dist_multiples {k q : Nat} (other : k ≠ q) (n s : Nat) : s ≤ Nat.dist n (k * s) + Nat.dist n (q * s) := by
  have apart : 0 < Nat.dist k q := Nat.pos_of_ne_zero fun same => other (Nat.eq_of_dist_eq_zero same)
  calc s ≤ Nat.dist k q * s := Nat.le_mul_of_pos_left s apart
    _ = Nat.dist (k * s) (q * s) := (Nat.dist_mul_right k s q).symm
    _ ≤ Nat.dist (k * s) n + Nat.dist n (q * s) := Nat.dist.triangle_inequality _ _ _
    _ = Nat.dist n (k * s) + Nat.dist n (q * s) := by rw [Nat.dist_comm (k * s)]

/-- No multiple of the spacing is nearer than the one that is rounded to. -/
theorem dist_nearest_le (n k : Nat) : Nat.dist n (nearest n) ≤ Nat.dist n (k * spacing n) := by
  have half := (dist_roundQuotient (n := n) (spacing_pos n)).1
  by_cases same : k = roundQuotient n (spacing n)
  · rw [same, nearest]
  · have far := le_dist_multiples same n (spacing n)
    rw [nearest]
    omega

/-- A double is a multiple of the spacing about a large number, or it lies below them all and is farther away. -/
theorem multiple_or_farther (large : 2 ^ 53 ≤ n) (fits : FitsIn 53 u) :
    (2 ^ 52 * spacing n ≤ u ∧ spacing n ∣ u) ∨ Nat.dist n (nearest n) < Nat.dist n u := by
  obtain ⟨low, -⟩ := spacing_bounds large
  by_cases above : 2 ^ 52 * spacing n ≤ u
  · exact .inl ⟨above, fits.dvd above⟩
  · refine .inr (Nat.lt_of_le_of_lt (dist_nearest_le n (2 ^ 52)) ?_)
    unfold Nat.dist
    omega

/-- The multiple that a large number is rounded to has 53 bits at most, or 54 that are one and zeros. -/
theorem roundQuotient_le (large : 2 ^ 53 ≤ n) : roundQuotient n (spacing n) ≤ 2 ^ 53 := by
  have most : n / spacing n < 2 ^ 53 := (Nat.div_lt_iff_lt_mul (spacing_pos n)).mpr (spacing_bounds large).2
  rcases roundQuotient_cases n (spacing n) with same | same <;> omega

theorem fitsIn_multiple {bits m : Nat} (short : m ≤ 2 ^ bits) (some : 0 < bits) (j : Nat) : FitsIn bits (m * 2 ^ j) := by
  by_cases full : m = 2 ^ bits
  · exact ⟨1, bits + j, Nat.one_lt_two_pow (by omega), by rw [full, Nat.pow_add, Nat.one_mul]⟩
  · exact ⟨m, j, by omega, rfl⟩

theorem nearest_of_small (small : n < 2 ^ 53) : nearest n = n := by
  rw [nearest, spacing_of_small small, Nat.mul_one]
  simp [roundQuotient, Nat.mod_one]

/-- A number in the middle of two multiples is rounded to the even one, which does without the last bit. -/
theorem fitsIn_of_tie (large : 2 ^ 53 ≤ n) {k : Nat} (other : k * spacing n ≠ nearest n)
    (same : Nat.dist n (k * spacing n) = Nat.dist n (nearest n)) : FitsIn 52 (nearest n) := by
  have most := roundQuotient_le large
  obtain ⟨half, tie⟩ := dist_roundQuotient (n := n) (spacing_pos n)
  have differ : k ≠ roundQuotient n (spacing n) := fun equal => other (by rw [equal, nearest])
  have far := le_dist_multiples differ n (spacing n)
  have even := tie (by rw [nearest] at same; omega)
  obtain ⟨p, twice⟩ : ∃ p, roundQuotient n (spacing n) = 2 * p := ⟨roundQuotient n (spacing n) / 2, by omega⟩
  have shape : nearest n = p * 2 ^ (n.log2 - 52 + 1) := by
    rw [nearest, twice, spacing, Nat.pow_succ, Nat.mul_comm 2 p, Nat.mul_assoc, Nat.mul_comm 2]
  rw [shape]
  exact fitsIn_multiple (by omega) (by decide) _

theorem isNearest_nearest (n : Nat) : IsNearest n (nearest n) := by
  by_cases small : n < 2 ^ 53
  · exact (isNearest_of_fits (.of_lt small)).mpr (nearest_of_small small)
  · have large : 2 ^ 53 ≤ n := Nat.not_lt.mp small
    refine ⟨fitsIn_multiple (roundQuotient_le large) (by decide) _, fun u fits => ?_, fun u fits other same => ?_⟩
    · rcases multiple_or_farther large fits with ⟨-, k, rfl⟩ | farther
      · rw [Nat.mul_comm]
        exact dist_nearest_le n k
      · exact Nat.le_of_lt farther
    · rcases multiple_or_farther large fits with ⟨-, k, rfl⟩ | farther
      · rw [Nat.mul_comm (spacing n) k] at other same
        exact fitsIn_of_tie large other same
      · omega

/-- **The rule of rounding gives the nearest multiple of the spacing, and nothing else.** -/
theorem isNearest_iff {v : Nat} : IsNearest n v ↔ v = nearest n := by
  refine ⟨fun near => ?_, fun same => same ▸ isNearest_nearest n⟩
  have own := isNearest_nearest n
  by_cases small : n < 2 ^ 53
  · exact ((isNearest_of_fits (.of_lt small)).mp near).trans (nearest_of_small small).symm
  · have large : 2 ^ 53 ≤ n := Nat.not_lt.mp small
    have equal : Nat.dist n v = Nat.dist n (nearest n) :=
      Nat.le_antisymm (near.closest _ own.fits) (own.closest _ near.fits)
    refine Classical.byContradiction fun other => ?_
    -- both would have an even mantissa, and two such doubles are two spacings apart
    have twice : 2 ^ 52 * spacing n = 2 ^ 51 * 2 ^ (n.log2 - 52 + 1) := by
      rw [spacing, ← Nat.pow_add, ← Nat.pow_add]
      congr 1
      omega
    have even {u : Nat} (fits : FitsIn 53 u) (same : Nat.dist n u = Nat.dist n (nearest n)) (short : FitsIn 52 u) :
        2 ^ (n.log2 - 52 + 1) ∣ u := by
      rcases multiple_or_farther large fits with ⟨above, -⟩ | farther
      · exact short.dvd (twice ▸ above)
      · omega
    obtain ⟨a, first⟩ := even near.fits equal (near.even _ own.fits (Ne.symm other) equal.symm)
    obtain ⟨b, second⟩ := even own.fits rfl (own.even _ near.fits other equal)
    have differ : a ≠ b := fun same => other (by rw [first, second, same])
    have far := le_dist_multiples differ n (2 ^ (n.log2 - 52 + 1))
    rw [Nat.mul_comm a, Nat.mul_comm b, ← first, ← second, equal] at far
    have half := (dist_roundQuotient (n := n) (spacing_pos n)).1
    have step : 2 ^ (n.log2 - 52 + 1) = 2 * spacing n := by rw [spacing, Nat.pow_succ, Nat.mul_comm]
    have positive := spacing_pos n
    rw [nearest] at far
    omega

/-- A natural number is rounded to itself exactly if it is a double. -/
theorem nearest_eq_self_iff : nearest n = n ↔ FitsIn 53 n :=
  ⟨fun same => same ▸ (isNearest_nearest n).fits, fun fits => (isNearest_of_fits fits).mp (isNearest_nearest n)⟩

/-! ## Integers as doubles -/

theorem twoTo_eq (e : Nat) : twoTo e = 2 ^ e := rfl

/-- The text of a double that is a natural number, up to the sign. -/
theorem plain_whole {negative : Bool} {m w : Nat} {e : Int}
    (whole : m * twoTo e.toNat = w * twoTo (-e).toNat) :
    plain (.finite negative m e) = Text.ofInt (signed negative w) := by
  have positive : 0 < twoTo (-e).toNat := Nat.two_pow_pos _
  have integer : isInteger (.finite negative m e) = true := by
    rw [isInteger, decide_eq_true_iff]
    by_cases below : e < 0
    · have none : e.toNat = 0 := by omega
      rw [none] at whole
      rw [show m = w * twoTo (-e).toNat from (Nat.mul_one m).symm.trans whole, Nat.mul_mod_left]
    · have none : (-e).toNat = 0 := by omega
      rw [none]
      exact Nat.mod_one m
  rw [plain, if_pos integer, truncate?, whole, Nat.mul_div_cancel _ positive]
  rfl

/-- A natural number is rounded at the exponent that leaves 53 bits of it. -/
theorem fitted_exponent (some : n ≠ 0) :
    ¬ n * twoTo (-((n.log2 : Int) - 53)).toNat / (1 * twoTo ((n.log2 : Int) - 53).toNat) < twoTo 53 := by
  have low : 2 ^ n.log2 ≤ n := Nat.log2_self_le some
  simp only [twoTo_eq]
  rw [Nat.not_lt, Nat.one_mul, Nat.le_div_iff_mul_le (Nat.two_pow_pos _)]
  by_cases wide : 53 ≤ n.log2
  · have up : (-((n.log2 : Int) - 53)).toNat = 0 := by omega
    have down : ((n.log2 : Int) - 53).toNat = n.log2 - 53 := by omega
    rw [up, down, ← Nat.pow_add, Nat.add_sub_cancel' wide, Nat.pow_zero, Nat.mul_one]
    exact low
  · have up : (-((n.log2 : Int) - 53)).toNat = 53 - n.log2 := by omega
    have down : ((n.log2 : Int) - 53).toNat = 0 := by omega
    rw [up, down, Nat.pow_zero, Nat.mul_one]
    calc 2 ^ 53 = 2 ^ n.log2 * 2 ^ (53 - n.log2) := by rw [← Nat.pow_add, Nat.add_sub_cancel' (by omega)]
      _ ≤ n * 2 ^ (53 - n.log2) := Nat.mul_le_mul_right _ low

/-- The mantissa of a natural number at that exponent. -/
theorem mantissa_whole (n : Nat) :
    roundQuotient (n * twoTo (-((n.log2 : Int) - 52)).toNat) (1 * twoTo ((n.log2 : Int) - 52).toNat) *
        twoTo ((n.log2 : Int) - 52).toNat = nearest n * twoTo (-((n.log2 : Int) - 52)).toNat := by
  by_cases wide : 52 ≤ n.log2
  · have up : (-((n.log2 : Int) - 52)).toNat = 0 := by omega
    have down : ((n.log2 : Int) - 52).toNat = n.log2 - 52 := by omega
    simp only [up, down, twoTo_eq, Nat.pow_zero, Nat.mul_one, Nat.one_mul]
    rfl
  · have down : ((n.log2 : Int) - 52).toNat = 0 := by omega
    have small : n < 2 ^ 53 :=
      Nat.lt_of_lt_of_le Nat.lt_log2_self (Nat.pow_le_pow_right (by decide) (by omega))
    simp only [down, twoTo_eq, Nat.pow_zero, Nat.mul_one, nearest_of_small small]
    simp [roundQuotient, Nat.mod_one]

/-- A mantissa that was rounded up to 54 bits is halved, and the exponent grows. -/
theorem carried {w : Nat} {e : Int} (whole : twoTo 53 * twoTo e.toNat = w * twoTo (-e).toNat) :
    twoTo 52 * twoTo (e + 1).toNat = w * twoTo (-(e + 1)).toNat := by
  simp only [twoTo_eq] at whole ⊢
  by_cases below : e < 0
  · have none : e.toNat = 0 ∧ (e + 1).toNat = 0 := by omega
    have last : 2 ^ (-e).toNat = 2 * 2 ^ (-(e + 1)).toNat := by
      rw [show (-e).toNat = (-(e + 1)).toNat + 1 by omega, Nat.pow_succ, Nat.mul_comm]
    rw [none.1, last, Nat.mul_left_comm] at whole
    rw [none.2]
    omega
  · have none : (-e).toNat = 0 ∧ (-(e + 1)).toNat = 0 := by omega
    have last : (e + 1).toNat = e.toNat + 1 := by omega
    rw [none.1] at whole
    rw [none.2, ← whole, last, Nat.pow_succ]
    omega

theorem ofRatio_one (negative : Bool) (some : n ≠ 0) (short : n.log2 < 200) :
    ∃ m e, ofRatio negative n 1 = .finite negative m e ∧ m * twoTo e.toNat = nearest n * twoTo (-e).toNat := by
  have low : (n.log2 : Int) - (Nat.log2 1 : Nat) - 53 = (n.log2 : Int) - 53 := by
    rw [show Nat.log2 1 = 0 from rfl]
    omega
  have next : (n.log2 : Int) - 53 + 1 = (n.log2 : Int) - 52 := by omega
  have normal : ¬ (n.log2 : Int) - 52 < minExponent := by
    rw [minExponent]
    omega
  have finite : ¬ maxExponent < (n.log2 : Int) - 52 ∧ ¬ maxExponent < (n.log2 : Int) - 52 + 1 := by
    rw [maxExponent]
    omega
  have whole := mantissa_whole n
  rw [ofRatio, if_neg some]
  dsimp only [scaled]
  rw [low, if_neg (fitted_exponent some), next, if_neg normal]
  by_cases carry : roundQuotient (n * twoTo (-((n.log2 : Int) - 52)).toNat) (1 * twoTo ((n.log2 : Int) - 52).toNat) = twoTo 53
  · rw [if_pos carry, if_neg finite.2]
    refine ⟨_, _, rfl, ?_⟩
    rw [carry] at whole
    exact carried whole
  · rw [if_neg carry, if_neg finite.1]
    exact ⟨_, _, rfl, whole⟩

/-- The double nearest to an integer, by the rule for its size. -/
structure RoundsTo (i v : Int) : Prop where
  size : IsNearest i.natAbs v.natAbs
  sign : v.sign = i.sign

/-- The integer that another one is rounded to. -/
def nearestInt (i : Int) : Int := signed (decide (i < 0)) (nearest i.natAbs)

theorem nearest_eq_zero_iff : nearest n = 0 ↔ n = 0 := by
  constructor
  · intro none
    have closest := (isNearest_nearest n).closest 1 ⟨1, 0, by decide, rfl⟩
    rw [none] at closest
    unfold Nat.dist at closest
    omega
  · rintro rfl
    exact nearest_of_small (by decide)

theorem natAbs_nearestInt (i : Int) : (nearestInt i).natAbs = nearest i.natAbs := by
  rw [nearestInt, signed]
  split <;> omega

theorem sign_nearestInt (i : Int) : (nearestInt i).sign = i.sign := by
  have zero := nearest_eq_zero_iff (n := i.natAbs)
  rw [nearestInt, signed]
  rcases Int.lt_trichotomy i 0 with negative | none | positive
  · rw [if_pos (by simpa using negative), Int.sign_eq_neg_one_of_neg negative, Int.sign_eq_neg_one_of_neg (by omega)]
  · subst none
    rfl
  · rw [if_neg (by simp; omega), Int.sign_eq_one_of_pos positive, Int.sign_eq_one_of_pos (by omega)]

theorem eq_of_natAbs_of_sign {i j : Int} (size : i.natAbs = j.natAbs) (sign : i.sign = j.sign) : i = j := by
  rw [← Int.sign_mul_natAbs i, ← Int.sign_mul_natAbs j, size, sign]

theorem roundsTo_iff {i v : Int} : RoundsTo i v ↔ v = nearestInt i := by
  constructor
  · rintro ⟨size, sign⟩
    exact eq_of_natAbs_of_sign ((isNearest_iff.mp size).trans (natAbs_nearestInt i).symm)
      (sign.trans (sign_nearestInt i).symm)
  · rintro rfl
    exact ⟨isNearest_iff.mpr (natAbs_nearestInt i), sign_nearestInt i⟩

/-- **An integer is rounded to itself exactly if it is a double.** -/
theorem nearestInt_eq_self_iff {i : Int} : nearestInt i = i ↔ FitsIn 53 i.natAbs := by
  rw [← nearest_eq_self_iff, ← natAbs_nearestInt]
  exact ⟨fun same => by rw [same], fun same => eq_of_natAbs_of_sign same (sign_nearestInt i)⟩

/-- A decimal that is a natural number of at most 28 digits is rounded as the number. -/
theorem ofDecimal_whole {negative : Bool} (some : n ≠ 0) (short : n < tenTo Decimal.precision) :
    ofDecimal negative n 0 = ofRatio negative n 1 := by
  have digits : (Nat.toDigits 10 n).length ≤ 28 := (Nat.length_toDigits_le_iff (by decide) (by decide)).mpr short
  rw [ofDecimal, if_neg some]
  dsimp only
  rw [if_neg (by omega), if_neg (by omega), show n * tenTo (0 : Int).toNat = n from Nat.mul_one _,
    show tenTo (-(0 : Int)).toNat = 1 from rfl]

end Double

/-- **An integer in an assertion is written as the double nearest to it.** -/
theorem Arithmetic.canonical_integer {i : Int} (short : i.natAbs < tenTo Decimal.precision) :
    canonical ⟨i, 0⟩ = Text.ofInt (Double.nearestInt i) := by
  rw [canonical, Decimal.toDouble]
  by_cases zero : i.natAbs = 0
  · have none : i = 0 := Int.natAbs_eq_zero.mp zero
    subst none
    rw [Double.ofDecimal, if_pos zero]
    exact Double.plain_whole (w := 0) (by rw [Nat.zero_mul, Nat.zero_mul])
  · have bits : i.natAbs.log2 < 200 :=
      (Nat.log2_lt zero).mpr (Nat.lt_of_lt_of_le short (by decide))
    obtain ⟨m, e, rounded, whole⟩ := Double.ofRatio_one (decide (i < 0)) zero bits
    rw [Double.ofDecimal_whole zero short, rounded, Double.plain_whole whole]
    rfl

end ApiFlow
