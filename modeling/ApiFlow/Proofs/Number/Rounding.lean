import ApiFlow.Proofs.Number.Digits
import ApiFlow.Proofs.Number.Nearest
import Mathlib.Algebra.Order.Field.Power
import Mathlib.Algebra.Order.Floor.Semifield
import Mathlib.Data.Rat.Floor
import Mathlib.Tactic.FieldSimp
import Mathlib.Tactic.Linarith
import Mathlib.Tactic.Positivity
import Mathlib.Tactic.Ring

/-!
# Rounding keeps the order

A result that is rounded lies on the same side of every double as the exact result does.  So a clock that counts seconds
in doubles does not turn back, and as long as the doubles about its reading are close enough, it moves with every wait.

The integers up to 2^53 are doubles.  The text of such an integer is read as the double that stands for it, and the
decimal with its value is rounded to the same one, so doubles that are read from integers are ordered as the integers.

* `IsReading.le_iff`, `IsReading.lt_iff` : readings are ordered by their places among the doubles.
* `IsRounded`, `Holds` : a rational number and the result of rounding it, and how a double holds the result.
* `KeepsOrder` : rounding does not change on which side of a double a number lies.
* `IsReading.add` : a clock does not turn back when time passes.
* `IsReading.rank_lt_add` : below 2^43 seconds it is moved forward by every millisecond.
* `IsExactly` : a double that stands for an integer, and `IsExactly.lt_iff`, `IsExactly.le_iff` : the order of such doubles.
* `read?_ofInt` : the text of an integer is read as the decimal with its value is rounded.
* `exactly_ofDecimal`, `exactly_ofInt`, `exactly_read?` : up to 2^53 nothing is lost there.
* `rounded_mul` : a product is rounded once, and `truncate?_of_holds` : the integer part of a double is a floor.
-/

set_option autoImplicit false

namespace ApiFlow.Double

variable {a b negative : Bool} {m n : Nat} {d e : Int} {x y : Double}

/-! ## The order of the doubles -/

/-- A mantissa and an exponent as a double has them: the exponent is the least one, or the mantissa has all its bits. -/
structure Normal (m : Nat) (e : Int) : Prop where
  short : m < 2 ^ 53
  low : minExponent ≤ e
  high : e ≤ maxExponent
  full : e = minExponent ∨ 2 ^ 52 ≤ m

/-- What a clock can show: a finite number, or an infinity once all numbers are used up. -/
inductive IsReading : Double → Prop
  | finite {negative : Bool} {m : Nat} {e : Int} (normal : Normal m e) : IsReading (.finite negative m e)
  | infinite : IsReading (.infinite false)

/-- The rational number that a finite double stands for. -/
def worth (negative : Bool) (m : Nat) (e : Int) : ℚ := signed negative m * 2 ^ e

theorem atExponent_mul {low : Int} (below : low ≤ e) :
    (atExponent negative m e low : ℚ) * 2 ^ low = worth negative m e := by
  have power : (2 : ℚ) ^ (e - low).toNat * 2 ^ low = 2 ^ e := by
    rw [← zpow_natCast, Int.toNat_of_nonneg (by omega), ← zpow_add₀ (by norm_num), Int.sub_add_cancel]
  rw [atExponent, worth, ← power]
  cases negative <;> simp [signed, twoTo_eq] <;> ring

theorem compare?_finite : ∃ i j : Int, compare? (.finite a m d) (.finite b n e) = some (compare i j) ∧
    (i < j ↔ worth a m d < worth b n e) ∧ (i = j ↔ worth a m d = worth b n e) := by
  have positive : (0 : ℚ) < 2 ^ min d e := by positivity
  refine ⟨_, _, rfl, ?_, ?_⟩
  · rw [← atExponent_mul (min_le_left d e), ← atExponent_mul (min_le_right d e), mul_lt_mul_iff_of_pos_right positive,
      Int.cast_lt]
  · rw [← atExponent_mul (min_le_left d e), ← atExponent_mul (min_le_right d e), mul_left_inj' positive.ne', Int.cast_inj]

theorem lt_finite_iff : lt (.finite a m d) (.finite b n e) = true ↔ worth a m d < worth b n e := by
  obtain ⟨i, j, same, less, -⟩ := @compare?_finite a b m n d e
  rw [lt, same, beq_iff_eq, Option.some.injEq, Int.compare_eq_lt, less]

theorem le_finite_iff : le (.finite a m d) (.finite b n e) = true ↔ worth a m d ≤ worth b n e := by
  obtain ⟨i, j, same, less, equal⟩ := @compare?_finite a b m n d e
  rw [le, same, Bool.or_eq_true, beq_iff_eq, beq_iff_eq, Option.some.injEq, Option.some.injEq, Int.compare_eq_lt,
    Int.compare_eq_eq, less, equal, le_iff_lt_or_eq]

/-- What has one bit more than there is room for fits with the next exponent. -/
theorem carry_le {e f : Int} (less : f < e) : (2 : ℚ) ^ 53 * 2 ^ f ≤ 2 ^ 52 * 2 ^ e := by
  have power : (2 : ℚ) ^ (f + 1) ≤ 2 ^ e := zpow_le_zpow_right₀ (by norm_num) less
  calc (2 : ℚ) ^ 53 * 2 ^ f = 2 ^ 52 * 2 ^ (f + 1) := by
        rw [zpow_add_one₀ (by norm_num)]
        ring
    _ ≤ 2 ^ 52 * 2 ^ e := by gcongr

/-- A larger exponent makes a larger number, whatever the mantissas are, and a later place among the doubles. -/
theorem Normal.lt_of_exponent_lt (first : Normal m d) (second : Normal n e) (less : d < e) :
    (m : ℚ) * 2 ^ d < n * 2 ^ e ∧
      m + (d - minExponent).toNat * twoTo 52 < n + (e - minExponent).toNat * twoTo 52 := by
  have low := first.low
  have full : 2 ^ 52 ≤ n := second.full.resolve_left (by omega)
  have short := first.short
  constructor
  · have short' : (m : ℚ) < 2 ^ 53 := by exact_mod_cast short
    have full' : (2 : ℚ) ^ 52 ≤ n := by exact_mod_cast full
    have positive : (0 : ℚ) < 2 ^ d := by positivity
    calc (m : ℚ) * 2 ^ d < 2 ^ 53 * 2 ^ d := by gcongr
      _ ≤ 2 ^ 52 * 2 ^ e := carry_le less
      _ ≤ n * 2 ^ e := by gcongr
  · rw [show twoTo 52 = 2 ^ 52 from rfl]
    have step : (d - minExponent).toNat + 1 ≤ (e - minExponent).toNat := by omega
    omega

theorem Normal.le_iff (first : Normal m d) (second : Normal n e) :
    (m : ℚ) * 2 ^ d ≤ n * 2 ^ e ↔
      m + (d - minExponent).toNat * twoTo 52 ≤ n + (e - minExponent).toNat * twoTo 52 := by
  rcases lt_trichotomy d e with less | rfl | more
  · obtain ⟨size, place⟩ := first.lt_of_exponent_lt second less
    exact iff_of_true size.le place.le
  · have positive : (0 : ℚ) < 2 ^ d := by positivity
    rw [mul_le_mul_iff_of_pos_right positive, Nat.cast_le, Nat.add_le_add_iff_right]
  · obtain ⟨size, place⟩ := second.lt_of_exponent_lt first more
    exact iff_of_false size.not_ge place.not_ge

theorem Normal.eq_zero_iff (normal : Normal m e) :
    (m : ℚ) * 2 ^ e = 0 ↔ m + (e - minExponent).toNat * twoTo 52 = 0 := by
  have positive : (2 : ℚ) ^ e ≠ 0 := by positivity
  have full := normal.full
  rw [mul_eq_zero, or_iff_left positive, Nat.cast_eq_zero, show twoTo 52 = 2 ^ 52 from rfl]
  omega

/-- **The doubles are ranked by what they stand for.** -/
theorem Normal.worth_le_iff (first : Normal m d) (second : Normal n e) :
    worth a m d ≤ worth b n e ↔ rank (.finite a m d) ≤ rank (.finite b n e) := by
  have left : (0 : ℚ) ≤ m * 2 ^ d := by positivity
  have right : (0 : ℚ) ≤ n * 2 ^ e := by positivity
  have forward := first.le_iff second
  have backward := second.le_iff first
  have none := first.eq_zero_iff
  have none' := second.eq_zero_iff
  simp only [worth, rank]
  generalize m + (d - minExponent).toNat * twoTo 52 = p at forward backward none ⊢
  generalize n + (e - minExponent).toNat * twoTo 52 = q at forward backward none' ⊢
  cases a <;> cases b <;> simp only [signed, Bool.false_eq_true, if_false, if_true, Int.cast_neg, Int.cast_natCast, neg_mul]
  · rw [forward, Int.ofNat_le]
  · -- a number that is not negative is at most one that is not positive only if both are zero
    have both : (m : ℚ) * 2 ^ d ≤ -(n * 2 ^ e) ↔ (m : ℚ) * 2 ^ d = 0 ∧ (n : ℚ) * 2 ^ e = 0 := by
      constructor
      · intro less
        constructor <;> linarith
      · rintro ⟨one, other⟩
        rw [one, other, neg_zero]
    rw [both, none, none']
    omega
  · refine iff_of_true (by linarith) (by omega)
  · rw [neg_le_neg_iff, backward, neg_le_neg_iff, Int.ofNat_le]

theorem Normal.rank_bounds (normal : Normal m e) :
    -(twoTo 63 : Int) < rank (.finite negative m e) ∧ rank (.finite negative m e) < twoTo 63 := by
  have short := normal.short
  have high := normal.high
  rw [maxExponent] at high
  have place : (m + (e - minExponent).toNat * twoTo 52 : Nat) < twoTo 63 := by
    rw [minExponent, show twoTo 52 = 2 ^ 52 from rfl, show twoTo 63 = 2 ^ 63 from rfl]
    omega
  cases negative <;> simp only [rank, signed, Bool.false_eq_true, if_false, if_true] <;> omega

theorem IsReading.le_iff (first : IsReading x) (second : IsReading y) : x.le y = true ↔ x.rank ≤ y.rank := by
  rcases first with @⟨a, m, d, first⟩ | _ <;> rcases second with @⟨b, n, e, second⟩ | _
  · rw [le_finite_iff, first.worth_le_iff second]
  · exact iff_of_true rfl first.rank_bounds.2.le
  · exact iff_of_false (by simp [le, compare?]) second.rank_bounds.2.not_ge
  · exact iff_of_true rfl le_rfl

theorem IsReading.lt_iff (first : IsReading x) (second : IsReading y) : x.lt y = true ↔ x.rank < y.rank := by
  rcases first with @⟨a, m, d, first⟩ | _ <;> rcases second with @⟨b, n, e, second⟩ | _
  · rw [lt_finite_iff, ← not_le, second.worth_le_iff first, not_le]
  · exact iff_of_true rfl first.rank_bounds.2
  · exact iff_of_false (by simp [lt, compare?]) second.rank_bounds.2.not_gt
  · exact iff_of_false (by simp [lt, compare?]) (lt_irrefl _)

/-! ## Rounding a quotient -/

theorem le_roundQuotient {num den k : Nat} (positive : 0 < den) (below : k * den ≤ num) : k ≤ roundQuotient num den := by
  have least : k ≤ num / den := (Nat.le_div_iff_mul_le positive).mpr below
  rcases roundQuotient_cases num den with same | same <;> omega

theorem roundQuotient_le_of_le_mul {num den k : Nat} (positive : 0 < den) (above : num ≤ k * den) :
    roundQuotient num den ≤ k := by
  have near := (dist_roundQuotient (n := num) positive).1
  have whole : num / den * den + num % den = num := Nat.div_add_mod' num den
  have small : num / den ≤ k := Nat.div_le_of_le_mul (by rwa [Nat.mul_comm])
  rcases roundQuotient_cases num den with same | same
  · omega
  · by_contra far
    -- the quotient is the integer itself, so that nothing is left to be rounded up
    have exact : num / den = k := by omega
    rw [exact] at whole same
    rw [same, Nat.add_mul, Nat.one_mul, Nat.dist_comm, Nat.dist_eq_sub_of_le_right (by omega)] at near
    omega

theorem zpow_mul_two_pow (e : Int) : (2 : ℚ) ^ e * 2 ^ (-e).toNat = 2 ^ e.toNat := by
  rw [← zpow_natCast, ← zpow_natCast, ← zpow_add₀ (by norm_num)]
  congr 1
  omega

/-- The quotient that is rounded, at the exponent of the result. -/
theorem scaled_ratio (num den : Nat) (e : Int) :
    ((scaled num den e).1 : ℚ) / (scaled num den e).2 = num / den / 2 ^ e := by
  rcases Nat.eq_zero_or_pos den with rfl | positive
  · simp [scaled]
  · have nonzero : (den : ℚ) ≠ 0 := by positivity
    simp only [scaled, twoTo_eq, Nat.cast_mul, Nat.cast_pow, Nat.cast_ofNat]
    rw [← zpow_mul_two_pow e]
    field_simp

theorem scaled_pos {num den : Nat} (positive : 0 < den) (e : Int) : 0 < (scaled num den e).2 :=
  Nat.mul_pos positive (Nat.two_pow_pos _)

theorem mul_scaled_le_iff (num : Nat) {den : Nat} (positive : 0 < den) (e : Int) (k : Nat) :
    k * (scaled num den e).2 ≤ (scaled num den e).1 ↔ k * 2 ^ e ≤ (num : ℚ) / den := by
  have power : (0 : ℚ) < 2 ^ e := by positivity
  have divisor : (0 : ℚ) < (scaled num den e).2 := by exact_mod_cast scaled_pos positive e
  rw [← le_div_iff₀ power, ← scaled_ratio, le_div_iff₀ divisor]
  norm_cast

theorem scaled_le_mul_iff (num : Nat) {den : Nat} (positive : 0 < den) (e : Int) (k : Nat) :
    (scaled num den e).1 ≤ k * (scaled num den e).2 ↔ (num : ℚ) / den ≤ k * 2 ^ e := by
  have power : (0 : ℚ) < 2 ^ e := by positivity
  have divisor : (0 : ℚ) < (scaled num den e).2 := by exact_mod_cast scaled_pos positive e
  rw [← div_le_iff₀ power, ← scaled_ratio, div_le_iff₀ divisor]
  norm_cast

/-- The exponent at which a quotient is rounded. -/
def exponentFor (num den : Nat) : Int :=
  let low : Int := (num.log2 : Int) - den.log2 - 53
  let fitted := if (scaled num den low).1 / (scaled num den low).2 < twoTo 53 then low else low + 1
  if fitted < minExponent then minExponent else fitted

/-- A rounded mantissa as a double: one that has been rounded up to one bit more than there is room for is halved. -/
def pack (negative : Bool) (m : Nat) (e : Int) : Double :=
  let (m, e) := if m = twoTo 53 then (twoTo 52, e + 1) else (m, e)
  if maxExponent < e then .infinite negative else .finite negative m e

theorem ofRatio_eq {num den : Nat} (some : num ≠ 0) :
    ofRatio negative num den =
      pack negative (roundQuotient (scaled num den (exponentFor num den)).1 (scaled num den (exponentFor num den)).2)
        (exponentFor num den) := by
  rw [ofRatio, if_neg some]
  rfl

/-- An exponent at which a rational number has the bits of a mantissa before its point. -/
structure FitsAt (x : ℚ) (e : Int) : Prop where
  low : minExponent ≤ e
  below : x < 2 ^ 53 * 2 ^ e
  above : e = minExponent ∨ 2 ^ 52 * 2 ^ e ≤ x

theorem log2_bounds {n : Nat} (some : n ≠ 0) : (2 : ℚ) ^ (n.log2 : Int) ≤ n ∧ (n : ℚ) < 2 ^ ((n.log2 : Int) + 1) := by
  constructor
  · rw [zpow_natCast]
    exact_mod_cast Nat.log2_self_le some
  · have above : n < 2 ^ (n.log2 + 1) := Nat.lt_log2_self
    exact_mod_cast above

/-- The bits of a quotient, from those of its parts. -/
theorem ratio_bounds {num den : Nat} (some : num ≠ 0) (positive : 0 < den) {low : Int}
    (bits : low = (num.log2 : Int) - den.log2 - 53) :
    (2 : ℚ) ^ 52 * 2 ^ low ≤ num / den ∧ (num : ℚ) / den < 2 ^ 54 * 2 ^ low := by
  obtain ⟨least, most⟩ := log2_bounds some
  obtain ⟨least', most'⟩ := log2_bounds positive.ne'
  have divisor : (0 : ℚ) < den := by exact_mod_cast positive
  have power : (2 : ℚ) ^ (num.log2 : Int) = 2 ^ 53 * 2 ^ low * 2 ^ (den.log2 : Int) := by
    rw [← zpow_natCast, ← zpow_add₀ (by norm_num), ← zpow_add₀ (by norm_num)]
    congr 1
    omega
  rw [zpow_add_one₀ (by norm_num)] at most most'
  constructor
  · rw [le_div_iff₀ divisor]
    calc (2 : ℚ) ^ 52 * 2 ^ low * den ≤ 2 ^ 52 * 2 ^ low * (2 ^ (den.log2 : Int) * 2) := by gcongr
      _ = 2 ^ (num.log2 : Int) := by
        rw [power]
        ring
      _ ≤ num := least
  · rw [div_lt_iff₀ divisor]
    calc (num : ℚ) < 2 ^ (num.log2 : Int) * 2 := most
      _ = 2 ^ 54 * 2 ^ low * 2 ^ (den.log2 : Int) := by
        rw [power]
        ring
      _ ≤ 2 ^ 54 * 2 ^ low * den := by gcongr

theorem fitsAt_exponentFor {num den : Nat} (some : num ≠ 0) (positive : 0 < den) :
    FitsAt ((num : ℚ) / den) (exponentFor num den) := by
  obtain ⟨low, bits⟩ : ∃ low : Int, low = (num.log2 : Int) - den.log2 - 53 := ⟨_, rfl⟩
  obtain ⟨least, most⟩ := ratio_bounds some positive bits
  have next : (2 : ℚ) ^ (low + 1) = 2 ^ low * 2 := zpow_add_one₀ (by norm_num) low
  -- of the two candidates one leaves 53 bits in front of the point
  obtain ⟨fitted, chosen, below, above⟩ : ∃ fitted : Int,
      exponentFor num den = (if fitted < minExponent then minExponent else fitted) ∧
        (num : ℚ) / den < 2 ^ 53 * 2 ^ fitted ∧ 2 ^ 52 * 2 ^ fitted ≤ (num : ℚ) / den := by
    have floor : (scaled num den low).1 / (scaled num den low).2 < twoTo 53 ↔ (num : ℚ) / den < 2 ^ 53 * 2 ^ low := by
      have whole := mul_scaled_le_iff num positive low (twoTo 53)
      rw [← Nat.not_le, Nat.le_div_iff_mul_le (scaled_pos positive low), whole, not_le]
      norm_num [twoTo_eq]
    by_cases small : (num : ℚ) / den < 2 ^ 53 * 2 ^ low
    · refine ⟨low, ?_, small, least⟩
      rw [exponentFor, ← bits, if_pos (floor.mpr small)]
    · refine ⟨low + 1, ?_, ?_, ?_⟩
      · rw [exponentFor, ← bits, if_neg (floor.not.mpr small)]
      · rw [next]
        linarith
      · rw [next]
        linarith
  rw [chosen]
  by_cases tiny : fitted < minExponent
  · rw [if_pos tiny]
    have power : (2 : ℚ) ^ fitted ≤ 2 ^ minExponent := zpow_le_zpow_right₀ (by norm_num) tiny.le
    exact ⟨le_rfl, below.trans_le (by gcongr), .inl rfl⟩
  · rw [if_neg tiny]
    exact ⟨not_lt.mp tiny, below, .inr above⟩

/-! ## The order is kept -/

/-- Rounding keeps the order: what has at most 53 bits and is at most the number is at most the result, and what is at
least the number is at least the result. -/
structure KeepsOrder (x v : ℚ) : Prop where
  low : ∀ (k : Nat) (f : Int), k ≤ 2 ^ 53 → minExponent ≤ f → k * 2 ^ f ≤ x → k * 2 ^ f ≤ v
  high : ∀ (k : Nat) (f : Int), k ≤ 2 ^ 53 → minExponent ≤ f → x ≤ k * 2 ^ f → v ≤ k * 2 ^ f

/-- A double of some sign that holds the result of a rounding, or the infinity if that is too large for a double. -/
inductive Holds (negative : Bool) (v : ℚ) : Double → Prop
  | finite {m : Nat} {e : Int} (normal : Normal m e) (size : (m : ℚ) * 2 ^ e = v) : Holds negative v (.finite negative m e)
  | infinite (size : 2 ^ 53 * 2 ^ maxExponent ≤ v) : Holds negative v (.infinite negative)

theorem holds_zero (negative : Bool) : Holds negative 0 (zero negative) :=
  .finite ⟨by decide, by decide, by decide, .inl rfl⟩ (by simp)

theorem holds_pack (most : m ≤ 2 ^ 53) (low : minExponent ≤ e) (full : e = minExponent ∨ 2 ^ 52 ≤ m) :
    Holds negative ((m : ℚ) * 2 ^ e) (pack negative m e) := by
  have large {k : Nat} {f : Int} (full : 2 ^ 52 ≤ k) (beyond : maxExponent < f) :
      (2 : ℚ) ^ 53 * 2 ^ maxExponent ≤ k * 2 ^ f := by
    have full' : (2 : ℚ) ^ 52 ≤ k := by exact_mod_cast full
    calc (2 : ℚ) ^ 53 * 2 ^ maxExponent ≤ 2 ^ 52 * 2 ^ f := carry_le beyond
      _ ≤ (k : ℚ) * 2 ^ f := by gcongr
  unfold pack
  by_cases carry : m = twoTo 53
  · have half : (m : ℚ) * 2 ^ e = (twoTo 52 : Nat) * 2 ^ (e + 1) := by
      rw [carry, zpow_add_one₀ (by norm_num)]
      norm_num [twoTo_eq]
      ring
    rw [if_pos carry, half]
    dsimp only
    split
    · rename_i beyond
      exact .infinite (large le_rfl beyond)
    · exact .finite ⟨by decide, by omega, by omega, .inr le_rfl⟩ rfl
  · rw [if_neg carry]
    rw [twoTo_eq] at carry
    dsimp only
    split
    · rename_i beyond
      rw [maxExponent] at beyond
      refine .infinite (large (full.resolve_left ?_) beyond)
      rw [minExponent]
      omega
    · exact .finite ⟨by omega, low, by omega, full⟩ rfl

/-- A number of at most 53 bits over a larger exponent is a multiple of the power of a smaller one. -/
theorem multiple_of_le {k : Nat} {e f : Int} (above : e ≤ f) :
    (k : ℚ) * 2 ^ f = (k * 2 ^ (f - e).toNat : Nat) * 2 ^ e := by
  have power : (2 : ℚ) ^ f = 2 ^ (f - e).toNat * 2 ^ e := by
    rw [← zpow_natCast, Int.toNat_of_nonneg (by omega), ← zpow_add₀ (by norm_num), Int.sub_add_cancel]
  rw [power]
  push_cast
  ring

/-- A number of at most 53 bits over a smaller exponent is at most the least one with all its bits over a larger. -/
theorem le_of_exponent_lt {k : Nat} {e f : Int} (bits : k ≤ 2 ^ 53) (less : f < e) :
    (k : ℚ) * 2 ^ f ≤ 2 ^ 52 * 2 ^ e := by
  have bits' : (k : ℚ) ≤ 2 ^ 53 := by exact_mod_cast bits
  calc (k : ℚ) * 2 ^ f ≤ 2 ^ 53 * 2 ^ f := by gcongr
    _ ≤ 2 ^ 52 * 2 ^ e := carry_le less

/-- A number rounded to an integer at an exponent: the order of the integers is kept, and the integer is a nearest one. -/
structure IsMantissa (x : ℚ) (e : Int) (m : Nat) : Prop where
  least : ∀ k : Nat, k * 2 ^ e ≤ x → k ≤ m
  most : ∀ k : Nat, x ≤ k * 2 ^ e → m ≤ k
  near : |m * 2 ^ e - x| ≤ 2 ^ e / 2

/-- A rounded quotient is at most half away from the quotient. -/
theorem abs_roundQuotient_sub (num : Nat) {den : Nat} (positive : 0 < den) :
    |(roundQuotient num den : ℚ) - num / den| ≤ 1 / 2 := by
  have divisor : (0 : ℚ) < den := by exact_mod_cast positive
  have near := (dist_roundQuotient (n := num) positive).1
  rw [Nat.dist] at near
  have least : (2 * (roundQuotient num den * den) : ℚ) ≤ 2 * num + den := by exact_mod_cast (by omega)
  have most : (2 * num : ℚ) ≤ 2 * (roundQuotient num den * den) + den := by exact_mod_cast (by omega)
  have below : (num : ℚ) / den ≤ roundQuotient num den + 1 / 2 := by
    rw [div_le_iff₀ divisor]
    linarith
  have above : roundQuotient num den - 1 / 2 ≤ (num : ℚ) / den := by
    rw [le_div_iff₀ divisor]
    linarith
  rw [abs_le]
  constructor <;> linarith

theorem isMantissa_roundQuotient (num : Nat) {den : Nat} (positive : 0 < den) (e : Int) :
    IsMantissa ((num : ℚ) / den) e (roundQuotient (scaled num den e).1 (scaled num den e).2) where
  least k below := le_roundQuotient (scaled_pos positive e) ((mul_scaled_le_iff num positive e k).mpr below)
  most k above := roundQuotient_le_of_le_mul (scaled_pos positive e) ((scaled_le_mul_iff num positive e k).mpr above)
  near := by
    have power : (0 : ℚ) < 2 ^ e := by positivity
    have divisor : 0 < (scaled num den e).2 := scaled_pos positive e
    have near := abs_roundQuotient_sub (scaled num den e).1 divisor
    rw [scaled_ratio, ← mul_le_mul_iff_of_pos_right power, ← abs_of_pos power, ← abs_mul, abs_of_pos power, sub_mul,
      div_mul_cancel₀ _ power.ne'] at near
    linarith

namespace IsMantissa

variable {x : ℚ}

theorem bounds (rounded : IsMantissa x e m) (fits : FitsAt x e) : m ≤ 2 ^ 53 ∧ (e = minExponent ∨ 2 ^ 52 ≤ m) :=
  ⟨rounded.most (2 ^ 53) (by exact_mod_cast fits.below.le),
    fits.above.imp_right fun above => rounded.least (2 ^ 52) (by exact_mod_cast above)⟩

/-- **At a fitting exponent the order of all doubles is kept.** -/
theorem keepsOrder (rounded : IsMantissa x e m) (fits : FitsAt x e) : KeepsOrder x (m * 2 ^ e) := by
  refine ⟨fun k f bits low below => ?_, fun k f bits low above => ?_⟩
  · rcases le_or_gt e f with wide | less
    · rw [multiple_of_le wide] at below ⊢
      have within : k * 2 ^ (f - e).toNat ≤ m := rounded.least _ below
      gcongr
    · have within : (2 ^ 52 : Nat) ≤ m := (rounded.bounds fits).2.resolve_left (by omega)
      calc (k : ℚ) * 2 ^ f ≤ 2 ^ 52 * 2 ^ e := le_of_exponent_lt bits less
        _ = (2 ^ 52 : Nat) * 2 ^ e := by norm_num
        _ ≤ m * 2 ^ e := by gcongr
  · rcases le_or_gt e f with wide | less
    · rw [multiple_of_le wide] at above ⊢
      have within : m ≤ k * 2 ^ (f - e).toNat := rounded.most _ above
      gcongr
    · -- all three are the least number with all its bits over the exponent of the result
      have least : (2 : ℚ) ^ 52 * 2 ^ e ≤ x := fits.above.resolve_left (by omega)
      have within : m ≤ 2 ^ 52 := rounded.most _ (by exact_mod_cast above.trans (le_of_exponent_lt bits less))
      calc (m : ℚ) * 2 ^ e ≤ (2 ^ 52 : Nat) * 2 ^ e := by gcongr
        _ = 2 ^ 52 * 2 ^ e := by norm_num
        _ ≤ k * 2 ^ f := least.trans above

end IsMantissa

/-- A number and the result of rounding it to the bits of a mantissa. -/
inductive IsRounded (x : ℚ) : ℚ → Prop
  | of {m : Nat} {e : Int} (fits : FitsAt x e) (rounded : IsMantissa x e m) : IsRounded x (m * 2 ^ e)

theorem IsRounded.keepsOrder {x v : ℚ} (rounded : IsRounded x v) : KeepsOrder x v := by
  cases rounded with
  | of fits rounded => exact rounded.keepsOrder fits

theorem isRounded_zero : IsRounded 0 0 := by
  have power : (0 : ℚ) < 2 ^ minExponent := by positivity
  have fits : FitsAt 0 minExponent := ⟨le_rfl, by positivity, .inl rfl⟩
  have rounded : IsMantissa 0 minExponent 0 := by
    refine ⟨fun k below => ?_, fun _ _ => Nat.zero_le _, by simpa using by positivity⟩
    have none : (k : ℚ) ≤ 0 := nonpos_of_mul_nonpos_left below power
    exact_mod_cast none
  simpa using IsRounded.of fits rounded

/-- **A quotient is rounded once**, and the double holds the result. -/
theorem rounded_ofRatio (negative : Bool) (num : Nat) {den : Nat} (positive : 0 < den) :
    ∃ v, IsRounded ((num : ℚ) / den) v ∧ Holds negative v (ofRatio negative num den) := by
  by_cases some : num = 0
  · refine ⟨0, ?_, ?_⟩
    · rw [some, Nat.cast_zero, zero_div]
      exact isRounded_zero
    · rw [ofRatio, if_pos some]
      exact holds_zero negative
  · have fits := fitsAt_exponentFor some positive
    have rounded := isMantissa_roundQuotient num positive (exponentFor num den)
    obtain ⟨short, full⟩ := rounded.bounds fits
    rw [ofRatio_eq some]
    exact ⟨_, .of fits rounded, holds_pack short fits.low full⟩

theorem holds_ofRatio (negative : Bool) (num : Nat) {den : Nat} (positive : 0 < den) :
    ∃ v, KeepsOrder ((num : ℚ) / den) v ∧ Holds negative v (ofRatio negative num den) :=
  (rounded_ofRatio negative num positive).imp fun _ => And.imp_left IsRounded.keepsOrder

theorem rounded_ofScaled (zeroSign : Bool) (i : Int) (e : Int) :
    ∃ v, IsRounded (|(i : ℚ)| * 2 ^ e) v ∧ Holds (if i = 0 then zeroSign else decide (i < 0)) v (ofScaled zeroSign i e) := by
  by_cases none : i = 0
  · refine ⟨0, ?_, ?_⟩
    · rw [none, Int.cast_zero, abs_zero, zero_mul]
      exact isRounded_zero
    · rw [ofScaled, if_pos none, if_pos none]
      exact holds_zero zeroSign
  · obtain ⟨v, rounded, holds⟩ := rounded_ofRatio (decide (i < 0)) (i.natAbs * twoTo e.toNat)
      (show 0 < twoTo (-e).toNat from Nat.two_pow_pos _)
    have size : ((i.natAbs * twoTo e.toNat : Nat) : ℚ) / (twoTo (-e).toNat : Nat) = |(i : ℚ)| * 2 ^ e := by
      rw [twoTo_eq, twoTo_eq]
      push_cast
      rw [← zpow_mul_two_pow, Nat.cast_natAbs, Int.cast_abs]
      field_simp
    rw [size] at rounded
    rw [ofScaled, if_neg none, if_neg none]
    exact ⟨v, rounded, holds⟩

theorem holds_ofScaled (zeroSign : Bool) (i : Int) (e : Int) :
    ∃ v, KeepsOrder (|(i : ℚ)| * 2 ^ e) v ∧ Holds (if i = 0 then zeroSign else decide (i < 0)) v (ofScaled zeroSign i e) :=
  (rounded_ofScaled zeroSign i e).imp fun _ => And.imp_left IsRounded.keepsOrder

/-- What is larger than all finite doubles is held by an infinity. -/
theorem Holds.eq_infinite {v : ℚ} (holds : Holds negative v x) (large : 2 ^ 53 * 2 ^ maxExponent ≤ v) :
    x = .infinite negative := by
  cases holds with
  | infinite => rfl
  | @finite m e normal size =>
      have short : (m : ℚ) < 2 ^ 53 := by exact_mod_cast normal.short
      have power : (2 : ℚ) ^ e ≤ 2 ^ maxExponent := zpow_le_zpow_right₀ (by norm_num) normal.high
      have less : (m : ℚ) * 2 ^ e < 2 ^ 53 * 2 ^ maxExponent := by
        calc (m : ℚ) * 2 ^ e < 2 ^ 53 * 2 ^ e := by gcongr
          _ ≤ 2 ^ 53 * 2 ^ maxExponent := by gcongr
      exact absurd large (size ▸ less).not_ge

/-- **An integer of at least 2^1024** is too large for a double. -/
theorem ofInt_infinite {i : Int} (large : twoTo 1024 ≤ i.natAbs) : ofInt i = .infinite (decide (i < 0)) := by
  obtain ⟨v, keeps, holds⟩ := holds_ofRatio (decide (i < 0)) i.natAbs Nat.one_pos
  have size : (2 : ℚ) ^ 53 * 2 ^ maxExponent = twoTo 1024 := by
    rw [maxExponent, show (971 : Int) = (971 : Nat) from rfl, zpow_natCast, ← pow_add, twoTo_eq, Nat.cast_pow,
      Nat.cast_ofNat]
  have beyond : (twoTo 1024 : ℚ) ≤ i.natAbs := Nat.cast_le.mpr large
  have least := keeps.low (2 ^ 53) maxExponent le_rfl (by decide)
  rw [Nat.cast_one, div_one, Nat.cast_pow, Nat.cast_ofNat, size] at least
  exact holds.eq_infinite (size.trans_le (least beyond))

/-! ## Sums -/

/-- The number is not negative, or an infinity. -/
theorem zero_le_iff : (zero false).le x = true ↔
    x = .infinite false ∨ ∃ a m e, x = .finite a m e ∧ 0 ≤ worth a m e := by
  rcases x with ⟨a, m, e⟩ | a | _
  · rw [zero, le_finite_iff]
    simp [worth, signed]
  · cases a <;> simp [le, compare?, zero]
  · simp [le, compare?, zero]

/-- What is not at most zero is more than zero, unless it is no number. -/
theorem zero_lt_iff (above : x.le (zero false) = false) : (zero false).lt x = true ↔ x ≠ .nan := by
  rcases x with ⟨a, m, e⟩ | a | _
  · refine iff_of_true ?_ nofun
    rw [zero] at above ⊢
    rw [lt_finite_iff, ← not_le, ← le_finite_iff, above]
    exact Bool.false_ne_true
  · cases a
    · exact iff_of_true rfl nofun
    · cases above
  · exact iff_of_false nofun (not_not.mpr rfl)

theorem worth_eq (a : Bool) (m : Nat) (e : Int) : worth a m e = if a then -((m : ℚ) * 2 ^ e) else m * 2 ^ e := by
  cases a <;> simp [worth, signed]

theorem abs_worth (a : Bool) (m : Nat) (e : Int) : |worth a m e| = m * 2 ^ e := by
  have nonneg : (0 : ℚ) ≤ m * 2 ^ e := by positivity
  rw [worth_eq]
  cases a <;> simp [abs_of_nonneg nonneg]

/-- The sum of two finite numbers, by its sign and its size. -/
theorem holds_add (a b : Bool) (m n : Nat) (d e : Int) :
    ∃ negative v, KeepsOrder |worth a m d + worth b n e| v ∧ Holds negative v (add (.finite a m d) (.finite b n e)) ∧
      (worth a m d + worth b n e < 0 → negative = true) ∧ (0 < worth a m d + worth b n e → negative = false) := by
  obtain ⟨low, least⟩ : ∃ low, low = min d e := ⟨_, rfl⟩
  have power : (0 : ℚ) < 2 ^ low := by positivity
  obtain ⟨i, whole⟩ : ∃ i, atExponent a m d low + atExponent b n e low = i := ⟨_, rfl⟩
  have sum : (i : ℚ) * 2 ^ low = worth a m d + worth b n e := by
    rw [← whole, Int.cast_add, add_mul, atExponent_mul (least ▸ min_le_left d e), atExponent_mul (least ▸ min_le_right d e)]
  obtain ⟨v, keeps, holds⟩ := holds_ofScaled (a && b) i low
  refine ⟨if i = 0 then a && b else decide (i < 0), v, ?_, ?_, ?_, ?_⟩
  · rwa [← sum, abs_mul, abs_of_pos power]
  · rw [add, ← least, whole]
    exact holds
  · intro below
    rw [← sum] at below
    have less : i < 0 := by exact_mod_cast neg_of_mul_neg_left below power.le
    rw [if_neg less.ne, decide_eq_true less]
  · intro above
    rw [← sum] at above
    have more : 0 < i := by exact_mod_cast pos_of_mul_pos_left above power.le
    rw [if_neg more.ne', decide_eq_false more.not_gt]

theorem KeepsOrder.nonneg {r v : ℚ} (keeps : KeepsOrder r v) (positive : 0 ≤ r) : 0 ≤ v := by
  simpa using keeps.low 0 minExponent (by norm_num) le_rfl (by simpa using positive)

/-- What is not larger than a double is held by a double. -/
theorem Holds.isReading {v : ℚ} (holds : Holds negative v x) (within : negative = true → ∃ m e, Normal m e ∧ v ≤ m * 2 ^ e) :
    IsReading x := by
  rcases holds with ⟨normal, -⟩ | large
  · exact .finite normal
  · cases negative with
    | false => exact .infinite
    | true =>
        obtain ⟨m, e, normal, most⟩ := within rfl
        have short : (m : ℚ) < 2 ^ 53 := by exact_mod_cast normal.short
        have power : (2 : ℚ) ^ e ≤ 2 ^ maxExponent := zpow_le_zpow_right₀ (by norm_num) normal.high
        have less : (m : ℚ) * 2 ^ e < 2 ^ 53 * 2 ^ e := mul_lt_mul_of_pos_right short (by positivity)
        have most' : (2 : ℚ) ^ 53 * 2 ^ e ≤ 2 ^ 53 * 2 ^ maxExponent := mul_le_mul_of_nonneg_left power (by positivity)
        exact absurd (large.trans most) (less.trans_le most').not_ge

/-- A double is ranked at least as high as another one that is not above what it holds. -/
theorem Holds.rank_le {v : ℚ} (holds : Holds negative v y) (reading : IsReading y) (normal : Normal m e)
    (above : worth a m e ≤ if negative then -v else v) : rank (.finite a m e) ≤ y.rank := by
  rcases holds with ⟨normal', size⟩ | -
  · rwa [← normal.worth_le_iff normal', worth_eq negative, size]
  · cases reading
    exact normal.rank_bounds.2.le

/-- **A clock does not turn back when time passes.** -/
theorem IsReading.add (reading : IsReading x) (forward : (zero false).le y = true) :
    IsReading (x.add y) ∧ x.rank ≤ (x.add y).rank := by
  rcases zero_le_iff.mp forward with rfl | ⟨b, n, e, rfl, positive⟩
  · rcases reading with @⟨a, m, d, normal⟩ | _
    · exact ⟨.infinite, normal.rank_bounds.2.le⟩
    · exact ⟨.infinite, le_rfl⟩
  rcases reading with @⟨a, m, d, normal⟩ | _
  · obtain ⟨negative, v, keeps, holds, below, above⟩ := holds_add a b m n d e
    have size := abs_worth a m d
    cases negative with
    | true =>
        -- a sum that is not positive is at most as far from zero as the first number is
        have under : worth a m d + worth b n e ≤ 0 := not_lt.mp fun beyond => by cases above beyond
        rw [abs_of_nonpos (by linarith)] at size
        rw [abs_of_nonpos under] at keeps
        have most := keeps.high m d normal.short.le normal.low (by linarith)
        have reading := holds.isReading fun _ => ⟨m, d, normal, most⟩
        refine ⟨reading, holds.rank_le reading normal ?_⟩
        rw [if_pos rfl]
        linarith
    | false =>
        have beyond : 0 ≤ worth a m d + worth b n e := not_lt.mp fun under => by cases below under
        have reading := holds.isReading nofun
        refine ⟨reading, holds.rank_le reading normal ?_⟩
        rw [abs_of_nonneg beyond] at keeps
        rw [if_neg (by decide)]
        rcases le_total (worth a m d) 0 with down | up
        · exact down.trans (keeps.nonneg beyond)
        · rw [abs_of_nonneg up] at size
          rw [size]
          exact keeps.low m d normal.short.le normal.low (by linarith)
  · exact ⟨.infinite, le_rfl⟩

/-- Time that is at least the distance to the next double moves a clock forward. -/
theorem Normal.rank_lt_add (normal : Normal m d) (nonneg : 0 ≤ worth a m d) (enough : 2 ^ d ≤ worth b n e) :
    rank (.finite a m d) < rank (add (.finite a m d) (.finite b n e)) := by
  obtain ⟨negative, v, keeps, holds, -, above⟩ := holds_add a b m n d e
  have step : (0 : ℚ) < 2 ^ d := by positivity
  have beyond : 0 < worth a m d + worth b n e := by linarith
  obtain rfl := above beyond
  rw [abs_of_pos beyond] at keeps
  have size := abs_worth a m d
  rw [abs_of_nonneg nonneg] at size
  have next : ((m + 1 : Nat) : ℚ) * 2 ^ d = m * 2 ^ d + 2 ^ d := by
    push_cast
    ring
  have most := keeps.low (m + 1) d normal.short normal.low (by linarith)
  generalize add (.finite a m d) (.finite b n e) = y at holds ⊢
  rcases holds with ⟨normal', same⟩ | -
  · rw [← not_le, ← normal'.worth_le_iff normal, worth_eq false, same, if_neg (by decide)]
    linarith
  · exact normal.rank_bounds.2

/-! ## Products and integer parts -/

/-- **A product is rounded once.** -/
theorem rounded_mul (a b : Bool) (m n : Nat) (d e : Int) :
    ∃ negative v, IsRounded |worth a m d * worth b n e| v ∧ Holds negative v (mul (.finite a m d) (.finite b n e)) ∧
      (0 < worth a m d * worth b n e → negative = false) := by
  obtain ⟨i, whole⟩ : ∃ i, signed (a != b) (m * n) = i := ⟨_, rfl⟩
  have power : (0 : ℚ) < 2 ^ (d + e) := by positivity
  have product : (i : ℚ) * 2 ^ (d + e) = worth a m d * worth b n e := by
    rw [← whole, worth, worth, zpow_add₀ (by norm_num)]
    cases a <;> cases b <;> simp [signed] <;> ring
  obtain ⟨v, rounded, holds⟩ := rounded_ofScaled (a != b) i (d + e)
  refine ⟨if i = 0 then a != b else decide (i < 0), v, ?_, ?_, ?_⟩
  · rwa [← product, abs_mul, abs_of_pos power]
  · rw [mul, whole]
    exact holds
  · intro above
    rw [← product] at above
    have more : 0 < i := by exact_mod_cast pos_of_mul_pos_left above power.le
    rw [if_neg more.ne', decide_eq_false more.not_gt]

/-- **The integer part of a double** is the floor of what it holds. -/
theorem truncate?_of_holds {v : ℚ} (holds : Holds negative v x) (finite : v < 2 ^ 53 * 2 ^ maxExponent) :
    x.truncate? = some (signed negative ⌊v⌋₊) := by
  rcases holds with @⟨m, e, normal, size⟩ | large
  · have quotient : v = (m * 2 ^ e.toNat : Nat) / (2 ^ (-e).toNat : Nat) := by
      rw [← size, eq_div_iff (by positivity)]
      push_cast
      rw [mul_assoc, zpow_mul_two_pow]
    rw [truncate?, quotient, Nat.floor_div_eq_div]
    rfl
  · exact absurd finite large.not_gt

/-! ## Milliseconds as seconds -/

theorem holds_ofQuotient (ms : Nat) : ∃ v, KeepsOrder ((ms : ℚ) / 1000) v ∧ Holds false v (ofQuotient ms 1000) := by
  obtain ⟨v, keeps, holds⟩ := holds_ofRatio (decide ((ms : Int) < 0)) (ms : Int).natAbs (show 0 < 1000 by decide)
  rw [decide_eq_false (by omega)] at holds
  rw [ofQuotient, decide_eq_false (by omega)]
  exact ⟨v, by simpa using keeps, holds⟩

theorem zero_le_ofQuotient (ms : Nat) : (zero false).le (ofQuotient ms 1000) = true := by
  obtain ⟨v, keeps, holds⟩ := holds_ofQuotient ms
  refine zero_le_iff.mpr ?_
  generalize ofQuotient ms 1000 = y at holds
  rcases holds with ⟨normal, size⟩ | -
  · refine .inr ⟨_, _, _, rfl, ?_⟩
    rw [worth_eq, if_neg (by decide)]
    positivity
  · exact .inl rfl

/-- So many seconds, 2^43, that a clock does not come to show them. -/
def ages : Double := .finite false (2 ^ 52) (-9)

theorem isReading_ages : IsReading ages := .finite ⟨by decide, by decide, by decide, .inr le_rfl⟩

/-- **Before that, every millisecond moves a clock forward.** -/
theorem IsReading.rank_lt_add (reading : IsReading x) (started : (zero false).le x = true) (early : x.lt ages = true)
    {ms : Nat} (some : 0 < ms) : x.rank < (x.add (ofQuotient ms 1000)).rank := by
  rcases reading with @⟨a, m, d, normal⟩ | _
  · have nonneg : 0 ≤ worth a m d := by simpa [zero, le_finite_iff, worth_eq false] using started
    have less : worth a m d < 2 ^ 52 * 2 ^ (-9 : Int) := by
      rw [ages, lt_finite_iff, worth_eq false, if_neg (by decide)] at early
      exact_mod_cast early
    have size := abs_worth a m d
    rw [abs_of_nonneg nonneg] at size
    have fine : d ≤ -10 := by
      by_contra coarse
      have full : 2 ^ 52 ≤ m := normal.full.resolve_left (by rw [minExponent]; omega)
      have full' : (2 : ℚ) ^ 52 ≤ m := by exact_mod_cast full
      have power : (2 : ℚ) ^ (-9 : Int) ≤ 2 ^ d := zpow_le_zpow_right₀ (by norm_num) (by omega)
      have large : (2 : ℚ) ^ 52 * 2 ^ (-9 : Int) ≤ m * 2 ^ d := by gcongr
      linarith
    obtain ⟨v, keeps, holds⟩ := holds_ofQuotient ms
    have least : (2 : ℚ) ^ (-10 : Int) ≤ v := by
      have one : (1 : ℚ) ≤ ms := by exact_mod_cast some
      simpa using keeps.low 1 (-10) (by norm_num) (by decide) (by norm_num; linarith)
    have power : (2 : ℚ) ^ d ≤ 2 ^ (-10 : Int) := zpow_le_zpow_right₀ (by norm_num) fine
    generalize ofQuotient ms 1000 = y at holds
    rcases holds with ⟨normal', same⟩ | -
    · refine normal.rank_lt_add nonneg ?_
      rw [worth_eq, if_neg (by decide), same]
      exact power.trans least
    · exact normal.rank_bounds.2
  · simp [lt, compare?, ages] at early

variable {x y : Double} {i j : Int}

/-- A finite double that stands for an integer. -/
def IsExactly (x : Double) (i : Int) : Prop := ∃ a m e, x = .finite a m e ∧ worth a m e = i

theorem IsExactly.lt_iff (first : x.IsExactly i) (second : y.IsExactly j) : x.lt y = true ↔ i < j := by
  obtain ⟨a, m, d, rfl, here⟩ := first
  obtain ⟨b, n, e, rfl, there⟩ := second
  rw [lt_finite_iff, here, there, Int.cast_lt]

theorem IsExactly.le_iff (first : x.IsExactly i) (second : y.IsExactly j) : x.le y = true ↔ i ≤ j := by
  obtain ⟨a, m, d, rfl, here⟩ := first
  obtain ⟨b, n, e, rfl, there⟩ := second
  rw [le_finite_iff, here, there, Int.cast_le]

/-! ## Rounding -/

theorem nearest_of_le {n : Nat} (small : n ≤ 2 ^ 53) : nearest n = n := by
  have fits := fitsIn_multiple small (by decide) 0
  rw [Nat.pow_zero, Nat.mul_one] at fits
  exact nearest_eq_self_iff.mpr fits

/-- What a mantissa and an exponent stand for, where this is an integer. -/
theorem worth_of_whole {negative : Bool} {m w : Nat} {e : Int} (whole : m * twoTo e.toNat = w * twoTo (-e).toNat) :
    worth negative m e = signed negative w := by
  have some : (2 : ℚ) ^ (-e).toNat ≠ 0 := by positivity
  have size : (m : ℚ) * 2 ^ e = w := by
    rw [← mul_left_inj' some, mul_assoc, zpow_mul_two_pow]
    simp only [twoTo_eq] at whole
    exact_mod_cast whole
  rw [worth_eq, size]
  cases negative <;> simp [signed]

/-- **The integers up to 2^53 are doubles.** -/
theorem exactly_ofDecimal (small : i.natAbs ≤ 2 ^ 53) : (ofDecimal (decide (i < 0)) i.natAbs 0).IsExactly i := by
  have value : signed (decide (i < 0)) i.natAbs = i := by
    rw [signed]
    split <;> simp only [decide_eq_true_eq] at * <;> omega
  by_cases none : i.natAbs = 0
  · rw [ofDecimal, if_pos none]
    refine ⟨_, 0, _, rfl, ?_⟩
    rw [worth_of_whole (w := i.natAbs) (by rw [none, Nat.zero_mul, Nat.zero_mul]), value]
  · have short : i.natAbs < tenTo Decimal.precision := Nat.lt_of_le_of_lt small (by decide)
    obtain ⟨m, e, rounded, whole⟩ :=
      ofRatio_one (decide (i < 0)) none ((Nat.log2_lt none).mpr (Nat.lt_of_le_of_lt small (by decide)))
    rw [nearest_of_le small] at whole
    rw [ofDecimal_whole none short, rounded]
    exact ⟨_, m, e, rfl, by rw [worth_of_whole whole, value]⟩

theorem exactly_ofInt (small : i.natAbs ≤ 2 ^ 53) : (ofInt i).IsExactly i := by
  have exact := exactly_ofDecimal small
  by_cases none : i.natAbs = 0
  · rw [ofInt, none, ofRatio, if_pos rfl]
    rwa [ofDecimal, if_pos none] at exact
  · rw [ofInt]
    rwa [ofDecimal_whole none (Nat.lt_of_le_of_lt small (by decide))] at exact

/-! ## Reading -/

/-- The digits of a number are not the name of an infinity or of no number. -/
theorem ofNat_ne_name (n : Nat) {name : Text} {c : Char} (first : name.head? = some c)
    (letter : ¬ (48 ≤ c.toNat ∧ c.toNat ≤ 57)) : (Text.ofNat n).map Char.toLower ≠ name := by
  intro same
  obtain ⟨d, digits, whole⟩ := List.exists_cons_of_ne_nil (ofNat_ne_nil n)
  have digit : 48 ≤ d.toNat ∧ d.toNat ≤ 57 := isDigit_of_mem_ofNat (n := n) (by rw [whole]; exact List.mem_cons_self)
  have kept : d.toLower = d := by
    have each : ∀ n < 58, 48 ≤ n → (Char.ofNat n).toLower = Char.ofNat n := by decide
    rw [← Char.ofNat_toNat d]
    exact each d.toNat (by omega) digit.1
  rw [← same, whole, List.map_cons, List.head?_cons, kept] at first
  exact letter (Option.some.inj first ▸ digit)

/-- **The text of an integer is read** as the decimal with its value is rounded. -/
theorem read?_ofInt (i : Int) : read? (Text.ofInt i) = some (ofDecimal (decide (i < 0)) i.natAbs 0) := by
  have digits : ∀ c ∈ Text.ofNat i.natAbs, 48 ≤ c.toNat ∧ c.toNat ≤ 57 := fun _ member => isDigit_of_mem_ofNat member
  have noName {name : Text} (first : name.head? = some 'i' ∨ name.head? = some 'n') :
      (Text.ofNat i.natAbs).map Char.toLower ≠ name := by
    rcases first with first | first <;> exact ofNat_ne_name _ first (by decide)
  have some : ((Text.ofNat i.natAbs).map fun c => c.toNat - 48).isEmpty = false := by simp [ofNat_ne_nil]
  have value : Integer.valueOf ((Text.ofNat i.natAbs).map fun c => c.toNat - 48) = i.natAbs :=
    (Integer.valueOf_digits _).trans (Nat.ofDigitChars_toDigits (by decide) (by decide))
  rw [read?, Integer.trimNumber_ofInt, Integer.signOf_ofInt]
  dsimp only
  rw [if_neg (by simp only [Bool.or_eq_true, decide_eq_true_eq, not_or]; exact ⟨noName (.inl rfl), noName (.inl rfl)⟩),
    if_neg (noName (.inr rfl)), Integer.digitRun, Integer.digitRunIn_digits digits]
  simp only [Option.bind_eq_bind, Option.bind_some, fractionRun, exponentPart, some, Bool.false_and, List.append_nil,
    value]
  rfl

/-- **The text of an integer up to 2^53 is read exactly.** -/
theorem exactly_read? (small : i.natAbs ≤ 2 ^ 53) : ∃ x, read? (Text.ofInt i) = some x ∧ x.IsExactly i :=
  ⟨_, read?_ofInt i, exactly_ofDecimal small⟩

end ApiFlow.Double
