import ApiFlow.Proofs.Number.Rounding
import ApiFlow.Summary.Basic
import Mathlib.Data.List.Sort

/-!
# The latency figures are order statistics

Of `n` durations the slowest is the greatest.  The percentile has at least `i + 1` of them at or below it and at least
`n - i` at or above it, where `i` is the floor of `19 (n - 1) / 20`.  Neither depends on the order of the durations.

The place `i` is worked out in double precision with a share that is a little below 95/100.  The exact product is then a
little below `19 (n - 1) / 20`, but by less than half the distance to the next double: where the latter is an integer, the
product is rounded to it.  Where it is not, the next integer is farther away than rounding can reach, for fewer than 2^50
durations.

* `truncate?_place` : the integer part of the rounded product is the floor of the exact one.
* `IsOrderStatistic`, `isOrderStatistic_sorted` : what stands at a place among sorted durations.
* `latency_order_statistics` : both figures.
-/

set_option autoImplicit false

namespace ApiFlow.Latency

open ApiFlow.Double

/-! ## The place of the percentile -/

/-- The share is the double next to 95/100, which lies below it. -/
theorem share_eq : share = .finite false 8556839292003942 (-53) := by
  decide

variable {k n i : Nat} {v : ℚ} {e : Int}

/-- The exact product of a number and the share: the share is 19/20 less two fifths of 2^-53. -/
def product (k : Nat) : ℚ := 19 / 20 * k - 2 / 5 * (k / 2 ^ 53)

theorem worth_share (k : Nat) : k * worth false 8556839292003942 (-53) = product k := by
  rw [worth, product, zpow_neg]
  norm_num [signed]
  ring

/-- The doubles next to the product have all their bits, and below 2^50 they are at most 1/8 apart. -/
theorem spacing_of_fits (some : 0 < k) (few : k < 2 ^ 50) (fits : FitsAt (product k) e) :
    2 ^ 52 * 2 ^ e ≤ product k ∧ e ≤ -3 := by
  have one : (1 : ℚ) ≤ k := by exact_mod_cast some
  have few : (k : ℚ) < 2 ^ 50 := by exact_mod_cast few
  have normal : 2 ^ 52 * 2 ^ e ≤ product k := by
    refine fits.above.resolve_left fun tiny => ?_
    have power : (2 : ℚ) ^ e ≤ 2 ^ (-60 : Int) := zpow_le_zpow_right₀ (by norm_num) (by rw [tiny]; decide)
    have below := fits.below
    norm_num [product] at power below
    linarith
  refine ⟨normal, ?_⟩
  by_contra coarse
  have power : (2 : ℚ) ^ (-2 : Int) ≤ 2 ^ e := zpow_le_zpow_right₀ (by norm_num) (by omega)
  norm_num [product] at power normal
  linarith

/-- Where the spacing is at most one, an integer that is less than one spacing above a multiple is not above it. -/
theorem le_multiple_of_lt {m : Nat} (small : e ≤ 0) (next : (i : ℚ) < (m + 1) * 2 ^ e) : (i : ℚ) ≤ m * 2 ^ e := by
  have power : (0 : ℚ) < 2 ^ e := by positivity
  have whole : ((i * 2 ^ (-e).toNat : Nat) : ℚ) * 2 ^ e = i := by
    have negative : e.toNat = 0 := by omega
    push_cast
    rw [mul_assoc, mul_comm _ ((2 : ℚ) ^ e), zpow_mul_two_pow, negative, pow_zero, mul_one]
  rw [← whole, mul_lt_mul_iff_of_pos_right power] at next
  have reached : i * 2 ^ (-e).toNat ≤ m := Nat.le_of_lt_succ (by exact_mod_cast next)
  rw [← whole]
  gcongr

/-- **Rounding does not move the place**: the floor of the rounded product is that of `19 k / 20`. -/
theorem floor_of_rounded (some : 0 < k) (few : k < 2 ^ 50) (rounded : IsRounded (product k) v) :
    ⌊v⌋₊ = 19 * k / 20 := by
  obtain @⟨m, e, fits, rounded⟩ := rounded
  obtain ⟨normal, small⟩ := spacing_of_fits some few fits
  have fine : (2 : ℚ) ^ e ≤ 2 ^ (-3 : Int) := zpow_le_zpow_right₀ (by norm_num) small
  obtain ⟨i, place⟩ : ∃ i, 19 * k / 20 = i := ⟨_, rfl⟩
  have least : (20 * i : ℚ) ≤ 19 * k := by exact_mod_cast (by omega)
  have most : (19 * k : ℚ) ≤ 20 * i + 19 := by exact_mod_cast (by omega)
  have below := fits.below
  obtain ⟨near, near'⟩ := abs_le.mp rounded.near
  rw [product] at normal below near near'
  rw [place, Nat.floor_eq_iff (by positivity)]
  refine ⟨le_multiple_of_lt (by omega) ?_, ?_⟩
  · -- the product is less than half a spacing below the place
    norm_num at below
    linarith
  · norm_num at normal fine
    linarith

/-- The rounded product is in the range of the doubles. -/
theorem lt_top_of_rounded (few : k < 2 ^ 50) (rounded : IsRounded (product k) v) : v < 2 ^ 53 * 2 ^ maxExponent := by
  have less : product k ≤ (2 ^ 50 : Nat) * 2 ^ (0 : Int) := by
    have few : (k : ℚ) < 2 ^ 50 := by exact_mod_cast few
    have positive : (0 : ℚ) ≤ k := Nat.cast_nonneg k
    rw [product, zpow_zero]
    push_cast
    linarith
  have within := rounded.keepsOrder.high (2 ^ 50) 0 (by norm_num) (by decide) less
  have power : (1 : ℚ) ≤ 2 ^ maxExponent := one_le_zpow₀ (by norm_num) (by decide)
  norm_num at within ⊢
  linarith

/-- **The place is worked out exactly**, in double precision as in whole numbers. -/
theorem truncate?_place (few : k < 2 ^ 50) :
    truncate? (mul (ofInt k) share) = some ((19 * k / 20 : Nat) : Int) := by
  rcases Nat.eq_zero_or_pos k with rfl | positive
  · decide +kernel
  · have small : (k : Int).natAbs ≤ 2 ^ 53 := by
      rw [Int.natAbs_natCast]
      exact few.le.trans (by norm_num)
    obtain ⟨a, m, e, exact, value⟩ := exactly_ofInt small
    obtain ⟨negative, v, rounded, holds, sign⟩ := rounded_mul a false m 8556839292003942 e (-53)
    have exact' : worth a m e * worth false 8556839292003942 (-53) = product k := by
      rw [value, Int.cast_natCast, worth_share]
    have one : (1 : ℚ) ≤ k := by exact_mod_cast positive
    have above : 0 < product k := by
      rw [product]
      linarith
    rw [exact', abs_of_pos above] at rounded
    rw [exact'] at sign
    obtain rfl := sign above
    rw [exact, share_eq, truncate?_of_holds holds (lt_top_of_rounded few rounded), floor_of_rounded positive few rounded]
    rfl

theorem percentilePlace_eq (some : 0 < n) (few : n ≤ 2 ^ 50) : percentilePlace n = 19 * (n - 1) / 20 := by
  have last : (n : Int) - 1 = (n - 1 : Nat) := by omega
  rw [percentilePlace, last, truncate?_place (by omega), Option.getD_some, Int.toNat_natCast]
  omega

/-! ## Order statistics -/

/-- One of the durations, with enough of them on either side of it to stand at a place when they are sorted. -/
structure IsOrderStatistic (durations : List Int) (i : Nat) (p : Int) : Prop where
  listed : p ∈ durations
  below : i + 1 ≤ durations.countP (· ≤ p)
  above : durations.length - i ≤ durations.countP (p ≤ ·)

variable {durations others : List Int} {p : Int}

theorem sorted_perm (durations : List Int) : (sorted durations).Perm durations := List.mergeSort_perm _ _

theorem pairwise_sorted (durations : List Int) : (sorted durations).Pairwise (· ≤ ·) := by
  have transitive (a b c : Int) (one : decide (a ≤ b) = true) (two : decide (b ≤ c) = true) : decide (a ≤ c) = true :=
    decide_eq_true (Int.le_trans (of_decide_eq_true one) (of_decide_eq_true two))
  have total (a b : Int) : (decide (a ≤ b) || decide (b ≤ a)) = true := by simpa using Int.le_total a b
  exact (List.pairwise_mergeSort transitive total durations).imp of_decide_eq_true

/-- **The order of the durations does not matter.** -/
theorem sorted_congr (same : others.Perm durations) : sorted others = sorted durations :=
  ((sorted_perm others).trans (same.trans (sorted_perm durations).symm)).eq_of_pairwise
    (fun _ _ _ _ => Int.le_antisymm) (pairwise_sorted others) (pairwise_sorted durations)

/-- What stands at a place of a sorted list has all in front of it below and all behind it above. -/
theorem isOrderStatistic_of_pairwise (ordered : durations.Pairwise (· ≤ ·)) (stands : durations[i]? = some p) :
    IsOrderStatistic durations i p := by
  obtain ⟨front, back, rfl, size⟩ : ∃ front back, durations = front ++ p :: back ∧ front.length = i := by
    obtain ⟨within, rfl⟩ := List.getElem?_eq_some_iff.mp stands
    refine ⟨durations.take i, durations.drop (i + 1), ?_, List.length_take_of_le within.le⟩
    rw [← List.drop_eq_getElem_cons within, List.take_append_drop]
  obtain ⟨-, behind, between⟩ := List.pairwise_append.mp ordered
  have least := (List.pairwise_cons.mp behind).1
  have before : front.countP (· ≤ p) = i := by
    rw [List.countP_eq_length.mpr fun d listed => decide_eq_true (between d listed p List.mem_cons_self), size]
  have itself : 0 < (p :: back).countP (· ≤ p) :=
    List.countP_pos_iff.mpr ⟨p, List.mem_cons_self, decide_eq_true le_rfl⟩
  have after : (p :: back).countP (p ≤ ·) = (p :: back).length :=
    List.countP_eq_length.mpr fun d listed => decide_eq_true ((List.mem_cons.mp listed).elim (·.ge) (least d))
  refine ⟨List.mem_append_right front List.mem_cons_self, ?_, ?_⟩
  · rw [List.countP_append, before]
    omega
  · rw [List.countP_append, after, List.length_append]
    omega

theorem IsOrderStatistic.perm (stands : IsOrderStatistic others i p) (same : others.Perm durations) :
    IsOrderStatistic durations i p where
  listed := same.mem_iff.mp stands.listed
  below := same.countP_eq _ ▸ stands.below
  above := by
    rw [← same.length_eq, ← same.countP_eq]
    exact stands.above

/-- **What stands at a place among sorted durations** is an order statistic of the durations in any order. -/
theorem isOrderStatistic_sorted (within : i < durations.length) :
    IsOrderStatistic durations i ((sorted durations)[i]?.getD 0) := by
  have same := sorted_perm durations
  have within : i < (sorted durations).length := same.length_eq ▸ within
  rw [List.getElem?_eq_getElem within, Option.getD_some]
  exact (isOrderStatistic_of_pairwise (pairwise_sorted durations) (List.getElem?_eq_getElem within)).perm same

/-- The last of the sorted durations is the greatest. -/
theorem IsOrderStatistic.greatest (stands : IsOrderStatistic durations (durations.length - 1) p) :
    ∀ d ∈ durations, d ≤ p := by
  have all : durations.countP (· ≤ p) = durations.length := by
    have below := stands.below
    have most := durations.countP_le_length (p := (· ≤ p))
    have some := List.length_pos_of_mem stands.listed
    omega
  exact fun d listed => of_decide_eq_true (List.countP_eq_length.mp all d listed)

/-- **The latency figures are order statistics.**  The slowest duration is the greatest, and the percentile is the one with
at least `i + 1` durations at or below it and at least `n - i` at or above it, for `i` the floor of `19 (n - 1) / 20`, from
which double precision does not deviate.  The figures are the same in every order of the durations. -/
theorem latency_order_statistics (ran : durations ≠ []) (few : durations.length < 2 ^ 50) :
    truncate? (mul (ofInt ((durations.length : Int) - 1)) share) = some ((19 * (durations.length - 1) / 20 : Nat) : Int) ∧
      percentilePlace durations.length = 19 * (durations.length - 1) / 20 ∧
      (slowest durations ∈ durations ∧ ∀ d ∈ durations, d ≤ slowest durations) ∧
      IsOrderStatistic durations (19 * (durations.length - 1) / 20) (percentile durations) ∧
      percentile durations ≤ slowest durations ∧
      ∀ others, others.Perm durations → slowest others = slowest durations ∧ percentile others = percentile durations := by
  have positive : 0 < durations.length := List.length_pos_iff.mpr ran
  have last : (durations.length : Int) - 1 = (durations.length - 1 : Nat) := by omega
  have place := percentilePlace_eq positive few.le
  have greatest : IsOrderStatistic durations (durations.length - 1) (slowest durations) := by
    rw [slowest, List.getLast?_eq_getElem?, (sorted_perm durations).length_eq]
    exact isOrderStatistic_sorted (by omega)
  have stands : IsOrderStatistic durations (19 * (durations.length - 1) / 20) (percentile durations) := by
    rw [percentile, place]
    exact isOrderStatistic_sorted (by omega)
  refine ⟨?_, place, ⟨greatest.listed, greatest.greatest⟩, stands, greatest.greatest _ stands.listed, ?_⟩
  · rw [last, truncate?_place (by omega)]
  · intro others same
    rw [slowest, slowest, percentile, percentile, sorted_congr same, same.length_eq]
    exact ⟨rfl, rfl⟩

/-- Durations with one that is far above the others. -/
def busy : List Int := List.replicate 10 30 ++ 900 :: List.replicate 10 20

/-- Of 21 durations the percentile is the last but one, though the exact product is below 19. -/
theorem latency_order_statistics_busy :
    busy ≠ [] ∧ busy.length < 2 ^ 50 ∧ product 20 < 19 ∧ percentilePlace 21 = 19 ∧
      (slowest busy ∈ busy ∧ ∀ d ∈ busy, d ≤ slowest busy) ∧ IsOrderStatistic busy 19 (percentile busy) ∧
      percentile busy ≤ slowest busy := by
  have size : busy.length = 21 := rfl
  have ran : busy ≠ [] := by decide
  have figures := latency_order_statistics ran (by decide)
  rw [size] at figures
  obtain ⟨-, place, greatest, stands, less, -⟩ := figures
  exact ⟨by decide, by decide, by norm_num [product], place, greatest, stands, less⟩

end ApiFlow.Latency
