import Mathlib.Algebra.Order.Field.Basic
import Mathlib.Tactic.Positivity
import Tally.Analysis.DecimalValues
import Tally.Model.DecimalColumns

/-!
# What a money column keeps

A money column gives back the number that was written exactly if the number has no fraction of a
cent.
-/

set_option autoImplicit false

namespace Tally.Analysis.MoneyColumns
open Tally.Model Tally.Model.Receipt Tally.Model.DecimalColumns
open Applicability (Decimal)
open RuleRates (rational)
open DecimalValues

/-- The number has no fraction of a cent. -/
def InCents (rate : Decimal) : Prop := ∃ cents : ℤ, rational (some rate) = some ((cents : ℚ) / 100)

/-! ## Rounding -/

theorem roundHalfUp_mul (m : Nat) {d : Nat} (hd : 0 < d) : roundHalfUp (m * d) d = m := by
  unfold roundHalfUp
  have hsum : 2 * (m * d) + d = d + 2 * d * m := by ring
  rw [hsum, Nat.add_mul_div_left _ _ (by omega), Nat.div_eq_of_lt (by omega), Nat.zero_add]

/-- A number of cents has its cents as units. -/
theorem unitsOf_eq {coefficient : Nat} {exponent : Int} {cents : Nat}
    (h : (coefficient * 10 ^ exponent : ℚ) = (cents : ℚ) / 100) :
    unitsOf 2 coefficient exponent = cents := by
  have hcents : (coefficient * 10 ^ (exponent + 2) : ℚ) = cents := by
    rw [zpow_add₀ (by norm_num), ← mul_assoc, h]
    norm_num
  unfold unitsOf
  split
  · rename_i hle
    have hexponent : (((exponent + 2).toNat : Nat) : Int) = exponent + 2 := by
      push_cast at hle
      omega
    rw [← hexponent, zpow_natCast] at hcents
    exact_mod_cast hcents
  · rename_i hlt
    have hexponent : exponent + 2 = -(((-(2 : Int) - exponent).toNat : Nat) : Int) := by
      push_cast at hlt
      omega
    have hpos : (0 : ℚ) < 10 ^ (-(2 : Int) - exponent).toNat := by positivity
    rw [hexponent, zpow_neg, zpow_natCast, ← div_eq_mul_inv, div_eq_iff hpos.ne'] at hcents
    have hcoefficient : coefficient = cents * 10 ^ (-(2 : Int) - exponent).toNat := by
      exact_mod_cast hcents
    rw [hcoefficient]
    exact roundHalfUp_mul cents (by positivity)

/-! ## Columns -/

theorem storeMoney_finite {negative : Bool} {coefficient : Nat} {exponent : Int} {kept : Decimal}
    (h : storeMoney (.finite negative coefficient exponent) = some kept) :
    kept = .finite (negative && unitsOf 2 coefficient exponent ≠ 0)
      (unitsOf 2 coefficient exponent) (-2) := by
  unfold storeMoney storeDecimal at h
  dsimp only at h
  split at h
  · exact (Option.some.inj h).symm
  · exact absurd h (by simp)

/-- The sign of a zero makes no difference. -/
theorem valueOf_kept (negative : Bool) (units : Nat) :
    valueOf (negative && units ≠ 0) units (-2) = valueOf negative units (-2) := by
  unfold valueOf
  by_cases hzero : units = 0
  · simp [hzero]
  · simp [hzero]

theorem abs_valueOf (negative : Bool) (coefficient : Nat) (exponent : Int) :
    |valueOf negative coefficient exponent| = coefficient * 10 ^ exponent := by
  have hnonneg : (0 : ℚ) ≤ coefficient * 10 ^ exponent :=
    mul_nonneg (Nat.cast_nonneg coefficient) (ten_zpow_pos exponent).le
  unfold valueOf
  rw [abs_mul, abs_of_nonneg hnonneg]
  cases negative <;> simp

/-- A number is kept exactly if it is one of cents. -/
theorem kept_iff {negative : Bool} {coefficient : Nat} {exponent : Int} {kept : Decimal}
    (h : storeMoney (.finite negative coefficient exponent) = some kept) :
    rational (some kept) = rational (some (.finite negative coefficient exponent)) ↔
      InCents (.finite negative coefficient exponent) := by
  rw [storeMoney_finite h, rational_finite, rational_finite, valueOf_kept]
  unfold InCents
  rw [rational_finite]
  simp only [Option.some.injEq]
  constructor
  · intro hvalue
    refine ⟨(if negative then -1 else 1) * (unitsOf 2 coefficient exponent : ℤ), ?_⟩
    rw [← hvalue]
    unfold valueOf
    norm_num
    cases negative <;> simp <;> ring
  · rintro ⟨cents, hcents⟩
    have hmagnitude : (coefficient * 10 ^ exponent : ℚ) = (cents.natAbs : ℚ) / 100 := by
      rw [← abs_valueOf negative, hcents, abs_div, Nat.cast_natAbs, Int.cast_abs]
      norm_num
    have hunits := unitsOf_eq hmagnitude
    unfold valueOf
    rw [hunits, hmagnitude]
    norm_num [div_eq_mul_inv]

end Tally.Analysis.MoneyColumns
