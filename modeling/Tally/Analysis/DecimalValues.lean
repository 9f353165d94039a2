import Mathlib.Algebra.Order.Field.Rat
import Mathlib.Tactic.FieldSimp
import Mathlib.Tactic.Linarith
import Mathlib.Tactic.NormNum
import Mathlib.Tactic.Ring
import Tally.Analysis.RuleRates
import Tally.Model.Receipt

/-!
# Values of decimals

A finite decimal is a rational number, and the comparisons of decimals are those of the numbers.
-/

set_option autoImplicit false

namespace Tally.Analysis.DecimalValues
open Tally.Model Tally.Model.Receipt
open Applicability (Decimal)
open RuleRates (rational ten_zpow_ne_zero roundHalfEven_mul_eq)

/-- The number with a sign. -/
def valueOf (negative : Bool) (coefficient : Nat) (exponent : Int) : ℚ :=
  (if negative then -1 else 1) * (coefficient * 10 ^ exponent)

theorem rational_finite (negative : Bool) (coefficient : Nat) (exponent : Int) :
    rational (some (.finite negative coefficient exponent)) =
      some (valueOf negative coefficient exponent) := rfl

theorem ten_zpow_pos (k : Int) : (0 : ℚ) < 10 ^ k := zpow_pos (by norm_num) k

/-- The scaled coefficient counts units of the exponent it is scaled to. -/
theorem scaled_mul (negative : Bool) (coefficient : Nat) {exponent low : Int} (h : low ≤ exponent) :
    (scaled negative coefficient exponent low : ℚ) * 10 ^ low =
      valueOf negative coefficient exponent := by
  obtain ⟨k, hk⟩ := Int.eq_ofNat_of_zero_le (Int.sub_nonneg_of_le h)
  have hexponent : exponent = k + low := by omega
  unfold scaled valueOf
  rw [hk, Int.toNat_natCast, hexponent, zpow_add₀ (by norm_num), zpow_natCast]
  push_cast
  split <;> ring

theorem scaled_eq_iff {n n' : Bool} {c c' : Nat} {e e' : Int} :
    scaled n c e (min e e') = scaled n' c' e' (min e e') ↔ valueOf n c e = valueOf n' c' e' := by
  rw [← scaled_mul n c (min_le_left e e'), ← scaled_mul n' c' (min_le_right e e'),
    mul_left_inj' (ten_zpow_ne_zero _), Int.cast_inj]

theorem scaled_lt_iff {n n' : Bool} {c c' : Nat} {e e' : Int} :
    scaled n c e (min e e') < scaled n' c' e' (min e e') ↔ valueOf n c e < valueOf n' c' e' := by
  rw [← scaled_mul n c (min_le_left e e'), ← scaled_mul n' c' (min_le_right e e'),
    mul_lt_mul_iff_left₀ (ten_zpow_pos _), Int.cast_lt]

/-- What equals a finite decimal is the same number. -/
theorem rational_of_equal {negative : Bool} {coefficient : Nat} {exponent : Int} {d : Decimal}
    (h : equal (.finite negative coefficient exponent) d = true) :
    rational (some d) = some (valueOf negative coefficient exponent) := by
  cases d with
  | finite n' c' e' =>
      rw [rational_finite, ← scaled_eq_iff.mp (of_decide_eq_true h)]
  | infinity n' => exact absurd h (by simp [equal])
  | nan => exact absurd h (by simp [equal])

/-! ## Digits of coefficients -/

theorem digitCount_le_iff {coefficient k : Nat} (hk : 0 < k) :
    digitCount coefficient ≤ k ↔ coefficient < 10 ^ k :=
  Nat.length_toDigits_le_iff (by norm_num) hk

theorem digitCount_pos (coefficient : Nat) : 0 < digitCount coefficient := Nat.length_toDigits_pos

theorem lt_pow_digitCount (coefficient : Nat) : coefficient < 10 ^ digitCount coefficient :=
  (digitCount_le_iff (digitCount_pos coefficient)).mp le_rfl

theorem pow_le_of_pos {coefficient : Nat} (h : 0 < coefficient) :
    10 ^ (digitCount coefficient - 1) ≤ coefficient := by
  by_contra hlt
  have hpos := digitCount_pos coefficient
  by_cases hone : digitCount coefficient = 1
  · rw [hone] at hlt
    simp only [Nat.sub_self, Nat.pow_zero] at hlt
    omega
  · have hle := (digitCount_le_iff (by omega)).mpr (Nat.lt_of_not_le hlt)
    omega

/-- The exponent of the first digit of a number below a power of ten. -/
theorem digitCount_add_lt {coefficient : Nat} {exponent bound : Int} (hpos : 0 < coefficient)
    (h : (coefficient : ℚ) * 10 ^ exponent < 10 ^ bound) :
    digitCount coefficient + exponent ≤ bound := by
  have hfirst : (10 : ℚ) ^ ((digitCount coefficient - 1 : Nat) + exponent : Int) ≤
      coefficient * 10 ^ exponent := by
    rw [zpow_add₀ (by norm_num), zpow_natCast]
    have hcast : ((10 ^ (digitCount coefficient - 1) : Nat) : ℚ) ≤ coefficient :=
      Nat.cast_le.mpr (pow_le_of_pos hpos)
    push_cast at hcast
    exact mul_le_mul_of_nonneg_right hcast (ten_zpow_pos exponent).le
  have hlt := (zpow_lt_zpow_iff_right₀ (by norm_num : (1 : ℚ) < 10)).mp (hfirst.trans_lt h)
  have hcount := digitCount_pos coefficient
  omega

/-! ## Results in the context -/

/-- Rounding at most doubles a number. -/
theorem roundHalfEven_mul_le (num den : Nat) : roundHalfEven num den * den ≤ 2 * num := by
  have hdivision := Nat.div_add_mod num den
  rw [Nat.mul_comm] at hdivision
  unfold roundHalfEven
  dsimp only
  split
  · omega
  · rename_i hup
    rw [not_or] at hup
    rw [Nat.add_mul, Nat.one_mul]
    omega

theorem zpow_toNat_mul {last exponent : Int} (h : exponent ≤ last) (coefficient : Nat) :
    (coefficient : ℚ) * 10 ^ last =
      ((coefficient * 10 ^ (last - exponent).toNat : Nat) : ℚ) * 10 ^ exponent := by
  obtain ⟨k, hk⟩ := Int.eq_ofNat_of_zero_le (Int.sub_nonneg_of_le h)
  have hlast : last = k + exponent := by omega
  rw [hk, Int.toNat_natCast, hlast, zpow_add₀ (by norm_num), zpow_natCast]
  push_cast
  ring

/-- A rounded coefficient counts larger units, and at most doubles. -/
theorem rounded_le (coefficient : Nat) {exponent last : Int} (h : exponent ≤ last) :
    ((roundHalfEven coefficient (10 ^ (last - exponent).toNat) : Nat) : ℚ) * 10 ^ last ≤
      2 * (coefficient * 10 ^ exponent) := by
  have hle : ((roundHalfEven coefficient (10 ^ (last - exponent).toNat) *
      10 ^ (last - exponent).toNat : Nat) : ℚ) ≤ ((2 * coefficient : Nat) : ℚ) :=
    Nat.cast_le.mpr (roundHalfEven_mul_le _ _)
  rw [zpow_toNat_mul h]
  calc ((roundHalfEven coefficient (10 ^ (last - exponent).toNat) *
        10 ^ (last - exponent).toNat : Nat) : ℚ) * 10 ^ exponent
      ≤ ((2 * coefficient : Nat) : ℚ) * 10 ^ exponent :=
        mul_le_mul_of_nonneg_right hle (ten_zpow_pos exponent).le
    _ = 2 * (coefficient * 10 ^ exponent) := by push_cast; ring

/-- What is returned has the sign that was given, and at most twice the size. -/
theorem fix_ok {negative : Bool} {coefficient : Nat} {exponent : Int} {d : Decimal}
    (h : fix negative coefficient exponent = .ok d) :
    ∃ c e, d = .finite negative c e ∧
      (c : ℚ) * 10 ^ e ≤ 2 * (coefficient * 10 ^ exponent) := by
  have hvalue : (0 : ℚ) ≤ coefficient * 10 ^ exponent :=
    mul_nonneg (Nat.cast_nonneg _) (ten_zpow_pos exponent).le
  unfold fix at h
  split at h
  · obtain rfl := Except.ok.inj h
    exact ⟨0, _, rfl, by simpa using hvalue⟩
  · split at h
    · exact absurd h (by simp)
    · dsimp only at h
      split at h
      · obtain rfl := Except.ok.inj h
        exact ⟨coefficient, exponent, rfl, by linarith⟩
      · rename_i hlast
        have hle := rounded_le coefficient (Int.le_of_not_le hlast)
        split at h
        · obtain rfl := Except.ok.inj h
          exact ⟨_, _, rfl, hle⟩
        · split at h
          · exact absurd h (by simp)
          · obtain rfl := Except.ok.inj h
            refine ⟨_, _, rfl, le_trans ?_ hle⟩
            rw [zpow_add₀ (by norm_num), zpow_one, mul_comm ((10 : ℚ) ^ _) 10, ← mul_assoc]
            refine mul_le_mul_of_nonneg_right ?_ (ten_zpow_pos _).le
            exact_mod_cast Nat.div_mul_le_self _ 10

/-- A number of the context: no more digits than the precision, and exponents in range. -/
def Represented (magnitude : ℚ) : Prop :=
  ∃ (n : Nat) (k : Int), n < 10 ^ precision ∧ etiny ≤ k ∧ k ≤ etop ∧ magnitude = n * 10 ^ k

/-- The numbers of the context are kept. -/
theorem fix_exact (negative : Bool) {coefficient : Nat} {exponent : Int}
    (h : Represented (coefficient * 10 ^ exponent)) :
    ∃ c e, fix negative coefficient exponent = .ok (.finite negative c e) ∧
      (c : ℚ) * 10 ^ e = coefficient * 10 ^ exponent := by
  obtain ⟨n, k, hn, hlow, hhigh, heq⟩ := h
  unfold fix
  by_cases hzero : coefficient = 0
  · rw [if_pos hzero]
    exact ⟨0, _, rfl, by simp [hzero]⟩
  have hpos : 0 < coefficient := Nat.pos_of_ne_zero hzero
  have hbound : (coefficient : ℚ) * 10 ^ exponent < 10 ^ (precision + k : Int) := by
    rw [heq, zpow_add₀ (by norm_num), zpow_natCast]
    refine mul_lt_mul_of_pos_right ?_ (ten_zpow_pos k)
    exact_mod_cast hn
  have hfirst := digitCount_add_lt hpos hbound
  rw [if_neg hzero, if_neg (by omega)]
  dsimp only
  generalize hlast : max (digitCount coefficient + exponent - precision : Int) etiny = last
  have hlastk : last ≤ k := by omega
  split
  · exact ⟨coefficient, exponent, rfl, rfl⟩
  · rename_i hround
    have hle : exponent ≤ last := by omega
    -- The coefficient is a multiple of what is rounded away.
    have hmultiple : coefficient = n * 10 ^ (k - exponent).toNat := by
      rw [zpow_toNat_mul (by omega : exponent ≤ k),
        mul_left_inj' (ten_zpow_ne_zero exponent)] at heq
      exact_mod_cast heq
    have hdvd : 10 ^ (last - exponent).toNat ∣ coefficient := by
      rw [hmultiple]
      exact Dvd.dvd.mul_left (Nat.pow_dvd_pow 10 (by omega)) n
    have hexact := (roundHalfEven_mul_eq (Nat.pow_pos (by norm_num))).mpr hdvd
    have hfew : digitCount (roundHalfEven coefficient (10 ^ (last - exponent).toNat)) ≤
        precision := by
      rw [digitCount_le_iff (by decide)]
      have hlt : roundHalfEven coefficient (10 ^ (last - exponent).toNat) *
          10 ^ (last - exponent).toNat < 10 ^ digitCount coefficient := by
        rw [hexact]
        exact lt_pow_digitCount coefficient
      have hpow : 10 ^ digitCount coefficient ≤
          10 ^ precision * 10 ^ (last - exponent).toNat := by
        rw [← Nat.pow_add]
        exact Nat.pow_le_pow_right (by norm_num) (by omega)
      exact Nat.lt_of_mul_lt_mul_right (hlt.trans_le hpow)
    rw [if_pos hfew]
    refine ⟨_, _, rfl, ?_⟩
    rw [zpow_toNat_mul hle, hexact]

/-- Numbers well below the largest of the context do not overflow. -/
theorem fix_returns (negative : Bool) {coefficient : Nat} {exponent : Int}
    (h : 2 * ((coefficient : ℚ) * 10 ^ exponent) < 10 ^ (etop + precision)) :
    ∃ d, fix negative coefficient exponent = .ok d := by
  unfold fix
  by_cases hzero : coefficient = 0
  · rw [if_pos hzero]
    exact ⟨_, rfl⟩
  have hpos : 0 < coefficient := Nat.pos_of_ne_zero hzero
  have hvalue : (0 : ℚ) < coefficient * 10 ^ exponent :=
    mul_pos (Nat.cast_pos.mpr hpos) (ten_zpow_pos exponent)
  have hfirst := digitCount_add_lt hpos (by linarith : (coefficient : ℚ) * 10 ^ exponent < _)
  rw [if_neg hzero, if_neg (by omega)]
  dsimp only
  generalize hlast : max (digitCount coefficient + exponent - precision : Int) etiny = last
  split
  · exact ⟨_, rfl⟩
  · rename_i hround
    split
    · exact ⟨_, rfl⟩
    · rename_i hcarry
      rw [if_neg]
      · exact ⟨_, rfl⟩
      · have hrounded := (rounded_le coefficient (by omega : exponent ≤ last)).trans_lt h
        have hfirst' := digitCount_add_lt (Nat.pos_of_ne_zero (fun hnil => by
          rw [hnil] at hcarry
          exact hcarry (by decide))) hrounded
        omega

end Tally.Analysis.DecimalValues
