import Mathlib.Algebra.Order.Field.Rat
import Mathlib.Tactic.FieldSimp
import Mathlib.Tactic.NormNum
import Mathlib.Tactic.Ring
import Tally.Model.Applicability

/-!
# Rates of rules

When `_rate_minor` raises, what it returns otherwise, and which candidates the validators pass.
The cents of a rate are its hundredfold in the precision of the decimal context. That the rate
is the one its clause states is not among the checks: the phrase is looked for in the clause, and
neither the digits after it nor the structured rate are compared with it.
-/

set_option autoImplicit false

namespace Tally.Analysis.RuleRates
open Library Tally.Model Tally.Model.Applicability

/-! ## Rounded hundredfolds -/

/-- A multiple is rounded to its quotient, and nothing else is kept. -/
theorem roundHalfEven_mul_eq {num den : Nat} (hden : 0 < den) :
    roundHalfEven num den * den = num ↔ den ∣ num := by
  constructor
  · intro h
    exact ⟨roundHalfEven num den, by rw [Nat.mul_comm, h]⟩
  · rintro ⟨q, rfl⟩
    have hquotient : roundHalfEven (den * q) den = q := by
      unfold roundHalfEven
      simp [Nat.mul_div_cancel_left q hden, hden]
    rw [hquotient, Nat.mul_comm]

/-- The coefficient of the hundredfold in the precision of the context. -/
def rounded (coefficient : Nat) : Nat :=
  roundHalfEven (coefficient * 100) (10 ^ excessDigits (coefficient * 100))

/-- The hundredfold in the precision of the context. -/
def hundredfold (coefficient : Nat) (exponent : Int) : ℚ :=
  rounded coefficient * 10 ^ (exponent + excessDigits (coefficient * 100))

/-- The hundredfold has no digits beyond the precision. -/
def WithinPrecision (coefficient : Nat) : Prop :=
  10 ^ excessDigits (coefficient * 100) ∣ coefficient * 100

instance (coefficient : Nat) : Decidable (WithinPrecision coefficient) := by
  unfold WithinPrecision
  infer_instance

theorem ten_zpow_ne_zero (k : Int) : (10 : ℚ) ^ k ≠ 0 := zpow_ne_zero k (by norm_num)

/-- The rounded hundredfold is a hundred times the rate exactly within the precision. -/
theorem hundredfold_eq_iff (coefficient : Nat) (exponent : Int) :
    hundredfold coefficient exponent = coefficient * 10 ^ exponent * 100 ↔
      WithinPrecision coefficient := by
  have hscale : hundredfold coefficient exponent =
      ((rounded coefficient * 10 ^ excessDigits (coefficient * 100) : Nat) : ℚ) *
        10 ^ exponent := by
    unfold hundredfold
    rw [zpow_add₀ (by norm_num), zpow_natCast]
    push_cast
    ring
  have hexact : (coefficient : ℚ) * 10 ^ exponent * 100 =
      ((coefficient * 100 : Nat) : ℚ) * 10 ^ exponent := by
    push_cast
    ring
  rw [hscale, hexact, mul_left_inj' (ten_zpow_ne_zero exponent), Nat.cast_inj]
  apply roundHalfEven_mul_eq
  exact Nat.pow_pos (by omega)

/-- Where the exponent stays negative no digit was rounded away. -/
theorem within_of_excess {coefficient : Nat} (h : excessDigits (coefficient * 100) ≤ 2) :
    WithinPrecision coefficient := by
  have hpow : 10 ^ excessDigits (coefficient * 100) ∣ 10 ^ 2 := Nat.pow_dvd_pow 10 h
  exact Dvd.dvd.mul_left hpow coefficient

/-- The conversion of the hundredfold to an integer cuts nothing off. -/
theorem truncated_eq {coefficient : Nat} {exponent : Int} (hcents : -2 ≤ exponent) :
    (truncated (rounded coefficient) (exponent + excessDigits (coefficient * 100)) : ℚ) =
      hundredfold coefficient exponent := by
  unfold truncated
  by_cases hsign : 0 ≤ exponent + excessDigits (coefficient * 100)
  · obtain ⟨k, hk⟩ := Int.eq_ofNat_of_zero_le hsign
    rw [if_pos hsign]
    unfold hundredfold
    rw [hk]
    simp
  · rw [if_neg hsign]
    have hexcess : excessDigits (coefficient * 100) ≤ 2 := by omega
    have hwithin := within_of_excess hexcess
    obtain ⟨k, hk⟩ : ∃ k : Nat, (k : Int) = -(exponent + excessDigits (coefficient * 100)) :=
      ⟨(-(exponent + excessDigits (coefficient * 100))).toNat, by omega⟩
    have hdigits : k + excessDigits (coefficient * 100) ≤ 2 := by omega
    -- The rounded coefficient still ends in the zeros the integer conversion drops.
    have hmultiple : 10 ^ k ∣ rounded coefficient := by
      have hproduct : rounded coefficient * 10 ^ excessDigits (coefficient * 100) =
          coefficient * 100 := (roundHalfEven_mul_eq (Nat.pow_pos (by omega))).mpr hwithin
      have hpow : 10 ^ (k + excessDigits (coefficient * 100)) ∣ 10 ^ 2 :=
        Nat.pow_dvd_pow 10 hdigits
      have hall : 10 ^ k * 10 ^ excessDigits (coefficient * 100) ∣
          rounded coefficient * 10 ^ excessDigits (coefficient * 100) := by
        rw [hproduct, ← Nat.pow_add]
        exact Dvd.dvd.mul_left hpow coefficient
      exact Nat.dvd_of_mul_dvd_mul_right (Nat.pow_pos (by omega)) hall
    obtain ⟨q, hq⟩ := hmultiple
    have hexponent : exponent + excessDigits (coefficient * 100) = -(k : Int) := by omega
    unfold hundredfold
    rw [← hk, Int.toNat_natCast, hexponent, hq, Nat.mul_div_cancel_left q (Nat.pow_pos (by omega)),
      zpow_neg, zpow_natCast]
    push_cast
    field_simp

/-! ## Hundredfolds of one rate -/

/-- A common factor of ten does not change what a quotient is rounded to. -/
theorem roundHalfEven_scale (num den : Nat) :
    roundHalfEven (num * 10) (den * 10) = roundHalfEven num den := by
  unfold roundHalfEven
  dsimp only
  rw [Nat.mul_div_mul_right num den (by omega), Nat.mul_mod_mul_right]
  have hless : 2 * (num % den * 10) < den * 10 ↔ 2 * (num % den) < den := by omega
  have htie : 2 * (num % den * 10) = den * 10 ↔ 2 * (num % den) = den := by omega
  simp only [hless, htie]

theorem length_toDigits_mul_ten {n : Nat} (hn : 0 < n) :
    (Nat.toDigits 10 (n * 10)).length = (Nat.toDigits 10 n).length + 1 := by
  have happend := Nat.toDigits_append_toDigits (b := 10) (d := 0) (by omega) hn (by omega)
  rw [Nat.mul_comm n 10, ← Nat.add_zero (10 * n), ← happend, List.length_append]
  simp

/-- A zero more in the coefficient is a zero more in the rounded hundredfold. -/
theorem rounded_mul_ten {coefficient : Nat} (h : 0 < coefficient) :
    rounded (coefficient * 10) * 10 ^ excessDigits (coefficient * 10 * 100) =
      rounded coefficient * 10 ^ excessDigits (coefficient * 100) * 10 := by
  have hproduct : coefficient * 10 * 100 = coefficient * 100 * 10 := by omega
  have hlength := length_toDigits_mul_ten (n := coefficient * 100) (by omega)
  unfold rounded
  rw [hproduct]
  by_cases hlong : IntakeClaims.decimalPrecision ≤ (Nat.toDigits 10 (coefficient * 100)).length
  · have hexcess : excessDigits (coefficient * 100 * 10) = excessDigits (coefficient * 100) + 1 := by
      unfold excessDigits
      omega
    rw [hexcess, Nat.pow_succ, roundHalfEven_scale, Nat.mul_assoc]
  · have hshort : excessDigits (coefficient * 100) = 0 := by
      unfold excessDigits
      omega
    have hshort' : excessDigits (coefficient * 100 * 10) = 0 := by
      unfold excessDigits
      omega
    rw [hshort, hshort', (roundHalfEven_mul_eq (by simp)).mpr (by simp),
      (roundHalfEven_mul_eq (by simp)).mpr (by simp)]

theorem hundredfold_mul_ten {coefficient : Nat} (h : 0 < coefficient) (exponent : Int) :
    hundredfold (coefficient * 10) (exponent - 1) = hundredfold coefficient exponent := by
  have hscaled : ((rounded (coefficient * 10) *
      10 ^ excessDigits (coefficient * 10 * 100) : Nat) : ℚ) =
        ((rounded coefficient * 10 ^ excessDigits (coefficient * 100) * 10 : Nat) : ℚ) :=
    congrArg Nat.cast (rounded_mul_ten h)
  push_cast at hscaled
  have hstep : (10 : ℚ) ^ exponent = 10 ^ (exponent - 1) * 10 := by
    rw [← zpow_add_one₀ (by norm_num), sub_add_cancel]
  unfold hundredfold
  rw [zpow_add₀ (by norm_num), zpow_add₀ (by norm_num), zpow_natCast, zpow_natCast, hstep]
  calc (rounded (coefficient * 10) : ℚ) *
        (10 ^ (exponent - 1) * 10 ^ excessDigits (coefficient * 10 * 100))
      = rounded (coefficient * 10) * 10 ^ excessDigits (coefficient * 10 * 100) *
          10 ^ (exponent - 1) := by ring
    _ = rounded coefficient * 10 ^ excessDigits (coefficient * 100) * 10 *
          10 ^ (exponent - 1) := by rw [hscaled]
    _ = rounded coefficient * (10 ^ (exponent - 1) * 10 *
          10 ^ excessDigits (coefficient * 100)) := by ring

theorem hundredfold_zero (exponent : Int) : hundredfold 0 exponent = 0 := by
  have hzero : rounded 0 = 0 := by decide
  unfold hundredfold
  rw [hzero]
  simp

/-- Zeros of the coefficient taken from the exponent leave the hundredfold as it is. -/
theorem hundredfold_mul_pow (coefficient k : Nat) (exponent : Int) :
    hundredfold (coefficient * 10 ^ k) (exponent - k) = hundredfold coefficient exponent := by
  rcases Nat.eq_zero_or_pos coefficient with rfl | hpos
  · rw [Nat.zero_mul, hundredfold_zero, hundredfold_zero]
  · induction k with
    | zero => simp
    | succ k ih =>
        have hscaled : 0 < coefficient * 10 ^ k := Nat.mul_pos hpos (Nat.pow_pos (by omega))
        have hexponent : exponent - ((k + 1 : Nat) : Int) = exponent - k - 1 := by omega
        rw [Nat.pow_succ, ← Nat.mul_assoc, hexponent, hundredfold_mul_ten hscaled, ih]

/-- The rounded hundredfold depends on the number a rate is, not on how it is written. -/
theorem hundredfold_congr {coefficient coefficient' : Nat} {exponent exponent' : Int}
    (h : (coefficient : ℚ) * 10 ^ exponent = coefficient' * 10 ^ exponent') :
    hundredfold coefficient exponent = hundredfold coefficient' exponent' := by
  have hle : ∀ {c c' : Nat} {e e' : Int}, e ≤ e' → (c : ℚ) * 10 ^ e = c' * 10 ^ e' →
      hundredfold c e = hundredfold c' e' := by
    intro c c' e e' he hsame
    obtain ⟨k, hk⟩ : ∃ k : Nat, e' = e + k := ⟨(e' - e).toNat, by omega⟩
    have hcoefficient : c = c' * 10 ^ k := by
      rw [hk, zpow_add₀ (by norm_num), zpow_natCast, mul_comm (10 ^ e : ℚ), ← mul_assoc,
        mul_left_inj' (ten_zpow_ne_zero e)] at hsame
      exact_mod_cast hsame
    have hexponent : e = e' - k := by omega
    rw [hcoefficient, hexponent]
    apply hundredfold_mul_pow
  rcases le_total exponent exponent' with he | he
  · exact hle he h
  · exact (hle he h.symm).symm

/-! ## Rates in minor units -/

/-- A rate that is neither negative nor finer than cents. -/
def Readable : Option Decimal → Prop
  | some (.finite negative coefficient exponent) =>
    ¬(negative = true ∧ coefficient ≠ 0) ∧ -2 ≤ exponent
  | _ => False

/-- The hundredfold exceeds the largest exponent of the context. -/
def TooLarge (coefficient : Nat) (exponent : Int) : Prop :=
  coefficient * 100 ≠ 0 ∧ (IntakeClaims.decimalEmax + 1 : Int) <
    (Nat.toDigits 10 (rounded coefficient)).length +
      (exponent + excessDigits (coefficient * 100))

instance (coefficient : Nat) (exponent : Int) : Decidable (TooLarge coefficient exponent) := by
  unfold TooLarge
  infer_instance

/-- A readable rate whose hundredfold overflows. -/
def Overflows : Option Decimal → Prop
  | some (.finite negative coefficient exponent) =>
    Readable (some (.finite negative coefficient exponent)) ∧ TooLarge coefficient exponent
  | _ => False

/-- The rates `_rate_minor` raises on. -/
def Raises (amount : Option Decimal) : Prop :=
  amount = some (.infinity false) ∨ Overflows amount

/-- The rate as a number. -/
def rational : Option Decimal → Option ℚ
  | some (.finite negative coefficient exponent) =>
    some ((if negative then -1 else 1) * (coefficient * 10 ^ exponent))
  | _ => none

/-- The cents of a rate, in the precision of the context. -/
def cents : Option Decimal → ℚ
  | some (.finite _ coefficient exponent) => hundredfold coefficient exponent
  | _ => 0

/-- The hundredfold of the rate has no digits beyond the precision. -/
def Exact : Option Decimal → Prop
  | some (.finite _ coefficient _) => WithinPrecision coefficient
  | _ => True

theorem timesHundred_eq (coefficient : Nat) (exponent : Int) :
    timesHundred coefficient exponent = if TooLarge coefficient exponent then .error .overflow
      else .ok (rounded coefficient, exponent + excessDigits (coefficient * 100)) := rfl

theorem rateMinor_finite (negative : Bool) (coefficient : Nat) (exponent : Int) :
    rateMinor (some (.finite negative coefficient exponent)) =
      if (negative = true ∧ coefficient ≠ 0) ∨ exponent < -2 then .ok none
      else (timesHundred coefficient exponent).map fun product =>
        some (truncated product.1 product.2 : Int) := rfl

theorem readable_finite {negative : Bool} {coefficient : Nat} {exponent : Int} :
    Readable (some (.finite negative coefficient exponent)) ↔
      ¬((negative = true ∧ coefficient ≠ 0) ∨ exponent < -2) := by
  unfold Readable
  rw [not_or, not_lt]

/-- A rate that does not raise is given in cents when it is readable. -/
theorem rateMinor_of_readable {amount : Option Decimal} (hreadable : Readable amount)
    (hreturns : ¬Raises amount) :
    ∃ n : Int, rateMinor amount = .ok (some n) ∧ (n : ℚ) = cents amount := by
  match amount, hreadable with
  | some (.finite negative coefficient exponent), hreadable =>
      have hfits : ¬TooLarge coefficient exponent := fun hlarge =>
        hreturns (Or.inr ⟨hreadable, hlarge⟩)
      refine ⟨truncated (rounded coefficient) (exponent + excessDigits (coefficient * 100)),
        ?_, ?_⟩
      · rw [rateMinor_finite, if_neg (readable_finite.mp hreadable), timesHundred_eq,
          if_neg hfits]
        rfl
      · rw [Int.cast_natCast]
        exact truncated_eq hreadable.2

theorem rateMinor_of_unreadable {amount : Option Decimal} (hreadable : ¬Readable amount)
    (hreturns : ¬Raises amount) : rateMinor amount = .ok none := by
  match amount with
  | none => rfl
  | some .nan => rfl
  | some (.infinity true) => rfl
  | some (.infinity false) => exact absurd (Or.inl rfl) hreturns
  | some (.finite negative coefficient exponent) =>
      rw [rateMinor_finite, if_pos]
      by_contra h
      exact hreadable (readable_finite.mpr h)

theorem rateMinor_of_raises {amount : Option Decimal} (h : Raises amount) :
    ∃ error, rateMinor amount = .error error := by
  rcases h with rfl | h
  · exact ⟨.typeError, rfl⟩
  · match amount, h with
    | some (.finite negative coefficient exponent), ⟨hreadable, hlarge⟩ =>
        refine ⟨.overflow, ?_⟩
        rw [rateMinor_finite, if_neg (readable_finite.mp hreadable), timesHundred_eq,
          if_pos hlarge]
        rfl

theorem not_raises_of_ok {amount : Option Decimal} {rate : Option Int}
    (h : rateMinor amount = .ok rate) : ¬Raises amount := by
  intro hraises
  obtain ⟨error, herror⟩ := rateMinor_of_raises hraises
  rw [h] at herror
  exact absurd herror (by simp)

/-- What is returned is there exactly for a readable rate. -/
theorem rateMinor_isSome {amount : Option Decimal} {rate : Option Int}
    (h : rateMinor amount = .ok rate) : rate.isSome = true ↔ Readable amount := by
  have hreturns := not_raises_of_ok h
  by_cases hreadable : Readable amount
  · obtain ⟨n, hn, _⟩ := rateMinor_of_readable hreadable hreturns
    rw [h] at hn
    obtain rfl := Except.ok.inj hn
    simp [hreadable]
  · have hnone := rateMinor_of_unreadable hreadable hreturns
    rw [h] at hnone
    obtain rfl := Except.ok.inj hnone
    simp [hreadable]

theorem rateMinor_some {amount : Option Decimal} {n : Int}
    (h : rateMinor amount = .ok (some n)) : (n : ℚ) = cents amount := by
  have hreadable := (rateMinor_isSome h).mp rfl
  obtain ⟨m, hm, hcents⟩ := rateMinor_of_readable hreadable (not_raises_of_ok h)
  rw [h] at hm
  rw [Option.some.inj (Except.ok.inj hm)]
  exact hcents

theorem rational_unsigned {negative : Bool} {coefficient : Nat} {exponent : Int}
    (hsign : ¬(negative = true ∧ coefficient ≠ 0)) :
    rational (some (.finite negative coefficient exponent)) =
      some ((coefficient : ℚ) * 10 ^ exponent) := by
  unfold rational
  cases negative with
  | false => simp
  | true =>
      have hzero : coefficient = 0 := by
        by_contra h
        exact hsign ⟨rfl, h⟩
      simp [hzero]

/-- A readable rate is a number, and its cents are exact within the precision. -/
theorem rational_of_readable {amount : Option Decimal} (h : Readable amount) :
    ∃ value, rational amount = some value ∧ (cents amount = value * 100 ↔ Exact amount) := by
  match amount, h with
  | some (.finite negative coefficient exponent), ⟨hsign, _⟩ =>
      exact ⟨coefficient * 10 ^ exponent, rational_unsigned hsign,
        hundredfold_eq_iff coefficient exponent⟩

/-- Rates that are one number have the same cents. -/
theorem cents_congr {amount amount' : Option Decimal} (h : Readable amount)
    (h' : Readable amount') (hsame : rational amount = rational amount') :
    cents amount = cents amount' := by
  match amount, h, amount', h' with
  | some (.finite negative coefficient exponent), ⟨hsign, _⟩,
      some (.finite negative' coefficient' exponent'), ⟨hsign', _⟩ =>
      rw [rational_unsigned hsign, rational_unsigned hsign'] at hsame
      exact hundredfold_congr (Option.some.inj hsame)

end Tally.Analysis.RuleRates
