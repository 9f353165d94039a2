import Mathlib.Algebra.Order.Ring.Abs
import Tally.Analysis.RateNumerals
import Tally.Library.Fallible

/-!
# Overcharges

The overcharge is calculated in the decimal context and then rounded to cents. It is exact where
the difference of the rates is a number of the context and its product with the days is a whole
number of cents that the context can hold; otherwise digits are rounded away, down to no dispute
at all for a claim that is higher by less than half a cent, or the calculation raises.
-/

set_option autoImplicit false

namespace Tally.Analysis.Overcharges
open Library Tally.Model Tally.Model.Receipt
open Applicability (Decimal)
open DecimalValues RuleRates

/-! ## Differences -/

section Steps

variable {nr nc : Bool} {cr cc : Nat} {er ec : Int}

/-- The difference is that of the numbers, in the context. -/
theorem subtract_finite (nc : Bool) (cc : Nat) (ec : Int) (nr : Bool) (cr : Nat) (er : Int) :
    ∃ (difference : Int) (low : Int),
      subtract (.finite nc cc ec) (.finite nr cr er) =
        fix (difference < 0) difference.natAbs low ∧
      (difference : ℚ) * 10 ^ low = valueOf nc cc ec - valueOf nr cr er := by
  refine ⟨scaled nc cc ec (min ec er) - scaled nr cr er (min ec er), min ec er, rfl, ?_⟩
  push_cast
  rw [sub_mul, scaled_mul nc cc (min_le_left ec er), scaled_mul nr cr (min_le_right ec er)]

theorem natAbs_mul {difference low : Int} :
    ((difference.natAbs : Nat) : ℚ) * 10 ^ low = |(difference : ℚ) * 10 ^ low| := by
  rw [abs_mul, abs_of_pos (ten_zpow_pos low), Nat.cast_natAbs, Int.cast_abs]

theorem difference_sign {difference low : Int} : 0 ≤ difference ↔ 0 ≤ (difference : ℚ) * 10 ^ low := by
  rw [mul_nonneg_iff_of_pos_right (ten_zpow_pos low), Int.cast_nonneg_iff]

/-- A number that is not below zero, with its sign. -/
theorem valueOf_false (coefficient : Nat) (exponent : Int) :
    valueOf false coefficient exponent = coefficient * 10 ^ exponent := by
  simp [valueOf]

theorem less_zero (negative : Bool) (coefficient : Nat) (exponent : Int) :
    less zero (.finite negative coefficient exponent) =
      .ok (decide (0 < valueOf negative coefficient exponent)) := by
  have hzero : valueOf false 0 (-2) = 0 := by simp [valueOf]
  rw [← hzero]
  exact congrArg Except.ok (decide_eq_decide.mpr scaled_lt_iff)

/-! ## Cents -/

/-- A whole number of cents that the context can hold. -/
def WholeCents (amount : ℚ) : Prop := ∃ cents : Nat, cents < 10 ^ precision ∧ amount = cents / 100

theorem represented_of_cents {amount : ℚ} (h : WholeCents amount) : Represented amount := by
  obtain ⟨cents, hlt, rfl⟩ := h
  exact ⟨cents, -2, hlt, by decide, by decide, by norm_num [div_eq_mul_inv]⟩

/-- Whole cents are quantized to themselves. -/
theorem quantizeCents_exact {negative : Bool} {coefficient cents : Nat} {exponent : Int}
    (hpos : 0 < cents) (hlt : cents < 10 ^ precision)
    (h : (coefficient : ℚ) * 10 ^ exponent = cents / 100) :
    quantizeCents (.finite negative coefficient exponent) = .ok (.finite negative cents (-2)) := by
  have hcents : (cents : ℚ) / 100 = cents * 10 ^ (-2 : Int) := by norm_num [div_eq_mul_inv]
  rw [hcents] at h
  have hnonzero : coefficient ≠ 0 := by
    rintro rfl
    have hmul : (0 : ℚ) < cents * 10 ^ (-2 : Int) :=
      mul_pos (Nat.cast_pos.mpr hpos) (ten_zpow_pos _)
    rw [← h] at hmul
    simp at hmul
  have hbound : (coefficient : ℚ) * 10 ^ exponent < 10 ^ (precision - 2 : Int) := by
    rw [h, sub_eq_add_neg, zpow_add₀ (by norm_num), zpow_natCast]
    refine mul_lt_mul_of_pos_right ?_ (ten_zpow_pos _)
    exact_mod_cast hlt
  have hfirst := digitCount_add_lt (Nat.pos_of_ne_zero hnonzero) hbound
  have hread : (if -2 ≤ exponent then coefficient * 10 ^ (exponent + 2).toNat
      else roundHalfEven coefficient (10 ^ (-2 - exponent).toNat)) = cents := by
    split
    · rename_i hle
      rw [zpow_toNat_mul hle, mul_left_inj' (ten_zpow_ne_zero _)] at h
      have hsub : exponent - -2 = exponent + 2 := by omega
      rw [hsub] at h
      exact_mod_cast h
    · rename_i hfine
      have hle : exponent ≤ -2 := by omega
      rw [zpow_toNat_mul hle, mul_left_inj' (ten_zpow_ne_zero _)] at h
      have hmul : coefficient = cents * 10 ^ (-2 - exponent).toNat := by exact_mod_cast h
      have hexact := (roundHalfEven_mul_eq (Nat.pow_pos (by norm_num : 0 < 10))).mpr
        (Dvd.intro_left cents hmul.symm)
      exact Nat.eq_of_mul_eq_mul_right (Nat.pow_pos (by norm_num)) (hexact.trans hmul)
  have hfew : ¬precision < digitCount cents := by
    rw [Nat.not_lt, digitCount_le_iff (by decide)]
    exact hlt
  unfold quantizeCents
  dsimp only
  rw [if_neg hnonzero, if_neg (by omega), hread, if_neg hfew]

/-- What is quantized is a number of cents that the context holds. -/
theorem quantizeCents_ok {d q : Decimal} (h : quantizeCents d = .ok q) :
    d = .nan ∨ ∃ negative cents, q = .finite negative cents (-2) ∧ cents < 10 ^ precision := by
  cases d with
  | nan => exact Or.inl rfl
  | infinity n => exact absurd h (by simp [quantizeCents])
  | finite negative coefficient exponent =>
      right
      unfold quantizeCents at h
      dsimp only at h
      generalize (if -2 ≤ exponent then coefficient * 10 ^ (exponent + 2).toNat
        else roundHalfEven coefficient (10 ^ (-2 - exponent).toNat)) = cents at h
      split at h
      · obtain rfl := Except.ok.inj h
        exact ⟨negative, 0, rfl, Nat.pow_pos (by norm_num)⟩
      · split at h
        · exact absurd h (by simp)
        · split at h
          · exact absurd h (by simp)
          · rename_i hfew
            obtain rfl := Except.ok.inj h
            exact ⟨negative, cents, rfl, (digitCount_le_iff (by decide)).mp (Nat.le_of_not_lt hfew)⟩

end Steps

/-! ## The calculation -/

/-- What is owed: the difference of the rates for each day, if the claim is higher. -/
def Owed (recorded claimed : Decimal) (days : Int) : Option ℚ :=
  if claimed = .infinity true then some 0
  else (rational (some claimed)).bind fun c =>
    (rational (some recorded)).map fun r => max 0 ((c - r) * days)

/-- The calculation returns, with a dispute exactly if the claim is higher, and the overcharge is
what is owed. -/
def Exact (recorded claimed : Decimal) (days : Int) : Prop :=
  ∃ calculation, calculateOvercharge recorded claimed days = .ok calculation ∧
    (calculation.recommendation = "dispute_overcharge" ↔ less recorded claimed = .ok true) ∧
    rational (some calculation.overcharge) = Owed recorded claimed days

section Calculation

variable {nr nc : Bool} {cr cc : Nat} {er ec days : Int}

/-- The steps of the calculation. -/
theorem calculateOvercharge_ok {recorded claimed : Decimal} (hdays : 0 < days)
    {calculation : OverchargeCalculation} :
    calculateOvercharge recorded claimed days = .ok calculation ↔
      ∃ difference product positive overcharge, subtract claimed recorded = .ok difference ∧
        multiply days.toNat difference = .ok product ∧ positivePart product = .ok positive ∧
        quantizeCents positive = .ok overcharge ∧
        calculation = ⟨recorded, claimed, days, overcharge,
          if nonzero overcharge then "dispute_overcharge" else "no_overcharge"⟩ := by
  unfold calculateOvercharge
  rw [if_neg (by omega)]
  simp only [Library.bind_eq_ok, pure, Except.pure, Except.ok.injEq]
  constructor
  · rintro ⟨difference, hdifference, product, hproduct, positive, hpositive, overcharge, hcents, rfl⟩
    exact ⟨difference, product, positive, overcharge, hdifference, hproduct, hpositive, hcents, rfl⟩
  · rintro ⟨difference, product, positive, overcharge, hdifference, hproduct, hpositive, hcents, rfl⟩
    exact ⟨difference, hdifference, product, hproduct, positive, hpositive, overcharge, hcents, rfl⟩

theorem less_finite :
    less (.finite nr cr er) (.finite nc cc ec) =
      .ok (decide (valueOf nr cr er < valueOf nc cc ec)) :=
  congrArg Except.ok (decide_eq_decide.mpr scaled_lt_iff)

theorem owed_finite : Owed (.finite nr cr er) (.finite nc cc ec) days =
    some (max 0 ((valueOf nc cc ec - valueOf nr cr er) * days)) := rfl

/-- A higher claim whose difference and product are numbers of the context is exact. -/
theorem exact_of_higher (hdays : 0 < days) (hless : valueOf nr cr er < valueOf nc cc ec)
    (hrepresented : Represented (valueOf nc cc ec - valueOf nr cr er))
    (hwhole : WholeCents ((valueOf nc cc ec - valueOf nr cr er) * days)) :
    Exact (.finite nr cr er) (.finite nc cc ec) days := by
  obtain ⟨difference, low, hsubtract, hvalue⟩ := subtract_finite nc cc ec nr cr er
  have hpositive : 0 < valueOf nc cc ec - valueOf nr cr er := sub_pos.mpr hless
  have hsign : ¬difference < 0 := by
    rw [Int.not_lt, difference_sign, hvalue]
    exact hpositive.le
  have hmagnitude : ((difference.natAbs : Nat) : ℚ) * 10 ^ low =
      valueOf nc cc ec - valueOf nr cr er := by
    rw [natAbs_mul, hvalue, abs_of_pos hpositive]
  -- The difference, its product with the days and the cents are all kept.
  obtain ⟨c, e, hfix, hkept⟩ := fix_exact false (hmagnitude ▸ hrepresented)
  rw [hmagnitude] at hkept
  have hdaysNat : ((days.toNat : Nat) : ℚ) = days := by
    exact_mod_cast Int.toNat_of_nonneg hdays.le
  have hproduct : ((c * days.toNat : Nat) : ℚ) * 10 ^ e =
      (valueOf nc cc ec - valueOf nr cr er) * days := by
    rw [← hkept, ← hdaysNat]
    push_cast
    ring
  obtain ⟨c', e', hfix', hkept'⟩ :=
    fix_exact false (hproduct ▸ represented_of_cents hwhole)
  rw [hproduct] at hkept'
  obtain ⟨cents, hfew, hcents⟩ := hwhole
  have hdaysPos : (0 : ℚ) < days := Int.cast_pos.mpr hdays
  have hpos : 0 < cents := by
    have hmul := mul_pos hpositive hdaysPos
    rw [hcents] at hmul
    by_contra hzero
    rw [Nat.eq_zero_of_not_pos hzero] at hmul
    simp at hmul
  have hgreater : less zero (.finite false c' e') = .ok true := by
    rw [less_zero, valueOf_false, hkept']
    exact congrArg Except.ok (decide_eq_true (mul_pos hpositive hdaysPos))
  refine ⟨⟨.finite nr cr er, .finite nc cc ec, days, .finite false cents (-2),
    "dispute_overcharge"⟩, ?_, ?_, ?_⟩
  · refine (calculateOvercharge_ok hdays).mpr ⟨.finite false c e, .finite false c' e',
      .finite false c' e', .finite false cents (-2), ?_, ?_, ?_, ?_, ?_⟩
    · rw [hsubtract, decide_eq_false hsign, hfix]
    · exact hfix'
    · unfold positivePart
      rw [hgreater]
      rfl
    · exact quantizeCents_exact hpos hfew (hkept'.trans hcents)
    · rw [if_pos (by simp [nonzero]; omega)]
  · rw [less_finite]
    simp [hless]
  · rw [owed_finite, hcents, rational_finite, valueOf_false,
      max_eq_right (div_nonneg (Nat.cast_nonneg _) (by norm_num))]
    norm_num [div_eq_mul_inv]

/-- A claim that is not higher is exact where nothing overflows. -/
theorem exact_of_lower (hdays : 0 < days) (hle : valueOf nc cc ec ≤ valueOf nr cr er)
    (hrange : (valueOf nr cr er - valueOf nc cc ec) * days ≤ 10 ^ IntakeClaims.decimalEmax) :
    Exact (.finite nr cr er) (.finite nc cc ec) days := by
  obtain ⟨difference, low, hsubtract, hvalue⟩ := subtract_finite nc cc ec nr cr er
  have hnegative : valueOf nc cc ec - valueOf nr cr er ≤ 0 := sub_nonpos.mpr hle
  have hmagnitude : ((difference.natAbs : Nat) : ℚ) * 10 ^ low =
      valueOf nr cr er - valueOf nc cc ec := by
    rw [natAbs_mul, hvalue, abs_of_nonpos hnegative, neg_sub]
  have hnonneg : 0 ≤ valueOf nr cr er - valueOf nc cc ec := sub_nonneg.mpr hle
  have hdaysOne : (1 : ℚ) ≤ days := by exact_mod_cast hdays
  have hsmall : valueOf nr cr er - valueOf nc cc ec ≤ 10 ^ IntakeClaims.decimalEmax :=
    (le_mul_of_one_le_right hnonneg hdaysOne).trans hrange
  have htop : (10 : ℚ) ^ (etop + precision) = 10 * 10 ^ IntakeClaims.decimalEmax := by
    have hsum : etop + precision = ((IntakeClaims.decimalEmax + 1 : Nat) : Int) := by
      unfold etop
      omega
    rw [hsum, zpow_natCast, pow_succ, mul_comm]
  have hpos : (0 : ℚ) < 10 ^ IntakeClaims.decimalEmax := pow_pos (by norm_num) _
  -- Rounding at most doubles the difference, and so the product stays in range.
  obtain ⟨d, hd⟩ := fix_returns (difference < 0) (by rw [hmagnitude, htop]; linarith)
  obtain ⟨c, e, rfl, hdouble⟩ := fix_ok hd
  rw [hmagnitude] at hdouble
  have hdaysNat : ((days.toNat : Nat) : ℚ) = days := by
    exact_mod_cast Int.toNat_of_nonneg hdays.le
  have hproduct : ((c * days.toNat : Nat) : ℚ) * 10 ^ e ≤
      2 * ((valueOf nr cr er - valueOf nc cc ec) * days) := by
    have hscale := mul_le_mul_of_nonneg_right hdouble (zero_le_one.trans hdaysOne)
    rw [← hdaysNat] at hscale ⊢
    push_cast
    linarith
  have hbound : 2 * (((c * days.toNat : Nat) : ℚ) * 10 ^ e) < 10 ^ (etop + precision) := by
    rw [htop]
    linarith
  obtain ⟨d', hd'⟩ := fix_returns (difference < 0) hbound
  obtain ⟨c', e', rfl, hdouble'⟩ := fix_ok hd'
  have hnot : less zero (.finite (difference < 0) c' e') = .ok false := by
    rw [less_zero]
    refine congrArg Except.ok (decide_eq_false (not_lt.mpr ?_))
    by_cases hsign : difference < 0
    · have hsize : (0 : ℚ) ≤ c' * 10 ^ e' := mul_nonneg (Nat.cast_nonneg _) (ten_zpow_pos e').le
      rw [decide_eq_true hsign]
      unfold valueOf
      rw [if_pos rfl]
      linarith
    · -- The rates are equal, and nothing is left of their difference.
      have hzero : 0 ≤ valueOf nc cc ec - valueOf nr cr er := by
        rw [← hvalue]
        exact difference_sign.mp (Int.not_lt.mp hsign)
      have hequal : valueOf nr cr er - valueOf nc cc ec = 0 := by linarith
      rw [hequal, zero_mul] at hproduct
      rw [decide_eq_false hsign, valueOf_false]
      linarith
  refine ⟨⟨.finite nr cr er, .finite nc cc ec, days, zero, "no_overcharge"⟩, ?_, ?_, ?_⟩
  · refine (calculateOvercharge_ok hdays).mpr ⟨.finite (difference < 0) c e,
      .finite (difference < 0) c' e', zero, zero, ?_, ?_, ?_, ?_, ?_⟩
    · rw [hsubtract, hd]
    · exact hd'
    · unfold positivePart
      rw [hnot]
      rfl
    · rfl
    · rfl
  · rw [less_finite]
    simp [hle]
  · rw [owed_finite, max_eq_left (mul_nonpos_of_nonpos_of_nonneg hnegative
      (zero_le_one.trans hdaysOne))]
    simp [zero, rational]

/-- A claim below every number is never disputed. -/
theorem exact_of_lowest (hdays : 0 < days) :
    Exact (.finite nr cr er) (.infinity true) days := by
  refine ⟨⟨.finite nr cr er, .infinity true, days, zero, "no_overcharge"⟩, ?_, ?_, ?_⟩
  · exact (calculateOvercharge_ok hdays).mpr
      ⟨.infinity true, .infinity true, zero, zero, rfl, rfl, rfl, rfl, rfl⟩
  · simp [less]
  · simp [Owed, zero, rational]

/-- What is exact is a number, or below every number; a higher claim is owed in whole cents. -/
theorem of_exact (hdays : 0 < days) {claimed : Decimal}
    (h : Exact (.finite nr cr er) claimed days) :
    claimed = .infinity true ∨ ∃ nc cc ec, claimed = .finite nc cc ec ∧
      (valueOf nr cr er < valueOf nc cc ec →
        WholeCents ((valueOf nc cc ec - valueOf nr cr er) * days)) := by
  obtain ⟨calculation, hok, _, howed⟩ := h
  obtain ⟨difference, product, positive, overcharge, hsubtract, hmultiply, hpositive, hquantize,
    rfl⟩ := (calculateOvercharge_ok hdays).mp hok
  cases claimed with
  | nan =>
      obtain rfl := Except.ok.inj hsubtract
      obtain rfl := Except.ok.inj hmultiply
      have hraises : positivePart .nan = .error .invalidOperation := rfl
      rw [hraises] at hpositive
      exact absurd hpositive (by simp)
  | infinity negative =>
      cases negative with
      | true => exact Or.inl rfl
      | false =>
          obtain rfl := Except.ok.inj hsubtract
          obtain rfl := Except.ok.inj hmultiply
          obtain rfl : Decimal.infinity false = positive := Except.ok.inj hpositive
          exact absurd hquantize (by simp [quantizeCents])
  | finite nc cc ec =>
      refine Or.inr ⟨nc, cc, ec, rfl, fun hless => ?_⟩
      have hpos : 0 < (valueOf nc cc ec - valueOf nr cr er) * days :=
        mul_pos (sub_pos.mpr hless) (Int.cast_pos.mpr hdays)
      rw [owed_finite, max_eq_right hpos.le] at howed
      rcases quantizeCents_ok hquantize with rfl | ⟨negative, cents, rfl, hfew⟩
      · obtain rfl := Except.ok.inj hquantize
        exact absurd howed (by simp [rational])
      · rw [rational_finite, Option.some.injEq] at howed
        refine ⟨cents, hfew, ?_⟩
        rw [← howed]
        cases negative with
        | false =>
            rw [valueOf_false]
            norm_num [div_eq_mul_inv]
        | true =>
            have hsize : (0 : ℚ) ≤ cents * 10 ^ (-2 : Int) :=
              mul_nonneg (Nat.cast_nonneg _) (ten_zpow_pos _).le
            rw [← howed] at hpos
            unfold valueOf at hpos
            rw [if_pos rfl] at hpos
            linarith

end Calculation

/-! ## Accepted claims -/

/-- The claim is a number, or below every number, and what is owed is whole cents. -/
def Payable (recorded claimed : Decimal) (days : Int) : Prop :=
  claimed = .infinity true ∨ ∃ r c, rational (some recorded) = some r ∧
    rational (some claimed) = some c ∧ (r < c → WholeCents ((c - r) * days))

/-- The difference to a higher claim is a number of the context; that to a lower one stays in its
range. -/
def InContext (recorded claimed : Decimal) (days : Int) : Prop :=
  ∀ r c, rational (some recorded) = some r → rational (some claimed) = some c →
    (r < c → Represented (c - r)) ∧
      (c ≤ r → (r - c) * days ≤ 10 ^ IntakeClaims.decimalEmax)

section Accepted

variable [Sha256] [PatternTables]

/-- An eligible rate is a number. -/
theorem finite_of_eligible {source : Bytes} {extraction : TariffExtraction}
    {verification : TariffVerification}
    (h : verifyTariffExtraction source extraction = .ok verification)
    (heligible : verification.eligible = true) :
    ∃ nr cr er, extraction.rateAmount = .finite nr cr er := by
  obtain ⟨amount, hamount, hequal⟩ := RateNumerals.amount_of_eligible h heligible
  obtain ⟨numeral, _, hread⟩ := Option.bind_eq_some_iff.mp hamount
  obtain ⟨p, _, rfl⟩ := Option.map_eq_some_iff.mp hread
  cases hrate : extraction.rateAmount with
  | finite nr cr er => exact ⟨nr, cr, er, rfl⟩
  | infinity negative =>
      rw [hrate] at hequal
      exact absurd hequal (by simp [equal])
  | nan =>
      rw [hrate] at hequal
      exact absurd hequal (by simp [equal])

end Accepted

/-! ## A claim of fractions of a cent -/

section Case
open RateNumerals (extractionOf verified_of_eligible)

local instance casePatterns : PatternTables := asciiPatterns
local instance caseDigest : Sha256 := Sha256.standard

/-- A claim of one day at a rate in thousandths. -/
def claimOf (thousandths : Nat) : InvoiceClaim :=
  { invoiceNo := "1"
    claimedRate := .finite false thousandths (-3)
    rateCurrency := "USD"
    rateUnit := "per_day"
    chargeDays := 1
    invoiceDate := ⟨2026, 7, 19, by decide⟩
    receivedAt := "2026-07-19" }

end Case

end Tally.Analysis.Overcharges
