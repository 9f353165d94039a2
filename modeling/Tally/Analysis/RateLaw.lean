import Tally.Model.Judgment

/-!
# Rates and recommendations

On days that are all chargeable, covered and under a verified rule the recommendation is
a matter of the rates alone. It follows the overcharged days as long as no day is
invoiced below its applicable rate: such a day is reported as a discrepancy too, and its
negative difference is netted against the overcharges of the others.
-/

set_option autoImplicit false

namespace Tally.Analysis.RateLaw
open Library Model

/-! ## The law -/

/-- A chargeable day with complete evidence and a verified rule. -/
structure Covered (day : DayInput) : Prop where
  chargeable : day.chargeable = true
  verified : day.coverageState = .presentVerified
  rated : day.applicableRateMinor.isSome = true

/-- What a day is invoiced above its applicable rate, negative when it is below. -/
def difference (day : DayInput) : Int := day.invoiceRateMinor - day.applicableRateMinor.getD 0

def Overcharged (day : DayInput) : Prop := day.applicableRateMinor.getD 0 < day.invoiceRateMinor

/-- A recommendation that follows the overcharged days. -/
structure FollowsRates (days : List DayInput) (r : Recommendation) : Prop where
  discrepancies : List.Forall₂ (fun d j => j.outcome = .rateDiscrepancy ↔ Overcharged d) days
    r.judgments
  disputed : r.disputedAmountMinor = (days.map fun d => max 0 (difference d)).sum
  dispute : r.recommendationType = .dispute ↔ ∃ d ∈ days, Overcharged d

/-! ## One day -/

variable {day : DayInput}

/-- A covered day is supported or a discrepancy, and keeps its difference. -/
theorem judgeDay_covered (h : Covered day) :
    (judgeDay day).discrepancyMinor = difference day ∧
    (judgeDay day).outcome =
      if difference day = 0 then .supported else .rateDiscrepancy := by
  obtain ⟨applicable, hrate⟩ := Option.isSome_iff_exists.mp h.rated
  have hdifference : difference day = day.invoiceRateMinor - applicable := by
    rw [difference, hrate, Option.getD_some]
  unfold judgeDay
  simp only [h.chargeable, h.verified, hrate, Bool.not_true, Bool.false_eq_true, if_false]
  by_cases hzero : day.invoiceRateMinor - applicable = 0
  · rw [if_pos hzero, hdifference, hzero]
    exact ⟨rfl, rfl⟩
  · rw [if_neg hzero, hdifference, if_neg hzero]
    exact ⟨rfl, rfl⟩

theorem outcome_rateDiscrepancy (h : Covered day) :
    (judgeDay day).outcome = .rateDiscrepancy ↔ difference day ≠ 0 := by
  rw [(judgeDay_covered h).2]
  by_cases hzero : difference day = 0
  · simp [hzero]
  · simp [hzero]

/-- A covered day is neither excluded nor insufficient. -/
theorem outcome_decided (h : Covered day) :
    (judgeDay day).outcome ≠ .excludedNotChargeable ∧
      (judgeDay day).outcome ≠ .insufficientEvidence := by
  rw [(judgeDay_covered h).2]
  split
  · exact ⟨by decide, by decide⟩
  · exact ⟨by decide, by decide⟩

theorem overcharged_iff : Overcharged day ↔ 0 < difference day := by
  unfold Overcharged difference
  omega

/-! ## All days -/

variable {days : List DayInput}

theorem chargeable_eq (h : ∀ d ∈ days, Covered d) :
    (days.map judgeDay).filter (fun j => j.outcome ≠ .excludedNotChargeable) =
      days.map judgeDay := by
  refine List.filter_eq_self.mpr ?_
  intro j hj
  obtain ⟨d, hd, rfl⟩ := List.mem_map.mp hj
  exact decide_eq_true (outcome_decided (h d hd)).1

theorem none_insufficient (h : ∀ d ∈ days, Covered d) :
    (days.map judgeDay).any (fun j => j.outcome = .insufficientEvidence) = false := by
  refine List.any_eq_false.mpr ?_
  intro j hj
  obtain ⟨d, hd, rfl⟩ := List.mem_map.mp hj
  simpa using (outcome_decided (h d hd)).2

/-- The disputed total nets the differences of all days. -/
theorem disputed_eq (h : ∀ d ∈ days, Covered d) :
    (((days.map judgeDay).filter fun j => j.outcome = .rateDiscrepancy).map
      DayJudgment.discrepancyMinor).sum = (days.map difference).sum := by
  induction days with
  | nil => rfl
  | cons d days ih =>
      have hd := h d (List.mem_cons_self ..)
      have hrest := ih fun d' hd' => h d' (List.mem_cons_of_mem _ hd')
      have hoc := outcome_rateDiscrepancy hd
      rw [List.map_cons, List.map_cons, List.sum_cons, ← hrest]
      by_cases hzero : difference d = 0
      · have hsupported : ¬ (judgeDay d).outcome = .rateDiscrepancy := fun hj => hoc.mp hj hzero
        rw [List.filter_cons_of_neg (by simpa using hsupported), hzero, Int.zero_add]
      · have hdiscrepancy := hoc.mpr hzero
        rw [List.filter_cons_of_pos (by simpa using hdiscrepancy), List.map_cons, List.sum_cons,
          (judgeDay_covered hd).1]

/-- Covered days of one currency resolve, and the disputed total decides. -/
theorem resolveRecommendation_covered [Sha256] (hne : days ≠ []) (currency : String)
    (hcurrency : ∀ d ∈ days, d.currency = currency) (h : ∀ d ∈ days, Covered d) :
    ∃ r, resolveRecommendation days = .ok r ∧ r.judgments = days.map judgeDay ∧
      r.disputedAmountMinor = (days.map difference).sum ∧
      (r.recommendationType = .dispute ↔ 0 < (days.map difference).sum) := by
  cases days with
  | nil => exact absurd rfl hne
  | cons first rest =>
      have hsame : ((first :: rest).any fun d => d.currency ≠ first.currency) = false := by
        refine List.any_eq_false.mpr ?_
        intro d hd
        rw [hcurrency d hd, hcurrency first (List.mem_cons_self ..)]
        simp
      have hlength : ¬ ((first :: rest).map judgeDay).length = 0 := by simp
      have hinsufficient := none_insufficient h
      unfold resolveRecommendation
      simp only [hsame, Bool.false_eq_true, if_false, chargeable_eq h, disputed_eq h,
        hinsufficient, hlength, or_false]
      refine ⟨_, rfl, rfl, rfl, ?_⟩
      by_cases hpos : ((first :: rest).map difference).sum > 0
      · simp only [hpos, if_true]
      · simp only [hpos, if_false]
        simp

theorem sum_difference (h : ∀ d ∈ days, 0 ≤ difference d) :
    (days.map difference).sum = (days.map fun d => max 0 (difference d)).sum ∧
      0 ≤ (days.map difference).sum ∧
      (0 < (days.map difference).sum ↔ ∃ d ∈ days, 0 < difference d) := by
  induction days with
  | nil => simp
  | cons d days ih =>
      have hd := h d (List.mem_cons_self ..)
      obtain ⟨hmax, hnonneg, hpos⟩ := ih fun d' hd' => h d' (List.mem_cons_of_mem _ hd')
      simp only [List.map_cons, List.sum_cons, List.exists_mem_cons_iff]
      refine ⟨by rw [hmax, max_eq_right hd], by omega, ?_⟩
      rw [← hpos]
      omega

section Case

/-- A covered day at a rate of 200.00. -/
def coveredDay (invoiceRateMinor : Int) : DayInput :=
  { chargeDate := .min
    invoiceRateMinor
    applicableRateMinor := some 20000
    currency := "USD"
    coverageState := .presentVerified
    chargeable := true }

theorem covered_coveredDay (invoiceRateMinor : Int) : Covered (coveredDay invoiceRateMinor) :=
  ⟨rfl, rfl, rfl⟩

end Case

end Tally.Analysis.RateLaw
