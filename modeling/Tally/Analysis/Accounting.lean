import Tally.Analysis.DayOutcomes

/-!
# The totals of a recommendation

The claimed, the supported and the disputed amount are sums of the same days under three
filters. What is claimed beyond the other two is what the insufficient days were invoiced; a
recommendation that decides has none of them, so its two amounts make up the claimed one.
-/

set_option autoImplicit false

namespace Tally.Analysis.Accounting
open Library Tally.Model DayOutcomes

/-! ## Shares of a day -/

/-- What a day adds to each of the three amounts, and to the rates without evidence. -/
structure Share where
  claimed : Int
  supported : Int
  disputed : Int
  insufficient : Int

/-- The share of a day by its outcome. An excluded day has none. -/
def share (day : DayInput) : Share :=
  match (judgeDay day).outcome with
  | .excludedNotChargeable => ⟨0, 0, 0, 0⟩
  | .insufficientEvidence => ⟨day.invoiceRateMinor, 0, 0, day.invoiceRateMinor⟩
  | .supported => ⟨day.invoiceRateMinor, day.applicableRateMinor.getD 0, 0, 0⟩
  | .rateDiscrepancy => ⟨day.invoiceRateMinor, day.applicableRateMinor.getD 0,
      day.invoiceRateMinor - day.applicableRateMinor.getD 0, 0⟩

/-- What the judgment of a day reports. -/
structure Judged (day : DayInput) : Prop where
  excluded : (judgeDay day).outcome = .excludedNotChargeable ↔ day.chargeable = false
  invoice : (judgeDay day).invoiceRateMinor = day.invoiceRateMinor
  applicable : (judgeDay day).applicableRateMinor = day.applicableRateMinor
  supported : (judgeDay day).outcome = .supported →
    day.applicableRateMinor = some day.invoiceRateMinor
  discrepancy : (judgeDay day).outcome = .rateDiscrepancy → ∃ applicable,
    day.applicableRateMinor = some applicable ∧
      (judgeDay day).discrepancyMinor = day.invoiceRateMinor - applicable

theorem judgeDay_judged (day : DayInput) : Judged day := by
  cases hchargeable : day.chargeable with
  | false =>
      refine ⟨?_, ?_, ?_, ?_, ?_⟩
      all_goals simp [judgeDay, hchargeable]
  | true =>
      cases hcoverage : day.coverageState with
      | presentVerified =>
          cases hrate : day.applicableRateMinor with
          | none =>
              refine ⟨?_, ?_, ?_, ?_, ?_⟩
              all_goals simp [judgeDay, hchargeable, hcoverage, hrate]
          | some applicable =>
              by_cases hzero : day.invoiceRateMinor - applicable = 0
              · refine ⟨?_, ?_, ?_, ?_, ?_⟩
                · simp [judgeDay, hchargeable, hcoverage, hrate, hzero]
                · simp [judgeDay, hchargeable, hcoverage, hrate, hzero]
                · simp [judgeDay, hchargeable, hcoverage, hrate, hzero]
                · intro _
                  rw [hrate, show applicable = day.invoiceRateMinor by omega]
                · simp [judgeDay, hchargeable, hcoverage, hrate, hzero]
              · refine ⟨?_, ?_, ?_, ?_, ?_⟩
                · simp [judgeDay, hchargeable, hcoverage, hrate, hzero]
                · simp [judgeDay, hchargeable, hcoverage, hrate, hzero]
                · simp [judgeDay, hchargeable, hcoverage, hrate, hzero]
                · simp [judgeDay, hchargeable, hcoverage, hrate, hzero]
                · intro _
                  refine ⟨applicable, hrate, ?_⟩
                  simp [judgeDay, hchargeable, hcoverage, hrate, hzero]
      | missing | unavailable | conflicted | notApplicable =>
          refine ⟨?_, ?_, ?_, ?_, ?_⟩
          all_goals simp [judgeDay, hchargeable, hcoverage]

/-- Each day accounts for its own claim. -/
theorem share_accounts (day : DayInput) :
    (share day).claimed = (share day).supported + (share day).disputed +
      (share day).insufficient := by
  have hjudged := judgeDay_judged day
  unfold share
  cases houtcome : (judgeDay day).outcome with
  | excludedNotChargeable => rfl
  | insufficientEvidence => simp
  | supported =>
      have hrate := hjudged.supported houtcome
      simp [hrate]
  | rateDiscrepancy =>
      dsimp only
      omega

/-! ## Sums over the days -/

theorem claimed_eq (days : List DayInput) :
    (((days.map judgeDay).filter fun j => j.outcome ≠ .excludedNotChargeable).map
      DayJudgment.invoiceRateMinor).sum = (days.map fun d => (share d).claimed).sum := by
  induction days with
  | nil => rfl
  | cons day days ih =>
      rw [List.map_cons, List.map_cons, List.sum_cons, ← ih]
      by_cases hexcluded : (judgeDay day).outcome = .excludedNotChargeable
      · have hnone : (share day).claimed = 0 := by
          unfold share
          rw [hexcluded]
        rw [List.filter_cons_of_neg (by simpa using hexcluded), hnone, Int.zero_add]
      · have hall : (share day).claimed = day.invoiceRateMinor := by
          unfold share
          cases houtcome : (judgeDay day).outcome with
          | excludedNotChargeable => exact absurd houtcome hexcluded
          | supported | insufficientEvidence | rateDiscrepancy => rfl
        rw [List.filter_cons_of_pos (by simpa using hexcluded), List.map_cons, List.sum_cons, hall,
          (judgeDay_judged day).invoice]

theorem disputed_eq (days : List DayInput) :
    (((days.map judgeDay).filter fun j => j.outcome = .rateDiscrepancy).map
      DayJudgment.discrepancyMinor).sum = (days.map fun d => (share d).disputed).sum := by
  induction days with
  | nil => rfl
  | cons day days ih =>
      rw [List.map_cons, List.map_cons, List.sum_cons, ← ih]
      by_cases hdiscrepancy : (judgeDay day).outcome = .rateDiscrepancy
      · obtain ⟨applicable, hrate, hdifference⟩ := (judgeDay_judged day).discrepancy hdiscrepancy
        have hall : (share day).disputed = day.invoiceRateMinor - applicable := by
          unfold share
          rw [hdiscrepancy, hrate]
          rfl
        rw [List.filter_cons_of_pos (by simpa using hdiscrepancy), List.map_cons, List.sum_cons,
          hall, hdifference]
      · have hnone : (share day).disputed = 0 := by
          unfold share
          cases houtcome : (judgeDay day).outcome with
          | rateDiscrepancy => exact absurd houtcome hdiscrepancy
          | supported | insufficientEvidence | excludedNotChargeable => rfl
        rw [List.filter_cons_of_neg (by simpa using hdiscrepancy), hnone, Int.zero_add]

theorem supported_eq (days : List DayInput) :
    (((days.map judgeDay).filter fun j =>
      j.outcome = .supported ∨ j.outcome = .rateDiscrepancy).filterMap
        DayJudgment.applicableRateMinor).sum = (days.map fun d => (share d).supported).sum := by
  induction days with
  | nil => rfl
  | cons day days ih =>
      rw [List.map_cons, List.map_cons, List.sum_cons, ← ih]
      by_cases hcounts : (judgeDay day).outcome = .supported ∨
          (judgeDay day).outcome = .rateDiscrepancy
      · have hrate : ∃ applicable, day.applicableRateMinor = some applicable := by
          rcases hcounts with hsupported | hdiscrepancy
          · exact ⟨_, (judgeDay_judged day).supported hsupported⟩
          · obtain ⟨applicable, hrate, _⟩ := (judgeDay_judged day).discrepancy hdiscrepancy
            exact ⟨applicable, hrate⟩
        obtain ⟨applicable, hrate⟩ := hrate
        have hall : (share day).supported = applicable := by
          unfold share
          rcases hcounts with houtcome | houtcome
          · rw [houtcome, hrate]
            rfl
          · rw [houtcome, hrate]
            rfl
        rw [List.filter_cons_of_pos (by simpa using hcounts),
          List.filterMap_cons_some ((judgeDay_judged day).applicable.trans hrate), List.sum_cons,
          hall]
      · have hnone : (share day).supported = 0 := by
          unfold share
          cases houtcome : (judgeDay day).outcome with
          | supported => exact absurd (Or.inl houtcome) hcounts
          | rateDiscrepancy => exact absurd (Or.inr houtcome) hcounts
          | insufficientEvidence | excludedNotChargeable => rfl
        rw [List.filter_cons_of_neg (by simpa using hcounts), hnone, Int.zero_add]

theorem sum_shares (days : List DayInput) :
    (days.map fun d => (share d).claimed).sum =
      (days.map fun d => (share d).supported).sum + (days.map fun d => (share d).disputed).sum +
        (days.map fun d => (share d).insufficient).sum := by
  induction days with
  | nil => rfl
  | cons day days ih =>
      have hday := share_accounts day
      simp only [List.map_cons, List.sum_cons]
      omega

/-- Days that add nothing can be left out of a sum. -/
theorem sum_filter (f : DayInput → Int) (p : DayInput → Bool) (h : ∀ d, p d = false → f d = 0)
    (days : List DayInput) : ((days.filter p).map f).sum = (days.map f).sum := by
  induction days with
  | nil => rfl
  | cons day days ih =>
      rw [List.map_cons, List.sum_cons, ← ih]
      by_cases hp : p day = true
      · rw [List.filter_cons_of_pos hp, List.map_cons, List.sum_cons]
      · rw [List.filter_cons_of_neg hp, h day (by simpa using hp), Int.zero_add]

theorem share_excluded {day : DayInput} (h : day.chargeable = false) : share day = ⟨0, 0, 0, 0⟩ := by
  unfold share
  rw [(judgeDay_judged day).excluded.mpr h]

theorem insufficient_eq (days : List DayInput) :
    ((days.filter fun d => (judgeDay d).outcome = .insufficientEvidence).map
      DayInput.invoiceRateMinor).sum = (days.map fun d => (share d).insufficient).sum := by
  rw [← sum_filter (fun d => (share d).insufficient)
    (fun d => (judgeDay d).outcome = .insufficientEvidence)]
  · refine congrArg List.sum (List.map_congr_left fun day hday => ?_)
    have houtcome : (judgeDay day).outcome = .insufficientEvidence := by
      simpa using (List.mem_filter.mp hday).2
    unfold share
    rw [houtcome]
  · intro day hnot
    unfold share
    cases houtcome : (judgeDay day).outcome with
    | insufficientEvidence => exact absurd hnot (by simp [houtcome])
    | supported | rateDiscrepancy | excludedNotChargeable => rfl

/-! ## The recommendation -/

section Recommending

variable [Sha256]

/-- Days of one currency resolve to a recommendation with the sums of their shares. -/
theorem resolveRecommendation_shares {days : List DayInput} {currency : String} (hne : days ≠ [])
    (hcurrency : ∀ d ∈ days, d.currency = currency) :
    ∃ r, resolveRecommendation days = .ok r ∧
      r.claimedAmountMinor = (days.map fun d => (share d).claimed).sum ∧
      r.supportedAmountMinor = (days.map fun d => (share d).supported).sum ∧
      r.disputedAmountMinor = (days.map fun d => (share d).disputed).sum := by
  cases days with
  | nil => exact absurd rfl hne
  | cons first rest =>
      have hsame : ((first :: rest).any fun d => d.currency ≠ first.currency) = false := by
        refine List.any_eq_false.mpr fun d hd => ?_
        rw [hcurrency d hd, hcurrency first List.mem_cons_self]
        simp
      rw [← claimed_eq, ← supported_eq, ← disputed_eq]
      unfold resolveRecommendation
      dsimp only
      rw [if_neg (by rw [hsame]; exact Bool.false_ne_true)]
      exact ⟨_, rfl, rfl, rfl, rfl⟩

end Recommending

section Case

local instance : Sha256 := Sha256.standard

/-- The character tables of ASCII. -/
local instance : CharacterTables :=
  ⟨Char.isDigit, fun c => c = ' ', fun text => text.map Char.toLower⟩

/-- A chargeable and sourced day invoiced at 300.00. -/
def ratedDay (applicableRateMinor : Option Int) : DayInput :=
  { chargeDate := .min
    invoiceRateMinor := 30000
    applicableRateMinor
    currency := "USD"
    coverageState := .presentVerified
    chargeable := true }

end Case

end Tally.Analysis.Accounting
