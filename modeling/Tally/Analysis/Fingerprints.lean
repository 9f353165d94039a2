import Tally.Analysis.SealDigests

/-!
# Fingerprints of judgment inputs

The fingerprint binds every field of the days but their missing requirements. These decide
nothing but the reason of a day without source coverage, so two inputs with one fingerprint
resolve alike exactly where no such reason is given.
-/

set_option autoImplicit false

namespace Tally.Analysis.Fingerprints
open Library Library.Calendar Tally.Model SealDigests

/-! ## What a fingerprint binds -/

/-- The day without its missing requirements. -/
def bare (day : DayInput) : DayInput := { day with missingRequirements := [] }

/-- The payload of a day. -/
def dayPayload (d : DayInput) : Json := .obj [
  ("d", .str d.chargeDate.isoformat), ("inv", .int d.invoiceRateMinor),
  ("app", match d.applicableRateMinor with
    | some rate => .int rate
    | none => .null),
  ("cur", .str d.currency), ("cov", .str d.coverageState.value), ("chg", .bool d.chargeable)]

theorem coverage_value_injective {a b : CoverageState} (h : a.value = b.value) : a = b := by
  revert h
  cases a <;> cases b <;> decide

theorem isoformat_injective {a b : Date} (h : a.isoformat = b.isoformat) : a = b := by
  have hread := congrArg Date.fromisoformat h
  rw [Date.fromisoformat_isoformat, Date.fromisoformat_isoformat] at hread
  exact Option.some.inj hread

theorem bare_of_payload {d d' : DayInput} (h : (dayPayload d).sortKeys = (dayPayload d').sortKeys) :
    bare d = bare d' := by
  have hmembers := sortMembers_inj (by rfl) (by simp) h
  simp only [Json.sortMembers, List.cons.injEq, Prod.mk.injEq, true_and, and_true] at hmembers
  obtain ⟨hdate, hinv, happ, hcur, hcov, hchg⟩ := hmembers
  simp only [Json.sortKeys, Json.str.injEq, Json.int.injEq, Json.bool.injEq] at hdate hinv hcur hcov hchg
  have hrate : d.applicableRateMinor = d'.applicableRateMinor := by
    cases hd : d.applicableRateMinor with
    | none =>
        cases hd' : d'.applicableRateMinor with
        | none => rfl
        | some rate' =>
            rw [hd, hd'] at happ
            exact absurd happ (by simp [Json.sortKeys])
    | some rate =>
        cases hd' : d'.applicableRateMinor with
        | none =>
            rw [hd, hd'] at happ
            exact absurd happ (by simp [Json.sortKeys])
        | some rate' =>
            rw [hd, hd'] at happ
            simp only [Json.sortKeys, Json.int.injEq] at happ
            rw [happ]
  unfold bare
  rw [DayInput.mk.injEq]
  exact ⟨isoformat_injective hdate, hinv, hrate, hcur, coverage_value_injective hcov, hchg, rfl⟩

theorem sortItems_map (f : DayInput → Json) (days : List DayInput) :
    Json.sortItems (days.map f) = days.map fun d => (f d).sortKeys := by
  induction days with
  | nil => rfl
  | cons d days ih => rw [List.map_cons, Json.sortItems, ih, List.map_cons]

section Hash

variable [Sha256]

/-- Equal fingerprints come from the same days but for their missing requirements. -/
theorem bare_of_fingerprint (hfree : Sha256.CollisionFree) {days days' : List DayInput}
    (h : recommendationFingerprint days = recommendationFingerprint days') :
    days.map bare = days'.map bare := by
  have hpayload (ds : List DayInput) : recommendationFingerprint ds =
      Sha256.hexdigest (encode (Json.dumps .compactAscii
        (.arr (ds.map fun d => (dayPayload d).sortKeys)))) := by
    rw [← sortItems_map, ← Json.sortKeys]
    rfl
  rw [hpayload, hpayload] at h
  have htext := encode_injective (Sha256.hexdigest_injective hfree h)
  have hitems := Json.arr.inj (Json.dumps_compactAscii_injective htext)
  clear h htext hpayload
  induction days generalizing days' with
  | nil =>
      cases days' with
      | nil => rfl
      | cons d' days' => exact absurd hitems (by simp)
  | cons d days ih =>
      cases days' with
      | nil => exact absurd hitems (by simp)
      | cons d' days' =>
          rw [List.map_cons, List.map_cons, List.cons.injEq] at hitems
          rw [List.map_cons, List.map_cons, bare_of_payload hitems.1, ih hitems.2]

end Hash

/-! ## Reasons -/

/-- The last day of a date, which the reasons are read off. -/
def lastOf (days : List DayInput) (chargeDate : Date) : Option DayInput :=
  days.reverse.find? fun d => d.chargeDate = chargeDate

/-- The reasons of a recommendation. -/
def reasonsOf (days : List DayInput) : List ReasonCode :=
  resolveReasonCodes days
    ((days.map judgeDay).filter fun j => j.outcome ≠ .excludedNotChargeable)

def addReason (reason : List ReasonCode) (code : ReasonCode) : List ReasonCode :=
  if code ∈ reason then reason else reason ++ [code]

/-- The reasons are the codes of the insufficient days, each once. -/
theorem resolveReasonCodes_eq (days : List DayInput) (js : List DayJudgment) :
    resolveReasonCodes days js = ((js.filter fun j => j.outcome = .insufficientEvidence).map
      (insufficiencyReason days)).foldl addReason [] := by
  rw [List.foldl_map]
  rfl

theorem mem_foldl_addReason {codes reason : List ReasonCode} {code : ReasonCode} :
    code ∈ codes.foldl addReason reason ↔ code ∈ reason ∨ code ∈ codes := by
  induction codes generalizing reason with
  | nil => simp
  | cons first codes ih =>
      rw [List.foldl_cons, ih, List.mem_cons]
      have hadd : code ∈ addReason reason first ↔ code ∈ reason ∨ code = first := by
        unfold addReason
        by_cases hmem : first ∈ reason
        · rw [if_pos hmem]
          constructor
          · exact Or.inl
          · rintro (h | rfl)
            · exact h
            · exact hmem
        · rw [if_neg hmem, List.mem_append, List.mem_singleton]
      rw [hadd, or_assoc]

theorem judgeDay_bare (d : DayInput) : judgeDay (bare d) = judgeDay d := rfl

theorem map_judgeDay {days days' : List DayInput} (h : days.map bare = days'.map bare) :
    days.map judgeDay = days'.map judgeDay := by
  have hbare (ds : List DayInput) : ds.map judgeDay = (ds.map bare).map judgeDay := by
    rw [List.map_map]
    exact List.map_congr_left fun d _ => (judgeDay_bare d).symm
  rw [hbare days, h, ← hbare]

/-- The last day of a date is the same but for its missing requirements. -/
theorem lastOf_bare {days days' : List DayInput} (h : days.map bare = days'.map bare)
    (chargeDate : Date) :
    (lastOf days chargeDate).map bare = (lastOf days' chargeDate).map bare := by
  have hbare (ds : List DayInput) : (lastOf ds chargeDate).map bare =
      (ds.map bare).reverse.find? fun d => d.chargeDate = chargeDate := by
    unfold lastOf
    rw [← List.map_reverse, List.find?_map]
    rfl
  rw [hbare, hbare, h]

/-- No reason of the days is read off a day without source coverage. -/
def RuleReasonsOnly (days : List DayInput) : Prop :=
  ∀ d ∈ days, (judgeDay d).outcome = .insufficientEvidence →
    ∀ src ∈ lastOf days d.chargeDate, src.coverageState = .presentVerified

theorem judgeDay_chargeDate (d : DayInput) : (judgeDay d).chargeDate = d.chargeDate := by
  unfold judgeDay
  dsimp only
  split
  · rfl
  · split
    · split
      · rfl
      · rfl
    · rfl

/-- The reason read off a covered day is the rule. -/
theorem insufficiencyReason_covered {days : List DayInput} {j : DayJudgment}
    (h : ∀ src ∈ lastOf days j.chargeDate, src.coverageState = .presentVerified) :
    insufficiencyReason days j = .ruleNotVerified := by
  unfold insufficiencyReason
  unfold lastOf at h
  cases hsrc : days.reverse.find? fun d => d.chargeDate = j.chargeDate with
  | none => rfl
  | some src =>
      have hcovered := h src hsrc
      simp [hcovered]

/-- The insufficient judgments of the days. -/
theorem mem_insufficient {days : List DayInput} {j : DayJudgment} :
    j ∈ ((days.map judgeDay).filter fun j => j.outcome ≠ .excludedNotChargeable).filter
        (fun j => j.outcome = .insufficientEvidence) ↔
      ∃ d ∈ days, judgeDay d = j ∧ j.outcome = .insufficientEvidence := by
  rw [List.mem_filter, List.mem_filter, List.mem_map, decide_eq_true_eq, decide_eq_true_eq]
  constructor
  · rintro ⟨⟨⟨d, hd, heq⟩, _⟩, hinsufficient⟩
    exact ⟨d, hd, heq, hinsufficient⟩
  · rintro ⟨d, hd, heq, hinsufficient⟩
    refine ⟨⟨⟨d, hd, heq⟩, ?_⟩, hinsufficient⟩
    rw [hinsufficient]
    decide

theorem reasonsOf_same {days days' : List DayInput} (h : days.map bare = days'.map bare)
    (hrule : RuleReasonsOnly days) : reasonsOf days = reasonsOf days' := by
  unfold reasonsOf
  rw [← map_judgeDay h, resolveReasonCodes_eq, resolveReasonCodes_eq]
  refine congrArg (List.foldl addReason []) (List.map_congr_left fun j hj => ?_)
  obtain ⟨d, hd, rfl, hinsufficient⟩ := mem_insufficient.mp hj
  have hcovered : ∀ src ∈ lastOf days (judgeDay d).chargeDate,
      src.coverageState = .presentVerified := by
    rw [judgeDay_chargeDate]
    exact hrule d hd hinsufficient
  rw [insufficiencyReason_covered hcovered, insufficiencyReason_covered]
  intro src' hsrc'
  have hlast := lastOf_bare h (judgeDay d).chargeDate
  rw [Option.mem_def.mp hsrc', Option.map_some] at hlast
  obtain ⟨src, hsrc, heq⟩ := Option.map_eq_some_iff.mp hlast
  have hsame : (bare src).coverageState = (bare src').coverageState :=
    congrArg DayInput.coverageState heq
  exact hsame.symm.trans (hcovered src hsrc)

/-! ## Days with other missing requirements -/

/-- The days with given missing requirements. -/
def lacking (missing : List MissingRequirement) (days : List DayInput) : List DayInput :=
  days.map fun d => { d with missingRequirements := missing }

theorem lacking_bare (missing : List MissingRequirement) (days : List DayInput) :
    (lacking missing days).map bare = days.map bare := by
  unfold lacking
  rw [List.map_map]
  rfl

theorem lastOf_lacking (missing : List MissingRequirement) (days : List DayInput)
    (chargeDate : Date) : lastOf (lacking missing days) chargeDate =
      (lastOf days chargeDate).map fun d => { d with missingRequirements := missing } := by
  unfold lastOf lacking
  rw [← List.map_reverse, List.find?_map]
  rfl

/-- Where a reason is read off a day without coverage, it depends on what the day lacks. -/
theorem reasonsOf_lacking {days : List DayInput} (h : ¬RuleReasonsOnly days) :
    reasonsOf (lacking [.terminalAccess] days) ≠ reasonsOf (lacking [] days) := by
  unfold RuleReasonsOnly at h
  simp only [not_forall] at h
  obtain ⟨d, hd, hinsufficient, src, hsrc, huncovered⟩ := h
  have hmem (missing : List MissingRequirement) (code : ReasonCode) :
      code ∈ reasonsOf (lacking missing days) ↔ ∃ d ∈ days, (judgeDay d).outcome =
        .insufficientEvidence ∧ insufficiencyReason (lacking missing days) (judgeDay d) = code := by
    unfold reasonsOf
    rw [map_judgeDay (lacking_bare missing days), resolveReasonCodes_eq, mem_foldl_addReason,
      List.mem_map]
    simp only [List.not_mem_nil, false_or, mem_insufficient]
    constructor
    · rintro ⟨j, ⟨d, hd, rfl, hj⟩, hcode⟩
      exact ⟨d, hd, hj, hcode⟩
    · rintro ⟨d, hd, hj, hcode⟩
      exact ⟨judgeDay d, ⟨d, hd, rfl, hj⟩, hcode⟩
  intro heq
  have hin : ReasonCode.missingDayAccessEvidence ∈ reasonsOf (lacking [.terminalAccess] days) := by
    refine (hmem _ _).mpr ⟨d, hd, hinsufficient, ?_⟩
    have hlast := lastOf_lacking [.terminalAccess] days (judgeDay d).chargeDate
    rw [judgeDay_chargeDate, Option.mem_def.mp hsrc, Option.map_some, ← judgeDay_chargeDate] at hlast
    unfold lastOf at hlast
    unfold insufficiencyReason
    rw [hlast]
    simp [huncovered]
  rw [heq, hmem] at hin
  obtain ⟨d', _, _, hcode⟩ := hin
  have hlast := lastOf_lacking [] days (judgeDay d').chargeDate
  unfold lastOf at hlast
  unfold insufficiencyReason at hcode
  rw [hlast] at hcode
  cases hfind : days.reverse.find? fun d => d.chargeDate = (judgeDay d').chargeDate with
  | none => simp [hfind] at hcode
  | some src' =>
      simp only [hfind, Option.map_some, List.not_mem_nil, if_false] at hcode
      split at hcode
      · exact absurd hcode (by decide)
      · exact absurd hcode (by decide)

/-! ## Recommendations -/

section Recommending

variable [Sha256]

/-- The days have one currency. -/
def SameCurrency (days : List DayInput) : Prop :=
  ∀ d ∈ days, ∀ d' ∈ days, d.currency = d'.currency

/-- A recommendation is made of the days without their missing requirements and the reasons. -/
theorem resolveRecommendation_same {days days' : List DayInput}
    (h : days.map bare = days'.map bare)
    (hreasons : SameCurrency days → reasonsOf days = reasonsOf days') :
    resolveRecommendation days = resolveRecommendation days' := by
  cases days with
  | nil =>
      cases days' with
      | nil => rfl
      | cons first' rest' => exact absurd h (by simp)
  | cons first rest =>
      cases days' with
      | nil => exact absurd h (by simp)
      | cons first' rest' =>
          have hjudgments := map_judgeDay h
          have hcurrency : first.currency = first'.currency := by
            rw [List.map_cons, List.map_cons, List.cons.injEq] at h
            have hsame : (bare first).currency = (bare first').currency :=
              congrArg DayInput.currency h.1
            exact hsame
          have hany (ds : List DayInput) : (ds.any fun d => d.currency ≠ first.currency) =
              (ds.map bare).any fun d => d.currency ≠ first.currency := by
            rw [List.any_map]
            rfl
          unfold resolveRecommendation
          dsimp only
          rw [← hcurrency, hany, h, ← hany (first' :: rest'), hjudgments]
          by_cases hmixed : ((first' :: rest').any fun d => d.currency ≠ first.currency) = true
          · rw [if_pos hmixed, if_pos hmixed]
          · have hsame : SameCurrency (first :: rest) := by
              have hall : ∀ d ∈ first :: rest, d.currency = first.currency := by
                intro d hd
                rw [hany, ← h, ← hany (first :: rest), List.any_eq_true] at hmixed
                by_contra hne
                exact hmixed ⟨d, hd, decide_eq_true hne⟩
              intro d hd d' hd'
              rw [hall d hd, hall d' hd']
            have hreason := hreasons hsame
            unfold reasonsOf at hreason
            rw [hjudgments] at hreason
            rw [if_neg hmixed, if_neg hmixed, hreason]

theorem reasonCodes_eq {days : List DayInput} {r : Recommendation}
    (h : resolveRecommendation days = .ok r) : r.reasonCodes = reasonsOf days := by
  unfold resolveRecommendation at h
  cases days with
  | nil => exact absurd h (by simp)
  | cons first rest =>
      dsimp only at h
      split at h
      · exact absurd h (by simp)
      · obtain rfl := Except.ok.inj h
        rfl

/-- Days of one currency resolve to a recommendation. -/
theorem resolveRecommendation_ok {days : List DayInput} (hne : days ≠ [])
    (hsame : SameCurrency days) : ∃ r, resolveRecommendation days = .ok r := by
  cases days with
  | nil => exact absurd rfl hne
  | cons first rest =>
      have hany : ((first :: rest).any fun d => d.currency ≠ first.currency) = false := by
        refine List.any_eq_false.mpr fun d hd => ?_
        rw [hsame d hd first List.mem_cons_self]
        simp
      unfold resolveRecommendation
      dsimp only
      rw [if_neg (by rw [hany]; exact Bool.false_ne_true)]
      exact ⟨_, rfl⟩

/-- A fingerprint hit on these days gives the recommendation they would give. -/
def FingerprintSound (days : List DayInput) : Prop :=
  ∀ days', recommendationFingerprint days = recommendationFingerprint days' →
    resolveRecommendation days = resolveRecommendation days'

theorem fingerprint_lacking (missing : List MissingRequirement) (days : List DayInput) :
    recommendationFingerprint (lacking missing days) = recommendationFingerprint days := by
  unfold recommendationFingerprint lacking
  rw [List.map_map]
  rfl

/-- A fingerprint binds the recommendation exactly where the currencies differ, so that there is
none, or no reason is read off a day without source coverage.
SOURCE: core/judgment.py:163-180,215-233 -/
theorem fingerprintSound_iff (hfree : Sha256.CollisionFree) (days : List DayInput) :
    FingerprintSound days ↔ ¬SameCurrency days ∨ RuleReasonsOnly days := by
  constructor
  · intro hsound
    by_contra hneither
    rw [not_or, not_not] at hneither
    obtain ⟨hsame, hrule⟩ := hneither
    have hne : days ≠ [] := by
      rintro rfl
      exact hrule fun d hd => absurd hd List.not_mem_nil
    obtain ⟨r, hr⟩ := resolveRecommendation_ok hne hsame
    have hreasons (missing : List MissingRequirement) :
        reasonsOf (lacking missing days) = r.reasonCodes := by
      have hequal := hsound _ (fingerprint_lacking missing days).symm
      exact (reasonCodes_eq (hequal.symm.trans hr)).symm
    exact reasonsOf_lacking hrule ((hreasons _).trans (hreasons _).symm)
  · intro hcondition days' hfingerprint
    have hbare := bare_of_fingerprint hfree hfingerprint
    refine resolveRecommendation_same hbare fun hsame => ?_
    exact reasonsOf_same hbare (hcondition.resolve_left (not_not.mpr hsame))

end Recommending

section Case

/-- A chargeable day of 300.00 without source coverage. -/
def uncoveredDay (missingRequirements : List MissingRequirement) : DayInput :=
  { chargeDate := .min
    invoiceRateMinor := 30000
    applicableRateMinor := some 25000
    currency := "USD"
    coverageState := .missing
    chargeable := true
    missingRequirements }

local instance caseHash : Sha256 := Sha256.agreeingOn []

theorem fingerprintSound_iff_uncovered :
    FingerprintSound [uncoveredDay []] ↔
      ¬SameCurrency [uncoveredDay []] ∨ RuleReasonsOnly [uncoveredDay []] :=
  fingerprintSound_iff (Sha256.agreeingOn_collisionFree (by simp)) [uncoveredDay []]

/-- Whether access is what the day lacks is not in the fingerprint, and decides the reason. -/
theorem fingerprint_unsound : Sha256.CollisionFree ∧
    recommendationFingerprint [uncoveredDay []] =
      recommendationFingerprint [uncoveredDay [.terminalAccess]] ∧
    resolveRecommendation [uncoveredDay []] ≠
      resolveRecommendation [uncoveredDay [.terminalAccess]] := by
  refine ⟨Sha256.agreeingOn_collisionFree (by simp), rfl, fun hequal => ?_⟩
  obtain ⟨r, hr⟩ : ∃ r, resolveRecommendation [uncoveredDay []] = .ok r :=
    resolveRecommendation_ok (by simp) (by simp [SameCurrency])
  have hreasons := (reasonCodes_eq hr).symm.trans (reasonCodes_eq (hequal.symm.trans hr))
  exact absurd hreasons (by decide)

end Case

end Tally.Analysis.Fingerprints
