import Mathlib.Algebra.Ring.Int.Defs
import Tally.Library.Sha256
import Tally.Model.Reconstruction

/-!
# The deterministic judgment engine

The embedding of `core/judgment.py`: one judgment per charged day in integer
minor units, and the one recommendation, with its reason codes, digest and
summary, that a list of days resolves to.
-/

set_option autoImplicit false

namespace Tally.Model
open Library Library.Calendar

/-! ## Enumerations -/

inductive DayOutcome where
  | supported | rateDiscrepancy | insufficientEvidence | excludedNotChargeable
deriving DecidableEq

def DayOutcome.value : DayOutcome → String
  | supported => "SUPPORTED"
  | rateDiscrepancy => "RATE_DISCREPANCY"
  | insufficientEvidence => "INSUFFICIENT_EVIDENCE"
  | excludedNotChargeable => "EXCLUDED_NOT_CHARGEABLE"

inductive RecommendationType where
  | dispute | approveForPayment | requestEvidence
deriving DecidableEq

def RecommendationType.value : RecommendationType → String
  | dispute => "DISPUTE"
  | approveForPayment => "APPROVE_FOR_PAYMENT"
  | requestEvidence => "REQUEST_EVIDENCE"

inductive ReasonCode where
  | missingDaySource | missingDayAccessEvidence | ruleNotVerified
  | sourceVersionUnavailable | sourceIntegrityFailed
deriving DecidableEq

def ReasonCode.value : ReasonCode → String
  | missingDaySource => "MISSING_DAY_SOURCE"
  | missingDayAccessEvidence => "MISSING_DAY_ACCESS_EVIDENCE"
  | ruleNotVerified => "RULE_NOT_VERIFIED"
  | sourceVersionUnavailable => "SOURCE_VERSION_UNAVAILABLE"
  | sourceIntegrityFailed => "SOURCE_INTEGRITY_FAILED"

def CoverageState.value : CoverageState → String
  | presentVerified => "PRESENT_VERIFIED"
  | missing => "MISSING"
  | unavailable => "UNAVAILABLE"
  | conflicted => "CONFLICTED"
  | notApplicable => "NOT_APPLICABLE"

/-! ## Money texts -/

/-- A quotient of natural numbers rounded to the nearest, ties to even. -/
def roundHalfEven (num den : Nat) : Nat :=
  let q := num / den
  let r := num % den
  if 2 * r < den ∨ (2 * r = den ∧ q % 2 = 0) then q else q + 1

/-- The cents that `minor / 100` shows with two decimals: the quotient is first
rounded to a double of 53 significant bits, then to hundredths. -/
def floatCents (minor : Nat) : Nat :=
  if minor = 0 then 0
  else
    let magnitude := Nat.log2 (minor * 2 ^ 60 / 100)
    -- the quotient is mantissa * 2 ^ (magnitude - 112)
    let mantissa := roundHalfEven (minor * 2 ^ (112 - magnitude)) (100 * 2 ^ (magnitude - 112))
    roundHalfEven (mantissa * 100 * 2 ^ (magnitude - 112)) (2 ^ (112 - magnitude))

/-- `f"{currency} {minor / 100:.2f}"`. -/
def fmt (minor : Int) (currency : String) : String :=
  let cents := floatCents minor.natAbs
  currency ++ " " ++ (if minor < 0 then "-" else "") ++ Nat.repr (cents / 100) ++ "." ++
    String.ofList (pad 2 (cents % 100))

example : fmt 70000 "USD" = "USD 700.00" := by decide +kernel

/-! ## One day -/

structure DayInput where
  chargeDate : Date
  invoiceRateMinor : Int
  applicableRateMinor : Option Int
  currency : String
  coverageState : CoverageState
  chargeable : Bool
  missingRequirements : List MissingRequirement := []
deriving DecidableEq

structure DayJudgment where
  chargeDate : Date
  invoiceRateMinor : Int
  applicableRateMinor : Option Int
  discrepancyMinor : Int
  currency : String
  outcome : DayOutcome
  explanation : String
deriving DecidableEq

def judgeDay (day : DayInput) : DayJudgment :=
  let judgment (discrepancy : Int) (outcome : DayOutcome) (explanation : String) : DayJudgment :=
    ⟨day.chargeDate, day.invoiceRateMinor, day.applicableRateMinor, discrepancy, day.currency,
      outcome, explanation⟩
  if !day.chargeable then
    judgment 0 .excludedNotChargeable "Day is not chargeable under the sourced timeline."
  else match day.coverageState, day.applicableRateMinor with
  | .presentVerified, some applicable =>
    let discrepancy := day.invoiceRateMinor - applicable
    if discrepancy = 0 then
      judgment 0 .supported "Invoice rate matches the applicable recorded tariff."
    else
      judgment discrepancy .rateDiscrepancy
        ("Invoice rate exceeds the applicable tariff by " ++ fmt discrepancy day.currency ++
          " for this day.")
  | _, _ =>
    judgment 0 .insufficientEvidence
      "Source coverage or applicable rate is missing for this day."

/-! ## The recommendation -/

structure Recommendation where
  recommendationType : RecommendationType
  disputedAmountMinor : Int
  supportedAmountMinor : Int
  claimedAmountMinor : Int
  currency : String
  daysTotal : Nat
  daysCovered : Nat
  evidenceCoverage : String
  judgments : List DayJudgment
  reasonCodes : List ReasonCode
  digest : String
  summary : String
deriving DecidableEq

/-- The reason a day that resolves to insufficient evidence gives. -/
def insufficiencyReason (days : List DayInput) (j : DayJudgment) : ReasonCode :=
  -- a dict keyed by date keeps the last day of a date
  match days.reverse.find? fun d => d.chargeDate = j.chargeDate with
  | some src =>
    if src.coverageState ≠ .presentVerified then
      if .terminalAccess ∈ src.missingRequirements then .missingDayAccessEvidence
      else .missingDaySource
    else .ruleNotVerified
  | none => .ruleNotVerified

def resolveReasonCodes (days : List DayInput) (chargeable : List DayJudgment) : List ReasonCode :=
  (chargeable.filter fun j => j.outcome = .insufficientEvidence).foldl
    (fun reason j =>
      let code := insufficiencyReason days j
      if code ∈ reason then reason else reason ++ [code]) []

def recommendationDigest [Sha256] (recType : RecommendationType)
    (disputed supported claimed : Int) (currency : String) (judgments : List DayJudgment)
    (reasonCodes : List ReasonCode) : String :=
  let payload : Json := .obj [
    ("type", .str recType.value), ("disputed", .int disputed), ("supported", .int supported),
    ("claimed", .int claimed), ("currency", .str currency),
    ("reasons", .arr (reasonCodes.map fun r => .str r.value)),
    ("days", .arr (judgments.map fun j => .obj [
      ("d", .str j.chargeDate.isoformat), ("o", .str j.outcome.value),
      ("disc", .int j.discrepancyMinor)]))]
  "sha256:" ++ Sha256.hexdigest (encode (Json.dumps .compactAscii payload.sortKeys))

/-- Judge every day and resolve one deterministic recommendation. -/
def resolveRecommendation [Sha256] (days : List DayInput) : Except PyError Recommendation :=
  match days with
  | [] => .error (.valueError "NO_CHARGED_DAYS")
  | first :: _ =>
    let currency := first.currency
    if days.any fun d => d.currency ≠ currency then .error (.valueError "CURRENCY_MISMATCH")
    else
      let judgments := days.map judgeDay
      let chargeable := judgments.filter fun j => j.outcome ≠ .excludedNotChargeable
      let claimed := (chargeable.map DayJudgment.invoiceRateMinor).sum
      let disputed := ((judgments.filter fun j => j.outcome = .rateDiscrepancy).map
        DayJudgment.discrepancyMinor).sum
      let supported := ((judgments.filter fun j =>
        j.outcome = .supported ∨ j.outcome = .rateDiscrepancy).filterMap
          DayJudgment.applicableRateMinor).sum
      let daysTotal := chargeable.length
      let daysCovered := (chargeable.filter fun j => j.outcome ≠ .insufficientEvidence).length
      let reasonCodes := resolveReasonCodes days chargeable
      let hasInsufficient := chargeable.any fun j => j.outcome = .insufficientEvidence
      let (recType, summary) : RecommendationType × String :=
        if hasInsufficient ∨ daysTotal = 0 then
          (.requestEvidence, "Evidence is incomplete; requesting evidence before deciding.")
        else if disputed > 0 then
          (.dispute, "Dispute " ++ fmt disputed currency ++ " across " ++ Nat.repr daysTotal ++
            " sourced days.")
        else
          (.approveForPayment, "Approve " ++ fmt supported currency ++ " for payment; rates match.")
      .ok
        { recommendationType := recType
          disputedAmountMinor := disputed
          supportedAmountMinor := supported
          claimedAmountMinor := claimed
          currency
          daysTotal
          daysCovered
          evidenceCoverage := Nat.repr daysCovered ++ " of " ++ Nat.repr daysTotal ++ " days"
          judgments
          reasonCodes
          digest := recommendationDigest recType disputed supported claimed currency judgments
            reasonCodes
          summary }

/-- Deterministic fingerprint over the judgment inputs. -/
def recommendationFingerprint [Sha256] (days : List DayInput) : String :=
  let payload : Json := .arr (days.map fun d => .obj [
    ("d", .str d.chargeDate.isoformat), ("inv", .int d.invoiceRateMinor),
    ("app", match d.applicableRateMinor with
      | some rate => .int rate
      | none => .null),
    ("cur", .str d.currency), ("cov", .str d.coverageState.value), ("chg", .bool d.chargeable)])
  Sha256.hexdigest (encode (Json.dumps .compactAscii payload.sortKeys))

/-! ## Judgment inputs of adjudicated days -/

/-- The judgment input a persisted charged day is read back as, with the rate the
applicable rule stamped on it. -/
def ChargedDayResult.toDayInput (applicableRateMinor : Option Int) (day : ChargedDayResult) :
    DayInput :=
  { chargeDate := day.chargeDate
    invoiceRateMinor := day.invoiceRateMinor
    applicableRateMinor
    currency := day.currency
    coverageState := day.coverageState
    chargeable := day.chargeability ≠ .notChargeable
    missingRequirements := day.missingRequirements }

/-- The judgment inputs of a reconstruction, in the order of their dates. -/
def dayInputsOf (days : List ChargedDayResult) (applicableRateMinor : Option Int) :
    List DayInput :=
  (days.map (ChargedDayResult.toDayInput applicableRateMinor)).insertionSort
    fun a b => a.chargeDate ≤ b.chargeDate

end Tally.Model
