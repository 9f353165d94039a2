import Mathlib.Data.List.MinMax
import Tally.Model.ApplicableRuleRepository
import Tally.Model.Capture
import Tally.Model.IntakeClaims
import Tally.Model.VectorRetrieval

/-!
# Applicability of rules

The embedding of `core/applicable_rule.py` and of what `platform/applicable_rule_worker.py` makes
of a search: the candidates of the hits, the validators a candidate has to pass, and the decision
over all candidates that is then stored. A distance is carried along and never compared, so its
type is a parameter; upper case is one too.
-/

set_option autoImplicit false

namespace Tally.Model.Applicability
open Library Library.Calendar Tally.Model
open Tally.Model.ApplicableRuleRepository (RuleValidationState RuleTaskLease RuleCompletion completeRule)

/-- The upper case of a text. -/
class UpperCase where
  upper : List Char → List Char

/-! ## Rates -/

/-- A decimal number; a signaling NaN is treated as a NaN. -/
inductive Decimal where
  | finite (negative : Bool) (coefficient : Nat) (exponent : Int)
  | infinity (negative : Bool)
  | nan
deriving DecidableEq

/-- What `_rate_minor` lets through of the exceptions it meets. -/
inductive RateError where
  | typeError
  | overflow
deriving DecidableEq

/-- The digits by which a product is longer than the precision of the decimal context. -/
def excessDigits (product : Nat) : Nat :=
  (Nat.toDigits 10 product).length - IntakeClaims.decimalPrecision

/-- `decimal * 100`: the coefficient and the exponent of the rounded product. -/
def timesHundred (coefficient : Nat) (exponent : Int) : Except RateError (Nat × Int) :=
  let product := coefficient * 100
  let shift := excessDigits product
  let rounded := roundHalfEven product (10 ^ shift)
  if product ≠ 0 ∧ (IntakeClaims.decimalEmax + 1 : Int) <
      (Nat.toDigits 10 rounded).length + (exponent + shift) then .error .overflow
  else .ok (rounded, exponent + shift)

/-- `int(decimal)`. -/
def truncated (coefficient : Nat) (exponent : Int) : Nat :=
  if 0 ≤ exponent then coefficient * 10 ^ exponent.toNat
  else coefficient / 10 ^ (-exponent).toNat

/-- `_rate_minor`. -/
def rateMinor : Option Decimal → Except RateError (Option Int)
  | none => .ok none
  -- The comparison with zero raises InvalidOperation, which is caught.
  | some .nan => .ok none
  | some (.infinity true) => .ok none
  -- The exponent of an infinity is the text "F", which does not compare with a number.
  | some (.infinity false) => .error .typeError
  | some (.finite negative coefficient exponent) =>
    if (negative = true ∧ coefficient ≠ 0) ∨ exponent < -2 then .ok none
    else (timesHundred coefficient exponent).map fun product =>
      some (truncated product.1 product.2 : Int)

/-! ## Texts -/

section Texts

variable [CharacterTables]

open CharacterTables

/-- `_normalize`. -/
def normalize (text : String) : List Char :=
  VectorRetrieval.collapseSpaces (lower (Capture.strip text.toList))

/-- `text.replace(old, new)`; the first argument counts the characters of a match that are still
to be passed over. -/
def replaceFrom (old new : List Char) : Nat → List Char → List Char
  | _, [] => []
  | skip + 1, _ :: text => replaceFrom old new skip text
  | 0, c :: text =>
    if old.isPrefixOf (c :: text) then new ++ replaceFrom old new (old.length - 1) text
    else c :: replaceFrom old new 0 text

/-- `_norm_unit`. -/
def normUnit (unit : Option String) : List Char :=
  if unit.getD "" = "" then []
  else
    let letters := (lower (unit.getD "").toList).filter fun c => 'a' ≤ c ∧ c ≤ 'z'
    replaceFrom "percalendarday".toList "calendarday".toList 0 letters

end Texts

/-! ## Candidates -/

/-- A clause returned by the vector index. -/
structure RuleCandidate (D : Type) where
  publicRef : String
  clauseRef : String
  rank : Nat
  distance : D
  clauseText : String
  rateAmount : Option Decimal
  rateCurrency : Option String
  rateUnit : Option String
  effectiveFrom : Option Date
  effectiveTo : Option Date
  scopeCode : String
  equipmentType : Option String
  routeCode : Option String
  verificationStatus : String
  superseded : Bool
deriving DecidableEq

/-- The verified facts a candidate is validated against. -/
structure ApplicabilityQuery where
  chargedDates : List Date
  invoiceCurrency : String
  expectedUnit : String
  scopeCode : String
  expectedRatePhrase : String
  equipmentType : Option String
  routeCode : Option String

/-- `_covers_all_dates`. -/
def coversAllDates {D : Type} (candidate : RuleCandidate D) (dates : List Date) : Bool :=
  match candidate.effectiveFrom with
  | none => false
  | some start => dates.all fun d => start ≤ d && candidate.effectiveTo.all fun last => d ≤ last

/-- Whether a fact is not asked for, or the clause leaves it open or states it. -/
def matchesWhenAsked (asked stated : Option String) : Bool :=
  asked.getD "" = "" || stated = none || stated = asked

/-- `_scope_matches`. -/
def scopeMatches {D : Type} (candidate : RuleCandidate D) (query : ApplicabilityQuery) : Bool :=
  candidate.scopeCode = query.scopeCode &&
    matchesWhenAsked query.equipmentType candidate.equipmentType &&
    matchesWhenAsked query.routeCode candidate.routeCode

/-! ## Validators -/

inductive Validator where
  | sourceVersion | exactText | exactRate | currency | unit | effectiveDate | scope
  | supersession | boundarySemantics
deriving DecidableEq

/-- `VALIDATORS`. -/
def validators : List Validator :=
  [.sourceVersion, .exactText, .exactRate, .currency, .unit, .effectiveDate, .scope,
    .supersession, .boundarySemantics]

inductive Verdict where
  | verified | failed
deriving DecidableEq

/-- `_rejection_code`. -/
def rejectionCode : Validator → String
  | .effectiveDate => "REJECTED_WRONG_DATE"
  | .exactText => "REJECTED_TEXT_MISMATCH"
  | .scope => "REJECTED_SCOPE_MISMATCH"
  | .sourceVersion => "VERSION_UNAVAILABLE"
  | .exactRate => "REJECTED_EXACT_RATE"
  | .currency => "REJECTED_CURRENCY"
  | .unit => "REJECTED_UNIT"
  | .supersession => "REJECTED_SUPERSESSION"
  | .boundarySemantics => "REJECTED_BOUNDARY_SEMANTICS"

structure CandidateValidation (D : Type) where
  candidate : RuleCandidate D
  state : CandidateState
  results : Validator → Verdict
  rejectionCode : Option String
  rateMinor : Option Int

def verdict (passes : Bool) : Verdict := if passes then .verified else .failed

section Decision

variable [CharacterTables] [UpperCase] {D : Type}

/-- The results of the validators, over the rate in minor units. -/
def resultsOf (candidate : RuleCandidate D) (query : ApplicabilityQuery) (rate : Option Int) :
    Validator → Verdict
  | .sourceVersion => verdict (candidate.verificationStatus = "VERIFIED")
  | .supersession => verdict !candidate.superseded
  | .exactText =>
    verdict (normalize query.expectedRatePhrase <:+: normalize candidate.clauseText)
  | .exactRate => verdict rate.isSome
  | .currency =>
    verdict (UpperCase.upper (candidate.rateCurrency.getD "").toList =
      UpperCase.upper query.invoiceCurrency.toList)
  | .unit => verdict (normUnit candidate.rateUnit = normUnit (some query.expectedUnit))
  | .effectiveDate => verdict (coversAllDates candidate query.chargedDates)
  | .scope => verdict (scopeMatches candidate query)
  | .boundarySemantics =>
    verdict (candidate.effectiveFrom.isSome &&
      normUnit candidate.rateUnit = normUnit (some query.expectedUnit))

/-- `validate_candidate`. -/
def validateCandidate (query : ApplicabilityQuery) (candidate : RuleCandidate D) :
    Except RateError (CandidateValidation D) := do
  let rate ← rateMinor candidate.rateAmount
  let results := resultsOf candidate query rate
  match validators.filter fun v => results v ≠ .verified with
  | failed :: _ =>
    pure
      { candidate
        state := .rejected
        results
        rejectionCode := some (rejectionCode failed)
        rateMinor := rate }
  | [] => pure { candidate, state := .accepted, results, rejectionCode := none, rateMinor := rate }

/-- A decision: a rule is accepted exactly when the state is VERIFIED, and a refusal names one of
two public errors. -/
structure ApplicabilityDecision (D : Type) where
  state : RuleValidationState
  accepted : Option (CandidateValidation D)
  candidateValidations : List (CandidateValidation D)
  publicError : Option String
  verified_iff : state = .verified ↔ accepted.isSome = true
  refusal : accepted = none →
    publicError = some "NO_APPLICABLE_RULE" ∨ publicError = some "RULE_CONFLICT"

/-- `decide_applicable_rule`; `min` returns the first of the accepted candidates of lowest rank. -/
def decideApplicableRule (query : ApplicabilityQuery) (candidates : List (RuleCandidate D)) :
    Except RateError (ApplicabilityDecision D) := do
  let validations ← candidates.mapM (validateCandidate query)
  let accepted := validations.filter fun v => v.state = .accepted
  match accepted.argmin fun v => v.candidate.rank with
  | none =>
    pure
      { state := .rejected
        accepted := none
        candidateValidations := validations
        publicError := some "NO_APPLICABLE_RULE"
        verified_iff := by simp
        refusal := fun _ => Or.inl rfl }
  | some best =>
    if 1 < (accepted.map CandidateValidation.rateMinor).dedup.length then
      pure
        { state := .conflicted
          accepted := none
          candidateValidations := validations
          publicError := some "RULE_CONFLICT"
          verified_iff := by simp
          refusal := fun _ => Or.inr rfl }
    else
      pure
        { state := .verified
          accepted := some best
          candidateValidations := validations
          publicError := none
          verified_iff := by simp
          refusal := fun h => absurd h (by simp) }

end Decision

/-! ## The worker -/

/-- A clause the vector search found. -/
structure ClauseVectorHit (D : Type) where
  clauseRef : String
  l2Distance : D
  clauseText : String
  rateAmount : Option Decimal
  rateCurrency : Option String
  rateUnit : Option String
  effectiveFrom : Option Date
  effectiveTo : Option Date
  equipmentType : Option String
  routeCode : Option String
  verificationStatus : String

/-- `code or "UNKNOWN"`. -/
def orUnknown (code : Option String) : String :=
  if code.getD "" = "" then "UNKNOWN" else code.getD ""

/-- `_scope_code`. -/
def scopeCode {D : Type} (hit : ClauseVectorHit D) : String :=
  "DEMURRAGE:" ++ orUnknown hit.routeCode ++ ":" ++ orUnknown hit.equipmentType

/-- `_hit_to_candidate`. -/
def hitToCandidate {D : Type} (hit : ClauseVectorHit D) (rank : Nat) : RuleCandidate D :=
  { publicRef := "RULE-" ++ hit.clauseRef
    clauseRef := hit.clauseRef
    rank
    distance := hit.l2Distance
    clauseText := hit.clauseText
    rateAmount := hit.rateAmount
    rateCurrency := hit.rateCurrency
    rateUnit := hit.rateUnit
    effectiveFrom := hit.effectiveFrom
    effectiveTo := hit.effectiveTo
    scopeCode := scopeCode hit
    equipmentType := hit.equipmentType
    routeCode := hit.routeCode
    verificationStatus := hit.verificationStatus
    superseded := false }

/-- The candidates of a search, ranked from 1. -/
def candidatesOf {D : Type} (hits : List (ClauseVectorHit D)) : List (RuleCandidate D) :=
  (hits.zipIdx 1).map fun ranked => hitToCandidate ranked.1 ranked.2

/-- The query of a task. -/
def queryOf (lease : RuleTaskLease) : ApplicabilityQuery :=
  { chargedDates := lease.chargeDates
    invoiceCurrency := lease.invoiceCurrency
    expectedUnit := "CALENDAR_DAY"
    scopeCode := lease.scopeCode
    expectedRatePhrase := "$250"
    equipmentType := some "DRY"
    routeCode := some "USOAK" }

/-- What is stored of a candidate. -/
def RuleCandidate.stored {D : Type} (candidate : RuleCandidate D) :
    ApplicableRuleRepository.RuleCandidate :=
  { publicRef := candidate.publicRef
    clauseRef := candidate.clauseRef
    rank := candidate.rank
    rateCurrency := candidate.rateCurrency
    effectiveFrom := candidate.effectiveFrom
    effectiveTo := candidate.effectiveTo }

def CandidateValidation.stored {D : Type} (validation : CandidateValidation D) :
    ApplicableRuleRepository.CandidateValidation :=
  { candidate := validation.candidate.stored
    state := validation.state
    rejectionCode := validation.rejectionCode
    rateMinor := validation.rateMinor }

def ApplicabilityDecision.stored {D : Type} (decision : ApplicabilityDecision D) :
    ApplicableRuleRepository.ApplicabilityDecision :=
  { state := decision.state
    accepted := decision.accepted.map CandidateValidation.stored
    candidateValidations := decision.candidateValidations.map CandidateValidation.stored
    publicError := decision.publicError
    verified_iff := by rw [Option.isSome_map]; exact decision.verified_iff
    refusal := fun h => decision.refusal (Option.map_eq_none_iff.mp h) }

/-- The worker from the hits on: the candidates are decided upon and stored with the decision. -/
def settleHits [Sha256] [CharacterTables] [UpperCase] {D : Type} (env : TxnEnv)
    (lease : RuleTaskLease) (queryFingerprint : String) (hits : List (ClauseVectorHit D)) :
    Except RateError (Tx RuleCompletion) := do
  let candidates := candidatesOf hits
  let decision ← decideApplicableRule (queryOf lease) candidates
  pure (completeRule env lease queryFingerprint (candidates.map RuleCandidate.stored)
    decision.stored)

end Tally.Model.Applicability
