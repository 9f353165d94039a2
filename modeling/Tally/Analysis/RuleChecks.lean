import Tally.Analysis.RuleRates

/-!
# Validated candidates

A candidate is accepted exactly when its fields pass the checks, whatever its distance is. Among
the checks is no comparison of the rate with the clause: an accepted rate is the one stated only
where the phrase denotes it and stands in the clause as a complete numeral.
-/

set_option autoImplicit false

namespace Tally.Analysis.RuleChecks
open Library Library.Calendar Tally.Model Tally.Model.Applicability RuleRates

/-! ## Eligible candidates -/

section Checks

variable [CharacterTables] [UpperCase] {D : Type}

/-- The fields of the candidate pass every check. -/
structure Eligible (query : ApplicabilityQuery) (candidate : RuleCandidate D) : Prop where
  sourceVersion : candidate.verificationStatus = "VERIFIED"
  exactText : normalize query.expectedRatePhrase <:+: normalize candidate.clauseText
  exactRate : Readable candidate.rateAmount
  currency : UpperCase.upper (candidate.rateCurrency.getD "").toList =
    UpperCase.upper query.invoiceCurrency.toList
  unit : normUnit candidate.rateUnit = normUnit (some query.expectedUnit)
  effectiveDate : coversAllDates candidate query.chargedDates = true
  scope : scopeMatches candidate query = true
  supersession : candidate.superseded = false

omit [CharacterTables] [UpperCase] in
theorem verdict_verified {passes : Bool} : verdict passes = .verified ↔ passes = true := by
  cases passes <;> simp [verdict]

omit [CharacterTables] [UpperCase] in
theorem effectiveFrom_isSome {candidate : RuleCandidate D} {dates : List Date}
    (h : coversAllDates candidate dates = true) : candidate.effectiveFrom.isSome = true := by
  unfold coversAllDates at h
  cases hstart : candidate.effectiveFrom with
  | none => simp [hstart] at h
  | some start => rfl

/-- The clause is effective on a date. -/
def EffectiveOn (candidate : RuleCandidate D) (date : Date) : Prop :=
  (∃ start, candidate.effectiveFrom = some start ∧ start ≤ date) ∧
    ∀ last, candidate.effectiveTo = some last → date ≤ last

omit [CharacterTables] [UpperCase] in
theorem effectiveOn_of_covers {candidate : RuleCandidate D} {dates : List Date}
    (h : coversAllDates candidate dates = true) : ∀ date ∈ dates, EffectiveOn candidate date := by
  intro date hdate
  obtain ⟨start, hstart⟩ := Option.isSome_iff_exists.mp (effectiveFrom_isSome h)
  unfold coversAllDates at h
  simp only [hstart, List.all_eq_true, Bool.and_eq_true, decide_eq_true_eq,
    Option.all_eq_true] at h
  exact ⟨⟨start, hstart, (h date hdate).1⟩, fun last hlast => (h date hdate).2 last hlast⟩

/-- The validators are verified exactly on the candidates that pass the checks. -/
theorem results_verified {query : ApplicabilityQuery} {candidate : RuleCandidate D}
    {rate : Option Int} (hrate : rateMinor candidate.rateAmount = .ok rate) :
    (∀ v, resultsOf candidate query rate v = .verified) ↔ Eligible query candidate := by
  constructor
  · intro h
    have hrateVerified := verdict_verified.mp (h .exactRate)
    refine ⟨of_decide_eq_true (verdict_verified.mp (h .sourceVersion)),
      of_decide_eq_true (verdict_verified.mp (h .exactText)),
      (rateMinor_isSome hrate).mp hrateVerified,
      of_decide_eq_true (verdict_verified.mp (h .currency)),
      of_decide_eq_true (verdict_verified.mp (h .unit)),
      verdict_verified.mp (h .effectiveDate), verdict_verified.mp (h .scope), ?_⟩
    have hcurrent := verdict_verified.mp (h .supersession)
    simpa using hcurrent
  · intro h v
    cases v with
    | sourceVersion => exact verdict_verified.mpr (decide_eq_true h.sourceVersion)
    | exactText => exact verdict_verified.mpr (decide_eq_true h.exactText)
    | exactRate => exact verdict_verified.mpr ((rateMinor_isSome hrate).mpr h.exactRate)
    | currency => exact verdict_verified.mpr (decide_eq_true h.currency)
    | unit => exact verdict_verified.mpr (decide_eq_true h.unit)
    | effectiveDate => exact verdict_verified.mpr h.effectiveDate
    | scope => exact verdict_verified.mpr h.scope
    | supersession => exact verdict_verified.mpr (by simp [h.supersession])
    | boundarySemantics =>
        apply verdict_verified.mpr
        simp [effectiveFrom_isSome h.effectiveDate, h.unit]

omit [CharacterTables] [UpperCase] in
theorem mem_validators (v : Validator) : v ∈ validators := by
  cases v <;> simp [validators]

/-! ## Validation -/

/-- What a validation that returns says of its candidate. -/
structure Validates (query : ApplicabilityQuery) (candidate : RuleCandidate D)
    (validation : CandidateValidation D) : Prop where
  candidate_eq : validation.candidate = candidate
  rate : rateMinor candidate.rateAmount = .ok validation.rateMinor
  results : validation.results = resultsOf candidate query validation.rateMinor
  accepted_iff : validation.state = .accepted ↔ Eligible query candidate
  code : (validation.state = .accepted ∧ validation.rejectionCode = none) ∨
    (validation.state = .rejected ∧ ∃ failed, validation.results failed = .failed ∧
      validation.rejectionCode = some (rejectionCode failed))

theorem validateCandidate_eq (query : ApplicabilityQuery) (candidate : RuleCandidate D) :
    validateCandidate query candidate = (rateMinor candidate.rateAmount).bind fun rate =>
      match validators.filter fun v => resultsOf candidate query rate v ≠ .verified with
      | failed :: _ => .ok ⟨candidate, .rejected, resultsOf candidate query rate,
          some (rejectionCode failed), rate⟩
      | [] => .ok ⟨candidate, .accepted, resultsOf candidate query rate, none, rate⟩ := by
  unfold validateCandidate
  cases rateMinor candidate.rateAmount with
  | error error => rfl
  | ok rate =>
      show (match validators.filter fun v => resultsOf candidate query rate v ≠ .verified with
        | failed :: _ => _
        | [] => _) = _
      cases hfailed : validators.filter fun v => resultsOf candidate query rate v ≠ .verified with
      | nil => simp only [hfailed, Except.bind]; rfl
      | cons failed rest => simp only [hfailed, Except.bind]; rfl

/-- A candidate is validated unless its rate raises. -/
theorem validateCandidate_returns (query : ApplicabilityQuery) {candidate : RuleCandidate D}
    (h : ¬Raises candidate.rateAmount) :
    ∃ validation, validateCandidate query candidate = .ok validation := by
  have hrate : ∃ rate, rateMinor candidate.rateAmount = .ok rate := by
    by_cases hreadable : Readable candidate.rateAmount
    · obtain ⟨n, hn, _⟩ := rateMinor_of_readable hreadable h
      exact ⟨some n, hn⟩
    · exact ⟨none, rateMinor_of_unreadable hreadable h⟩
  obtain ⟨rate, hrate⟩ := hrate
  rw [validateCandidate_eq, hrate]
  simp only [Except.bind]
  split
  · exact ⟨_, rfl⟩
  · exact ⟨_, rfl⟩

theorem validateCandidate_ok {query : ApplicabilityQuery} {candidate : RuleCandidate D}
    {validation : CandidateValidation D}
    (h : validateCandidate query candidate = .ok validation) :
    Validates query candidate validation := by
  rw [validateCandidate_eq] at h
  cases hrate : rateMinor candidate.rateAmount with
  | error error => simp [hrate, Except.bind] at h
  | ok rate =>
      simp only [hrate, Except.bind] at h
      cases hfailed : validators.filter fun v => resultsOf candidate query rate v ≠ .verified with
      | nil =>
          simp only [hfailed] at h
          obtain rfl := Except.ok.inj h
          have hall : ∀ v, resultsOf candidate query rate v = .verified := by
            intro v
            have hv := List.filter_eq_nil_iff.mp hfailed v (mem_validators v)
            simpa using hv
          exact ⟨rfl, hrate, rfl, iff_of_true rfl ((results_verified hrate).mp hall),
            Or.inl ⟨rfl, rfl⟩⟩
      | cons failed rest =>
          simp only [hfailed] at h
          obtain rfl := Except.ok.inj h
          have hmem : failed ∈ validators.filter fun v =>
              resultsOf candidate query rate v ≠ .verified := by
            rw [hfailed]
            exact List.mem_cons_self
          have hfails : resultsOf candidate query rate failed ≠ .verified := by
            simpa using (List.mem_filter.mp hmem).2
          have hineligible : ¬Eligible query candidate := fun heligible =>
            hfails ((results_verified hrate).mpr heligible failed)
          refine ⟨rfl, hrate, rfl, iff_of_false (by simp) hineligible,
            Or.inr ⟨rfl, failed, ?_, rfl⟩⟩
          show resultsOf candidate query rate failed = .failed
          cases hverdict : resultsOf candidate query rate failed with
          | verified => exact absurd hverdict hfails
          | failed => rfl

theorem not_raises_of_validated {query : ApplicabilityQuery} {candidate : RuleCandidate D}
    {validation : CandidateValidation D}
    (h : validateCandidate query candidate = .ok validation) : ¬Raises candidate.rateAmount :=
  not_raises_of_ok (validateCandidate_ok h).rate

end Checks

/-! ## Stated rates -/

/-- The numeral a text starts with: its digits, with single points and commas between them. -/
def numeralRun : List Char → List Char
  | [] => []
  | c :: text =>
    if c.isDigit || ((c = '.' || c = ',') && text.head?.any Char.isDigit) then
      c :: numeralRun text
    else []

/-- The first numeral of a text. -/
def firstNumeral (text : List Char) : List Char :=
  numeralRun (text.dropWhile fun c => !c.isDigit)

def digitsValue (digits : List Char) : Nat :=
  digits.foldl (fun value c => value * 10 + (c.toNat - '0'.toNat)) 0

/-- The number a numeral denotes, commas standing between its thousands. -/
def readNumeral (numeral : List Char) : Option ℚ :=
  let whole := (numeral.takeWhile (· ≠ '.')).filter (· ≠ ',')
  let fraction := (numeral.dropWhile (· ≠ '.')).drop 1
  if whole.isEmpty || !(whole ++ fraction).all Char.isDigit then none
  else some (digitsValue (whole ++ fraction) / 10 ^ fraction.length)

/-- At this occurrence the numeral of the phrase is not part of a longer one. -/
structure Complete (before phrase after : List Char) : Prop where
  left : ∀ c ∈ phrase.head?, c.isDigit = true → numeralRun before.reverse = []
  right : firstNumeral (phrase ++ after) = firstNumeral phrase

section Statements

variable [CharacterTables] [UpperCase] {D : Type}

/-- The phrase denotes the rate, and the clause states it as a complete numeral. -/
def States (query : ApplicabilityQuery) (candidate : RuleCandidate D) : Prop :=
  let phrase := normalize query.expectedRatePhrase
  (∃ value, readNumeral (firstNumeral phrase) = some value ∧
    rational candidate.rateAmount = some value) ∧
  ∃ before after, normalize candidate.clauseText = before ++ phrase ++ after ∧
    Complete before phrase after

/-- Validation returns an acceptance or a rejection code, and what it accepts is stated in the
clause and given in exact cents. -/
def RateSound (query : ApplicabilityQuery) (candidate : RuleCandidate D) : Prop :=
  ∃ validation, validateCandidate query candidate = .ok validation ∧
    ((validation.state = .accepted ∧ States query candidate ∧
        ∃ n value, validation.rateMinor = some n ∧ rational candidate.rateAmount = some value ∧
          (n : ℚ) = value * 100) ∨
      (validation.state = .rejected ∧ validation.rejectionCode.isSome = true))

/-- Validation is sound exactly where the rate neither is infinite nor overflows and, if the
candidate passes the checks, the clause states it within the precision of the context.
SOURCE: core/applicable_rule.py:96-173 -/
theorem rateSound_iff (query : ApplicabilityQuery) (candidate : RuleCandidate D) :
    RateSound query candidate ↔ ¬Raises candidate.rateAmount ∧
      (Eligible query candidate → States query candidate ∧ Exact candidate.rateAmount) := by
  constructor
  · rintro ⟨validation, hvalidation, hverdict⟩
    have hspec := validateCandidate_ok hvalidation
    refine ⟨not_raises_of_validated hvalidation, fun heligible => ?_⟩
    have haccepted := hspec.accepted_iff.mpr heligible
    rcases hverdict with ⟨_, hstates, n, value, hn, hvalue, hcents⟩ | ⟨hrejected, _⟩
    · refine ⟨hstates, ?_⟩
      obtain ⟨value', hvalue', hexact⟩ := rational_of_readable heligible.exactRate
      have hrate := hspec.rate
      rw [hn] at hrate
      rw [hvalue] at hvalue'
      apply hexact.mp
      rw [← rateMinor_some hrate, hcents, Option.some.inj hvalue']
    · rw [haccepted] at hrejected
      exact absurd hrejected (by simp)
  · rintro ⟨hreturns, hstated⟩
    obtain ⟨validation, hvalidation⟩ := validateCandidate_returns query hreturns
    have hspec := validateCandidate_ok hvalidation
    refine ⟨validation, hvalidation, ?_⟩
    rcases hspec.code with ⟨haccepted, _⟩ | ⟨hrejected, failed, _, hcode⟩
    · have heligible := hspec.accepted_iff.mp haccepted
      obtain ⟨hstates, hexact⟩ := hstated heligible
      obtain ⟨n, hn, hcents⟩ := rateMinor_of_readable heligible.exactRate hreturns
      obtain ⟨value, hvalue, hiff⟩ := rational_of_readable heligible.exactRate
      have hrate := hspec.rate
      rw [hn] at hrate
      refine Or.inl ⟨haccepted, hstates, n, value, (Except.ok.inj hrate).symm, hvalue, ?_⟩
      rw [hcents]
      exact hiff.mpr hexact
    · refine Or.inr ⟨hrejected, ?_⟩
      rw [hcode]
      rfl

end Statements

/-! ## A longer numeral -/

section Case

/-- Texts of ASCII characters, in lower case as they stand. -/
local instance asciiTables : CharacterTables where
  isDecimal := Char.isDigit
  isSpace := Char.isWhitespace
  lower := fun text => text.map Char.toLower

local instance asciiUpper : UpperCase where
  upper := fun text => text.map Char.toUpper

/-- The query of a task in dollars, without dates. -/
def dollarQuery : ApplicabilityQuery :=
  { chargedDates := []
    invoiceCurrency := "USD"
    expectedUnit := "CALENDAR_DAY"
    scopeCode := "DEMURRAGE:USOAK:DRY"
    expectedRatePhrase := "$250"
    equipmentType := some "DRY"
    routeCode := some "USOAK" }

/-- A clause of a rate of $2500, in which the phrase $250 occurs. -/
def longerRate : RuleCandidate Unit :=
  { publicRef := "RULE-1"
    clauseRef := "1"
    rank := 1
    distance := ()
    clauseText := "Demurrage $2500 per calendar day"
    rateAmount := some (.finite false 2500 0)
    rateCurrency := some "USD"
    rateUnit := some "per calendar day"
    effectiveFrom := some Date.min
    effectiveTo := none
    scopeCode := "DEMURRAGE:USOAK:DRY"
    equipmentType := some "DRY"
    routeCode := some "USOAK"
    verificationStatus := "VERIFIED"
    superseded := false }

theorem longerRate_eligible : Eligible dollarQuery longerRate := by
  constructor
  · rfl
  · decide +kernel
  · simp [longerRate, Readable]
  · rfl
  · decide +kernel
  · decide +kernel
  · decide +kernel
  · rfl

theorem longerRate_unsound : ¬RateSound dollarQuery longerRate := by
  rw [rateSound_iff]
  rintro ⟨_, hstated⟩
  obtain ⟨⟨⟨value, hread, hvalue⟩, _⟩, _⟩ := hstated longerRate_eligible
  have hphrase : readNumeral (firstNumeral (normalize dollarQuery.expectedRatePhrase)) =
      some (250 : ℚ) := by
    decide +kernel
  have hrate : rational longerRate.rateAmount = some 2500 := by
    simp [rational, longerRate]
  rw [hphrase] at hread
  rw [hrate, ← hread] at hvalue
  norm_num at hvalue

end Case

end Tally.Analysis.RuleChecks
