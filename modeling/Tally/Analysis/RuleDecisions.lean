import Tally.Library.Least
import Tally.Library.Traversal
import Tally.Analysis.RuleChecks

/-!
# Decisions over candidates

A decision is a function of the validations of the candidates that pass: which of them has the
lowest rank and whether their cents agree. So it is the same when distances change, when
candidates come or go that do not pass, and in every order of distinct ranks. Rates are compared
in cents, and there two rates may be one.
-/

set_option autoImplicit false

namespace Tally.Analysis.RuleDecisions
open Library Library.Calendar Library.Least Library.Traversal Tally.Model Tally.Model.Applicability
open RuleRates RuleChecks
open Tally.Model.ApplicableRuleRepository (RuleValidationState)

/-! ## The outcome of a decision -/

/-- State, accepted rule and public error. -/
abbrev Outcome (D : Type) : Type :=
  RuleValidationState × Option (CandidateValidation D) × Option String

def outcome {D : Type} (decision : ApplicabilityDecision D) : Outcome D :=
  (decision.state, decision.accepted, decision.publicError)

/-- The outcome over the validations that accept. -/
def settled {D : Type} (accepted : List (CandidateValidation D)) : Outcome D :=
  match accepted.argmin fun v => v.candidate.rank with
  | none => (.rejected, none, some "NO_APPLICABLE_RULE")
  | some best =>
    if 1 < (accepted.map CandidateValidation.rateMinor).dedup.length then
      (.conflicted, none, some "RULE_CONFLICT")
    else (.verified, some best, none)

theorem settled_verified {D : Type} {accepted : List (CandidateValidation D)} :
    (settled accepted).1 = .verified ↔ accepted ≠ [] ∧
      ∀ v ∈ accepted, ∀ v' ∈ accepted, v.rateMinor = v'.rateMinor := by
  unfold settled
  cases hleast : accepted.argmin fun v => v.candidate.rank with
  | none =>
      have hnil := List.argmin_eq_none.mp hleast
      simp [hnil]
  | some best =>
      have hne : accepted ≠ [] := List.ne_nil_of_mem (List.argmin_mem hleast)
      dsimp only
      by_cases hmany : 1 < (accepted.map CandidateValidation.rateMinor).dedup.length
      · rw [if_pos hmany]
        refine iff_of_false (by simp) fun hsame => ?_
        apply length_dedup_le_one.mpr ?_ hmany
        intro a ha b hb
        obtain ⟨v, hv, rfl⟩ := List.mem_map.mp ha
        obtain ⟨v', hv', rfl⟩ := List.mem_map.mp hb
        exact hsame.2 v hv v' hv'
      · rw [if_neg hmany]
        refine iff_of_true rfl ⟨hne, fun v hv v' hv' => ?_⟩
        exact length_dedup_le_one.mp hmany _ (List.mem_map_of_mem hv) _ (List.mem_map_of_mem hv')

/-- The accepted rule is among those that accept. -/
theorem mem_of_settled {D : Type} {accepted : List (CandidateValidation D)}
    {best : CandidateValidation D} (h : (settled accepted).2.1 = some best) : best ∈ accepted := by
  unfold settled at h
  cases hleast : accepted.argmin fun v => v.candidate.rank with
  | none => simp [hleast] at h
  | some least =>
      simp only [hleast] at h
      split at h
      · exact absurd h (by simp)
      · obtain rfl := Option.some.inj h
        exact List.argmin_mem hleast

theorem settled_perm {D : Type} {accepted accepted' : List (CandidateValidation D)}
    (hperm : accepted.Perm accepted')
    (hdistinct : (accepted.map fun v => v.candidate.rank).Nodup) :
    settled accepted = settled accepted' := by
  have hlength : (accepted.map CandidateValidation.rateMinor).dedup.length =
      (accepted'.map CandidateValidation.rateMinor).dedup.length :=
    (hperm.map _).dedup.length_eq
  unfold settled
  rw [argmin_perm hperm hdistinct, hlength]

/-! ## Candidates without their distances -/

section Blind

variable {D : Type}

/-- A candidate without its distance. -/
def blind (candidate : RuleCandidate D) : RuleCandidate Unit :=
  { candidate with distance := () }

def blindValidation (validation : CandidateValidation D) : CandidateValidation Unit :=
  { validation with candidate := blind validation.candidate }

def blindOutcome (result : Outcome D) : Outcome Unit :=
  (result.1, result.2.1.map blindValidation, result.2.2)

theorem settled_blind (accepted : List (CandidateValidation D)) :
    settled (accepted.map blindValidation) = blindOutcome (settled accepted) := by
  unfold settled
  rw [argmin_map, List.map_map]
  have hranks : (fun v : CandidateValidation D => (blindValidation v).candidate.rank) =
      fun v => v.candidate.rank := rfl
  have hrates : CandidateValidation.rateMinor ∘ (blindValidation : CandidateValidation D → _) =
      CandidateValidation.rateMinor := rfl
  rw [hranks, hrates]
  cases accepted.argmin fun v => v.candidate.rank with
  | none => rfl
  | some best =>
      simp only [Option.map_some]
      split
      · rfl
      · rfl

end Blind

/-! ## Acceptances -/

section Decisions

variable [CharacterTables] [UpperCase] {D : Type}

/-- The validation of a candidate that passes. -/
def acceptance (query : ApplicabilityQuery) (candidate : RuleCandidate D) :
    Option (CandidateValidation D) :=
  (validateCandidate query candidate).toOption.bind fun v =>
    if v.state = .accepted then some v else none

/-- Whether the candidate passes every validator. -/
def passes (query : ApplicabilityQuery) (candidate : RuleCandidate D) : Bool :=
  (acceptance query candidate).isSome

theorem acceptance_some {query : ApplicabilityQuery} {candidate : RuleCandidate D}
    {validation : CandidateValidation D} :
    acceptance query candidate = some validation ↔
      validateCandidate query candidate = .ok validation ∧ validation.state = .accepted := by
  unfold acceptance
  rw [Option.bind_eq_some_iff]
  constructor
  · rintro ⟨v, hv, haccepted⟩
    by_cases hstate : v.state = .accepted
    · rw [if_pos hstate] at haccepted
      obtain rfl := Option.some.inj haccepted
      exact ⟨toOption_eq_some.mp hv, hstate⟩
    · rw [if_neg hstate] at haccepted
      exact absurd haccepted (by simp)
  · rintro ⟨hvalidation, hstate⟩
    exact ⟨validation, toOption_eq_some.mpr hvalidation, if_pos hstate⟩

/-- A candidate passes exactly when every validator returns VERIFIED for it. -/
theorem passes_iff {query : ApplicabilityQuery} {candidate : RuleCandidate D} :
    passes query candidate = true ↔ ∃ validation,
      validateCandidate query candidate = .ok validation ∧
        ∀ v, validation.results v = .verified := by
  unfold passes
  rw [Option.isSome_iff_exists]
  apply exists_congr
  intro validation
  rw [acceptance_some]
  apply and_congr_right
  intro hvalidation
  have hspec := validateCandidate_ok hvalidation
  rw [hspec.accepted_iff, hspec.results]
  exact (results_verified hspec.rate).symm

/-- Among the rates that do not raise the eligible candidates pass. -/
theorem passes_eligible {query : ApplicabilityQuery} {candidate : RuleCandidate D}
    (hreturns : ¬Raises candidate.rateAmount) :
    passes query candidate = true ↔ Eligible query candidate := by
  obtain ⟨validation, hvalidation⟩ := validateCandidate_returns query hreturns
  have haccepted := (validateCandidate_ok hvalidation).accepted_iff
  unfold passes
  rw [Option.isSome_iff_exists, ← haccepted]
  constructor
  · rintro ⟨validation', haccept⟩
    obtain ⟨hsame, hstate⟩ := acceptance_some.mp haccept
    rw [hvalidation] at hsame
    rw [Except.ok.inj hsame]
    exact hstate
  · intro hstate
    exact ⟨validation, acceptance_some.mpr ⟨hvalidation, hstate⟩⟩

theorem acceptance_blind (query : ApplicabilityQuery) (candidate : RuleCandidate D) :
    acceptance query (blind candidate) = (acceptance query candidate).map blindValidation := by
  unfold acceptance
  rw [validateCandidate_eq, validateCandidate_eq]
  have hrate : (blind candidate).rateAmount = candidate.rateAmount := rfl
  have hresults (rate : Option Int) :
      resultsOf (blind candidate) query rate = resultsOf candidate query rate := by
    funext v
    cases v <;> rfl
  rw [hrate]
  cases rateMinor candidate.rateAmount with
  | error error => rfl
  | ok rate =>
      simp only [Except.bind, hresults]
      cases validators.filter fun v => resultsOf candidate query rate v ≠ .verified with
      | nil => rfl
      | cons failed rest => rfl

/-! ## Decisions -/

/-- A decision carries the validations of the candidates, and those that accept settle it. -/
theorem decide_ok {query : ApplicabilityQuery} {candidates : List (RuleCandidate D)}
    {decision : ApplicabilityDecision D}
    (h : decideApplicableRule query candidates = .ok decision) :
    candidates.mapM (validateCandidate query) = .ok decision.candidateValidations ∧
      outcome decision =
        settled (decision.candidateValidations.filter fun v => v.state = .accepted) := by
  unfold decideApplicableRule at h
  cases hvalidations : candidates.mapM (validateCandidate query) with
  | error error =>
      rw [hvalidations] at h
      exact absurd h (by simp [bind, Except.bind])
  | ok validations =>
      rw [hvalidations] at h
      simp only [bind, Except.bind] at h
      cases hleast : (validations.filter fun v => v.state = .accepted).argmin
          fun v => v.candidate.rank with
      | none =>
          simp only [hleast] at h
          obtain rfl := Except.ok.inj h
          refine ⟨rfl, ?_⟩
          unfold settled
          simp only [hleast]
          rfl
      | some best =>
          simp only [hleast] at h
          by_cases hmany : 1 < ((validations.filter fun v => v.state = .accepted).map
              CandidateValidation.rateMinor).dedup.length
          · rw [if_pos hmany] at h
            obtain rfl := Except.ok.inj h
            refine ⟨rfl, ?_⟩
            unfold settled
            simp only [hleast]
            rw [if_pos hmany]
            rfl
          · rw [if_neg hmany] at h
            obtain rfl := Except.ok.inj h
            refine ⟨rfl, ?_⟩
            unfold settled
            simp only [hleast]
            rw [if_neg hmany]
            rfl

/-- Once the candidates are validated a decision is made. -/
theorem decide_of_validated {query : ApplicabilityQuery} {candidates : List (RuleCandidate D)}
    {validations : List (CandidateValidation D)}
    (h : candidates.mapM (validateCandidate query) = .ok validations) :
    ∃ decision, decideApplicableRule query candidates = .ok decision := by
  unfold decideApplicableRule
  simp only [h, bind, Except.bind]
  split
  · exact ⟨_, rfl⟩
  · split
    · exact ⟨_, rfl⟩
    · exact ⟨_, rfl⟩

/-- A decision is made unless a rate raises. -/
theorem decide_returns {query : ApplicabilityQuery} {candidates : List (RuleCandidate D)} :
    (∃ decision, decideApplicableRule query candidates = .ok decision) ↔
      ∀ c ∈ candidates, ¬Raises c.rateAmount := by
  constructor
  · rintro ⟨decision, h⟩ c hc
    obtain ⟨validation, hvalidation⟩ := mapM_returns.mp ⟨_, (decide_ok h).1⟩ c hc
    exact not_raises_of_validated hvalidation
  · intro h
    have hall : ∀ c ∈ candidates, ∃ v, validateCandidate query c = .ok v := fun c hc =>
      validateCandidate_returns query (h c hc)
    obtain ⟨validations, hvalidations⟩ := mapM_returns.mpr hall
    exact decide_of_validated hvalidations

/-- The outcome is settled by the candidates that pass. -/
theorem outcome_eq {query : ApplicabilityQuery} {candidates : List (RuleCandidate D)}
    {decision : ApplicabilityDecision D}
    (h : decideApplicableRule query candidates = .ok decision) :
    outcome decision = settled (candidates.filterMap (acceptance query)) := by
  obtain ⟨hvalidations, houtcome⟩ := decide_ok h
  have hkept : decision.candidateValidations.filterMap
      (fun v => if v.state = .accepted then some v else none) =
        candidates.filterMap (acceptance query) := filterMap_of_forall₂ (mapM_ok hvalidations)
  rw [houtcome, ← hkept, ← List.filterMap_eq_filter]
  simp [Option.guard]

theorem mem_acceptances {query : ApplicabilityQuery} {candidates : List (RuleCandidate D)}
    {validation : CandidateValidation D} :
    validation ∈ candidates.filterMap (acceptance query) ↔
      ∃ c ∈ candidates, validateCandidate query c = .ok validation ∧
        validation.state = .accepted := by
  simp only [List.mem_filterMap, acceptance_some]

/-- The candidates that pass have one rate in cents. -/
def OneCents (query : ApplicabilityQuery) (candidates : List (RuleCandidate D)) : Prop :=
  ∀ c ∈ candidates, ∀ c' ∈ candidates, Eligible query c → Eligible query c' →
    cents c.rateAmount = cents c'.rateAmount

/-- The candidates that pass have one rate. -/
def OneRate (query : ApplicabilityQuery) (candidates : List (RuleCandidate D)) : Prop :=
  ∀ c ∈ candidates, ∀ c' ∈ candidates, Eligible query c → Eligible query c' →
    rational c.rateAmount = rational c'.rateAmount

theorem oneCents_of_oneRate {query : ApplicabilityQuery}
    {candidates : List (RuleCandidate D)} (h : OneRate query candidates) :
    OneCents query candidates :=
  fun c hc c' hc' heligible heligible' =>
    cents_congr heligible.exactRate heligible'.exactRate (h c hc c' hc' heligible heligible')

/-- A validation that accepts gives the cents of its candidate. -/
theorem rateMinor_accepted {query : ApplicabilityQuery} {candidate : RuleCandidate D}
    {validation : CandidateValidation D}
    (hvalidation : validateCandidate query candidate = .ok validation)
    (heligible : Eligible query candidate) :
    ∃ n : Int, validation.rateMinor = some n ∧ (n : ℚ) = cents candidate.rateAmount := by
  have hrate := (validateCandidate_ok hvalidation).rate
  obtain ⟨n, hn, hcents⟩ :=
    rateMinor_of_readable heligible.exactRate (not_raises_of_validated hvalidation)
  rw [hn] at hrate
  exact ⟨n, (Except.ok.inj hrate).symm, hcents⟩

/-- The decision accepts a rule when a candidate passes and those that do have one rate in
cents. -/
theorem verified_iff_cents {query : ApplicabilityQuery} {candidates : List (RuleCandidate D)}
    {decision : ApplicabilityDecision D}
    (h : decideApplicableRule query candidates = .ok decision) :
    decision.state = .verified ↔
      (∃ c ∈ candidates, Eligible query c) ∧ OneCents query candidates := by
  have hreturns := decide_returns.mp ⟨decision, h⟩
  have hstate : decision.state = (settled (candidates.filterMap (acceptance query))).1 :=
    congrArg Prod.fst (outcome_eq h)
  have haccepts {c : RuleCandidate D} (hc : c ∈ candidates) (heligible : Eligible query c) :
      ∃ validation ∈ candidates.filterMap (acceptance query),
        validateCandidate query c = .ok validation := by
    obtain ⟨validation, hvalidation⟩ := validateCandidate_returns query (hreturns c hc)
    have hstate := (validateCandidate_ok hvalidation).accepted_iff.mpr heligible
    exact ⟨validation, mem_acceptances.mpr ⟨c, hc, hvalidation, hstate⟩, hvalidation⟩
  rw [hstate, settled_verified]
  apply and_congr
  · constructor
    · intro hne
      obtain ⟨validation, hmem⟩ := List.exists_mem_of_ne_nil _ hne
      obtain ⟨c, hc, hvalidation, haccepted⟩ := mem_acceptances.mp hmem
      exact ⟨c, hc, (validateCandidate_ok hvalidation).accepted_iff.mp haccepted⟩
    · rintro ⟨c, hc, heligible⟩
      obtain ⟨validation, hmem, _⟩ := haccepts hc heligible
      exact List.ne_nil_of_mem hmem
  · constructor
    · intro hsame c hc c' hc' heligible heligible'
      obtain ⟨v, hv, hvalidation⟩ := haccepts hc heligible
      obtain ⟨v', hv', hvalidation'⟩ := haccepts hc' heligible'
      obtain ⟨n, hn, hcents⟩ := rateMinor_accepted hvalidation heligible
      obtain ⟨n', hn', hcents'⟩ := rateMinor_accepted hvalidation' heligible'
      have hrate := hsame v hv v' hv'
      rw [hn, hn'] at hrate
      rw [← hcents, ← hcents', Option.some.inj hrate]
    · intro hone v hv v' hv'
      obtain ⟨c, hc, hvalidation, haccepted⟩ := mem_acceptances.mp hv
      obtain ⟨c', hc', hvalidation', haccepted'⟩ := mem_acceptances.mp hv'
      have heligible := (validateCandidate_ok hvalidation).accepted_iff.mp haccepted
      have heligible' := (validateCandidate_ok hvalidation').accepted_iff.mp haccepted'
      obtain ⟨n, hn, hcents⟩ := rateMinor_accepted hvalidation heligible
      obtain ⟨n', hn', hcents'⟩ := rateMinor_accepted hvalidation' heligible'
      have hsame : (n : ℚ) = n' := by
        rw [hcents, hcents']
        exact hone c hc c' hc' heligible heligible'
      rw [hn, hn', Int.cast_inj.mp hsame]

/-! ## The money decision -/

/-- A decision as it is documented: VERIFIED for one rate among the candidates that pass, the
accepted rule effective on every charged date, and the outcome the same for other distances,
with other candidates that do not pass, and in another order of distinct ranks. -/
structure Documented (query : ApplicabilityQuery) (candidates : List (RuleCandidate D))
    (decision : ApplicabilityDecision D) : Prop where
  verified : decision.state = .verified ↔ (∃ c ∈ candidates, passes query c = true) ∧
    ∀ c ∈ candidates, ∀ c' ∈ candidates, passes query c = true → passes query c' = true →
      rational c.rateAmount = rational c'.rateAmount
  effective : ∀ best, decision.accepted = some best → best.candidate ∈ candidates ∧
    ∀ date ∈ query.chargedDates, EffectiveOn best.candidate date
  distances : ∀ others : List (RuleCandidate D), others.map blind = candidates.map blind →
    ∃ decision', decideApplicableRule query others = .ok decision' ∧
      blindOutcome (outcome decision') = blindOutcome (outcome decision)
  rejected : ∀ others : List (RuleCandidate D),
    (∀ c ∈ others, ∃ validation, validateCandidate query c = .ok validation) →
    others.filter (passes query) = candidates.filter (passes query) →
      ∃ decision', decideApplicableRule query others = .ok decision' ∧
        outcome decision' = outcome decision
  order : (candidates.map RuleCandidate.rank).Nodup → ∀ others, candidates.Perm others →
    ∃ decision', decideApplicableRule query others = .ok decision' ∧
      outcome decision' = outcome decision

theorem effective_of_accepted {query : ApplicabilityQuery} {candidates : List (RuleCandidate D)}
    {decision : ApplicabilityDecision D}
    (h : decideApplicableRule query candidates = .ok decision) {best : CandidateValidation D}
    (hbest : decision.accepted = some best) : best.candidate ∈ candidates ∧
      ∀ date ∈ query.chargedDates, EffectiveOn best.candidate date := by
  have hsettled : (settled (candidates.filterMap (acceptance query))).2.1 = some best := by
    rw [← outcome_eq h]
    exact hbest
  obtain ⟨c, hc, hvalidation, haccepted⟩ := mem_acceptances.mp (mem_of_settled hsettled)
  have hspec := validateCandidate_ok hvalidation
  rw [hspec.candidate_eq]
  exact ⟨hc, effectiveOn_of_covers (hspec.accepted_iff.mp haccepted).effectiveDate⟩

omit [CharacterTables] [UpperCase] in
theorem rates_of_blind {candidates others : List (RuleCandidate D)}
    (h : others.map blind = candidates.map blind) :
    others.map RuleCandidate.rateAmount = candidates.map RuleCandidate.rateAmount := by
  have hblind : (RuleCandidate.rateAmount ∘ (blind : RuleCandidate D → RuleCandidate Unit)) =
      RuleCandidate.rateAmount := rfl
  rw [← hblind, ← List.map_map, ← List.map_map, h]

theorem outcome_blind {query : ApplicabilityQuery} {candidates others : List (RuleCandidate D)}
    {decision : ApplicabilityDecision D}
    (h : decideApplicableRule query candidates = .ok decision)
    (hsame : others.map blind = candidates.map blind) :
    ∃ decision', decideApplicableRule query others = .ok decision' ∧
      blindOutcome (outcome decision') = blindOutcome (outcome decision) := by
  have hreturns : ∀ c ∈ others, ¬Raises c.rateAmount := by
    intro c hc
    have hrate : c.rateAmount ∈ candidates.map RuleCandidate.rateAmount := by
      rw [← rates_of_blind hsame]
      exact List.mem_map_of_mem hc
    obtain ⟨c', hc', heq⟩ := List.mem_map.mp hrate
    rw [← heq]
    exact decide_returns.mp ⟨decision, h⟩ c' hc'
  obtain ⟨decision', h'⟩ := decide_returns.mpr hreturns
  have hacceptances (l : List (RuleCandidate D)) :
      (l.filterMap (acceptance query)).map blindValidation =
        (l.map blind).filterMap (acceptance query) := by
    rw [List.map_filterMap, List.filterMap_map]
    congr 1
    funext c
    exact (acceptance_blind query c).symm
  refine ⟨decision', h', ?_⟩
  rw [outcome_eq h', outcome_eq h, ← settled_blind, ← settled_blind, hacceptances, hacceptances,
    hsame]

theorem outcome_passing {query : ApplicabilityQuery} {candidates others : List (RuleCandidate D)}
    {decision : ApplicabilityDecision D}
    (h : decideApplicableRule query candidates = .ok decision)
    (hothers : ∀ c ∈ others, ∃ validation, validateCandidate query c = .ok validation)
    (hsame : others.filter (passes query) = candidates.filter (passes query)) :
    ∃ decision', decideApplicableRule query others = .ok decision' ∧
      outcome decision' = outcome decision := by
  have hreturns : ∀ c ∈ others, ¬Raises c.rateAmount := by
    intro c hc
    obtain ⟨validation, hvalidation⟩ := hothers c hc
    exact not_raises_of_validated hvalidation
  obtain ⟨decision', h'⟩ := decide_returns.mpr hreturns
  have hacceptances (l : List (RuleCandidate D)) :
      (l.filter (passes query)).filterMap (acceptance query) =
        l.filterMap (acceptance query) := by
    induction l with
    | nil => rfl
    | cons c l ih =>
        by_cases hpasses : passes query c = true
        · rw [List.filter_cons_of_pos hpasses, List.filterMap_cons, List.filterMap_cons, ih]
        · have hnone : acceptance query c = none := by
            unfold passes at hpasses
            simpa using hpasses
          rw [List.filter_cons_of_neg hpasses, List.filterMap_cons, hnone, ih]
  refine ⟨decision', h', ?_⟩
  rw [outcome_eq h', outcome_eq h, ← hacceptances others, hsame, hacceptances]

theorem outcome_perm {query : ApplicabilityQuery} {candidates others : List (RuleCandidate D)}
    {decision : ApplicabilityDecision D}
    (h : decideApplicableRule query candidates = .ok decision)
    (hdistinct : (candidates.map RuleCandidate.rank).Nodup) (hperm : candidates.Perm others) :
    ∃ decision', decideApplicableRule query others = .ok decision' ∧
      outcome decision' = outcome decision := by
  have hreturns : ∀ c ∈ others, ¬Raises c.rateAmount := fun c hc =>
    decide_returns.mp ⟨decision, h⟩ c (hperm.mem_iff.mpr hc)
  obtain ⟨decision', h'⟩ := decide_returns.mpr hreturns
  refine ⟨decision', h', ?_⟩
  rw [outcome_eq h', outcome_eq h]
  symm
  apply settled_perm (hperm.filterMap _)
  -- The ranks of those that pass are among the ranks of all.
  have hranks : ((candidates.filterMap (acceptance query)).map fun v => v.candidate.rank).Sublist
      (candidates.map RuleCandidate.rank) := by
    clear h hdistinct hperm hreturns
    induction candidates with
    | nil => exact List.Sublist.refl _
    | cons c candidates ih =>
        rw [List.filterMap_cons]
        cases haccept : acceptance query c with
        | none => exact ih.trans (List.sublist_cons_self _ _)
        | some validation =>
            have hcandidate := (validateCandidate_ok (acceptance_some.mp haccept).1).candidate_eq
            rw [List.map_cons, List.map_cons, hcandidate]
            exact ih.cons_cons _
  exact hdistinct.sublist hranks

/-- The decision over these candidates is made, and as it is documented. -/
def DecisionSound (query : ApplicabilityQuery) (candidates : List (RuleCandidate D)) : Prop :=
  ∃ decision, decideApplicableRule query candidates = .ok decision ∧
    Documented query candidates decision

end Decisions

/-! ## Two rates of the same cents -/

section Case

attribute [local instance] asciiTables asciiUpper

/-- A clause of a rate of thirty digits. -/
def longRate (last rank : Nat) : RuleCandidate Unit :=
  { longerRate with
    rank
    rateAmount := some (.finite false (250000000000000000000000000000 + last) 0) }

theorem longRate_eligible (last rank : Nat) : Eligible dollarQuery (longRate last rank) := by
  have h := longerRate_eligible
  exact ⟨h.sourceVersion, h.exactText, by simp [longRate, Readable], h.currency, h.unit,
    h.effectiveDate, h.scope, h.supersession⟩

end Case

end Tally.Analysis.RuleDecisions
