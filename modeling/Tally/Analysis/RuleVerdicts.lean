import Tally.Library.Pointwise
import Tally.Analysis.RuleDecisions
import Tally.Analysis.RuleSteps

/-!
# Stored verdicts

The worker stores the candidates of a search with the verdicts of the decision, which it looks up
by public reference. Captures of one clause share the reference, and the verdict of the last of
them is stored for all.
-/

set_option autoImplicit false

namespace Tally.Analysis.RuleVerdicts
open Library Library.Calendar Library.Pointwise Library.Traversal Tally.Model
open Tally.Model.Applicability
open Tally.Analysis.Effects RuleChecks RuleDecisions
open Tally.Model.ApplicableRuleRepository (RuleTaskLease RuleCompletion completeRule
  insertCandidates)
open Library.Schema (SameExcept sameExcept_refl)
open List (Forall₂)

/-! ## Candidates and their rows -/

section Rows

variable {D : Type}

/-- The verdict the writer finds under a public reference: the last one. -/
def foundFor (validations : List ApplicableRuleRepository.CandidateValidation)
    (publicRef : String) : Option ApplicableRuleRepository.CandidateValidation :=
  validations.reverse.find? fun v => v.candidate.publicRef = publicRef

/-- The row of a stored candidate. -/
def candidateRow (env : TxnEnv) (k : Nat) (runId : Uuid)
    (validations : List ApplicableRuleRepository.CandidateValidation) (index : Nat)
    (candidate : ApplicableRuleRepository.RuleCandidate) : RuleCandidateRow :=
  let validation := foundFor validations candidate.publicRef
  { id := env.uuid (k + index)
    retrievalRunId := runId
    clausePublicRef := candidate.publicRef
    rank := candidate.rank
    candidateState := (validation.map fun v => v.state).getD .retrieved
    rejectionCode := validation.bind fun v => v.rejectionCode }

theorem insertCandidates_ok {env : TxnEnv} {k : Nat} {runId : Uuid}
    {candidates : List ApplicableRuleRepository.RuleCandidate}
    {validations : List ApplicableRuleRepository.CandidateValidation} {a : Unit} {db db' : Db}
    (h : insertCandidates env k runId candidates validations db = .ok (a, db')) :
    db' .ruleCandidates = db .ruleCandidates ++
      (candidates.zipIdx 0).map fun p => candidateRow env k runId validations p.2 p.1 := by
  have hinserts : Txn.forEach (fun index candidate => insertRow .ruleCandidates
      (candidateRow env k runId validations index candidate)) 0 candidates db = .ok (a, db') := h
  exact (forEach_insertRow_ok hinserts).1

/-- A completed search that was not stored before adds the rows of its candidates. -/
theorem completeRule_rows [Sha256] {env : TxnEnv} {lease : RuleTaskLease}
    {queryFingerprint : String} {candidates : List ApplicableRuleRepository.RuleCandidate}
    {decision : ApplicableRuleRepository.ApplicabilityDecision} {r : RuleCompletion} {db db' : Db}
    (hnew : ∀ run ∈ db .ruleRetrievalRuns, ¬(run.reconstructionId = lease.reconstructionId ∧
      run.queryFingerprint = queryFingerprint))
    (h : completeRule env lease queryFingerprint candidates decision db = .ok (r, db')) :
    db' .ruleCandidates = db .ruleCandidates ++ (candidates.zipIdx 0).map fun p =>
      candidateRow env 5 (env.uuid 0) decision.candidateValidations p.2 p.1 := by
  have hfind : storedRun lease queryFingerprint db = none := by
    apply List.find?_eq_none.mpr
    intro run hrun
    simpa using hnew run hrun
  obtain ⟨w, rule, sequence, db₁, db₂, db₃, db₄, db₅, db₆, _, hrun, hcandidates, hdecision, hfinish,
    hemit, hlock, hevent⟩ := completeRule_new hfind h
  have hsame₆ := (emits_one env hlock hevent ⟨rfl, rfl, rfl, rfl⟩).2
  have hsame₅ : SameExcept [.workflowTasks] db₄ db₅ := by
    rcases Txn.onlyIf_ok.mp hemit with ⟨_, hemit⟩ | ⟨_, rfl⟩
    · exact (emitTask_ok hemit).2
    · exact sameExcept_refl _
  have hsame₄ := (closeTask_ok hfinish).2.2
  have hsame₃ := (insertDecision_ok hdecision).2.2
  have hsame₁ : SameExcept [.ruleRetrievalRuns] db db₁ :=
    Schema.writes_insert (by simp) _ _ _ hrun
  rw [hsame₆ .ruleCandidates (by decide), hsame₅ .ruleCandidates (by decide),
    hsame₄ .ruleCandidates (by decide), hsame₃ .ruleCandidates (by decide),
    insertCandidates_ok hcandidates, hsame₁ .ruleCandidates (by decide)]

end Rows

/-! ## Verdicts -/

section Verdicts

variable [CharacterTables] [UpperCase] {D : Type}

/-- The row states the verdict of the candidate. -/
structure Records (query : ApplicabilityQuery) (candidate : RuleCandidate D)
    (row : RuleCandidateRow) : Prop where
  clausePublicRef : row.clausePublicRef = candidate.publicRef
  rank : row.rank = candidate.rank
  verdict : ∃ validation, validateCandidate query candidate = .ok validation ∧
    row.candidateState = validation.state ∧ row.rejectionCode = validation.rejectionCode

/-- The rows added for the hits state the verdict of each candidate. -/
def StoredVerdicts (query : ApplicabilityQuery) (hits : List (ClauseVectorHit D))
    (db db' : Db) : Prop :=
  ∃ rows, db' .ruleCandidates = db .ruleCandidates ++ rows ∧
    Forall₂ (Records query) (candidatesOf hits) rows

/-- Captures of one clause among the hits get one verdict. -/
def OneVerdict (query : ApplicabilityQuery) (hits : List (ClauseVectorHit D)) : Prop :=
  ∀ c ∈ candidatesOf hits, ∀ c' ∈ candidatesOf hits, c.clauseRef = c'.clauseRef →
    ∀ v v', validateCandidate query c = .ok v → validateCandidate query c' = .ok v' →
      v.state = v'.state ∧ v.rejectionCode = v'.rejectionCode

omit [CharacterTables] [UpperCase] in
theorem publicRef_of_hits {hits : List (ClauseVectorHit D)} {c : RuleCandidate D}
    (h : c ∈ candidatesOf hits) : c.publicRef = "RULE-" ++ c.clauseRef := by
  obtain ⟨ranked, _, rfl⟩ := List.mem_map.mp h
  rfl

omit [CharacterTables] [UpperCase] in
theorem publicRef_inj {hits : List (ClauseVectorHit D)} {c c' : RuleCandidate D}
    (h : c ∈ candidatesOf hits) (h' : c' ∈ candidatesOf hits) :
    c.publicRef = c'.publicRef ↔ c.clauseRef = c'.clauseRef := by
  rw [publicRef_of_hits h, publicRef_of_hits h']
  constructor
  · intro hsame
    have hchars := congrArg String.toList hsame
    rw [String.toList_append, String.toList_append] at hchars
    exact String.toList_inj.mp (List.append_cancel_left hchars)
  · intro hsame
    rw [hsame]

/-- The verdict the writer finds for a candidate. -/
def Found (query : ApplicabilityQuery) (validations : List (CandidateValidation D))
    (candidate : RuleCandidate D) : Prop :=
  let found := foundFor (validations.map CandidateValidation.stored) candidate.publicRef
  ∃ validation, validateCandidate query candidate = .ok validation ∧
    (found.map fun v => v.state).getD .retrieved = validation.state ∧
    (found.bind fun v => v.rejectionCode) = validation.rejectionCode

/-- What is found for a candidate is the validation of a candidate of the same reference. -/
theorem foundFor_some {query : ApplicabilityQuery} {candidates : List (RuleCandidate D)}
    {validations : List (CandidateValidation D)}
    (hvalidated : Forall₂ (fun c v => validateCandidate query c = .ok v) candidates validations)
    {c : RuleCandidate D} (hc : c ∈ candidates) :
    ∃ found : CandidateValidation D, ∃ c' ∈ candidates,
      foundFor (validations.map CandidateValidation.stored) c.publicRef = some found.stored ∧
        c'.publicRef = c.publicRef ∧ validateCandidate query c' = .ok found := by
  obtain ⟨own, hmem, hvalidation⟩ := exists_of_mem hvalidated hc
  have hsome : (foundFor (validations.map CandidateValidation.stored) c.publicRef).isSome =
      true := by
    unfold foundFor
    rw [List.find?_isSome]
    refine ⟨own.stored, List.mem_reverse.mpr (List.mem_map_of_mem hmem), ?_⟩
    have hcandidate := (validateCandidate_ok hvalidation).candidate_eq
    simp [CandidateValidation.stored, RuleCandidate.stored, hcandidate]
  obtain ⟨stored, hstored⟩ := Option.isSome_iff_exists.mp hsome
  have hin := List.mem_of_find?_eq_some hstored
  have href := List.find?_some hstored
  obtain ⟨found, hfound, rfl⟩ := List.mem_map.mp (List.mem_reverse.mp hin)
  obtain ⟨c', hc', hvalidation'⟩ := exists_of_mem_right hvalidated hfound
  refine ⟨found, c', hc', hstored, ?_, hvalidation'⟩
  have hcandidate := (validateCandidate_ok hvalidation').candidate_eq
  simpa [CandidateValidation.stored, RuleCandidate.stored, hcandidate] using href

variable [Sha256] {env : TxnEnv} {lease : RuleTaskLease} {queryFingerprint : String}
  {hits : List (ClauseVectorHit D)} {tx : Tx RuleCompletion} {r : RuleCompletion} {db db' : Db}

/-- The rows state for each candidate the verdict that is found for it. -/
theorem storedVerdicts_iff_found
    (hsettles : settleHits env lease queryFingerprint hits = .ok tx)
    (hnew : ∀ run ∈ db .ruleRetrievalRuns, ¬(run.reconstructionId = lease.reconstructionId ∧
      run.queryFingerprint = queryFingerprint))
    (hdone : tx db = .ok (r, db')) :
    ∃ validations, Forall₂ (fun c v => validateCandidate (queryOf lease) c = .ok v)
        (candidatesOf hits) validations ∧
      (StoredVerdicts (queryOf lease) hits db db' ↔
        ∀ c ∈ candidatesOf hits, Found (queryOf lease) validations c) := by
  unfold settleHits at hsettles
  cases hdecision : decideApplicableRule (queryOf lease) (candidatesOf hits) with
  | error error =>
      simp only [hdecision, bind, Except.bind] at hsettles
      exact absurd hsettles (by simp)
  | ok decision =>
      simp only [hdecision, bind, Except.bind] at hsettles
      obtain rfl := Except.ok.inj hsettles
      refine ⟨decision.candidateValidations, mapM_ok (decide_ok hdecision).1, ?_⟩
      have hrows := completeRule_rows hnew hdone
      have hrecords : ∀ (c : RuleCandidate D) (i : Nat),
          Records (queryOf lease) c (candidateRow env 5 (env.uuid 0)
            decision.stored.candidateValidations i c.stored) ↔
              Found (queryOf lease) decision.candidateValidations c := by
        intro c i
        constructor
        · intro h
          exact h.verdict
        · intro h
          exact ⟨rfl, rfl, h⟩
      rw [← forall₂_zipIdx RuleCandidate.stored _ hrecords _ 0]
      constructor
      · rintro ⟨rows, hadded, hall⟩
        rw [hrows] at hadded
        rw [List.append_cancel_left hadded]
        exact hall
      · intro hall
        exact ⟨_, hrows, hall⟩

theorem oneVerdict_of_stored
    (hsettles : settleHits env lease queryFingerprint hits = .ok tx)
    (hnew : ∀ run ∈ db .ruleRetrievalRuns, ¬(run.reconstructionId = lease.reconstructionId ∧
      run.queryFingerprint = queryFingerprint))
    (hdone : tx db = .ok (r, db')) (hstored : StoredVerdicts (queryOf lease) hits db db') :
    OneVerdict (queryOf lease) hits := by
  obtain ⟨validations, _, hiff⟩ := storedVerdicts_iff_found hsettles hnew hdone
  have hfound := hiff.mp hstored
  intro c hc c' hc' hclause v v' hv hv'
  obtain ⟨w, hw, hstate, hcode⟩ := hfound c hc
  obtain ⟨w', hw', hstate', hcode'⟩ := hfound c' hc'
  rw [hv] at hw
  rw [hv'] at hw'
  obtain rfl := Except.ok.inj hw
  obtain rfl := Except.ok.inj hw'
  have href := (publicRef_inj hc hc').mpr hclause
  rw [href] at hstate hcode
  exact ⟨hstate.symm.trans hstate', hcode.symm.trans hcode'⟩

/-- A search that is stored states each candidate's own verdict exactly where captures of one
clause get one verdict.
SOURCE: platform/applicable_rule_repository.py:259-277, platform/applicable_rule_worker.py:111-116
-/
theorem storedVerdicts_iff
    (hsettles : settleHits env lease queryFingerprint hits = .ok tx)
    (hnew : ∀ run ∈ db .ruleRetrievalRuns, ¬(run.reconstructionId = lease.reconstructionId ∧
      run.queryFingerprint = queryFingerprint))
    (hdone : tx db = .ok (r, db')) :
    StoredVerdicts (queryOf lease) hits db db' ↔ OneVerdict (queryOf lease) hits := by
  constructor
  · intro hstored
    exact oneVerdict_of_stored hsettles hnew hdone hstored
  · intro hone
    obtain ⟨validations, hvalidated, hiff⟩ := storedVerdicts_iff_found hsettles hnew hdone
    apply hiff.mpr
    intro c hc
    obtain ⟨found, c', hc', hfound, href, hvalidation'⟩ := foundFor_some hvalidated hc
    obtain ⟨validation, _, hvalidation⟩ := exists_of_mem hvalidated hc
    have hclause := (publicRef_inj hc' hc).mp href
    obtain ⟨hstate, hcode⟩ := hone c' hc' c hc hclause found validation hvalidation' hvalidation
    refine ⟨validation, hvalidation, ?_, ?_⟩
    · rw [hfound]
      exact hstate
    · rw [hfound]
      exact hcode

end Verdicts

/-! ## Two captures of one clause -/

section Case

local instance : Sha256 := Sha256.standard
attribute [local instance] asciiTables asciiUpper

def caseEnv : TxnEnv := { now := 0, uuid := fun k => BitVec.ofNat 128 (100 + k) }

/-- A claimed search for the tenth of June 2026. -/
def caseLease : RuleTaskLease :=
  { taskId := 2
    attempt := 1
    workerId := "w"
    invoiceId := 1
    reconstructionId := 3
    knowledgeCutoffAt := 0
    carrierId := none
    scopeCode := "DEMURRAGE:USOAK:DRY"
    chargeDates := (Date.ofYmd 2026 6 10).toList
    invoiceCurrency := "USD"
    initiatedBy := none
    actorDisplay := "clerk" }

/-- The rows of the claimed task, its invoice and its reconstruction. -/
def caseDb : Db := fun
  | .invoices => [⟨1, 7, none, 0, "00ff", "a.pdf", .reconstructing, .readyForReconstruction,
      .reconstructing, 5, 5, some 1⟩]
  | .workflowTasks => [⟨2, 1, .findApplicableRule, 1, .running, none, "clerk", 0, "f", [], 1,
      some "w", some 90, none, 0⟩]
  | .workflowTaskAttempts => [⟨2, 1, .running, "w"⟩]
  | .reconstructions => [⟨3, 1, 1, 4, "f", 1, .complete, 3, 1, 1⟩]
  | t => Db.empty t

/-- A capture of a clause effective from the first day of a year. -/
def capture (year : Nat) : ClauseVectorHit Unit :=
  { clauseRef := "4.2"
    l2Distance := ()
    clauseText := "Demurrage $250 per calendar day"
    rateAmount := some (.finite false 250 0)
    rateCurrency := some "USD"
    rateUnit := some "per calendar day"
    effectiveFrom := Date.ofYmd year 1 1
    effectiveTo := none
    equipmentType := some "DRY"
    routeCode := some "USOAK"
    verificationStatus := "VERIFIED" }

/-- The capture in force, and that of the next year. -/
def captures : List (ClauseVectorHit Unit) := [capture 2026, capture 2027]

theorem captures_stored : ∃ tx r db', settleHits caseEnv caseLease "q" captures = .ok tx ∧
    tx caseDb = .ok (r, db') := by
  have hstored : (match settleHits caseEnv caseLease "q" captures with
      | .ok tx => match tx caseDb with
        | .ok _ => true
        | .error _ => false
      | .error _ => false) = true := by
    decide +kernel
  cases hsettles : settleHits caseEnv caseLease "q" captures with
  | error error => simp [hsettles] at hstored
  | ok tx =>
      cases hdone : tx caseDb with
      | error error => simp [hsettles, hdone] at hstored
      | ok result => exact ⟨tx, result.1, result.2, rfl, hdone⟩

/-- One of the captures passes, the other is refused. -/
theorem captures_differ : ¬OneVerdict (queryOf caseLease) captures := by
  intro hone
  have hcurrent : ((validateCandidate (queryOf caseLease)
      (hitToCandidate (capture 2026) 1)).toOption.map fun v => v.state) = some .accepted := by
    decide +kernel
  have hnext : ((validateCandidate (queryOf caseLease)
      (hitToCandidate (capture 2027) 2)).toOption.map fun v => v.state) = some .rejected := by
    decide +kernel
  obtain ⟨v, hv, hstate⟩ := Option.map_eq_some_iff.mp hcurrent
  obtain ⟨v', hv', hstate'⟩ := Option.map_eq_some_iff.mp hnext
  have hsame := hone (hitToCandidate (capture 2026) 1) (by simp [candidatesOf, captures])
    (hitToCandidate (capture 2027) 2) (by simp [candidatesOf, captures]) rfl v v'
    (toOption_eq_some.mp hv) (toOption_eq_some.mp hv')
  rw [hstate, hstate'] at hsame
  exact absurd hsame.1 (by decide)

theorem storedVerdicts_iff_captures : ∃ tx r db',
    settleHits caseEnv caseLease "q" captures = .ok tx ∧ tx caseDb = .ok (r, db') ∧
      (StoredVerdicts (queryOf caseLease) captures caseDb db' ↔
        OneVerdict (queryOf caseLease) captures) := by
  obtain ⟨tx, r, db', hsettles, hdone⟩ := captures_stored
  have hnew : ∀ run ∈ caseDb .ruleRetrievalRuns, ¬(run.reconstructionId =
      caseLease.reconstructionId ∧ run.queryFingerprint = "q") :=
    fun _ hrun => absurd hrun List.not_mem_nil
  exact ⟨tx, r, db', hsettles, hdone, storedVerdicts_iff hsettles hnew hdone⟩

/-- The capture in force is stored with the refusal of the other. -/
theorem verdict_overwritten : ∃ tx r db',
    settleHits caseEnv caseLease "q" captures = .ok tx ∧ tx caseDb = .ok (r, db') ∧
      ¬StoredVerdicts (queryOf caseLease) captures caseDb db' := by
  obtain ⟨tx, r, db', hsettles, hdone⟩ := captures_stored
  have hnew : ∀ run ∈ caseDb .ruleRetrievalRuns, ¬(run.reconstructionId =
      caseLease.reconstructionId ∧ run.queryFingerprint = "q") :=
    fun _ hrun => absurd hrun List.not_mem_nil
  refine ⟨tx, r, db', hsettles, hdone, fun hstored => captures_differ ?_⟩
  exact oneVerdict_of_stored hsettles hnew hdone hstored

end Case

end Tally.Analysis.RuleVerdicts
