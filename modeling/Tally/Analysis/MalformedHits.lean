import Mathlib.Data.List.Find
import Tally.Library.Selection
import Tally.Library.Traversal
import Tally.Model.VectorReceiptPipeline

/-!
# Malformed hits

A retrieval makes a document of every hit before it looks at any of them, and one that cannot be
made ends it. A document that is made is ranked among those of its scope, whatever the others
are, with the reasons of its own; a hit that is malformed and still has no reason is stopped only
by the verification, which takes the retrieval with it.
-/

set_option autoImplicit false

namespace Tally.Analysis.MalformedHits
open Library Library.Traversal Library.Calendar Library.Sha256
open Tally.Model Tally.Model.Receipt
open Tally.Model.Applicability (Decimal)
open Tally.Model.VectorRetrieval Tally.Model.VectorReceiptPipeline Tally.Model.TitanEmbeddings

section Hits

variable [PatternTables] [Normalization] [Sha256] {V D : Type}

/-! ## Well-formed hits -/

omit [PatternTables] [Normalization] [Sha256] in
/-- A rate that is a number and not negative. -/
def properRate : Option Decimal → Bool
  | some (.finite negative coefficient _) => !negative || coefficient = 0
  | _ => false

omit [PatternTables] [Normalization] [Sha256] in
def isNumber : Option Decimal → Bool
  | some (.finite ..) => true
  | _ => false

/-- A hit with its identity and metadata, with a rate and a confidence that are numbers, with its
dates in order and with the hashes of its embedding. -/
def wellFormed (services : Services V D) (hit : ClauseVectorHit V) : Bool :=
  [hit.clauseId, hit.carrierId, hit.snapshotId, hit.sourceSha256, hit.clauseSha256,
      hit.clauseText].all (fun value => !blank value) &&
    integrityVerified services hit && properRate hit.rateAmount && isNumber hit.confidence &&
    hit.effectiveTo.all fun last => hit.effectiveFrom.all fun first => first ≤ last

/-! ## Documents -/

/-- The constructor lets the hit through: no text is blank, the dates are in order, a missing
first date being the last there is, and the rate is neither negative nor a NaN. -/
structure Constructible (tenantId : String) (hit : ClauseVectorHit V) : Prop where
  texts : ∀ value ∈ requiredTexts tenantId hit, blank value = false
  dates : ∀ last ∈ hit.effectiveTo, hit.effectiveFrom.getD dateMax ≤ last
  rate : properRate hit.rateAmount = true ∨ hit.rateAmount = none ∨
    hit.rateAmount = some (.infinity false)

omit [PatternTables] [Normalization] [Sha256] in
theorem rateOf_ok {rate : Option Decimal} :
    (∃ amount, rateOf rate = .ok amount) ↔
      properRate rate = true ∨ rate = none ∨ rate = some (.infinity false) := by
  unfold rateOf properRate
  rcases rate with _ | ⟨negative, coefficient, exponent⟩ | ⟨negative⟩ | _
  · simp
  · cases negative <;> by_cases h : coefficient = 0 <;> simp [h]
  · cases negative <;> simp
  · simp

/-- What a document has of its hit. -/
structure DocumentOf (services : Services V D) (tenantId bucket : String)
    (hit : ClauseVectorHit V) (made : ClauseDocument V) : Prop where
  clauseId : made.clauseId = hit.clauseId
  tenantId : made.tenantId = tenantId
  carrierId : made.carrierId = hit.carrierId
  documentFamily : made.documentFamily = orElse hit.documentFamily "missing-document-family"
  clauseText : made.clauseText = hit.clauseText
  integrity : made.embeddingIntegrityVerified = integrityVerified services hit
  sourceBytes : made.sourceBytes = (loadExact services bucket hit).map RetainedObject.body

variable {services : Services V D} {tenantId bucket : String}

theorem document_of_ok {hit : ClauseVectorHit V} {made : ClauseDocument V}
    (h : document services tenantId bucket hit = .ok made) :
    DocumentOf services tenantId bucket hit made := by
  unfold document at h
  split at h
  · split at h
    · cases hrate : rateOf hit.rateAmount with
      | error e =>
          rw [hrate] at h
          exact absurd h (by simp [Except.map])
      | ok amount =>
          rw [hrate] at h
          obtain rfl := Except.ok.inj h
          exact ⟨rfl, rfl, rfl, rfl, rfl, rfl, rfl⟩
    · exact absurd h (by simp)
  · exact absurd h (by simp)

/-- A document is made of the hits that the constructor lets through. -/
theorem document_ok_iff {hit : ClauseVectorHit V} :
    (∃ made, document services tenantId bucket hit = .ok made) ↔ Constructible tenantId hit := by
  unfold document
  constructor
  · rintro ⟨made, h⟩
    split at h
    · rename_i htexts
      split at h
      · rename_i hdates
        cases hrate : rateOf hit.rateAmount with
        | error e =>
            rw [hrate] at h
            exact absurd h (by simp [Except.map])
        | ok amount => exact ⟨htexts, hdates, rateOf_ok.mp ⟨amount, hrate⟩⟩
      · exact absurd h (by simp)
    · exact absurd h (by simp)
  · intro h
    obtain ⟨amount, hrate⟩ := rateOf_ok.mpr h.rate
    rw [dif_pos h.texts, dif_pos h.dates, hrate]
    exact ⟨_, rfl⟩

theorem integrity_complete {hit : ClauseVectorHit V}
    (h : integrityVerified services hit = true) : metadataComplete hit = true := by
  unfold integrityVerified at h
  split at h
  · exact absurd h (by simp)
  · simp only [Bool.and_eq_true] at h
    exact h.1.1.1.1

omit [Normalization] [Sha256] in
theorem orElse_given {value : Option String} {default : String} (h : given value = true) :
    blank (orElse value default) = false := by
  unfold given at h
  cases value with
  | none => exact absurd h (by simp)
  | some text =>
      have htext : blank text = false := by simpa using h
      unfold orElse
      dsimp only
      split
      · rename_i hempty
        have hnil : text.toList = [] := by simpa using hempty
        unfold blank at htext
        rw [hnil] at htext
        exact absurd htext (by simp)
      · exact htext

/-- A document is made of every well-formed hit. -/
theorem constructible_of_wellFormed {hit : ClauseVectorHit V} (htenant : blank tenantId = false)
    (h : wellFormed services hit = true) : Constructible tenantId hit := by
  unfold wellFormed at h
  simp only [Bool.and_eq_true, List.all_cons, List.all_nil, Bool.not_eq_true', and_true] at h
  obtain ⟨⟨⟨⟨⟨hclause, hcarrier, hsnapshot, hsource, hsha, htext⟩, hintegrity⟩, hrate⟩, _⟩,
    hdates⟩ := h
  have hcomplete := integrity_complete hintegrity
  unfold metadataComplete at hcomplete
  simp only [Bool.and_eq_true, List.all_cons, List.all_nil, and_true] at hcomplete
  obtain ⟨⟨⟨⟨hversion, hfamily, hequipment, hroute, hservice, hcurrency, hunit, _⟩, _⟩, _⟩,
    hfirst⟩ := hcomplete
  refine ⟨?_, ?_, Or.inl hrate⟩
  · intro value hvalue
    simp only [requiredTexts, List.mem_cons, List.not_mem_nil, or_false] at hvalue
    rcases hvalue with rfl | rfl | rfl | rfl | rfl | rfl | rfl | rfl | rfl | rfl | rfl | rfl |
      rfl | rfl
    · exact hclause
    · exact htenant
    · exact hcarrier
    · exact orElse_given hfamily
    · exact hsnapshot
    · exact orElse_given hversion
    · exact hsource
    · exact hsha
    · exact orElse_given hequipment
    · exact orElse_given hroute
    · exact orElse_given hservice
    · exact orElse_given hcurrency
    · exact orElse_given hunit
    · exact htext
  · intro last hlast
    obtain ⟨first, hfirst⟩ := Option.isSome_iff_exists.mp hfirst
    rw [Option.mem_def] at hlast
    rw [hlast, hfirst] at hdates
    rw [hfirst]
    simpa using hdates

/-! ## Candidates -/

section Candidates

variable (services bucket) (request : RetrievalRequest V)

/-- The hit is one of the carrier and the document family of the request. -/
def InScope (hit : ClauseVectorHit V) : Prop :=
  hit.carrierId = request.carrierId ∧
    orElse hit.documentFamily "missing-document-family" = request.documentFamily

/-- The candidate of a document in scope. -/
def candidateOfDocument (made : ClauseDocument V) : Option (CandidateEvaluation D) :=
  if made.tenantId = request.tenantId ∧ made.carrierId = request.carrierId ∧
      made.documentFamily = request.documentFamily then
    some (evaluate services.distance made request)
  else none

/-- The candidate of a hit in scope. -/
def candidateOf (hit : ClauseVectorHit V) : Option (CandidateEvaluation D) :=
  (document services request.tenantId bucket hit).toOption.bind
    (candidateOfDocument services request)

/-- The hit is in scope and gets no reason. -/
def Passes (hit : ClauseVectorHit V) : Prop :=
  ∃ candidate, candidateOf services bucket request hit = some candidate ∧
    candidate.rejectionReasons = []

variable {services bucket request}

theorem candidateOf_some {hit : ClauseVectorHit V} {candidate : CandidateEvaluation D}
    (h : candidateOf services bucket request hit = some candidate) :
    ∃ made, document services request.tenantId bucket hit = .ok made ∧ InScope request hit ∧
      candidate = evaluate services.distance made request := by
  obtain ⟨made, hmade, hcandidate⟩ := Option.bind_eq_some_iff.mp h
  have hmade := toOption_eq_some.mp hmade
  have hspec := document_of_ok hmade
  unfold candidateOfDocument at hcandidate
  split at hcandidate
  · rename_i hscope
    refine ⟨made, hmade, ⟨?_, ?_⟩, (Option.some.inj hcandidate).symm⟩
    · rw [← hspec.carrierId]
      exact hscope.2.1
    · rw [← hspec.documentFamily]
      exact hscope.2.2
  · exact absurd hcandidate (by simp)

theorem clauseId_of_candidate {hit : ClauseVectorHit V} {candidate : CandidateEvaluation D}
    (h : candidateOf services bucket request hit = some candidate) :
    candidate.clauseId = hit.clauseId := by
  obtain ⟨made, hmade, _, rfl⟩ := candidateOf_some h
  exact (document_of_ok hmade).clauseId

theorem selected_of_candidate {hit : ClauseVectorHit V} {candidate : CandidateEvaluation D}
    (h : candidateOf services bucket request hit = some candidate) :
    candidate.selected = true ↔ candidate.rejectionReasons = [] := by
  obtain ⟨made, _, _, rfl⟩ := candidateOf_some h
  exact List.isEmpty_iff

theorem candidateOf_inScope {hit : ClauseVectorHit V}
    (hconstructible : Constructible request.tenantId hit) (hscope : InScope request hit) :
    ∃ candidate, candidateOf services bucket request hit = some candidate := by
  obtain ⟨made, hmade⟩ : ∃ made, document services request.tenantId bucket hit = .ok made :=
    document_ok_iff.mpr hconstructible
  have hspec := document_of_ok hmade
  refine ⟨_, Option.bind_eq_some_iff.mpr ⟨made, toOption_eq_some.mpr hmade, if_pos ?_⟩⟩
  exact ⟨hspec.tenantId, hspec.carrierId.trans hscope.1, hspec.documentFamily.trans hscope.2⟩

/-- What a hit that gets no reason has. -/
structure Verified (services : Services V D) (bucket : String) (hit : ClauseVectorHit V)
    (source : RetainedObject) : Prop where
  integrity : integrityVerified services hit = true
  retained : loadExact services bucket hit = some source
  decodes : (decodeUtf8 source.body).isSome = true

theorem verified_of_passes {hit : ClauseVectorHit V} (h : Passes services bucket request hit) :
    ∃ source, Verified services bucket hit source := by
  obtain ⟨candidate, hcandidate, hnone⟩ := h
  obtain ⟨made, hmade, _, rfl⟩ := candidateOf_some hcandidate
  have hspec := document_of_ok hmade
  unfold evaluate at hnone
  simp only [List.append_eq_nil_iff, ite_eq_right_iff, List.cons_ne_nil, imp_false,
    Bool.not_eq_true', Bool.not_eq_false, ne_eq, not_not] at hnone
  obtain ⟨⟨⟨⟨⟨⟨_, hintegrity⟩, _⟩, _⟩, _⟩, _⟩, hexact⟩ := hnone
  unfold exactSourceStatus at hexact
  rw [hspec.sourceBytes] at hexact
  cases hretained : loadExact services bucket hit with
  | none =>
      rw [hretained] at hexact
      exact absurd hexact (by simp)
  | some source =>
      refine ⟨source, hspec.integrity ▸ hintegrity, hretained, ?_⟩
      rw [hretained, Option.map_some] at hexact
      dsimp only at hexact
      split at hexact
      · exact absurd hexact (by simp)
      · split at hexact
        · exact absurd hexact (by simp)
        · cases hdecoded : decodeUtf8 source.body with
          | none =>
              rw [hdecoded] at hexact
              exact absurd hexact (by simp)
          | some text => rfl

/-! ## Rankings -/

variable [LinearOrder D]

variable (services bucket request)

/-- The candidates of the hits in their order. -/
def ranked (hits : List (ClauseVectorHit V)) : List (CandidateEvaluation D) :=
  (hits.filterMap (candidateOf services bucket request)).insertionSort
    fun a b => rankKey a ≤ rankKey b

/-- What the reference retrieval answers for the hits. -/
def retrievalOf (hits : List (ClauseVectorHit V)) : RetrievalResult D :=
  let candidates := ranked services bucket request hits
  let selected := candidates.find? CandidateEvaluation.selected
  ⟨candidates, selected,
    if selected.isSome then []
    else if candidates.isEmpty then ["no_scoped_candidates"]
    else ["no_candidate_passed_postfilters"]⟩

variable {services bucket request}

theorem mem_ranked {hits : List (ClauseVectorHit V)} {candidate : CandidateEvaluation D} :
    candidate ∈ ranked services bucket request hits ↔
      ∃ hit ∈ hits, candidateOf services bucket request hit = some candidate := by
  unfold ranked
  rw [List.mem_insertionSort, List.mem_filterMap]

theorem rankedEvaluations_documents {hits : List (ClauseVectorHit V)}
    {documents : List (ClauseDocument V)}
    (h : hits.mapM (document services request.tenantId bucket) = .ok documents) :
    rankedEvaluations services.distance documents request =
      ranked services bucket request hits := by
  have hkept : documents.filterMap (candidateOfDocument services request) =
      hits.filterMap fun hit => (document services request.tenantId bucket hit).toOption.bind
        (candidateOfDocument services request) := filterMap_of_forall₂ (mapM_ok h)
  unfold rankedEvaluations ranked candidateOf
  dsimp only
  rw [← hkept]
  congr 1
  clear h hkept
  induction documents with
  | nil => rfl
  | cons made documents ih =>
      rw [List.filter_cons, List.filterMap_cons, candidateOfDocument]
      by_cases hscope : made.tenantId = request.tenantId ∧ made.carrierId = request.carrierId ∧
          made.documentFamily = request.documentFamily
      · rw [if_pos (by simpa using hscope), if_pos hscope, List.map_cons, ih]
      · rw [if_neg (by simpa using hscope), if_neg hscope, ih]

/-! ## Answers -/

variable (services bucket)

/-- What is answered for a retrieval that selects the clause of a hit. -/
def settle (hit : ClauseVectorHit V) (retrieval : RetrievalResult D) :
    Except ReceiptError (VectorReceiptResult V D) :=
  match loadExact services bucket hit with
  | none => pure ⟨abstainSelected retrieval "exact_source_unavailable", none, none, none, none⟩
  | some source => do
    let extraction ← extractionOf hit
    let verification ← verifyTariffExtraction source.body extraction
    if !verification.eligible || verification.sourceSha256 ≠ hit.sourceSha256 ||
        verification.clauseSha256 ≠ hit.clauseSha256 then
      pure ⟨abstainSelected retrieval "tariff_verification_failed", none, none, none, none⟩
    else pure ⟨retrieval, some hit, some source, some extraction, some verification⟩

/-- What is answered for a retrieval of the hits. -/
def answer (hits : List (ClauseVectorHit V)) (retrieval : RetrievalResult D) :
    Except ReceiptError (VectorReceiptResult V D) :=
  match retrieval.selected with
  | none => pure ⟨retrieval, none, none, none, none⟩
  | some selected =>
    match hits.reverse.find? fun hit => hit.clauseId = selected.clauseId with
    | none => .error .valueError
    | some hit =>
      match hits.reverse.findSome? fun hit =>
          if hit.clauseId = selected.clauseId then loadExact services bucket hit else none with
      | none =>
        pure ⟨abstainSelected retrieval "exact_source_unavailable", none, none, none, none⟩
      | some source => do
        let extraction ← extractionOf hit
        let verification ← verifyTariffExtraction source.body extraction
        if !verification.eligible || verification.sourceSha256 ≠ hit.sourceSha256 ||
            verification.clauseSha256 ≠ hit.clauseSha256 then
          pure ⟨abstainSelected retrieval "tariff_verification_failed", none, none, none, none⟩
        else pure ⟨retrieval, some hit, some source, some extraction, some verification⟩

variable {services bucket}

omit [PatternTables] [Normalization] [Sha256] [LinearOrder D] in
/-- The object of a hit is the one that is looked up by its clause. -/
theorem findSome_of_clause {hits : List (ClauseVectorHit V)} {hit : ClauseVectorHit V}
    {A : Type} {load : ClauseVectorHit V → Option A} (hmem : hit ∈ hits)
    (honly : ∀ other ∈ hits, other.clauseId = hit.clauseId → other = hit) :
    (hits.findSome? fun other => if other.clauseId = hit.clauseId then load other else none) =
      load hit := by
  by_cases hload : load hit = none
  · rw [hload, List.findSome?_eq_none_iff]
    intro other hother
    split
    · rename_i hclause
      rw [honly other hother hclause, hload]
    · rfl
  · obtain ⟨found, hfound⟩ := Option.ne_none_iff_exists'.mp hload
    have hsome : (hits.findSome? fun other =>
        if other.clauseId = hit.clauseId then load other else none).isSome = true := by
      rw [List.findSome?_isSome_iff]
      exact ⟨hit, hmem, by rw [if_pos rfl, hfound]; rfl⟩
    obtain ⟨result, hresult⟩ := Option.isSome_iff_exists.mp hsome
    obtain ⟨other, hother, hvalue⟩ := List.exists_of_findSome?_eq_some hresult
    split at hvalue
    · rename_i hclause
      rw [hresult, ← hvalue, honly other hother hclause]
    · exact absurd hvalue (by simp)

omit [Normalization] in
/-- A retrieval that selects nothing is the answer. -/
theorem answer_none {hits : List (ClauseVectorHit V)} {retrieval : RetrievalResult D}
    (h : retrieval.selected = none) :
    answer services bucket hits retrieval = .ok ⟨retrieval, none, none, none, none⟩ := by
  unfold answer
  rw [h]
  rfl

omit [Normalization] in
/-- With distinct clauses the hit of the selected candidate is settled. -/
theorem answer_some {hits : List (ClauseVectorHit V)} {retrieval : RetrievalResult D}
    {candidate : CandidateEvaluation D} {hit : ClauseVectorHit V}
    (hdistinct : hits.Pairwise fun a b => a.clauseId ≠ b.clauseId) (hmem : hit ∈ hits)
    (hclause : candidate.clauseId = hit.clauseId) (h : retrieval.selected = some candidate) :
    answer services bucket hits retrieval = settle services bucket hit retrieval := by
  have hreverse : hits.reverse.Pairwise fun a b => a.clauseId ≠ b.clauseId :=
    (List.pairwise_reverse.mpr (hdistinct.imp Ne.symm))
  have honly : ∀ other ∈ hits.reverse, other.clauseId = hit.clauseId → other = hit :=
    fun other hother heq =>
      eq_of_key hdistinct (List.mem_reverse.mp hother) hmem heq
  have hfound := find?_of_key hreverse (List.mem_reverse.mpr hmem) (rfl : hit.clauseId = _)
  have hloaded : (hits.reverse.findSome? fun other =>
      if other.clauseId = hit.clauseId then loadExact services bucket other else none) =
        loadExact services bucket hit := findSome_of_clause (List.mem_reverse.mpr hmem) honly
  unfold answer settle
  rw [h]
  dsimp only
  rw [hclause, hfound, hloaded]

theorem retrieveFrom_eq {hits : List (ClauseVectorHit V)}
    (hscoped : request.hasScopePrefix = true) (hcontext : request.hasChargeContext = true)
    (hall : ∀ hit ∈ hits, Constructible request.tenantId hit) :
    retrieveFrom services request.tenantId bucket request hits =
      answer services bucket hits (retrievalOf services bucket request hits) := by
  have hmade : ∀ hit ∈ hits, ∃ made, document services request.tenantId bucket hit = .ok made :=
    fun hit hmem => document_ok_iff.mpr (hall hit hmem)
  obtain ⟨documents, hdocuments⟩ := mapM_returns.mpr hmade
  have hretrieval : retrieveBruteForce services.distance documents request =
      retrievalOf services bucket request hits := by
    unfold retrieveBruteForce resultFrom retrievalOf
    rw [hscoped, hcontext, rankedEvaluations_documents hdocuments]
    rfl
  unfold retrieveFrom
  rw [hdocuments, ← hretrieval]
  rfl

/-- A retrieval that returns makes a document of every hit. -/
theorem constructible_of_ok {hits : List (ClauseVectorHit V)} {result : VectorReceiptResult V D}
    (h : retrieveFrom services request.tenantId bucket request hits = .ok result) :
    ∀ hit ∈ hits, Constructible request.tenantId hit := by
  intro hit hmem
  cases hdocuments : hits.mapM (document services request.tenantId bucket) with
  | error e =>
      unfold retrieveFrom at h
      rw [hdocuments] at h
      exact absurd h (by simp [bind, Except.bind])
  | ok documents =>
      exact document_ok_iff.mp (mapM_returns.mp ⟨documents, hdocuments⟩ hit hmem)

/-! ## Verifications -/

omit [Normalization] [Sha256] [LinearOrder D] in
/-- A NaN cannot be compared with the bounds of a confidence. -/
theorem metadataReasons_nan {extraction : TariffExtraction}
    (h : extraction.confidence = .nan) : metadataReasons extraction = .error .invalidOperation := by
  unfold metadataReasons
  rw [h]
  rfl

omit [Normalization] [Sha256] [LinearOrder D] in
/-- Every other confidence can, and an infinite one is out of range. -/
theorem metadataReasons_ok {extraction : TariffExtraction} (h : extraction.confidence ≠ .nan) :
    ∃ reasons, metadataReasons extraction = .ok reasons ∧
      (∀ negative, extraction.confidence = .infinity negative → reasons ≠ []) := by
  unfold metadataReasons
  cases hconfidence : extraction.confidence with
  | finite negative coefficient exponent =>
      exact ⟨_, rfl, fun negative hinfinite => absurd hinfinite (by simp)⟩
  | infinity negative =>
      refine ⟨_, rfl, fun _ _ => ?_⟩
      cases negative <;> simp
  | nan => exact absurd hconfidence h

omit [Normalization] [LinearOrder D] in
/-- The verification of texts that decode raises exactly for a confidence that is a NaN. -/
theorem verify_nan {body : Bytes} {extraction : TariffExtraction}
    (hdecodes : (decodeUtf8 body).isSome = true) (h : extraction.confidence = .nan) :
    verifyTariffExtraction body extraction = .error .invalidOperation := by
  obtain ⟨text, htext⟩ := Option.isSome_iff_exists.mp hdecodes
  unfold verifyTariffExtraction
  dsimp only
  rw [htext]
  dsimp only
  rw [metadataReasons_nan h]
  rfl

omit [Normalization] [Sha256] [LinearOrder D] in
theorem decimalOf_ne_infinity {numeral : List Char} {negative : Bool} :
    decimalOf numeral ≠ some (.infinity negative) := by
  unfold decimalOf
  cases IntakeClaims.parseDecimal (numeral.map asciiDigit) <;> simp

omit [Normalization] [LinearOrder D] in
/-- No infinite rate is verified, and no infinite confidence. -/
theorem verify_ok {body : Bytes} {extraction : TariffExtraction}
    (h : extraction.confidence ≠ .nan) :
    ∃ verification, verifyTariffExtraction body extraction = .ok verification ∧
      (∀ negative, extraction.rateAmount = .infinity negative ∨
        extraction.confidence = .infinity negative → verification.eligible = false) := by
  obtain ⟨metadata, hmetadata, hinfinite⟩ := metadataReasons_ok h
  unfold verifyTariffExtraction
  dsimp only
  cases decodeUtf8 body with
  | none => exact ⟨_, rfl, fun _ _ => rfl⟩
  | some text =>
      dsimp only
      rw [hmetadata]
      refine ⟨_, rfl, ?_⟩
      rintro negative (hrate | hconfidence)
      · have hmismatch : (amountFromRateText extraction.rateText).any
            (equal · extraction.rateAmount) = false := by
          rw [Option.any_eq_false]
          intro amount hamount
          obtain ⟨numeral, _, hdecimal⟩ := Option.bind_eq_some_iff.mp hamount
          rw [hrate]
          cases amount with
          | finite => simp [equal]
          | infinity sign => exact absurd hdecimal decimalOf_ne_infinity
          | nan => simp [equal]
        dsimp only
        rw [List.isEmpty_eq_false_iff]
        intro hnil
        unfold textReasons at hnil
        simp [hmismatch] at hnil
      · dsimp only
        rw [List.isEmpty_eq_false_iff]
        intro hnil
        exact hinfinite negative hconfidence (List.append_eq_nil_iff.mp hnil).2

/-! ## Settled hits -/

omit [Normalization] [Sha256] [LinearOrder D] in
theorem extractionOf_complete {hit : ClauseVectorHit V} (h : metadataComplete hit = true) :
    ∃ extraction, extractionOf hit = .ok extraction ∧
      hit.rateAmount = some extraction.rateAmount ∧
      hit.confidence = some extraction.confidence := by
  have hparts := h
  unfold metadataComplete at hparts
  simp only [Bool.and_eq_true] at hparts
  obtain ⟨⟨⟨_, hrate⟩, hconfidence⟩, hfirst⟩ := hparts
  obtain ⟨rate, hrate⟩ := Option.isSome_iff_exists.mp hrate
  obtain ⟨confidence, hconfidence⟩ := Option.isSome_iff_exists.mp hconfidence
  obtain ⟨first, hfirst⟩ := Option.isSome_iff_exists.mp hfirst
  unfold extractionOf
  rw [hrate, hconfidence, hfirst]
  dsimp only
  rw [if_pos h]
  exact ⟨_, rfl, rfl, rfl⟩

omit [LinearOrder D] in
theorem Verified.complete {hit : ClauseVectorHit V} {source : RetainedObject}
    (h : Verified services bucket hit source) : metadataComplete hit = true :=
  integrity_complete h.integrity

/-- The retrieval gives up what it selected. -/
def GivesUp (services : Services V D) (bucket : String) (hit : ClauseVectorHit V) : Prop :=
  ∀ retrieval, settle services bucket hit retrieval =
    .ok ⟨abstainSelected retrieval "tariff_verification_failed", none, none, none, none⟩

/-- The retrieval answers with the hit, its source, its extraction and the verification. -/
def Keeps (services : Services V D) (bucket : String) (hit : ClauseVectorHit V) : Prop :=
  ∃ source extraction verification, ∀ retrieval, settle services bucket hit retrieval =
    .ok ⟨retrieval, some hit, some source, some extraction, some verification⟩

/-- A verified hit is settled by the verification of its extraction. -/
theorem settle_verified {hit : ClauseVectorHit V} {source : RetainedObject}
    {extraction : TariffExtraction} (h : Verified services bucket hit source)
    (hextraction : extractionOf hit = .ok extraction) (retrieval : RetrievalResult D) :
    settle services bucket hit retrieval =
      (verifyTariffExtraction source.body extraction).bind fun verification =>
        if !verification.eligible || verification.sourceSha256 ≠ hit.sourceSha256 ||
            verification.clauseSha256 ≠ hit.clauseSha256 then
          .ok ⟨abstainSelected retrieval "tariff_verification_failed", none, none, none, none⟩
        else .ok ⟨retrieval, some hit, some source, some extraction, some verification⟩ := by
  unfold settle
  rw [h.retained]
  dsimp only
  rw [hextraction]
  rfl

/-- A verified hit is not settled if its confidence is a NaN. -/
theorem settle_nan {hit : ClauseVectorHit V} {source : RetainedObject}
    (h : Verified services bucket hit source) (hnan : hit.confidence = some .nan)
    (retrieval : RetrievalResult D) :
    settle services bucket hit retrieval = .error .invalidOperation := by
  obtain ⟨extraction, hextraction, _, hconfidence⟩ := extractionOf_complete h.complete
  have hnan : extraction.confidence = .nan := Option.some.inj (hconfidence.symm.trans hnan)
  rw [settle_verified h hextraction, verify_nan h.decodes hnan]
  rfl

omit [LinearOrder D] in
/-- A verified hit whose confidence is no NaN has a verification, which fails for an infinite
rate or confidence. -/
theorem verification_of_verified {hit : ClauseVectorHit V} {source : RetainedObject}
    (h : Verified services bucket hit source) (hnan : hit.confidence ≠ some .nan) :
    ∃ extraction verification, extractionOf hit = .ok extraction ∧
      verifyTariffExtraction source.body extraction = .ok verification ∧
      ∀ negative, hit.rateAmount = some (.infinity negative) ∨
        hit.confidence = some (.infinity negative) → verification.eligible = false := by
  obtain ⟨extraction, hextraction, hrate, hconfidence⟩ := extractionOf_complete h.complete
  have hnumber : extraction.confidence ≠ .nan := fun heq => hnan (by rw [hconfidence, heq])
  obtain ⟨verification, hverification, hineligible⟩ := @verify_ok _ _ source.body _ hnumber
  refine ⟨extraction, verification, hextraction, hverification, fun negative hinfinite => ?_⟩
  refine hineligible negative (hinfinite.imp (fun heq => ?_) fun heq => ?_)
  · exact Option.some.inj (hrate.symm.trans heq)
  · exact Option.some.inj (hconfidence.symm.trans heq)

/-- A verified hit is kept or given up if its confidence is no NaN. -/
theorem settle_returns {hit : ClauseVectorHit V} {source : RetainedObject}
    (h : Verified services bucket hit source) (hnan : hit.confidence ≠ some .nan) :
    GivesUp services bucket hit ∨ Keeps services bucket hit := by
  obtain ⟨extraction, verification, hextraction, hverification, _⟩ :=
    verification_of_verified h hnan
  by_cases hfailed : (!verification.eligible || verification.sourceSha256 ≠ hit.sourceSha256 ||
      verification.clauseSha256 ≠ hit.clauseSha256) = true
  · refine Or.inl fun retrieval => ?_
    rw [settle_verified h hextraction, hverification]
    exact if_pos hfailed
  · refine Or.inr ⟨source, extraction, verification, fun retrieval => ?_⟩
    rw [settle_verified h hextraction, hverification]
    exact if_neg hfailed

/-- A verified hit with an infinite rate or confidence is given up. -/
theorem settle_infinite {hit : ClauseVectorHit V} {source : RetainedObject} {negative : Bool}
    (h : Verified services bucket hit source) (hnan : hit.confidence ≠ some .nan)
    (hinfinite : hit.rateAmount = some (.infinity negative) ∨
      hit.confidence = some (.infinity negative)) : GivesUp services bucket hit := by
  obtain ⟨extraction, verification, hextraction, hverification, hineligible⟩ :=
    verification_of_verified h hnan
  have hfalse := hineligible negative hinfinite
  intro retrieval
  rw [settle_verified h hextraction, hverification]
  refine if_pos ?_
  rw [hfalse]
  rfl

omit [LinearOrder D] in
theorem isNumber_of_wellFormed {hit : ClauseVectorHit V} (h : wellFormed services hit = true) :
    hit.confidence ≠ some .nan := by
  intro hnan
  unfold wellFormed at h
  rw [hnan] at h
  simp [isNumber] at h

omit [LinearOrder D] in
/-- What is malformed about a hit that is made a document and gets no reason is that its rate or
its confidence is no number. -/
theorem infinite_of_malformed {hit : ClauseVectorHit V} {source : RetainedObject}
    (h : Verified services bucket hit source)
    (hconstructible : Constructible request.tenantId hit)
    (hmalformed : wellFormed services hit = false) (hnan : hit.confidence ≠ some .nan) :
    ∃ negative, hit.rateAmount = some (.infinity negative) ∨
      hit.confidence = some (.infinity negative) := by
  obtain ⟨extraction, _, hrate, hconfidence⟩ := extractionOf_complete h.complete
  by_contra hnone
  have hproper : properRate hit.rateAmount = true := by
    rcases hconstructible.rate with hproper | habsent | hinfinite
    · exact hproper
    · rw [habsent] at hrate
      exact absurd hrate (by simp)
    · exact absurd ⟨false, Or.inl hinfinite⟩ hnone
  have hnumber : isNumber hit.confidence = true := by
    rw [hconfidence]
    cases hvalue : extraction.confidence with
    | finite => rfl
    | infinity negative =>
        exact absurd ⟨negative, Or.inr (by rw [hconfidence, hvalue])⟩ hnone
    | nan => exact absurd (by rw [hconfidence, hvalue]) hnan
  have hdates : (hit.effectiveTo.all fun last => hit.effectiveFrom.all fun first => first ≤ last) =
      true := by
    rw [Option.all_eq_true]
    intro last hlast
    rw [Option.all_eq_true]
    intro first hfirst
    have hle := hconstructible.dates last hlast
    rw [Option.mem_def.mp hfirst] at hle
    exact decide_eq_true hle
  have htexts : ∀ value ∈ [hit.clauseId, hit.carrierId, hit.snapshotId, hit.sourceSha256,
      hit.clauseSha256, hit.clauseText], blank value = false := by
    intro value hvalue
    refine hconstructible.texts value ?_
    simp only [requiredTexts, List.mem_cons, List.not_mem_nil, or_false] at hvalue ⊢
    rcases hvalue with rfl | rfl | rfl | rfl | rfl | rfl <;> simp
  have hwell : wellFormed services hit = true := by
    unfold wellFormed
    rw [h.integrity, hproper, hnumber, hdates]
    simp only [Bool.and_true, List.all_eq_true, Bool.not_eq_true']
    exact htexts
  rw [hwell] at hmalformed
  exact absurd hmalformed (by decide)

/-! ## Well-formed hits alone -/

/-- Whether a candidate is that of a well-formed hit. -/
def ofWellFormed (services : Services V D) (hits : List (ClauseVectorHit V))
    (candidate : CandidateEvaluation D) : Bool :=
  hits.any fun hit => wellFormed services hit && hit.clauseId = candidate.clauseId

omit [LinearOrder D] in
theorem ofWellFormed_iff {hits : List (ClauseVectorHit V)} {hit : ClauseVectorHit V}
    {candidate : CandidateEvaluation D}
    (hdistinct : hits.Pairwise fun a b => a.clauseId ≠ b.clauseId) (hmem : hit ∈ hits)
    (hclause : candidate.clauseId = hit.clauseId) :
    ofWellFormed services hits candidate = wellFormed services hit := by
  unfold ofWellFormed
  rw [Bool.eq_iff_iff, List.any_eq_true]
  constructor
  · rintro ⟨other, hother, h⟩
    obtain ⟨hwell, hsame⟩ := Bool.and_eq_true_iff.mp h
    have heq := eq_of_key hdistinct hother hmem ((of_decide_eq_true hsame).trans hclause)
    rwa [heq] at hwell
  · intro hwell
    exact ⟨hit, hmem, by rw [hwell, hclause]; simp⟩

/-- The candidates of the well-formed hits are ranked as they are without the others. -/
theorem ranked_wellFormed {hits : List (ClauseVectorHit V)}
    (hdistinct : hits.Pairwise fun a b => a.clauseId ≠ b.clauseId) :
    (ranked services bucket request hits).filter (ofWellFormed services hits) =
      ranked services bucket request (hits.filter (wellFormed services)) := by
  unfold ranked
  rw [filter_insertionSort, List.filter_filterMap, List.filterMap_filter]
  congr 1
  refine List.filterMap_congr fun hit hmem => ?_
  cases hcandidate : candidateOf services bucket request hit with
  | none => simp
  | some candidate =>
      have hwell : ofWellFormed services hits candidate = wellFormed services hit :=
        ofWellFormed_iff hdistinct hmem (clauseId_of_candidate hcandidate)
      rw [Option.filter_some, hwell]

/-- The rejected candidate of `_abstain_selected`. -/
def rejected (candidate : CandidateEvaluation D) (reason : String) : CandidateEvaluation D :=
  { candidate with selected := false, rejectionReasons := candidate.rejectionReasons ++ [reason] }

omit [PatternTables] [Normalization] [Sha256] in
theorem abstainSelected_some {retrieval : RetrievalResult D} {candidate : CandidateEvaluation D}
    {reason : String} (h : retrieval.selected = some candidate) :
    abstainSelected retrieval reason =
      ⟨retrieval.candidates.map fun item => if item = candidate then rejected candidate reason
        else item, none, [reason]⟩ := by
  unfold abstainSelected
  rw [h]
  rfl

/-- The answers agree on the well-formed hits. -/
structure SameForWellFormed (services : Services V D) (hits : List (ClauseVectorHit V))
    (result rest : VectorReceiptResult V D) : Prop where
  candidates : result.retrieval.candidates.filter (ofWellFormed services hits) =
    rest.retrieval.candidates
  selected : result.retrieval.selected = rest.retrieval.selected
  selectedHit : result.selectedHit = rest.selectedHit
  selectedSource : result.selectedSource = rest.selectedSource
  extraction : result.extraction = rest.extraction
  verification : result.verification = rest.verification

/-- A malformed hit has a candidate with a reason. -/
def Rejected (result : VectorReceiptResult V D) (hit : ClauseVectorHit V) : Prop :=
  ∃ candidate ∈ result.retrieval.candidates, candidate.clauseId = hit.clauseId ∧
    candidate.rejectionReasons ≠ []

variable (services bucket request)

/-- The retrieval returns, each malformed hit is rejected with a reason, and the well-formed hits
are considered as without the others. -/
def ToleratesHits (hits : List (ClauseVectorHit V)) : Prop :=
  ∃ result rest, retrieveFrom services request.tenantId bucket request hits = .ok result ∧
    retrieveFrom services request.tenantId bucket request (hits.filter (wellFormed services)) =
      .ok rest ∧
    (∀ hit ∈ hits, wellFormed services hit = false → Rejected result hit) ∧
    SameForWellFormed services hits result rest

/-- Every hit is made a document, the malformed ones are in scope, and one that gets no reason is
the only hit without one, and its confidence is no NaN. -/
structure Harmless (hits : List (ClauseVectorHit V)) : Prop where
  constructible : ∀ hit ∈ hits, Constructible request.tenantId hit
  inScope : ∀ hit ∈ hits, wellFormed services hit = false → InScope request hit
  alone : ∀ hit ∈ hits, wellFormed services hit = false → Passes services bucket request hit →
    hit.confidence ≠ some .nan ∧
      ∀ other ∈ hits, Passes services bucket request other → other = hit

variable {services bucket request}

/-- The first candidate without a reason is that of a hit without one. -/
theorem passes_of_selected {hits : List (ClauseVectorHit V)} {candidate : CandidateEvaluation D}
    (h : (ranked services bucket request hits).find? CandidateEvaluation.selected =
      some candidate) :
    ∃ hit ∈ hits, candidateOf services bucket request hit = some candidate ∧
      Passes services bucket request hit := by
  obtain ⟨hit, hmem, hcandidate⟩ := mem_ranked.mp (List.mem_of_find?_eq_some h)
  exact ⟨hit, hmem, hcandidate, candidate, hcandidate,
    (selected_of_candidate hcandidate).mp (List.find?_some h)⟩

/-- The first candidate without a reason exists if a hit has none. -/
theorem selected_of_passes {hits : List (ClauseVectorHit V)} {hit : ClauseVectorHit V}
    (hmem : hit ∈ hits) (h : Passes services bucket request hit) :
    ∃ candidate, (ranked services bucket request hits).find? CandidateEvaluation.selected =
      some candidate := by
  obtain ⟨candidate, hcandidate, hnone⟩ := h
  have hsome : ((ranked services bucket request hits).find?
      CandidateEvaluation.selected).isSome = true :=
    List.find?_isSome.mpr ⟨candidate, mem_ranked.mpr ⟨hit, hmem, hcandidate⟩,
      (selected_of_candidate hcandidate).mpr hnone⟩
  exact Option.isSome_iff_exists.mp hsome

/-- Without a malformed hit that gets no reason the first candidate without one is that of the
well-formed hits. -/
theorem selected_wellFormed {hits : List (ClauseVectorHit V)}
    (hdistinct : hits.Pairwise fun a b => a.clauseId ≠ b.clauseId)
    (hnone : ∀ hit ∈ hits, wellFormed services hit = false → ¬Passes services bucket request hit) :
    (ranked services bucket request (hits.filter (wellFormed services))).find?
        CandidateEvaluation.selected =
      (ranked services bucket request hits).find? CandidateEvaluation.selected := by
  rw [← ranked_wellFormed hdistinct, List.find?_filter]
  refine List.find?_congr fun candidate hcandidate => ?_
  obtain ⟨hit, hmem, hcandidate⟩ := mem_ranked.mp hcandidate
  have hwell : ofWellFormed services hits candidate = wellFormed services hit :=
    ofWellFormed_iff hdistinct hmem (clauseId_of_candidate hcandidate)
  rw [hwell]
  cases hselected : candidate.selected with
  | false => simp
  | true =>
      have hpasses : Passes services bucket request hit :=
        ⟨candidate, hcandidate, (selected_of_candidate hcandidate).mp hselected⟩
      cases hform : wellFormed services hit with
      | true => simp
      | false => exact absurd hpasses (hnone hit hmem hform)

/-! ## Tolerance -/

/-- Rejecting a candidate and leaving out those of malformed hits commute. -/
theorem filter_rejected {hits : List (ClauseVectorHit V)} (candidate : CandidateEvaluation D)
    (reason : String) (items : List (CandidateEvaluation D)) :
    (items.map fun item => if item = candidate then rejected candidate reason else item).filter
        (ofWellFormed services hits) =
      (items.filter (ofWellFormed services hits)).map fun item =>
        if item = candidate then rejected candidate reason else item := by
  rw [List.filter_map]
  congr 1
  refine List.filter_congr fun item _ => ?_
  rw [Function.comp_apply]
  split
  · rename_i heq
    rw [heq]
    rfl
  · rfl

/-- A candidate with a reason, or one that is given up, rejects its hit. -/
theorem rejected_of_candidate {hits : List (ClauseVectorHit V)} {hit : ClauseVectorHit V}
    {candidate selected : CandidateEvaluation D} {reason : String}
    {chosen : Option (ClauseVectorHit V)} {source : Option RetainedObject}
    {extraction : Option TariffExtraction} {verification : Option TariffVerification}
    (hmem : hit ∈ hits) (hcandidate : candidateOf services bucket request hit = some candidate)
    (hselected : (retrievalOf services bucket request hits).selected = some selected)
    (hreason : candidate.rejectionReasons ≠ [] ∨ candidate = selected) :
    Rejected ⟨abstainSelected (retrievalOf services bucket request hits) reason, chosen, source,
      extraction, verification⟩ hit := by
  have hranked : candidate ∈ (retrievalOf services bucket request hits).candidates :=
    mem_ranked.mpr ⟨hit, hmem, hcandidate⟩
  rw [abstainSelected_some hselected]
  refine ⟨_, List.mem_map_of_mem hranked, ?_, ?_⟩
  · split
    · rename_i heq
      rw [← clauseId_of_candidate hcandidate, heq]
      rfl
    · exact clauseId_of_candidate hcandidate
  · split
    · unfold rejected
      simp
    · rename_i hne
      exact hreason.resolve_right hne

omit [LinearOrder D] in
theorem not_passes_reasons {hit : ClauseVectorHit V} {candidate : CandidateEvaluation D}
    (hcandidate : candidateOf services bucket request hit = some candidate)
    (h : ¬Passes services bucket request hit) : candidate.rejectionReasons ≠ [] :=
  fun hnone => h ⟨candidate, hcandidate, hnone⟩

section Runs

variable {hits : List (ClauseVectorHit V)} (hscoped : request.hasScopePrefix = true)
  (hcontext : request.hasChargeContext = true) (htenant : blank request.tenantId = false)
  (hdistinct : hits.Pairwise fun a b => a.clauseId ≠ b.clauseId)

include hscoped hcontext htenant in
theorem rest_eq :
    retrieveFrom services request.tenantId bucket request (hits.filter (wellFormed services)) =
      answer services bucket (hits.filter (wellFormed services))
        (retrievalOf services bucket request (hits.filter (wellFormed services))) := by
  refine retrieveFrom_eq hscoped hcontext fun hit hmem => ?_
  exact constructible_of_wellFormed htenant (List.mem_filter.mp hmem).2

include hscoped hcontext htenant hdistinct in
/-- Malformed hits that all get a reason do no harm. -/
theorem tolerates_of_reasons (h : Harmless services bucket request hits)
    (hnone : ∀ hit ∈ hits, wellFormed services hit = false → ¬Passes services bucket request hit) :
    ToleratesHits services bucket request hits := by
  have hresult : retrieveFrom services request.tenantId bucket request hits =
      answer services bucket hits (retrievalOf services bucket request hits) :=
    retrieveFrom_eq hscoped hcontext h.constructible
  have hrest : retrieveFrom services request.tenantId bucket request
      (hits.filter (wellFormed services)) =
        answer services bucket (hits.filter (wellFormed services))
          (retrievalOf services bucket request (hits.filter (wellFormed services))) :=
    rest_eq hscoped hcontext htenant
  have hsame := selected_wellFormed hdistinct hnone
  have hcandidates : (retrievalOf services bucket request hits).candidates.filter
      (ofWellFormed services hits) = ranked services bucket request
        (hits.filter (wellFormed services)) := ranked_wellFormed hdistinct
  have hreasons : ∀ hit ∈ hits, wellFormed services hit = false → ∃ candidate,
      candidateOf services bucket request hit = some candidate ∧
        candidate.rejectionReasons ≠ [] := by
    intro hit hmem hmalformed
    obtain ⟨candidate, hcandidate⟩ :=
      candidateOf_inScope (h.constructible hit hmem) (h.inScope hit hmem hmalformed)
    exact ⟨candidate, hcandidate, not_passes_reasons hcandidate (hnone hit hmem hmalformed)⟩
  cases hfound : (ranked services bucket request hits).find? CandidateEvaluation.selected with
  | none =>
      have hselected : (retrievalOf services bucket request hits).selected = none := hfound
      have hselected' : (retrievalOf services bucket request
          (hits.filter (wellFormed services))).selected = none := hsame.trans hfound
      rw [answer_none hselected] at hresult
      rw [answer_none hselected'] at hrest
      refine ⟨_, _, hresult, hrest, fun hit hmem hmalformed => ?_, ?_⟩
      · obtain ⟨candidate, hcandidate, hreason⟩ := hreasons hit hmem hmalformed
        exact ⟨candidate, mem_ranked.mpr ⟨hit, hmem, hcandidate⟩,
          clauseId_of_candidate hcandidate, hreason⟩
      · exact ⟨hcandidates, hselected.trans hselected'.symm, rfl, rfl, rfl, rfl⟩
  | some candidate =>
      have hselected : (retrievalOf services bucket request hits).selected = some candidate :=
        hfound
      have hselected' : (retrievalOf services bucket request
          (hits.filter (wellFormed services))).selected = some candidate := hsame.trans hfound
      obtain ⟨hit, hmem, hcandidate, hpasses⟩ := passes_of_selected hfound
      have hclause := clauseId_of_candidate hcandidate
      have hwell : wellFormed services hit = true := by
        by_contra hmalformed
        exact hnone hit hmem (by simpa using hmalformed) hpasses
      rw [answer_some hdistinct hmem hclause hselected] at hresult
      rw [answer_some (hdistinct.filter _) (List.mem_filter.mpr ⟨hmem, hwell⟩) hclause
        hselected'] at hrest
      obtain ⟨source, hverified⟩ := verified_of_passes hpasses
      rcases settle_returns hverified (isNumber_of_wellFormed hwell) with
        hgives | ⟨source, extraction, verification, hkeeps⟩
      · rw [hgives] at hresult hrest
        refine ⟨_, _, hresult, hrest, fun other hother hmalformed => ?_, ?_⟩
        · obtain ⟨reason, hreason, hne⟩ := hreasons other hother hmalformed
          exact rejected_of_candidate hother hreason hselected (Or.inl hne)
        · rw [abstainSelected_some hselected, abstainSelected_some hselected']
          exact ⟨by rw [filter_rejected]; exact congrArg _ hcandidates, rfl, rfl, rfl, rfl, rfl⟩
      · rw [hkeeps] at hresult hrest
        refine ⟨_, _, hresult, hrest, fun other hother hmalformed => ?_, ?_⟩
        · obtain ⟨reason, hreason, hne⟩ := hreasons other hother hmalformed
          exact ⟨reason, mem_ranked.mpr ⟨other, hother, hreason⟩,
            clauseId_of_candidate hreason, hne⟩
        · exact ⟨hcandidates, hselected.trans hselected'.symm, rfl, rfl, rfl, rfl⟩

include hscoped hcontext htenant hdistinct in
/-- A malformed hit without a reason does no harm if it is the only hit without one. -/
theorem tolerates_of_alone (h : Harmless services bucket request hits) {hit : ClauseVectorHit V}
    (hmem : hit ∈ hits) (hmalformed : wellFormed services hit = false)
    (hpasses : Passes services bucket request hit) :
    ToleratesHits services bucket request hits := by
  obtain ⟨hnan, halone⟩ := h.alone hit hmem hmalformed hpasses
  have hresult : retrieveFrom services request.tenantId bucket request hits =
      answer services bucket hits (retrievalOf services bucket request hits) :=
    retrieveFrom_eq hscoped hcontext h.constructible
  have hrest : retrieveFrom services request.tenantId bucket request
      (hits.filter (wellFormed services)) =
        answer services bucket (hits.filter (wellFormed services))
          (retrievalOf services bucket request (hits.filter (wellFormed services))) :=
    rest_eq hscoped hcontext htenant
  obtain ⟨candidate, hfound⟩ := selected_of_passes hmem hpasses
  obtain ⟨chosen, hchosen, hcandidate, hchosenPasses⟩ := passes_of_selected hfound
  obtain rfl := halone chosen hchosen hchosenPasses
  have hclause := clauseId_of_candidate hcandidate
  have hselected : (retrievalOf services bucket request hits).selected = some candidate := hfound
  obtain ⟨source, hverified⟩ := verified_of_passes hpasses
  obtain ⟨negative, hinfinite⟩ :=
    infinite_of_malformed hverified (h.constructible chosen hmem) hmalformed hnan
  have hgives := settle_infinite hverified hnan hinfinite
  have hselected' : (retrievalOf services bucket request
      (hits.filter (wellFormed services))).selected = none := by
    by_contra hsome
    obtain ⟨other, hother⟩ := Option.ne_none_iff_exists'.mp hsome
    obtain ⟨well, hwell, _, hwellPasses⟩ := passes_of_selected hother
    obtain ⟨hwellMem, hform⟩ := List.mem_filter.mp hwell
    rw [halone well hwellMem hwellPasses, hmalformed] at hform
    exact absurd hform (by decide)
  rw [answer_some hdistinct hmem hclause hselected, hgives] at hresult
  rw [answer_none hselected'] at hrest
  refine ⟨_, _, hresult, hrest, fun other hother hother' => ?_, ?_⟩
  · obtain ⟨reason, hreason⟩ :=
      candidateOf_inScope (h.constructible other hother) (h.inScope other hother hother')
    refine rejected_of_candidate hother hreason hselected ?_
    by_cases hotherPasses : Passes services bucket request other
    · rw [halone other hother hotherPasses, hcandidate] at hreason
      exact Or.inr (Option.some.inj hreason).symm
    · exact Or.inl (not_passes_reasons hreason hotherPasses)
  · rw [abstainSelected_some hselected]
    refine ⟨?_, hselected'.symm, rfl, rfl, rfl, rfl⟩
    have hcandidates : (retrievalOf services bucket request hits).candidates.filter
        (ofWellFormed services hits) = ranked services bucket request
          (hits.filter (wellFormed services)) := ranked_wellFormed hdistinct
    rw [filter_rejected, hcandidates]
    refine (List.map_congr_left fun item hitem => ?_).trans (List.map_id _)
    rw [id_eq, if_neg]
    rintro rfl
    obtain ⟨well, hwell, hitem⟩ := mem_ranked.mp hitem
    obtain ⟨hwellMem, hform⟩ := List.mem_filter.mp hwell
    have hsame := eq_of_key hdistinct hwellMem hmem
      ((clauseId_of_candidate hitem).symm.trans hclause)
    rw [hsame, hmalformed] at hform
    exact absurd hform (by decide)

/-! ### What tolerance needs -/

/-- An answer without a selection, one that is given up, or one that is kept. -/
inductive Answered (services : Services V D) (bucket : String) (request : RetrievalRequest V)
    (hits : List (ClauseVectorHit V)) (result : VectorReceiptResult V D) : Prop
  | nothing (selected : (retrievalOf services bucket request hits).selected = none)
      (result_eq : result = ⟨retrievalOf services bucket request hits, none, none, none, none⟩)
  | givenUp (candidate : CandidateEvaluation D) (hit : ClauseVectorHit V) (mem : hit ∈ hits)
      (candidateOf_eq : candidateOf services bucket request hit = some candidate)
      (number : hit.confidence ≠ some .nan)
      (selected : (retrievalOf services bucket request hits).selected = some candidate)
      (result_eq : result = ⟨abstainSelected (retrievalOf services bucket request hits)
        "tariff_verification_failed", none, none, none, none⟩)
  | kept (hit : ClauseVectorHit V) (result_eq : ∃ source extraction verification,
      result = ⟨retrievalOf services bucket request hits, some hit, some source, some extraction,
        some verification⟩)

include hscoped hcontext hdistinct in
theorem answered_of_ok {result : VectorReceiptResult V D}
    (h : retrieveFrom services request.tenantId bucket request hits = .ok result) :
    Answered services bucket request hits result := by
  have hanswer : retrieveFrom services request.tenantId bucket request hits =
      answer services bucket hits (retrievalOf services bucket request hits) :=
    retrieveFrom_eq hscoped hcontext (constructible_of_ok h)
  rw [h] at hanswer
  cases hfound : (ranked services bucket request hits).find? CandidateEvaluation.selected with
  | none =>
      have hselected : (retrievalOf services bucket request hits).selected = none := hfound
      rw [answer_none hselected] at hanswer
      exact .nothing hselected (Except.ok.inj hanswer)
  | some candidate =>
      have hselected : (retrievalOf services bucket request hits).selected = some candidate :=
        hfound
      obtain ⟨hit, hmem, hcandidate, hpasses⟩ := passes_of_selected hfound
      obtain ⟨source, hverified⟩ := verified_of_passes hpasses
      rw [answer_some hdistinct hmem (clauseId_of_candidate hcandidate) hselected] at hanswer
      have hnan : hit.confidence ≠ some .nan := by
        intro hnan
        rw [settle_nan hverified hnan] at hanswer
        exact absurd hanswer (by simp)
      rcases settle_returns hverified hnan with hgives | ⟨source, extraction, verification, hkeeps⟩
      · rw [hgives] at hanswer
        exact .givenUp candidate hit hmem hcandidate hnan hselected (Except.ok.inj hanswer)
      · rw [hkeeps] at hanswer
        exact .kept hit ⟨source, extraction, verification, Except.ok.inj hanswer⟩

/-- A candidate of an answer is that of a hit, with its reasons, or the one that is given up. -/
theorem Answered.candidate {result : VectorReceiptResult V D}
    (h : Answered services bucket request hits result) {candidate : CandidateEvaluation D}
    (hmem : candidate ∈ result.retrieval.candidates) :
    ∃ hit ∈ hits, ∃ item, candidateOf services bucket request hit = some item ∧
      candidate.clauseId = item.clauseId ∧
      (candidate.rejectionReasons = item.rejectionReasons ∨
        hit.confidence ≠ some .nan ∧ result.selectedHit = none ∧
          (retrievalOf services bucket request hits).selected = some item ∧
          result.retrieval = abstainSelected (retrievalOf services bucket request hits)
            "tariff_verification_failed") := by
  cases h with
  | nothing selected result_eq =>
      subst result_eq
      obtain ⟨hit, hhit, hitem⟩ := mem_ranked.mp hmem
      exact ⟨hit, hhit, candidate, hitem, rfl, Or.inl rfl⟩
  | givenUp chosen hit mem candidateOf_eq number selected result_eq =>
      subst result_eq
      have hmapped := hmem
      rw [abstainSelected_some selected] at hmapped
      obtain ⟨item, hranked, hitem⟩ := List.mem_map.mp hmapped
      split at hitem
      · rename_i heq
        refine ⟨hit, mem, chosen, candidateOf_eq, by rw [← hitem]; rfl, Or.inr ?_⟩
        exact ⟨number, rfl, selected, rfl⟩
      · obtain ⟨other, hother, hcandidate⟩ := mem_ranked.mp hranked
        exact ⟨other, hother, item, hcandidate, by rw [hitem], Or.inl (by rw [hitem])⟩
  | kept hit result_eq =>
      obtain ⟨source, extraction, verification, rfl⟩ := result_eq
      obtain ⟨other, hother, hitem⟩ := mem_ranked.mp hmem
      exact ⟨other, hother, candidate, hitem, rfl, Or.inl rfl⟩

include hdistinct in
/-- A hit without a reason that is rejected all the same is the one that is given up. -/
theorem Answered.givenUp_of_rejected {result : VectorReceiptResult V D}
    (h : Answered services bucket request hits result) {hit : ClauseVectorHit V}
    (hmem : hit ∈ hits) {item : CandidateEvaluation D}
    (hitem : candidateOf services bucket request hit = some item)
    (hnone : item.rejectionReasons = []) (hrejected : Rejected result hit) :
    hit.confidence ≠ some .nan ∧ result.selectedHit = none ∧
      (retrievalOf services bucket request hits).selected = some item ∧
      result.retrieval = abstainSelected (retrievalOf services bucket request hits)
        "tariff_verification_failed" := by
  obtain ⟨candidate, hcandidate, hclause, hreasons⟩ := hrejected
  obtain ⟨other, hother, found, hfound, hsame, hcase⟩ := h.candidate hcandidate
  have heq : other = hit := eq_of_key hdistinct hother hmem
    ((clauseId_of_candidate hfound).symm.trans (hsame.symm.trans hclause))
  subst heq
  rw [hitem] at hfound
  obtain rfl := Option.some.inj hfound
  rcases hcase with hkept | hgiven
  · exact absurd (hkept.trans hnone) hreasons
  · exact hgiven

include hscoped hcontext hdistinct in
/-- Tolerated hits do no harm. -/
theorem harmless_of_tolerates (h : ToleratesHits services bucket request hits) :
    Harmless services bucket request hits := by
  obtain ⟨result, rest, hresult, hrest, hrejected, hsame⟩ := h
  have hanswered := answered_of_ok hscoped hcontext hdistinct hresult
  refine ⟨constructible_of_ok hresult, fun hit hmem hmalformed => ?_, ?_⟩
  · obtain ⟨candidate, hcandidate, hclause, _⟩ := hrejected hit hmem hmalformed
    obtain ⟨other, hother, item, hitem, heq, _⟩ := hanswered.candidate hcandidate
    have hother : other = hit := eq_of_key hdistinct hother hmem
      ((clauseId_of_candidate hitem).symm.trans (heq.symm.trans hclause))
    obtain ⟨_, _, hscope, _⟩ := candidateOf_some hitem
    exact hother ▸ hscope
  intro hit hmem hmalformed ⟨item, hitem, hnone⟩
  obtain ⟨hnan, hnoHit, hselected, hretrieval⟩ := hanswered.givenUp_of_rejected hdistinct hmem hitem
    hnone (hrejected hit hmem hmalformed)
  refine ⟨hnan, fun other hother hpasses => ?_⟩
  have hpassed := hpasses
  obtain ⟨found, hfound, hfoundNone⟩ := hpasses
  cases hform : wellFormed services other with
  | false =>
      obtain ⟨_, _, hselected', _⟩ := hanswered.givenUp_of_rejected hdistinct hother hfound
        hfoundNone (hrejected other hother hform)
      have heq : found = item := Option.some.inj (hselected'.symm.trans hselected)
      exact eq_of_key hdistinct hother hmem ((clauseId_of_candidate hfound).symm.trans
        (heq ▸ clauseId_of_candidate hitem))
  | true =>
      -- Without the malformed hits a well-formed one is kept or given up.
      obtain ⟨first, hfirst⟩ := selected_of_passes (List.mem_filter.mpr ⟨hother, hform⟩) hpassed
      have hrestAnswered := answered_of_ok hscoped hcontext (hdistinct.filter _) hrest
      cases hrestAnswered with
      | nothing selected _ =>
          have hfirst' : (retrievalOf services bucket request
              (hits.filter (wellFormed services))).selected = some first := hfirst
          rw [selected] at hfirst'
          exact absurd hfirst' (by simp)
      | kept chosen result_eq =>
          obtain ⟨source, extraction, verification, rfl⟩ := result_eq
          have hhit := hsame.selectedHit
          rw [hnoHit] at hhit
          exact absurd hhit (by simp)
      | givenUp candidate chosen mem candidateOf_eq number selected result_eq =>
          subst result_eq
          obtain ⟨hchosen, hchosenForm⟩ := List.mem_filter.mp mem
          have hreasons : candidate.rejectionReasons = [] :=
            (selected_of_candidate candidateOf_eq).mp (List.find?_some selected)
          have hne : candidate ≠ item := by
            rintro rfl
            have heq := eq_of_key hdistinct hchosen hmem
              ((clauseId_of_candidate candidateOf_eq).symm.trans (clauseId_of_candidate hitem))
            rw [heq, hmalformed] at hchosenForm
            exact absurd hchosenForm (by decide)
          have hstays : candidate ∈ result.retrieval.candidates.filter
              (ofWellFormed services hits) := by
            have hwell : ofWellFormed services hits candidate = wellFormed services chosen :=
              ofWellFormed_iff hdistinct hchosen (clauseId_of_candidate candidateOf_eq)
            refine List.mem_filter.mpr ⟨?_, hwell.trans hchosenForm⟩
            rw [hretrieval, abstainSelected_some hselected]
            have hranked := mem_ranked.mpr ⟨chosen, hchosen, candidateOf_eq⟩
            refine List.mem_map.mpr ⟨candidate, hranked, ?_⟩
            rw [if_neg hne]
          rw [hsame.candidates, abstainSelected_some selected] at hstays
          obtain ⟨found, _, heq⟩ := List.mem_map.mp hstays
          split at heq
          · have hrejectedReasons := congrArg CandidateEvaluation.rejectionReasons heq
            rw [hreasons] at hrejectedReasons
            exact absurd hrejectedReasons (by simp [rejected])
          · rename_i hdifferent
            exact absurd heq hdifferent

include hscoped hcontext htenant hdistinct in
/-- Hits with distinct clauses are tolerated exactly if they do no harm. -/
theorem toleratesHits_iff :
    ToleratesHits services bucket request hits ↔ Harmless services bucket request hits := by
  constructor
  · exact harmless_of_tolerates hscoped hcontext hdistinct
  · intro h
    by_cases hpasses : ∃ hit ∈ hits, wellFormed services hit = false ∧
        Passes services bucket request hit
    · obtain ⟨hit, hmem, hmalformed, hpasses⟩ := hpasses
      exact tolerates_of_alone hscoped hcontext htenant hdistinct h hmem hmalformed hpasses
    · refine tolerates_of_reasons hscoped hcontext htenant hdistinct h ?_
      exact fun hit hmem hmalformed hpass => hpasses ⟨hit, hmem, hmalformed, hpass⟩

end Runs

/-! ## Retrievals -/

section Retrievals

variable (services : Services V D) (tenantId : String) (request : VectorReceiptRequest)

/-- What the candidates are compared with. -/
def queryOf (queryInput : String) : RetrievalRequest V :=
  { tenantId
    carrierId := request.carrierId
    documentFamily := request.documentFamily
    chargeDate := request.chargeDate
    equipment := request.equipment
    route := request.route
    service := request.service
    queryEmbedding := services.embed queryInput }

/-- The input of the query of a request. -/
def queryInputOf : Option String :=
  composeQueryEmbeddingInput ⟨request.documentFamily, request.equipment, request.route,
    request.service, request.invoiceContext⟩

/-- The hits that the search finds for an input. -/
def hitsOf (queryInput : String) : List (ClauseVectorHit V) :=
  services.search request.carrierId (services.embed queryInput) request.topK

/-- The services with a search that finds the well-formed hits only. -/
def wellFormedOnly : Services V D :=
  { services with
    search := fun carrierId query limit =>
      (services.search carrierId query limit).filter (wellFormed services) }

/-- The retrieval returns, each malformed hit is rejected with a reason, and the well-formed hits
are considered as if the search had not found the others. -/
def Tolerates : Prop :=
  ∃ result rest, retrieve services tenantId request = .ok result ∧
    retrieve (wellFormedOnly services) tenantId request = .ok rest ∧
    ∀ queryInput ∈ queryInputOf request,
      (∀ hit ∈ hitsOf services request queryInput, wellFormed services hit = false →
        Rejected result hit) ∧
      SameForWellFormed services (hitsOf services request queryInput) result rest

variable {services tenantId request}

omit [Normalization] [Sha256] in
theorem validRequest_texts (h : validRequest tenantId request = true) :
    ∀ value ∈ [tenantId, request.carrierId, request.documentFamily, request.bucket,
      request.equipment, request.route, request.service, request.invoiceContext],
      required value = true := by
  unfold validRequest at h
  exact List.all_eq_true.mp (Bool.and_eq_true_iff.mp h).1

omit [Normalization] [Sha256] in
theorem not_blank_of_required {value : String} (h : required value = true) :
    blank value = false := by
  unfold required at h
  simpa using (Bool.and_eq_true_iff.mp h).1

omit [Normalization] [Sha256] in
/-- A valid request has a query. -/
theorem queryInput_of_valid (h : validRequest tenantId request = true) :
    ∃ queryInput, queryInputOf request = some queryInput := by
  have htexts := validRequest_texts h
  refine ⟨_, if_pos ?_⟩
  rw [List.all_eq_true]
  intro value hvalue
  refine htexts value ?_
  simp only [List.mem_cons, List.not_mem_nil, or_false] at hvalue ⊢
  rcases hvalue with rfl | rfl | rfl | rfl | rfl <;> simp

theorem retrieve_eq (h : validRequest tenantId request = true) {queryInput : String}
    (hquery : queryInputOf request = some queryInput) :
    retrieve services tenantId request =
      retrieveFrom services tenantId request.bucket (queryOf services tenantId request queryInput)
        (hitsOf services request queryInput) := by
  unfold queryInputOf at hquery
  unfold retrieve
  rw [if_pos h, hquery]
  rfl

end Retrievals

end Candidates

end Hits

/-! ## A hit without a first date -/

section Case

local instance hitTables : PatternTables := asciiPatterns

local instance hitNormalization : Normalization := plainNormalization

local instance hitDigest : Sha256 := Sha256.standard

/-- A hit of a clause that has a last date and no first one. -/
def undatedHit : ClauseVectorHit Nat where
  clauseId := "clause"
  snapshotId := "snapshot"
  carrierId := "carrier"
  sourceVersionId := some "v1"
  sourceSha256 := "00"
  sourceKey := "tariff.txt"
  clauseSha256 := "00"
  clauseRef := "4.2"
  clauseText := "USD 250 per day"
  rateAmount := some (.finite false 250 0)
  rateCurrency := some "USD"
  rateUnit := some "per_day"
  sourceLocator := some "p. 4"
  confidence := some (.finite false 1 0)
  effectiveFrom := none
  effectiveTo := some ⟨2026, 11, 23, by decide⟩
  equipmentType := some "DRY"
  routeCode := some "USOAK"
  serviceContext := some "import"
  documentFamily := some "tariff"
  embeddingModel := some modelId
  embeddingInputSha256 := some "00"
  embeddingSha256 := some "00"
  embedding := 0

/-- Services whose search finds the given hits. -/
def servicesOf (hits : List (ClauseVectorHit Nat)) : Services Nat Nat :=
  { embed := fun _ => 0
    embeddingSha256 := fun _ => some "00"
    search := fun _ _ _ => hits
    getExact := fun _ _ _ => none
    distance := fun _ _ => some 0 }

def lookedUp : VectorReceiptRequest :=
  ⟨"carrier", "tariff", "bucket", ⟨2026, 6, 8, by decide⟩, "DRY", "USOAK", "import", "demurrage", 5⟩

end Case

end Tally.Analysis.MalformedHits
