import Mathlib.Data.List.Infix
import Mathlib.Data.List.Sort
import Mathlib.Data.Prod.Lex
import Mathlib.Data.Rat.Defs
import Mathlib.Order.WithBot
import Tally.Library.Calendar
import Tally.Library.Sha256
import Tally.Model.Correspondence

/-!
# Clause retrieval

The embedding of `core/vector_retrieval.py`: the postfilters of a clause document, the
ranking of the candidates in scope, the reference retrieval and the scope partition it is
compared with. A rate is a number or infinite, which the check of a document lets through. The distance of two embeddings is a parameter, a value of a total order or
undefined; the counts over committed fixtures are left out.
-/

set_option autoImplicit false

namespace Tally.Model.VectorRetrieval
open Library Library.Calendar Library.Sha256 Tally.Model

/-! ## Texts -/

section Texts

variable [CharacterTables]

open CharacterTables

/-- Whether `value.strip()` is empty. -/
def blank (value : String) : Bool := value.toList.all isSpace

/-- `re.sub(r"\s+", " ", value)`: the last character of a run stands for the run. -/
def collapseSpaces : List Char → List Char
  | [] => []
  | c :: text =>
    if isSpace c then
      if text.head?.any isSpace then collapseSpaces text else ' ' :: collapseSpaces text
    else c :: collapseSpaces text

/-- `_normalize_text`. -/
def normalizeText (value : String) : List Char :=
  (((collapseSpaces value.toList).dropWhile isSpace).reverse.dropWhile isSpace).reverse

end Texts

/-- `bytes.decode("utf-8")`. -/
def decodeUtf8 (bytes : Bytes) : Option String := String.fromUTF8? ⟨bytes.toArray⟩

/-! ## Documents and requests -/

/-- A clause, its business context, and its immutable retained-source identity. -/
structure ClauseDocument [CharacterTables] (V : Type) where
  clauseId : String
  tenantId : String
  carrierId : String
  documentFamily : String
  captureId : String
  sourceVersionId : String
  sourceSha256 : String
  clauseSha256 : String
  effectiveFrom : Date
  effectiveTo : Option Date
  equipment : String
  route : String
  service : String
  rateAmount : WithTop ℚ
  rateCurrency : String
  rateUnit : String
  clauseText : String
  embedding : V
  embeddingIntegrityVerified : Bool
  sourceBytes : Option Bytes
  required : ∀ value ∈ [clauseId, tenantId, carrierId, documentFamily, captureId,
    sourceVersionId, sourceSha256, clauseSha256, equipment, route, service, rateCurrency,
    rateUnit, clauseText], blank value = false
  ordered : ∀ last ∈ effectiveTo, effectiveFrom ≤ last
  nonnegative : ∀ rate : ℚ, rateAmount = rate → 0 ≤ rate

/-- The required scope and context for one charge-date clause lookup. -/
structure RetrievalRequest (V : Type) where
  tenantId : String
  carrierId : String
  documentFamily : String
  chargeDate : Date
  equipment : String
  route : String
  service : String
  queryEmbedding : V

section Retrieval

variable [Sha256] [CharacterTables] {V D : Type}

omit [Sha256] in
/-- `has_scope_prefix`. -/
def RetrievalRequest.hasScopePrefix (request : RetrievalRequest V) : Bool :=
  [request.tenantId, request.carrierId, request.documentFamily].all fun value => !blank value

omit [Sha256] in
/-- `has_charge_context`. -/
def RetrievalRequest.hasChargeContext (request : RetrievalRequest V) : Bool :=
  [request.equipment, request.route, request.service].all fun value => !blank value

/-! ## Postfilters -/

inductive TemporalStatus where
  | applies | notYetEffective | expired
deriving DecidableEq

def TemporalStatus.value : TemporalStatus → String
  | applies => "applies"
  | notYetEffective => "not_yet_effective"
  | expired => "expired"

inductive ExactSourceStatus where
  | verified | missing | notUtf8 | hashMismatch | clauseHashMismatch | clauseAbsent
  | effectiveDateAbsent
deriving DecidableEq

def ExactSourceStatus.value : ExactSourceStatus → String
  | verified => "verified"
  | missing => "missing"
  | notUtf8 => "not_utf8"
  | hashMismatch => "hash_mismatch"
  | clauseHashMismatch => "clause_hash_mismatch"
  | clauseAbsent => "clause_absent"
  | effectiveDateAbsent => "effective_date_absent"

omit [Sha256] in
def temporalStatus (document : ClauseDocument V) (chargeDate : Date) : TemporalStatus :=
  if chargeDate < document.effectiveFrom then .notYetEffective
  else if document.effectiveTo.any fun last => last < chargeDate then .expired
  else .applies

/-- Verify the clause against the supplied retained bytes and stated digest. -/
def exactSourceStatus (document : ClauseDocument V) : ExactSourceStatus :=
  match document.sourceBytes with
  | none => .missing
  | some bytes =>
    if hexdigest (encode document.clauseText) ≠ document.clauseSha256 then .clauseHashMismatch
    else if hexdigest bytes ≠ document.sourceSha256 then .hashMismatch
    else match decodeUtf8 bytes with
      | none => .notUtf8
      | some sourceText =>
        if ¬ normalizeText document.clauseText <:+: normalizeText sourceText then .clauseAbsent
        else if (document.effectiveFrom :: document.effectiveTo.toList).any fun date =>
            ¬ date.isoChars <:+: sourceText.toList then .effectiveDateAbsent
        else .verified

/-! ## Ranking -/

/-- An auditable ranked candidate and every deterministic postfilter result. -/
structure CandidateEvaluation (D : Type) where
  clauseId : String
  tenantId : String
  carrierId : String
  documentFamily : String
  captureId : String
  sourceVersionId : String
  equipment : String
  route : String
  service : String
  rateAmount : WithTop ℚ
  rateCurrency : String
  rateUnit : String
  embeddingIntegrityVerified : Bool
  normalizedL2Distance : Option D
  temporalStatus : TemporalStatus
  exactSourceStatus : ExactSourceStatus
  selected : Bool
  rejectionReasons : List String
deriving DecidableEq

structure RetrievalResult (D : Type) where
  candidates : List (CandidateEvaluation D)
  selected : Option (CandidateEvaluation D)
  abstentionReasons : List String

variable (distance : V → V → Option D)

/-- `_evaluate`. -/
def evaluate (document : ClauseDocument V) (request : RetrievalRequest V) :
    CandidateEvaluation D :=
  let distance := distance request.queryEmbedding document.embedding
  let temporal := temporalStatus document request.chargeDate
  let source := exactSourceStatus document
  let reasons :=
    (if distance.isNone then ["invalid_embedding"] else []) ++
    (if !document.embeddingIntegrityVerified then ["embedding_hash_mismatch"] else []) ++
    (if document.equipment ≠ request.equipment then ["equipment_mismatch"] else []) ++
    (if document.route ≠ request.route then ["route_mismatch"] else []) ++
    (if document.service ≠ request.service then ["service_mismatch"] else []) ++
    (if temporal ≠ .applies then ["temporal_" ++ temporal.value] else []) ++
    (if source ≠ .verified then ["exact_source_" ++ source.value] else [])
  { clauseId := document.clauseId
    tenantId := document.tenantId
    carrierId := document.carrierId
    documentFamily := document.documentFamily
    captureId := document.captureId
    sourceVersionId := document.sourceVersionId
    equipment := document.equipment
    route := document.route
    service := document.service
    rateAmount := document.rateAmount
    rateCurrency := document.rateCurrency
    rateUnit := document.rateUnit
    embeddingIntegrityVerified := document.embeddingIntegrityVerified
    normalizedL2Distance := distance
    temporalStatus := temporal
    exactSourceStatus := source
    selected := reasons.isEmpty
    rejectionReasons := reasons }

/-- The scope of a document. -/
def scopeOf (document : ClauseDocument V) : String × String × String :=
  (document.tenantId, document.carrierId, document.documentFamily)

variable [LinearOrder D]

/-- The key of the ranking: an undefined distance comes after every defined one. -/
def rankKey (candidate : CandidateEvaluation D) :
    Lex (WithTop D × Lex (String × Lex (String × String))) :=
  toLex (match candidate.normalizedL2Distance with
      | some distance => (distance : WithTop D)
      | none => ⊤,
    toLex (candidate.clauseId, toLex (candidate.captureId, candidate.sourceVersionId)))

/-- `_ranked_evaluations`. -/
def rankedEvaluations (documents : List (ClauseDocument V)) (request : RetrievalRequest V) :
    List (CandidateEvaluation D) :=
  let inScope := documents.filter fun document =>
    document.tenantId = request.tenantId ∧ document.carrierId = request.carrierId ∧
      document.documentFamily = request.documentFamily
  (inScope.map fun document => evaluate distance document request).insertionSort
    fun a b => rankKey a ≤ rankKey b

/-- `_result_from`. -/
def resultFrom (documents : List (ClauseDocument V)) (request : RetrievalRequest V) :
    RetrievalResult D :=
  if !request.hasScopePrefix then
    ⟨[], none, ["missing_tenant_carrier_or_document_family_scope"]⟩
  else if !request.hasChargeContext then ⟨[], none, ["missing_charge_context"]⟩
  else
    let candidates := rankedEvaluations distance documents request
    let selected := candidates.find? CandidateEvaluation.selected
    ⟨candidates, selected,
      if selected.isSome then []
      else if candidates.isEmpty then ["no_scoped_candidates"]
      else ["no_candidate_passed_postfilters"]⟩

/-- `retrieve_brute_force`. -/
def retrieveBruteForce (documents : List (ClauseDocument V)) (request : RetrievalRequest V) :
    RetrievalResult D := resultFrom distance documents request

/-! ## The index -/

/-- A document under its scope, which is new or gets one document more. -/
def addTo {K A : Type} [DecidableEq K] (key : K) (value : A) : List (K × List A) → List (K × List A)
  | [] => [(key, [value])]
  | (k, values) :: groups =>
    if k = key then (k, values ++ [value]) :: groups else (k, values) :: addTo key value groups

/-- `groups.get(key, ())`. -/
def valuesOf {K A : Type} [DecidableEq K] (key : K) (groups : List (K × List A)) : List A :=
  (groups.lookup key).getD []

/-- The scope partition. -/
structure ClauseIndex [CharacterTables] (V : Type) where
  byScope : List ((String × String × String) × List (ClauseDocument V))

def ClauseIndex.build (documents : List (ClauseDocument V)) : ClauseIndex V :=
  ⟨documents.foldl (fun grouped document => addTo (scopeOf document) document grouped) []⟩

def ClauseIndex.retrieve (index : ClauseIndex V) (request : RetrievalRequest V) :
    RetrievalResult D :=
  if !request.hasScopePrefix then resultFrom distance [] request
  else
    resultFrom distance
      (valuesOf (request.tenantId, request.carrierId, request.documentFamily) index.byScope) request

end Retrieval

end Tally.Model.VectorRetrieval
