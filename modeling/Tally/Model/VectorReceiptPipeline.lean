import Mathlib.Data.Rat.Cast.Order
import Tally.Model.Receipt
import Tally.Model.TitanEmbeddings

/-!
# Vector receipts

The embedding of `platform/vector_receipt_pipeline.py`: the inputs of embeddings, and the
retrieval of the clause that a charge rests on. The hits of the search come with whatever their
columns hold; each is made a document, the documents are ranked, and the clause that is selected
is verified against its retained source. The embeddings, the search, the retained objects and the
distance of two embeddings are parameters.
-/

set_option autoImplicit false

namespace Tally.Model.VectorReceiptPipeline
open Library Library.Calendar Library.Sha256 Tally.Model
open Tally.Model.Applicability (Decimal)
open Tally.Model.VectorRetrieval
open Tally.Model.TitanEmbeddings
open Tally.Model.Receipt (PatternTables ReceiptError TariffExtraction TariffVerification
  verifyTariffExtraction)

/-! ## Embedding inputs -/

/-- The context of a clause and its text. -/
structure ClauseContext where
  documentFamily : String
  equipment : String
  route : String
  service : String
  clauseText : String
deriving DecidableEq

section Inputs

variable [CharacterTables]

/-- `_required`: the value has a character that is not white space, and no NUL. -/
def required (value : String) : Bool := !blank value && !value.toList.contains (Char.ofNat 0)

/-- `compose_clause_embedding_input`; a field that is missing is a `ValueError`. -/
def composeClauseEmbeddingInput (context : ClauseContext) : Option String :=
  if [context.documentFamily, context.equipment, context.route, context.service,
      context.clauseText].all required then
    some ("document_family: " ++ context.documentFamily ++ "\nequipment: " ++ context.equipment ++
      "\nroute: " ++ context.route ++ "\nservice: " ++ context.service ++
      "\ntariff_clause: " ++ context.clauseText)
  else none

/-- The hash of the input of a clause. -/
def clauseInputSha256 [Normalization] [Sha256] (context : ClauseContext) : Option String :=
  (composeClauseEmbeddingInput context).bind embeddingInputSha256

/-- `compose_query_embedding_input`: the labels of a clause, with the context of an invoice in the
place of the text. -/
def composeQueryEmbeddingInput (context : ClauseContext) : Option String :=
  composeClauseEmbeddingInput context

end Inputs

/-! ## Hits -/

/-- A hit of the search, with the columns that the pipeline reads. -/
structure ClauseVectorHit (V : Type) where
  clauseId : String
  snapshotId : String
  carrierId : String
  sourceVersionId : Option String
  sourceSha256 : String
  sourceKey : String
  clauseSha256 : String
  clauseRef : String
  clauseText : String
  rateAmount : Option Decimal
  rateCurrency : Option String
  rateUnit : Option String
  sourceLocator : Option String
  confidence : Option Decimal
  effectiveFrom : Option Date
  effectiveTo : Option Date
  equipmentType : Option String
  routeCode : Option String
  serviceContext : Option String
  documentFamily : Option String
  embeddingModel : Option String
  embeddingInputSha256 : Option String
  embeddingSha256 : Option String
  embedding : V

/-- An object version that the source retains. -/
structure RetainedObject where
  bucket : String
  key : String
  versionId : String
  body : Bytes

structure VectorReceiptRequest where
  carrierId : String
  documentFamily : String
  bucket : String
  chargeDate : Date
  equipment : String
  route : String
  service : String
  invoiceContext : String
  topK : Nat

structure VectorReceiptResult (V D : Type) where
  retrieval : RetrievalResult D
  selectedHit : Option (ClauseVectorHit V)
  selectedSource : Option RetainedObject
  extraction : Option TariffExtraction
  verification : Option TariffVerification

/-- What the pipeline calls: the embedding of a text, the digest of an embedding, which raises for
one that is not valid, the search, the retained object under a key and a version, and the
distance. -/
structure Services (V D : Type) where
  embed : String → V
  embeddingSha256 : V → Option String
  search : String → V → Nat → List (ClauseVectorHit V)
  getExact : String → String → String → Option RetainedObject
  distance : V → V → Option D

/-- `date.max`. -/
def dateMax : Date := ⟨9999, 12, 31, by decide⟩

/-- `value or default`; an empty text counts as none. -/
def orElse (value : Option String) (default : String) : String :=
  match value with
  | some text => if text.isEmpty then default else text
  | none => default

/-! ## Documents -/

section Pipeline

variable {V D : Type}

/-- `_load_exact`; a failed read is no object. -/
def loadExact (services : Services V D) (bucket : String) (hit : ClauseVectorHit V) :
    Option RetainedObject :=
  match hit.sourceVersionId with
  | none => none
  | some versionId =>
    if versionId.isEmpty then none
    else (services.getExact bucket hit.sourceKey versionId).filter fun retained =>
      retained.bucket = bucket && retained.key = hit.sourceKey && retained.versionId = versionId

/-- `rate_amount or Decimal("0")` as a rate that is not negative: the comparison with zero raises
for a NaN, and a rate below zero is a `ValueError`. -/
def rateOf : Option Decimal →
    Except ReceiptError {rate : WithTop ℚ // ∀ value : ℚ, rate = value → 0 ≤ value}
  | none => .ok ⟨((0 : ℚ) : WithTop ℚ), fun _ h => (WithTop.coe_inj.mp h).le⟩
  | some .nan => .error .invalidOperation
  | some (.infinity true) => .error .valueError
  | some (.infinity false) => .ok ⟨⊤, fun _ h => absurd h WithTop.top_ne_coe⟩
  | some (.finite negative coefficient exponent) =>
    if negative ∧ coefficient ≠ 0 then .error .valueError
    else .ok ⟨((coefficient * 10 ^ exponent : ℚ) : WithTop ℚ),
      fun _ h => (mul_nonneg (Nat.cast_nonneg _) (zpow_nonneg (Nat.ofNat_nonneg 10) _)).trans_eq
        (WithTop.coe_inj.mp h)⟩

section Documents

variable [CharacterTables]

/-- A text that is given and has a character that is not white space. -/
def given (value : Option String) : Bool := value.any fun text => !blank text

/-- `_metadata_complete`. -/
def metadataComplete (hit : ClauseVectorHit V) : Bool :=
  [hit.sourceVersionId, hit.documentFamily, hit.equipmentType, hit.routeCode, hit.serviceContext,
      hit.rateCurrency, hit.rateUnit, hit.sourceLocator, hit.embeddingModel,
      hit.embeddingInputSha256, hit.embeddingSha256].all given &&
    hit.rateAmount.isSome && hit.confidence.isSome && hit.effectiveFrom.isSome

variable [Normalization] [Sha256]

/-- Whether the hashes of an embedding are those of its input and of its values. -/
def integrityVerified (services : Services V D) (hit : ClauseVectorHit V) : Bool :=
  match clauseInputSha256
      { documentFamily := orElse hit.documentFamily "", equipment := orElse hit.equipmentType ""
        route := orElse hit.routeCode "", service := orElse hit.serviceContext ""
        clauseText := hit.clauseText } with
  | none => false
  | some expectedInputHash =>
    metadataComplete hit && hit.embeddingModel = some modelId &&
      hit.embeddingInputSha256 = some expectedInputHash && hit.embeddingSha256.isSome &&
      services.embeddingSha256 hit.embedding = hit.embeddingSha256

/-- The texts that a document has to have. -/
def requiredTexts (tenantId : String) (hit : ClauseVectorHit V) : List String :=
  [hit.clauseId, tenantId, hit.carrierId, orElse hit.documentFamily "missing-document-family",
    hit.snapshotId, orElse hit.sourceVersionId "missing-source-version", hit.sourceSha256,
    hit.clauseSha256, orElse hit.equipmentType "missing-equipment",
    orElse hit.routeCode "missing-route", orElse hit.serviceContext "missing-service",
    orElse hit.rateCurrency "missing-currency", orElse hit.rateUnit "missing-unit",
    hit.clauseText]

/-- `_document`, with the checks of the constructor. -/
def document (services : Services V D) (tenantId bucket : String) (hit : ClauseVectorHit V) :
    Except ReceiptError (ClauseDocument V) :=
  if hrequired : ∀ value ∈ requiredTexts tenantId hit, blank value = false then
    if hordered : ∀ last ∈ hit.effectiveTo, hit.effectiveFrom.getD dateMax ≤ last then
      (rateOf hit.rateAmount).map fun rate =>
        { clauseId := hit.clauseId
          tenantId
          carrierId := hit.carrierId
          documentFamily := orElse hit.documentFamily "missing-document-family"
          captureId := hit.snapshotId
          sourceVersionId := orElse hit.sourceVersionId "missing-source-version"
          sourceSha256 := hit.sourceSha256
          clauseSha256 := hit.clauseSha256
          effectiveFrom := hit.effectiveFrom.getD dateMax
          effectiveTo := hit.effectiveTo
          equipment := orElse hit.equipmentType "missing-equipment"
          route := orElse hit.routeCode "missing-route"
          service := orElse hit.serviceContext "missing-service"
          rateAmount := rate.val
          rateCurrency := orElse hit.rateCurrency "missing-currency"
          rateUnit := orElse hit.rateUnit "missing-unit"
          clauseText := hit.clauseText
          embedding := hit.embedding
          embeddingIntegrityVerified := integrityVerified services hit
          sourceBytes := (loadExact services bucket hit).map RetainedObject.body
          required := hrequired
          ordered := hordered
          nonnegative := rate.property }
    else .error .valueError
  else .error .valueError

/-- `_extraction`; metadata that is not complete is a `ValueError`. -/
def extractionOf (hit : ClauseVectorHit V) : Except ReceiptError TariffExtraction :=
  match hit.rateAmount, hit.confidence, hit.effectiveFrom with
  | some rateAmount, some confidence, some effectiveFrom =>
    if metadataComplete hit then
      .ok
        { rateAmount
          rateCurrency := orElse hit.rateCurrency ""
          rateUnit := orElse hit.rateUnit ""
          rateText := hit.clauseText
          effectiveFrom
          effectiveTo := hit.effectiveTo
          clauseText := hit.clauseText
          sourceLocator := orElse hit.sourceLocator hit.clauseRef
          confidence }
    else .error .valueError
  | _, _, _ => .error .valueError

end Documents

/-! ## Retrieval -/

section Retrieval

variable [PatternTables] [Normalization] [Sha256]

omit [Normalization] [Sha256] in
/-- `validate`: the texts that a request has to have, and a positive number of hits. -/
def validRequest (tenantId : String) (request : VectorReceiptRequest) : Bool :=
  [tenantId, request.carrierId, request.documentFamily, request.bucket, request.equipment,
    request.route, request.service, request.invoiceContext].all required && 0 < request.topK

/-- `_abstain_selected`. -/
def abstainSelected [DecidableEq D] (retrieval : RetrievalResult D) (reason : String) :
    RetrievalResult D :=
  match retrieval.selected with
  | none => retrieval
  | some selected =>
    let rejected := { selected with
      selected := false, rejectionReasons := selected.rejectionReasons ++ [reason] }
    ⟨retrieval.candidates.map fun item => if item = selected then rejected else item, none,
      [reason]⟩

variable [LinearOrder D]

/-- What `retrieve` does with the hits. The last hit of a clause is the one that is looked up. -/
def retrieveFrom (services : Services V D) (tenantId bucket : String)
    (request : RetrievalRequest V) (hits : List (ClauseVectorHit V)) :
    Except ReceiptError (VectorReceiptResult V D) := do
  let documents ← hits.mapM (document services tenantId bucket)
  let retrieval := retrieveBruteForce services.distance documents request
  match retrieval.selected with
  | none => pure ⟨retrieval, none, none, none, none⟩
  | some selected =>
    match hits.reverse.find? fun hit => hit.clauseId = selected.clauseId with
    | none => .error .valueError
    | some hit =>
      match hits.reverse.findSome? fun hit =>
          if hit.clauseId = selected.clauseId then loadExact services bucket hit else none with
      | none =>
        pure ⟨abstainSelected retrieval "exact_source_unavailable", none, none, none, none⟩
      | some source => do
        let extraction ← extractionOf hit
        let verification ← verifyTariffExtraction source.body extraction
        if !verification.eligible || verification.sourceSha256 ≠ hit.sourceSha256 ||
            verification.clauseSha256 ≠ hit.clauseSha256 then
          pure ⟨abstainSelected retrieval "tariff_verification_failed", none, none, none, none⟩
        else pure ⟨retrieval, some hit, some source, some extraction, some verification⟩

/-- `VectorReceiptPipeline.retrieve`. -/
def retrieve (services : Services V D) (tenantId : String) (request : VectorReceiptRequest) :
    Except ReceiptError (VectorReceiptResult V D) :=
  if validRequest tenantId request then
    match composeQueryEmbeddingInput ⟨request.documentFamily, request.equipment, request.route,
        request.service, request.invoiceContext⟩ with
    | none => .error .valueError
    | some queryInput =>
      let queryEmbedding := services.embed queryInput
      retrieveFrom services tenantId request.bucket
        { tenantId
          carrierId := request.carrierId
          documentFamily := request.documentFamily
          chargeDate := request.chargeDate
          equipment := request.equipment
          route := request.route
          service := request.service
          queryEmbedding }
        (services.search request.carrierId queryEmbedding request.topK)
  else .error .valueError

end Retrieval

end Pipeline

end Tally.Model.VectorReceiptPipeline
