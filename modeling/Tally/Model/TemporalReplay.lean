import Tally.Model.SealedMemory

/-!
# Temporal replay

The embedding of `core/temporal_replay.py` and of `replay_case` of `platform/temporal_replay.py`:
the rows of a case as they were when it was sealed and as they are now, each set validated on its
own, and the comparison of the two. A row is what the query selects; the helpers that read it are
those of the sealed memory, under another class of error. Whether the readback of the retention
passes is an input, and the query lines of the response are left out.
-/

set_option autoImplicit false

namespace Tally.Model.TemporalReplay
open Library Library.Sha256 Tally.Model
open Tally.Model.Applicability (Decimal)
open Tally.Model.CaseSeal (EvidenceRow Mapping contentHash evidenceHash get)
open Tally.Model.CockroachMcp (JsonDecoder equalsInt)
open Tally.Model.ContestWorkflow (decimalOf)
open Tally.Model.EvidenceBindings (replayBinding sameJson)
open Tally.Model.SealedMemory

/-! ## Rows -/

/-- The columns of the clause and of its snapshot. -/
structure TariffColumns where
  clauseId : String
  tariffRate : Option String
  snapshotId : String
  clauseSha256 : String
  snapshotSourceSha256 : String
  versionLabel : String

/-- A row of the query; a clause is joined to the evidence whose source is the table of clauses. -/
structure ReplayRow where
  tenantId : String
  caseId : String
  caseState : String
  sealedTxnTs : Option String
  evidenceHash : Option String
  evidenceManifest : Value
  manifestVersion : Option Int
  evidence : Option EvidenceRow
  tariff : Option TariffColumns
  joined : tariff.isSome → ∃ e, evidence = some e ∧ e.sourceTable = "tariff_clauses"

/-- A column that may be null. -/
def column : Option String → Value
  | some text => .str text
  | none => .null

/-- A column of the evidence. -/
def ReplayRow.ofEvidence (row : ReplayRow) (select : EvidenceRow → String) : Value :=
  column (row.evidence.map select)

/-- A column of the clause or its snapshot. -/
def ReplayRow.ofTariff (row : ReplayRow) (select : TariffColumns → Option String) : Value :=
  column (row.tariff.bind select)

/-- The fields in which all rows agree. -/
def caseFields (row : ReplayRow) : List (String × Value) :=
  [("tenant_id", .str row.tenantId), ("case_id", .str row.caseId),
    ("case_state", .str row.caseState), ("sealed_txn_ts", column row.sealedTxnTs),
    ("evidence_hash", column row.evidenceHash), ("evidence_manifest", row.evidenceManifest),
    ("manifest_version", (row.manifestVersion.map Value.int).getD .null)]

/-! ## Values -/

/-- `text.removeprefix("sha256:")`. -/
def bareHash (text : String) : String :=
  if "sha256:".toList <+: text.toList then String.ofList (text.toList.drop 7) else text

/-- `HLC_LITERAL_RE`. -/
def hlcPattern (text : List Char) : Bool :=
  let whole := text.takeWhile Char.isDigit
  match text.dropWhile Char.isDigit with
  | '.' :: digits =>
    digits.length = 10 && digits.all Char.isDigit &&
      (whole = ['0'] || (whole.head?.any (· ≠ '0') && whole.length ≤ 19))
  | _ => false

section Validation

variable [Interpreter] [Sha256] [JsonDecoder]

/-- `canonical_hlc_literal`; a text of the pattern is a finite number. -/
def canonicalHlcLiteral (value : Value) : Except MemoryError String := do
  require (hlcPattern value.text.toList) "sealed_txn_ts is not a canonical HLC"
  require (value.text.toList.any fun c => c.isDigit && c ≠ '0')
    "sealed_txn_ts must be positive and finite"
  .ok value.text

/-- `_decimal`. -/
def decimal (value : Value) (field : String) : Except MemoryError Decimal :=
  match decimalOf value.text with
  | none => .error (.validation (field ++ " must be decimal"))
  | some (.finite negative coefficient exponent) => .ok (.finite negative coefficient exponent)
  | some _ => .error (.validation (field ++ " must be finite"))

/-- `SHA256_RE`. -/
def sha256Pattern (text : String) : Bool :=
  text.length = 64 && text.toList.all fun c => c.isDigit || ('a' ≤ c && c ≤ 'f')

/-- `_sha256`. -/
def sha256 (value : Value) (field : String) : Except MemoryError String := do
  let text ← requiredText value field
  require (sha256Pattern (bareHash text)) (field ++ " must be a SHA-256")
  .ok (bareHash text)

/-! ## The rows one by one -/

/-- What the loop has seen; the rows of tariff clauses stand with their contents. -/
structure Walk where
  returned : List String
  intact : Bool
  candidates : List (ReplayRow × Mapping)

/-- The comparison of the fields of the case with those of the first row. -/
def checkCaseFields (first row : ReplayRow) : Except MemoryError Unit :=
  match ((caseFields row).zip (caseFields first)).find? fun p => !sameJson p.1.2 p.2.2 with
  | some p => .error (.validation ("inconsistent case field: " ++ p.1.1))
  | none => .ok ()

/-- `row_binding_intact`. -/
def rowIntact (row : ReplayRow) (item : Mapping) : Bool :=
  row.evidence.any fun e => replayBinding e item

/-- `row.get("source_table") == "tariff_clauses"`. -/
def citesTariff (row : ReplayRow) : Bool :=
  row.evidence.any fun e => e.sourceTable = "tariff_clauses"

/-- The value of the column `content`. -/
def evidenceContent (row : ReplayRow) : Value :=
  match row.evidence with
  | some e => e.content
  | none => .null

def walkRow (first : ReplayRow) (items : ManifestItems) (walk : Walk) (row : ReplayRow) :
    Except MemoryError Walk := do
  checkCaseFields first row
  let evidenceId ← canonicalUuid (row.ofEvidence (·.id)) "evidence_id"
  require (evidenceId ∉ walk.returned) "duplicate returned evidence ID"
  let item ← itemOf items evidenceId
  let content ← mapping (evidenceContent row) "evidence_content"
  .ok { returned := walk.returned ++ [evidenceId]
        intact := walk.intact && rowIntact row item
        candidates := walk.candidates ++ if citesTariff row then [(row, content)] else [] }

/-- The loop over the rows. -/
def walkRows (first : ReplayRow) (items : ManifestItems) :
    Walk → List ReplayRow → Except MemoryError Walk
  | walk, [] => .ok walk
  | walk, row :: rows => do
    let next ← walkRow first items walk row
    walkRows first items next rows

/-! ## The view of a set of rows -/

structure TemporalReplayView where
  tenantId : String
  caseId : String
  state : String
  sealedTxnTs : String
  tariffRate : Decimal
  versionLabel : String
  storedEvidenceHash : String
  recomputedEvidenceHash : String
  sealedRate : Decimal
  sealedContentSha256 : String
  clauseSha256 : String
  sourceSha256 : String
  currentBindingsIntact : Bool

/-- What the checks before the loop find. -/
structure Head where
  tenantId : String
  caseId : String
  state : String
  sealedTxnTs : String
  manifest : Mapping
  storedEvidenceHash : String
  items : ManifestItems

/-- What a set of rows is validated for. -/
structure Request where
  tenantId : String
  caseId : String
  expectedHlc : Option String
  historical : Bool

/-- The case is the one that is asked for, and it is sealed. -/
def checkCase (request : Request) (first : ReplayRow) :
    Except MemoryError (String × String × String) := do
  let tenantId ← canonicalUuid (.str first.tenantId) "tenant_id"
  let caseId ← canonicalUuid (.str first.caseId) "case_id"
  let expectedTenant ← canonicalUuid (.str request.tenantId) "expected_tenant_id"
  require (tenantId = expectedTenant) "returned tenant does not match trusted context"
  let expectedCase ← canonicalUuid (.str request.caseId) "expected_case_id"
  require (caseId = expectedCase) "returned case does not match request"
  let state ← requiredText (.str first.caseState) "case_state"
  require (state ∈ sealedCaseStates) "case has no filed seal"
  require (!(request.historical && state ≠ "FILED")) "seal-time case state is not FILED"
  .ok (tenantId, caseId, state)

/-- The anchor of the seal is the one that is expected. -/
def checkAnchor (request : Request) (first : ReplayRow) : Except MemoryError String := do
  let sealedTxnTs ← canonicalHlcLiteral (column first.sealedTxnTs)
  match request.expectedHlc with
  | none => .ok sealedTxnTs
  | some expected =>
    let expected ← canonicalHlcLiteral (.str expected)
    require (sealedTxnTs = expected) "historical HLC does not match current seal anchor"
    .ok sealedTxnTs

/-- The checks before the loop. -/
def checkHead (request : Request) (first : ReplayRow) : Except MemoryError Head := do
  let (tenantId, caseId, state) ← checkCase request first
  let sealedTxnTs ← checkAnchor request first
  require (first.manifestVersion = some 1) "unsupported manifest version"
  let manifest ← mapping first.evidenceManifest "evidence_manifest"
  require (equalsInt 1 (get manifest "manifest_version")) "manifest version mismatch"
  let manifestTenant ← canonicalUuid (get manifest "tenant_id") "manifest tenant_id"
  require (manifestTenant = tenantId) "manifest tenant mismatch"
  let manifestCase ← canonicalUuid (get manifest "case_id") "manifest case_id"
  require (manifestCase = caseId) "manifest case mismatch"
  let stored ← requiredText (column first.evidenceHash) "evidence_hash"
  let values ← evidenceList manifest
  let items ← indexItems [] values
  .ok { tenantId := tenantId
        caseId := caseId
        state := state
        sealedTxnTs := sealedTxnTs
        manifest := manifest
        storedEvidenceHash := stored
        items := items }

/-- The one row of a tariff clause. -/
def tariffCandidate (candidates : List (ReplayRow × Mapping)) :
    Except MemoryError (ReplayRow × Mapping) :=
  match candidates with
  | [candidate] => .ok candidate
  | _ => .error (.validation "replay requires exactly one tariff evidence row")

/-- What is read of the row of the clause; the last item says whether its bindings are intact. -/
structure TariffView where
  tariffRate : Decimal
  sealedRate : Decimal
  versionLabel : String
  clauseSha256 : String
  sourceSha256 : String
  intact : Bool

def readTariff (row : ReplayRow) (content : Mapping) : Except MemoryError TariffView := do
  let sourceId ← canonicalUuid (row.ofEvidence (·.sourceId)) "source_id"
  let clauseId ← canonicalUuid (row.ofTariff fun t => some t.clauseId) "clause_id"
  let snapshotId ← canonicalUuid (row.ofTariff fun t => some t.snapshotId) "snapshot_id"
  let contentClauseId ← canonicalUuid (get content "clause_id") "content clause_id"
  let contentCaptureId ← canonicalUuid (get content "capture_id") "content capture_id"
  let tariffRate ← decimal (row.ofTariff (·.tariffRate)) "tariff_rate"
  let sealedRate ← decimal (get content "rate_amount") "sealed rate"
  let versionLabel ← requiredText (row.ofTariff fun t => some t.versionLabel) "version_label"
  let clauseSha256 ← sha256 (row.ofTariff fun t => some t.clauseSha256) "clause_sha256"
  let sourceSha256 ←
    sha256 (row.ofTariff fun t => some t.snapshotSourceSha256) "snapshot_source_sha256"
  let sealedClauseSha256 ← sha256 (get content "clause_sha256") "sealed clause_sha256"
  let sealedSourceSha256 ← sha256 (get content "source_sha256") "sealed source_sha256"
  .ok { tariffRate := tariffRate
        sealedRate := sealedRate
        versionLabel := versionLabel
        clauseSha256 := clauseSha256
        sourceSha256 := sourceSha256
        intact := sourceId = clauseId && clauseId = contentClauseId &&
          snapshotId = contentCaptureId && Receipt.equal tariffRate sealedRate &&
          clauseSha256 = sealedClauseSha256 && sourceSha256 = sealedSourceSha256 }

/-- `validate_replay_rows`. -/
def validateReplayRows (request : Request) (rows : List ReplayRow) :
    Except MemoryError TemporalReplayView :=
  match rows with
  | [] => .error (.validation "replay query returned no case")
  | first :: _ => do
    let head ← checkHead request first
    let recomputed := evidenceHash head.manifest
    let walk ← walkRows first head.items
      { returned := [], intact := head.storedEvidenceHash = recomputed, candidates := [] } rows
    require (sameIds walk.returned head.items) "returned evidence set does not match manifest"
    let (tariffRow, tariffContent) ← tariffCandidate walk.candidates
    let tariff ← readTariff tariffRow tariffContent
    require (!(request.historical && !(walk.intact && tariff.intact)))
      "seal-time evidence bindings are invalid"
    .ok { tenantId := head.tenantId
          caseId := head.caseId
          state := head.state
          sealedTxnTs := head.sealedTxnTs
          tariffRate := tariff.tariffRate
          versionLabel := tariff.versionLabel
          storedEvidenceHash := head.storedEvidenceHash
          recomputedEvidenceHash := recomputed
          sealedRate := tariff.sealedRate
          sealedContentSha256 := "sha256:" ++ contentHash tariffContent
          clauseSha256 := tariff.clauseSha256
          sourceSha256 := tariff.sourceSha256
          currentBindingsIntact := walk.intact && tariff.intact }

end Validation

/-! ## The response -/

/-- The facts of the response; the rates are not yet floating point numbers. -/
structure ReplayResponse where
  asOf : String
  thenState : String
  thenTariffRate : Decimal
  thenVersionLabel : String
  evidenceHash : String
  nowState : String
  nowTariffRate : Decimal
  nowVersionLabel : String
  evidenceHashRecomputed : String
  tamperCheckMatch : Bool
  sealedCopyRate : Decimal
  sealedCopyContentSha256 : String

/-- `match`. -/
def viewsMatch (historical current : TemporalReplayView) : Bool :=
  current.currentBindingsIntact &&
    Receipt.equal historical.tariffRate current.tariffRate &&
    Receipt.equal current.tariffRate current.sealedRate &&
    historical.versionLabel = current.versionLabel &&
    historical.storedEvidenceHash = current.recomputedEvidenceHash &&
    historical.sealedContentSha256 = current.sealedContentSha256 &&
    historical.clauseSha256 = current.clauseSha256 &&
    historical.sourceSha256 = current.sourceSha256

/-- `build_replay_response`. -/
def buildReplayResponse (historical current : TemporalReplayView) :
    Except MemoryError ReplayResponse := do
  require (historical.tenantId = current.tenantId && historical.caseId = current.caseId)
    "current and historical case identity mismatch"
  require (historical.sealedTxnTs = current.sealedTxnTs)
    "current and historical seal HLC mismatch"
  .ok { asOf := historical.sealedTxnTs
        thenState := historical.state
        thenTariffRate := historical.tariffRate
        thenVersionLabel := historical.versionLabel
        evidenceHash := historical.storedEvidenceHash
        nowState := current.state
        nowTariffRate := current.tariffRate
        nowVersionLabel := current.versionLabel
        evidenceHashRecomputed := current.recomputedEvidenceHash
        tamperCheckMatch := viewsMatch historical current
        sealedCopyRate := current.sealedRate
        sealedCopyContentSha256 := current.sealedContentSha256 }

/-! ## The replay of a case -/

inductive ReplayError where
  /-- `ReplayNotFoundError`. -/
  | notFound (caseId : String)
  /-- `ReplayNotSealedError`. -/
  | notSealed (caseId : String)
  /-- `ReplayUnavailableError`. -/
  | unavailable (message : String)
deriving DecidableEq

section Replay

variable [Interpreter] [Sha256] [JsonDecoder]

/-- A failure of a step is hidden behind one error. -/
def orUnavailable {α : Type} (message : String) : Except MemoryError α → Except ReplayError α
  | .ok a => .ok a
  | .error _ => .error (.unavailable message)

/-- `replay_case`, with what the two queries return and whether the retention is configured. -/
def replayCase (tenantId caseId : String) (currentRows historicalRows : List ReplayRow)
    (retained : Bool) : Except ReplayError ReplayResponse :=
  match currentRows with
  | [] => .error (.notFound caseId)
  | first :: _ => do
    if first.caseState ∉ sealedCaseStates || first.sealedTxnTs.isNone then
      .error (.notSealed caseId)
    else
      let sealHlc ← orUnavailable "current sealed receipt is invalid"
        (canonicalHlcLiteral (column first.sealedTxnTs))
      let current ← orUnavailable "current sealed receipt is invalid"
        (validateReplayRows ⟨tenantId, caseId, some sealHlc, false⟩ currentRows)
      if retained then
        let historical ← orUnavailable "exact historical replay failed"
          (validateReplayRows ⟨tenantId, caseId, some sealHlc, true⟩ historicalRows)
        orUnavailable "exact historical replay failed" (buildReplayResponse historical current)
      else .error (.unavailable "history retention is not configured for 90 days")

end Replay

end Tally.Model.TemporalReplay
