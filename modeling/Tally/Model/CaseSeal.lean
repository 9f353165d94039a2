import Tally.Library.Transaction
import Tally.Library.ValueText
import Tally.Model.AuthoritySealRepository
import Tally.Model.CockroachMcp
import Tally.Model.ReceiptPipeline

/-!
# Sealing a case

The embedding of `platform/seal.py`: the validated evidence of a case, the manifest that is built
of it, the checks of a seal that is there already, and the transaction of `seal_case`. The tenant
is fixed; columns that nothing here reads are left out. A column of JSON gives back the value that
was written to it.
-/

set_option autoImplicit false

namespace Tally.Model.CaseSeal
open Library Library.Calendar Library.Sha256 Tally.Model
open Tally.Model.AuthoritySealRepository (prefixedSha256)
open Tally.Model.CockroachMcp (JsonDecoder LoadsError)
open Tally.Model.ReceiptPipeline (Literals)

/-! ## Errors -/

inductive SealError where
  /-- `CaseNotFoundError`. -/
  | caseNotFound (caseId : String)
  /-- `CaseNotSealableError`. -/
  | caseNotSealable (state : String)
  /-- `EmptyEvidenceError`. -/
  | emptyEvidence (caseId : String)
  /-- `EvidenceIntegrityError`. -/
  | evidenceIntegrity (message : String)
  /-- `SealedCaseIntegrityError`. -/
  | sealedCaseIntegrity (message : String)
  /-- `ApprovalRecordError`. -/
  | approvalRecord (message : String)
  | valueError (message : String)
  /-- What `json.loads` raises. -/
  | loads (error : LoadsError)
  | overflow
  /-- The database refuses a value. -/
  | dataError
deriving DecidableEq

/-! ## Texts and values -/

abbrev Mapping := List (String × Value)

/-- `mapping.get(key)`. -/
def get (members : Mapping) (key : String) : Value := (getMember members key).getD .null

/-- `canonical_json_bytes`. -/
def canonicalJsonBytes (value : Value) : Bytes := encode value.canonicalText

section Texts

variable [Interpreter] [Sha256] [JsonDecoder]

/-- `_timestamp_text` of a datetime; its offset is the last six characters, `+00:00`. -/
def timestampText (time : Instant) : String :=
  String.ofList (time.isoChars.take (time.isoChars.length - 6) ++ ['Z'])

/-- `_timestamp_text` of a text; a datetime whose UTC date is no date overflows. -/
def timestampTextOf (value : String) : Except SealError String :=
  let text := (stripText value.toList).flatMap fun c =>
    if c = 'Z' then "+00:00".toList else [c]
  match AwareDatetime.fromisoformat (String.ofList text) with
  | none => .error (.valueError "Invalid isoformat string")
  | some none => .error (.valueError "approval timestamp must include a timezone")
  | some (some parsed) =>
    if (Instant.date parsed.instant).isSome then .ok (timestampText parsed.instant)
    else .error .overflow

/-- `_evidence_hash`. -/
def evidenceHash (manifest : Mapping) : String :=
  prefixedSha256 (canonicalJsonBytes (.dict manifest))

/-- `_json_value`. -/
def jsonValue : Value → Except SealError Value
  | .str text =>
    match JsonDecoder.loads text.toList with
    | .ok value => .ok value
    | .error error => .error (.loads error)
  | value => .ok value

/-- `_content_hash`. -/
def contentHash (content : Mapping) : String := hexdigest (canonicalJsonBytes (.dict content))

/-- `_stored_content_hash_matches`. -/
def storedContentHashMatches (stored computed : String) : Bool :=
  stored = computed || stored = "sha256:" ++ computed

/-- `_RESERVED_MANIFEST_EVIDENCE_KEYS`, sorted. -/
def reservedManifestEvidenceKeys : List String :=
  ["content", "content_sha256", "evidence_id", "kind", "source_id", "source_table"]

/-- `_validated_evidence_content`. -/
def validatedEvidenceContent (content : Value) (contentSha256 : String) :
    Except SealError Mapping := do
  match ← jsonValue content with
  | .dict parsed =>
    let reserved := reservedManifestEvidenceKeys.filter fun key => key ∈ parsed.map Prod.fst
    if reserved ≠ [] then
      .error (.evidenceIntegrity
        ("case evidence content uses reserved manifest keys: " ++ ", ".intercalate reserved))
    else if storedContentHashMatches contentSha256 (contentHash parsed) then .ok parsed
    else .error (.evidenceIntegrity "case evidence canonical content hash mismatch")
  | _ => .error (.evidenceIntegrity "case evidence content must be a JSON object")

end Texts

/-! ## Tables -/

structure CaseRow where
  id : String
  invoiceId : String
  findingId : String
  carrierId : String
  state : String
  sealedTxnTs : Option String
  evidenceHash : Option String
  evidenceManifest : Option Value
  sealedBy : Option String
  sealedAtDisplay : Option Instant
  manifestVersion : Option Int

structure EvidenceRow where
  id : String
  caseId : String
  kind : String
  sourceTable : String
  sourceId : String
  content : Value
  contentSha256 : String
  sealed : Bool

structure FindingRow where
  id : String
  humanApprovalState : String

structure LedgerEvent where
  caseId : String
  carrierId : String
  kind : String
  details : Mapping

structure LogLine where
  sqlText : String
  actor : String

inductive SealTable where
  | cases | caseEvidence | findings | ledgerEvents | queryLog
deriving DecidableEq

@[reducible] def SealRow : SealTable → Type
  | .cases => CaseRow
  | .caseEvidence => EvidenceRow
  | .findings => FindingRow
  | .ledgerEvents => LedgerEvent
  | .queryLog => LogLine

abbrev SealDb := Store SealRow

abbrev SealTx := Txn SealDb SealError

/-- A row whose key the database mints. -/
def appendRow (t : SealTable) (row : SealRow t) : SealTx Unit :=
  .write fun db => db.modify t (· ++ [row])

def selectRows (t : SealTable) (selects : SealRow t → Bool) : SealTx (List (SealRow t)) :=
  .read fun db => (db t).filter selects

/-- A pure computation inside the transaction. -/
def orRefuse {α : Type} : Except SealError α → SealTx α
  | .ok a => pure a
  | .error error => .raise error

/-! ## The manifest -/

/-- What the loop of `_build_manifest` gathers. -/
structure Gathered where
  evidence : List Value
  recommendation : Value
  calculation : Value

def Gathered.empty : Gathered := ⟨[], .null, .null⟩

/-- The recommendation of one item, or of its calculation. -/
def recommendationOf (content : Mapping) : Value :=
  match get content "recommendation" with
  | .null =>
    match get content "calculation" with
    | .dict calculation => get calculation "recommendation"
    | _ => .null
  | recommendation => recommendation

/-- The calculation of one item. -/
def calculationOf (content : Mapping) : Value :=
  match get content "calculation" with
  | .dict calculation => .dict calculation
  | _ => .null

/-- The first value that is there. -/
def orElse (value next : Value) : Value :=
  match value with
  | .null => next
  | value => value

section Manifest

variable [Interpreter] [Sha256] [JsonDecoder]

/-- `flattened`; the content has none of the reserved keys. -/
def flattened (row : EvidenceRow) (content : Mapping) : Mapping :=
  content ++
    [("evidence_id", .str row.id),
      ("kind", .str row.kind),
      ("source_table", .str row.sourceTable),
      ("source_id", .str row.sourceId),
      ("content_sha256", .str (contentHash content)),
      ("content", .dict content)]

/-- The loop of `_build_manifest`. -/
def gather : Gathered → List EvidenceRow → Except SealError Gathered
  | gathered, [] => .ok gathered
  | gathered, row :: rows => do
    let content ← validatedEvidenceContent row.content row.contentSha256
    gather
      { evidence := gathered.evidence ++ [.dict (flattened row content)]
        recommendation := orElse gathered.recommendation (recommendationOf content)
        calculation := orElse gathered.calculation (calculationOf content) } rows

end Manifest

/-- The ids and the approval of a manifest. -/
structure ManifestHead where
  tenantId : String
  caseId : String
  invoiceId : String
  findingId : String
  approvedBy : String
  approvedAt : String

/-- `_build_manifest` of the evidence that was gathered. -/
def buildManifest (head : ManifestHead) (gathered : Gathered) : Mapping :=
  [("manifest_version", .int 1),
    ("case_id", .str head.caseId),
    ("tenant_id", .str head.tenantId),
    ("invoice_id", .str head.invoiceId),
    ("finding_id", .str head.findingId),
    ("evidence", .list gathered.evidence),
    ("calculation", gathered.calculation),
    ("recommendation", gathered.recommendation),
    ("approved_by", .str head.approvedBy),
    ("approved_at", .str head.approvedAt)]

/-! ## The seal that is there -/

/-- `value == 1`. -/
def isOne : Value → Bool
  | .int value => value = 1
  | .bool value => value
  | .float value => value.number = .finite 1
  | _ => false

/-- `re.fullmatch(r"sha256:[0-9a-f]{64}", text)`. -/
def isPrefixedSha256 (text : String) : Bool :=
  text.toList.take 7 = "sha256:".toList && (text.toList.drop 7).length = 64 &&
    (text.toList.drop 7).all fun c => ('0' ≤ c && c ≤ '9') || ('a' ≤ c && c ≤ 'f')

/-- `len(value)` of a list. -/
def itemCount : Value → Nat
  | .list items => items.length
  | _ => 0

def integrityError {α : Type} (message : String) : Except SealError α :=
  .error (.sealedCaseIntegrity message)

section ExistingSeal

variable [Interpreter] [Sha256] [JsonDecoder]

/-- The manifest of a case, if it is there and a mapping. -/
def storedManifest : Option Value → Except SealError Mapping
  | some (.dict (member :: members)) => .ok (member :: members)
  | some (.str text) =>
    if text = "" then integrityError "sealed case has no evidence manifest"
    else do
      match ← jsonValue (.str text) with
      | .dict members => .ok members
      | _ => integrityError "sealed case has no evidence manifest"
  | _ => integrityError "sealed case has no evidence manifest"

/-- `_validate_existing_seal` of a case that is filed. -/
def validateExistingSeal (tenantId caseId : String) (row : CaseRow)
    (evidenceRows : List EvidenceRow) (approvalState : Option String) :
    Except SealError (Mapping × String × String × Instant × String) := do
  let manifest ← storedManifest row.evidenceManifest
  if evidenceRows = [] ∨ evidenceRows.all EvidenceRow.sealed = false then
    integrityError "sealed case has missing or unsealed evidence"
  else
    match row.sealedTxnTs, row.sealedBy, row.sealedAtDisplay with
    | some sealedTxnTs, some sealedBy, some sealedAtDisplay =>
      if row.manifestVersion ≠ some 1 ∨ isOne (get manifest "manifest_version") = false then
        integrityError "sealed case has an unsupported manifest version"
      else if approvalState ≠ some "APPROVED" then
        integrityError "sealed case has no recorded human approval"
      else do
        let gathered ← gather .empty evidenceRows
        let expected := buildManifest
          { tenantId, caseId
            invoiceId := row.invoiceId
            findingId := row.findingId
            approvedBy := sealedBy
            approvedAt := timestampText sealedAtDisplay } gathered
        if canonicalJsonBytes (.dict manifest) ≠ canonicalJsonBytes (.dict expected) then
          integrityError "sealed manifest does not match stored evidence"
        else
          match row.evidenceHash with
          | some stored =>
            if isPrefixedSha256 stored = false ∨ stored ≠ evidenceHash manifest then
              integrityError "sealed manifest hash is invalid"
            else .ok (manifest, sealedTxnTs, sealedBy, sealedAtDisplay, stored)
          | none => integrityError "sealed manifest hash is invalid"
    | _, _, _ => integrityError "sealed case has incomplete seal metadata"

end ExistingSeal

/-! ## The seal transaction -/

/-- The arguments of `seal_case`, and the tenant of its database. -/
structure SealCall where
  tenantId : String
  actor : String
  caseId : String
  sealedByUserId : String
  sealedAtDisplay : String

/-- The answer of `seal_case`. -/
structure SealResult where
  alreadySealed : Bool
  state : String
  sealedTxnTs : String
  evidenceHash : String
  evidenceCount : Nat
  evidenceManifest : Mapping
  sealedBy : String
  sealedAtDisplay : String
  manifestVersion : Int
  commitLine : Option String

/-- `BLOCKED_SEAL_STATES`. -/
def blockedSealStates : List String := ["CONTESTED", "RESOLVED"]

/-- `IDEMPOTENT_SEALED_STATES`. -/
def idempotentSealedStates : List String := ["FILED"]

/-- `FRESH_SEALABLE_STATES`. -/
def freshSealableStates : List String := ["ANALYZED"]

/-- `fetchone` of the case under its primary key. -/
def caseOf (db : SealDb) (caseId : String) : Option CaseRow :=
  (db .cases).find? fun row => row.id = caseId

/-- `ORDER BY id`. -/
def orderById (rows : List EvidenceRow) : List EvidenceRow :=
  rows.insertionSort fun a b => a.id ≤ b.id

section Transaction

variable [Interpreter] [Sha256] [JsonDecoder] [Literals]

/-- A case that is filed already. -/
def approveAgain (call : SealCall) (caseId : String) (row : CaseRow) : SealTx SealResult := do
  let evidenceRows ← selectRows .caseEvidence fun e => e.caseId = caseId
  let approvals ← selectRows .findings fun f => f.id = row.findingId
  let (manifest, sealedTxnTs, sealedBy, sealedAtDisplay, stored) ←
    orRefuse (validateExistingSeal call.tenantId call.caseId row (orderById evidenceRows)
      (approvals.head?.map FindingRow.humanApprovalState))
  appendRow .queryLog ⟨"already sealed · txn " ++ sealedTxnTs, call.actor⟩
  pure
    { alreadySealed := true
      state := row.state
      sealedTxnTs
      evidenceHash := stored
      evidenceCount := itemCount (get manifest "evidence")
      evidenceManifest := manifest
      sealedBy
      sealedAtDisplay := timestampText sealedAtDisplay
      manifestVersion := 1
      commitLine := none }

/-- A case that is not filed yet; `txnTs` is `cluster_logical_timestamp()`. -/
def sealFresh (txnTs : String) (call : SealCall) (caseId approvedAt : String) (row : CaseRow) :
    SealTx SealResult := do
  let selected ← selectRows .caseEvidence fun e => e.caseId = caseId
  let evidenceRows := orderById selected
  if evidenceRows = [] then .raise (.emptyEvidence call.caseId)
  else if evidenceRows.any EvidenceRow.sealed then
    .raise (.evidenceIntegrity "unsealed case contains sealed evidence")
  else do
    let gathered ← orRefuse (gather .empty evidenceRows)
    let manifest := buildManifest
      { tenantId := call.tenantId
        caseId := call.caseId
        invoiceId := row.invoiceId
        findingId := row.findingId
        approvedBy := call.sealedByUserId
        approvedAt } gathered
    Schema.update .caseEvidence (fun e => e.caseId = caseId) fun e => { e with sealed := true }
    let sealedBy ← .orRaise .dataError (Literals.uuid call.sealedByUserId)
    let sealedAtDisplay ← .orRaise .dataError (Literals.timestamp approvedAt)
    -- the number that is none has a text, but no column of JSON holds it
    .onlyIf (Value.finiteNumbers (.dict manifest) = false) (.raise .dataError)
    Schema.update .cases (fun c => c.id = caseId) fun c =>
      { c with
        state := "FILED"
        sealedAtDisplay := some sealedAtDisplay
        sealedTxnTs := some txnTs
        sealedBy := some sealedBy
        evidenceHash := some (evidenceHash manifest)
        manifestVersion := some 1
        evidenceManifest := some (.dict manifest) }
    Schema.update .findings (fun f => f.id = row.findingId) fun f =>
      { f with humanApprovalState := "APPROVED" }
    let approvals ← selectRows .findings fun f => f.id = row.findingId
    .onlyIf (approvals.length ≠ 1)
      (.raise (.approvalRecord "seal must update exactly one finding approval"))
    appendRow .ledgerEvents
      { caseId
        carrierId := row.carrierId
        kind := "FILED"
        details :=
          [("approved_by", .str sealedBy),
            ("approved_at", .str (timestampText sealedAtDisplay)),
            ("recommendation", gathered.recommendation),
            ("evidence_hash", .str (evidenceHash manifest))] }
    appendRow .queryLog
      ⟨"APPROVE & FILE · case " ++ call.caseId ++ " · by " ++ call.actor ++ " · txn " ++ txnTs,
        call.actor⟩
    pure
      { alreadySealed := false
        state := "FILED"
        sealedTxnTs := txnTs
        evidenceHash := evidenceHash manifest
        evidenceCount := evidenceRows.length
        evidenceManifest := manifest
        sealedBy
        sealedAtDisplay := timestampText sealedAtDisplay
        manifestVersion := 1
        commitLine := some ("1 finding · " ++ Nat.repr evidenceRows.length ++
          " evidence rows · 1 draft — single transaction") }

/-- `seal_case`. -/
def sealCase (txnTs : String) (call : SealCall) : SealTx SealResult := do
  let approvedAt ← orRefuse (timestampTextOf call.sealedAtDisplay)
  let caseId ← .orRaise .dataError (Literals.uuid call.caseId)
  let found ← .read fun db => caseOf db caseId
  match found with
  | none => .raise (.caseNotFound call.caseId)
  | some row =>
    if row.state ∈ blockedSealStates then .raise (.caseNotSealable row.state)
    else if row.state ∈ idempotentSealedStates then approveAgain call caseId row
    else if row.state ∈ freshSealableStates then sealFresh txnTs call caseId approvedAt row
    else .raise (.caseNotSealable row.state)

end Transaction

/-! ## Runs -/

/-- The unique indexes, as far as the columns are here. -/
def sealConflicts : (t : SealTable) → SealRow t → SealRow t → Bool
  | .cases, a, b => a.id = b.id ∨ a.invoiceId = b.invoiceId
  | .caseEvidence, a, b => a.id = b.id
  | .findings, a, b => a.id = b.id
  | .ledgerEvents, _, _ => false
  | .queryLog, _, _ => false

/-- The foreign key `ev_case_fk`. -/
def sealReferences : (t : SealTable) → SealDb → SealRow t → Bool
  | .caseEvidence, db, row => (db .cases).any fun c => c.id = row.caseId
  | .cases, _, _ => true
  | .findings, _, _ => true
  | .ledgerEvents, _, _ => true
  | .queryLog, _, _ => true

@[reducible] def sealSchema : Schema SealRow := ⟨sealConflicts, sealReferences⟩

def insertRow (t : SealTable) (row : SealRow t) : SealTx Unit :=
  sealSchema.insert (fun _ => SealError.dataError) t row

/-- A piece of evidence of a case that is committed. -/
structure CommittedEvidence where
  id : String
  kind : String
  sourceTable : String
  sourceId : String
  content : Value
  contentSha256 : String

/-- What `file_case` of `platform/clerk_pipeline.py` commits. -/
structure CaseCommit where
  caseId : String
  invoiceId : String
  findingId : String
  carrierId : String
  evidence : List CommittedEvidence
  actor : String

/-- The rows `file_case` inserts. -/
def commitCase (commit : CaseCommit) : SealTx Unit := do
  insertRow .findings ⟨commit.findingId, "NOT_PRESSED"⟩
  insertRow .cases
    { id := commit.caseId
      invoiceId := commit.invoiceId
      findingId := commit.findingId
      carrierId := commit.carrierId
      state := "ANALYZED"
      sealedTxnTs := none
      evidenceHash := none
      evidenceManifest := none
      sealedBy := none
      sealedAtDisplay := none
      manifestVersion := none }
  .forEach (fun _ (item : CommittedEvidence) => insertRow .caseEvidence
    { id := item.id
      caseId := commit.caseId
      kind := item.kind
      sourceTable := item.sourceTable
      sourceId := item.sourceId
      content := item.content
      contentSha256 := item.contentSha256
      sealed := false }) 0 commit.evidence
  appendRow .queryLog
    ⟨"COMMIT (finding + evidence + case) · case " ++ commit.caseId, commit.actor⟩

/-- The update of a case by `record_later_contest` of `platform/contest_workflow.py`, behind its
checks. -/
def contestCase (caseId actor : String) : SealTx Unit := do
  Schema.update .cases (fun c => c.id = caseId ∧ c.state = "FILED") fun c =>
    { c with state := "CONTESTED" }
  appendRow .queryLog ⟨"COMMIT (contest input + case state transition)", actor⟩

/-- One call of the program. -/
inductive SealStep where
  | commitCase (commit : CaseCommit)
  | sealCase (txnTs : String) (call : SealCall)
  | contestCase (caseId actor : String)

section Runs

variable [Interpreter] [Sha256] [JsonDecoder] [Literals]

/-- What a call leaves. -/
def step (db : SealDb) : SealStep → SealDb
  | .commitCase commit => (commitCase commit).commit db
  | .sealCase txnTs call => (sealCase txnTs call).commit db
  | .contestCase caseId actor => (contestCase caseId actor).commit db

def run (steps : List SealStep) (db : SealDb) : SealDb := steps.foldl step db

end Runs

/-- Empty tables. -/
def noRows : SealDb
  | .cases => []
  | .caseEvidence => []
  | .findings => []
  | .ledgerEvents => []
  | .queryLog => []

/-! ## The receipt of a case -/

/-- The check `case` of `verify_sealed_receipt` in `core/receipt_verifier.py`: the manifest names
the case under the text that is asked for. -/
def namesCase (manifest : Mapping) (expectedCaseId : String) : Bool :=
  match get manifest "case_id" with
  | .str text => text = expectedCaseId
  | _ => false

end Tally.Model.CaseSeal
