import Tally.Library.Deletion
import Tally.Model.Schema

/-!
# The demo restore

The embedding of `platform/demo_restore.py`: the derived rows of the hero invoice are deleted,
children first, and its reconstruction, days, rule, recommendation and timeline are written anew.
The tables here have every column the restore writes; of the tables it only deletes from, the rows
are those of the schema. The embedding of a clause is left out.
-/

set_option autoImplicit false

namespace Tally.Model.DemoRestore
open Library Library.Calendar Tally.Model

/-! ## Rows -/

structure Reconstruction where
  id : Uuid
  invoiceId : Uuid
  version : Nat
  taskId : Uuid
  inputFingerprint : String
  claimSetVersion : Nat
  knowledgeCutoffAt : Instant
  effectiveTimezone : String
  state : ReconstructionState
  eventCount : Nat
  daysTotal : Nat
  daysComplete : Nat
  publicSummary : String
deriving DecidableEq

structure SourceArtifact where
  id : Uuid
  invoiceId : Uuid
  publicRef : String
  sourceType : String
  displayName : String
  mimeType : String
  provenanceClassification : String
  publicDisclosure : String
  adapterName : String
  s3BucketRefPrivate : String
  s3ObjectKeyPrivate : String
  s3VersionIdPrivate : String
  sha256 : String
  byteLength : Nat
  verificationState : String
  recordedAt : Instant
  verifiedAt : Option Instant
deriving DecidableEq

structure TimelineEvent where
  id : Uuid
  reconstructionId : Uuid
  invoiceId : Uuid
  publicRef : String
  eventType : ShipmentEventType
  shipmentRef : String
  containerRef : String
  sourceArtifactId : Uuid
  sourceVersionRefPrivate : String
  sourceAnchorPrivate : List (String × String)
  displayAnchorPublic : String
  provenanceClassification : String
  occurredAt : Instant
  recordedAt : Instant
  receivedAt : Instant
  recordedBeforeCutoff : Bool
  normalizedFacts : List (String × String)
  useState : String
  verificationState : String
  displaySequence : Nat
deriving DecidableEq

structure Coverage where
  reconstructionId : Uuid
  invoiceId : Uuid
  requirementCode : CoverageRequirement
deriving DecidableEq

structure ChargedDay where
  id : Uuid
  reconstructionId : Uuid
  invoiceId : Uuid
  chargeDate : Date
  invoiceClaimField : String
  chargeability : Chargeability
  coverageState : CoverageState
  state : ChargedDayState
  invoiceRateMinor : Int
  applicableRateMinor : Option Int
  currency : String
  outcome : DayOutcome
  disputeAmountMinor : Option Int
  missingRequirements : List MissingRequirement
deriving DecidableEq

structure RetrievalRun where
  id : Uuid
  invoiceId : Uuid
  reconstructionId : Uuid
  queryFingerprint : String
  queryTextPrivate : String
  vectorIndexName : String
  embeddingModel : String
  embeddingInputSha256 : String
  state : String
  candidateCount : Nat
  completedAt : Option Instant
deriving DecidableEq

structure TariffSnapshot where
  id : Uuid
  carrierId : Uuid
  lane : String
  versionLabel : String
  effectiveDate : Date
  capturedAt : Instant
  sourceUrl : String
  s3Key : String
  docSha256 : String
  docText : String
  headlineRateMinor : Option Int
  sourceVersionId : Option String
deriving DecidableEq

structure TariffClause where
  id : Uuid
  carrierId : Uuid
  snapshotId : Uuid
  clauseRef : String
  clauseKind : String
  clauseText : String
  rateAmountMinor : Option Int
  sha256 : String
deriving DecidableEq

structure ApplicableRule where
  id : Uuid
  invoiceId : Uuid
  reconstructionId : Uuid
  retrievalRunId : Uuid
  tariffClauseId : Uuid
  publicRef : String
  clauseRef : String
  displayExcerpt : String
  rateMinor : Int
  currency : String
  unit : String
  effectiveFrom : Date
  effectiveTo : Option Date
  scopeCode : String
  sourceLocatorPrivate : String
  sourceVersionState : SourceVersionState
  validationState : String
deriving DecidableEq

structure RecommendationRow where
  id : Uuid
  invoiceId : Uuid
  reconstructionId : Uuid
  applicableRuleId : Option Uuid
  version : Nat
  inputFingerprint : String
  recommendationType : RecommendationType
  disputedAmountMinor : Int
  supportedAmountMinor : Int
  claimedAmountMinor : Int
  currency : String
  daysTotal : Nat
  daysCovered : Nat
  evidenceCoverage : String
  state : String
  digest : String
  publicSummary : String
  supersededBy : Option Uuid
deriving DecidableEq

structure DayJudgmentRow where
  id : Uuid
  invoiceId : Uuid
  reconstructionId : Uuid
  recommendationId : Uuid
  chargedDayId : Uuid
  chargeDate : Date
  invoiceRateMinor : Int
  applicableRateMinor : Option Int
  discrepancyMinor : Int
  currency : String
  outcome : DayOutcome
  coverageState : CoverageState
  applicableRuleId : Option Uuid
  explanation : String
deriving DecidableEq

/-! ## Tables -/

inductive DemoTable where
  | invoices | workflowTasks | reconstructions | sourceArtifacts | reconstructionEvents
  | reconstructionCoverage | chargedDays | dayEventBindings | ruleRetrievalRuns | ruleCandidates
  | tariffSnapshots | tariffClauses | applicableRules | chargedDayRuleBindings | recommendations
  | chargedDayJudgments | approvals | decisionSeals | correspondenceDrafts | sendAttempts
  | sendGateRuns
deriving DecidableEq

def DemoTable.all : List DemoTable :=
  [.invoices, .workflowTasks, .reconstructions, .sourceArtifacts, .reconstructionEvents,
    .reconstructionCoverage, .chargedDays, .dayEventBindings, .ruleRetrievalRuns, .ruleCandidates,
    .tariffSnapshots, .tariffClauses, .applicableRules, .chargedDayRuleBindings, .recommendations,
    .chargedDayJudgments, .approvals, .decisionSeals, .correspondenceDrafts, .sendAttempts,
    .sendGateRuns]

@[reducible] def DemoRow : DemoTable → Type
  | .invoices => Invoice
  | .workflowTasks => WorkflowTask
  | .reconstructions => Reconstruction
  | .sourceArtifacts => SourceArtifact
  | .reconstructionEvents => TimelineEvent
  | .reconstructionCoverage => Coverage
  | .chargedDays => ChargedDay
  | .dayEventBindings => ReconstructionDayEventBinding
  | .ruleRetrievalRuns => RetrievalRun
  | .ruleCandidates => RuleCandidateRow
  | .tariffSnapshots => TariffSnapshot
  | .tariffClauses => TariffClause
  | .applicableRules => ApplicableRule
  | .chargedDayRuleBindings => ChargedDayRuleBinding
  | .recommendations => RecommendationRow
  | .chargedDayJudgments => DayJudgmentRow
  | .approvals => Approval
  | .decisionSeals => DecisionSeal
  | .correspondenceDrafts => CorrespondenceDraft
  | .sendAttempts => SendAttempt
  | .sendGateRuns => SendGateRun

abbrev DemoDb := Store DemoRow

def DemoDb.empty : DemoDb := fun t => by cases t <;> exact []

/-- The unique indexes. -/
def demoConflicts : (t : DemoTable) → DemoRow t → DemoRow t → Bool
  | .invoices, a, b => conflicts .invoices a b
  | .workflowTasks, a, b => conflicts .workflowTasks a b
  | .reconstructions, a, b => a.id = b.id ∨ (a.invoiceId = b.invoiceId ∧
      (a.version = b.version ∨ a.inputFingerprint = b.inputFingerprint))
  | .sourceArtifacts, a, b => a.id = b.id ∨ a.publicRef = b.publicRef ∨
      (a.s3ObjectKeyPrivate = b.s3ObjectKeyPrivate ∧ a.s3VersionIdPrivate = b.s3VersionIdPrivate)
  | .reconstructionEvents, a, b => a.id = b.id ∨
      (a.reconstructionId = b.reconstructionId ∧ a.publicRef = b.publicRef)
  | .reconstructionCoverage, a, b => a.reconstructionId = b.reconstructionId ∧
      a.requirementCode = b.requirementCode
  | .chargedDays, a, b => a.id = b.id ∨
      (a.reconstructionId = b.reconstructionId ∧ a.chargeDate = b.chargeDate)
  | .dayEventBindings, a, b => conflicts .dayEventBindings a b
  | .ruleRetrievalRuns, a, b => a.id = b.id ∨ (a.reconstructionId = b.reconstructionId ∧
      a.queryFingerprint = b.queryFingerprint)
  | .ruleCandidates, a, b => conflicts .ruleCandidates a b
  | .tariffSnapshots, a, b => a.id = b.id ∨
      (a.carrierId = b.carrierId ∧ a.lane = b.lane ∧ a.capturedAt = b.capturedAt)
  | .tariffClauses, a, b => a.id = b.id ∨ (a.snapshotId = b.snapshotId ∧ a.sha256 = b.sha256)
  | .applicableRules, a, b => a.id = b.id ∨ a.reconstructionId = b.reconstructionId
  | .chargedDayRuleBindings, a, b => conflicts .chargedDayRuleBindings a b
  | .recommendations, a, b => a.id = b.id ∨ (a.reconstructionId = b.reconstructionId ∧
      (a.version = b.version ∨ a.inputFingerprint = b.inputFingerprint))
  | .chargedDayJudgments, a, b => a.id = b.id ∨
      (a.recommendationId = b.recommendationId ∧ a.chargeDate = b.chargeDate)
  | .approvals, a, b => conflicts .approvals a b
  | .decisionSeals, a, b => conflicts .decisionSeals a b
  | .correspondenceDrafts, a, b => conflicts .correspondenceDrafts a b
  | .sendAttempts, a, b => conflicts .sendAttempts a b
  | .sendGateRuns, a, b => conflicts .sendGateRuns a b

def holdsInvoice (db : DemoDb) (id : Uuid) : Bool := (db .invoices).any fun r => r.id = id
def holdsReconstruction (db : DemoDb) (id : Uuid) : Bool :=
  (db .reconstructions).any fun r => r.id = id
def holdsDay (db : DemoDb) (id : Uuid) : Bool := (db .chargedDays).any fun r => r.id = id

/-- The foreign keys between these tables. -/
def demoReferences : (t : DemoTable) → DemoDb → DemoRow t → Bool
  | .invoices, _, _ => true
  | .workflowTasks, db, r => holdsInvoice db r.invoiceId
  | .reconstructions, db, r => holdsInvoice db r.invoiceId ∧
      (db .workflowTasks).any fun w => w.id = r.taskId
  | .sourceArtifacts, db, r => holdsInvoice db r.invoiceId
  | .reconstructionEvents, db, r => holdsReconstruction db r.reconstructionId ∧
      (db .sourceArtifacts).any fun a => a.id = r.sourceArtifactId
  | .reconstructionCoverage, db, r => holdsReconstruction db r.reconstructionId
  | .chargedDays, db, r => holdsReconstruction db r.reconstructionId
  | .dayEventBindings, db, r => holdsDay db r.chargedDayId ∧
      (db .reconstructionEvents).any fun e => e.id = r.reconstructionEventId
  | .ruleRetrievalRuns, db, r => holdsReconstruction db r.reconstructionId
  | .ruleCandidates, db, r => (db .ruleRetrievalRuns).any fun x => x.id = r.retrievalRunId
  | .tariffSnapshots, _, _ => true
  | .tariffClauses, db, r => (db .tariffSnapshots).any fun s => s.id = r.snapshotId
  | .applicableRules, db, r => holdsReconstruction db r.reconstructionId ∧
      ((db .ruleRetrievalRuns).any fun x => x.id = r.retrievalRunId) ∧
      (db .tariffClauses).any fun c => c.id = r.tariffClauseId
  | .chargedDayRuleBindings, db, r => holdsDay db r.chargedDayId ∧
      (db .applicableRules).any fun x => x.id = r.applicableRuleId
  | .recommendations, db, r => holdsReconstruction db r.reconstructionId
  | .chargedDayJudgments, db, r => holdsReconstruction db r.reconstructionId ∧
      holdsDay db r.chargedDayId
  | .approvals, db, r => (db .recommendations).any fun x => x.id = r.recommendationId
  | .decisionSeals, db, r => ((db .recommendations).any fun x => x.id = r.recommendationId) ∧
      (db .approvals).any fun a => a.id = r.approvalId
  | .correspondenceDrafts, db, r => (db .decisionSeals).any fun s => s.id = r.decisionSealId
  | .sendAttempts, db, r => (db .correspondenceDrafts).any fun d => d.id = r.draftId
  | .sendGateRuns, db, r => (db .sendAttempts).any fun a => a.id = r.sendAttemptId

@[reducible] def demoSchema : Schema DemoRow := ⟨demoConflicts, demoReferences⟩

/-! ## Statements -/

/-- What the restore may raise. -/
inductive RestoreError where
  | integrityError (violation : Violation)
  | systemExit (message : String)
  | assertionError
  | pyError (error : PyError)
deriving DecidableEq

abbrev RestoreTx := Txn DemoDb RestoreError

def insertRow (t : DemoTable) (row : DemoRow t) : RestoreTx Unit :=
  demoSchema.insert RestoreError.integrityError t row

def deleteRows (t : DemoTable) (selects : DemoRow t → Bool) : RestoreTx Unit :=
  demoSchema.delete RestoreError.integrityError DemoTable.all t selects

def updateRows (t : DemoTable) (selects : DemoRow t → Bool) (change : DemoRow t → DemoRow t) :
    RestoreTx Unit :=
  Schema.update t selects change

def selectRows (t : DemoTable) (selects : DemoRow t → Bool) : RestoreTx (List (DemoRow t)) :=
  .read fun db => (db t).filter selects

/-- A pure computation inside the transaction. -/
def orRefuse {α : Type} : Except RestoreError α → RestoreTx α
  | .ok a => pure a
  | .error error => .raise error

/-- `uuid4().hex`. -/
def uuidHex (id : Uuid) : String := String.ofList (Words.hexPad 32 id.toNat)

/-! ## The scenario -/

theorem firstOfJune_valid : (1 ≤ 2026 ∧ 2026 ≤ 9999) ∧ (1 ≤ 6 ∧ 6 ≤ 12) ∧
    1 ≤ 1 ∧ 1 ≤ daysInMonth 2026 6 := by
  decide

/-- `date(2026, 6, 1)`. -/
def firstOfJune : Date := ⟨2026, 6, 1, firstOfJune_valid⟩

/-- A time of day in June 2026, in UTC. -/
def june (day hour minute : Nat) : Instant :=
  ((firstOfJune.toOrdinal + (day - 1)) * dayMicros + (hour * 60 + minute) * 60 * 1000000 : Nat)

/-- `HERO_DISPLAY_NAME`. -/
def heroDisplayName : String := "INV-1048.pdf"

/-- `CUTOFF`. -/
def cutoff : Instant := june 22 8 0

/-- `CHARGE_DATES`. -/
def chargeDates : List Date := (List.range 7).filterMap fun i => Date.ofYmd 2026 6 (8 + i)

/-- `INVOICE_RATE_MINOR`. -/
def invoiceRateMinor : Int := 35000

/-- `APPLICABLE_RATE_MINOR`. -/
def applicableRateMinor : Int := 25000

/-- `HERO_SHIPMENT_REF`. -/
def heroShipmentRef : String := "TLLU4829317"

/-- `HERO_CONTAINER_REF`. -/
def heroContainerRef : String := "TLLU4829317"

structure HeroEvent where
  publicRef : String
  eventType : ShipmentEventType
  occurredAt : Instant
  recordedAt : Instant
  anchor : String
  sourceRef : String

/-- `HERO_EVENTS`. -/
def heroEvents : List HeroEvent :=
  [⟨"SE-INV1048-001", .discharged, june 2 14 12, june 2 15 0,
      "milestone row: DISCHARGED 2026-06-02", "SRC-MILESTONE-INV-1048"⟩,
    ⟨"SE-INV1048-002", .available, june 3 8 0, june 3 9 0,
      "availability notice: AVAILABLE 2026-06-03", "SRC-AVAILABILITY-INV-1048"⟩,
    ⟨"SE-INV1048-003", .freeTimeStart, june 3 8 0, june 3 9 0,
      "free-time clock start: 2026-06-03", "SRC-AVAILABILITY-INV-1048"⟩,
    ⟨"SE-INV1048-004", .freeTimeEnd, june 7 23 59, june 8 1 0,
      "free-time clock end: 2026-06-07", "SRC-AVAILABILITY-INV-1048"⟩,
    ⟨"SE-INV1048-005", .gateOut, june 14 16 30, june 14 17 0,
      "milestone row: GATE_OUT 2026-06-14", "SRC-MILESTONE-INV-1048"⟩]

structure HeroArtifact where
  publicRef : String
  sourceType : String
  displayName : String
  adapterName : String

/-- `HERO_SOURCE_ARTIFACTS`. -/
def heroSourceArtifacts : List HeroArtifact :=
  [⟨"SRC-MILESTONE-INV-1048", "MILESTONE_EXPORT", "Container milestone export (representative)",
      "representative-milestone"⟩,
    ⟨"SRC-AVAILABILITY-INV-1048", "AVAILABILITY_NOTICE",
      "Terminal availability notice (representative)", "representative-availability"⟩]

/-! ## Clearing -/

/-- `_clear_derived`. -/
def clearDerived (invoiceId : Uuid) : RestoreTx Unit := do
  let attempts ← selectRows .sendAttempts fun a => a.invoiceId = invoiceId
  deleteRows .sendGateRuns fun r => attempts.any fun a => a.id = r.sendAttemptId
  deleteRows .sendAttempts fun r => r.invoiceId = invoiceId
  deleteRows .correspondenceDrafts fun r => r.invoiceId = invoiceId
  deleteRows .decisionSeals fun r => r.invoiceId = invoiceId
  deleteRows .approvals fun r => r.invoiceId = invoiceId
  deleteRows .chargedDayJudgments fun r => r.invoiceId = invoiceId
  let rules ← selectRows .applicableRules fun r => r.invoiceId = invoiceId
  deleteRows .chargedDayRuleBindings fun r => rules.any fun rule => rule.id = r.applicableRuleId
  deleteRows .applicableRules fun r => r.invoiceId = invoiceId
  let runs ← selectRows .ruleRetrievalRuns fun r => r.invoiceId = invoiceId
  deleteRows .ruleCandidates fun r => runs.any fun run => run.id = r.retrievalRunId
  deleteRows .ruleRetrievalRuns fun r => r.invoiceId = invoiceId
  deleteRows .recommendations fun r => r.invoiceId = invoiceId
  let days ← selectRows .chargedDays fun r => r.invoiceId = invoiceId
  deleteRows .dayEventBindings fun r => days.any fun day => day.id = r.chargedDayId
  deleteRows .reconstructionEvents fun r => r.invoiceId = invoiceId
  deleteRows .sourceArtifacts fun r => r.invoiceId = invoiceId
  deleteRows .reconstructionCoverage fun r => r.invoiceId = invoiceId
  deleteRows .chargedDays fun r => r.invoiceId = invoiceId
  deleteRows .reconstructions fun r => r.invoiceId = invoiceId

/-! ## Seeding -/

/-- `INSERT INTO reconstruction_source_artifacts ... ON CONFLICT .. DO NOTHING`. -/
def seedArtifact (env : TxnEnv) (invoiceId : Uuid) (i : Nat) (artifact : HeroArtifact) :
    RestoreTx Unit :=
  demoSchema.insertOrIgnore RestoreError.integrityError .sourceArtifacts
    (fun a b => a.publicRef = b.publicRef)
    { id := env.uuid (28 + 2 * i)
      invoiceId
      publicRef := artifact.publicRef
      sourceType := artifact.sourceType
      displayName := artifact.displayName
      mimeType := "application/json"
      provenanceClassification := "DEMO_SCENARIO"
      publicDisclosure := "Representative demonstration data"
      adapterName := artifact.adapterName
      s3BucketRefPrivate := "representative-demo-bucket"
      s3ObjectKeyPrivate := "representative/" ++ artifact.publicRef
      s3VersionIdPrivate := "representative-v1"
      sha256 := uuidHex (env.uuid (29 + 2 * i))
      byteLength := 0
      verificationState := "VERIFIED"
      recordedAt := cutoff
      verifiedAt := some cutoff }

/-- `INSERT INTO reconstruction_events ... SELECT`: one row for every artifact of the name. -/
def seedEvent (env : TxnEnv) (invoiceId reconId : Uuid) (seq : Nat) (event : HeroEvent) :
    RestoreTx Unit := do
  let artifacts ← selectRows .sourceArtifacts fun a => a.publicRef = event.sourceRef
  .forEach (fun _ (artifact : SourceArtifact) => insertRow .reconstructionEvents
    { id := env.uuid (32 + seq)
      reconstructionId := reconId
      invoiceId
      publicRef := event.publicRef
      eventType := event.eventType
      shipmentRef := heroShipmentRef
      containerRef := heroContainerRef
      sourceArtifactId := artifact.id
      sourceVersionRefPrivate := artifact.s3VersionIdPrivate
      sourceAnchorPrivate := [("anchor", event.anchor)]
      displayAnchorPublic := event.anchor
      provenanceClassification := "DEMO_SCENARIO"
      occurredAt := event.occurredAt
      recordedAt := event.recordedAt
      receivedAt := event.recordedAt
      recordedBeforeCutoff := true
      normalizedFacts := []
      useState := "USED"
      verificationState := "VERIFIED"
      displaySequence := seq }) 0 artifacts

/-- `_seed_events`. -/
def seedEvents (env : TxnEnv) (invoiceId reconId : Uuid) : RestoreTx Unit := do
  .forEach (seedArtifact env invoiceId) 0 heroSourceArtifacts
  .forEach (seedEvent env invoiceId reconId) 0 heroEvents

/-- One charged day of the seed. -/
def seedDay (env : TxnEnv) (invoiceId reconId : Uuid) (i : Nat) (chargeDate : Date) :
    RestoreTx Unit :=
  insertRow .chargedDays
    { id := env.uuid (6 + i)
      reconstructionId := reconId
      invoiceId
      chargeDate
      invoiceClaimField := "daily_rate"
      chargeability := .chargeable
      coverageState := .presentVerified
      state := .sourceComplete
      invoiceRateMinor := invoiceRateMinor
      applicableRateMinor := some applicableRateMinor
      currency := "USD"
      outcome := .rateDiscrepancy
      disputeAmountMinor := some (invoiceRateMinor - applicableRateMinor)
      missingRequirements := [] }

/-- The judgment of one seeded day. -/
def seedJudgment (env : TxnEnv) (invoiceId reconId recId ruleId : Uuid) (i : Nat)
    (day : Date × DayJudgment) : RestoreTx Unit :=
  insertRow .chargedDayJudgments
    { id := env.uuid (21 + i)
      invoiceId
      reconstructionId := reconId
      recommendationId := recId
      chargedDayId := env.uuid (6 + i)
      chargeDate := day.1
      invoiceRateMinor := day.2.invoiceRateMinor
      applicableRateMinor := day.2.applicableRateMinor
      discrepancyMinor := day.2.discrepancyMinor
      currency := "USD"
      outcome := day.2.outcome
      coverageState := .presentVerified
      applicableRuleId := some ruleId
      explanation := day.2.explanation }

/-- The judgment inputs of the seeded days. -/
def seedInputs : List DayInput :=
  chargeDates.map fun chargeDate =>
    { chargeDate
      invoiceRateMinor := invoiceRateMinor
      applicableRateMinor := some applicableRateMinor
      currency := "USD"
      coverageState := .presentVerified
      chargeable := true }

/-- `resolve_recommendation` of the seeded days, and the assertions behind it. -/
def seedRecommendation [Sha256] : Except RestoreError Recommendation :=
  match resolveRecommendation seedInputs with
  | .error error => .error (.pyError error)
  | .ok resolved =>
    if resolved.recommendationType = .dispute ∧ resolved.disputedAmountMinor = 70000 then
      .ok resolved
    else .error .assertionError

/-- `_seed_dispute`. The random values are numbered in the order of the calls of `uuid4`. -/
def seedDispute [Sha256] (env : TxnEnv) (invoiceId carrierId : Uuid) : RestoreTx Unit := do
  let reconId := env.uuid 0
  let ruleId := env.uuid 1
  let recId := env.uuid 2
  let taskId := env.uuid 3
  insertRow .workflowTasks
    { id := taskId
      invoiceId
      taskType := .judgeDays
      taskVersion := 1
      state := .completed
      initiatedBy := none
      actorDisplay := "w"
      knowledgeCutoffAt := cutoff
      inputFingerprint := uuidHex (env.uuid 4)
      inputObjectRefs := []
      currentAttempt := 1
      createdAt := env.now }
  insertRow .reconstructions
    { id := reconId
      invoiceId
      version := 1
      taskId
      inputFingerprint := uuidHex (env.uuid 5)
      claimSetVersion := 1
      knowledgeCutoffAt := cutoff
      effectiveTimezone := "America/Los_Angeles"
      state := .complete
      eventCount := 5
      daysTotal := chargeDates.length
      daysComplete := chargeDates.length
      publicSummary := "ok" }
  .forEach (seedDay env invoiceId reconId) 0 chargeDates
  insertRow .ruleRetrievalRuns
    { id := env.uuid 13
      invoiceId
      reconstructionId := reconId
      queryFingerprint := uuidHex (env.uuid 14)
      queryTextPrivate := "q"
      vectorIndexName := "idx"
      embeddingModel := "model"
      embeddingInputSha256 := uuidHex (env.uuid 15)
      state := "COMPLETED"
      candidateCount := 1
      completedAt := some env.now }
  let runs ← selectRows .ruleRetrievalRuns fun r => r.reconstructionId = reconId
  -- `cur.fetchone()[0]`
  let run ← .orRaise (.pyError .typeError) (fetchOne env runs)
  insertRow .tariffSnapshots
    { id := env.uuid 16
      carrierId
      lane := "USOAK"
      versionLabel := "v1"
      effectiveDate := firstOfJune
      capturedAt := env.now
      sourceUrl := "https://rep.example/t1048"
      s3Key := "rep/t1048"
      docSha256 := uuidHex (env.uuid 18)
      docText := "rep"
      headlineRateMinor := some 25000
      sourceVersionId := some "v1" }
  insertRow .tariffClauses
    { id := env.uuid 17
      carrierId
      snapshotId := env.uuid 16
      clauseRef := "Clause 4.2"
      clauseKind := "rate"
      clauseText := "Demurrage $250 per calendar day"
      rateAmountMinor := some 25000
      sha256 := uuidHex (env.uuid 19) }
  insertRow .applicableRules
    { id := ruleId
      invoiceId
      reconstructionId := reconId
      retrievalRunId := run.id
      tariffClauseId := env.uuid 17
      publicRef := "RULE-1048"
      clauseRef := "Clause 4.2"
      displayExcerpt := "Demurrage $250/day"
      rateMinor := applicableRateMinor
      currency := "USD"
      unit := "CALENDAR_DAY"
      effectiveFrom := firstOfJune
      effectiveTo := none
      scopeCode := "DEMURRAGE:USOAK:DRY"
      sourceLocatorPrivate := "s3://p"
      sourceVersionState := .verified
      validationState := "VERIFIED" }
  let resolved ← orRefuse seedRecommendation
  insertRow .recommendations
    { id := recId
      invoiceId
      reconstructionId := reconId
      applicableRuleId := some ruleId
      version := 1
      inputFingerprint := uuidHex (env.uuid 20)
      recommendationType := resolved.recommendationType
      disputedAmountMinor := resolved.disputedAmountMinor
      supportedAmountMinor := resolved.supportedAmountMinor
      claimedAmountMinor := resolved.claimedAmountMinor
      currency := "USD"
      daysTotal := chargeDates.length
      daysCovered := chargeDates.length
      evidenceCoverage := Nat.repr chargeDates.length ++ " of " ++ Nat.repr chargeDates.length ++
        " days"
      state := "FROZEN"
      digest := resolved.digest
      publicSummary := resolved.summary
      supersededBy := none }
  .forEach (seedJudgment env invoiceId reconId recId ruleId) 0 (chargeDates.zip resolved.judgments)
  seedEvents env invoiceId reconId

/-! ## The restore -/

/-- What `restore_hero` reads back. -/
structure Restored where
  invoiceId : Uuid
  aggregateStatus : InvoiceStatus
  recommendation : Option (RecommendationType × String × Int)
  eventCount : Nat
deriving DecidableEq

/-- `_hero_invoice`. -/
def heroInvoice (env : TxnEnv) (tenantId : String) : RestoreTx (Uuid × Uuid) := do
  let rows ← selectRows .invoices fun r => r.displayName = heroDisplayName
  let row ← .orRaise (.systemExit (heroDisplayName ++ " not found for tenant " ++ tenantId))
    (fetchOne env rows)
  pure (row.id, row.carrierId)

/-- `restore_hero`. -/
def restoreHero [Sha256] (tenantId : String) (env : TxnEnv) : RestoreTx Restored := do
  let (invoiceId, carrierId) ← heroInvoice env tenantId
  clearDerived invoiceId
  seedDispute env invoiceId carrierId
  updateRows .workflowTasks
    (fun w => w.invoiceId = invoiceId ∧ w.taskType = .startReconstruction) fun w =>
    { w with state := .completed, leaseOwner := none, leaseExpiresAt := none, notBefore := none }
  updateRows .invoices (fun r => r.id = invoiceId) fun r =>
    { r with status := .readyForReview, aggregateStatus := .readyForReview }
  let invoices ← selectRows .invoices fun r => r.id = invoiceId
  let invoice ← .orRaise (.pyError .typeError) (fetchOne env invoices)
  let recommendations ← selectRows .recommendations fun r =>
    r.invoiceId = invoiceId ∧ r.supersededBy = none
  let events ← selectRows .reconstructionEvents fun r => r.invoiceId = invoiceId
  pure
    { invoiceId
      aggregateStatus := invoice.aggregateStatus
      recommendation := (fetchOne env recommendations).map fun r =>
        (r.recommendationType, r.state, r.disputedAmountMinor)
      eventCount := events.length }

end Tally.Model.DemoRestore
