import Tally.Model.CorrespondenceRepository
import Tally.Model.IntakeEvents

/-!
# The platform as a state machine

The calls of the workers, the routes, the relay and the streams, each one
serializable transaction or one read, over the database and what is in flight:
the leases handed out, the inputs and packs read, the selections of the send
route, the messages the provider delivered, the streams. A restarted transaction
changes no table; a restarted send keeps what the provider delivered.
-/

set_option autoImplicit false

namespace Tally.Model
open Library Library.Calendar IntakeRepository IntakeTasks ReconstructionRepository
  ApplicableRuleRepository JudgmentRepository AccessEvidenceRepository AuthoritySealRepository
  CorrespondenceRepository IntakeEvents

/-- A lease as its claim returned it. -/
inductive Lease where
  | extraction (lease : ExtractionTaskLease)
  | reconstruction (lease : ReconstructionTaskLease)
  | rule (lease : RuleTaskLease)
  | judgment (lease : JudgmentTaskLease)
  | access (lease : AccessEvidenceLease)
deriving DecidableEq

def Lease.key : Lease → LeaseKey
  | .extraction lease => lease.toLeaseKey
  | .reconstruction lease => lease.toLeaseKey
  | .rule lease => lease.toLeaseKey
  | .judgment lease => lease.toLeaseKey
  | .access lease => lease.toLeaseKey

/-- What the send route has selected before its transaction runs. -/
structure SendSelection where
  invoiceId : Uuid
  decisionSealId : Option Uuid
  request : SendRequest
deriving DecidableEq

/-- A message the provider delivered, with the send it came from. -/
structure SentMessage where
  draftId : Uuid
  idempotencyKey : String
  delivery : Delivery
deriving DecidableEq

/-- A completed task, and the claim set its completion wrote. -/
structure CompletedTask where
  key : LeaseKey
  claimSetId : Option Uuid := none
deriving DecidableEq

structure World where
  db : Db
  leases : List Lease := []
  dayInputs : List (JudgmentTaskLease × List DayInput) := []
  packs : List SealedFactPack := []
  selections : List SendSelection := []
  sent : List SentMessage := []
  streams : List Stream := []
  completed : List CompletedTask := []

def World.initial : World := { db := Db.empty }

/-- Whether a run of a send closure ends committed, or is aborted after it has
run: a serialization restart or a crash. -/
inductive Fate where
  | committed | aborted
deriving DecidableEq

inductive Call where
  -- receipt
  | reserveIngestion (idempotencyKey requestHash : String)
  | recordSourceStored (idempotencyKey requestHash : String) (source : StoredInvoiceSource)
  | completeDuplicateIngestion (idempotencyKey requestHash : String) (invoiceId sourceId : Uuid)
      (sourceSha256 : String) (responseSnapshot : ReceiptSnapshot)
  | finalizeReceivedInvoice (command : FinalizeReceipt)
  -- retained memory
  | retainSnapshot (row : ShipmentEventMemory)
  | retainArtifact (row : ReconstructionSourceArtifact)
  -- extraction
  | claimExtraction (workerId : String) (leaseSeconds : Nat)
  | completeExtraction (lease : ExtractionTaskLease) (validation : ClaimValidation)
  | failExtraction (lease : ExtractionTaskLease) (errorCode : String) (retryable : Bool)
  | retryExtraction (invoiceId : Uuid) (idempotencyKey : String) (expectedRowVersion : Nat)
      (initiatedBy : Option Uuid) (actorDisplay : String)
  -- reconstruction
  | claimReconstruction (workerId : String) (leaseSeconds : Nat)
  | completeReconstruction (lease : ReconstructionTaskLease) (rows : List RawEventRow)
  | failReconstruction (lease : ReconstructionTaskLease) (errorCode : String) (retryable : Bool)
  -- applicable rule
  | claimRule (workerId : String) (leaseSeconds : Nat)
  | completeRule (lease : RuleTaskLease) (queryFingerprint : String)
      (candidates : List RuleCandidate) (decision : ApplicabilityDecision)
  | failRule (lease : RuleTaskLease) (errorCode : String) (retryable : Bool)
  -- judgment
  | claimJudgment (workerId : String) (leaseSeconds : Nat)
  | loadDayInputs (lease : JudgmentTaskLease)
  | completeJudgment (lease : JudgmentTaskLease) (days : List DayInput)
  | failJudgment (lease : JudgmentTaskLease)
  -- access evidence
  | claimAccessEvidence (workerId : String) (leaseSeconds : Nat)
  | completeAccessBinding (lease : AccessEvidenceLease)
  | releaseAccessEvidence (invoiceId : Uuid)
  -- seal, draft and send
  | approveAndSeal (request : ApprovalRequest)
  | loadSealedFactPack (decisionSealId : Uuid)
  | draftFromSealed (pack : SealedFactPack) (bodyProse : String)
  | selectSend (invoiceId : Uuid) (idempotencyKey secondApproverDisplay : String)
  | sendSelected (selection : SendSelection) (fail : Bool) (fate : Fate)
  | approveAndSend (request : SendRequest) (gateChecks : List (Gate × GateCheck)) (fail : Bool)
      (fate : Fate)
  -- events
  | relayOutboxBatch (limit : Nat)
  | connect (lastEventId : Option Uuid)
  | reconnect (stream : Nat)
  | poll (stream : Nat) (taken : Nat)

namespace World

/-- A transaction: its result goes into the world it commits, or nothing does. -/
def commit {α : Type} (w : World) (m : Tx α) (record : α → World → World) :
    World × Option Raised :=
  match m w.db with
  | .ok (a, db) => (record a { w with db }, none)
  | .error e => (w, some e)

def addLease {α : Type} (wrap : α → Lease) (lease : Option α) (w : World) : World :=
  { w with leases := w.leases ++ (lease.map wrap).toList }

def addCompleted (key : LeaseKey) (claimSetId : Option Uuid) (w : World) : World :=
  { w with completed := w.completed ++ [⟨key, claimSetId⟩] }

/-- A call with a lease that no claim has handed out is no call. -/
def withLease (w : World) (lease : Lease) (call : World × Option Raised) :
    World × Option Raised :=
  if lease ∈ w.leases then call else (w, none)

/-- One run of a send closure. -/
def send [Sha256] (w : World) (env : TxnEnv) (request : SendRequest)
    (checks : List (Gate × GateCheck)) (fail : Bool) (fate : Fate) : World × Option Raised :=
  let delivered := w.sent.map SentMessage.delivery
  let (outcome, delivered') := runSend env request checks fail w.db delivered
  let w := { w with sent := w.sent ++ (delivered'.drop delivered.length).map fun d =>
    ⟨request.draftId, request.idempotencyKey, d⟩ }
  match outcome, fate with
  | .ok (_, db), .committed => ({ w with db }, none)
  | .ok _, .aborted => (w, none)
  | .error e, _ => (w, some e)

def updateStream (w : World) (i : Nat) (f : Stream → Except PyError Stream) :
    World × Option Raised :=
  match w.streams[i]? with
  | none => (w, none)
  | some s => match f s with
    | .ok s' => ({ w with streams := w.streams.set i s' }, none)
    | .error e => (w, some (.pyError e))

section Step

variable [Sha256] [TzDatabase] [CharacterTables]

/-- One call, with the error it raises. -/
def call (w : World) (env : TxnEnv) : Call → World × Option Raised
  | .reserveIngestion key hash => w.commit (reserveIngestion env key hash) fun _ => id
  | .recordSourceStored key hash source =>
    w.commit (recordSourceStored key hash source) fun _ => id
  | .completeDuplicateIngestion key hash invoiceId sourceId sha256 snapshot =>
    w.commit (completeDuplicateIngestion key hash invoiceId sourceId sha256 snapshot) fun _ => id
  | .finalizeReceivedInvoice command =>
    w.commit (finalizeReceivedInvoice env command) fun _ => id
  | .retainSnapshot row => w.commit (insertRow .shipmentEventMemory row) fun _ => id
  | .retainArtifact row => w.commit (insertRow .sourceArtifacts row) fun _ => id
  | .claimExtraction workerId leaseSeconds =>
    w.commit (claimNextExtractionTask env workerId leaseSeconds) (addLease .extraction)
  | .completeExtraction lease validation => w.withLease (.extraction lease)
      (w.commit (completeExtraction env lease validation) fun r =>
        addCompleted lease.toLeaseKey (some r.claimSetId))
  | .failExtraction lease errorCode retryable => w.withLease (.extraction lease)
      (w.commit (failExtraction env lease errorCode retryable) fun _ => id)
  | .retryExtraction invoiceId key expectedRowVersion initiatedBy actorDisplay =>
    w.commit (retryExtractionTask env invoiceId key expectedRowVersion initiatedBy actorDisplay)
      fun _ => id
  | .claimReconstruction workerId leaseSeconds =>
    w.commit (claimNextReconstructionTask env workerId leaseSeconds) (addLease .reconstruction)
  | .completeReconstruction lease rows => w.withLease (.reconstruction lease)
      (match reconstructionWork lease rows with
        | .ok work => w.commit (completeReconstruction env lease work) fun _ =>
            addCompleted lease.toLeaseKey none
        | .error e => (w, some (.pyError e)))
  | .failReconstruction lease errorCode retryable => w.withLease (.reconstruction lease)
      (w.commit (failReconstruction env lease errorCode retryable) fun _ => id)
  | .claimRule workerId leaseSeconds =>
    w.commit (claimNextRuleTask env workerId leaseSeconds) (addLease .rule)
  | .completeRule lease fingerprint candidates decision => w.withLease (.rule lease)
      (w.commit (completeRule env lease fingerprint candidates decision) fun _ =>
        addCompleted lease.toLeaseKey none)
  | .failRule lease errorCode retryable => w.withLease (.rule lease)
      (w.commit (failRule env lease errorCode retryable) fun _ => id)
  | .claimJudgment workerId leaseSeconds =>
    w.commit (claimNextJudgmentTask env workerId leaseSeconds) (addLease .judgment)
  | .loadDayInputs lease => w.withLease (.judgment lease)
      (w.commit (loadDayInputs lease.reconstructionId) fun days w =>
        { w with dayInputs := w.dayInputs ++ [(lease, days)] })
  -- `run_one_judgment_task` fails a task without charged days
  | .completeJudgment lease days =>
    if (lease, days) ∈ w.dayInputs ∧ days ≠ [] then
      w.withLease (.judgment lease) (w.commit (completeJudgment env lease days) fun _ =>
        addCompleted lease.toLeaseKey none)
    else (w, none)
  | .failJudgment lease => w.withLease (.judgment lease)
      (w.commit (failJudgment env lease) fun _ => id)
  | .claimAccessEvidence workerId leaseSeconds =>
    w.commit (claimNextAccessEvidenceTask env workerId leaseSeconds) (addLease .access)
  | .completeAccessBinding lease => w.withLease (.access lease)
      (w.commit (completeAccessBinding env lease) fun _ => addCompleted lease.toLeaseKey none)
  | .releaseAccessEvidence invoiceId => w.commit (releaseAccessEvidence invoiceId) fun _ => id
  | .approveAndSeal request => w.commit (approveAndSeal env request) fun _ => id
  | .loadSealedFactPack sealId => w.commit (loadSealedFactPack env sealId) fun pack w =>
      { w with packs := w.packs ++ [pack] }
  | .draftFromSealed pack bodyProse =>
    if pack ∈ w.packs then w.commit (draftFromSealed env pack bodyProse) fun _ => id
    else (w, none)
  | .selectSend invoiceId key approver =>
    match latestDraftId w.db invoiceId with
    | none => (w, some (.draftNotFound "DRAFT_NOT_FOUND"))
    | some draftId => ({ w with selections := w.selections ++
        [⟨invoiceId, latestDecisionSealId w.db invoiceId, ⟨draftId, key, approver⟩⟩] }, none)
  | .sendSelected selection fail fate =>
    if selection ∈ w.selections then
      w.send env selection.request
        (buildFreshGateChecks env selection.invoiceId selection.decisionSealId) fail fate
    else (w, none)
  | .approveAndSend request gateChecks fail fate => w.send env request gateChecks fail fate
  | .relayOutboxBatch limit => w.commit (relayOutboxBatch env limit) fun _ => id
  | .connect lastEventId => ({ w with streams := w.streams ++ [{ cursor := lastEventId }] }, none)
  | .reconnect i => w.updateStream i fun s => .ok s.reconnect
  | .poll i taken => w.updateStream i (Stream.poll w.db taken)

/-- The world after a call. -/
def step (w : World) (env : TxnEnv) (c : Call) : World := (w.call env c).1

/-- The world after a list of calls. -/
def run (w : World) (calls : List (TxnEnv × Call)) : World :=
  calls.foldl (fun w c => w.step c.1 c.2) w

/-- The worlds some list of calls leads to. -/
def Reachable (w : World) : Prop := ∃ calls, initial.run calls = w

end Step

end World
end Tally.Model
