import Tally.Analysis.DecisionSteps
import Tally.Analysis.JudgmentSteps
import Tally.Model.World

/-!
# Transitions of the platform

Every step of the state machine is a refused call, which changes nothing, or a
transaction that succeeded. The transitions name the transaction with the equation
of its success, so an invariant is proved by one case for each operation, and runs
with a condition on their calls carry an invariant from the initial world.
-/

set_option autoImplicit false

namespace Tally.Analysis
open Library Library.Calendar Tally.Model IntakeRepository IntakeTasks ReconstructionRepository
  ApplicableRuleRepository JudgmentRepository AccessEvidenceRepository AuthoritySealRepository
  CorrespondenceRepository IntakeEvents Effects
open Library.Schema (SameExcept sameExcept_refl sameExcept_trans sameExcept_modify)

variable [Sha256] [TzDatabase] [CharacterTables]

/-- Tables that no task, event or decision depends on. -/
def peripheralTables : List Table := [.ingestionRequests, .shipmentEventMemory, .sourceArtifacts]

/-- What a call does to the world. -/
inductive Transition (w : World) (env : TxnEnv) : Call → World → Prop
  | refused (c : Call) : Transition w env c w
  | peripheral (c : Call) (db : Db) (h : SameExcept peripheralTables w.db db)
      (hmemory : db .shipmentEventMemory = w.db .shipmentEventMemory ∨
        ∃ row, insertRow .shipmentEventMemory row w.db = .ok ((), db)) :
      Transition w env c { w with db }
  | finalized (command : FinalizeReceipt) (r : ReceiptSnapshot) (db : Db)
      (h : finalizeReceivedInvoice env command w.db = .ok (r, db)) :
      Transition w env (.finalizeReceivedInvoice command) { w with db }
  | claimedExtraction (workerId : String) (leaseSeconds : Nat) (r : Option ExtractionTaskLease)
      (db : Db) (h : claimNextExtractionTask env workerId leaseSeconds w.db = .ok (r, db)) :
      Transition w env (.claimExtraction workerId leaseSeconds)
        (World.addLease .extraction r { w with db })
  | completedExtraction (lease : ExtractionTaskLease) (validation : ClaimValidation)
      (r : ExtractionCompletion) (db : Db) (hlease : .extraction lease ∈ w.leases)
      (h : completeExtraction env lease validation w.db = .ok (r, db)) :
      Transition w env (.completeExtraction lease validation)
        (World.addCompleted lease.toLeaseKey (some r.claimSetId) { w with db })
  | failedExtraction (lease : ExtractionTaskLease) (errorCode : String) (retryable : Bool)
      (r : TaskState) (db : Db) (hlease : .extraction lease ∈ w.leases)
      (h : failExtraction env lease errorCode retryable w.db = .ok (r, db)) :
      Transition w env (.failExtraction lease errorCode retryable) { w with db }
  | retried (invoiceId : Uuid) (idempotencyKey : String) (expectedRowVersion : Nat)
      (initiatedBy : Option Uuid) (actorDisplay : String) (r : RetryResult) (db : Db)
      (h : retryExtractionTask env invoiceId idempotencyKey expectedRowVersion initiatedBy
        actorDisplay w.db = .ok (r, db)) :
      Transition w env (.retryExtraction invoiceId idempotencyKey expectedRowVersion initiatedBy
        actorDisplay) { w with db }
  | claimedReconstruction (workerId : String) (leaseSeconds : Nat)
      (r : Option ReconstructionTaskLease) (db : Db)
      (h : claimNextReconstructionTask env workerId leaseSeconds w.db = .ok (r, db)) :
      Transition w env (.claimReconstruction workerId leaseSeconds)
        (World.addLease .reconstruction r { w with db })
  | completedReconstruction (lease : ReconstructionTaskLease) (rows : List RawEventRow)
      (work : ReconstructionWork) (r : ReconstructionCompletion) (db : Db)
      (hlease : .reconstruction lease ∈ w.leases) (hwork : reconstructionWork lease rows = .ok work)
      (h : completeReconstruction env lease work w.db = .ok (r, db)) :
      Transition w env (.completeReconstruction lease rows)
        (World.addCompleted lease.toLeaseKey none { w with db })
  | failedReconstruction (lease : ReconstructionTaskLease) (errorCode : String) (retryable : Bool)
      (r : TaskState) (db : Db) (hlease : .reconstruction lease ∈ w.leases)
      (h : failReconstruction env lease errorCode retryable w.db = .ok (r, db)) :
      Transition w env (.failReconstruction lease errorCode retryable) { w with db }
  | claimedRule (workerId : String) (leaseSeconds : Nat) (r : Option RuleTaskLease) (db : Db)
      (h : claimNextRuleTask env workerId leaseSeconds w.db = .ok (r, db)) :
      Transition w env (.claimRule workerId leaseSeconds) (World.addLease .rule r { w with db })
  | completedRule (lease : RuleTaskLease) (queryFingerprint : String)
      (candidates : List RuleCandidate) (decision : ApplicabilityDecision) (r : RuleCompletion)
      (db : Db) (hlease : .rule lease ∈ w.leases)
      (h : completeRule env lease queryFingerprint candidates decision w.db = .ok (r, db)) :
      Transition w env (.completeRule lease queryFingerprint candidates decision)
        (World.addCompleted lease.toLeaseKey none { w with db })
  | failedRule (lease : RuleTaskLease) (errorCode : String) (retryable : Bool) (r : TaskState)
      (db : Db) (hlease : .rule lease ∈ w.leases)
      (h : failRule env lease errorCode retryable w.db = .ok (r, db)) :
      Transition w env (.failRule lease errorCode retryable) { w with db }
  | claimedJudgment (workerId : String) (leaseSeconds : Nat) (r : Option JudgmentTaskLease)
      (db : Db) (h : claimNextJudgmentTask env workerId leaseSeconds w.db = .ok (r, db)) :
      Transition w env (.claimJudgment workerId leaseSeconds)
        (World.addLease .judgment r { w with db })
  | loadedDayInputs (lease : JudgmentTaskLease) (hlease : .judgment lease ∈ w.leases) :
      Transition w env (.loadDayInputs lease)
        { w with dayInputs := w.dayInputs ++ [(lease,
          (chargedDaysOf w.db lease.reconstructionId).map ReconstructionChargedDay.toDayInput)] }
  | completedJudgment (lease : JudgmentTaskLease) (days : List DayInput) (r : JudgmentCompletion)
      (db : Db) (hlease : .judgment lease ∈ w.leases)
      (hdays : (lease, days) ∈ w.dayInputs ∧ days ≠ [])
      (h : completeJudgment env lease days w.db = .ok (r, db)) :
      Transition w env (.completeJudgment lease days)
        (World.addCompleted lease.toLeaseKey none { w with db })
  | failedJudgment (lease : JudgmentTaskLease) (r : TaskState) (db : Db)
      (hlease : .judgment lease ∈ w.leases) (h : failJudgment env lease w.db = .ok (r, db)) :
      Transition w env (.failJudgment lease) { w with db }
  | claimedAccessEvidence (workerId : String) (leaseSeconds : Nat) (r : Option AccessEvidenceLease)
      (db : Db) (h : claimNextAccessEvidenceTask env workerId leaseSeconds w.db = .ok (r, db)) :
      Transition w env (.claimAccessEvidence workerId leaseSeconds)
        (World.addLease .access r { w with db })
  | completedAccessBinding (lease : AccessEvidenceLease) (r : AccessBindingResult) (db : Db)
      (hlease : .access lease ∈ w.leases) (h : completeAccessBinding env lease w.db = .ok (r, db)) :
      Transition w env (.completeAccessBinding lease)
        (World.addCompleted lease.toLeaseKey none { w with db })
  | releasedAccessEvidence (invoiceId : Uuid) (r : Bool) (db : Db)
      (h : releaseAccessEvidence invoiceId w.db = .ok (r, db)) :
      Transition w env (.releaseAccessEvidence invoiceId) { w with db }
  | approvedAndSealed (request : ApprovalRequest) (r : SealResult) (db : Db)
      (h : approveAndSeal env request w.db = .ok (r, db)) :
      Transition w env (.approveAndSeal request) { w with db }
  | loadedPack (sealId : Uuid) (pack : SealedFactPack) (db : Db)
      (h : loadSealedFactPack env sealId w.db = .ok (pack, db)) :
      Transition w env (.loadSealedFactPack sealId) { w with db, packs := w.packs ++ [pack] }
  | drafted (pack : SealedFactPack) (bodyProse : String) (r : DraftResult) (db : Db)
      (hpack : pack ∈ w.packs) (h : draftFromSealed env pack bodyProse w.db = .ok (r, db)) :
      Transition w env (.draftFromSealed pack bodyProse) { w with db }
  | selectedSend (invoiceId : Uuid) (idempotencyKey secondApproverDisplay : String) (draftId : Uuid)
      (h : latestDraftId w.db invoiceId = some draftId) :
      Transition w env (.selectSend invoiceId idempotencyKey secondApproverDisplay)
        { w with selections := w.selections ++ [⟨invoiceId, latestDecisionSealId w.db invoiceId,
          ⟨draftId, idempotencyKey, secondApproverDisplay⟩⟩] }
  | sentSelected (selection : SendSelection) (fail : Bool) (fate : Fate)
      (hselection : selection ∈ w.selections) :
      Transition w env (.sendSelected selection fail fate)
        (w.send env selection.request
          (buildFreshGateChecks env selection.invoiceId selection.decisionSealId) fail fate).1
  | approvedAndSent (request : SendRequest) (gateChecks : List (Gate × GateCheck)) (fail : Bool)
      (fate : Fate) :
      Transition w env (.approveAndSend request gateChecks fail fate)
        (w.send env request gateChecks fail fate).1
  | relayed (limit n : Nat) (db : Db) (h : relayOutboxBatch env limit w.db = .ok (n, db)) :
      Transition w env (.relayOutboxBatch limit) { w with db }
  | connected (lastEventId : Option Uuid) :
      Transition w env (.connect lastEventId)
        { w with streams := w.streams ++ [{ cursor := lastEventId }] }
  | reconnected (i : Nat) (s : Stream) (hstream : w.streams[i]? = some s) :
      Transition w env (.reconnect i) { w with streams := w.streams.set i s.reconnect }
  | polled (i taken : Nat) (s s' : Stream) (hstream : w.streams[i]? = some s)
      (h : s.poll w.db taken = .ok s') :
      Transition w env (.poll i taken) { w with streams := w.streams.set i s' }

/-! ## Every step is a transition -/

omit [Sha256] [TzDatabase] [CharacterTables] in
theorem commit_cases {α : Type} (w : World) (m : Tx α) (record : α → World → World) :
    (w.commit m record).1 = w ∨
      ∃ a db, m w.db = .ok (a, db) ∧ (w.commit m record).1 = record a { w with db } := by
  unfold World.commit
  cases h : m w.db with
  | error e => exact Or.inl rfl
  | ok p => exact Or.inr ⟨p.1, p.2, rfl, rfl⟩

omit [Sha256] [TzDatabase] [CharacterTables] in
/-- A transaction that raises leaves the world alone. -/
theorem commit_refused {α : Type} {w : World} {m : Tx α} {record : α → World → World}
    {e : Raised} (h : (w.commit m record).2 = some e) : (w.commit m record).1 = w := by
  unfold World.commit at h ⊢
  cases hm : m w.db with
  | error e => rfl
  | ok p =>
      rw [hm] at h
      exact nomatch h

omit [Sha256] [TzDatabase] [CharacterTables] in
theorem withLease_cases (w : World) (lease : Lease) (call : World × Option Raised) :
    (w.withLease lease call).1 = w ∨
      (lease ∈ w.leases ∧ (w.withLease lease call).1 = call.1) := by
  unfold World.withLease
  by_cases h : lease ∈ w.leases
  · rw [if_pos h]
    exact Or.inr ⟨h, rfl⟩
  · rw [if_neg h]
    exact Or.inl rfl

omit [Sha256] [TzDatabase] [CharacterTables] in
theorem updateStream_cases (w : World) (i : Nat) (f : Stream → Except PyError Stream) :
    (w.updateStream i f).1 = w ∨ ∃ s s', w.streams[i]? = some s ∧ f s = .ok s' ∧
      (w.updateStream i f).1 = { w with streams := w.streams.set i s' } := by
  unfold World.updateStream
  cases hs : w.streams[i]? with
  | none => exact Or.inl rfl
  | some s =>
      dsimp only
      cases hf : f s with
      | error e => exact Or.inl rfl
      | ok s' => exact Or.inr ⟨s, s', rfl, hf, rfl⟩

/-- A committed transaction is a transition when its success is one. -/
theorem transition_of_commit {α : Type} {w : World} {env : TxnEnv} {c : Call} {m : Tx α}
    {record : α → World → World}
    (h : ∀ a db, m w.db = .ok (a, db) → Transition w env c (record a { w with db })) :
    Transition w env c (w.commit m record).1 := by
  rcases commit_cases w m record with heq | ⟨a, db, hm, heq⟩
  · rw [heq]
    exact .refused c
  · rw [heq]
    exact h a db hm

/-- So is one behind the check of a lease. -/
theorem transition_of_lease {w : World} {env : TxnEnv} {c : Call} {lease : Lease}
    {call : World × Option Raised} (h : lease ∈ w.leases → Transition w env c call.1) :
    Transition w env c (w.withLease lease call).1 := by
  rcases withLease_cases w lease call with heq | ⟨hlease, heq⟩
  · rw [heq]
    exact .refused c
  · rw [heq]
    exact h hlease

theorem transition_of_writes {α : Type} {w : World} {env : TxnEnv} {c : Call} {m : Tx α}
    (h : Schema.Writes peripheralTables m)
    (hmemory : ∀ a db, m w.db = .ok (a, db) →
      db .shipmentEventMemory = w.db .shipmentEventMemory ∨
        ∃ row, insertRow .shipmentEventMemory row w.db = .ok ((), db)) :
    Transition w env c (w.commit m fun _ => id).1 :=
  transition_of_commit fun a db hm => .peripheral c db (h _ _ _ hm) (hmemory a db hm)

theorem step_transition (w : World) (env : TxnEnv) (c : Call) :
    Transition w env c (w.step env c) := by
  unfold World.step
  cases c with
  | reserveIngestion key hash =>
      refine transition_of_writes (fun db a db' h t ht => ?_) fun a db h => Or.inl ?_
      · exact reserveIngestion_same env key hash _ _ _ h t (by simp_all [peripheralTables])
      · exact reserveIngestion_same env key hash _ _ _ h _ (by decide)
  | recordSourceStored key hash source =>
      refine transition_of_writes (fun db a db' h t ht => ?_) fun a db h => Or.inl ?_
      · exact recordSourceStored_same h t (by simp_all [peripheralTables])
      · exact recordSourceStored_same h _ (by decide)
  | completeDuplicateIngestion key hash invoiceId sourceId sha256 snapshot =>
      refine transition_of_writes (fun db a db' h t ht => ?_) fun a db h => Or.inl ?_
      · exact completeDuplicateIngestion_same h t (by simp_all [peripheralTables])
      · exact completeDuplicateIngestion_same h _ (by decide)
  | finalizeReceivedInvoice command => exact transition_of_commit fun r db h => .finalized _ r db h
  | retainSnapshot row =>
      exact transition_of_writes (Schema.writes_insert (by simp [peripheralTables]))
        fun _ _ h => Or.inr ⟨row, h⟩
  | retainArtifact row =>
      refine transition_of_writes (Schema.writes_insert (by simp [peripheralTables])) ?_
      intro _ db h
      have hsame : SameExcept [.sourceArtifacts] w.db db :=
        Schema.writes_insert (by simp) _ _ _ h
      exact Or.inl (hsame _ (by decide))
  | claimExtraction workerId leaseSeconds =>
      exact transition_of_commit fun r db h => .claimedExtraction _ _ r db h
  | completeExtraction lease validation =>
      exact transition_of_lease fun hlease => transition_of_commit fun r db h =>
        .completedExtraction _ _ r db hlease h
  | failExtraction lease errorCode retryable =>
      exact transition_of_lease fun hlease => transition_of_commit fun r db h =>
        .failedExtraction _ _ _ r db hlease h
  | retryExtraction invoiceId key expectedRowVersion initiatedBy actorDisplay =>
      exact transition_of_commit fun r db h => .retried _ _ _ _ _ r db h
  | claimReconstruction workerId leaseSeconds =>
      exact transition_of_commit fun r db h => .claimedReconstruction _ _ r db h
  | completeReconstruction lease rows =>
      refine transition_of_lease fun hlease => ?_
      cases hwork : reconstructionWork lease rows with
      | error e => exact .refused _
      | ok work =>
          exact transition_of_commit fun r db h =>
            .completedReconstruction _ _ work r db hlease hwork h
  | failReconstruction lease errorCode retryable =>
      exact transition_of_lease fun hlease => transition_of_commit fun r db h =>
        .failedReconstruction _ _ _ r db hlease h
  | claimRule workerId leaseSeconds =>
      exact transition_of_commit fun r db h => .claimedRule _ _ r db h
  | completeRule lease fingerprint candidates decision =>
      exact transition_of_lease fun hlease => transition_of_commit fun r db h =>
        .completedRule _ _ _ _ r db hlease h
  | failRule lease errorCode retryable =>
      exact transition_of_lease fun hlease => transition_of_commit fun r db h =>
        .failedRule _ _ _ r db hlease h
  | claimJudgment workerId leaseSeconds =>
      exact transition_of_commit fun r db h => .claimedJudgment _ _ r db h
  | loadDayInputs lease => exact transition_of_lease fun hlease => .loadedDayInputs lease hlease
  | completeJudgment lease days =>
      show Transition w env _ (if (lease, days) ∈ w.dayInputs ∧ days ≠ [] then _ else (w, none)).1
      by_cases hdays : (lease, days) ∈ w.dayInputs ∧ days ≠ []
      · rw [if_pos hdays]
        exact transition_of_lease fun hlease => transition_of_commit fun r db h =>
          .completedJudgment _ _ r db hlease hdays h
      · rw [if_neg hdays]
        exact .refused _
  | failJudgment lease =>
      exact transition_of_lease fun hlease => transition_of_commit fun r db h =>
        .failedJudgment _ r db hlease h
  | claimAccessEvidence workerId leaseSeconds =>
      exact transition_of_commit fun r db h => .claimedAccessEvidence _ _ r db h
  | completeAccessBinding lease =>
      exact transition_of_lease fun hlease => transition_of_commit fun r db h =>
        .completedAccessBinding _ r db hlease h
  | releaseAccessEvidence invoiceId =>
      exact transition_of_commit fun r db h => .releasedAccessEvidence _ r db h
  | approveAndSeal request => exact transition_of_commit fun r db h => .approvedAndSealed _ r db h
  | loadSealedFactPack sealId => exact transition_of_commit fun r db h => .loadedPack _ r db h
  | draftFromSealed pack bodyProse =>
      show Transition w env _ (if pack ∈ w.packs then _ else (w, none)).1
      by_cases hpack : pack ∈ w.packs
      · rw [if_pos hpack]
        exact transition_of_commit fun r db h => .drafted _ _ r db hpack h
      · rw [if_neg hpack]
        exact .refused _
  | selectSend invoiceId key approver =>
      cases hdraft : latestDraftId w.db invoiceId with
      | none =>
          simp only [World.call, hdraft]
          exact .refused _
      | some draftId =>
          simp only [World.call, hdraft]
          exact .selectedSend _ _ _ draftId hdraft
  | sendSelected selection fail fate =>
      show Transition w env _ (if selection ∈ w.selections then _ else (w, none)).1
      by_cases hselection : selection ∈ w.selections
      · rw [if_pos hselection]
        exact .sentSelected _ _ _ hselection
      · rw [if_neg hselection]
        exact .refused _
  | approveAndSend request gateChecks fail fate => exact .approvedAndSent _ _ _ _
  | relayOutboxBatch limit => exact transition_of_commit fun n db h => .relayed _ n db h
  | connect lastEventId => exact .connected _
  | reconnect i =>
      rcases updateStream_cases w i fun s => .ok s.reconnect with heq | ⟨s, s', hs, hf, heq⟩
      · show Transition w env _ (w.updateStream i _).1
        rw [heq]
        exact .refused _
      · show Transition w env _ (w.updateStream i _).1
        obtain rfl : s.reconnect = s' := Except.ok.inj hf
        rw [heq]
        exact .reconnected i s hs
  | poll i taken =>
      rcases updateStream_cases w i (Stream.poll w.db taken) with heq | ⟨s, s', hs, hf, heq⟩
      · show Transition w env _ (w.updateStream i _).1
        rw [heq]
        exact .refused _
      · show Transition w env _ (w.updateStream i _).1
        rw [heq]
        exact .polled i taken s s' hs hf

/-! ## Runs -/

/-- The worlds that calls meeting a condition lead to from a given one. -/
inductive RunFrom (allowed : World → TxnEnv → Call → Prop) (w₀ : World) : World → Prop
  | start : RunFrom allowed w₀ w₀
  | step {w : World} (env : TxnEnv) (c : Call) (h : RunFrom allowed w₀ w) (hc : allowed w env c) :
      RunFrom allowed w₀ (w.step env c)

/-- The worlds that calls meeting a condition lead to. -/
abbrev Run (allowed : World → TxnEnv → Call → Prop) : World → Prop :=
  RunFrom allowed World.initial

/-- An invariant of a run, from one case for each transition. -/
theorem RunFrom.invariant {allowed : World → TxnEnv → Call → Prop} (Inv : World → Prop)
    {w₀ : World} (hstart : Inv w₀)
    (hstep : ∀ w env c w', Inv w → allowed w env c → Transition w env c w' → Inv w')
    {w : World} (h : RunFrom allowed w₀ w) : Inv w := by
  induction h with
  | start => exact hstart
  | step env c _ hc ih => exact hstep _ env c _ ih hc (step_transition _ env c)

theorem RunFrom.mono {allowed allowed' : World → TxnEnv → Call → Prop}
    (hle : ∀ w env c, allowed w env c → allowed' w env c) {w₀ w : World}
    (h : RunFrom allowed w₀ w) : RunFrom allowed' w₀ w := by
  induction h with
  | start => exact .start
  | step env c _ hc ih => exact .step env c ih (hle _ _ _ hc)

theorem RunFrom.trans {allowed : World → TxnEnv → Call → Prop} {w₀ w₁ w₂ : World}
    (h₁ : RunFrom allowed w₀ w₁) (h₂ : RunFrom allowed w₁ w₂) : RunFrom allowed w₀ w₂ := by
  induction h₂ with
  | start => exact h₁
  | step env c _ hc ih => exact .step env c ih hc

/-- Every list of calls is a run. -/
theorem runFrom_run (w : World) (calls : List (TxnEnv × Call)) :
    RunFrom (fun _ _ _ => True) w (w.run calls) := by
  induction calls using List.reverseRecOn with
  | nil => exact .start
  | append_singleton calls c ih =>
      unfold World.run
      rw [List.foldl_append]
      exact .step c.1 c.2 ih trivial

/-- The reachable worlds are those of unconditional runs. -/
theorem run_of_reachable {w : World} (h : w.Reachable) : Run (fun _ _ _ => True) w := by
  obtain ⟨calls, rfl⟩ := h
  exact runFrom_run World.initial calls

/-! ## Sends -/

/-- The messages delivered once a run of a send closure has ended. -/
def sentMessages (w : World) (env : TxnEnv) (request : SendRequest)
    (gateChecks : List (Gate × GateCheck)) (fail : Bool) : List SentMessage :=
  let delivered := w.sent.map SentMessage.delivery
  w.sent ++ ((runSend env request gateChecks fail w.db delivered).2.drop delivered.length).map
    fun d => ⟨request.draftId, request.idempotencyKey, d⟩

omit [TzDatabase] [CharacterTables] in
/-- A run of a send closure that committed, or that left the tables alone. -/
theorem send_cases (w : World) (env : TxnEnv) (request : SendRequest)
    (gateChecks : List (Gate × GateCheck)) (fail : Bool) (fate : Fate) :
    (w.send env request gateChecks fail fate).1 =
        { w with sent := sentMessages w env request gateChecks fail } ∨
      ∃ r db, fate = .committed ∧ (runSend env request gateChecks fail w.db
          (w.sent.map SentMessage.delivery)).1 = .ok (r, db) ∧
        Sends env request gateChecks w.db r db ∧
        (w.send env request gateChecks fail fate).1 =
          { w with db, sent := sentMessages w env request gateChecks fail } := by
  unfold World.send sentMessages
  dsimp only
  cases hrun : runSend env request gateChecks fail w.db (w.sent.map SentMessage.delivery) with
  | mk outcome delivered' =>
      cases outcome with
      | error e => exact Or.inl rfl
      | ok p =>
          cases fate with
          | aborted => exact Or.inl rfl
          | committed => exact Or.inr ⟨p.1, p.2, rfl, rfl, runSend_ok (by rw [hrun]), rfl⟩

end Tally.Analysis

/-! ## A case to play

One invoice of a container that left the terminal two days after its free time, with
the inputs its calls submit, for the concrete runs beside the results.
-/

namespace Tally.Analysis.Sample
open Library Library.Calendar Tally.Model IntakeRepository IntakeTasks ReconstructionRepository
  ApplicableRuleRepository

/-- A zone seven hours behind. -/
@[reducible] def zone : TzDatabase := ⟨fun _ _ => -25200000000⟩

/-- The character tables of ASCII. -/
@[reducible] def ascii : CharacterTables :=
  ⟨Char.isDigit, fun c => c = ' ', fun text => text.map Char.toLower⟩

/-- The transaction of the `n`-th second of the first of July. -/
def env (n : Nat) : TxnEnv :=
  { now := (ymdToOrdinal 2026 7 1 * dayMicros : Nat) + seconds n
    uuid := fun k => BitVec.ofNat 128 (100 * n + k) }

/-- The steps of a case; what is called may depend on the world. -/
abbrev Script : Type := List (World → Option Call)

section Play

variable [Sha256] [TzDatabase] [CharacterTables]

/-- The world after a script whose first call comes at the `n`-th second. -/
def play (w : World) (n : Nat) : Script → World
  | [] => w
  | next :: script => match next w with
    | some c => play (w.step (env n) c) (n + 1) script
    | none => play w (n + 1) script

/-- Every call of the script meets the condition. -/
def Plays (allowed : World → TxnEnv → Call → Prop) (w : World) (n : Nat) : Script → Prop
  | [] => True
  | next :: script => match next w with
    | some c => allowed w (env n) c ∧ Plays allowed (w.step (env n) c) (n + 1) script
    | none => Plays allowed w (n + 1) script

instance decidablePlays {allowed : World → TxnEnv → Call → Prop}
    [∀ w env c, Decidable (allowed w env c)] :
    ∀ (w : World) (n : Nat) (script : Script), Decidable (Plays allowed w n script)
  | _, _, [] => .isTrue trivial
  | w, n, next :: script => by
      unfold Plays
      exact match next w with
      | some c =>
        have : Decidable (Plays allowed (w.step (env n) c) (n + 1) script) := decidablePlays _ _ _
        inferInstanceAs (Decidable (_ ∧ _))
      | none => decidablePlays w (n + 1) script

theorem run_of_plays {allowed : World → TxnEnv → Call → Prop} {w₀ : World} (script : Script) :
    ∀ {w : World} {n : Nat}, RunFrom allowed w₀ w → Plays allowed w n script →
      RunFrom allowed w₀ (play w n script) := by
  induction script with
  | nil => exact fun h _ => h
  | cons next script ih =>
      intro w n h hplays
      unfold play
      unfold Plays at hplays
      cases hc : next w with
      | none =>
          rw [hc] at hplays
          exact ih h hplays
      | some c =>
          rw [hc] at hplays
          exact ih (.step (env n) c h hplays.1) hplays.2

/-- A script meets a condition that every step meets at every time. -/
theorem plays_of_forall {allowed : World → TxnEnv → Call → Prop} {script : Script}
    (h : ∀ next ∈ script, ∀ w n, ∀ c ∈ next w, allowed w (env n) c) (w : World) (n : Nat) :
    Plays allowed w n script := by
  induction script generalizing w n with
  | nil => trivial
  | cons next script ih =>
      have htail := ih fun next hnext => h next (List.mem_cons_of_mem _ hnext)
      unfold Plays
      cases hc : next w with
      | none => exact htail w (n + 1)
      | some c => exact ⟨h next List.mem_cons_self w n c hc, htail _ (n + 1)⟩

/-- A script plays on from where the one before it ended. -/
theorem play_append (script later : Script) (w : World) (n : Nat) :
    play w n (script ++ later) = play (play w n script) (n + script.length) later := by
  induction script generalizing w n with
  | nil => rfl
  | cons first script ih =>
      have hlength : n + (first :: script).length = n + 1 + script.length := by
        rw [List.length_cons]
        omega
      rw [hlength, List.cons_append]
      cases hfirst : first w with
      | none =>
          rw [play, play, hfirst]
          exact ih w (n + 1)
      | some c =>
          rw [play, play, hfirst]
          exact ih (w.step (env n) c) (n + 1)

/-- Every script is a run. -/
theorem run_play (w : World) (n : Nat) (script : Script) :
    RunFrom (fun _ _ _ => True) w (play w n script) := by
  exact run_of_plays script .start (plays_of_forall (fun _ _ _ _ _ _ => trivial) w n)

end Play

/-! ### Its inputs -/

def receipt : FinalizeReceipt :=
  ⟨"k1", "h1", 7, "a.pdf", "application/pdf", ⟨"b", "invoices/a.pdf", "v1", "00ff", 10⟩, none,
    "clerk"⟩

def validation : ClaimValidation :=
  ⟨[⟨"container_number", .text "TLLU4829317", none, none, rfl⟩,
    ⟨"period_start", .text "2026-06-10", none, none, rfl⟩,
    ⟨"period_end", .text "2026-06-10", none, none, rfl⟩,
    ⟨"daily_rate", .money 30000 "USD", some 30000, some "USD", rfl⟩], []⟩

def artifact : ReconstructionSourceArtifact := ⟨1, "SRC-1", "VERIFIED"⟩

def eventRow (publicRef eventType occurredAt : String) : RawEventRow :=
  { publicRef, eventType, shipmentRef := "TLLU4829317", containerRef := "TLLU4829317"
    sourcePublicRef := "SRC-1", sourceVerificationState := "VERIFIED", displayAnchor := "p1"
    provenanceClassification := "X", occurredAt, recordedAt := "2026-06-20T00:00:00Z" }

/-- The events of the container. -/
def eventRows : List RawEventRow :=
  [eventRow "E1" "AVAILABLE" "2026-06-05T18:00:00Z",
   eventRow "E2" "FREE_TIME_END" "2026-06-09T18:00:00Z",
   eventRow "E3" "GATE_OUT" "2026-06-12T18:00:00Z"]

/-- A terminal-access event of the day before or on a day. -/
def accessRow (publicRef occurredAt effectiveFrom : String) : RawEventRow :=
  { eventRow publicRef "TERMINAL_ACCESS_SNAPSHOT" occurredAt with
    effectiveFrom := some effectiveFrom }

/-- The events of a container whose charged day has no access snapshot. -/
def unsourcedRows : List RawEventRow := eventRows ++ [accessRow "A1" "2026-06-09T20:00:00Z" "2026-06-09"]

/-- The events once the snapshot of that day is bound. -/
def sourcedRows : List RawEventRow := unsourcedRows ++ [accessRow "A2" "2026-06-10T20:00:00Z" "2026-06-10"]

/-- The retained snapshot of the charged day. -/
def snapshot : ShipmentEventMemory :=
  ⟨"A2", "TLLU4829317", "TLLU4829317", "TERMINAL_ACCESS_SNAPSHOT", "SRC-1", .pending,
    Date.ofYmd 2026 6 10,
    [("access_status", "AVAILABLE"), ("gate_status", "OPEN"), ("blocking_hold", "NONE")]⟩

/-- A rule below the invoiced rate. -/
def acceptedRule : CandidateValidation :=
  ⟨⟨"RULE-4.2", "4.2", 1, some "USD", Date.ofYmd 2026 1 1, none⟩, .accepted, none, some 25000⟩

def verifiedRule : ApplicabilityDecision :=
  ⟨.verified, some acceptedRule, [acceptedRule], none, by simp, nofun⟩

def noRule : ApplicabilityDecision := ⟨.rejected, none, [], some "NO_APPLICABLE_RULE", by simp,
  fun _ => Or.inl rfl⟩

/-! ### Its steps -/

def always (c : Call) : World → Option Call := fun _ => some c

/-- A second in which nothing happens. -/
def pause : World → Option Call := fun _ => none

/-- A call under the last lease handed out. -/
def underLease (f : Lease → Option Call) : World → Option Call := fun w =>
  w.leases.getLast?.bind f

def received : Script :=
  [always (.reserveIngestion "k1" "h1"),
   always (.recordSourceStored "k1" "h1" receipt.storedSource),
   always (.finalizeReceivedInvoice receipt),
   always (.retainArtifact artifact)]

def extracted : Script :=
  [always (.claimExtraction "w1" 90),
   underLease fun | .extraction l => some (.completeExtraction l validation) | _ => none]

/-- The reconstruction from the given rows. -/
def reconstructed (workerId : String) (rows : List RawEventRow) : Script :=
  [always (.claimReconstruction workerId 90),
   underLease fun | .reconstruction l => some (.completeReconstruction l rows) | _ => none]

/-- A search that accepts no rule. -/
def searched (workerId : String) : Script :=
  [always (.claimRule workerId 90),
   underLease fun | .rule l => some (.completeRule l "q" [] noRule) | _ => none]

/-- A search that accepts the rule. -/
def ruled (workerId : String) : Script :=
  [always (.claimRule workerId 90),
   underLease fun
     | .rule l => some (.completeRule l "q" [acceptedRule.candidate] verifiedRule)
     | _ => none]

def judged (workerId : String) : Script :=
  [always (.claimJudgment workerId 90),
   underLease fun | .judgment l => some (.loadDayInputs l) | _ => none,
   fun w => w.dayInputs.getLast?.map fun p => .completeJudgment p.1 p.2]

/-- The request to approve a recommendation as it stands. -/
def requestFor (idempotencyKey approverDisplay : String) (r : RecommendationRow) :
    AuthoritySealRepository.ApprovalRequest :=
  { recommendationId := r.id
    expectedVersion := r.version
    expectedDigest := r.digest
    idempotencyKey
    approverDisplay }

/-- The release of a held binding and its completion. -/
def bound (workerId : String) : Script :=
  [fun w => (w.db .invoices).getLast?.map fun i => .releaseAccessEvidence i.id,
   always (.claimAccessEvidence workerId 90),
   underLease fun | .access l => some (.completeAccessBinding l) | _ => none]

/-- A decision withheld for a missing access snapshot. -/
def withheld : Script :=
  received ++ [always (.retainSnapshot snapshot)] ++ extracted ++
    reconstructed "w2" unsourcedRows ++ ruled "w3" ++ judged "w4"

/-- The approval of the last recommendation. -/
def approved (idempotencyKey approverDisplay : String) : Script :=
  [fun w => (w.db .recommendations).getLast?.map fun r =>
    .approveAndSeal (requestFor idempotencyKey approverDisplay r)]

/-- The pack of the last seal and its draft. -/
def drafted (bodyProse : String) : Script :=
  [fun w => (w.db .decisionSeals).getLast?.map fun s => .loadSealedFactPack s.id,
   fun w => w.packs.getLast?.map fun pack => .draftFromSealed pack bodyProse]

/-- The selection of a send of the last invoice. -/
def selected (idempotencyKey secondApproverDisplay : String) : Script :=
  [fun w => (w.db .invoices).getLast?.map fun i =>
    .selectSend i.id idempotencyKey secondApproverDisplay]

/-- A run of the send last selected. -/
def sent (fate : Fate) : Script :=
  [fun w => w.selections.getLast?.map fun s => .sendSelected s false fate]

/-! ### What they call -/

/-- Every call of a script meets a condition. -/
def Makes (P : Call → Prop) (script : Script) : Prop := ∀ next ∈ script, ∀ w, ∀ c ∈ next w, P c

section Makes

variable {P : Call → Prop}

/-- A script plays a condition that all its calls meet in every world. -/
theorem Makes.plays [Sha256] [TzDatabase] [CharacterTables]
    {allowed : World → TxnEnv → Call → Prop} {script : Script} (h : Makes P script)
    (hle : ∀ w env c, P c → allowed w env c) (w : World) (n : Nat) : Plays allowed w n script :=
  plays_of_forall (fun next hnext w n c hc => hle w (env n) c (h next hnext w c hc)) w n

theorem makes_nil : Makes P [] := fun _ h => absurd h List.not_mem_nil

theorem makes_cons {next : World → Option Call} {script : Script} (h : ∀ w, ∀ c ∈ next w, P c)
    (hscript : Makes P script) : Makes P (next :: script) := by
  intro first hfirst
  rcases List.mem_cons.mp hfirst with rfl | hlater
  · exact h
  · exact hscript first hlater

theorem makes_append {first second : Script} (h₁ : Makes P first) (h₂ : Makes P second) :
    Makes P (first ++ second) := by
  intro next hnext
  rcases List.mem_append.mp hnext with hfirst | hsecond
  · exact h₁ next hfirst
  · exact h₂ next hsecond

theorem Makes.mono {Q : Call → Prop} {script : Script} (h : Makes P script) (hle : ∀ c, P c → Q c) :
    Makes Q script := fun next hnext w c hc => hle c (h next hnext w c hc)

theorem always_makes {c : Call} (h : P c) (w : World) : ∀ c' ∈ always c w, P c' := by
  intro c' hc'
  obtain rfl : c = c' := Option.some.inj hc'
  exact h

theorem underLease_makes {f : Lease → Option Call} (h : ∀ l, ∀ c ∈ f l, P c) (w : World) :
    ∀ c ∈ underLease f w, P c := by
  intro c hc
  obtain ⟨l, _, hl⟩ := Option.bind_eq_some_iff.mp hc
  exact h l c hl

theorem last_makes {α : Type} {rows : World → List α} {f : α → Call} (h : ∀ a, P (f a)) (w : World) :
    ∀ c ∈ (rows w).getLast?.map f, P c := by
  intro c hc
  obtain ⟨a, _, rfl⟩ := Option.map_eq_some_iff.mp hc
  exact h a

end Makes

/-- Whether a call runs a send closure. -/
def sends : Call → Bool
  | .sendSelected .. | .approveAndSend .. => true
  | _ => false

/-- A script that runs no send closure. -/
abbrev Unsent (script : Script) : Prop := Makes (fun c => sends c = false) script

theorem received_unsent : Unsent received :=
  makes_cons (always_makes rfl) <| makes_cons (always_makes rfl) <|
    makes_cons (always_makes rfl) <| makes_cons (always_makes rfl) makes_nil

theorem extracted_unsent : Unsent extracted := by
  refine makes_cons (always_makes rfl) (makes_cons (underLease_makes fun l c hc => ?_) makes_nil)
  cases l <;> cases hc
  rfl

theorem reconstructed_unsent (workerId : String) (rows : List RawEventRow) :
    Unsent (reconstructed workerId rows) := by
  refine makes_cons (always_makes rfl) (makes_cons (underLease_makes fun l c hc => ?_) makes_nil)
  cases l <;> cases hc
  rfl

theorem ruled_unsent (workerId : String) : Unsent (ruled workerId) := by
  refine makes_cons (always_makes rfl) (makes_cons (underLease_makes fun l c hc => ?_) makes_nil)
  cases l <;> cases hc
  rfl

theorem judged_unsent (workerId : String) : Unsent (judged workerId) := by
  refine makes_cons (always_makes rfl) (makes_cons (underLease_makes fun l c hc => ?_)
    (makes_cons (last_makes fun _ => rfl) makes_nil))
  cases l <;> cases hc
  rfl

theorem bound_unsent (workerId : String) : Unsent (bound workerId) := by
  refine makes_cons (last_makes fun _ => rfl) (makes_cons (always_makes rfl)
    (makes_cons (underLease_makes fun l c hc => ?_) makes_nil))
  cases l <;> cases hc
  rfl

theorem withheld_unsent : Unsent withheld :=
  makes_append (makes_append (makes_append (makes_append (makes_append received_unsent
    (makes_cons (always_makes rfl) makes_nil)) extracted_unsent) (reconstructed_unsent _ _))
      (ruled_unsent _)) (judged_unsent _)

theorem approved_unsent (idempotencyKey approverDisplay : String) :
    Unsent (approved idempotencyKey approverDisplay) :=
  makes_cons (last_makes fun _ => rfl) makes_nil

theorem drafted_unsent (bodyProse : String) : Unsent (drafted bodyProse) :=
  makes_cons (last_makes fun _ => rfl) (makes_cons (last_makes fun _ => rfl) makes_nil)

theorem selected_unsent (idempotencyKey secondApproverDisplay : String) :
    Unsent (selected idempotencyKey secondApproverDisplay) :=
  makes_cons (last_makes fun _ => rfl) makes_nil

end Tally.Analysis.Sample
