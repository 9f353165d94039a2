import Tally.Analysis.Transitions

/-!
# What a call leaves alone

Every call writes a fixed set of tables and grows a fixed part of what is in flight.
An invariant about one table needs its own argument only for the calls that write
it; the frames below give the rest.
-/

set_option autoImplicit false

namespace Tally.Analysis
open Library Library.Calendar Tally.Model IntakeRepository IntakeTasks ReconstructionRepository
  ApplicableRuleRepository JudgmentRepository AccessEvidenceRepository AuthoritySealRepository
  CorrespondenceRepository IntakeEvents Effects
open Library.Schema (SameExcept sameExcept_refl sameExcept_trans sameExcept_modify)

variable [Sha256] [TzDatabase] [CharacterTables] {w w' : World} {env : TxnEnv} {c : Call}

/-! ## Tables -/

/-- The tables a call may write, besides the peripheral ones. -/
def writtenTables : Call → List Table
  | .finalizeReceivedInvoice _ => receiptTables
  | .claimExtraction _ _ | .failExtraction _ _ _ | .claimReconstruction _ _
  | .failReconstruction _ _ _ | .claimRule _ _ | .failRule _ _ _ => claimTables
  | .completeExtraction _ _ => completeExtractionTables
  | .retryExtraction _ _ _ _ _ => retryTables
  | .completeReconstruction _ _ => completeReconstructionTables
  | .completeRule _ _ _ _ => completeRuleTables
  | .claimJudgment _ _ | .failJudgment _ | .claimAccessEvidence _ _ => taskTables
  | .completeJudgment _ _ => completeJudgmentTables
  | .completeAccessBinding _ => bindingTables
  | .releaseAccessEvidence _ => [.workflowTasks]
  | .approveAndSeal _ => sealTables
  | .draftFromSealed _ _ => [.correspondenceDrafts]
  | .sendSelected _ _ _ | .approveAndSend _ _ _ _ => sendTables
  | .relayOutboxBatch _ => [.eventOutbox]
  | _ => []

omit [TzDatabase] [CharacterTables] in
/-- The tables after a run of a send closure. -/
theorem send_frame (w : World) (env : TxnEnv) (request : SendRequest)
    (gateChecks : List (Gate × GateCheck)) (fail : Bool) (fate : Fate) :
    SameExcept sendTables w.db (w.send env request gateChecks fail fate).1.db := by
  rcases send_cases w env request gateChecks fail fate with heq | ⟨r, db, _, _, hsends, heq⟩
  · rw [heq]
    exact sameExcept_refl _
  · rw [heq]
    cases hsends with
    | replayed => exact sameExcept_refl _
    | blocked _ _ _ _ _ hsame => exact hsame
    | replied _ _ _ _ _ _ hsame => exact hsame

/-- What a step writes that no task, event or decision depends on. -/
structure Peripheral (db db' : Db) : Prop where
  same : SameExcept peripheralTables db db'
  memory : db' .shipmentEventMemory = db .shipmentEventMemory ∨
    ∃ row, insertRow .shipmentEventMemory row db = .ok ((), db')

/-- A step is a peripheral one or writes the tables of its call only. -/
theorem writes_cases (h : Transition w env c w') :
    Peripheral w.db w'.db ∨ SameExcept (writtenTables c) w.db w'.db := by
  have hwithin {tables : List Table} {db : Db} (hc : tables = writtenTables c)
      (hsame : SameExcept tables w.db db) :
      Peripheral w.db db ∨ SameExcept (writtenTables c) w.db db := Or.inr (hc ▸ hsame)
  have hnothing : Peripheral w.db w.db ∨ SameExcept (writtenTables c) w.db w.db :=
    Or.inr (sameExcept_refl _)
  cases h with
  | refused => exact hnothing
  | peripheral _ db hsame hmemory => exact Or.inl ⟨hsame, hmemory⟩
  | finalized _ r db hok => exact hwithin rfl (finalizeReceivedInvoice_ok hok).1
  | claimedExtraction _ _ r db hok => exact hwithin rfl (claimNextExtractionTask_ok hok).1
  | completedExtraction _ _ r db _ hok => exact hwithin rfl (completeExtraction_ok hok).1
  | failedExtraction _ _ _ r db _ hok => exact hwithin rfl (failExtraction_ok hok).1
  | retried _ _ _ _ _ r db hok => exact hwithin rfl (retryExtractionTask_ok hok).1
  | claimedReconstruction _ _ r db hok =>
      exact hwithin rfl (claimNextReconstructionTask_ok hok).1
  | completedReconstruction _ _ work r db _ _ hok =>
      exact hwithin rfl (completeReconstruction_ok hok).1
  | failedReconstruction _ _ _ r db _ hok => exact hwithin rfl (failReconstruction_ok hok).1
  | claimedRule _ _ r db hok => exact hwithin rfl (claimNextRuleTask_ok hok).1
  | completedRule _ _ _ _ r db _ hok => exact hwithin rfl (completeRule_ok hok).1
  | failedRule _ _ _ r db _ hok => exact hwithin rfl (failRule_ok hok).1
  | claimedJudgment _ _ r db hok => exact hwithin rfl (claimNextJudgmentTask_ok hok).1
  | loadedDayInputs => exact hnothing
  | completedJudgment _ _ r db _ _ hok => exact hwithin rfl (completeJudgment_ok hok).1
  | failedJudgment _ r db _ hok => exact hwithin rfl (failJudgment_ok hok).1
  | claimedAccessEvidence _ _ r db hok =>
      exact hwithin rfl (claimNextAccessEvidenceTask_ok hok).1
  | completedAccessBinding _ r db _ hok => exact hwithin rfl (completeAccessBinding_ok hok).1
  | releasedAccessEvidence _ r db hok => exact hwithin rfl (releaseAccessEvidence_ok hok).2
  | approvedAndSealed _ r db hok => exact hwithin rfl (approveAndSeal_ok hok).1
  | loadedPack _ pack db hok =>
      obtain ⟨rfl, _⟩ := loadSealedFactPack_ok hok
      exact hnothing
  | drafted _ _ r db _ hok =>
      rcases draftFromSealed_ok hok with ⟨rfl, _⟩ | ⟨d, _, _, _, _, rfl⟩
      · exact hnothing
      · have hsame : SameExcept [.correspondenceDrafts] w.db _ :=
          sameExcept_modify w.db (by simp) (· ++ [d])
        exact hwithin rfl hsame
  | selectedSend => exact hnothing
  | sentSelected selection fail fate _ => exact hwithin rfl (send_frame _ _ _ _ _ _)
  | approvedAndSent request gateChecks fail fate => exact hwithin rfl (send_frame _ _ _ _ _ _)
  | relayed _ n db hok => exact hwithin rfl (relayOutboxBatch_ok hok).2
  | connected => exact hnothing
  | reconnected => exact hnothing
  | polled => exact hnothing

theorem writes_of_transition (h : Transition w env c w') :
    SameExcept (peripheralTables ++ writtenTables c) w.db w'.db := by
  intro t ht
  rw [List.mem_append, not_or] at ht
  rcases writes_cases h with hperipheral | hsame
  · exact hperipheral.same t ht.1
  · exact hsame t ht.2

/-- Whether a call may write a table. -/
def mayWrite (c : Call) (t : Table) : Bool := t ∈ peripheralTables ++ writtenTables c

/-- A table that a call does not write. -/
theorem table_frame (h : Transition w env c w') {t : Table} (ht : mayWrite c t = false) :
    w'.db t = w.db t :=
  writes_of_transition h t (of_decide_eq_false ht)

/-! ## In flight -/

/-- Whether a call hands out a lease. -/
def claimsTask : Call → Bool
  | .claimExtraction _ _ | .claimReconstruction _ _ | .claimRule _ _ | .claimJudgment _ _
  | .claimAccessEvidence _ _ => true
  | _ => false

omit [TzDatabase] [CharacterTables] in
theorem send_inFlight (w : World) (env : TxnEnv) (request : SendRequest)
    (gateChecks : List (Gate × GateCheck)) (fail : Bool) (fate : Fate) :
    let w' := (w.send env request gateChecks fail fate).1
    w'.leases = w.leases ∧ w'.dayInputs = w.dayInputs ∧ w'.packs = w.packs ∧
      w'.selections = w.selections ∧ w'.streams = w.streams ∧ w'.completed = w.completed := by
  intro w'
  rcases send_cases w env request gateChecks fail fate with heq | ⟨r, db, _, _, _, heq⟩
  · rw [show w' = _ from heq]
    exact ⟨rfl, rfl, rfl, rfl, rfl, rfl⟩
  · rw [show w' = _ from heq]
    exact ⟨rfl, rfl, rfl, rfl, rfl, rfl⟩

theorem leases_frame (h : Transition w env c w') (hc : claimsTask c = false) :
    w'.leases = w.leases := by
  cases h with
  | claimedExtraction => exact nomatch hc
  | claimedReconstruction => exact nomatch hc
  | claimedRule => exact nomatch hc
  | claimedJudgment => exact nomatch hc
  | claimedAccessEvidence => exact nomatch hc
  | sentSelected => exact (send_inFlight _ _ _ _ _ _).1
  | approvedAndSent => exact (send_inFlight _ _ _ _ _ _).1
  | _ => rfl

/-- Only a read of day inputs adds one, and it reads the days of its lease. -/
theorem dayInputs_frame (h : Transition w env c w') :
    ∀ p ∈ w'.dayInputs, p ∈ w.dayInputs ∨
      p.2 = (chargedDaysOf w.db p.1.reconstructionId).map ReconstructionChargedDay.toDayInput := by
  intro p hp
  cases h with
  | loadedDayInputs lease _ =>
      rcases List.mem_append.mp hp with hp | hp
      · exact Or.inl hp
      · rw [List.mem_singleton.mp hp]
        exact Or.inr rfl
  | sentSelected =>
      rw [(send_inFlight _ _ _ _ _ _).2.1] at hp
      exact Or.inl hp
  | approvedAndSent =>
      rw [(send_inFlight _ _ _ _ _ _).2.1] at hp
      exact Or.inl hp
  | _ => exact Or.inl hp

/-! ## Tables with one writer -/

/-- A fresh approval of a call: the recommendation it found, past its checks, and what it
sealed. -/
structure SealsFresh (env : TxnEnv) (request : ApprovalRequest) (rec : RecommendationRow)
    (approval : Approval) (db db' : Db) : Prop where
  found : (db .recommendations).find? (fun r => r.id = request.recommendationId) = some rec
  unused : ∀ a ∈ db .approvals, a.idempotencyKey ≠ request.idempotencyKey
  current : isStale request.expectedVersion rec.version request.expectedDigest rec.digest = false
  frozen : rec.state = "FROZEN"
  seals : Seals env rec request approval db db'

omit [TzDatabase] [CharacterTables] in
theorem SealsFresh.mem {request : ApprovalRequest} {rec : RecommendationRow} {approval : Approval}
    {db db' : Db} (h : SealsFresh env request rec approval db db') :
    rec ∈ db .recommendations ∧ rec.id = request.recommendationId :=
  ⟨List.mem_of_find?_eq_some h.found, by simpa using List.find?_some h.found⟩

/-- Only a judgment that decides adds a recommendation. -/
theorem recommendations_step (h : Transition w env c w') :
    w'.db .recommendations = w.db .recommendations ∨
      ∃ lease days t rec row new, c = .completeJudgment lease days ∧
        .judgment lease ∈ w.leases ∧ (lease, days) ∈ w.dayInputs ∧
        Ends lease.toLeaseKey t .completed new w.db w'.db ∧
        Judges env lease days rec row new w.db w'.db := by
  cases c with
  | completeJudgment lease days =>
      cases h with
      | refused => exact Or.inl rfl
      | peripheral _ db hsame => exact Or.inl (hsame _ (by decide))
      | completedJudgment _ _ r db hlease hdays hok =>
          obtain ⟨_, t, new, hends, ⟨_, hsame, _⟩ | ⟨rec, row, hjudges⟩⟩ := completeJudgment_ok hok
          · exact Or.inl (hsame _ (by decide))
          · exact Or.inr ⟨lease, days, t, rec, row, new, rfl, hlease, hdays.1, hends, hjudges⟩
  | _ => exact Or.inl (table_frame h rfl)

/-- Only a fresh approval adds an approval, and with it a seal. -/
theorem seals_step (h : Transition w env c w') :
    (w'.db .approvals = w.db .approvals ∧ w'.db .decisionSeals = w.db .decisionSeals) ∨
      ∃ request rec approval, c = .approveAndSeal request ∧
        SealsFresh env request rec approval w.db w'.db := by
  cases c with
  | approveAndSeal request =>
      cases h with
      | refused => exact Or.inl ⟨rfl, rfl⟩
      | peripheral _ db hsame => exact Or.inl ⟨hsame _ (by decide), hsame _ (by decide)⟩
      | approvedAndSealed _ r db hok =>
          obtain ⟨_, rec, approval, hfind, ⟨rfl, _⟩ | ⟨hunused, hstale, hfrozen, hseals, _⟩⟩ :=
            approveAndSeal_ok hok
          · exact Or.inl ⟨rfl, rfl⟩
          · exact Or.inr ⟨request, rec, approval, rfl, hfind, hunused, hstale, hfrozen, hseals⟩
  | _ => exact Or.inl ⟨table_frame h rfl, table_frame h rfl⟩

/-- Only a draft of a loaded pack adds one. -/
theorem drafts_step (h : Transition w env c w') :
    w'.db .correspondenceDrafts = w.db .correspondenceDrafts ∨
      ∃ pack bodyProse d, c = .draftFromSealed pack bodyProse ∧ pack ∈ w.packs ∧
        d.invoiceId = pack.invoiceId ∧ d.decisionSealId = pack.decisionSealId ∧
        d.createdAt = env.now ∧ (∀ d' ∈ w.db .correspondenceDrafts, d'.id ≠ d.id ∧
          d'.decisionSealId ≠ pack.decisionSealId) ∧
        w'.db .correspondenceDrafts = w.db .correspondenceDrafts ++ [d] := by
  cases c with
  | draftFromSealed pack bodyProse =>
      cases h with
      | refused => exact Or.inl rfl
      | peripheral _ db hsame => exact Or.inl (hsame _ (by decide))
      | drafted _ _ r db hpack hok =>
          rcases draftFromSealed_ok hok with ⟨rfl, _⟩ | ⟨d, hinvoice, hseal, hat, hfresh, rfl⟩
          · exact Or.inl rfl
          · refine Or.inr ⟨pack, bodyProse, d, rfl, hpack, hinvoice, hseal, hat, hfresh, ?_⟩
            show w.db.modify .correspondenceDrafts (· ++ [d]) .correspondenceDrafts = _
            rw [Store.modify_same]
  | _ => exact Or.inl (table_frame h rfl)

/-- The committed run of a send closure a call makes, with its gate checks. -/
inductive Sending (env : TxnEnv) : Call → SendRequest → List (Gate × GateCheck) → Prop
  | selected (selection : SendSelection) (fail : Bool) :
      Sending env (.sendSelected selection fail .committed) selection.request
        (buildFreshGateChecks env selection.invoiceId selection.decisionSealId)
  | injected (request : SendRequest) (gateChecks : List (Gate × GateCheck)) (fail : Bool) :
      Sending env (.approveAndSend request gateChecks fail .committed) request gateChecks

/-- Only a committed send adds an attempt, and its gate runs with it. -/
theorem attempts_step (h : Transition w env c w') :
    (w'.db .sendAttempts = w.db .sendAttempts ∧ w'.db .sendGateRuns = w.db .sendGateRuns) ∨
      ∃ request gateChecks r, Sending env c request gateChecks ∧
        Sends env request gateChecks w.db r w'.db := by
  cases c with
  | sendSelected selection fail fate =>
      cases h with
      | refused => exact Or.inl ⟨rfl, rfl⟩
      | peripheral _ db hsame => exact Or.inl ⟨hsame _ (by decide), hsame _ (by decide)⟩
      | sentSelected =>
          rcases send_cases w env selection.request
            (buildFreshGateChecks env selection.invoiceId selection.decisionSealId) fail fate with
            heq | ⟨r, db, rfl, _, hsends, heq⟩
          · rw [heq]
            exact Or.inl ⟨rfl, rfl⟩
          · rw [heq]
            exact Or.inr ⟨_, _, r, .selected selection fail, hsends⟩
  | approveAndSend request gateChecks fail fate =>
      cases h with
      | refused => exact Or.inl ⟨rfl, rfl⟩
      | peripheral _ db hsame => exact Or.inl ⟨hsame _ (by decide), hsame _ (by decide)⟩
      | approvedAndSent =>
          rcases send_cases w env request gateChecks fail fate with
            heq | ⟨r, db, rfl, _, hsends, heq⟩
          · rw [heq]
            exact Or.inl ⟨rfl, rfl⟩
          · rw [heq]
            exact Or.inr ⟨_, _, r, .injected request gateChecks fail, hsends⟩
  | _ => exact Or.inl ⟨table_frame h rfl, table_frame h rfl⟩

/-- Only a completed extraction adds a claim set, and its claims with it. -/
theorem claimSets_step (h : Transition w env c w') :
    (w'.db .claimSets = w.db .claimSets ∧ w'.db .extractedClaims = w.db .extractedClaims) ∨
      ∃ s rows, (∀ s' ∈ w.db .claimSets, s'.id ≠ s.id) ∧
        w'.db .claimSets = w.db .claimSets ++ [s] ∧
        w'.db .extractedClaims = w.db .extractedClaims ++ rows ∧
        (∀ c ∈ rows, c.claimSetId = s.id ∧ c.currency.getD "USD" = "USD") ∧
        rows.Pairwise fun a b => conflicts .extractedClaims b a = false := by
  cases c with
  | completeExtraction lease validation =>
      cases h with
      | refused => exact Or.inl ⟨rfl, rfl⟩
      | peripheral _ db hsame => exact Or.inl ⟨hsame _ (by decide), hsame _ (by decide)⟩
      | completedExtraction _ _ r db _ hok =>
          obtain ⟨_, _, _, s, rows, _, _, _, _, _, hfresh, _, hsets, hclaims, ⟨hrows, hfields⟩, _⟩ :=
            completeExtraction_ok hok
          exact Or.inr ⟨s, rows, hfresh, hsets, hclaims, hrows, hfields⟩
  | _ => exact Or.inl ⟨table_frame h rfl, table_frame h rfl⟩

/-- A pack in flight was loaded from a seal. -/
theorem packs_step (h : Transition w env c w') :
    ∀ pack ∈ w'.packs, pack ∈ w.packs ∨
      ∃ sealId, loadSealedFactPack env sealId w.db = .ok (pack, w'.db) := by
  intro pack hpack
  cases h with
  | loadedPack sealId loaded db hok =>
      rcases List.mem_append.mp hpack with hold | hnew
      · exact Or.inl hold
      · rw [List.mem_singleton.mp hnew]
        exact Or.inr ⟨sealId, hok⟩
  | sentSelected =>
      rw [(send_inFlight _ _ _ _ _ _).2.2.1] at hpack
      exact Or.inl hpack
  | approvedAndSent =>
      rw [(send_inFlight _ _ _ _ _ _).2.2.1] at hpack
      exact Or.inl hpack
  | _ => exact Or.inl hpack

end Tally.Analysis
