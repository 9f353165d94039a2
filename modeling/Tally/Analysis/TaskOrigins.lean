import Tally.Analysis.Lineage

/-!
# Where tasks come from

A call keeps every task as it is handed out, and the tasks it adds are the ones its
operation writes.
-/

set_option autoImplicit false

namespace Tally.Analysis
open Library Library.Calendar Tally.Model IntakeRepository IntakeTasks ReconstructionRepository
  ApplicableRuleRepository JudgmentRepository AccessEvidenceRepository AuthoritySealRepository
  CorrespondenceRepository IntakeEvents Effects Pipeline
open Library.Schema (SameExcept sameExcept_refl sameExcept_trans)

variable [Sha256]

/-- A task a call adds, as its operation writes it. -/
inductive AddedBy (w : World) (env : TxnEnv) (w' : World) : Call → WorkflowTask → Prop
  | received (command : FinalizeReceipt) (invoiceId sourceId : Uuid) :
      AddedBy w env w' (.finalizeReceivedInvoice command)
        (firstExtractionTask env command invoiceId sourceId)
  | retried (invoiceId : Uuid) (idempotencyKey : String) (expectedRowVersion : Nat)
      (initiatedBy : Option Uuid) (actorDisplay : String) (previous : WorkflowTask)
      (requestedBy : Option Uuid) (display : String) (hprevious : previous ∈ w.db .workflowTasks)
      (htype : previous.taskType = .extractInvoiceClaims) :
      AddedBy w env w'
        (.retryExtraction invoiceId idempotencyKey expectedRowVersion initiatedBy actorDisplay)
        (retriedTask env previous requestedBy display)
  | extracted (lease : ExtractionTaskLease) (validation : ClaimValidation) (s : ClaimSet) :
      AddedBy w env w' (.completeExtraction lease validation)
        (reconstructionTask env 2 lease (claimSetRef s.id s.claimSetVersion))
  | reconstructed (lease : ReconstructionTaskLease) (rows : List RawEventRow)
      (row : ReconstructionRow) :
      AddedBy w env w' (.completeReconstruction lease rows) (ruleTask env 1 lease row.id row.version)
  | searched (lease : RuleTaskLease) (queryFingerprint : String) (candidates : List RuleCandidate)
      (decision : ApplicabilityDecision) :
      AddedBy w env w' (.completeRule lease queryFingerprint candidates decision)
        (judgmentTask env 2 lease)
  | judged (lease : JudgmentTaskLease) (days : List DayInput) (rec : Recommendation)
      (receivedAt : Instant) (request : ObjectRef) (hresolved : resolveRecommendation days = .ok rec)
      (hwithholds : Withholds w.db lease rec request) :
      AddedBy w env w' (.completeJudgment lease days)
        (heldBindingTask env 3 lease receivedAt request)
  | bound (lease : AccessEvidenceLease) (new : List WorkflowTask)
      (hlease : .access lease ∈ w.leases) (hresumes : Resumes env lease new w.db w'.db) :
      AddedBy w env w' (.completeAccessBinding lease)
        (resumedTask env 3 lease (baseRefs lease.invoiceId (w.db .workflowTasks)))

/-- A task there before a call, or added by it. -/
def HasOrigin (w : World) (env : TxnEnv) (w' : World) (c : Call) (t' : WorkflowTask) : Prop :=
  (∃ t ∈ w.db .workflowTasks, SameTask t t') ∨ AddedBy w env w' c t'

variable {w w' : World} {env : TxnEnv} {c : Call} {allowed : World → TxnEnv → Call → Prop}

theorem hasOrigin_of_same (htasks : w'.db .workflowTasks = w.db .workflowTasks) :
    ∀ t' ∈ w'.db .workflowTasks, HasOrigin w env w' c t' := by
  intro t' ht
  rw [htasks] at ht
  exact Or.inl ⟨t', ht, SameTask.refl t'⟩

/-- The rows after a task was replaced by another row of it. -/
theorem hasOrigin_of_replaced {t t' : WorkflowTask} {new : List WorkflowTask}
    (hmem : t ∈ w.db .workflowTasks) (hsame : SameTask t t')
    (hrows : w'.db .workflowTasks = (w.db .workflowTasks).map (replaceTask t') ++ new)
    (hnew : ∀ n ∈ new, AddedBy w env w' c n) :
    ∀ u ∈ w'.db .workflowTasks, HasOrigin w env w' c u := by
  intro u hu
  rw [hrows] at hu
  rcases List.mem_append.mp hu with hold | hadded
  · obtain ⟨v, hv, rfl⟩ := List.mem_map.mp hold
    left
    unfold replaceTask
    split
    · exact ⟨t, hmem, hsame⟩
    · exact ⟨v, hv, SameTask.refl v⟩
  · exact Or.inr (hnew u hadded)

theorem hasOrigin_of_appended {new : List WorkflowTask}
    (hrows : w'.db .workflowTasks = w.db .workflowTasks ++ new)
    (hnew : ∀ n ∈ new, AddedBy w env w' c n) :
    ∀ u ∈ w'.db .workflowTasks, HasOrigin w env w' c u := by
  intro u hu
  rw [hrows] at hu
  rcases List.mem_append.mp hu with hold | hadded
  · exact Or.inl ⟨u, hold, SameTask.refl u⟩
  · exact Or.inr (hnew u hadded)

theorem addedBy_of_added {task : WorkflowTask} {new : List WorkflowTask}
    (hadded : new = [] ∨ Added task (w.db .workflowTasks) new)
    (htask : AddedBy w env w' c task) : ∀ n ∈ new, AddedBy w env w' c n := by
  intro n hn
  rcases hadded with rfl | hadded
  · exact absurd hn List.not_mem_nil
  · rw [(added_mem hadded n hn).1]
    exact htask

variable [TzDatabase] [CharacterTables]

/-- Every task after a call was there before or is what the call's operation writes. -/
theorem task_origin (hrun : Run allowed w) (hstep : Transition w env c w') :
    ∀ t' ∈ w'.db .workflowTasks, HasOrigin w env w' c t' := by
  obtain ⟨hhealthy, hlinked⟩ := healthy_of_run hrun
  have htasks : TasksInv (w.db .workflowTasks) := hhealthy.tasks
  have hclaimed {taskType : TaskType} {t : WorkflowTask} {key : LeaseKey} {w' : World}
      (hclaims : Claims env taskType t key w.db w'.db) :
      ∀ u ∈ w'.db .workflowTasks, HasOrigin w env w' c u := by
    obtain ⟨hmem, _, _, t', hsame, _, hrows⟩ := claims_replace htasks hclaims
    exact hasOrigin_of_replaced hmem hsame (hrows.trans (List.append_nil _).symm)
      fun _ hn => absurd hn List.not_mem_nil
  have hended {l : Lease} {t : WorkflowTask} {state : TaskState} {new : List WorkflowTask}
      {w' : World} (hl : l ∈ w.leases) (hends : Ends l.key t state new w.db w'.db)
      (hnot : ∀ a, l ≠ .access a) (hnew : ∀ n ∈ new, AddedBy w env w' c n) :
      ∀ u ∈ w'.db .workflowTasks, HasOrigin w env w' c u := by
    obtain ⟨hmem, _, _, t', hended, hrows⟩ := ends_replace hlinked htasks hl hends hnot
    exact hasOrigin_of_replaced hmem hended.toSameTask hrows hnew
  cases hstep with
  | refused => exact hasOrigin_of_same rfl
  | peripheral _ db hsame => exact hasOrigin_of_same (hsame _ (by decide))
  | finalized command r db hok =>
      rcases (finalizeReceivedInvoice_ok hok).2 with rfl | ⟨invoiceId, sourceId, hreceives⟩
      · exact hasOrigin_of_same rfl
      · refine hasOrigin_of_appended hreceives.tasks fun n hn => ?_
        rw [List.mem_singleton.mp hn]
        exact .received command invoiceId sourceId
  | claimedExtraction _ _ r db hok =>
      obtain ⟨_, ⟨rfl, rfl⟩ | ⟨lease, t, _, rfl, _, _, hclaims, _⟩⟩ := claimNextExtractionTask_ok hok
      · exact hasOrigin_of_same rfl
      · exact hclaimed hclaims
  | completedExtraction lease validation r db hlease hok =>
      obtain ⟨_, t, new, s, _, _, hends, hadded, _⟩ := completeExtraction_ok hok
      exact hended hlease hends (fun _ => nofun)
        (addedBy_of_added (hadded.imp_right And.right) (.extracted lease validation s))
  | failedExtraction lease _ _ r db hlease hok =>
      obtain ⟨_, t, _, hends, _⟩ := failExtraction_ok hok
      exact hended hlease hends (fun _ => nofun) fun _ hn => absurd hn List.not_mem_nil
  | retried _ _ _ _ _ r db hok =>
      rcases (retryExtractionTask_ok hok).2 with ⟨rfl, _⟩ | ⟨_, previous, task, _, hretries⟩
      · exact hasOrigin_of_same rfl
      · obtain ⟨hmem, _, htype, _⟩ := latestExtractionTask_max hretries.latest
        obtain ⟨requestedBy, display, hversion⟩ := hretries.version
        refine hasOrigin_of_appended hretries.tasks fun n hn => ?_
        rw [List.mem_singleton.mp hn, hversion]
        exact .retried _ _ _ _ _ previous requestedBy display hmem htype
  | claimedReconstruction _ _ r db hok =>
      obtain ⟨_, ⟨rfl, rfl⟩ | ⟨lease, t, _, rfl, _, _, _, _, hclaims, _⟩⟩ :=
        claimNextReconstructionTask_ok hok
      · exact hasOrigin_of_same rfl
      · exact hclaimed hclaims
  | completedReconstruction lease rows work r db hlease _ hok =>
      obtain ⟨_, t, new, hends, ⟨rfl, _⟩ | ⟨row, hreconstructs⟩⟩ := completeReconstruction_ok hok
      · exact hended hlease hends (fun _ => nofun) fun _ hn => absurd hn List.not_mem_nil
      · exact hended hlease hends (fun _ => nofun)
          (addedBy_of_added hreconstructs.added (.reconstructed lease rows row))
  | failedReconstruction lease _ _ r db hlease hok =>
      obtain ⟨_, t, _, hends, _⟩ := failReconstruction_ok hok
      exact hended hlease hends (fun _ => nofun) fun _ hn => absurd hn List.not_mem_nil
  | claimedRule _ _ r db hok =>
      obtain ⟨_, ⟨rfl, rfl⟩ | ⟨lease, t, _, rfl, _, _, _, hclaims, _⟩⟩ := claimNextRuleTask_ok hok
      · exact hasOrigin_of_same rfl
      · exact hclaimed hclaims
  | completedRule lease queryFingerprint candidates decision r db hlease hok =>
      obtain ⟨_, t, new, hends, ⟨rfl, _⟩ | hsearches⟩ := completeRule_ok hok
      · exact hended hlease hends (fun _ => nofun) fun _ hn => absurd hn List.not_mem_nil
      · refine hended hlease hends (fun _ => nofun) (addedBy_of_added ?_
          (.searched lease queryFingerprint candidates decision))
        exact hsearches.added.imp_left fun hnone => hnone.2.2
  | failedRule lease _ _ r db hlease hok =>
      obtain ⟨_, t, _, hends, _⟩ := failRule_ok hok
      exact hended hlease hends (fun _ => nofun) fun _ hn => absurd hn List.not_mem_nil
  | claimedJudgment _ _ r db hok =>
      obtain ⟨_, ⟨rfl, rfl⟩ | ⟨lease, t, rfl, _, _, _, hclaims⟩⟩ := claimNextJudgmentTask_ok hok
      · exact hasOrigin_of_same rfl
      · exact hclaimed hclaims
  | loadedDayInputs => exact hasOrigin_of_same rfl
  | completedJudgment lease days r db hlease _ hok =>
      obtain ⟨_, t, new, hends, ⟨rfl, _⟩ | ⟨rec, row, hjudges⟩⟩ := completeJudgment_ok hok
      · exact hended hlease hends (fun _ => nofun) fun _ hn => absurd hn List.not_mem_nil
      · refine hended hlease hends (fun _ => nofun) fun n hn => ?_
        rcases hjudges.added with rfl | ⟨receivedAt, request, hwithholds, hadded⟩
        · exact absurd hn List.not_mem_nil
        · rw [(added_mem hadded n hn).1]
          exact .judged lease days rec receivedAt request hjudges.resolved hwithholds
  | failedJudgment lease r db hlease hok =>
      obtain ⟨_, t, hends, _⟩ := failJudgment_ok hok
      exact hended hlease hends (fun _ => nofun) fun _ hn => absurd hn List.not_mem_nil
  | claimedAccessEvidence _ _ r db hok =>
      obtain ⟨_, ⟨rfl, rfl⟩ | ⟨lease, t, rfl, _, _, _, hclaims⟩⟩ :=
        claimNextAccessEvidenceTask_ok hok
      · exact hasOrigin_of_same rfl
      · exact hclaimed hclaims
  | completedAccessBinding lease r db hlease hok =>
      obtain ⟨_, t, new, hbinds, _, hcase⟩ := completeAccessBinding_ok hok
      have hfresh : ∀ n ∈ new, ∀ u ∈ w.db .workflowTasks, u.id ≠ n.id := by
        rcases hcase with ⟨_, rfl, _⟩ | ⟨_, hresumes⟩
        · exact fun _ hn => absurd hn List.not_mem_nil
        · exact fun n hn => (added_mem hresumes.added n hn).2
      obtain ⟨hmem, hruns, _, hrows⟩ := binds_replace hlinked htasks hlease hbinds hfresh
      refine hasOrigin_of_replaced hmem (endBinding_ended hruns).toSameTask hrows ?_
      rcases hcase with ⟨_, rfl, _⟩ | ⟨_, hresumes⟩
      · exact fun _ hn => absurd hn List.not_mem_nil
      · exact addedBy_of_added (Or.inr hresumes.added) (.bound lease new hlease hresumes)
  | releasedAccessEvidence invoiceId r db hok =>
      have hrows := (releaseAccessEvidence_ok hok).1
      intro u hu
      have hu' : u ∈ db .workflowTasks := hu
      rw [hrows] at hu'
      obtain ⟨v, hv, rfl⟩ := List.mem_map.mp hu'
      refine Or.inl ⟨v, hv, ?_⟩
      unfold releaseTask
      split
      · exact ⟨rfl, rfl, rfl, rfl, rfl, rfl⟩
      · exact SameTask.refl v
  | approvedAndSealed _ r db hok =>
      exact hasOrigin_of_same ((approveAndSeal_ok hok).1 _ (by decide))
  | loadedPack _ pack db hok =>
      obtain ⟨rfl, _⟩ := loadSealedFactPack_ok hok
      exact hasOrigin_of_same rfl
  | drafted _ _ r db _ hok =>
      rcases draftFromSealed_ok hok with ⟨rfl, _⟩ | ⟨d, _, _, _, _, rfl⟩
      · exact hasOrigin_of_same rfl
      · have hsame : SameExcept [.correspondenceDrafts] w.db _ :=
          Schema.sameExcept_modify w.db (by simp) (· ++ [d])
        exact hasOrigin_of_same (hsame .workflowTasks (by decide))
  | selectedSend => exact hasOrigin_of_same rfl
  | sentSelected => exact hasOrigin_of_same (send_frame _ _ _ _ _ _ _ (by decide))
  | approvedAndSent => exact hasOrigin_of_same (send_frame _ _ _ _ _ _ _ (by decide))
  | relayed _ n db hok => exact hasOrigin_of_same ((relayOutboxBatch_ok hok).2 _ (by decide))
  | connected => exact hasOrigin_of_same rfl
  | reconnected => exact hasOrigin_of_same rfl
  | polled => exact hasOrigin_of_same rfl

end Tally.Analysis
