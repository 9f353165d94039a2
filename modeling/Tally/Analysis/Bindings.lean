import Tally.Analysis.ClaimSets
import Tally.Analysis.TaskOrigins

/-!
# The scope of an access binding

A held task carries one pending snapshot, and the values its binding checks are
those of that very snapshot. Nothing else compares the snapshot with the invoice:
the query that picks it reads the pending rows of every container. A binding stays
in the scope of its invoice in the runs where every row the query may pick does.
-/

set_option autoImplicit false

namespace Tally.Analysis.Bindings
open Library Library.Calendar Tally.Model IntakeRepository IntakeTasks ReconstructionRepository
  ApplicableRuleRepository JudgmentRepository AccessEvidenceRepository CorrespondenceRepository
  Effects Pipeline ClaimSets

/-! ## Scope -/

/-- A container and a date are in the scope of an invoice: it claims the container, and a
charged day of it with the date lacks a terminal-access snapshot. -/
structure InScope (db : Db) (invoiceId : Uuid) (containerRef : String) (date : Date) : Prop where
  claimed : ∃ c ∈ containerRows db invoiceId, claimText c.normalizedValue = containerRef
  missing : ∃ d ∈ db .chargedDays, d.invoiceId = invoiceId ∧ d.chargeDate = date ∧
    .terminalAccess ∈ d.missingRequirements

instance (db : Db) (invoiceId : Uuid) (containerRef : String) (date : Date) :
    Decidable (InScope db invoiceId containerRef date) :=
  decidable_of_iff ((∃ c ∈ containerRows db invoiceId, claimText c.normalizedValue = containerRef) ∧
    ∃ d ∈ db .chargedDays, d.invoiceId = invoiceId ∧ d.chargeDate = date ∧
      .terminalAccess ∈ d.missingRequirements) ⟨fun h => ⟨h.1, h.2⟩, fun h => ⟨h.1, h.2⟩⟩

/-- A retained snapshot is in the scope of an invoice. -/
def SnapshotInScope (db : Db) (invoiceId : Uuid) (m : ShipmentEventMemory) : Prop :=
  ∃ date ∈ m.effectiveFrom, InScope db invoiceId m.containerRef date

instance (db : Db) (invoiceId : Uuid) (m : ShipmentEventMemory) :
    Decidable (SnapshotInScope db invoiceId m) :=
  inferInstanceAs (Decidable (∃ date ∈ m.effectiveFrom, _))

/-- A retained snapshot of the reference is in the scope of an invoice. -/
def RefInScope (db : Db) (invoiceId : Uuid) (publicRef : String) : Prop :=
  ∃ m ∈ db .shipmentEventMemory, m.publicRef = publicRef ∧ SnapshotInScope db invoiceId m

instance (db : Db) (invoiceId : Uuid) (publicRef : String) :
    Decidable (RefInScope db invoiceId publicRef) :=
  inferInstanceAs (Decidable (∃ m ∈ db .shipmentEventMemory, _ ∧ _))

section Runs

variable [Sha256]

/-- Whether a judgment is withheld for missing access evidence. -/
def WithheldForAccess (days : List DayInput) : Prop :=
  match resolveRecommendation days with
  | .ok rec => rec.recommendationType = .requestEvidence ∧
      .missingDayAccessEvidence ∈ rec.reasonCodes
  | .error _ => False

instance (days : List DayInput) : Decidable (WithheldForAccess days) := by
  unfold WithheldForAccess
  exact match resolveRecommendation days with
  | .ok rec => inferInstanceAs (Decidable (rec.recommendationType = .requestEvidence ∧
      .missingDayAccessEvidence ∈ rec.reasonCodes))
  | .error _ => .isFalse id

/-- A judgment withheld for missing access evidence finds only pending snapshots in the scope of
its invoice to hold a task for. -/
def HoldsInScope (w : World) (_ : TxnEnv) : Call → Prop
  | .completeJudgment lease days => WithheldForAccess days →
      ∀ m ∈ pendingSnapshots w.db lease.invoiceId, SnapshotInScope w.db lease.invoiceId m
  | _ => True

instance (w : World) (env : TxnEnv) : DecidablePred (HoldsInScope w env)
  | .completeJudgment lease days => inferInstanceAs (Decidable (WithheldForAccess days →
      ∀ m ∈ pendingSnapshots w.db lease.invoiceId, SnapshotInScope w.db lease.invoiceId m))
  | .reserveIngestion .. | .recordSourceStored .. | .completeDuplicateIngestion ..
  | .finalizeReceivedInvoice .. | .retainSnapshot .. | .retainArtifact .. | .claimExtraction ..
  | .completeExtraction .. | .failExtraction .. | .retryExtraction .. | .claimReconstruction ..
  | .completeReconstruction .. | .failReconstruction .. | .claimRule .. | .completeRule ..
  | .failRule .. | .claimJudgment .. | .loadDayInputs .. | .failJudgment ..
  | .claimAccessEvidence .. | .completeAccessBinding .. | .releaseAccessEvidence ..
  | .approveAndSeal .. | .loadSealedFactPack .. | .draftFromSealed .. | .selectSend ..
  | .sendSelected .. | .approveAndSend .. | .relayOutboxBatch .. | .connect .. | .reconnect ..
  | .poll .. => .isTrue trivial

variable [TzDatabase] [CharacterTables] {w w' : World} {env : TxnEnv} {c : Call}

/-! ## What a step keeps -/

/-- The charged days stay, whatever rate is stamped on them. -/
theorem days_kept (hstep : Transition w env c w') {d : ReconstructionChargedDay}
    (hd : d ∈ w.db .chargedDays) :
    ∃ rate, { d with applicableRateMinor := rate } ∈ w'.db .chargedDays := by
  have hsame (h : w'.db .chargedDays = w.db .chargedDays) :
      ∃ rate, { d with applicableRateMinor := rate } ∈ w'.db .chargedDays := by
    refine ⟨d.applicableRateMinor, ?_⟩
    rw [h]
    exact hd
  cases c with
  | completeReconstruction lease rows =>
      cases hstep with
      | refused => exact hsame rfl
      | peripheral _ db hframe => exact hsame (hframe _ (by decide))
      | completedReconstruction _ _ work r db hlease hwork hok =>
          obtain ⟨_, t, new, _, ⟨_, hframe⟩ | ⟨row, hrow⟩⟩ := completeReconstruction_ok hok
          · exact hsame (hframe _ (by decide))
          · obtain ⟨new, hnew, _⟩ := hrow.days lease.currency (reconstructionWork_currency hwork)
            refine ⟨d.applicableRateMinor, ?_⟩
            show _ ∈ db .chargedDays
            rw [hnew]
            exact List.mem_append_left _ hd
  | completeRule lease fingerprint candidates decision =>
      cases hstep with
      | refused => exact hsame rfl
      | peripheral _ db hframe => exact hsame (hframe _ (by decide))
      | completedRule _ _ _ _ r db hlease hok =>
          obtain ⟨_, t, new, _, ⟨_, hframe, _⟩ | hsearch⟩ := completeRule_ok hok
          · exact hsame (hframe _ (by decide))
          · obtain ⟨f, hdays, hf⟩ := hsearch.decides.days
            obtain ⟨rate, hrate⟩ := (hf d).same
            refine ⟨rate, ?_⟩
            show _ ∈ db .chargedDays
            rw [hdays, ← hrate]
            exact List.mem_map_of_mem hd
  | _ => exact hsame (table_frame hstep rfl)

/-- The container claims of an invoice stay. -/
theorem containerRows_kept (hstep : Transition w env c w') {invoiceId : Uuid}
    {claim : ExtractedClaim} (hclaim : claim ∈ containerRows w.db invoiceId) :
    claim ∈ containerRows w'.db invoiceId := by
  obtain ⟨hmem, hfield, s, hs, hid, hinvoice⟩ := mem_containerRows.mp hclaim
  rw [mem_containerRows]
  rcases claimSets_step hstep with ⟨hsets, hclaims⟩ | ⟨added, rows, _, hsets, hclaims, _⟩
  · rw [hsets, hclaims]
    exact ⟨hmem, hfield, s, hs, hid, hinvoice⟩
  · rw [hsets, hclaims]
    exact ⟨List.mem_append_left _ hmem, hfield, s, List.mem_append_left _ hs, hid, hinvoice⟩

theorem InScope.kept {invoiceId : Uuid} {containerRef : String} {date : Date}
    (h : InScope w.db invoiceId containerRef date) (hstep : Transition w env c w') :
    InScope w'.db invoiceId containerRef date := by
  constructor
  · obtain ⟨claim, hclaim, htext⟩ := h.claimed
    exact ⟨claim, containerRows_kept hstep hclaim, htext⟩
  · obtain ⟨d, hd, hfacts⟩ := h.missing
    obtain ⟨rate, hkept⟩ := days_kept hstep hd
    exact ⟨_, hkept, hfacts⟩

/-- What a step does to the retained snapshots: it retains one more under a fresh reference, or
binds the one of a lease. -/
theorem memory_step (hstep : Transition w env c w') :
    w'.db .shipmentEventMemory = w.db .shipmentEventMemory ∨
      (∃ row, (∀ m ∈ w.db .shipmentEventMemory, m.publicRef ≠ row.publicRef) ∧
        w'.db .shipmentEventMemory = w.db .shipmentEventMemory ++ [row]) ∨
      ∃ lease new, c = .completeAccessBinding lease ∧ .access lease ∈ w.leases ∧
        Resumes env lease new w.db w'.db := by
  have hretained {db : Db} (hperipheral : Peripheral w.db db) :
      db .shipmentEventMemory = w.db .shipmentEventMemory ∨
        ∃ row, (∀ m ∈ w.db .shipmentEventMemory, m.publicRef ≠ row.publicRef) ∧
          db .shipmentEventMemory = w.db .shipmentEventMemory ++ [row] := by
    refine hperipheral.memory.imp_right ?_
    rintro ⟨row, hinsert⟩
    obtain ⟨hfresh, _, rfl⟩ := insertRow_ok.mp hinsert
    refine ⟨row, fun m hm heq => ?_, Store.modify_same _ _ _⟩
    have hconflict := hfresh m hm
    simp only [conflicts, decide_eq_false_iff_not] at hconflict
    exact hconflict heq.symm
  cases c with
  | completeAccessBinding lease =>
      cases hstep with
      | refused => exact Or.inl rfl
      | peripheral _ db hsame hmemory => exact (hretained ⟨hsame, hmemory⟩).imp_right Or.inl
      | completedAccessBinding _ r db hlease hok =>
          obtain ⟨_, t, new, _, _, ⟨_, _, hsame, _⟩ | ⟨_, hresumes⟩⟩ := completeAccessBinding_ok hok
          · exact Or.inl (hsame _ (by decide))
          · exact Or.inr (Or.inr ⟨lease, new, rfl, hlease, hresumes⟩)
  | _ =>
      rcases writes_cases hstep with hperipheral | hsame
      · exact (hretained hperipheral).imp_right Or.inl
      · exact Or.inl (hsame _ (of_decide_eq_false rfl))

/-- A retained snapshot keeps everything but its state. -/
theorem memory_kept (hstep : Transition w env c w') {m : ShipmentEventMemory}
    (hm : m ∈ w.db .shipmentEventMemory) :
    ∃ state, { m with sourceVersionState := state } ∈ w'.db .shipmentEventMemory := by
  rcases memory_step hstep with hsame | ⟨row, _, hrows⟩ | ⟨lease, _, _, _, hresumes⟩
  · rw [hsame]
    exact ⟨m.sourceVersionState, hm⟩
  · rw [hrows]
    exact ⟨m.sourceVersionState, List.mem_append_left _ hm⟩
  · rw [hresumes.memory]
    have hbound := List.mem_map_of_mem (f := bindMemory lease.snapshotPublicRef) hm
    unfold bindMemory at hbound ⊢
    split at hbound
    · exact ⟨_, hbound⟩
    · exact ⟨m.sourceVersionState, hbound⟩

theorem SnapshotInScope.kept {invoiceId : Uuid} {m : ShipmentEventMemory}
    (h : SnapshotInScope w.db invoiceId m) (hstep : Transition w env c w') :
    SnapshotInScope w'.db invoiceId m := by
  obtain ⟨date, hdate, hscope⟩ := h
  exact ⟨date, hdate, hscope.kept hstep⟩

theorem RefInScope.kept {invoiceId : Uuid} {publicRef : String}
    (h : RefInScope w.db invoiceId publicRef) (hstep : Transition w env c w') :
    RefInScope w'.db invoiceId publicRef := by
  obtain ⟨m, hm, href, hscope⟩ := h
  obtain ⟨state, hkept⟩ := memory_kept hstep hm
  exact ⟨_, hkept, href, hscope.kept hstep⟩

/-! ## In every run -/

/-- Everything a binding is made from is in the scope of its invoice. -/
structure Scoped (w : World) : Prop where
  distinct : (w.db .shipmentEventMemory).Pairwise fun a b => a.publicRef ≠ b.publicRef
  tasks : ∀ t ∈ w.db .workflowTasks, t.taskType = .bindAccessEvidence →
    ∃ publicRef containerRef date,
      t.inputObjectRefs = [.accessBindingRequest publicRef containerRef date] ∧
      InScope w.db t.invoiceId containerRef date
  leases : ∀ lease, .access lease ∈ w.leases →
    InScope w.db lease.invoiceId lease.expectedContainerRef lease.expectedDate
  verified : ∀ v ∈ w.db .accessEvidenceVerifications, v.outcome = .verified →
    RefInScope w.db v.invoiceId v.snapshotPublicRef
  resumed : ∀ t ∈ w.db .workflowTasks, t.taskType = .startReconstruction →
    ∀ type publicRef, .snapshot type publicRef ∈ t.inputObjectRefs →
      RefInScope w.db t.invoiceId publicRef

omit [TzDatabase] [CharacterTables] in
/-- The snapshot a completed binding verified is in the scope of the lease's invoice. -/
theorem resumes_inScope {lease : AccessEvidenceLease} {new : List WorkflowTask} {db' : Db}
    (hresumes : Resumes env lease new w.db db')
    (hscope : InScope w.db lease.invoiceId lease.expectedContainerRef lease.expectedDate) :
    RefInScope w.db lease.invoiceId lease.snapshotPublicRef := by
  obtain ⟨m, hm, href, hcontainer, hdate, _⟩ := hresumes.verified
  exact ⟨m, hm, href, lease.expectedDate, hdate, hcontainer ▸ hscope⟩

omit [Sha256] [TzDatabase] [CharacterTables] in
theorem scoped_initial : Scoped World.initial :=
  ⟨List.Pairwise.nil, fun _ h => absurd h List.not_mem_nil, fun _ h => absurd h List.not_mem_nil,
    fun _ h => absurd h List.not_mem_nil, fun _ h => absurd h List.not_mem_nil⟩

omit [Sha256] [TzDatabase] [CharacterTables] in
@[simp] theorem bindMemory_publicRef (publicRef : String) (m : ShipmentEventMemory) :
    (bindMemory publicRef m).publicRef = m.publicRef := by
  unfold bindMemory
  split <;> rfl

theorem distinct_step (h : Scoped w) (hstep : Transition w env c w') :
    (w'.db .shipmentEventMemory).Pairwise fun a b => a.publicRef ≠ b.publicRef := by
  rcases memory_step hstep with hsame | ⟨row, hfresh, hrows⟩ | ⟨lease, _, _, _, hresumes⟩
  · rw [hsame]
    exact h.distinct
  · rw [hrows, List.pairwise_append]
    refine ⟨h.distinct, List.pairwise_singleton _ _, fun m hm n hn => ?_⟩
    rw [List.mem_singleton.mp hn]
    exact hfresh m hm
  · rw [hresumes.memory, List.pairwise_map]
    simpa only [bindMemory_publicRef] using h.distinct

theorem leases_step (h : Scoped w) (hstep : Transition w env c w') :
    ∀ lease, .access lease ∈ w'.leases →
      InScope w'.db lease.invoiceId lease.expectedContainerRef lease.expectedDate := by
  intro lease hlease
  by_cases hold : .access lease ∈ w.leases
  · exact (h.leases lease hold).kept hstep
  have hclaimed : ∃ t ∈ w.db .workflowTasks, t.taskType = .bindAccessEvidence ∧
      lease.invoiceId = t.invoiceId ∧
      (lease.snapshotPublicRef, lease.expectedContainerRef, lease.expectedDate) =
        (bindingRequestOf t.inputObjectRefs).getD ("", "", Date.min) := by
    cases hstep with
    | claimedAccessEvidence workerId leaseSeconds r db hok =>
        obtain ⟨_, ⟨rfl, rfl⟩ | ⟨claimed, t, rfl, _, hinvoice, hrequest, hclaims⟩⟩ :=
          claimNextAccessEvidenceTask_ok hok
        · exact absurd (by simpa [World.addLease] using hlease) hold
        · have hnew : lease = claimed := by simpa [World.addLease, hold] using hlease
          rw [hnew]
          exact ⟨t, hclaims.mem, hclaims.type, hinvoice, hrequest⟩
    | claimedExtraction _ _ r => exact absurd (by simpa [World.addLease] using hlease) hold
    | claimedReconstruction _ _ r => exact absurd (by simpa [World.addLease] using hlease) hold
    | claimedRule _ _ r => exact absurd (by simpa [World.addLease] using hlease) hold
    | claimedJudgment _ _ r => exact absurd (by simpa [World.addLease] using hlease) hold
    | sentSelected =>
        rw [(send_inFlight _ _ _ _ _ _).1] at hlease
        exact absurd hlease hold
    | approvedAndSent =>
        rw [(send_inFlight _ _ _ _ _ _).1] at hlease
        exact absurd hlease hold
    | _ => exact absurd hlease hold
  obtain ⟨t, ht, htype, hinvoice, hrequest⟩ := hclaimed
  obtain ⟨publicRef, containerRef, date, hrefs, hscope⟩ := h.tasks t ht htype
  rw [hrefs] at hrequest
  obtain ⟨_, hcontainer, hdate⟩ : lease.snapshotPublicRef = publicRef ∧
      lease.expectedContainerRef = containerRef ∧ lease.expectedDate = date := by
    simpa [bindingRequestOf] using hrequest
  rw [hinvoice, hcontainer, hdate]
  exact hscope.kept hstep

theorem verified_step (h : Scoped w) (hstep : Transition w env c w') :
    ∀ v ∈ w'.db .accessEvidenceVerifications, v.outcome = .verified →
      RefInScope w'.db v.invoiceId v.snapshotPublicRef := by
  intro v hv houtcome
  have hkept (hold : v ∈ w.db .accessEvidenceVerifications) :
      RefInScope w'.db v.invoiceId v.snapshotPublicRef := (h.verified v hold houtcome).kept hstep
  cases c with
  | completeAccessBinding lease =>
      have hall := hstep
      cases hstep with
      | refused => exact hkept hv
      | peripheral _ db hsame => exact hkept (by rwa [← hsame _ (by decide)])
      | completedAccessBinding _ r db hlease hok =>
          obtain ⟨_, t, new, _, _, ⟨_, _, _, hrefuses⟩ | ⟨_, hresumes⟩⟩ := completeAccessBinding_ok hok
          · rcases hrefuses v hv with hold | hrefused
            · exact hkept hold
            · exact nomatch houtcome.symm.trans hrefused
          · obtain ⟨m, _, _, _, _, hrows⟩ := hresumes.verified
            have hv' : v ∈ db .accessEvidenceVerifications := hv
            rw [hrows] at hv'
            rcases List.mem_append.mp hv' with hold | hnew
            · exact hkept hold
            · rw [List.mem_singleton.mp hnew]
              exact (resumes_inScope hresumes (h.leases lease hlease)).kept hall
  | _ =>
      rw [table_frame hstep rfl] at hv
      exact hkept hv

omit [Sha256] [TzDatabase] [CharacterTables] in
theorem mem_baseRefs {invoiceId : Uuid} {tasks : List WorkflowTask} {ref : ObjectRef}
    (h : ref ∈ baseRefs invoiceId tasks) :
    ∃ t ∈ tasks, t.invoiceId = invoiceId ∧ t.taskType = .startReconstruction ∧
      ref ∈ t.inputObjectRefs := by
  unfold baseRefs at h
  split at h
  case h_1 t hhead =>
    have hmem := List.mem_of_mem_head? (Option.mem_def.mpr hhead)
    rw [List.mem_insertionSort, List.mem_filter, decide_eq_true_eq] at hmem
    exact ⟨t, hmem.1, hmem.2.1, hmem.2.2, h⟩
  case h_2 => exact absurd h List.not_mem_nil

variable {allowed : World → TxnEnv → Call → Prop}

theorem resumed_step (h : Scoped w) (hrun : Run allowed w) (hstep : Transition w env c w') :
    ∀ t ∈ w'.db .workflowTasks, t.taskType = .startReconstruction →
      ∀ type publicRef, .snapshot type publicRef ∈ t.inputObjectRefs →
        RefInScope w'.db t.invoiceId publicRef := by
  intro t' ht' htype type publicRef href
  rcases task_origin hrun hstep t' ht' with ⟨t, ht, hsame⟩ | hadded
  · rw [hsame.inputObjectRefs] at href
    rw [hsame.invoiceId]
    exact (h.resumed t ht (hsame.taskType ▸ htype) type publicRef href).kept hstep
  · cases hadded with
    | extracted lease validation s =>
        exact absurd href (by simp [reconstructionTask, sourceRef, claimSetRef])
    | bound lease new hlease hresumes =>
        rcases List.mem_append.mp href with hbase | hnew
        · obtain ⟨t, ht, hinvoice, hstart, hbase⟩ := mem_baseRefs hbase
          have hscope := (h.resumed t ht hstart type publicRef hbase).kept hstep
          rwa [hinvoice] at hscope
        · have heq := List.mem_singleton.mp hnew
          injection heq with _ heq
          rw [heq]
          exact (resumes_inScope hresumes (h.leases lease hlease)).kept hstep
    | received | retried | reconstructed | searched | judged => exact nomatch htype

theorem tasks_step (h : Scoped w) (hrun : Run allowed w) (hholds : HoldsInScope w env c)
    (hstep : Transition w env c w') :
    ∀ t ∈ w'.db .workflowTasks, t.taskType = .bindAccessEvidence →
      ∃ publicRef containerRef date,
        t.inputObjectRefs = [.accessBindingRequest publicRef containerRef date] ∧
        InScope w'.db t.invoiceId containerRef date := by
  intro t' ht' htype
  rcases task_origin hrun hstep t' ht' with ⟨t, ht, hsame⟩ | hadded
  · obtain ⟨publicRef, containerRef, date, hrefs, hscope⟩ := h.tasks t ht (hsame.taskType ▸ htype)
    rw [hsame.inputObjectRefs, hsame.invoiceId]
    exact ⟨publicRef, containerRef, date, hrefs, hscope.kept hstep⟩
  · cases hadded with
    | judged lease days rec receivedAt request hresolved hwithholds =>
        obtain ⟨m, hm, date, hdate, hrequest⟩ := hwithholds.pending
        have hwithheld : WithheldForAccess days := by
          unfold WithheldForAccess
          rw [hresolved]
          exact hwithholds.withheld
        obtain ⟨date', hdate', hscope⟩ := hholds hwithheld m hm
        have heq : date' = date := Option.some.inj (hdate'.symm.trans hdate)
        refine ⟨m.publicRef, m.containerRef, date, congrArg (fun r => [r]) hrequest, ?_⟩
        rw [← heq]
        exact hscope.kept hstep
    | received | retried | extracted | reconstructed | searched | bound => exact nomatch htype

theorem Scoped.step (h : Scoped w) (hrun : Run allowed w) (hholds : HoldsInScope w env c)
    (hstep : Transition w env c w') : Scoped w' :=
  ⟨distinct_step h hstep, tasks_step h hrun hholds hstep, leases_step h hstep,
    verified_step h hstep, resumed_step h hrun hstep⟩

theorem scoped_of_run (h : Run HoldsInScope w) : Scoped w := by
  induction h with
  | start => exact scoped_initial
  | step env c hrun hc ih => exact ih.step hrun hc (step_transition _ env c)

/-- Only a binding turns a pending snapshot into a verified one, and then it is in the scope of
the binding's invoice. -/
theorem marked_inScope (h : Scoped w) (hstep : Transition w env c w') {m m' : ShipmentEventMemory}
    (hm : m ∈ w.db .shipmentEventMemory) (hpending : m.sourceVersionState = .pending)
    (hm' : m' ∈ w'.db .shipmentEventMemory) (href : m'.publicRef = m.publicRef)
    (hverified : m'.sourceVersionState = .verified) :
    ∃ lease, c = .completeAccessBinding lease ∧ SnapshotInScope w'.db lease.invoiceId m' := by
  have hunchanged (hold : m' ∈ w.db .shipmentEventMemory) : False := by
    rw [eq_of_key h.distinct hold hm href, hpending] at hverified
    exact nomatch hverified
  rcases memory_step hstep with hsame | ⟨row, hfresh, hrows⟩ | ⟨lease, _, hc, hlease, hresumes⟩
  · rw [hsame] at hm'
    exact (hunchanged hm').elim
  · rw [hrows] at hm'
    rcases List.mem_append.mp hm' with hold | hnew
    · exact (hunchanged hold).elim
    · rw [List.mem_singleton.mp hnew] at href
      exact absurd href.symm (hfresh m hm)
  · rw [hresumes.memory] at hm'
    obtain ⟨n, hn, rfl⟩ := List.mem_map.mp hm'
    rw [bindMemory_publicRef] at href
    obtain rfl := eq_of_key h.distinct hn hm href
    unfold bindMemory at hverified ⊢
    split at hverified
    case isTrue hbound =>
      rw [if_pos hbound]
      obtain ⟨s, hs, hsref, hcontainer, hdate, _⟩ := hresumes.verified
      obtain rfl := eq_of_key h.distinct hs hn (hsref.trans hbound.1.symm)
      refine ⟨lease, hc, lease.expectedDate, hdate, ?_⟩
      show InScope w'.db lease.invoiceId s.containerRef lease.expectedDate
      rw [hcontainer]
      exact (h.leases lease hlease).kept hstep
    case isFalse => exact nomatch hpending.symm.trans hverified

/-- In every run whose withheld judgments find pending snapshots of the invoice's scope only,
everything bound for an invoice is in its scope: the snapshots its bindings verify, those its
reconstructions resume with, and each row a binding turns from pending to verified. -/
theorem bindings_inScope (h : Run HoldsInScope w) :
    (∀ v ∈ w.db .accessEvidenceVerifications, v.outcome = .verified →
      RefInScope w.db v.invoiceId v.snapshotPublicRef) ∧
    (∀ t ∈ w.db .workflowTasks, t.taskType = .startReconstruction →
      ∀ type publicRef, .snapshot type publicRef ∈ t.inputObjectRefs →
        RefInScope w.db t.invoiceId publicRef) ∧
    ∀ env c, ∀ m ∈ w.db .shipmentEventMemory, m.sourceVersionState = .pending →
      ∀ m' ∈ (w.step env c).db .shipmentEventMemory, m'.publicRef = m.publicRef →
        m'.sourceVersionState = .verified →
        ∃ lease, c = .completeAccessBinding lease ∧
          SnapshotInScope (w.step env c).db lease.invoiceId m' := by
  have hscoped := scoped_of_run h
  refine ⟨hscoped.verified, hscoped.resumed, fun env c m hm hpending m' hm' href hverified => ?_⟩
  exact marked_inScope hscoped (step_transition w env c) hm hpending hm' href hverified

end Runs

/-! ## A snapshot of another container -/

section Case
open Sample

local instance : Sha256 := Sha256.standard
local instance : TzDatabase := zone
local instance : CharacterTables := ascii

/-- A pending snapshot of another container, of an earlier day. -/
def otherSnapshot : ShipmentEventMemory :=
  { snapshot with
    publicRef := "B1"
    shipmentRef := "MSKU9070323"
    containerRef := "MSKU9070323"
    effectiveFrom := Date.ofYmd 2026 6 8 }

/-- A decision withheld for the sample container while the other snapshot is pending too, and the
binding of the task held for it. -/
def foreign : Script :=
  received ++ [always (.retainSnapshot snapshot), always (.retainSnapshot otherSnapshot)] ++
    extracted ++ reconstructed "w2" unsourcedRows ++ ruled "w3" ++ judged "w4" ++ bound "w5"

/-- The binding verifies the snapshot of a container the invoice does not claim. -/
theorem foreign_bound :
    ∃ w, Run (fun _ _ _ => True) w ∧ ∃ v ∈ w.db .accessEvidenceVerifications,
      v.outcome = .verified ∧ ¬RefInScope w.db v.invoiceId v.snapshotPublicRef := by
  refine ⟨play World.initial 1 foreign, run_play _ _ _, ?_⟩
  decide +kernel

/-- With the snapshot of the sample container alone the binding stays in scope. -/
theorem bindings_inScope_withheld :
    ∃ w, Run HoldsInScope w ∧ ∃ v ∈ w.db .accessEvidenceVerifications,
      v.outcome = .verified ∧ RefInScope w.db v.invoiceId v.snapshotPublicRef := by
  have hplays : Plays HoldsInScope World.initial 1 (withheld ++ bound "w5") := by decide +kernel
  have hrun := run_of_plays (withheld ++ bound "w5") .start hplays
  have hverified : ∃ v ∈ (play World.initial 1 (withheld ++ bound "w5")).db
      .accessEvidenceVerifications, v.outcome = .verified := by
    decide +kernel
  obtain ⟨v, hv, houtcome⟩ := hverified
  exact ⟨_, hrun, v, hv, houtcome, (bindings_inScope hrun).1 v hv houtcome⟩

end Case

end Tally.Analysis.Bindings
