import Tally.Analysis.Frames
import Tally.Model.IntakeApi

/-!
# Repeated receipts

A receipt that completes stores its snapshot with the request, and no other request changes it.
The channel of the import is added behind the store, on the paths that finish a receipt and not on
the one that reads a finished one back; so a repeated receipt answers with the members of the first
one, and without the channel unless the first was a repetition itself.
-/

set_option autoImplicit false

namespace Tally.Analysis.ReceiptReplays
open Library Library.Calendar Library.Sha256 Tally.Model IntakeRepository IntakeApi Effects
open Library.Schema (SameExcept sameExcept_refl sameExcept_trans sameExcept_modify)

/-! ## The request of a key -/

/-- The request row of a key. -/
def requestRow (db : Db) (key : String) : Option IngestionRequest :=
  (db .ingestionRequests).find? fun r => r.idempotencyKey = key

/-- The request of the key is completed with a response. -/
def Answered (db : Db) (key hash : String) (snapshot : ReceiptSnapshot) : Prop :=
  ∃ row, requestRow db key = some row ∧ row.requestHash = hash ∧ row.state = .completed ∧
    row.responseSnapshot = some snapshot

/-- The request of the key is completed. -/
def Completed (db : Db) (key : String) : Prop :=
  ∃ row, requestRow db key = some row ∧ row.state = .completed

theorem requestRow_of_same {db db' : Db} (key : String)
    (h : db' .ingestionRequests = db .ingestionRequests) :
    requestRow db' key = requestRow db key := by
  unfold requestRow
  rw [h]

theorem requestRow_key {db : Db} {key : String} {row : IngestionRequest}
    (h : requestRow db key = some row) : row.idempotencyKey = key := by
  simpa using List.find?_some h

theorem loadRequest_found {key hash : String} {row : IngestionRequest} {db db' : Db}
    (h : loadRequest key hash db = .ok (row, db')) :
    db' = db ∧ requestRow db key = some row ∧ row.requestHash = hash := by
  unfold loadRequest at h
  rw [Txn.bind_ok] at h
  obtain ⟨r, db₁, hselect, h⟩ := h
  obtain ⟨hfind, rfl⟩ := selectRow_ok.mp hselect
  cases r with
  | none => exact (Txn.raise_ok.mp h).elim
  | some found =>
      rcases Txn.ite_ok.mp h with ⟨_, h⟩ | ⟨hhash, h⟩
      · exact (Txn.raise_ok.mp h).elim
      · obtain ⟨rfl, rfl⟩ := Txn.pure_ok.mp h
        exact ⟨rfl, hfind, not_not.mp hhash⟩

/-- A change of the request of one key, in the row of another. -/
theorem requestRow_update {db db' : Db} {key : String} {change : IngestionRequest → IngestionRequest}
    {a : Unit} (h : updateRequest key change db = .ok (a, db'))
    (hkey : ∀ r, (change r).idempotencyKey = r.idempotencyKey) (other : String) :
    requestRow db' other =
      (requestRow db other).map fun r => if r.idempotencyKey = key then change r else r := by
  unfold updateRequest at h
  unfold requestRow
  rw [← updateRows_ok.mp h, Store.modify_same, List.find?_map]
  simp only [decide_eq_true_eq]
  congr 2
  funext r
  simp only [Function.comp_apply]
  split
  · rw [hkey]
  · rfl

/-- A transaction that finds the request of its key open changes no answer. -/
theorem answered_of_update {db db' : Db} {key key' hash : String} {snapshot : ReceiptSnapshot}
    {row : IngestionRequest} {change : IngestionRequest → IngestionRequest} {a : Unit}
    (h : updateRequest key' change db = .ok (a, db'))
    (hkey : ∀ r, (change r).idempotencyKey = r.idempotencyKey)
    (hrow : requestRow db key' = some row) (hopen : row.state ≠ .completed) (hanswered : Answered db key hash snapshot) :
    Answered db' key hash snapshot := by
  obtain ⟨found, hfound, hhash, hstate, hsnapshot⟩ := hanswered
  have hne : key ≠ key' := by
    rintro rfl
    obtain rfl : row = found := Option.some.inj (hrow.symm.trans hfound)
    exact hopen hstate
  refine ⟨found, ?_, hhash, hstate, hsnapshot⟩
  rw [requestRow_update h hkey, hfound, Option.map_some, requestRow_key hfound, if_neg hne]

/-! ## The transactions of a receipt -/

/-- A reservation reads the request of its key, which it adds unless it is there. -/
theorem reserveIngestion_ok {env : TxnEnv} {key hash : String} {r : IngestionReservation}
    {db db' : Db} (h : reserveIngestion env key hash db = .ok (r, db')) :
    ∃ row, requestRow db' key = some row ∧ row.requestHash = hash ∧ r.state = row.state ∧
      r.responseSnapshot = row.responseSnapshot ∧
      ((db' = db) ∨ (requestRow db key = none ∧ row.state = .reserved ∧
        ∀ other, other ≠ key → requestRow db' other = requestRow db other)) := by
  unfold reserveIngestion at h
  rw [Txn.bind_ok] at h
  obtain ⟨_, db₁, hinsert, h⟩ := h
  rw [Txn.bind_ok] at h
  obtain ⟨found, db₂, hselect, h⟩ := h
  obtain ⟨hfind, rfl⟩ := selectRow_ok.mp hselect
  cases found with
  | none => exact (Txn.raise_ok.mp h).elim
  | some row =>
      rcases Txn.ite_ok.mp h with ⟨_, h⟩ | ⟨hhash, h⟩
      · exact (Txn.raise_ok.mp h).elim
      obtain ⟨rfl, rfl⟩ := Txn.pure_ok.mp h
      have hfound : requestRow db₁ key = some row := hfind
      refine ⟨row, hfound, not_not.mp hhash, rfl, rfl, ?_⟩
      rcases insertOrIgnoreRow_ok.mp hinsert with ⟨_, rfl⟩ | ⟨hnone, _, _, rfl⟩
      · exact Or.inl rfl
      · have habsent : requestRow db key = none := by
          unfold requestRow
          rw [List.find?_eq_none]
          intro q hq hqkey
          rw [List.any_eq_false] at hnone
          exact hnone q hq (decide_eq_true (of_decide_eq_true hqkey).symm)
        refine Or.inr ⟨habsent, ?_, ?_⟩
        · unfold requestRow at hfound habsent
          rw [Store.modify_same, List.find?_append, habsent] at hfound
          simp only [Option.none_or, List.find?_cons, decide_true] at hfound
          rw [← Option.some.inj hfound]
        · intro other hne
          unfold requestRow
          rw [Store.modify_same, List.find?_append]
          simp [Ne.symm hne]

/-- What a reservation reads from the request of its key. -/
def reservationOf (row : IngestionRequest) (env : TxnEnv) : IngestionReservation where
  invoiceId := row.reservedInvoiceId
  sourceId := row.reservedSourceId
  state := row.state
  responseSnapshot := row.responseSnapshot
  isNew := row.reservedInvoiceId = env.uuid 0
  storedSource := row.storedSource

theorem reserveIngestion_of_row {key hash : String} {db : Db} {row : IngestionRequest}
    (h : requestRow db key = some row) (hhash : row.requestHash = hash) (env : TxnEnv) :
    reserveIngestion env key hash db = .ok (reservationOf row env, db) := by
  have hpresent : (db .ingestionRequests).any (fun b => decide (key = b.idempotencyKey)) = true :=
    List.any_eq_true.mpr ⟨row, List.mem_of_find?_eq_some h,
      decide_eq_true (requestRow_key h).symm⟩
  unfold reserveIngestion
  refine Txn.bind_ok.mpr ⟨(), db, insertOrIgnoreRow_ok.mpr (Or.inl ⟨hpresent, rfl⟩), ?_⟩
  refine Txn.bind_ok.mpr ⟨some row, db, selectRow_ok.mpr ⟨h, rfl⟩, ?_⟩
  dsimp only
  rw [if_neg (not_not.mpr hhash)]
  rfl

theorem answered_of_reserve {env : TxnEnv} {key key' hash hash' : String}
    {snapshot : ReceiptSnapshot} {r : IngestionReservation} {db db' : Db}
    (h : reserveIngestion env key' hash' db = .ok (r, db'))
    (hanswered : Answered db key hash snapshot) : Answered db' key hash snapshot := by
  obtain ⟨row, _, _, _, _, hcase⟩ := reserveIngestion_ok h
  rcases hcase with rfl | ⟨hnone, _, hothers⟩
  · exact hanswered
  · obtain ⟨found, hfound, hanswer⟩ := hanswered
    have hne : key ≠ key' := by
      rintro rfl
      rw [hnone] at hfound
      exact absurd hfound (by simp)
    exact ⟨found, by rw [hothers key hne, hfound], hanswer⟩

theorem answered_of_record {key key' hash hash' : String} {snapshot : ReceiptSnapshot}
    {source : StoredInvoiceSource} {a : Unit} {db db' : Db}
    (h : recordSourceStored key' hash' source db = .ok (a, db'))
    (hanswered : Answered db key hash snapshot) : Answered db' key hash snapshot := by
  unfold recordSourceStored at h
  rw [Txn.bind_ok] at h
  obtain ⟨row, db₁, hload, h⟩ := h
  obtain ⟨rfl, hrow, _⟩ := loadRequest_found hload
  rcases Txn.ite_ok.mp h with ⟨_, h⟩ | ⟨hopen, h⟩
  · obtain ⟨_, rfl⟩ := Txn.pure_ok.mp h
    exact hanswered
  · exact answered_of_update h (fun _ => rfl) hrow hopen hanswered

/-- A transaction of the response answers with what is stored, or stores what it answers. -/
theorem completedOr_cases {row : IngestionRequest} {proceed : Tx ReceiptSnapshot}
    {r : ReceiptSnapshot} {db db' : Db} (h : completedOr row proceed db = .ok (r, db')) :
    (db' = db ∧ row.state = .completed ∧ row.responseSnapshot = some r) ∨
      (row.state ≠ .completed ∧ proceed db = .ok (r, db')) := by
  rcases Txn.ite_ok.mp h with ⟨hstate, h⟩ | ⟨hopen, h⟩
  · obtain ⟨hsnapshot, rfl⟩ := Txn.orRaise_ok.mp h
    exact Or.inl ⟨rfl, hstate, hsnapshot⟩
  · exact Or.inr ⟨hopen, h⟩

/-- What a transaction of the response does to the requests: its own is answered behind it, and
no answer changes. -/
structure Answers (key hash : String) (r : ReceiptSnapshot) (db db' : Db) : Prop where
  answered : Answered db' key hash r
  kept : ∀ key' hash' snapshot, Answered db key' hash' snapshot → Answered db' key' hash' snapshot

theorem answers_of_stored {key hash : String} {row : IngestionRequest} {r : ReceiptSnapshot}
    {db : Db} (hrow : requestRow db key = some row) (hhash : row.requestHash = hash)
    (hstate : row.state = .completed) (hsnapshot : row.responseSnapshot = some r) :
    Answers key hash r db db :=
  ⟨⟨row, hrow, hhash, hstate, hsnapshot⟩, fun _ _ _ h => h⟩

/-- The request of the key is open, and gets the response. -/
theorem answers_of_update {key hash : String} {row : IngestionRequest} {r : ReceiptSnapshot}
    {db db₁ db' : Db} {change : IngestionRequest → IngestionRequest} {a : Unit}
    (h : updateRequest key change db₁ = .ok (a, db'))
    (hkey : ∀ q, (change q).idempotencyKey = q.idempotencyKey)
    (hchange : (change row).requestHash = hash ∧ (change row).state = .completed ∧
      (change row).responseSnapshot = some r)
    (hrow : requestRow db key = some row) (hopen : row.state ≠ .completed)
    (hsame : db₁ .ingestionRequests = db .ingestionRequests) : Answers key hash r db db' := by
  have hrow₁ : requestRow db₁ key = some row := (requestRow_of_same key hsame).trans hrow
  refine ⟨⟨change row, ?_, hchange⟩, ?_⟩
  · rw [requestRow_update h hkey, hrow₁, Option.map_some, if_pos (requestRow_key hrow)]
  · rintro key' hash' snapshot ⟨found, hfound, hanswer⟩
    have hanswered₁ : Answered db₁ key' hash' snapshot :=
      ⟨found, (requestRow_of_same key' hsame).trans hfound, hanswer⟩
    exact answered_of_update h hkey hrow₁ hopen hanswered₁

theorem completeDuplicateIngestion_answers {key hash : String} {invoiceId sourceId : Uuid}
    {sha256 : String} {snapshot r : ReceiptSnapshot} {db db' : Db}
    (h : completeDuplicateIngestion key hash invoiceId sourceId sha256 snapshot db =
      .ok (r, db')) : Answers key hash r db db' := by
  unfold completeDuplicateIngestion at h
  rw [Txn.bind_ok] at h
  obtain ⟨row, db₁, hload, h⟩ := h
  obtain ⟨rfl, hrow, hhash⟩ := loadRequest_found hload
  rcases completedOr_cases h with ⟨rfl, hstate, hsnapshot⟩ | ⟨hopen, h⟩
  · exact answers_of_stored hrow hhash hstate hsnapshot
  · rw [Txn.bind_ok] at h
    obtain ⟨bound, db₂, hread, h⟩ := h
    obtain ⟨_, rfl⟩ := Txn.read_ok.mp hread
    rcases Txn.ite_ok.mp h with ⟨_, h⟩ | ⟨_, h⟩
    · exact (Txn.raise_ok.mp h).elim
    · rw [Txn.bind_ok] at h
      obtain ⟨_, db₃, hupdate, h⟩ := h
      obtain ⟨rfl, rfl⟩ := Txn.pure_ok.mp h
      exact answers_of_update hupdate (fun _ => rfl) ⟨hhash, rfl, rfl⟩ hrow hopen rfl

theorem insertReceipt_requests [Sha256] {env : TxnEnv} {command : FinalizeReceipt}
    {invoiceId sourceId : Uuid} {a : Unit} {db db' : Db}
    (h : insertReceipt env command invoiceId sourceId db = .ok (a, db')) :
    db' .ingestionRequests = db .ingestionRequests := by
  simp only [insertReceipt, Txn.bind_ok, insertRow_ok] at h
  obtain ⟨_, _, ⟨_, _, rfl⟩, _, _, ⟨_, _, rfl⟩, _, _, ⟨_, _, rfl⟩, hevent⟩ := h
  rw [(insertEventRow_ok hevent).2.2.2 .ingestionRequests (by decide)]
  simp

theorem finalizeReceivedInvoice_answers [Sha256] {env : TxnEnv} {command : FinalizeReceipt}
    {r : ReceiptSnapshot} {db db' : Db}
    (h : finalizeReceivedInvoice env command db = .ok (r, db')) :
    Answers command.idempotencyKey command.requestHash r db db' := by
  unfold finalizeReceivedInvoice at h
  rw [Txn.bind_ok] at h
  obtain ⟨row, db₁, hload, h⟩ := h
  obtain ⟨rfl, hrow, hhash⟩ := loadRequest_found hload
  rcases completedOr_cases h with ⟨rfl, hstate, hsnapshot⟩ | ⟨hopen, h⟩
  · exact answers_of_stored hrow hhash hstate hsnapshot
  · rcases Txn.ite_ok.mp h with ⟨_, h⟩ | ⟨_, h⟩
    · exact (Txn.raise_ok.mp h).elim
    rcases Txn.ite_ok.mp h with ⟨_, h⟩ | ⟨_, h⟩
    · exact (Txn.raise_ok.mp h).elim
    · rw [Txn.bind_ok] at h
      obtain ⟨_, db₂, hreceipt, h⟩ := h
      rw [Txn.bind_ok] at h
      obtain ⟨_, db₃, hupdate, h⟩ := h
      obtain ⟨rfl, rfl⟩ := Txn.pure_ok.mp h
      exact answers_of_update hupdate (fun _ => rfl) ⟨hhash, rfl, rfl⟩ hrow hopen
        (insertReceipt_requests hreceipt)

/-! ## The other calls -/

section Calls

variable [Sha256] [TzDatabase] [CharacterTables] {w w' : World} {key hash : String}
  {snapshot : ReceiptSnapshot}

omit [Sha256] [TzDatabase] [CharacterTables] in
/-- A committed transaction leaves an answer, when its success does. -/
theorem answered_of_commit {α : Type} {m : Tx α} {record : α → World → World}
    (hrecord : ∀ a v, (record a v).db = v.db) (hanswered : Answered w.db key hash snapshot)
    (h : ∀ a db, m w.db = .ok (a, db) → Answered db key hash snapshot) :
    Answered (w.commit m record).1.db key hash snapshot := by
  rcases commit_cases w m record with heq | ⟨a, db, hm, heq⟩
  · rw [heq]
    exact hanswered
  · rw [heq, hrecord]
    exact h a db hm

omit [Sha256] [TzDatabase] [CharacterTables] in
theorem answered_of_frame {db : Db} {tables : List Table} (hsame : SameExcept tables w.db db)
    (hout : .ingestionRequests ∉ tables) (hanswered : Answered w.db key hash snapshot) :
    Answered db key hash snapshot := by
  unfold Answered at hanswered ⊢
  rw [requestRow_of_same key (hsame _ hout)]
  exact hanswered

omit [Sha256] [TzDatabase] [CharacterTables] in
theorem answered_of_lease {lease : Lease} {call : World × Option Raised}
    (hanswered : Answered w.db key hash snapshot)
    (h : Answered call.1.db key hash snapshot) :
    Answered (w.withLease lease call).1.db key hash snapshot := by
  rcases withLease_cases w lease call with heq | ⟨_, heq⟩
  · rw [heq]
    exact hanswered
  · rw [heq]
    exact h

/-- No call of the platform changes an answer. -/
theorem answered_step (h : Answered w.db key hash snapshot) (env : TxnEnv) (c : Call) :
    Answered (w.step env c).db key hash snapshot := by
  have hkept {α : Type} {m : Tx α} {record : α → World → World} {tables : List Table}
      (hrecord : ∀ a v, (record a v).db = v.db)
      (hsame : ∀ a db, m w.db = .ok (a, db) → SameExcept tables w.db db)
      (hout : .ingestionRequests ∉ tables) :
      Answered (w.commit m record).1.db key hash snapshot :=
    answered_of_commit hrecord h fun a db hm => answered_of_frame (hsame a db hm) hout h
  unfold World.step
  cases c with
  | reserveIngestion key' hash' =>
      exact answered_of_commit (fun _ _ => rfl) h fun _ _ hm => answered_of_reserve hm h
  | recordSourceStored key' hash' source =>
      exact answered_of_commit (fun _ _ => rfl) h fun _ _ hm => answered_of_record hm h
  | completeDuplicateIngestion key' hash' invoiceId sourceId sha256 response =>
      exact answered_of_commit (fun _ _ => rfl) h fun _ _ hm =>
        (completeDuplicateIngestion_answers hm).kept _ _ _ h
  | finalizeReceivedInvoice command =>
      exact answered_of_commit (fun _ _ => rfl) h fun _ _ hm =>
        (finalizeReceivedInvoice_answers hm).kept _ _ _ h
  | retainSnapshot row =>
      have hwrites : Schema.Writes [.shipmentEventMemory] (insertRow .shipmentEventMemory row) :=
        Schema.writes_insert (by simp)
      exact hkept (fun _ _ => rfl) (hwrites _) (by decide)
  | retainArtifact row =>
      have hwrites : Schema.Writes [.sourceArtifacts] (insertRow .sourceArtifacts row) :=
        Schema.writes_insert (by simp)
      exact hkept (fun _ _ => rfl) (hwrites _) (by decide)
  | claimExtraction workerId leaseSeconds =>
      exact hkept (fun _ _ => rfl) (fun _ _ hm => (claimNextExtractionTask_ok hm).1) (by decide)
  | completeExtraction lease validation =>
      exact answered_of_lease h (hkept (fun _ _ => rfl)
        (fun _ _ hm => (completeExtraction_ok hm).1) (by decide))
  | failExtraction lease errorCode retryable =>
      exact answered_of_lease h (hkept (fun _ _ => rfl)
        (fun _ _ hm => (failExtraction_ok hm).1) (by decide))
  | retryExtraction invoiceId key' version initiatedBy actorDisplay =>
      exact hkept (fun _ _ => rfl) (fun _ _ hm => (retryExtractionTask_ok hm).1) (by decide)
  | claimReconstruction workerId leaseSeconds =>
      exact hkept (fun _ _ => rfl) (fun _ _ hm => (claimNextReconstructionTask_ok hm).1)
        (by decide)
  | completeReconstruction lease rows =>
      refine answered_of_lease h ?_
      cases ReconstructionRepository.reconstructionWork lease rows with
      | error e => exact h
      | ok work =>
          exact hkept (fun _ _ => rfl) (fun _ _ hm => (completeReconstruction_ok hm).1) (by decide)
  | failReconstruction lease errorCode retryable =>
      exact answered_of_lease h (hkept (fun _ _ => rfl)
        (fun _ _ hm => (failReconstruction_ok hm).1) (by decide))
  | claimRule workerId leaseSeconds =>
      exact hkept (fun _ _ => rfl) (fun _ _ hm => (claimNextRuleTask_ok hm).1) (by decide)
  | completeRule lease fingerprint candidates decision =>
      exact answered_of_lease h (hkept (fun _ _ => rfl)
        (fun _ _ hm => (completeRule_ok hm).1) (by decide))
  | failRule lease errorCode retryable =>
      exact answered_of_lease h (hkept (fun _ _ => rfl)
        (fun _ _ hm => (failRule_ok hm).1) (by decide))
  | claimJudgment workerId leaseSeconds =>
      exact hkept (fun _ _ => rfl) (fun _ _ hm => (claimNextJudgmentTask_ok hm).1) (by decide)
  | loadDayInputs lease =>
      exact answered_of_lease h (answered_of_commit (fun _ _ => rfl) h
        fun _ db hm => (Txn.read_ok.mp hm).2 ▸ h)
  | completeJudgment lease days =>
      unfold World.call
      dsimp only
      split
      · exact answered_of_lease h (hkept (fun _ _ => rfl)
          (fun _ _ hm => (completeJudgment_ok hm).1) (by decide))
      · exact h
  | failJudgment lease =>
      exact answered_of_lease h (hkept (fun _ _ => rfl)
        (fun _ _ hm => (failJudgment_ok hm).1) (by decide))
  | claimAccessEvidence workerId leaseSeconds =>
      exact hkept (fun _ _ => rfl) (fun _ _ hm => (claimNextAccessEvidenceTask_ok hm).1)
        (by decide)
  | completeAccessBinding lease =>
      exact answered_of_lease h (hkept (fun _ _ => rfl)
        (fun _ _ hm => (completeAccessBinding_ok hm).1) (by decide))
  | releaseAccessEvidence invoiceId =>
      exact hkept (fun _ _ => rfl) (fun _ _ hm => (releaseAccessEvidence_ok hm).2) (by decide)
  | approveAndSeal request =>
      exact hkept (fun _ _ => rfl) (fun _ _ hm => (approveAndSeal_ok hm).1) (by decide)
  | loadSealedFactPack sealId =>
      exact answered_of_commit (fun _ _ => rfl) h fun _ db hm => (loadSealedFactPack_ok hm).1 ▸ h
  | draftFromSealed pack bodyProse =>
      unfold World.call
      dsimp only
      split
      · refine answered_of_commit (fun _ _ => rfl) h fun _ db hm => ?_
        rcases draftFromSealed_ok hm with ⟨rfl, _⟩ | ⟨d, _, _, _, _, rfl⟩
        · exact h
        · have hsame : SameExcept [.correspondenceDrafts] w.db _ :=
            sameExcept_modify w.db (by simp) (· ++ [d])
          exact answered_of_frame hsame (by decide) h
      · exact h
  | selectSend invoiceId key' approver =>
      unfold World.call
      dsimp only
      split
      · exact h
      · exact h
  | sendSelected selection fail fate =>
      unfold World.call
      dsimp only
      split
      · exact answered_of_frame (send_frame w env _ _ fail fate) (by decide) h
      · exact h
  | approveAndSend request gateChecks fail fate =>
      exact answered_of_frame (send_frame w env request gateChecks fail fate) (by decide) h
  | relayOutboxBatch limit =>
      exact hkept (fun _ _ => rfl) (fun _ _ hm => (relayOutboxBatch_ok hm).2) (by decide)
  | connect lastEventId => exact h
  | reconnect i =>
      show Answered (w.updateStream i _).1.db key hash snapshot
      rcases updateStream_cases w i _ with heq | ⟨s, s', _, _, heq⟩
      · rw [heq]
        exact h
      · rw [heq]
        exact h
  | poll i taken =>
      show Answered (w.updateStream i _).1.db key hash snapshot
      rcases updateStream_cases w i _ with heq | ⟨s, s', _, _, heq⟩
      · rw [heq]
        exact h
      · rw [heq]
        exact h

theorem answered_run (h : Answered w.db key hash snapshot) (calls : List (TxnEnv × Call)) :
    Answered (w.run calls).db key hash snapshot := by
  unfold World.run
  induction calls generalizing w with
  | nil => exact h
  | cons c calls ih => exact ih (answered_step h c.1 c.2)

/-! ## Runs of a receipt -/

/-- What the database does for a call that is a transaction. -/
def Commits {α : Type} (m : TxnEnv → Tx α) (w : World) : Except Failure α → World → Prop
  | .ok a, w' => ∃ env db, m env w.db = .ok (a, db) ∧ w' = { w with db }
  | .error (.raised e), w' => (∃ env, m env w.db = .error e) ∧ w' = w
  | .error .dependency, w' => w' = w

/-- What it does for a read. -/
def Reads {α : Type} (f : Db → α) (w : World) : Except Failure α → World → Prop
  | .ok a, w' => a = f w.db ∧ w' = w
  | .error (.raised _), _ => False
  | .error .dependency, w' => w' = w

/-- The reply to a call of a receipt; the object store and the carrier answer as they like. A
commit whose reply is lost is among the calls of the others. -/
def Handled (w : World) (w' : World) : (e : Effect) → Reply e → Prop
  | .reserveIngestion key hash, reply =>
    Commits (fun env => reserveIngestion env key hash) w reply w'
  | .findInvoiceBySha sha256, reply => Reads (fun db => findInvoiceBySha db sha256) w reply w'
  | .loadInvoiceProjection invoiceId, reply =>
    Reads (fun db => loadInvoiceProjection db invoiceId) w reply w'
  | .completeDuplicateIngestion key hash invoiceId sourceId sha256 response, reply =>
    Commits (fun _ => completeDuplicateIngestion key hash invoiceId sourceId sha256 response) w
      reply w'
  | .putObject _ _, _ => w' = w
  | .headObject _ _, _ => w' = w
  | .recordSourceStored key hash source, reply =>
    Commits (fun _ => recordSourceStored key hash source) w reply w'
  | .loadDemoCarrierId, _ => w' = w
  | .finalizeReceivedInvoice command, reply =>
    Commits (fun env => finalizeReceivedInvoice env command) w reply w'

/-- A receipt performs its calls one after the other, and behind each of them any other calls of
the platform come. -/
inductive Executes {α : Type} : World → Prog Effect Reply α → α → World → Prop
  | done (w : World) (value : α) : Executes w (.done value) value w
  | perform {w w₁ w₂ : World} {e : Effect} {next : Reply e → Prog Effect Reply α}
      {reply : Reply e} {value : α} (hhandled : Handled w w₁ e reply)
      (calls : List (TxnEnv × Call)) (hnext : Executes (w₁.run calls) (next reply) value w₂) :
      Executes w (.perform e next) value w₂

variable {α β : Type}

theorem Executes.done_iff {value value' : α} :
    Executes w (.done value : Prog Effect Reply α) value' w' ↔ value' = value ∧ w' = w := by
  constructor
  · intro h
    cases h
    exact ⟨rfl, rfl⟩
  · rintro ⟨rfl, rfl⟩
    exact .done w' value'

theorem Executes.bind_inv {p : Prog Effect Reply α} {f : α → Prog Effect Reply β} {value : β}
    (h : Executes w (p >>= f) value w') :
    ∃ a w₁, Executes w p a w₁ ∧ Executes w₁ (f a) value w' := by
  induction p generalizing w with
  | done a => exact ⟨a, w, .done w a, h⟩
  | perform e next ih =>
      cases h with
      | perform hhandled calls hnext =>
          obtain ⟨a, w₁, hfirst, hrest⟩ := ih _ hnext
          exact ⟨a, w₁, .perform hhandled calls hfirst, hrest⟩

/-- A part of a receipt that returns goes on with its value. -/
theorem Executes.bind_ok {p : Receive α} {f : α → Receive β} {b : β}
    (h : Executes w (p >>= f).run (.ok b) w') :
    ∃ a w₁, Executes w p.run (.ok a) w₁ ∧ Executes w₁ (f a).run (.ok b) w' := by
  obtain ⟨first, w₁, hfirst, hrest⟩ := Executes.bind_inv h
  cases first with
  | ok a => exact ⟨a, w₁, hfirst, hrest⟩
  | error e =>
      obtain ⟨herror, _⟩ := Executes.done_iff.mp hrest
      exact absurd herror (by simp)

/-- A call has its reply, and the calls of the others come behind it. -/
theorem Executes.perform_inv {e : Effect} {f : Reply e → Receive β}
    {result : Except ReceiveError β}
    (h : Executes w (IntakeApi.perform e >>= f).run result w') :
    ∃ reply w₁ calls, Handled w w₁ e reply ∧ Executes (w₁.run calls) (f reply).run result w' := by
  have h' : Executes w (.perform e fun reply => (f reply).run) result w' := h
  cases h' with
  | perform hhandled calls hnext => exact ⟨_, _, calls, hhandled, hnext⟩

/-- A failed call ends the receipt. -/
theorem Executes.orThrow_cases {reply : Except Failure α} {f : α → Receive β}
    {result : Except ReceiveError β} (h : Executes w (orThrow reply >>= f).run result w') :
    (∃ a, reply = .ok a ∧ Executes w (f a).run result w') ∨
      ∃ failure, reply = .error failure ∧ result = .error failure.error := by
  cases reply with
  | ok a => exact Or.inl ⟨a, rfl, h⟩
  | error failure => exact Or.inr ⟨failure, rfl, (Executes.done_iff.mp h).1⟩

theorem Executes.orThrow_ok {reply : Except Failure α} {f : α → Receive β} {b : β}
    (h : Executes w (orThrow reply >>= f).run (.ok b) w') :
    ∃ a, reply = .ok a ∧ Executes w (f a).run (.ok b) w' := by
  rcases Executes.orThrow_cases h with hok | ⟨_, _, herror⟩
  · exact hok
  · exact absurd herror (by simp)

theorem Executes.throw_ok {e : ReceiveError} {a : α}
    (h : Executes w (throw e : Receive α).run (.ok a) w') : False := by
  obtain ⟨herror, _⟩ := Executes.done_iff.mp h
  exact absurd herror (by simp)

omit [Sha256] [TzDatabase] [CharacterTables] in
theorem Commits.ok_inv {m : TxnEnv → Tx α} {a : α} (h : Commits m w (.ok a) w') :
    ∃ env db, m env w.db = .ok (a, db) ∧ w' = { w with db } := h

/-! ## What a receipt answers -/

variable (settings : StoreSettings) (upload : Upload)

/-- The members of an answer that the projection of an invoice has, and the channel. -/
def response (received : Received) : ReceiptSnapshot × Option String :=
  (received.snapshot, received.importSource)

/-- A receipt that finishes behind its reservation adds the channel to what it stores. -/
theorem finished_of_duplicate {invoiceId sourceId : Uuid} {received : Received}
    (h : Executes w (receiveDuplicate upload invoiceId sourceId).run (.ok received) w') :
    received.importSource = some upload.importSource ∧
      Answered w'.db upload.idempotencyKey upload.requestHash received.snapshot := by
  unfold receiveDuplicate at h
  obtain ⟨reply, w₁, calls, _, h⟩ := Executes.perform_inv h
  obtain ⟨found, _, h⟩ := Executes.orThrow_ok h
  cases found with
  | none => exact (Executes.throw_ok h).elim
  | some projected =>
      dsimp only at h
      split at h
      · exact (Executes.throw_ok h).elim
      · obtain ⟨reply, w₂, calls', hhandled, h⟩ := Executes.perform_inv h
        obtain ⟨stored, hreply, h⟩ := Executes.orThrow_ok h
        rw [hreply] at hhandled
        obtain ⟨_, db, hcommit, rfl⟩ := Commits.ok_inv hhandled
        obtain ⟨hresult, rfl⟩ := Executes.done_iff.mp h
        obtain rfl := Except.ok.inj hresult
        exact ⟨rfl, answered_run (completeDuplicateIngestion_answers hcommit).answered calls'⟩

theorem finished_of_source {reservation : IngestionReservation} {received : Received}
    (h : Executes w (receiveSource settings upload reservation).run (.ok received) w') :
    received.importSource = some upload.importSource ∧
      Answered w'.db upload.idempotencyKey upload.requestHash received.snapshot := by
  unfold receiveSource at h
  obtain ⟨source, w₁, _, h⟩ := Executes.bind_ok h
  obtain ⟨reply, w₂, calls, _, h⟩ := Executes.perform_inv h
  obtain ⟨carrier, _, h⟩ := Executes.orThrow_ok h
  cases carrier with
  | none => exact (Executes.throw_ok h).elim
  | some carrierId =>
      obtain ⟨reply, w₃, calls', hhandled, h⟩ := Executes.perform_inv h
      obtain ⟨stored, hreply, h⟩ := Executes.orThrow_ok h
      rw [hreply] at hhandled
      obtain ⟨env, db, hcommit, rfl⟩ := Commits.ok_inv hhandled
      obtain ⟨hresult, rfl⟩ := Executes.done_iff.mp h
      obtain rfl := Except.ok.inj hresult
      exact ⟨rfl, answered_run (finalizeReceivedInvoice_answers hcommit).answered calls'⟩

/-- Whichever way a receipt returns, its request is answered with its members; and it adds no
channel exactly if it found the request completed. -/
theorem answered_of_receive {received : Received}
    (h : Executes w (receiveInvoice settings upload).run (.ok received) w') :
    Answered w'.db upload.idempotencyKey upload.requestHash received.snapshot ∧
      (received.importSource = none ↔ Completed w.db upload.idempotencyKey) := by
  unfold receiveInvoice at h
  split at h
  · exact (Executes.throw_ok h).elim
  obtain ⟨reply, w₁, calls, hhandled, h⟩ := Executes.perform_inv h
  obtain ⟨reservation, hreply, h⟩ := Executes.orThrow_ok h
  rw [hreply] at hhandled
  obtain ⟨env, db, hcommit, rfl⟩ := Commits.ok_inv hhandled
  obtain ⟨row, hrow, hhash, hstate, hresponse, hcase⟩ := reserveIngestion_ok hcommit
  have hcompleted : reservation.state = .completed ↔ Completed w.db upload.idempotencyKey := by
    rw [hstate]
    unfold Completed
    rcases hcase with rfl | ⟨hnone, hreserved, _⟩
    · constructor
      · intro hdone
        exact ⟨row, hrow, hdone⟩
      · rintro ⟨found, hfound, hdone⟩
        obtain rfl : row = found := Option.some.inj (hrow.symm.trans hfound)
        exact hdone
    · rw [hnone, hreserved]
      simp
  split at h
  · rename_i hdone
    split at h
    · exact (Executes.throw_ok h).elim
    · rename_i stored hstored
      obtain ⟨hresult, rfl⟩ := Executes.done_iff.mp h
      obtain rfl := Except.ok.inj hresult
      have hanswered : Answered db upload.idempotencyKey upload.requestHash stored :=
        ⟨row, hrow, hhash, hstate ▸ hdone, hresponse ▸ hstored⟩
      have hrun := @answered_run _ _ _ { w with db } _ _ _ hanswered calls
      exact ⟨hrun, iff_of_true rfl (hcompleted.mp hdone)⟩
  · rename_i hopen
    have hfinished : received.importSource = some upload.importSource ∧
        Answered w'.db upload.idempotencyKey upload.requestHash received.snapshot := by
      split at h
      · exact (Executes.throw_ok h).elim
      · obtain ⟨reply, w₂, calls', _, h⟩ := Executes.perform_inv h
        obtain ⟨duplicate, _, h⟩ := Executes.orThrow_ok h
        cases duplicate with
        | none => exact finished_of_source settings upload h
        | some ids => exact finished_of_duplicate upload h
    refine ⟨hfinished.2, iff_of_false ?_ fun hdone => hopen (hcompleted.mpr hdone)⟩
    rw [hfinished.1]
    exact Option.some_ne_none _

/-- The same request under the same key. -/
structure SameRequest (again : Upload) : Prop where
  key : again.idempotencyKey = upload.idempotencyKey
  body : again.body = upload.body
  demoScenario : again.demoScenario = upload.demoScenario
  importSource : again.importSource = upload.importSource

variable {upload}

omit [TzDatabase] [CharacterTables] in
theorem SameRequest.requestHash {again : Upload} (h : SameRequest upload again) :
    again.requestHash = upload.requestHash := by
  unfold Upload.requestHash Upload.fingerprint
  rw [h.body, h.demoScenario, h.importSource]

/-- A receipt that returns came through an allowed channel. -/
theorem allowed_of_receive {received : Received}
    (h : Executes w (receiveInvoice settings upload).run (.ok received) w') :
    upload.importSource ∈ allowedImportSources := by
  by_contra hforeign
  unfold receiveInvoice at h
  rw [if_pos hforeign] at h
  exact Executes.throw_ok h

/-- A receipt of an answered request reads the answer back, when the database replies. -/
theorem receive_of_answered {result : Except ReceiveError Received}
    (hallowed : upload.importSource ∈ allowedImportSources)
    (hanswered : Answered w.db upload.idempotencyKey upload.requestHash snapshot)
    (h : Executes w (receiveInvoice settings upload).run result w') :
    result = .error .dependency ∨ result = .ok ⟨snapshot, none, true⟩ := by
  obtain ⟨row, hrow, hhash, hstate, hsnapshot⟩ := hanswered
  unfold receiveInvoice at h
  rw [if_neg (not_not.mpr hallowed)] at h
  obtain ⟨reply, w₁, calls, hhandled, h⟩ := Executes.perform_inv h
  rcases Executes.orThrow_cases h with ⟨reservation, hreply, h⟩ | ⟨failure, hreply, hresult⟩
  · rw [hreply] at hhandled
    obtain ⟨env, db, hcommit, _⟩ := Commits.ok_inv hhandled
    have hreserved := reserveIngestion_of_row hrow hhash env
    obtain ⟨rfl, _⟩ := Prod.mk.inj (Except.ok.inj (hreserved.symm.trans hcommit))
    have hdone : (reservationOf row env).state = .completed := hstate
    have hread : (reservationOf row env).responseSnapshot = some snapshot := hsnapshot
    rw [if_pos hdone, hread] at h
    exact Or.inr (Executes.done_iff.mp h).1
  · rw [hreply] at hhandled
    cases failure with
    | dependency => exact Or.inl hresult
    | raised e =>
        obtain ⟨⟨env, hfailed⟩, _⟩ := hhandled
        have hreserved := reserveIngestion_of_row hrow hhash env
        exact absurd (hreserved.symm.trans hfailed) (by simp)

/-- It can return so. -/
theorem receive_again (hallowed : upload.importSource ∈ allowedImportSources)
    (hanswered : Answered w.db upload.idempotencyKey upload.requestHash snapshot) (env : TxnEnv) :
    Executes w (receiveInvoice settings upload).run (.ok ⟨snapshot, none, true⟩) w := by
  obtain ⟨row, hrow, hhash, hstate, hsnapshot⟩ := hanswered
  have hreserved : Handled w w (.reserveIngestion upload.idempotencyKey upload.requestHash)
      (.ok (reservationOf row env)) := ⟨env, w.db, reserveIngestion_of_row hrow hhash env, rfl⟩
  unfold receiveInvoice
  rw [if_neg (not_not.mpr hallowed)]
  have hdone : (reservationOf row env).state = .completed := hstate
  have hread : (reservationOf row env).responseSnapshot = some snapshot := hsnapshot
  refine .perform hreserved [] ?_
  show Executes w (ExceptT.run (ite ((reservationOf row env).state = .completed) _ _)) _ w
  rw [if_pos hdone, hread]
  exact .done w _

/-- When the request of a receipt that returned is repeated, whatever was called in between, the
answer has the members of the first one; the channel too exactly if the first receipt found its
request completed, that is if it was a repetition itself.
SOURCE: src/platform/intake_api.py:380-439; src/platform/intake_repository.py:428-466 -/
theorem replays_iff (settings settings' : StoreSettings) (upload again : Upload)
    (hsame : SameRequest upload again) (w w₁ w₂ : World) (received : Received)
    (hfirst : Executes w (receiveInvoice settings upload).run (.ok received) w₁)
    (calls : List (TxnEnv × Call)) (result : Except ReceiveError Received)
    (hagain : Executes (w₁.run calls) (receiveInvoice settings' again).run result w₂) :
    result = .error .dependency ∨ ∃ replayed, result = .ok replayed ∧
      replayed.snapshot = received.snapshot ∧
      (response replayed = response received ↔ Completed w.db upload.idempotencyKey) := by
  obtain ⟨hanswered, hchannel⟩ := answered_of_receive settings upload hfirst
  have hallowed := allowed_of_receive settings hfirst
  have hlater : Answered (w₁.run calls).db again.idempotencyKey again.requestHash
      received.snapshot := by
    rw [hsame.key, hsame.requestHash]
    exact answered_run hanswered calls
  rw [← hsame.importSource] at hallowed
  rcases receive_of_answered settings' hallowed hlater hagain with hfailed | hreplayed
  · exact Or.inl hfailed
  · refine Or.inr ⟨_, hreplayed, rfl, ?_⟩
    rw [← hchannel]
    unfold response
    constructor
    · intro h
      exact (congrArg Prod.snd h).symm
    · intro h
      rw [h]

end Calls

/-! ## A receipt and its repetition -/

section Case

local instance caseSha : Sha256 := .standard
local instance caseZone : TzDatabase := Sample.zone
local instance caseCharacters : CharacterTables := Sample.ascii

def operatorUpload : Upload where
  body := [37, 80, 68, 70]
  displayFilename := "a.pdf"
  idempotencyKey := "k1"
  demoScenario := "locked-inv-1048"
  importSource := "operator_import"
  actorId := none
  actorDisplay := "ann"

def settings : StoreSettings := ⟨"intake", "invoices"⟩

def storedSource : StoredInvoiceSource :=
  ⟨"intake", "invoices/a.pdf", "v1", operatorUpload.sha256, 4⟩

/-- The source of the upload is stored, and nothing has been answered. -/
def pendingRequest : IngestionRequest where
  idempotencyKey := "k1"
  requestHash := operatorUpload.requestHash
  state := .sourceStoredDbPending
  reservedInvoiceId := 1
  reservedSourceId := 2
  storedSource := some storedSource

def pendingDb : Db := fun
  | .ingestionRequests => [pendingRequest]
  | t => Db.empty t

def pendingWorld : World := { db := pendingDb }

def receipt : FinalizeReceipt where
  idempotencyKey := "k1"
  requestHash := operatorUpload.requestHash
  carrierId := 7
  displayName := "a.pdf"
  mimeType := "application/pdf"
  storedSource := storedSource
  actorId := none
  actorDisplay := "ann"

theorem receipt_finalizes :
    ∃ r db, finalizeReceivedInvoice (Sample.env 1) receipt pendingDb = .ok (r, db) := by
  have hok : (finalizeReceivedInvoice (Sample.env 1) receipt pendingDb).toBool = true := by
    decide +kernel
  cases h : finalizeReceivedInvoice (Sample.env 1) receipt pendingDb with
  | ok p => exact ⟨p.1, p.2, rfl⟩
  | error e =>
      rw [h] at hok
      exact absurd hok Bool.false_ne_true

theorem pendingDb_request : requestRow pendingDb "k1" = some pendingRequest := rfl

/-- A receipt that finishes. -/
theorem receipt_returns : ∃ received w,
    Executes pendingWorld (receiveInvoice settings operatorUpload).run (.ok received) w := by
  obtain ⟨r, db, hfinalized⟩ := receipt_finalizes
  have hreserved : Handled pendingWorld pendingWorld
      (.reserveIngestion "k1" operatorUpload.requestHash)
      (.ok (reservationOf pendingRequest (Sample.env 0))) :=
    ⟨Sample.env 0, pendingDb, reserveIngestion_of_row pendingDb_request rfl _, rfl⟩
  have hfound : Handled pendingWorld pendingWorld (.findInvoiceBySha operatorUpload.sha256)
      (.ok none) := ⟨rfl, rfl⟩
  have hcarrier : Handled pendingWorld pendingWorld .loadDemoCarrierId (.ok (some 7)) := rfl
  have hfinal : Handled pendingWorld { pendingWorld with db } (.finalizeReceivedInvoice receipt)
      (.ok r) := ⟨Sample.env 1, db, hfinalized, rfl⟩
  refine ⟨⟨r, some "operator_import", false⟩, { pendingWorld with db }, ?_⟩
  unfold receiveInvoice
  rw [if_neg (by decide)]
  exact .perform hreserved [] (.perform hfound [] (.perform hcarrier [] (.perform hfinal []
      (.done _ _))))

theorem receipt_repeats {received : Received} {w : World}
    (hfirst : Executes pendingWorld (receiveInvoice settings operatorUpload).run (.ok received) w) :
    Executes w (receiveInvoice settings operatorUpload).run (.ok ⟨received.snapshot, none, true⟩)
      w :=
  receive_again settings (by decide) (answered_of_receive settings operatorUpload hfirst).1
    (Sample.env 2)

theorem pendingDb_open : ¬ Completed pendingDb "k1" := by
  rintro ⟨row, hrow, hstate⟩
  obtain rfl := Option.some.inj hrow
  exact absurd hstate (by decide)

/-- The answer to a repeated request lacks the channel that the first one named. -/
theorem repetition_differs : ¬ ∀ received replayed w w',
    Executes pendingWorld (receiveInvoice settings operatorUpload).run (.ok received) w →
    Executes w (receiveInvoice settings operatorUpload).run (.ok replayed) w' →
      response replayed = response received := by
  intro hclaim
  obtain ⟨received, w, hfirst⟩ := receipt_returns
  have hsame := congrArg Prod.snd (hclaim _ _ _ _ hfirst (receipt_repeats hfirst))
  exact pendingDb_open ((answered_of_receive settings operatorUpload hfirst).2.mp hsame.symm)

theorem replays_iff_case : ∃ received w result,
    Executes pendingWorld (receiveInvoice settings operatorUpload).run (.ok received) w ∧
    Executes w (receiveInvoice settings operatorUpload).run result w ∧
    (result = .error .dependency ∨ ∃ replayed, result = .ok replayed ∧
      replayed.snapshot = received.snapshot ∧
      (response replayed = response received ↔ Completed pendingWorld.db "k1")) := by
  obtain ⟨received, w, hfirst⟩ := receipt_returns
  have hagain := receipt_repeats hfirst
  exact ⟨received, w, _, hfirst, hagain, replays_iff settings settings operatorUpload operatorUpload
    ⟨rfl, rfl, rfl, rfl⟩ pendingWorld w w received hfirst [] _ hagain⟩

end Case

end Tally.Analysis.ReceiptReplays
