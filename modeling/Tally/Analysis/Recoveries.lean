import Tally.Analysis.Deliveries
import Tally.Analysis.Ingestions
import Tally.Library.Execution

/-!
# Uploads that are sent again

An upload is sent again after any uploads and any crashes, and nothing fails while it runs: every
transaction commits or raises, its ids are unused, and the object store tells what it was given.
The upload is answered with a stored source of its bytes exactly when its key is bound to no other
request and not left reserved by an attempt that had not recorded its source.
-/

set_option autoImplicit false

namespace Tally.Analysis.Recoveries
open Library Library.Sha256 Tally.Model IntakeRepository IntakeApi Effects Ingestions
open Deliveries (UnusedIds insertEventRow_run)
open ReceiptReplays (requestRow requestRow_key requestRow_of_same requestRow_update
  reservationOf reserveIngestion_of_row)

/-- Sources have keys of their own. -/
theorem objectKey_injective (settings : StoreSettings) :
    Function.Injective (objectKey settings) := by
  intro a b h
  unfold objectKey at h
  have hchars := congrArg String.toList h
  simp only [String.toList_append] at hchars
  have htexts := List.append_cancel_left (List.append_cancel_right hchars)
  exact uuidText_injective (String.toList_injective htexts)

/-! ## Transactions that return -/

section Returning

variable [Sha256] {settings : StoreSettings} {db : Db} {key : String} {row : IngestionRequest}

omit [Sha256] in
theorem loadRequest_returns {hash : String} (hrow : requestRow db key = some row)
    (hhash : row.requestHash = hash) : loadRequest key hash db = .ok (row, db) := by
  unfold loadRequest
  refine Txn.bind_ok.mpr ⟨some row, db, selectRow_ok.mpr ⟨hrow, rfl⟩, ?_⟩
  exact Txn.ite_ok.mpr (Or.inr ⟨not_not.mpr hhash, rfl⟩)

/-- A request that is open has nothing of its invoice. -/
theorem not_started (hinv : Inv settings db) (hrow : requestRow db key = some row)
    (hopen : row.state ≠ .completed) : ¬ Started db row.reservedInvoiceId := by
  intro hstarted
  obtain ⟨s, hs, hinvoice⟩ := (hinv.core.whole _ hstarted).source
  obtain ⟨other, row', hrow', hdone, hreserved, _⟩ := hinv.settled s hs
  have hkey := hinv.core.apart key row other row' hrow hrow'
    (Or.inl (hinvoice.symm.trans hreserved.symm))
  subst hkey
  rw [hrow] at hrow'
  obtain rfl := Option.some.inj hrow'
  exact hopen hdone

/-- And no source has its id. -/
theorem not_sourced (hinv : Inv settings db) (hrow : requestRow db key = some row)
    (hopen : row.state ≠ .completed) : ∀ s ∈ db .invoiceSources, s.id ≠ row.reservedSourceId := by
  intro s hs hid
  obtain ⟨other, row', hrow', hdone, _, hreserved⟩ := hinv.settled s hs
  have hkey := hinv.core.apart key row other row' hrow hrow'
    (Or.inr (hid.symm.trans hreserved.symm))
  subst hkey
  rw [hrow] at hrow'
  obtain rfl := Option.some.inj hrow'
  exact hopen hdone

/-- The ids a receipt takes are unused. -/
structure Unused (env : TxnEnv) (db : Db) : Prop where
  ids : UnusedIds env db
  task : ∀ t ∈ db .workflowTasks, t.id ≠ env.uuid 0

omit [Sha256] in
theorem Unused.of_requests {env : TxnEnv} {db db' : Db} (h : Unused env db)
    (hsame : Schema.SameExcept [.ingestionRequests] db db') : Unused env db' := by
  refine ⟨h.ids.of_same (hsame .invoiceEvents (by decide)) (hsame .eventOutbox (by decide)), ?_⟩
  rw [hsame .workflowTasks (by decide)]
  exact h.task

/-- The rows of an invoice that has nothing yet go in. -/
theorem insertReceipt_returns {env : TxnEnv} {command : FinalizeReceipt}
    {invoiceId sourceId : Uuid} (hstarted : ¬ Started db invoiceId)
    (hdigest : ∀ i ∈ db .invoices, i.sha256 ≠ command.storedSource.sha256)
    (hsources : ∀ s ∈ db .invoiceSources, s.id ≠ sourceId ∧
      s.source.objectKeyPrivate ≠ command.storedSource.objectKeyPrivate)
    (hunused : Unused env db)
    (hposted : ∀ o ∈ db .eventOutbox, ∃ e ∈ db .invoiceEvents, e.id = o.eventId) :
    ∃ db', insertReceipt env command invoiceId sourceId db = .ok ((), db') := by
  unfold Started at hstarted
  simp only [not_or, not_exists, not_and] at hstarted
  obtain ⟨hinvoices, hsourced, htasks, hevents, _⟩ := hstarted
  let db₁ := db.modify .invoices (· ++ [receivedInvoice env command invoiceId])
  let source : InvoiceSource := ⟨sourceId, invoiceId, command.storedSource, "VERSION_VERIFIED"⟩
  let db₂ := db₁.modify .invoiceSources (· ++ [source])
  let task := firstExtractionTask env command invoiceId sourceId
  let db₃ := db₂.modify .workflowTasks (· ++ [task])
  have hknown : ∃ i ∈ db₃ .invoices, i.id = invoiceId :=
    ⟨receivedInvoice env command invoiceId, List.mem_append_right _ List.mem_cons_self, rfl⟩
  have hhas : ∀ db' : Db, db' .invoices = db₃ .invoices → hasInvoice db' invoiceId = true := by
    intro db' hsame
    obtain ⟨i, hi, hid⟩ := hknown
    unfold hasInvoice
    rw [hsame]
    exact List.any_eq_true.mpr ⟨i, hi, decide_eq_true hid⟩
  obtain ⟨db₄, hevent⟩ : ∃ db₄,
      insertEventRow (invoiceReceived env invoiceId sourceId) (env.uuid 2) db₃ = .ok ((), db₄) :=
    insertEventRow_run hknown rfl (fun e he hid => absurd hid (hevents e he))
      ⟨hunused.ids.event, hunused.ids.outbox⟩ hposted
  refine ⟨db₄, ?_⟩
  unfold insertReceipt
  refine Txn.bind_ok.mpr ⟨(), db₁, insertRow_ok.mpr ⟨?_, rfl, rfl⟩, ?_⟩
  · intro i hi
    refine decide_eq_false ?_
    rintro (hid | hsha256)
    · exact hinvoices i hi hid.symm
    · exact hdigest i hi hsha256.symm
  refine Txn.bind_ok.mpr ⟨(), db₂, insertRow_ok.mpr ⟨?_, hhas _ rfl, rfl⟩, ?_⟩
  · intro s hs
    refine decide_eq_false ?_
    rintro (hid | hinvoice | ⟨hobject, _⟩)
    · exact (hsources s hs).1 hid.symm
    · exact hsourced s hs hinvoice.symm
    · exact (hsources s hs).2 hobject.symm
  refine Txn.bind_ok.mpr ⟨(), db₃, insertRow_ok.mpr ⟨?_, hhas _ rfl, rfl⟩, hevent⟩
  intro t ht
  refine decide_eq_false ?_
  rintro (hid | ⟨hinvoice, _⟩)
  · exact hunused.task t ht hid.symm
  · exact htasks t ht hinvoice.symm

/-- A request with a stored source of new bytes is finalized. -/
theorem finalizeReceivedInvoice_returns {env : TxnEnv} {command : FinalizeReceipt}
    (hinv : Inv settings db) (hrow : requestRow db command.idempotencyKey = some row)
    (hhash : row.requestHash = command.requestHash) (hstate : row.state = .sourceStoredDbPending)
    (hsource : row.storedSource = some command.storedSource)
    (hdigest : ∀ i ∈ db .invoices, i.sha256 ≠ command.storedSource.sha256)
    (hunused : Unused env db) :
    ∃ r db', finalizeReceivedInvoice env command db = .ok (r, db') := by
  have hopen : row.state ≠ .completed := by
    rw [hstate]
    decide
  have hobject := ((hinv.core.sound _ row hrow).source _ hsource).2
  have hsources : ∀ s ∈ db .invoiceSources, s.id ≠ row.reservedSourceId ∧
      s.source.objectKeyPrivate ≠ command.storedSource.objectKeyPrivate := by
    intro s hs
    have hid := not_sourced hinv hrow hopen s hs
    refine ⟨hid, fun hsame => hid ?_⟩
    rw [(hinv.core.bound s hs).key, hobject] at hsame
    exact objectKey_injective settings hsame
  obtain ⟨db₁, hinsert⟩ : ∃ db₁, insertReceipt env command row.reservedInvoiceId
      row.reservedSourceId db = .ok ((), db₁) :=
    insertReceipt_returns (not_started hinv hrow hopen) hdigest hsources hunused hinv.core.posted
  let snapshot : ReceiptSnapshot := ⟨row.reservedInvoiceId, row.reservedSourceId,
    command.displayName, command.mimeType, env.now⟩
  obtain ⟨db₂, hupdate⟩ : ∃ db₂, updateRequest command.idempotencyKey (fun r =>
      { r with state := .completed, responseSnapshot := some snapshot }) db₁ = .ok ((), db₂) :=
    ⟨_, updateRows_ok.mpr rfl⟩
  unfold finalizeReceivedInvoice
  refine ⟨snapshot, db₂, Txn.bind_ok.mpr ⟨row, db, loadRequest_returns hrow hhash, ?_⟩⟩
  refine Txn.ite_ok.mpr (Or.inr ⟨hopen, ?_⟩)
  refine Txn.ite_ok.mpr (Or.inr ⟨by rw [hstate]; decide, ?_⟩)
  refine Txn.ite_ok.mpr (Or.inr ⟨not_not.mpr hsource, ?_⟩)
  exact Txn.bind_ok.mpr ⟨(), db₁, hinsert, Txn.bind_ok.mpr ⟨(), db₂, hupdate, rfl⟩⟩

omit [Sha256] in
/-- A request that is open is completed by a source with its digest. -/
theorem completeDuplicateIngestion_returns {hash sha256 : String} {invoiceId sourceId : Uuid}
    {snapshot : ReceiptSnapshot} (hrow : requestRow db key = some row)
    (hhash : row.requestHash = hash) (hopen : row.state ≠ .completed)
    (hbound : sourceBoundTo db invoiceId sourceId sha256 = true) :
    ∃ r db', completeDuplicateIngestion key hash invoiceId sourceId sha256 snapshot db =
      .ok (r, db') := by
  obtain ⟨db₁, hupdate⟩ : ∃ db₁, updateRequest key (fun r =>
      { r with
        state := .completed
        responseSnapshot := some snapshot
        deduplicatedInvoiceId := some invoiceId
        deduplicatedSourceId := some sourceId }) db = .ok ((), db₁) :=
    ⟨_, updateRows_ok.mpr rfl⟩
  unfold completeDuplicateIngestion
  refine ⟨snapshot, db₁, Txn.bind_ok.mpr ⟨row, db, loadRequest_returns hrow hhash, ?_⟩⟩
  refine Txn.ite_ok.mpr (Or.inr ⟨hopen, ?_⟩)
  refine Txn.bind_ok.mpr ⟨_, db, Txn.read_ok.mpr ⟨rfl, rfl⟩, ?_⟩
  refine Txn.ite_ok.mpr (Or.inr ⟨by rw [hbound]; decide, ?_⟩)
  exact Txn.bind_ok.mpr ⟨(), db₁, hupdate, rfl⟩

omit [Sha256] in
/-- An open request has its source recorded. -/
theorem recordSourceStored_returns {hash : String} {source : StoredInvoiceSource}
    (hrow : requestRow db key = some row) (hhash : row.requestHash = hash)
    (hopen : row.state ≠ .completed) :
    ∃ db', recordSourceStored key hash source db = .ok ((), db') ∧ requestRow db' key =
      some { row with state := .sourceStoredDbPending, storedSource := some source } := by
  obtain ⟨db₁, hupdate⟩ : ∃ db₁, updateRequest key (fun r =>
      { r with state := .sourceStoredDbPending, storedSource := some source }) db =
        .ok ((), db₁) :=
    ⟨_, updateRows_ok.mpr rfl⟩
  refine ⟨db₁, ?_, ?_⟩
  · unfold recordSourceStored
    refine Txn.bind_ok.mpr ⟨row, db, loadRequest_returns hrow hhash, ?_⟩
    exact Txn.ite_ok.mpr (Or.inr ⟨hopen, hupdate⟩)
  · rw [requestRow_update hupdate (fun _ => rfl), hrow, Option.map_some,
      if_pos (requestRow_key hrow)]

/-! ## Reads -/

omit [Sha256] in
theorem mem_sourcesOf {selects : Invoice → Bool} {p : Invoice × InvoiceSource} :
    p ∈ sourcesOf db selects ↔ (p.1 ∈ db .invoices ∧ selects p.1 = true) ∧
      p.2 ∈ db .invoiceSources ∧ p.2.invoiceId = p.1.id := by
  unfold sourcesOf
  simp only [List.mem_flatMap, List.mem_map, List.mem_filter, decide_eq_true_eq]
  constructor
  · rintro ⟨i, hi, s, hs, rfl⟩
    exact ⟨hi, hs⟩
  · rintro ⟨hi, hs⟩
    exact ⟨p.1, hi, p.2, hs, rfl⟩

omit [Sha256] in
/-- What is found of a digest is a source of an invoice of that digest. -/
theorem findInvoiceBySha_some {sha256 : String} {invoiceId sourceId : Uuid}
    (h : findInvoiceBySha db sha256 = some (invoiceId, sourceId)) :
    ∃ i ∈ db .invoices, ∃ s ∈ db .invoiceSources, i.sha256 = sha256 ∧ i.id = invoiceId ∧
      s.invoiceId = invoiceId ∧ s.id = sourceId := by
  unfold findInvoiceBySha at h
  obtain ⟨p, hp, heq⟩ := Option.map_eq_some_iff.mp h
  obtain ⟨⟨hi, hselected⟩, hs, hinvoice⟩ := mem_sourcesOf.mp (mem_of_head?_insertionSort hp)
  simp only [Prod.mk.injEq] at heq
  obtain ⟨rfl, rfl⟩ := heq
  exact ⟨p.1, hi, p.2, hs, of_decide_eq_true hselected, rfl, hinvoice, rfl⟩

/-- Where nothing is found, no invoice has the digest. -/
theorem findInvoiceBySha_none {sha256 : String} (hinv : Inv settings db)
    (h : findInvoiceBySha db sha256 = none) : ∀ i ∈ db .invoices, i.sha256 ≠ sha256 := by
  intro i hi hsha256
  obtain ⟨s, hs, hinvoice⟩ := (hinv.core.whole i.id (Or.inl ⟨i, hi, rfl⟩)).source
  have hmem : (i, s) ∈ sourcesOf db fun i => i.sha256 = sha256 :=
    mem_sourcesOf.mpr ⟨⟨hi, decide_eq_true hsha256⟩, hs, hinvoice⟩
  unfold findInvoiceBySha at h
  have hsome := head?_insertionSort_isSome (r := receiptOrder) (List.ne_nil_of_mem hmem)
  rw [Option.map_eq_none_iff.mp h] at hsome
  exact absurd hsome (by simp)

/-- The projection of an invoice shows the one source it has. -/
theorem loadInvoiceProjection_found (hinv : Inv settings db) {i : Invoice} {s : InvoiceSource}
    (hi : i ∈ db .invoices) (hs : s ∈ db .invoiceSources) (hinvoice : s.invoiceId = i.id) :
    ∃ snapshot, loadInvoiceProjection db i.id = some snapshot ∧ snapshot.invoiceId = i.id ∧
      snapshot.sourceId = s.id := by
  have hmem : (i, s) ∈ sourcesOf db fun j => j.id = i.id :=
    mem_sourcesOf.mpr ⟨⟨hi, decide_eq_true rfl⟩, hs, hinvoice⟩
  unfold loadInvoiceProjection
  cases hhead : (sourcesOf db fun j => j.id = i.id).head? with
  | none => exact absurd (List.head?_eq_none_iff.mp hhead) (List.ne_nil_of_mem hmem)
  | some p =>
      obtain ⟨⟨_, hselected⟩, hs', hinvoice'⟩ :=
        mem_sourcesOf.mp (List.mem_of_mem_head? (Option.mem_def.mpr hhead))
      have hsame : p.2 = s := eq_of_key hinv.core.single hs' hs
        ((hinvoice'.trans (of_decide_eq_true hselected)).trans hinvoice.symm)
      exact ⟨_, rfl, rfl, congrArg InvoiceSource.id hsame⟩

end Returning

/-! ## Calls without faults -/

/-- What an upload is given while nothing fails: what its transactions take from outside, the
version the object store assigns, and the carrier. -/
structure Resources where
  reserving : TxnEnv
  finalizing : TxnEnv
  versionId : String
  carrierId : Uuid

/-- The database, and the bodies in the object store. -/
structure Service where
  db : Db
  objects : String → Option Bytes

/-- A transaction that nothing disturbs. -/
def commit {α : Type} (m : Tx α) (s : Service) : Except Failure α × Service :=
  match m s.db with
  | .ok (a, db) => (.ok a, { s with db })
  | .error e => (.error (.raised e), s)

theorem commit_returns {α : Type} {m : Tx α} {s : Service} {a : α} {db : Db}
    (h : m s.db = .ok (a, db)) : commit m s = (.ok a, { s with db }) := by
  unfold commit
  rw [h]

theorem commit_raises {α : Type} {m : Tx α} {s : Service} (h : ∀ a db, m s.db ≠ .ok (a, db)) :
    ∃ e, commit m s = (.error (.raised e), s) := by
  unfold commit
  cases hm : m s.db with
  | ok p => exact absurd hm (h p.1 p.2)
  | error e => exact ⟨e, rfl⟩

section Running

variable [Sha256]

/-- What the object store says of a body it has. -/
def headOf (r : Resources) (body : Bytes) : ObjectHead where
  versionId := some r.versionId
  contentLength := some body.length
  tallySha256 := some (hexdigest body)
  checksumSha256 := some (digest body)

/-- The reply to a call, and the state it leaves. -/
def answer (r : Resources) : (e : Effect) → Service → Reply e × Service
  | .reserveIngestion key hash, s => commit (reserveIngestion r.reserving key hash) s
  | .findInvoiceBySha sha256, s => (.ok (findInvoiceBySha s.db sha256), s)
  | .loadInvoiceProjection invoiceId, s => (.ok (loadInvoiceProjection s.db invoiceId), s)
  | .completeDuplicateIngestion key hash invoiceId sourceId sha256 snapshot, s =>
    commit (completeDuplicateIngestion key hash invoiceId sourceId sha256 snapshot) s
  | .putObject key body, s =>
    (.ok (some r.versionId), { s with objects := Function.update s.objects key (some body) })
  | .headObject key _, s =>
    match s.objects key with
    | some body => (.ok (headOf r body), s)
    | none => (.error .dependency, s)
  | .recordSourceStored key hash source, s => commit (recordSourceStored key hash source) s
  | .loadDemoCarrierId, s => (.ok (some r.carrierId), s)
  | .finalizeReceivedInvoice command, s =>
    commit (finalizeReceivedInvoice r.finalizing command) s

variable (r : Resources)

abbrev run {α : Type} (p : Receive α) (s : Service) : Except ReceiveError α × Service :=
  Prog.exec (answer r) p.run s

theorem run_perform {e : Effect} {α : Type} {f : Reply e → Receive α} {s : Service} :
    run r (perform e >>= f) s = run r (f (answer r e s).1) (answer r e s).2 := rfl

theorem run_throw {α : Type} {e : ReceiveError} {s : Service} :
    run r (throw e : Receive α) s = (.error e, s) := rfl

theorem run_orThrow_error {α β : Type} {f : α → Receive β} {failure : Failure} {s : Service} :
    run r (orThrow (.error failure) >>= f) s = (.error failure.error, s) := rfl

/-- A part of an upload that returns an answer with the bytes of the upload. -/
def Returns (upload : Upload) (p : Receive Received) (s : Service) : Prop :=
  ∃ received s', run r p s = (.ok received, s') ∧ Answer upload received s'.db

variable {settings : StoreSettings} {upload : Upload} {row : IngestionRequest} {s : Service}

/-- An upload of bytes that are known is answered with their source. -/
theorem duplicate_returns (hfree : CollisionFree) (hallowed : Allowed upload)
    (hinv : Inv settings s.db) (hrow : requestRow s.db upload.idempotencyKey = some row)
    (hhash : row.requestHash = upload.requestHash) (hopen : row.state ≠ .completed)
    {invoiceId sourceId : Uuid}
    (hfound : findInvoiceBySha s.db upload.sha256 = some (invoiceId, sourceId)) :
    Returns r upload (receiveDuplicate upload invoiceId sourceId) s := by
  obtain ⟨i, hi, source, hsource, hsha256, rfl, hinvoice, rfl⟩ := findInvoiceBySha_some hfound
  obtain ⟨snapshot, hload, hprojected, hshown⟩ :=
    loadInvoiceProjection_found hinv hi hsource hinvoice
  have hdigest : source.source.sha256 = upload.sha256 :=
    ((hinv.core.bound source hsource).digest i hi hinvoice.symm).symm.trans hsha256
  have hbound : sourceBoundTo s.db i.id source.id upload.sha256 = true := by
    unfold sourceBoundTo
    rw [Bool.and_eq_true]
    exact ⟨List.any_eq_true.mpr ⟨i, hi, decide_eq_true ⟨rfl, hsha256⟩⟩,
      List.any_eq_true.mpr ⟨source, hsource, decide_eq_true ⟨hinvoice, rfl, hdigest⟩⟩⟩
  obtain ⟨stored, db', hdone⟩ : ∃ stored db', completeDuplicateIngestion upload.idempotencyKey
      upload.requestHash i.id source.id upload.sha256 snapshot s.db = .ok (stored, db') :=
    completeDuplicateIngestion_returns hrow hhash hopen hbound
  have hsafe := (completeDuplicateIngestion_safe hdone).2
    ⟨fits_upload hallowed, hprojected, hshown⟩ hinv
  refine ⟨⟨stored, some upload.importSource, true⟩, { s with db := db' }, ?_,
    answer_of_stored hfree hallowed hsafe.2⟩
  have hprojection : answer r (.loadInvoiceProjection i.id) s = (.ok (some snapshot), s) :=
    congrArg (fun found => (Except.ok found, s)) hload
  have hcompleted : answer r (.completeDuplicateIngestion upload.idempotencyKey
      upload.requestHash i.id source.id upload.sha256 snapshot) s =
        (.ok stored, { s with db := db' }) := commit_returns hdone
  unfold receiveDuplicate
  rw [run_perform, hprojection]
  show run r (if snapshot.sourceId ≠ source.id then _ else _) s = _
  rw [if_neg (not_not.mpr hshown), run_perform, hcompleted]
  rfl

variable [CharacterTables]

/-- The state once a body is put. -/
def Service.putBody (s : Service) (key : String) (body : Bytes) : Service :=
  { s with objects := Function.update s.objects key (some body) }

/-- What is preserved of a body. -/
def preserved (settings : StoreSettings) (r : Resources) (sourceId : Uuid) (body : Bytes) :
    StoredInvoiceSource :=
  ⟨settings.bucket, objectKey settings sourceId, r.versionId, hexdigest body, body.length⟩

/-- A body that is put is preserved. -/
theorem preserve_returns (hversion : ¬ r.versionId.toList.all CharacterTables.isSpace)
    (sourceId : Uuid) (body : Bytes) :
    run r (preserve settings sourceId body) s =
      (.ok (preserved settings r sourceId body),
        s.putBody (objectKey settings sourceId) body) := by
  have hput : answer r (.putObject (objectKey settings sourceId) body) s =
      (.ok (some r.versionId), s.putBody (objectKey settings sourceId) body) := rfl
  have hhead : answer r (.headObject (objectKey settings sourceId) r.versionId)
      (s.putBody (objectKey settings sourceId) body) =
        (.ok (headOf r body), s.putBody (objectKey settings sourceId) body) := by
    unfold answer Service.putBody
    dsimp only
    rw [Function.update_self]
  have hfault : headFault (headOf r body) r.versionId body = none := by
    unfold headFault headOf
    simp
  unfold preserve
  rw [run_perform, hput]
  show run r (if r.versionId.toList.all CharacterTables.isSpace then _ else _) _ = _
  rw [if_neg hversion, run_perform, hhead]
  dsimp only
  rw [hfault]
  rfl

/-- A reservation without a source has the body of the upload preserved and recorded. -/
theorem storeSource_returns {reservation : IngestionReservation} (hbucket : settings.bucket ≠ "")
    (hversion : ¬ r.versionId.toList.all CharacterTables.isSpace)
    (hnone : reservation.storedSource = none) {db : Db}
    (hrecord : recordSourceStored upload.idempotencyKey upload.requestHash
      (preserved settings r reservation.sourceId upload.body) s.db = .ok ((), db)) :
    run r (storeSource settings upload reservation) s =
      (.ok (preserved settings r reservation.sourceId upload.body),
        { s.putBody (objectKey settings reservation.sourceId) upload.body with db }) := by
  have hpreserve : run r (preserve settings reservation.sourceId upload.body) s = _ :=
    preserve_returns r hversion reservation.sourceId upload.body
  have hrecorded : answer r (.recordSourceStored upload.idempotencyKey upload.requestHash
      (preserved settings r reservation.sourceId upload.body))
        (s.putBody (objectKey settings reservation.sourceId) upload.body) =
          (.ok (), { s.putBody (objectKey settings reservation.sourceId) upload.body with db }) :=
    commit_returns hrecord
  unfold storeSource
  rw [hnone]
  dsimp only
  rw [if_neg hbucket]
  show Prog.exec (answer r) (preserve settings reservation.sourceId upload.body >>= _).run s = _
  rw [Prog.exec_except_bind_ok (answer r) hpreserve]
  show run r (perform _ >>= _) _ = _
  rw [run_perform, hrecorded]
  rfl

/-- An upload of new bytes is answered once its source is stored. -/
theorem source_returns (hfree : CollisionFree) (hallowed : Allowed upload)
    {reservation : IngestionReservation} {source : StoredInvoiceSource} {s' : Service}
    (hstore : run r (storeSource settings upload reservation) s = (.ok source, s'))
    (hinv : Inv settings s'.db) (hrow : requestRow s'.db upload.idempotencyKey = some row)
    (hhash : row.requestHash = upload.requestHash) (hstate : row.state = .sourceStoredDbPending)
    (hsource : row.storedSource = some source)
    (hdigest : ∀ i ∈ s'.db .invoices, i.sha256 ≠ upload.sha256)
    (hunused : Unused r.finalizing s'.db) :
    Returns r upload (receiveSource settings upload reservation) s := by
  let command : FinalizeReceipt :=
    { idempotencyKey := upload.idempotencyKey
      requestHash := upload.requestHash
      carrierId := r.carrierId
      displayName := upload.displayFilename
      mimeType := "application/pdf"
      storedSource := source
      actorId := upload.actorId
      actorDisplay := upload.actorDisplay }
  have hfits := ((hinv.core.sound _ row hrow).source source hsource).1
  rw [hhash] at hfits
  have hsha256 : source.sha256 = upload.sha256 := sha256_of_fits hfree hallowed hfits
  obtain ⟨snapshot, db', hdone⟩ : ∃ snapshot db',
      finalizeReceivedInvoice r.finalizing command s'.db = .ok (snapshot, db') :=
    finalizeReceivedInvoice_returns hinv hrow hhash hstate hsource
      (fun i hi => by
        rw [hsha256]
        exact hdigest i hi) hunused
  have hsafe := (finalizeReceivedInvoice_safe hdone).2 hinv
  refine ⟨⟨snapshot, some upload.importSource, false⟩, { s' with db := db' }, ?_,
    answer_of_stored hfree hallowed hsafe.2⟩
  have hfinalized : answer r (.finalizeReceivedInvoice command) s' =
      (.ok snapshot, { s' with db := db' }) := commit_returns hdone
  unfold receiveSource
  show Prog.exec (answer r) (storeSource settings upload reservation >>= _).run s = _
  rw [Prog.exec_except_bind_ok (answer r) hstore]
  show run r (perform (.finalizeReceivedInvoice command) >>= _) s' = _
  rw [run_perform, hfinalized]
  rfl

/-! ## The upload sent again -/

/-- What an upload needs of the platform to run without faults. -/
structure Serves (settings : StoreSettings) (r : Resources) (db : Db) : Prop where
  bucket : settings.bucket ≠ ""
  version : ¬ r.versionId.toList.all CharacterTables.isSpace
  reserved : ∀ q ∈ db .ingestionRequests,
    q.reservedInvoiceId ≠ r.reserving.uuid 0 ∧ q.reservedSourceId ≠ r.reserving.uuid 1
  unused : Unused r.finalizing db

/-- The key of an upload is bound to no other request, and not left reserved. -/
def Resumable (upload : Upload) (db : Db) : Prop :=
  ∀ row, requestRow db upload.idempotencyKey = some row →
    row.requestHash = upload.requestHash ∧ row.state ≠ .reserved

/-- What follows the reservation of a request that is open. -/
def proceed (settings : StoreSettings) (upload : Upload) (reservation : IngestionReservation) :
    Receive Received := do
  match ← orThrow (← perform (.findInvoiceBySha upload.sha256)) with
  | some (invoiceId, sourceId) => receiveDuplicate upload invoiceId sourceId
  | none => receiveSource settings upload reservation

theorem receive_proceeds {reservation : IngestionReservation} {s' : Service}
    (hallowed : Allowed upload)
    (hreserve : answer r (.reserveIngestion upload.idempotencyKey upload.requestHash) s =
      (.ok reservation, s')) (hopen : reservation.state ≠ .completed)
    (hresumes : ¬ (reservation.state = .reserved ∧ reservation.isNew = false)) :
    run r (receiveInvoice settings upload) s = run r (proceed settings upload reservation) s' := by
  unfold receiveInvoice
  rw [if_neg (not_not.mpr hallowed.channel), run_perform, hreserve]
  show run r (if reservation.state = .completed then _ else _) s' = _
  rw [if_neg hopen, if_neg hresumes]
  rfl

/-- An open request is answered, by its own source or by one that has the bytes already. -/
theorem proceed_returns (hfree : CollisionFree) (hallowed : Allowed upload)
    (hinv : Inv settings s.db) (hrow : requestRow s.db upload.idempotencyKey = some row)
    (hhash : row.requestHash = upload.requestHash) (hopen : row.state ≠ .completed)
    {reservation : IngestionReservation}
    (hsource : (∀ i ∈ s.db .invoices, i.sha256 ≠ upload.sha256) →
      Returns r upload (receiveSource settings upload reservation) s) :
    Returns r upload (proceed settings upload reservation) s := by
  cases hfound : findInvoiceBySha s.db upload.sha256 with
  | none =>
      obtain ⟨received, s', hrun, hanswer⟩ := hsource (findInvoiceBySha_none hinv hfound)
      refine ⟨received, s', ?_, hanswer⟩
      have hreply : answer r (.findInvoiceBySha upload.sha256) s = (.ok none, s) :=
        congrArg (fun found => (Except.ok found, s)) hfound
      unfold proceed
      rw [run_perform, hreply]
      exact hrun
  | some ids =>
      obtain ⟨received, s', hrun, hanswer⟩ :=
        duplicate_returns r hfree hallowed hinv hrow hhash hopen hfound
      refine ⟨received, s', ?_, hanswer⟩
      have hreply : answer r (.findInvoiceBySha upload.sha256) s = (.ok (some ids), s) :=
        congrArg (fun found => (Except.ok found, s)) hfound
      unfold proceed
      rw [run_perform, hreply]
      exact hrun

/-- The first upload of a key, or one sent again after an attempt that reserved nothing. -/
theorem first_returns (hfree : CollisionFree) (hallowed : Allowed upload)
    (hinv : Inv settings s.db) (hserves : Serves settings r s.db)
    (hnone : requestRow s.db upload.idempotencyKey = none) :
    Returns r upload (receiveInvoice settings upload) s := by
  obtain ⟨hrow, hreserve⟩ : _ ∧ reserveIngestion r.reserving upload.idempotencyKey
      upload.requestHash s.db = _ := reserveIngestion_new hnone hserves.reserved
  let row := newRequest r.reserving upload.idempotencyKey upload.requestHash
  let db₁ := s.db.modify .ingestionRequests (· ++ [row])
  have hinv₁ : Inv settings db₁ := (reserveIngestion_safe hreserve).1.2 trivial hinv
  have hsame : Schema.SameExcept [.ingestionRequests] s.db db₁ :=
    Schema.sameExcept_modify s.db (by simp) _
  have hreserved : answer r (.reserveIngestion upload.idempotencyKey upload.requestHash) s =
      (.ok (reservationOf row r.reserving), { s with db := db₁ }) := commit_returns hreserve
  have hstate : row.state = .reserved := rfl
  have hopen : row.state ≠ .completed := by
    rw [hstate]
    decide
  have hisNew : (reservationOf row r.reserving).isNew = true := decide_eq_true rfl
  have hreturns : Returns r upload (proceed settings upload (reservationOf row r.reserving))
      { s with db := db₁ } := by
    refine proceed_returns r hfree hallowed hinv₁ hrow rfl hopen fun hdigest => ?_
    obtain ⟨db₂, hrecord, hrow₂⟩ : ∃ db₂, recordSourceStored upload.idempotencyKey
        upload.requestHash (preserved settings r row.reservedSourceId upload.body) db₁ =
          .ok ((), db₂) ∧ _ := recordSourceStored_returns hrow rfl hopen
    have hrecords : Records settings upload.idempotencyKey upload.requestHash
        (preserved settings r row.reservedSourceId upload.body) db₁ :=
      ⟨fits_upload hallowed, row, hrow, rfl⟩
    have hinv₂ : Inv settings db₂ := (recordSourceStored_safe hrecord).2 hrecords hinv₁
    have hsame₂ := recordSourceStored_same hrecord
    refine source_returns r hfree hallowed
      (storeSource_returns r hserves.bucket hserves.version rfl hrecord) hinv₂ hrow₂ rfl rfl rfl
      ?_ ((hserves.unused.of_requests hsame).of_requests hsame₂)
    show ∀ i ∈ db₂ .invoices, _
    rw [hsame₂ .invoices (by decide)]
    exact hdigest
  obtain ⟨received, s', hrun, hanswer⟩ := hreturns
  refine ⟨received, s', ?_, hanswer⟩
  rw [receive_proceeds r hallowed hreserved hopen (fun hstuck => by simp [hisNew] at hstuck)]
  exact hrun

/-- An upload sent again when its source is stored, or it is answered already. -/
theorem again_returns (hfree : CollisionFree) (hallowed : Allowed upload)
    (hinv : Inv settings s.db) (hunused : Unused r.finalizing s.db)
    (hrow : requestRow s.db upload.idempotencyKey = some row)
    (hhash : row.requestHash = upload.requestHash) (hstate : row.state ≠ .reserved) :
    Returns r upload (receiveInvoice settings upload) s := by
  have hreserved : answer r (.reserveIngestion upload.idempotencyKey upload.requestHash) s =
      (.ok (reservationOf row r.reserving), s) :=
    commit_returns (reserveIngestion_of_row hrow hhash r.reserving)
  have hfaithful := hinv.core.sound _ row hrow
  cases hcase : row.state with
  | reserved => exact absurd hcase hstate
  | completed =>
      obtain ⟨snapshot, sha256, hresponse, hstored, hfits⟩ := hfaithful.answer hcase
      rw [hhash] at hfits
      refine ⟨⟨snapshot, none, true⟩, s, ?_,
        answer_of_stored hfree hallowed ⟨sha256, hstored, hfits⟩⟩
      have hanswered : (reservationOf row r.reserving).responseSnapshot = some snapshot := hresponse
      unfold receiveInvoice
      rw [if_neg (not_not.mpr hallowed.channel), run_perform, hreserved]
      show run r (if (reservationOf row r.reserving).state = .completed then _ else _) s = _
      have hdone : (reservationOf row r.reserving).state = .completed := hcase
      rw [if_pos hdone, hanswered]
      rfl
  | sourceStoredDbPending =>
      obtain ⟨source, hsource⟩ := Option.isSome_iff_exists.mp (hfaithful.pending hcase)
      have hopen : row.state ≠ .completed := by
        rw [hcase]
        decide
      have hkept : run r (storeSource settings upload (reservationOf row r.reserving)) s =
          (.ok source, s) := by
        have hstored : (reservationOf row r.reserving).storedSource = some source := hsource
        unfold storeSource
        rw [hstored]
        rfl
      obtain ⟨received, s', hrun, hanswer⟩ : Returns r upload
          (proceed settings upload (reservationOf row r.reserving)) s :=
        proceed_returns r hfree hallowed hinv hrow hhash hopen fun hdigest =>
          source_returns r hfree hallowed hkept hinv hrow hhash hcase hsource hdigest hunused
      refine ⟨received, s', ?_, hanswer⟩
      rw [receive_proceeds r hallowed hreserved hopen (fun hstuck => hstate hstuck.1)]
      exact hrun

/-- An upload of a key that is bound to another request, or left reserved, is refused. -/
theorem resumable_of_returns (hallowed : Allowed upload) (hserves : Serves settings r s.db)
    (h : Returns r upload (receiveInvoice settings upload) s) : Resumable upload s.db := by
  obtain ⟨received, s', hrun, _⟩ := h
  intro row hrow
  unfold receiveInvoice at hrun
  rw [if_neg (not_not.mpr hallowed.channel), run_perform] at hrun
  by_cases hhash : row.requestHash = upload.requestHash
  · refine ⟨hhash, fun hstate => ?_⟩
    have hreserved : answer r (.reserveIngestion upload.idempotencyKey upload.requestHash) s =
        (.ok (reservationOf row r.reserving), s) :=
      commit_returns (reserveIngestion_of_row hrow hhash r.reserving)
    have hold : (reservationOf row r.reserving).isNew = false :=
      decide_eq_false (hserves.reserved row (List.mem_of_find?_eq_some hrow)).1
    have hopen : (reservationOf row r.reserving).state ≠ .completed := by
      show row.state ≠ .completed
      rw [hstate]
      decide
    rw [hreserved] at hrun
    change run r (if (reservationOf row r.reserving).state = .completed then _ else _) s = _
      at hrun
    rw [if_neg hopen, if_pos ⟨hstate, hold⟩, run_throw] at hrun
    exact absurd (congrArg Prod.fst hrun) (by simp)
  · obtain ⟨e, hraised⟩ : ∃ e, answer r
        (.reserveIngestion upload.idempotencyKey upload.requestHash) s = (.error (.raised e), s) :=
      commit_raises fun _ _ => reserveIngestion_conflict settings hrow hhash
    rw [hraised, run_orThrow_error] at hrun
    exact absurd (congrArg Prod.fst hrun) (by simp)

variable {ι : Type} [DecidableEq ι] (uploads : ι → Upload)

end Running

/-! ## A case -/

section Case

local instance caseSha : Sha256 := Sha256.agreeingOn []

local instance caseCharacters : CharacterTables := Sample.ascii

def caseResources : Resources := ⟨Sample.env 2, Sample.env 3, "v1", 7⟩

theorem caseVersion_named : ¬ caseResources.versionId.toList.all CharacterTables.isSpace := by
  decide +kernel

theorem serves_empty : Serves caseSettings caseResources Db.empty where
  bucket := by decide
  version := caseVersion_named
  reserved q hq := absurd hq List.not_mem_nil
  unused := ⟨⟨fun e he => absurd he List.not_mem_nil, fun o ho => absurd ho List.not_mem_nil⟩,
    fun t ht => absurd ht List.not_mem_nil⟩

theorem serves_reserved : Serves caseSettings caseResources (caseDb []) where
  bucket := by decide
  version := caseVersion_named
  reserved q hq := by
    rw [List.mem_singleton.mp hq]
    exact ⟨by decide, by decide⟩
  unused := serves_empty.unused.of_requests (Schema.sameExcept_modify _ (by simp) _)

end Case

end Tally.Analysis.Recoveries
