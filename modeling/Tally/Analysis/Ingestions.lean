import Tally.Analysis.ReceiptReplays

/-!
# Uploads that race

Any number of uploads run over one database, in any order and with a crash behind any of their
calls. An upload that returns names a source with the bytes of that upload; no two invoices have
the same bytes; the request hash a key was first used with stays; and an invoice, its source, its
first task, its first event and the outbox row of that event are there together.
-/

set_option autoImplicit false

namespace Tally.Analysis.Ingestions
open Library Library.Sha256 Tally.Model IntakeRepository IntakeApi Effects
open ReceiptReplays (requestRow requestRow_key requestRow_of_same requestRow_update
  loadRequest_found completedOr_cases)

/-! ## Uploads of one hash -/

/-- What follows the body in the bytes an upload is recognised by. -/
def channelBytes (demoScenario importSource : String) : Bytes :=
  0 :: encode demoScenario ++ 0 :: encode importSource

theorem fingerprint_eq (upload : Upload) :
    upload.fingerprint = upload.body ++ channelBytes upload.demoScenario upload.importSource := by
  unfold Upload.fingerprint channelBytes
  simp

/-- Channels whose bytes end alike have equally many. -/
theorem channelBytes_length : ∀ s ∈ allowedScenarios, ∀ i ∈ allowedImportSources,
    ∀ s' ∈ allowedScenarios, ∀ i' ∈ allowedImportSources,
      (channelBytes s i).getLast? = (channelBytes s' i').getLast? →
        (channelBytes s i).length = (channelBytes s' i').length := by
  decide +kernel

/-- The checks of the route, and of the receipt before its first call. -/
structure Allowed (upload : Upload) : Prop where
  scenario : upload.demoScenario ∈ allowedScenarios
  channel : upload.importSource ∈ allowedImportSources

/-- Allowed uploads of one fingerprint have one body. -/
theorem body_eq_of_fingerprint {a b : Upload} (ha : Allowed a) (hb : Allowed b)
    (h : a.fingerprint = b.fingerprint) : a.body = b.body := by
  rw [fingerprint_eq, fingerprint_eq] at h
  have hne : ∀ s i, channelBytes s i ≠ [] := fun _ _ => by simp [channelBytes]
  have hlast := congrArg List.getLast? h
  rw [List.getLast?_append_of_ne_nil _ (hne _ _), List.getLast?_append_of_ne_nil _ (hne _ _)]
    at hlast
  have hlength := channelBytes_length _ ha.scenario _ ha.channel _ hb.scenario _ hb.channel hlast
  exact (List.append_inj' h hlength).1

section Hashing

variable [Sha256]

/-- A request hash belongs to the digest of the body of an allowed upload. -/
def Fits (hash sha256 : String) : Prop :=
  ∃ upload : Upload, Allowed upload ∧ upload.requestHash = hash ∧ upload.sha256 = sha256

/-- A request hash belongs to one digest. -/
theorem sha256_of_fits (hfree : CollisionFree) {upload : Upload} (hallowed : Allowed upload)
    {sha256 : String} (h : Fits upload.requestHash sha256) : sha256 = upload.sha256 := by
  obtain ⟨other, hother, hhash, rfl⟩ := h
  have hfingerprint := hexdigest_injective hfree hhash
  unfold Upload.sha256
  rw [body_eq_of_fingerprint hother hallowed hfingerprint]

/-! ## The invariant -/

variable (settings : StoreSettings)

/-- The source of a snapshot is stored. -/
def Stored (db : Db) (snapshot : ReceiptSnapshot) (sha256 : String) : Prop :=
  ∃ s ∈ db .invoiceSources, s.invoiceId = snapshot.invoiceId ∧ s.id = snapshot.sourceId ∧
    s.source.sha256 = sha256

/-- What a request has stored and answered has the digest of its hash, and the key of its
source. -/
structure Faithful (db : Db) (row : IngestionRequest) : Prop where
  source : ∀ s, row.storedSource = some s →
    Fits row.requestHash s.sha256 ∧ s.objectKeyPrivate = objectKey settings row.reservedSourceId
  pending : row.state = .sourceStoredDbPending → row.storedSource.isSome
  answer : row.state = .completed → ∃ snapshot sha256, row.responseSnapshot = some snapshot ∧
    Stored db snapshot sha256 ∧ Fits row.requestHash sha256

/-- An invoice with all that is inserted with it. -/
structure Whole (db : Db) (id : Uuid) : Prop where
  invoice : ∃ i ∈ db .invoices, i.id = id
  source : ∃ s ∈ db .invoiceSources, s.invoiceId = id
  task : ∃ t ∈ db .workflowTasks, t.invoiceId = id ∧ t.taskType = .extractInvoiceClaims ∧
    t.taskVersion = 1
  event : ∃ e ∈ db .invoiceEvents, e.invoiceId = id ∧ e.sequence = 1 ∧
    e.eventType = "invoice.received" ∧
      ∃ o ∈ db .eventOutbox, o.invoiceId = id ∧ o.eventId = e.id

/-- There is something of an invoice. -/
def Started (db : Db) (id : Uuid) : Prop :=
  (∃ i ∈ db .invoices, i.id = id) ∨ (∃ s ∈ db .invoiceSources, s.invoiceId = id) ∨
    (∃ t ∈ db .workflowTasks, t.invoiceId = id) ∨ (∃ e ∈ db .invoiceEvents, e.invoiceId = id) ∨
      ∃ o ∈ db .eventOutbox, o.invoiceId = id

/-- No two requests have reserved the same. -/
def Apart (db : Db) : Prop :=
  ∀ key row other row', requestRow db key = some row → requestRow db other = some row' →
    row.reservedInvoiceId = row'.reservedInvoiceId ∨
      row.reservedSourceId = row'.reservedSourceId → key = other

/-- A source has the key of its id, and the digest of its invoice. -/
structure Bound (db : Db) (s : InvoiceSource) : Prop where
  key : s.source.objectKeyPrivate = objectKey settings s.id
  digest : ∀ i ∈ db .invoices, i.id = s.invoiceId → i.sha256 = s.source.sha256

/-- What holds also between the inserts of a receipt and its answer. -/
structure Core (db : Db) : Prop where
  sound : ∀ key row, requestRow db key = some row → Faithful settings db row
  distinct : (db .invoices).Pairwise fun a b => a.sha256 ≠ b.sha256
  whole : ∀ id, Started db id → Whole db id
  apart : Apart db
  single : (db .invoiceSources).Pairwise fun a b => a.invoiceId ≠ b.invoiceId
  bound : ∀ s ∈ db .invoiceSources, Bound settings db s
  posted : ∀ o ∈ db .eventOutbox, ∃ e ∈ db .invoiceEvents, e.id = o.eventId

/-- A source comes from a completed request. -/
def Settled (db : Db) (s : InvoiceSource) : Prop :=
  ∃ key row, requestRow db key = some row ∧ row.state = .completed ∧
    row.reservedInvoiceId = s.invoiceId ∧ row.reservedSourceId = s.id

structure Inv (db : Db) : Prop where
  core : Core settings db
  settled : ∀ s ∈ db .invoiceSources, Settled db s

/-- A request keeps its hash and what it reserved, and stays completed. -/
structure Continues (row row' : IngestionRequest) : Prop where
  hash : row'.requestHash = row.requestHash
  invoice : row'.reservedInvoiceId = row.reservedInvoiceId
  source : row'.reservedSourceId = row.reservedSourceId
  completed : row.state = .completed → row'.state = .completed

omit [Sha256] in
theorem Continues.refl (row : IngestionRequest) : Continues row row := ⟨rfl, rfl, rfl, id⟩

/-- The requests continue, and the sources stay. -/
structure Keeps (db db' : Db) : Prop where
  bound : ∀ key row, requestRow db key = some row →
    ∃ row', requestRow db' key = some row' ∧ Continues row row'
  sources : ∀ s ∈ db .invoiceSources, s ∈ db' .invoiceSources

omit [Sha256] in
theorem Keeps.refl (db : Db) : Keeps db db :=
  ⟨fun _ row h => ⟨row, h, .refl row⟩, fun _ h => h⟩

omit [Sha256] in
theorem Keeps.trans {a b c : Db} (hab : Keeps a b) (hbc : Keeps b c) : Keeps a c := by
  refine ⟨?_, fun s hs => hbc.sources s (hab.sources s hs)⟩
  intro key row hrow
  obtain ⟨row', hrow', hfirst⟩ := hab.bound key row hrow
  obtain ⟨row'', hrow'', hthen⟩ := hbc.bound key row' hrow'
  exact ⟨row'', hrow'', hthen.hash.trans hfirst.hash, hthen.invoice.trans hfirst.invoice,
    hthen.source.trans hfirst.source, fun h => hthen.completed (hfirst.completed h)⟩

omit [Sha256] in
theorem Stored.keeps {db db' : Db} (h : Keeps db db') {snapshot : ReceiptSnapshot}
    {sha256 : String} (hstored : Stored db snapshot sha256) : Stored db' snapshot sha256 := by
  obtain ⟨s, hs, hsource⟩ := hstored
  exact ⟨s, h.sources s hs, hsource⟩

omit [Sha256] in
theorem Settled.keeps {db db' : Db} (h : Keeps db db') {s : InvoiceSource}
    (hsettled : Settled db s) : Settled db' s := by
  obtain ⟨key, row, hrow, hstate, hinvoice, hsource⟩ := hsettled
  obtain ⟨row', hrow', hcontinues⟩ := h.bound key row hrow
  exact ⟨key, row', hrow', hcontinues.completed hstate, hcontinues.invoice.trans hinvoice,
    hcontinues.source.trans hsource⟩

variable {settings}

theorem Faithful.keeps {db db' : Db} (h : Keeps db db') {row : IngestionRequest}
    (hsound : Faithful settings db row) : Faithful settings db' row := by
  refine ⟨hsound.source, hsound.pending, fun hstate => ?_⟩
  obtain ⟨snapshot, sha256, hresponse, hstored, hfits⟩ := hsound.answer hstate
  exact ⟨snapshot, sha256, hresponse, hstored.keeps h, hfits⟩

/-- A step on the requests: the other tables are the same, and a request that differs is sound. -/
theorem core_of_requests {db db' : Db} (hkeeps : Keeps db db')
    (hsame : Schema.SameExcept [.ingestionRequests] db db') (hapart : Apart db')
    (hrows : ∀ key row, requestRow db' key = some row →
      requestRow db key = some row ∨ Faithful settings db' row) (hcore : Core settings db) :
    Core settings db' := by
  have hsources := hsame .invoiceSources (by decide)
  have hinvoices := hsame .invoices (by decide)
  refine ⟨?_, ?_, ?_, hapart, ?_, ?_, ?_⟩
  · intro key row hrow
    rcases hrows key row hrow with hold | hnew
    · exact (hcore.sound key row hold).keeps hkeeps
    · exact hnew
  · rw [hinvoices]
    exact hcore.distinct
  · intro id hstarted
    have hwhole := hcore.whole id
    unfold Started at hstarted hwhole
    rw [hinvoices, hsources, hsame .workflowTasks (by decide), hsame .invoiceEvents (by decide),
      hsame .eventOutbox (by decide)] at hstarted
    obtain ⟨hinvoice, hsource, htask, hevent⟩ := hwhole hstarted
    constructor
    · rw [hinvoices]
      exact hinvoice
    · rw [hsources]
      exact hsource
    · rw [hsame .workflowTasks (by decide)]
      exact htask
    · rw [hsame .invoiceEvents (by decide), hsame .eventOutbox (by decide)]
      exact hevent
  · rw [hsources]
    exact hcore.single
  · intro s hs
    rw [hsources] at hs
    refine ⟨(hcore.bound s hs).key, ?_⟩
    rw [hinvoices]
    exact (hcore.bound s hs).digest
  · rw [hsame .invoiceEvents (by decide), hsame .eventOutbox (by decide)]
    exact hcore.posted

/-- And the sources are settled as before. -/
theorem inv_of_core {db db' : Db} (hkeeps : Keeps db db')
    (hsame : Schema.SameExcept [.ingestionRequests] db db') (hcore : Core settings db')
    (hinv : Inv settings db) : Inv settings db' := by
  refine ⟨hcore, fun s hs => ?_⟩
  rw [hsame .invoiceSources (by decide)] at hs
  exact (hinv.settled s hs).keeps hkeeps

/-! ## The transactions -/

omit [Sha256] in
/-- A request that is updated continues, and the others are as they were. -/
theorem keeps_of_update {db db' : Db} {key : String} {row : IngestionRequest}
    {change : IngestionRequest → IngestionRequest} {a : Unit}
    (h : updateRequest key change db = .ok (a, db'))
    (hkey : ∀ r, (change r).idempotencyKey = r.idempotencyKey)
    (hcontinues : Continues row (change row)) (hrow : requestRow db key = some row) :
    Keeps db db' ∧ Schema.SameExcept [.ingestionRequests] db db' ∧
      ∀ other row', requestRow db' other = some row' →
        requestRow db other = some row' ∨ other = key ∧ row' = change row := by
  have hsame : Schema.SameExcept [.ingestionRequests] db db' :=
    Schema.writes_update (by simp) _ _ _ h
  have hfound : ∀ other found, requestRow db other = some found →
      found.idempotencyKey = key → other = key ∧ found = row := by
    intro other found hother hsameKey
    rw [requestRow_key hother] at hsameKey
    subst hsameKey
    rw [hrow] at hother
    exact ⟨rfl, (Option.some.inj hother).symm⟩
  refine ⟨⟨?_, ?_⟩, hsame, ?_⟩
  · intro other found hother
    refine ⟨_, by rw [requestRow_update h hkey, hother, Option.map_some], ?_⟩
    split
    · rename_i hsameKey
      obtain ⟨_, rfl⟩ := hfound other found hother hsameKey
      exact hcontinues
    · exact .refl found
  · intro s hs
    rw [hsame .invoiceSources (by decide)]
    exact hs
  · intro other row' hrow'
    rw [requestRow_update h hkey] at hrow'
    obtain ⟨found, hother, rfl⟩ := Option.map_eq_some_iff.mp hrow'
    split
    · rename_i hsameKey
      obtain ⟨rfl, rfl⟩ := hfound other found hother hsameKey
      exact Or.inr ⟨rfl, rfl⟩
    · exact Or.inl hother

omit [Sha256] in
/-- Requests that continue reserve apart from each other. -/
theorem Apart.update {db db' : Db} {key : String} {row changed : IngestionRequest}
    (h : Apart db) (hrow : requestRow db key = some row) (hcontinues : Continues row changed)
    (hrows : ∀ other row', requestRow db' other = some row' →
      requestRow db other = some row' ∨ other = key ∧ row' = changed) : Apart db' := by
  have hbefore : ∀ other row', requestRow db' other = some row' →
      ∃ found, requestRow db other = some found ∧
        row'.reservedInvoiceId = found.reservedInvoiceId ∧
          row'.reservedSourceId = found.reservedSourceId := by
    intro other row' hrow'
    rcases hrows other row' hrow' with hold | ⟨rfl, rfl⟩
    · exact ⟨row', hold, rfl, rfl⟩
    · exact ⟨row, hrow, hcontinues.invoice, hcontinues.source⟩
  intro first row₁ second row₂ hfirst hsecond hshared
  obtain ⟨old₁, hold₁, hinvoice₁, hsource₁⟩ := hbefore first row₁ hfirst
  obtain ⟨old₂, hold₂, hinvoice₂, hsource₂⟩ := hbefore second row₂ hsecond
  rw [hinvoice₁, hinvoice₂, hsource₁, hsource₂] at hshared
  exact h first old₁ second old₂ hold₁ hold₂ hshared

/-- A step keeps the requests and, within its promise, the invariant. -/
def Safe (settings : StoreSettings) (promise : Prop) (db db' : Db) : Prop :=
  Keeps db db' ∧ (promise → Inv settings db → Inv settings db')

theorem Safe.refl (promise : Prop) (db : Db) : Safe settings promise db db :=
  ⟨.refl db, fun _ h => h⟩

omit [Sha256] in
/-- The request of a key once one is added. -/
theorem requestRow_append {db : Db} {row found : IngestionRequest} {other : String}
    (h : requestRow (db.modify .ingestionRequests (· ++ [row])) other = some found) :
    requestRow db other = some found ∨ found = row ∧ other = row.idempotencyKey := by
  unfold requestRow at h ⊢
  rw [Store.modify_same, List.find?_append] at h
  cases hold : (db .ingestionRequests).find? fun r => r.idempotencyKey = other with
  | some first =>
      rw [hold, Option.some_or] at h
      exact Or.inl h
  | none =>
      rw [hold, Option.none_or, List.find?_singleton] at h
      split at h
      · rename_i hkey
        exact Or.inr ⟨(Option.some.inj h).symm, (of_decide_eq_true hkey).symm⟩
      · exact absurd h (by simp)

omit [Sha256] in
/-- A new request reserves what no other has. -/
theorem Apart.append {db : Db} {row : IngestionRequest} (h : Apart db)
    (hfresh : tallySchema.Fresh db .ingestionRequests row) :
    Apart (db.modify .ingestionRequests (· ++ [row])) := by
  have hnew : ∀ other found, requestRow db other = some found →
      ¬ (row.reservedInvoiceId = found.reservedInvoiceId ∨
        row.reservedSourceId = found.reservedSourceId) := by
    intro other found hfound hshared
    have hconflict := hfresh found (List.mem_of_find?_eq_some hfound)
    simp only [conflicts, decide_eq_false_iff_not, not_or] at hconflict
    exact hshared.elim hconflict.2.1 hconflict.2.2
  intro first row₁ second row₂ hfirst hsecond hshared
  rcases requestRow_append hfirst with hold₁ | ⟨hrow₁, rfl⟩
  · rcases requestRow_append hsecond with hold₂ | ⟨hrow₂, rfl⟩
    · exact h first row₁ second row₂ hold₁ hold₂ hshared
    · rw [hrow₂] at hshared
      exact absurd (hshared.imp Eq.symm Eq.symm) (hnew first row₁ hold₁)
  · rcases requestRow_append hsecond with hold₂ | ⟨_, rfl⟩
    · rw [hrow₁] at hshared
      exact absurd hshared (hnew second row₂ hold₂)
    · rfl

/-- A new request has nothing stored. -/
theorem safe_of_new (db : Db) {row : IngestionRequest} (hsource : row.storedSource = none)
    (hstate : row.state = .reserved) (hfresh : tallySchema.Fresh db .ingestionRequests row) :
    Safe settings True db (db.modify .ingestionRequests (· ++ [row])) := by
  have hsame : Schema.SameExcept [.ingestionRequests] db
      (db.modify .ingestionRequests (· ++ [row])) :=
    Schema.sameExcept_modify db (by simp) _
  have hkeeps : Keeps db (db.modify .ingestionRequests (· ++ [row])) := by
    refine ⟨?_, fun s hs => ?_⟩
    · intro other found hother
      refine ⟨found, ?_, .refl found⟩
      unfold requestRow at hother ⊢
      rw [Store.modify_same, List.find?_append, hother, Option.some_or]
    · rw [hsame .invoiceSources (by decide)]
      exact hs
  refine ⟨hkeeps, fun _ hinv => inv_of_core hkeeps hsame ?_ hinv⟩
  refine core_of_requests hkeeps hsame (hinv.core.apart.append hfresh) ?_ hinv.core
  intro other found hother
  rcases requestRow_append hother with hold | ⟨rfl, _⟩
  · exact Or.inl hold
  · refine Or.inr ⟨fun _ hstored => ?_, fun hpending => ?_, fun hdone => ?_⟩
    · rw [hsource] at hstored
      exact absurd hstored (by simp)
    · rw [hstate] at hpending
      exact absurd hpending (by simp)
    · rw [hstate] at hdone
      exact absurd hdone (by simp)

theorem reserveIngestion_safe {env : TxnEnv} {key hash : String} {r : IngestionReservation}
    {db db' : Db} (h : reserveIngestion env key hash db = .ok (r, db')) :
    Safe settings True db db' ∧ ∃ row, requestRow db' key = some row ∧ row.requestHash = hash ∧
      r = ReceiptReplays.reservationOf row env := by
  unfold reserveIngestion at h
  rw [Txn.bind_ok] at h
  obtain ⟨_, db₁, hinsert, h⟩ := h
  rw [Txn.bind_ok] at h
  obtain ⟨found, db₂, hselect, h⟩ := h
  obtain ⟨hfind, rfl⟩ := selectRow_ok.mp hselect
  cases found with
  | none => exact (Txn.raise_ok.mp h).elim
  | some row =>
      rcases Txn.ite_ok.mp h with ⟨_, h⟩ | ⟨hhash, h⟩
      · exact (Txn.raise_ok.mp h).elim
      obtain ⟨rfl, rfl⟩ := Txn.pure_ok.mp h
      have hfound : requestRow db₁ key = some row := hfind
      refine ⟨?_, row, hfound, not_not.mp hhash, rfl⟩
      rcases insertOrIgnoreRow_ok.mp hinsert with ⟨_, rfl⟩ | ⟨_, hfresh, _, rfl⟩
      · exact .refl True db
      · exact safe_of_new db rfl rfl hfresh

/-- The request of a key that is reserved for the first time. -/
def newRequest (env : TxnEnv) (key hash : String) : IngestionRequest where
  idempotencyKey := key
  requestHash := hash
  state := .reserved
  reservedInvoiceId := env.uuid 0
  reservedSourceId := env.uuid 1

omit [Sha256] in
/-- A key without a request is reserved, with ids that no request has. -/
theorem reserveIngestion_new {env : TxnEnv} {key hash : String} {db : Db}
    (hnone : requestRow db key = none)
    (hunused : ∀ q ∈ db .ingestionRequests,
      q.reservedInvoiceId ≠ env.uuid 0 ∧ q.reservedSourceId ≠ env.uuid 1) :
    requestRow (db.modify .ingestionRequests (· ++ [newRequest env key hash])) key =
        some (newRequest env key hash) ∧
      reserveIngestion env key hash db =
        .ok (ReceiptReplays.reservationOf (newRequest env key hash) env,
          db.modify .ingestionRequests (· ++ [newRequest env key hash])) := by
  have hkeys : ∀ q ∈ db .ingestionRequests, q.idempotencyKey ≠ key := by
    intro q hq
    have hkey := List.find?_eq_none.mp hnone q hq
    exact fun hsame => hkey (decide_eq_true hsame)
  have habsent : (db .ingestionRequests).any (fun q => decide (key = q.idempotencyKey)) =
      false := by
    rw [List.any_eq_false]
    intro q hq hsame
    exact hkeys q hq (of_decide_eq_true hsame).symm
  have hfresh : tallySchema.Fresh db .ingestionRequests (newRequest env key hash) := by
    intro q hq
    refine decide_eq_false ?_
    rintro (hsame | hsame | hsame)
    · exact hkeys q hq hsame.symm
    · exact (hunused q hq).1 hsame.symm
    · exact (hunused q hq).2 hsame.symm
  have hrow : requestRow (db.modify .ingestionRequests (· ++ [newRequest env key hash])) key =
      some (newRequest env key hash) := by
    unfold requestRow at hnone ⊢
    rw [Store.modify_same, List.find?_append, hnone, Option.none_or]
    exact List.find?_cons_of_pos (decide_eq_true rfl)
  refine ⟨hrow, ?_⟩
  unfold reserveIngestion
  refine Txn.bind_ok.mpr ⟨(), _,
    insertOrIgnoreRow_ok.mpr (Or.inr ⟨habsent, hfresh, rfl, rfl⟩), ?_⟩
  refine Txn.bind_ok.mpr ⟨some (newRequest env key hash), _, selectRow_ok.mpr ⟨hrow, rfl⟩, ?_⟩
  exact Txn.ite_ok.mpr (Or.inr ⟨not_not.mpr rfl, rfl⟩)

/-- What is recorded of a stored source: its bytes, and its key. -/
structure Records (settings : StoreSettings) (key hash : String) (source : StoredInvoiceSource)
    (db : Db) : Prop where
  fits : Fits hash source.sha256
  named : ∃ row, requestRow db key = some row ∧
    source.objectKeyPrivate = objectKey settings row.reservedSourceId

/-- What is stored with a request is what was promised. -/
theorem recordSourceStored_safe {key hash : String} {source : StoredInvoiceSource} {a : Unit}
    {db db' : Db} (h : recordSourceStored key hash source db = .ok (a, db')) :
    Safe settings (Records settings key hash source db) db db' := by
  unfold recordSourceStored at h
  rw [Txn.bind_ok] at h
  obtain ⟨row, db₁, hload, h⟩ := h
  obtain ⟨rfl, hrow, hhash⟩ := loadRequest_found hload
  rcases Txn.ite_ok.mp h with ⟨_, h⟩ | ⟨hopen, h⟩
  · obtain ⟨_, rfl⟩ := Txn.pure_ok.mp h
    exact .refl _ _
  · have hcontinues : Continues row
        { row with state := .sourceStoredDbPending, storedSource := some source } :=
      ⟨rfl, rfl, rfl, fun hdone => absurd hdone hopen⟩
    obtain ⟨hkeeps, hsame, hrows⟩ := keeps_of_update h (fun _ => rfl) hcontinues hrow
    refine ⟨hkeeps, fun hrecords hinv => inv_of_core hkeeps hsame ?_ hinv⟩
    refine core_of_requests hkeeps hsame (hinv.core.apart.update hrow hcontinues hrows) ?_
      hinv.core
    intro other row' hrow'
    rcases hrows other row' hrow' with hold | ⟨_, rfl⟩
    · exact Or.inl hold
    · refine Or.inr ⟨?_, fun _ => rfl, fun hstate => absurd hstate (by simp)⟩
      intro s hs
      obtain ⟨named, hnamed, hkey⟩ := hrecords.named
      rw [hrow] at hnamed
      obtain rfl := Option.some.inj hnamed
      rw [← Option.some.inj hs]
      exact ⟨hhash ▸ hrecords.fits, hkey⟩

/-- A request that is completed with the snapshot of a source that is stored. -/
theorem core_of_answer {key : String} {row : IngestionRequest} {snapshot : ReceiptSnapshot}
    {change : IngestionRequest → IngestionRequest} {a : Unit} {db db' : Db}
    (h : updateRequest key change db = .ok (a, db'))
    (hkey : ∀ r, (change r).idempotencyKey = r.idempotencyKey)
    (hcontinues : Continues row (change row))
    (hsource : (change row).storedSource = row.storedSource)
    (hstate : (change row).state = .completed)
    (hsnapshot : (change row).responseSnapshot = some snapshot)
    (hrow : requestRow db key = some row) {sha256 : String} (hstored : Stored db snapshot sha256)
    (hfits : Fits row.requestHash sha256) (hcore : Core settings db) : Core settings db' := by
  obtain ⟨hkeeps, hsame, hrows⟩ := keeps_of_update h hkey hcontinues hrow
  refine core_of_requests hkeeps hsame (hcore.apart.update hrow hcontinues hrows) ?_ hcore
  intro other row' hrow'
  rcases hrows other row' hrow' with hold | ⟨_, rfl⟩
  · exact Or.inl hold
  · refine Or.inr ⟨?_, fun hpending => ?_, fun _ =>
      ⟨snapshot, sha256, hsnapshot, hstored.keeps hkeeps, ?_⟩⟩
    · rw [hsource, hcontinues.hash, hcontinues.source]
      exact (hcore.sound key row hrow).source
    · rw [hstate] at hpending
      exact absurd hpending (by simp)
    · rw [hcontinues.hash]
      exact hfits

/-- The answer of a request that was completed before. -/
theorem answer_of_completed {key : String} {row : IngestionRequest} {snapshot : ReceiptSnapshot}
    {db : Db} (hrow : requestRow db key = some row) (hstate : row.state = .completed)
    (hsnapshot : row.responseSnapshot = some snapshot) (hinv : Inv settings db) :
    ∃ sha256, Stored db snapshot sha256 ∧ Fits row.requestHash sha256 := by
  obtain ⟨stored, sha256, hresponse, hstored, hfits⟩ :=
    (hinv.core.sound key row hrow).answer hstate
  rw [hsnapshot] at hresponse
  obtain rfl := Option.some.inj hresponse
  exact ⟨sha256, hstored, hfits⟩

/-- What a duplicate promises: the digest fits the hash, and the snapshot is the source's. -/
structure Duplicates (hash : String) (invoiceId sourceId : Uuid) (sha256 : String)
    (snapshot : ReceiptSnapshot) : Prop where
  fits : Fits hash sha256
  invoice : snapshot.invoiceId = invoiceId
  source : snapshot.sourceId = sourceId

theorem completeDuplicateIngestion_safe {key hash : String} {invoiceId sourceId : Uuid}
    {sha256 : String} {snapshot r : ReceiptSnapshot} {db db' : Db}
    (h : completeDuplicateIngestion key hash invoiceId sourceId sha256 snapshot db =
      .ok (r, db')) :
    Keeps db db' ∧ (Duplicates hash invoiceId sourceId sha256 snapshot → Inv settings db →
      Inv settings db' ∧ ∃ sha256, Stored db' r sha256 ∧ Fits hash sha256) := by
  unfold completeDuplicateIngestion at h
  rw [Txn.bind_ok] at h
  obtain ⟨row, db₁, hload, h⟩ := h
  obtain ⟨rfl, hrow, hhash⟩ := loadRequest_found hload
  rcases completedOr_cases h with ⟨rfl, hstate, hsnapshot⟩ | ⟨_, h⟩
  · refine ⟨.refl _, fun _ hinv => ⟨hinv, ?_⟩⟩
    rw [← hhash]
    exact answer_of_completed hrow hstate hsnapshot hinv
  · rw [Txn.bind_ok] at h
    obtain ⟨bound, db₂, hread, h⟩ := h
    obtain ⟨hbound, rfl⟩ := Txn.read_ok.mp hread
    rcases Txn.ite_ok.mp h with ⟨_, h⟩ | ⟨hbound', h⟩
    · exact (Txn.raise_ok.mp h).elim
    · rw [Txn.bind_ok] at h
      obtain ⟨_, db₃, hupdate, h⟩ := h
      obtain ⟨rfl, rfl⟩ := Txn.pure_ok.mp h
      rw [← hbound] at hbound'
      unfold sourceBoundTo at hbound'
      simp only [Bool.not_eq_true', Bool.not_eq_false, Bool.and_eq_true, List.any_eq_true,
        decide_eq_true_eq] at hbound'
      obtain ⟨_, s, hs, hinvoice, hid, hdigest⟩ := hbound'
      have hcontinues : Continues row { row with
          state := .completed
          responseSnapshot := some snapshot
          deduplicatedInvoiceId := some invoiceId
          deduplicatedSourceId := some sourceId } := ⟨rfl, rfl, rfl, fun _ => rfl⟩
      obtain ⟨hkeeps, hsame, _⟩ := keeps_of_update hupdate (fun _ => rfl) hcontinues hrow
      refine ⟨hkeeps, fun hduplicates hinv => ?_⟩
      have hstored : Stored _ snapshot sha256 :=
        ⟨s, hs, hinvoice.trans hduplicates.invoice.symm, hid.trans hduplicates.source.symm,
          hdigest⟩
      have hcore := core_of_answer hupdate (fun _ => rfl) hcontinues rfl rfl rfl hrow hstored
        (hhash.symm ▸ hduplicates.fits) hinv.core
      exact ⟨inv_of_core hkeeps hsame hcore hinv, sha256, hstored.keeps hkeeps, hduplicates.fits⟩

/-- What a receipt inserts: an invoice of new bytes, with everything of it. -/
structure Inserts (env : TxnEnv) (command : FinalizeReceipt) (invoiceId sourceId : Uuid)
    (db db' : Db) : Prop where
  invoices : db' .invoices = db .invoices ++ [receivedInvoice env command invoiceId]
  distinct : ∀ i ∈ db .invoices, i.sha256 ≠ command.storedSource.sha256
  sources : db' .invoiceSources = db .invoiceSources ++
    [⟨sourceId, invoiceId, command.storedSource, "VERSION_VERIFIED"⟩]
  tasks : db' .workflowTasks = db .workflowTasks ++
    [firstExtractionTask env command invoiceId sourceId]
  events : db' .invoiceEvents = db .invoiceEvents ++ [invoiceReceived env invoiceId sourceId]
  outbox : ∃ o, o.invoiceId = invoiceId ∧ o.eventId = (invoiceReceived env invoiceId sourceId).id ∧
    db' .eventOutbox = db .eventOutbox ++ [o]
  requests : db' .ingestionRequests = db .ingestionRequests
  new : ∀ i ∈ db .invoices, i.id ≠ invoiceId
  unsourced : ∀ s ∈ db .invoiceSources, s.invoiceId ≠ invoiceId

omit [Sha256] in
theorem insertEventRow_outbox {event : InvoiceEvent} {outboxId : Uuid} {a : Unit} {db db' : Db}
    (h : insertEventRow event outboxId db = .ok (a, db')) :
    ∃ o : EventOutbox, o.invoiceId = event.invoiceId ∧ o.eventId = event.id ∧
      db' .eventOutbox = db .eventOutbox ++ [o] := by
  simp only [insertEventRow, Txn.bind_ok, insertRow_ok] at h
  obtain ⟨_, _, ⟨_, _, rfl⟩, _, _, rfl⟩ := h
  refine ⟨⟨outboxId, event.invoiceId, event.id, .pending, event.occurredAt, none, 0⟩, rfl, rfl, ?_⟩
  simp

theorem insertReceipt_inserts {env : TxnEnv} {command : FinalizeReceipt}
    {invoiceId sourceId : Uuid} {a : Unit} {db db' : Db}
    (h : insertReceipt env command invoiceId sourceId db = .ok (a, db')) :
    Inserts env command invoiceId sourceId db db' := by
  have hrequests := ReceiptReplays.insertReceipt_requests h
  simp only [insertReceipt, Txn.bind_ok, insertRow_ok] at h
  obtain ⟨_, _, ⟨hinvoice, _, rfl⟩, _, _, ⟨hsource, _, rfl⟩, _, _, ⟨_, _, rfl⟩, hevent⟩ := h
  obtain ⟨_, hlog, _, hsame⟩ := insertEventRow_ok hevent
  obtain ⟨o, hinvoiceId, heventId, houtbox⟩ := insertEventRow_outbox hevent
  have hnew : ∀ i ∈ db .invoices,
      invoiceId ≠ i.id ∧ command.storedSource.sha256 ≠ i.sha256 := by
    intro i hi
    have hconflict := hinvoice i hi
    simp only [conflicts, decide_eq_false_iff_not, not_or] at hconflict
    exact hconflict
  have hunsourced : ∀ s ∈ db .invoiceSources, invoiceId ≠ s.invoiceId := by
    intro s hs
    have hconflict := hsource s (by simpa using hs)
    simp only [conflicts, decide_eq_false_iff_not, not_or] at hconflict
    exact hconflict.2.1
  refine ⟨?_, fun i hi => (hnew i hi).2.symm, ?_, ?_, ?_, ⟨o, hinvoiceId, heventId, ?_⟩,
    hrequests, fun i hi => (hnew i hi).1.symm, fun s hs => (hunsourced s hs).symm⟩
  · rw [hsame .invoices (by decide)]
    simp
  · rw [hsame .invoiceSources (by decide)]
    simp
  · rw [hsame .workflowTasks (by decide)]
    simp
  · simpa using hlog
  · simpa using houtbox

/-- What was whole stays so, and the new invoice is. -/
theorem Inserts.whole {env : TxnEnv} {command : FinalizeReceipt} {invoiceId sourceId : Uuid}
    {db db' : Db} (h : Inserts env command invoiceId sourceId db db')
    (hwhole : ∀ id, Started db id → Whole db id) : ∀ id, Started db' id → Whole db' id := by
  obtain ⟨o, hinvoice, hevent, houtbox⟩ := h.outbox
  have hnew : Whole db' invoiceId := by
    constructor
    · rw [h.invoices]
      exact ⟨_, List.mem_append_right _ List.mem_cons_self, rfl⟩
    · rw [h.sources]
      exact ⟨_, List.mem_append_right _ List.mem_cons_self, rfl⟩
    · rw [h.tasks]
      exact ⟨_, List.mem_append_right _ List.mem_cons_self, rfl, rfl, rfl⟩
    · rw [h.events, houtbox]
      exact ⟨_, List.mem_append_right _ List.mem_cons_self, rfl, rfl, rfl,
        o, List.mem_append_right _ List.mem_cons_self, hinvoice, hevent⟩
  have hold : ∀ id, Whole db id → Whole db' id := by
    rintro id ⟨⟨i, hi, hid⟩, ⟨s, hs, hsource⟩, ⟨t, ht, htask⟩, ⟨e, he, hfirst, hsequence, htype,
      x, hx, hrow⟩⟩
    constructor
    · rw [h.invoices]
      exact ⟨i, List.mem_append_left _ hi, hid⟩
    · rw [h.sources]
      exact ⟨s, List.mem_append_left _ hs, hsource⟩
    · rw [h.tasks]
      exact ⟨t, List.mem_append_left _ ht, htask⟩
    · rw [h.events, houtbox]
      exact ⟨e, List.mem_append_left _ he, hfirst, hsequence, htype, x,
        List.mem_append_left _ hx, hrow⟩
  intro id hstarted
  by_cases hid : id = invoiceId
  · rw [hid]
    exact hnew
  · refine hold id (hwhole id ?_)
    unfold Started at hstarted ⊢
    rw [h.invoices, h.sources, h.tasks, h.events, houtbox] at hstarted
    simp only [List.mem_append, List.mem_singleton, or_and_right, exists_or, exists_eq_left,
      receivedInvoice, firstExtractionTask, invoiceReceived, hinvoice, Ne.symm hid, or_false]
      at hstarted
    exact hstarted

/-- What is inserted for a request with a stored source. -/
theorem Inserts.core {env : TxnEnv} {command : FinalizeReceipt} {row : IngestionRequest}
    {db db' : Db}
    (h : Inserts env command row.reservedInvoiceId row.reservedSourceId db db')
    (hkeeps : Keeps db db') (hrow : Faithful settings db row)
    (hsource : row.storedSource = some command.storedSource) (hcore : Core settings db) :
    Core settings db' := by
  have hrequest := fun key => requestRow_of_same key h.requests
  obtain ⟨posted, _, hevent, houtbox⟩ := h.outbox
  refine ⟨fun key found hfound => ?_, ?_, h.whole hcore.whole, ?_, ?_, ?_, ?_⟩
  · rw [hrequest] at hfound
    exact (hcore.sound key found hfound).keeps hkeeps
  · rw [h.invoices]
    refine List.pairwise_append.mpr ⟨hcore.distinct, List.pairwise_singleton _ _, ?_⟩
    intro i hi other hother
    rw [List.mem_singleton.mp hother]
    exact h.distinct i hi
  · intro key found other found' hfound hother
    rw [hrequest] at hfound hother
    exact hcore.apart key found other found' hfound hother
  · rw [h.sources]
    refine List.pairwise_append.mpr ⟨hcore.single, List.pairwise_singleton _ _, ?_⟩
    intro s hs other hother
    rw [List.mem_singleton.mp hother]
    exact h.unsourced s hs
  · intro s hs
    rw [h.sources] at hs
    rcases List.mem_append.mp hs with hold | hnew
    · refine ⟨(hcore.bound s hold).key, fun i hi hid => ?_⟩
      rw [h.invoices] at hi
      rcases List.mem_append.mp hi with hi | hi
      · exact (hcore.bound s hold).digest i hi hid
      · rw [List.mem_singleton.mp hi] at hid
        exact absurd hid.symm (h.unsourced s hold)
    · rw [List.mem_singleton.mp hnew]
      refine ⟨(hrow.source _ hsource).2, fun i hi hid => ?_⟩
      rw [h.invoices] at hi
      rcases List.mem_append.mp hi with hi | hi
      · exact absurd hid (h.new i hi)
      · rw [List.mem_singleton.mp hi]
        rfl
  · intro o ho
    rw [houtbox] at ho
    rw [h.events]
    rcases List.mem_append.mp ho with ho | ho
    · obtain ⟨e, he, hid⟩ := hcore.posted o ho
      exact ⟨e, List.mem_append_left _ he, hid⟩
    · rw [List.mem_singleton.mp ho]
      exact ⟨_, List.mem_append_right _ List.mem_cons_self, hevent.symm⟩

theorem finalizeReceivedInvoice_safe {env : TxnEnv} {command : FinalizeReceipt}
    {r : ReceiptSnapshot} {db db' : Db}
    (h : finalizeReceivedInvoice env command db = .ok (r, db')) :
    Keeps db db' ∧ (Inv settings db → Inv settings db' ∧
      ∃ sha256, Stored db' r sha256 ∧ Fits command.requestHash sha256) := by
  unfold finalizeReceivedInvoice at h
  rw [Txn.bind_ok] at h
  obtain ⟨row, db₁, hload, h⟩ := h
  obtain ⟨rfl, hrow, hhash⟩ := loadRequest_found hload
  rcases completedOr_cases h with ⟨rfl, hstate, hsnapshot⟩ | ⟨_, h⟩
  · refine ⟨.refl _, fun hinv => ⟨hinv, ?_⟩⟩
    rw [← hhash]
    exact answer_of_completed hrow hstate hsnapshot hinv
  · rcases Txn.ite_ok.mp h with ⟨_, h⟩ | ⟨_, h⟩
    · exact (Txn.raise_ok.mp h).elim
    rcases Txn.ite_ok.mp h with ⟨_, h⟩ | ⟨hsource, h⟩
    · exact (Txn.raise_ok.mp h).elim
    · rw [Txn.bind_ok] at h
      obtain ⟨_, db₂, hreceipt, h⟩ := h
      rw [Txn.bind_ok] at h
      obtain ⟨_, db₃, hupdate, h⟩ := h
      obtain ⟨rfl, rfl⟩ := Txn.pure_ok.mp h
      have hinserts := insertReceipt_inserts hreceipt
      have hrow₂ : requestRow db₂ command.idempotencyKey = some row :=
        (requestRow_of_same _ hinserts.requests).trans hrow
      have hinserted : Keeps db₁ db₂ := by
        refine ⟨fun key found hfound => ⟨found, ?_, .refl found⟩, fun s hs => ?_⟩
        · rw [requestRow_of_same key hinserts.requests]
          exact hfound
        · rw [hinserts.sources]
          exact List.mem_append_left _ hs
      let snapshot : ReceiptSnapshot := ⟨row.reservedInvoiceId, row.reservedSourceId,
        command.displayName, command.mimeType, env.now⟩
      have hcontinues : Continues row
          { row with state := .completed, responseSnapshot := some snapshot } :=
        ⟨rfl, rfl, rfl, fun _ => rfl⟩
      obtain ⟨hupdated, hsame, _⟩ := keeps_of_update hupdate (fun _ => rfl) hcontinues hrow₂
      refine ⟨hinserted.trans hupdated, fun hinv => ?_⟩
      have hfaithful := hinv.core.sound _ row hrow
      have hstored₁ := not_not.mp hsource
      have hfits : Fits row.requestHash command.storedSource.sha256 :=
        (hfaithful.source _ hstored₁).1
      have hstored : Stored db₂ snapshot command.storedSource.sha256 := by
        refine ⟨⟨row.reservedSourceId, row.reservedInvoiceId, command.storedSource,
          "VERSION_VERIFIED"⟩, ?_, rfl, rfl, rfl⟩
        rw [hinserts.sources]
        exact List.mem_append_right _ List.mem_cons_self
      have hcore := core_of_answer hupdate (fun _ => rfl) hcontinues rfl rfl rfl hrow₂ hstored
        hfits (hinserts.core hinserted hfaithful hstored₁ hinv.core)
      refine ⟨⟨hcore, fun s hs => ?_⟩, _, hstored.keeps hupdated, hhash ▸ hfits⟩
      rw [hsame .invoiceSources (by decide), hinserts.sources] at hs
      rcases List.mem_append.mp hs with hold | hnew
      · exact ((hinv.settled s hold).keeps hinserted).keeps hupdated
      · obtain ⟨row', hrow', hdone⟩ : ∃ row', requestRow _ command.idempotencyKey = some row' ∧
            row' = { row with state := .completed, responseSnapshot := some snapshot } := by
          refine ⟨_, ?_, rfl⟩
          rw [requestRow_update hupdate (fun _ => rfl), hrow₂, Option.map_some,
            if_pos (requestRow_key hrow₂)]
        rw [List.mem_singleton.mp hnew]
        exact ⟨_, row', hrow', hdone ▸ rfl, hdone ▸ rfl, hdone ▸ rfl⟩

/-! ## Calls -/

/-- A transaction commits and replies, raises, or has its reply lost. -/
def Commits {α : Type} (m : TxnEnv → Tx α) (db : Db) : Except Failure α → Db → Prop
  | .ok a, db' => ∃ env, m env db = .ok (a, db')
  | .error (.raised e), db' => (∃ env, m env db = .error e) ∧ db' = db
  | .error .dependency, db' => db' = db ∨ ∃ env a, m env db = .ok (a, db')

/-- A read replies with what is there, or fails. -/
def Reads {α : Type} (f : Db → α) (db : Db) : Except Failure α → Db → Prop
  | .ok a, db' => a = f db ∧ db' = db
  | .error (.raised _), _ => False
  | .error .dependency, db' => db' = db

/-- What a call does; the object store and the carrier answer as they like. -/
def Handle : (e : Effect) → Db → Reply e → Db → Prop
  | .reserveIngestion key hash, db, reply, db' =>
    Commits (fun env => reserveIngestion env key hash) db reply db'
  | .findInvoiceBySha sha256, db, reply, db' =>
    Reads (fun db => findInvoiceBySha db sha256) db reply db'
  | .loadInvoiceProjection invoiceId, db, reply, db' =>
    Reads (fun db => loadInvoiceProjection db invoiceId) db reply db'
  | .completeDuplicateIngestion key hash invoiceId sourceId sha256 response, db, reply, db' =>
    Commits (fun _ => completeDuplicateIngestion key hash invoiceId sourceId sha256 response) db
      reply db'
  | .putObject _ _, db, _, db' => db' = db
  | .headObject _ _, db, _, db' => db' = db
  | .recordSourceStored key hash source, db, reply, db' =>
    Commits (fun _ => recordSourceStored key hash source) db reply db'
  | .loadDemoCarrierId, db, _, db' => db' = db
  | .finalizeReceivedInvoice command, db, reply, db' =>
    Commits (fun env => finalizeReceivedInvoice env command) db reply db'

variable (settings)

/-- What an upload promises of a call. -/
def Promise : Effect → Db → Prop
  | .recordSourceStored key hash source, db => Records settings key hash source db
  | .completeDuplicateIngestion _ hash invoiceId sourceId sha256 snapshot, _ =>
    Duplicates hash invoiceId sourceId sha256 snapshot
  | _, _ => True

def Contract (e : Effect) (db : Db) (r : Reply e) (db' : Db) : Prop :=
  Handle e db r db' ∧ Promise settings e db

variable {settings}

omit [Sha256] in
theorem Commits.cases {α : Type} {m : TxnEnv → Tx α} {db db' : Db} {r : Except Failure α}
    (h : Commits m db r db') : db' = db ∨ ∃ env a, m env db = .ok (a, db') := by
  cases r with
  | ok a =>
      obtain ⟨env, hcommit⟩ := h
      exact Or.inr ⟨env, a, hcommit⟩
  | error f =>
      cases f with
      | raised e => exact Or.inl h.2
      | dependency => exact h

omit [Sha256] in
theorem Reads.same {α : Type} {f : Db → α} {db db' : Db} {r : Except Failure α}
    (h : Reads f db r db') : db' = db := by
  cases r with
  | ok a => exact h.2
  | error failure =>
      cases failure with
      | raised e => exact h.elim
      | dependency => exact h

/-- A call within its promise is safe. -/
theorem safe_of_handle {e : Effect} {db db' : Db} {r : Reply e} (h : Handle e db r db') :
    Safe settings (Promise settings e db) db db' := by
  cases e with
  | reserveIngestion key hash =>
      rcases Commits.cases h with rfl | ⟨env, a, hcommit⟩
      · exact .refl _ _
      · exact (reserveIngestion_safe hcommit).1
  | findInvoiceBySha sha256 =>
      rw [Reads.same (f := fun db => findInvoiceBySha db sha256) h]
      exact .refl _ _
  | loadInvoiceProjection invoiceId =>
      rw [Reads.same (f := fun db => loadInvoiceProjection db invoiceId) h]
      exact .refl _ _
  | completeDuplicateIngestion key hash invoiceId sourceId sha256 snapshot =>
      rcases Commits.cases h with rfl | ⟨env, a, hcommit⟩
      · exact .refl _ _
      · obtain ⟨hkeeps, hsafe⟩ := completeDuplicateIngestion_safe hcommit
        exact ⟨hkeeps, fun hpromise hinv => (hsafe hpromise hinv).1⟩
  | putObject key body =>
      rw [show db' = db from h]
      exact .refl _ _
  | headObject key versionId =>
      rw [show db' = db from h]
      exact .refl _ _
  | recordSourceStored key hash source =>
      rcases Commits.cases h with rfl | ⟨env, a, hcommit⟩
      · exact .refl _ _
      · exact recordSourceStored_safe hcommit
  | loadDemoCarrierId =>
      rw [show db' = db from h]
      exact .refl _ _
  | finalizeReceivedInvoice command =>
      rcases Commits.cases h with rfl | ⟨env, a, hcommit⟩
      · exact .refl _ _
      · obtain ⟨hkeeps, hsafe⟩ := finalizeReceivedInvoice_safe hcommit
        exact ⟨hkeeps, fun _ hinv => (hsafe hinv).1⟩

end Hashing

/-! ## The programs -/

section Programs

variable [Sha256] {settings : StoreSettings} {upload : Upload}

/-- What an upload answers names a source with its bytes. -/
def Answer (upload : Upload) (received : Received) (db : Db) : Prop :=
  Stored db received.snapshot upload.sha256

/-- A program of an upload keeps its promises, and ends with an answer. -/
abbrev Keeping (settings : StoreSettings) {α : Type} (Q : α → Db → Prop) (p : Receive α)
    (db : Db) : Prop :=
  Library.Sound (Inv settings) Handle Keeps (Contract settings) (Ends (fun _ => True) Q) p.run db

theorem answer_stable (received : Received) : Stable Keeps (Answer upload received) :=
  fun _ _ h hrely => h.keeps hrely

/-- What a key has reserved for its source. -/
def Reserved (key : String) (sourceId : Uuid) (db : Db) : Prop :=
  ∃ row, requestRow db key = some row ∧ row.reservedSourceId = sourceId

omit [Sha256] in
theorem reserved_stable (key : String) (sourceId : Uuid) :
    Stable Keeps (Reserved key sourceId) := by
  rintro db db' ⟨row, hrow, hsource⟩ hkeeps
  obtain ⟨row', hrow', hcontinues⟩ := hkeeps.bound key row hrow
  exact ⟨row', hrow', hcontinues.source.trans hsource⟩

/-- A call whose reply goes on, when the call keeps the promise of the upload. -/
theorem keeping_call {e : Effect} {α : Type} {Q : α → Db → Prop} {f : Reply e → Receive α}
    {db : Db} (P : Db → Prop) (hP : P db) (hstable : Stable Keeps P)
    (hpromise : ∀ db, P db → Promise settings e db)
    (hf : ∀ db r db', Inv settings db → P db' → Handle e db r db' → Keeping settings Q (f r) db') :
    Keeping settings Q (perform e >>= f) db := by
  refine .perform P hP hstable (fun db r db' _ hP hhandle => ⟨hhandle, hpromise db hP⟩) ?_
  intro db r db' hinv hP hhandle
  have hsafe : Safe settings _ db db' := safe_of_handle hhandle
  exact hf db r db' hinv (hstable db db' hP hsafe.1) hhandle

theorem keeping_throw {α : Type} {Q : α → Db → Prop} {e : ReceiveError} {db : Db} :
    Keeping settings Q (throw e : Receive α) db :=
  .done trivial fun _ _ _ _ => trivial

/-- A reply that fails ends the upload. -/
theorem keeping_orThrow {α β : Type} {Q : β → Db → Prop} {r : Except Failure α}
    {f : α → Receive β} {db : Db} (hf : ∀ a, r = .ok a → Keeping settings Q (f a) db) :
    Keeping settings Q (orThrow r >>= f) db := by
  cases r with
  | ok a => exact hf a rfl
  | error failure => exact keeping_throw

theorem keeping_pure {α : Type} {Q : α → Db → Prop} {value : α} {db : Db} (h : Q value db)
    (hstable : Stable Keeps (Q value)) : Keeping settings Q (pure value : Receive α) db :=
  .done ⟨trivial, h⟩ fun db db' hQ hrely => ⟨trivial, hstable db db' hQ.2 hrely⟩

theorem keeping_bind {α β : Type} {Q : α → Db → Prop} {Q' : β → Db → Prop} {p : Receive α}
    {f : α → Receive β} {db : Db} (h : Keeping settings Q p db)
    (hf : ∀ a db, Q a db → Keeping settings Q' (f a) db) : Keeping settings Q' (p >>= f) db :=
  Library.Sound.ends_bind h (fun _ _ _ _ => trivial) fun a db _ hQ => hf a db hQ

omit [Sha256] in
theorem anything_stable : Stable Keeps fun _ => True := fun _ _ _ _ => trivial

/-- The digest of an allowed upload fits its hash. -/
theorem fits_upload (hallowed : Allowed upload) : Fits upload.requestHash upload.sha256 :=
  ⟨upload, hallowed, rfl, rfl⟩

/-- A snapshot that was stored for the hash of an upload has its bytes. -/
theorem answer_of_stored (hfree : CollisionFree) (hallowed : Allowed upload)
    {received : Received} {db : Db}
    (h : ∃ sha256, Stored db received.snapshot sha256 ∧ Fits upload.requestHash sha256) :
    Answer upload received db := by
  obtain ⟨sha256, hstored, hfits⟩ := h
  rw [sha256_of_fits hfree hallowed hfits] at hstored
  exact hstored

theorem keeping_duplicate (hfree : CollisionFree) (hallowed : Allowed upload)
    (invoiceId sourceId : Uuid) (db : Db) :
    Keeping settings (Answer upload) (receiveDuplicate upload invoiceId sourceId) db := by
  unfold receiveDuplicate
  refine keeping_call _ trivial anything_stable (fun _ _ => trivial) fun db r db' _ _ hread =>
    keeping_orThrow fun projected hr => ?_
  subst hr
  cases projected with
  | none => exact keeping_throw
  | some snapshot =>
      have hprojected : snapshot.invoiceId = invoiceId := by
        have hload : some snapshot = loadInvoiceProjection db invoiceId := hread.1
        unfold loadInvoiceProjection at hload
        obtain ⟨p, _, rfl⟩ := Option.map_eq_some_iff.mp hload.symm
        rfl
      dsimp only
      split
      · exact keeping_throw
      · rename_i hsource
        have hduplicates : Duplicates upload.requestHash invoiceId sourceId upload.sha256
            snapshot := ⟨fits_upload hallowed, hprojected, not_not.mp hsource⟩
        refine keeping_call _ trivial anything_stable (fun _ _ => hduplicates)
          fun db r db' hinv _ hcommit => keeping_orThrow fun stored hr => ?_
        subst hr
        obtain ⟨env, hdone⟩ := hcommit
        have hsafe := (completeDuplicateIngestion_safe hdone).2 hduplicates hinv
        exact keeping_pure (answer_of_stored hfree hallowed hsafe.2) (answer_stable _)

variable [CharacterTables]

/-- What is preserved of a body has its digest, and the key of its source. -/
theorem keeping_preserve (P : Db → Prop) (hP : Stable Keeps P) (sourceId : Uuid) (body : Bytes)
    {db : Db} (h : P db) :
    Keeping settings (fun source db => P db ∧ source.sha256 = hexdigest body ∧
      source.objectKeyPrivate = objectKey settings sourceId) (preserve settings sourceId body)
      db := by
  unfold preserve
  refine keeping_call P h hP (fun _ _ => trivial) fun db r db' _ h' _ => ?_
  split
  · exact keeping_throw
  · exact keeping_throw
  · split
    · exact keeping_throw
    · refine keeping_call P h' hP (fun _ _ => trivial) fun db r db' _ h'' _ => ?_
      split
      · exact keeping_throw
      · split
        · exact keeping_throw
        · exact keeping_pure ⟨h'', rfl, rfl⟩ fun _ _ hQ hrely => ⟨hP _ _ hQ.1 hrely, hQ.2⟩

theorem keeping_storeSource (hallowed : Allowed upload) {reservation : IngestionReservation}
    {db : Db} (h : Reserved upload.idempotencyKey reservation.sourceId db) :
    Keeping settings (fun _ _ => True) (storeSource settings upload reservation) db := by
  unfold storeSource
  split
  · exact keeping_pure trivial anything_stable
  · split
    · exact keeping_throw
    · refine keeping_bind (keeping_preserve _ (reserved_stable _ _) reservation.sourceId
        upload.body h) fun source db hpreserved => ?_
      obtain ⟨hreserved, hdigest, hkey⟩ := hpreserved
      have hfits : Fits upload.requestHash source.sha256 := by
        rw [hdigest]
        exact fits_upload hallowed
      have hrecords : ∀ db, Reserved upload.idempotencyKey reservation.sourceId db →
          Records settings upload.idempotencyKey upload.requestHash source db := by
        rintro db ⟨row, hrow, hsource⟩
        exact ⟨hfits, row, hrow, hsource ▸ hkey⟩
      refine keeping_call _ hreserved (reserved_stable _ _) hrecords fun db r db' _ _ _ =>
        keeping_orThrow fun _ _ => ?_
      exact keeping_pure trivial anything_stable

theorem keeping_source (hfree : CollisionFree) (hallowed : Allowed upload)
    {reservation : IngestionReservation} {db : Db}
    (h : Reserved upload.idempotencyKey reservation.sourceId db) :
    Keeping settings (Answer upload) (receiveSource settings upload reservation) db := by
  unfold receiveSource
  refine keeping_bind (keeping_storeSource hallowed h) fun source db _ => ?_
  refine keeping_call _ trivial anything_stable (fun _ _ => trivial) fun db r db' _ _ _ =>
    keeping_orThrow fun carrier _ => ?_
  cases carrier with
  | none => exact keeping_throw
  | some carrierId =>
      refine keeping_call _ trivial anything_stable (fun _ _ => trivial)
        fun db r db' hinv _ hcommit => keeping_orThrow fun stored hr => ?_
      subst hr
      obtain ⟨env, hdone⟩ := hcommit
      have hsafe := (finalizeReceivedInvoice_safe hdone).2 hinv
      exact keeping_pure (answer_of_stored hfree hallowed hsafe.2) (answer_stable _)

/-- An upload keeps its promises, and answers with a source of its bytes. -/
theorem keeping_receive (hfree : CollisionFree)
    (hscenario : upload.demoScenario ∈ allowedScenarios) (db : Db) :
    Keeping settings (Answer upload) (receiveInvoice settings upload) db := by
  unfold receiveInvoice
  split
  · exact keeping_throw
  · rename_i hchannel
    have hallowed : Allowed upload := ⟨hscenario, not_not.mp hchannel⟩
    refine keeping_call _ trivial anything_stable (fun _ _ => trivial)
      fun db r db' hinv _ hcommit => keeping_orThrow fun reservation hr => ?_
    subst hr
    obtain ⟨env, hdone⟩ := hcommit
    obtain ⟨hsafe, row, hrow, hhash, rfl⟩ :
        Safe settings True db db' ∧ _ := reserveIngestion_safe hdone
    have hreserved : Reserved upload.idempotencyKey
        (ReceiptReplays.reservationOf row env).sourceId db' := ⟨row, hrow, rfl⟩
    split
    · rename_i hcompleted
      cases hresponse : (ReceiptReplays.reservationOf row env).responseSnapshot with
      | none => exact keeping_throw
      | some snapshot =>
          have hstored := answer_of_completed hrow hcompleted hresponse (hsafe.2 trivial hinv)
          rw [hhash] at hstored
          exact keeping_pure (answer_of_stored hfree hallowed hstored) (answer_stable _)
    · split
      · exact keeping_throw
      · refine keeping_call _ hreserved (reserved_stable _ _) (fun _ _ => trivial)
          fun db r db' _ hstill _ => keeping_orThrow fun found _ => ?_
        cases found with
        | none => exact keeping_source hfree hallowed hstill
        | some ids => exact keeping_duplicate hfree hallowed _ _ _

variable (settings)

/-! ## A key that is bound -/

/-- A program that fails at its first call, which changes nothing. -/
def Refuses (p : Receive Received) (db : Db) : Prop :=
  match p.run with
  | .done r => ∃ e, r = .error e
  | .perform e next =>
      ∀ r db', Handle e db r db' → db' = db ∧ ∃ failed, next r = .done (.error failed)

omit [CharacterTables] in
/-- No reservation of another hash commits. -/
theorem reserveIngestion_conflict (settings : StoreSettings) {key hash : String}
    {row : IngestionRequest} {env : TxnEnv} {reservation : IngestionReservation} {db db' : Db}
    (hrow : requestRow db key = some row) (hhash : row.requestHash ≠ hash) :
    reserveIngestion env key hash db ≠ .ok (reservation, db') := by
  intro hcommit
  obtain ⟨hsafe, stored, hstored, hsame, _⟩ : Safe settings True db db' ∧ _ :=
    reserveIngestion_safe hcommit
  obtain ⟨row', hrow', hcontinues⟩ := hsafe.1.bound key row hrow
  rw [hstored] at hrow'
  cases hrow'
  exact hhash (hcontinues.hash.symm.trans hsame)

/-- An upload under a key of another hash is refused. -/
theorem refuses_of_bound {row : IngestionRequest} {db : Db}
    (hrow : requestRow db upload.idempotencyKey = some row)
    (hhash : row.requestHash ≠ upload.requestHash) :
    Refuses (receiveInvoice settings upload) db := by
  unfold receiveInvoice
  split
  · exact ⟨_, rfl⟩
  · intro r db' hhandle
    cases r with
    | ok reservation =>
        obtain ⟨env, hcommit⟩ := hhandle
        exact absurd hcommit (reserveIngestion_conflict settings hrow hhash)
    | error failure =>
        refine ⟨?_, _, rfl⟩
        rcases Commits.cases hhandle with hsame | ⟨env, a, hcommit⟩
        · exact hsame
        · exact absurd hcommit (reserveIngestion_conflict settings hrow hhash)

/-! ## Pools of uploads -/

variable {ι : Type} [DecidableEq ι] (uploads : ι → Upload)

/-- A call of an upload that passed the checks of the route. -/
def Starts (i : ι) (p : Prog Effect Reply (Except ReceiveError Received)) (db db' : Db) : Prop :=
  ((uploads i).demoScenario ∈ allowedScenarios ∧
    p = (receiveInvoice settings (uploads i)).run) ∧ db' = db

omit [Sha256] [CharacterTables] [DecidableEq ι] in
/-- A call that returns or crashes leaves the database as it is. -/
def Stops (_ : ι) (_ : Prog Effect Reply (Except ReceiveError Received)) (db db' : Db) : Prop :=
  db' = db

/-- What uploads keep to. -/
def conduct (hfree : CollisionFree) :
    Conduct (fun _ : ι => Handle) (Starts settings uploads) Stops where
  inv := Inv settings
  rely := Keeps
  contract := Contract settings
  post i := Ends (fun _ => True) (Answer (uploads i))
  rely_refl := Keeps.refl
  rely_trans _ _ _ := Keeps.trans
  others _ db _ db' _ h := (safe_of_handle h.1 : Safe settings _ db db').1
  kept _ _ _ _ hinv h := (safe_of_handle h.1).2 h.2 hinv
  started i p db db' h := by
    obtain ⟨⟨hscenario, rfl⟩, hsame⟩ := h
    exact ⟨hsame, keeping_receive hfree hscenario db⟩
  stopped _ _ _ _ h := h

omit [CharacterTables] in
theorem inv_empty : Inv settings Db.empty := by
  refine ⟨⟨fun key row h => absurd h (by simp [requestRow, Db.empty]), List.Pairwise.nil, ?_,
    fun key row _ _ h => absurd h (by simp [requestRow, Db.empty]), List.Pairwise.nil,
    fun s hs => absurd hs List.not_mem_nil, fun o ho => absurd ho List.not_mem_nil⟩,
    fun s hs => absurd hs List.not_mem_nil⟩
  rintro id (⟨_, h, _⟩ | ⟨_, h, _⟩ | ⟨_, h, _⟩ | ⟨_, h, _⟩ | ⟨_, h, _⟩) <;>
    exact absurd h List.not_mem_nil

/-- Whatever uploads have reached is governed. -/
theorem governs_of_reaches (hfree : CollisionFree)
    {pool : Pool ι Effect Reply (Except ReceiveError Received) Db}
    (h : Pool.Reaches (fun _ => Handle) (Starts settings uploads) Stops Db.empty pool) :
    (conduct settings uploads hfree).Governs pool :=
  (((conduct settings uploads hfree).governs_initial (inv_empty settings)).steps h).1

/-- For every interleaving of uploads, with crashes between their calls: no two invoices have the
same bytes, a key stays bound to its request hash and an upload of another hash is refused with
nothing changed, an upload that returned names a stored source with its bytes, and an invoice, its
source, its first task, its first event and the outbox row of the event are there together.

SOURCE: src/platform/intake_repository.py:68-468; src/platform/intake_api.py:353-439 -/
theorem uploads_idempotent (hfree : CollisionFree)
    {pool later : Pool ι Effect Reply (Except ReceiveError Received) Db}
    (h : Pool.Reaches (fun _ => Handle) (Starts settings uploads) Stops Db.empty pool)
    (hlater : Relation.ReflTransGen
      (Pool.Step (fun _ => Handle) (Starts settings uploads) Stops) pool later) :
    ((pool.shared .invoices).Pairwise fun a b => a.sha256 ≠ b.sha256) ∧
    (∀ key row, requestRow pool.shared key = some row →
      (∃ row', requestRow later.shared key = some row' ∧ row'.requestHash = row.requestHash) ∧
      ∀ upload : Upload, upload.idempotencyKey = key → upload.requestHash ≠ row.requestHash →
        Refuses (receiveInvoice settings upload) later.shared) ∧
    (∀ i received, pool.threads i = some (.done (.ok received)) →
      Answer (uploads i) received pool.shared) ∧
    ∀ id, Started pool.shared id → Whole pool.shared id := by
  have hgoverns := governs_of_reaches settings uploads hfree h
  have hinv : Inv settings pool.shared := hgoverns.inv
  have hkeeps : Keeps pool.shared later.shared := (hgoverns.steps hlater).2
  refine ⟨hinv.core.distinct, ?_, ?_, hinv.core.whole⟩
  · intro key row hrow
    obtain ⟨row', hrow', hcontinues⟩ := hkeeps.bound key row hrow
    refine ⟨⟨row', hrow', hcontinues.hash⟩, ?_⟩
    rintro upload rfl hother
    refine refuses_of_bound settings hrow' ?_
    rw [hcontinues.hash]
    exact Ne.symm hother
  · intro i received hthread
    exact (hgoverns.ended hthread).2

end Programs

/-! ## A case -/

section Case

local instance caseSha : Sha256 := Sha256.agreeingOn []

local instance caseCharacters : CharacterTables := Sample.ascii

def caseSettings : StoreSettings := ⟨"intake", "invoices"⟩

def caseUpload (body : Bytes) : Upload where
  body
  displayFilename := "a.pdf"
  idempotencyKey := "k1"
  demoScenario := "locked-inv-1048"
  importSource := "operator_import"
  actorId := none
  actorDisplay := "ann"

theorem caseUpload_allowed (body : Bytes) : Allowed (caseUpload body) := by
  have hscenario : "locked-inv-1048" ∈ allowedScenarios := by decide
  have hchannel : "operator_import" ∈ allowedImportSources := by decide
  exact ⟨hscenario, hchannel⟩

/-- The request of a reserved upload. -/
def caseRequest (body : Bytes) : IngestionRequest :=
  newRequest (Sample.env 1) "k1" (caseUpload body).requestHash

/-- The database once the upload is reserved. -/
def caseDb (body : Bytes) : Db := Db.empty.modify .ingestionRequests (· ++ [caseRequest body])

/-- An upload starts and is reserved. -/
theorem case_reserved (body : Bytes) :
    ∃ p, Pool.Reaches (fun _ => Handle) (Starts caseSettings fun _ : Unit => caseUpload body) Stops
      Db.empty ⟨caseDb body, Function.update (fun _ => none) () (some p)⟩ ∧
        requestRow (caseDb body) "k1" = some (caseRequest body) := by
  have hallowed := caseUpload_allowed body
  have hrun : ∃ next, (receiveInvoice caseSettings (caseUpload body)).run =
      .perform (.reserveIngestion "k1" (caseUpload body).requestHash) next := by
    unfold receiveInvoice
    rw [if_neg (not_not.mpr hallowed.channel)]
    exact ⟨_, rfl⟩
  obtain ⟨next, hnext⟩ := hrun
  obtain ⟨hrow, hreserve⟩ : _ ∧ reserveIngestion (Sample.env 1) "k1"
      (caseUpload body).requestHash Db.empty = _ :=
    reserveIngestion_new rfl fun q hq => absurd hq List.not_mem_nil
  have hstarted : Pool.Reaches (fun _ => Handle)
      (Starts caseSettings fun _ => caseUpload body) Stops Db.empty _ :=
    Pool.Reaches.start .refl () rfl ⟨⟨hallowed.scenario, rfl⟩, rfl⟩
  have hperformed := hstarted.perform ()
    (.reserveIngestion "k1" (caseUpload body).requestHash) (.ok _) _
    (congrArg some hnext) ⟨Sample.env 1, hreserve⟩
  rw [Function.update_idem] at hperformed
  exact ⟨_, hperformed, hrow⟩

theorem case_collisionFree : CollisionFree := Sha256.agreeingOn_collisionFree (by simp)

/-- Other bytes under the key of an upload are refused. -/
theorem uploads_idempotent_case :
    Refuses (receiveInvoice caseSettings (caseUpload [0])) (caseDb []) := by
  obtain ⟨p, hreached, hrow⟩ := case_reserved []
  have hclaim := uploads_idempotent caseSettings (fun _ => caseUpload []) case_collisionFree
    hreached .refl
  refine (hclaim.2.1 "k1" _ hrow).2 _ rfl ?_
  intro hequal
  have hfingerprint := hexdigest_injective case_collisionFree hequal
  have hbody := body_eq_of_fingerprint (caseUpload_allowed [0]) (caseUpload_allowed [])
    hfingerprint
  exact absurd hbody (by simp [caseUpload])

end Case

end Tally.Analysis.Ingestions
