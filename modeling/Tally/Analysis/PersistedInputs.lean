import Tally.Library.Fallible
import Tally.Model.ReceiptPipeline

/-!
# Persisting the same inputs again

A second call with the inputs of a first one finds the rows the first one left and compares them
with the inputs. A row that was there before has passed the comparison already. A row the first
call inserted passes it if every column gives back what was written: the texts, dates and numbers
do; the carrier does if its text is the one the database prints; the rate of the clause does if it
has no fraction of a cent; the rate of the invoice only if it is spelled with two decimals, and the
time it was received if the database reads its text as the code does.
-/

set_option autoImplicit false

namespace Tally.Analysis.PersistedInputs
open Library Library.Sha256 Tally.Model Tally.Model.Receipt Tally.Model.DecimalColumns
  Tally.Model.ReceiptPipeline
open Tally.Model.Applicability (Decimal)

/-! ## Steps -/

theorem stored_ok {A : Type} {value : Option A} {a : A} :
    stored value = .ok a ↔ value = some a := by
  cases value with
  | none => simp [stored]
  | some b => simp [stored]

theorem assertReusedRow_ok {label : String} {same : Bool} :
    assertReusedRow label same = .ok () ↔ same = true := by
  cases same <;> simp [assertReusedRow]

theorem asUtc_ok {value : Option Calendar.Instant} {instant : Calendar.Instant} :
    asUtc value = .ok instant ↔ value = some instant := by
  cases value with
  | none => simp [asUtc]
  | some other => simp [asUtc]

section Rows

variable {R : Type} {rows rows' : List R} {hasKey : R → Bool} {row found : R}
  {check : R → Except PersistError Unit}

/-- The row of the key, and whether it was there. -/
theorem insertOrReuse_ok : insertOrReuse rows hasKey row check = .ok (found, rows') ↔
    (rows.find? hasKey = some found ∧ check found = .ok () ∧ rows' = rows) ∨
      (rows.find? hasKey = none ∧ found = row ∧ rows' = rows ++ [row]) := by
  unfold insertOrReuse
  cases hfind : rows.find? hasKey with
  | some other =>
      simp only [bind_eq_ok, pure, Except.pure, Except.ok.injEq, Prod.mk.injEq, Option.some.injEq]
      constructor
      · rintro ⟨_, hcheck, rfl, rfl⟩
        exact Or.inl ⟨rfl, hcheck, rfl⟩
      · rintro (⟨rfl, hcheck, rfl⟩ | ⟨hnone, _⟩)
        · exact ⟨(), hcheck, rfl, rfl⟩
        · exact absurd hnone (by simp)
  | none =>
      simp only [Except.ok.injEq, Prod.mk.injEq]
      constructor
      · rintro ⟨rfl, rfl⟩
        exact Or.inr ⟨trivial, rfl, rfl⟩
      · rintro (⟨hsome, _⟩ | ⟨_, rfl, rfl⟩)
        · exact absurd hsome (by simp)
        · exact ⟨rfl, rfl⟩

/-- The rows behind the statements begin with those before them. -/
theorem insertOrReuse_grows (h : insertOrReuse rows hasKey row check = .ok (found, rows')) :
    ∃ more, rows' = rows ++ more := by
  rcases insertOrReuse_ok.mp h with ⟨_, _, rfl⟩ | ⟨_, _, rfl⟩
  · exact ⟨[], (List.append_nil _).symm⟩
  · exact ⟨[row], rfl⟩

/-- The row a call answers with is the first of its key behind the call. -/
theorem find?_of_insertOrReuse (h : insertOrReuse rows hasKey row check = .ok (found, rows'))
    (hkey : hasKey row = true) : rows'.find? hasKey = some found := by
  rcases insertOrReuse_ok.mp h with ⟨hfind, _, rfl⟩ | ⟨hfind, rfl, rfl⟩
  · exact hfind
  · rw [List.find?_append, hfind, List.find?_singleton, hkey]
    rfl

/-- Later statements find the row of the first ones, and go through if it was there before or
passes the comparison. -/
theorem insertOrReuse_again (h : insertOrReuse rows hasKey row check = .ok (found, rows'))
    (hkey : hasKey row = true) (other : R) (more : List R) {answer : R × List R} :
    insertOrReuse (rows' ++ more) hasKey other check = .ok answer ↔
      answer = (found, rows' ++ more) ∧
        ((rows.find? hasKey).isSome = true ∨ check row = .ok ()) := by
  obtain ⟨other', rows''⟩ := answer
  rw [insertOrReuse_ok, List.find?_append, find?_of_insertOrReuse h hkey, Option.some_or,
    Prod.mk.injEq]
  rcases insertOrReuse_ok.mp h with ⟨hfind, hcheck, rfl⟩ | ⟨hfind, rfl, rfl⟩
  · rw [hfind]
    constructor
    · rintro (⟨hsome, _, hrows⟩ | ⟨hnone, _⟩)
      · exact ⟨⟨(Option.some.inj hsome).symm, hrows⟩, Or.inl rfl⟩
      · exact absurd hnone (by simp)
    · rintro ⟨⟨rfl, rfl⟩, _⟩
      exact Or.inl ⟨rfl, hcheck, rfl⟩
  · rw [hfind]
    constructor
    · rintro (⟨hsome, hcheck, hrows⟩ | ⟨hnone, _⟩)
      · obtain rfl := Option.some.inj hsome
        exact ⟨⟨rfl, hrows⟩, Or.inr hcheck⟩
      · exact absurd hnone (by simp)
    · rintro ⟨⟨rfl, rfl⟩, hfound | hcheck⟩
      · exact absurd hfound (by simp)
      · exact Or.inl ⟨rfl, hcheck, rfl⟩

end Rows

/-! ## Runs of a clerk -/

theorem firstRun_singleton {runs : List ClerkRow} {invoiceId : String} {run : ClerkRow}
    (h : firstRun runs invoiceId = none) (hrun : run.invoiceId = invoiceId) :
    firstRun (runs ++ [run]) invoiceId = some run := by
  unfold firstRun at *
  have hnone : runs.filter (fun run => run.invoiceId = invoiceId) = [] := by
    cases hfilter : runs.filter fun run => run.invoiceId = invoiceId with
    | nil => rfl
    | cons first rest =>
        rw [hfilter, List.foldr_cons] at h
        split at h
        · exact absurd h (by simp)
        · split at h <;> exact absurd h (by simp)
  rw [List.filter_append, hnone, List.nil_append]
  simp [hrun]

/-- The first run of an invoice stays when the run of another call is looked up or added. -/
theorem firstRun_clerkRunOf {runs : List ClerkRow} {invoiceId : String} {first : ClerkRow}
    (h : firstRun runs invoiceId = some first) (run : ClerkRow) :
    firstRun (clerkRunOf runs run).2 invoiceId = some first := by
  unfold clerkRunOf
  cases hfirst : firstRun runs run.invoiceId with
  | some other =>
      exact h
  | none =>
      have hdiffers : run.invoiceId ≠ invoiceId := by
        intro hsame
        rw [hsame, h] at hfirst
        exact absurd hfirst (by simp)
      dsimp only
      unfold firstRun at h ⊢
      rw [List.filter_append, List.filter_singleton]
      simpa [hdiffers] using h

/-- The run a call answers with is the first run of its invoice behind the call. -/
theorem firstRun_of_clerkRunOf (runs : List ClerkRow) (run : ClerkRow) :
    firstRun (clerkRunOf runs run).2 run.invoiceId = some (clerkRunOf runs run).1 := by
  unfold clerkRunOf
  cases hfirst : firstRun runs run.invoiceId with
  | some first =>
      exact hfirst
  | none =>
      exact firstRun_singleton hfirst rfl

section Persisting

variable [Sha256] [Literals] {inputs : Inputs} {minted : Minted}

/-! ## Tables -/

omit [Sha256] in
theorem snapshotRow_ok {tariffText : String} {row : SnapshotRow} :
    snapshotRow inputs minted tariffText = .ok row ↔ ∃ carrierId capturedAt rate,
      Literals.uuid inputs.carrierId = some carrierId ∧
        asUtc inputs.tariff.observedAt = .ok capturedAt ∧
          storeMoney inputs.extraction.rateAmount = some rate ∧
            row =
              { id := minted.snapshotId
                committedAt := minted.snapshotCommittedAt
                carrierId
                lane := inputs.lane
                capturedAt
                s3Key := inputs.tariff.key
                sourceVersionId := some inputs.tariff.versionId
                sourceByteSize := some inputs.tariff.body.length
                docSha256 := inputs.verification.sourceSha256
                docText := tariffText
                sourceUrl := inputs.tariffSourceUrl } := by
  unfold snapshotRow
  simp only [bind_eq_ok, stored_ok, pure, Except.pure, Except.ok.injEq]
  constructor
  · rintro ⟨carrierId, hcarrier, capturedAt, hcaptured, rate, hrate, rfl⟩
    exact ⟨carrierId, capturedAt, rate, hcarrier, hcaptured, hrate, rfl⟩
  · rintro ⟨carrierId, capturedAt, rate, hcarrier, hcaptured, hrate, rfl⟩
    exact ⟨carrierId, hcarrier, capturedAt, hcaptured, rate, hrate, rfl⟩

omit [Sha256] in
/-- A snapshot passes the comparison with the inputs it was made of. -/
theorem storeSnapshot_again {tariffText : String} {rows rows' : List SnapshotRow}
    {found : SnapshotRow} (minted' : Minted) (more : List SnapshotRow)
    (h : storeSnapshot inputs minted tariffText rows = .ok (found, rows'))
    {answer : SnapshotRow × List SnapshotRow} :
    storeSnapshot inputs minted' tariffText (rows' ++ more) = .ok answer ↔
      answer = (found, rows' ++ more) := by
  unfold storeSnapshot at h ⊢
  obtain ⟨row, hrow, hinsert⟩ := bind_eq_ok.mp h
  obtain ⟨carrierId, capturedAt, rate, hcarrier, hcaptured, hrate, rfl⟩ := snapshotRow_ok.mp hrow
  have hother : snapshotRow inputs minted' tariffText = .ok _ :=
    snapshotRow_ok.mpr ⟨carrierId, capturedAt, rate, hcarrier, hcaptured, hrate, rfl⟩
  rw [bind_of_eq_ok hother]
  refine (insertOrReuse_again hinsert (by simp [snapshotKey]) _ more).trans (and_iff_left ?_)
  refine Or.inr ?_
  unfold checkSnapshot
  rw [assertReusedRow_ok]
  simp

omit [Sha256] in
theorem clauseRow_ok {snapshotId : String} {row : ClauseRow} :
    clauseRow inputs minted snapshotId = .ok row ↔ ∃ carrierId rate confidence,
      Literals.uuid inputs.carrierId = some carrierId ∧
        storeMoney inputs.extraction.rateAmount = some rate ∧
          storeDecimal 5 4 inputs.extraction.confidence = some confidence ∧
            row =
              { id := minted.clauseId
                committedAt := minted.clauseCommittedAt
                snapshotId
                sha256 := inputs.verification.clauseSha256
                carrierId
                clauseText := inputs.extraction.clauseText
                rateAmount := some rate
                rateCurrency := some inputs.extraction.rateCurrency
                rateUnit := some inputs.extraction.rateUnit
                freeTimeBasis := none
                effectiveFrom := some inputs.extraction.effectiveFrom
                effectiveTo := inputs.extraction.effectiveTo
                verificationStatus := some "VERIFIED"
                verificationReason := some (reason inputs.verification) } := by
  unfold clauseRow
  simp only [bind_eq_ok, stored_ok, pure, Except.pure, Except.ok.injEq]
  constructor
  · rintro ⟨carrierId, hcarrier, rate, hrate, confidence, hconfidence, rfl⟩
    exact ⟨carrierId, rate, confidence, hcarrier, hrate, hconfidence, rfl⟩
  · rintro ⟨carrierId, rate, confidence, hcarrier, hrate, hconfidence, rfl⟩
    exact ⟨carrierId, hcarrier, rate, hrate, confidence, hconfidence, rfl⟩

/-- The database prints the carrier as the inputs spell it, and keeps the rate of the clause. -/
structure ClauseKept (inputs : Inputs) : Prop where
  carrier : Literals.uuid inputs.carrierId = some inputs.carrierId
  rate : ∃ rate, storeMoney inputs.extraction.rateAmount = some rate ∧
    equal rate inputs.extraction.rateAmount = true

/-- There is a row of the clause. -/
def ClauseFound (inputs : Inputs) (snapshotId : String) (rows : List ClauseRow) : Prop :=
  ∃ row ∈ rows, row.snapshotId = snapshotId ∧ row.sha256 = inputs.verification.clauseSha256

omit [Sha256] in
/-- A clause is stored again if it was there before or its columns give back what was written. -/
theorem storeClause_again {snapshotId : String} {rows rows' : List ClauseRow} {found : ClauseRow}
    (minted' : Minted) (more : List ClauseRow)
    (h : storeClause inputs minted snapshotId rows = .ok (found, rows'))
    {answer : ClauseRow × List ClauseRow} :
    storeClause inputs minted' snapshotId (rows' ++ more) = .ok answer ↔
      answer = (found, rows' ++ more) ∧
        (ClauseFound inputs snapshotId rows ∨ ClauseKept inputs) := by
  unfold storeClause at h ⊢
  obtain ⟨row, hrow, hinsert⟩ := bind_eq_ok.mp h
  obtain ⟨carrierId, rate, confidence, hcarrier, hrate, hconfidence, rfl⟩ := clauseRow_ok.mp hrow
  have hother : clauseRow inputs minted' snapshotId = .ok _ :=
    clauseRow_ok.mpr ⟨carrierId, rate, confidence, hcarrier, hrate, hconfidence, rfl⟩
  rw [bind_of_eq_ok hother]
  refine (insertOrReuse_again hinsert (by simp [clauseKey]) _ more).trans
    (and_congr_right fun _ => or_congr ?_ ?_)
  · rw [List.find?_isSome]
    simp [ClauseFound, clauseKey]
  · unfold checkClause
    dsimp only
    rw [assertReusedRow_ok]
    simp only [decide_true, Bool.and_true, Bool.and_eq_true, decide_eq_true_eq]
    constructor
    · rintro ⟨rfl, hequal⟩
      exact ⟨hcarrier, rate, hrate, hequal⟩
    · rintro ⟨hprinted, kept, hkept, hequal⟩
      rw [hcarrier] at hprinted
      rw [hrate] at hkept
      obtain rfl := Option.some.inj hkept
      exact ⟨Option.some.inj hprinted, hequal⟩

theorem invoiceRow_ok {invoiceText : String} {row : InvoiceRow} :
    invoiceRow inputs minted invoiceText = .ok row ↔ ∃ carrierId receivedAt amount money rate,
      Literals.uuid inputs.carrierId = some carrierId ∧
        Literals.timestamp inputs.invoiceClaim.receivedAt = some receivedAt ∧
          amountOf inputs.invoiceClaim = .ok amount ∧ storeMoney amount = some money ∧
            storeMoney inputs.invoiceClaim.claimedRate = some rate ∧
              inputs.invoiceClaim.chargeDays ≤ maxInt8 ∧
                row =
                  { id := minted.invoiceId
                    sha256 := hexdigest inputs.invoice.body
                    s3Key := inputs.invoice.key
                    sourceVersionId := some inputs.invoice.versionId
                    rawText := some invoiceText
                    claimedRate := some rate
                    currency := some inputs.invoiceClaim.rateCurrency
                    invoiceDate := some inputs.invoiceClaim.invoiceDate
                    rateUnit := some inputs.invoiceClaim.rateUnit
                    chargeDays := some inputs.invoiceClaim.chargeDays
                    receivedAt } := by
  unfold invoiceRow
  simp only [bind_eq_ok, stored_ok, pure, Except.pure, Except.ok.injEq]
  constructor
  · rintro ⟨carrierId, hcarrier, receivedAt, hreceived, amount, hamount, money, hmoney, rate, hrate,
      days, hdays, rfl⟩
    split at hdays
    · rename_i hrange
      obtain rfl := Option.some.inj hdays
      exact ⟨carrierId, receivedAt, amount, money, rate, hcarrier, hreceived, hamount, hmoney,
        hrate, hrange, rfl⟩
    · exact absurd hdays (by simp)
  · rintro ⟨carrierId, receivedAt, amount, money, rate, hcarrier, hreceived, hamount, hmoney, hrate,
      hrange, rfl⟩
    exact ⟨carrierId, hcarrier, receivedAt, hreceived, amount, hamount, money, hmoney, rate, hrate,
      _, if_pos hrange, rfl⟩

/-- The rate of the claim is spelled as the database prints it, and the database reads the time
it was received as the code does. -/
structure InvoiceKept (claim : InvoiceClaim) : Prop where
  rate : ∃ rate, storeMoney claim.claimedRate = some rate ∧
    decimalText rate = decimalText claim.claimedRate
  received : ∃ instant, Literals.timestamp claim.receivedAt = some instant ∧
    asUtcText claim.receivedAt = .ok instant

omit [Sha256] in
/-- A rate in cents is kept as it is spelled. -/
theorem invoiceKept_of_cents {claim : InvoiceClaim} {negative : Bool} {cents : Nat}
    (hrate : claim.claimedRate = .finite negative cents (-2)) (hrange : cents < 10 ^ 12)
    (hsign : negative = true → cents ≠ 0)
    (hreceived : ∃ instant, Literals.timestamp claim.receivedAt = some instant ∧
      asUtcText claim.receivedAt = .ok instant) : InvoiceKept claim := by
  refine ⟨⟨_, ?_, congrArg _ hrate.symm⟩, hreceived⟩
  have hunits : unitsOf 2 cents (-2) = cents := by
    simp [unitsOf]
  have hnegative : (negative && decide (cents ≠ 0)) = negative := by
    cases negative with
    | false => rfl
    | true => simpa using hsign rfl
  rw [hrate]
  unfold storeMoney storeDecimal
  dsimp only
  rw [hunits, if_pos hrange, hnegative]
  rfl

/-- There is a row of the invoice. -/
def InvoiceFound (inputs : Inputs) (rows : List InvoiceRow) : Prop :=
  ∃ row ∈ rows, row.sha256 = hexdigest inputs.invoice.body

/-- An invoice is stored again if it was there before or its columns give back what was
written. -/
theorem storeInvoice_again {invoiceText : String} {rows rows' : List InvoiceRow}
    {found : InvoiceRow} (minted' : Minted) (more : List InvoiceRow)
    (h : storeInvoice inputs minted invoiceText rows = .ok (found, rows'))
    {answer : InvoiceRow × List InvoiceRow} :
    storeInvoice inputs minted' invoiceText (rows' ++ more) = .ok answer ↔
      answer = (found, rows' ++ more) ∧
        (InvoiceFound inputs rows ∨ InvoiceKept inputs.invoiceClaim) := by
  unfold storeInvoice at h ⊢
  obtain ⟨row, hrow, hinsert⟩ := bind_eq_ok.mp h
  obtain ⟨carrierId, receivedAt, amount, money, rate, hcarrier, hreceived, hamount, hmoney, hrate,
    hrange, rfl⟩ := invoiceRow_ok.mp hrow
  have hother : invoiceRow inputs minted' invoiceText = .ok _ :=
    invoiceRow_ok.mpr ⟨carrierId, receivedAt, amount, money, rate, hcarrier, hreceived, hamount,
      hmoney, hrate, hrange, rfl⟩
  rw [bind_of_eq_ok hother]
  refine (insertOrReuse_again hinsert (by simp [invoiceKey]) _ more).trans
    (and_congr_right fun _ => or_congr ?_ ?_)
  · rw [List.find?_isSome]
    simp [InvoiceFound, invoiceKey]
  · unfold checkInvoice
    dsimp only
    rw [bind_eq_ok]
    simp only [assertReusedRow_ok, textOr, Option.map_some, Option.getD_some, decide_true,
      Bool.and_true, Bool.true_and, Bool.and_eq_true, decide_eq_true_eq]
    constructor
    · rintro ⟨instant, hinstant, hspelled, rfl⟩
      exact ⟨⟨rate, hrate, of_decide_eq_true hspelled⟩, receivedAt, hreceived, hinstant⟩
    · rintro ⟨⟨kept, hkept, hspelled⟩, instant, htimestamp, hinstant⟩
      rw [hrate] at hkept
      rw [hreceived] at htimestamp
      obtain rfl := Option.some.inj hkept
      obtain rfl := Option.some.inj htimestamp
      exact ⟨receivedAt, hinstant, decide_eq_true hspelled, rfl⟩

/-! ## Calls -/

theorem persist_ok {db db' : ReceiptDb} {result : StoredReceiptInputs} :
    persistVerifiedInputs inputs minted db = .ok (result, db') ↔
      ∃ tariffText invoiceText snapshot clause invoice,
        assertEligible inputs.verification = .ok () ∧ validateReceiptChronology inputs = .ok () ∧
          decoded inputs.tariff.body = .ok tariffText ∧
          decoded inputs.invoice.body = .ok invoiceText ∧
          storeSnapshot inputs minted tariffText db.snapshots = .ok snapshot ∧
          storeClause inputs minted snapshot.1.id db.clauses = .ok clause ∧
          storeInvoice inputs minted invoiceText db.invoices = .ok invoice ∧
          answerOf snapshot clause invoice
            (clerkRunOf db.clerkRuns ⟨minted.clerkId, invoice.1.id, minted.now⟩) =
              (result, db') := by
  unfold persistVerifiedInputs
  simp only [bind_eq_ok, pure, Except.pure, Except.ok.injEq]
  constructor
  · rintro ⟨_, heligible, _, hchronology, tariffText, htariff, invoiceText, hinvoice, snapshot,
      hsnapshot, clause, hclause, invoice, hstored, hanswer⟩
    exact ⟨tariffText, invoiceText, snapshot, clause, invoice, heligible, hchronology, htariff,
      hinvoice, hsnapshot, hclause, hstored, hanswer⟩
  · rintro ⟨tariffText, invoiceText, snapshot, clause, invoice, heligible, hchronology, htariff,
      hinvoice, hsnapshot, hclause, hstored, hanswer⟩
    exact ⟨(), heligible, (), hchronology, tariffText, htariff, invoiceText, hinvoice, snapshot,
      hsnapshot, clause, hclause, invoice, hstored, hanswer⟩

/-- One call among others: a call that fails leaves the rows as they are. -/
def callOnce (db : ReceiptDb) (call : Inputs × Minted) : ReceiptDb :=
  match persistVerifiedInputs call.1 call.2 db with
  | .ok answer => answer.2
  | .error _ => db

/-- The rows behind calls with any inputs. -/
def callAll (calls : List (Inputs × Minted)) (db : ReceiptDb) : ReceiptDb :=
  calls.foldl callOnce db

/-- The tables grow, and the first run of an invoice stays the first. -/
structure Grown (db db' : ReceiptDb) : Prop where
  snapshots : ∃ more, db'.snapshots = db.snapshots ++ more
  clauses : ∃ more, db'.clauses = db.clauses ++ more
  invoices : ∃ more, db'.invoices = db.invoices ++ more
  first : ∀ invoiceId run, firstRun db.clerkRuns invoiceId = some run →
    firstRun db'.clerkRuns invoiceId = some run

omit [Sha256] [Literals] in
theorem Grown.refl (db : ReceiptDb) : Grown db db :=
  ⟨⟨[], (List.append_nil _).symm⟩, ⟨[], (List.append_nil _).symm⟩, ⟨[], (List.append_nil _).symm⟩,
    fun _ _ h => h⟩

omit [Sha256] [Literals] in
theorem Grown.trans {a b c : ReceiptDb} (hab : Grown a b) (hbc : Grown b c) : Grown a c := by
  obtain ⟨⟨s, hs⟩, ⟨k, hk⟩, ⟨i, hi⟩, hfirst⟩ := hab
  obtain ⟨⟨s', hs'⟩, ⟨k', hk'⟩, ⟨i', hi'⟩, hfirst'⟩ := hbc
  refine ⟨⟨s ++ s', ?_⟩, ⟨k ++ k', ?_⟩, ⟨i ++ i', ?_⟩, ?_⟩
  · rw [hs', hs, List.append_assoc]
  · rw [hk', hk, List.append_assoc]
  · rw [hi', hi, List.append_assoc]
  · intro invoiceId run h
    exact hfirst' invoiceId run (hfirst invoiceId run h)

/-- A call only adds rows. -/
theorem grown_of_persist {db db' : ReceiptDb} {result : StoredReceiptInputs}
    (h : persistVerifiedInputs inputs minted db = .ok (result, db')) : Grown db db' := by
  obtain ⟨tariffText, invoiceText, snapshot, clause, invoice, _, _, _, _, hsnapshot, hclause,
    hinvoice, hanswer⟩ := persist_ok.mp h
  obtain ⟨_, rfl⟩ := Prod.mk.inj hanswer
  obtain ⟨_, _, hsnapshots⟩ := bind_eq_ok.mp hsnapshot
  obtain ⟨_, _, hclauses⟩ := bind_eq_ok.mp hclause
  obtain ⟨_, _, hinvoices⟩ := bind_eq_ok.mp hinvoice
  refine ⟨insertOrReuse_grows hsnapshots, insertOrReuse_grows hclauses,
    insertOrReuse_grows hinvoices, ?_⟩
  intro invoiceId run hfirst
  exact firstRun_clerkRunOf hfirst _

theorem grown_callOnce (db : ReceiptDb) (call : Inputs × Minted) : Grown db (callOnce db call) := by
  unfold callOnce
  split
  · rename_i answer hcall
    exact grown_of_persist hcall
  · exact Grown.refl db

theorem grown_callAll (calls : List (Inputs × Minted)) (db : ReceiptDb) :
    Grown db (callAll calls db) := by
  unfold callAll
  induction calls generalizing db with
  | nil =>
      exact Grown.refl db
  | cons call calls ih =>
      rw [List.foldl_cons]
      exact (grown_callOnce db call).trans (ih (callOnce db call))

/-! ## The second call -/

/-- The snapshot the inputs are stored under, if there is one. -/
def snapshotOf (inputs : Inputs) (db : ReceiptDb) : Option SnapshotRow :=
  db.snapshots.find? fun row =>
    Literals.uuid inputs.carrierId = some row.carrierId && row.lane = inputs.lane &&
      inputs.tariff.observedAt = some row.capturedAt

/-- The clause of the inputs is stored under their snapshot. -/
def ClauseStored (inputs : Inputs) (db : ReceiptDb) : Prop :=
  ∃ snapshot, snapshotOf inputs db = some snapshot ∧ ClauseFound inputs snapshot.id db.clauses

omit [Sha256] in
theorem snapshotOf_eq {tariffText : String} {row : SnapshotRow} (db : ReceiptDb)
    (h : snapshotRow inputs minted tariffText = .ok row) :
    snapshotOf inputs db = db.snapshots.find? (snapshotKey row) := by
  obtain ⟨carrierId, capturedAt, rate, hcarrier, hcaptured, _, rfl⟩ := snapshotRow_ok.mp h
  unfold snapshotOf
  congr 1
  funext other
  simp only [snapshotKey, hcarrier, asUtc_ok.mp hcaptured, Option.some.injEq]
  rw [decide_eq_decide.mpr (eq_comm (a := carrierId)),
    decide_eq_decide.mpr (eq_comm (a := capturedAt))]

omit [Sha256] in
/-- The clause is found below the snapshot of a call if it was stored before the call, since no
clause is below a snapshot that is new. -/
theorem clauseFound_iff {tariffText : String} {db : ReceiptDb}
    {snapshot : SnapshotRow × List SnapshotRow}
    (hfresh : ∀ row ∈ db.clauses, row.snapshotId ≠ minted.snapshotId)
    (h : storeSnapshot inputs minted tariffText db.snapshots = .ok snapshot) :
    ClauseFound inputs snapshot.1.id db.clauses ↔ ClauseStored inputs db := by
  unfold storeSnapshot at h
  obtain ⟨row, hrow, hinsert⟩ := bind_eq_ok.mp h
  obtain ⟨_, _, _, _, _, _, hshape⟩ := snapshotRow_ok.mp hrow
  unfold ClauseStored
  rw [snapshotOf_eq db hrow]
  rcases insertOrReuse_ok.mp hinsert with ⟨hfind, _, _⟩ | ⟨hfind, hnew, _⟩
  · rw [hfind]
    simp
  · rw [hfind, hnew, hshape]
    refine iff_of_false ?_ (by simp)
    rintro ⟨clause, hmem, hid, _⟩
    exact hfresh clause hmem hid

/-- A later call finds the rows of the first one in tables that have grown, and goes through if
the clause and the invoice were stored before the first call or keep what is written. -/
theorem persist_of_grown {db db' later : ReceiptDb} {result : StoredReceiptInputs}
    (minted' : Minted) (hfresh : ∀ row ∈ db.clauses, row.snapshotId ≠ minted.snapshotId)
    (h : persistVerifiedInputs inputs minted db = .ok (result, db')) (hgrown : Grown db' later) :
    persistVerifiedInputs inputs minted' later = .ok (result, later) ↔
      (ClauseStored inputs db ∨ ClauseKept inputs) ∧
        (InvoiceFound inputs db.invoices ∨ InvoiceKept inputs.invoiceClaim) := by
  obtain ⟨tariffText, invoiceText, ⟨snapshot, snapshots⟩, ⟨clause, clauses⟩, ⟨invoice, invoices⟩,
    heligible, hchronology, htariff, hinvoice, hsnapshot, hclause, hstored, hanswer⟩ :=
    persist_ok.mp h
  obtain ⟨hresult, rfl⟩ := Prod.mk.inj hanswer
  obtain ⟨⟨moreSnapshots, hsnapshots⟩, ⟨moreClauses, hclauses⟩, ⟨moreInvoices, hinvoices⟩,
    hfirst⟩ := hgrown
  dsimp only at hsnapshots hclauses hinvoices hfirst hclause hresult
  have hrun : clerkRunOf later.clerkRuns ⟨minted'.clerkId, invoice.id, minted'.now⟩ =
      ((clerkRunOf db.clerkRuns ⟨minted.clerkId, invoice.id, minted.now⟩).1,
        later.clerkRuns) := by
    have hkept := hfirst invoice.id _ (firstRun_of_clerkRunOf db.clerkRuns
      ⟨minted.clerkId, invoice.id, minted.now⟩)
    rw [clerkRunOf]
    dsimp only
    rw [hkept]
  have hsnapshotAgain : ∀ answer,
      storeSnapshot inputs minted' tariffText (snapshots ++ moreSnapshots) = .ok answer ↔
        answer = (snapshot, snapshots ++ moreSnapshots) :=
    fun _ => storeSnapshot_again minted' moreSnapshots hsnapshot
  have hclauseAgain : ∀ answer,
      storeClause inputs minted' snapshot.id (clauses ++ moreClauses) = .ok answer ↔
        answer = (clause, clauses ++ moreClauses) ∧
          (ClauseStored inputs db ∨ ClauseKept inputs) := by
    intro answer
    rw [← clauseFound_iff hfresh hsnapshot]
    exact storeClause_again minted' moreClauses hclause
  have hinvoiceAgain : ∀ answer,
      storeInvoice inputs minted' invoiceText (invoices ++ moreInvoices) = .ok answer ↔
        answer = (invoice, invoices ++ moreInvoices) ∧
          (InvoiceFound inputs db.invoices ∨ InvoiceKept inputs.invoiceClaim) :=
    fun _ => storeInvoice_again minted' moreInvoices hstored
  rw [persist_ok, hsnapshots, hclauses, hinvoices]
  constructor
  · rintro ⟨tariffText', invoiceText', snapshot', clause', invoice', _, _, htariff', hinvoice',
      hsnapshot', hclause', hstored', _⟩
    rw [htariff] at htariff'
    rw [hinvoice] at hinvoice'
    obtain rfl := Except.ok.inj htariff'
    obtain rfl := Except.ok.inj hinvoice'
    obtain rfl := (hsnapshotAgain _).mp hsnapshot'
    exact ⟨((hclauseAgain _).mp hclause').2, ((hinvoiceAgain _).mp hstored').2⟩
  · rintro ⟨hclauseHolds, hinvoiceHolds⟩
    refine ⟨tariffText, invoiceText, _, _, _, heligible, hchronology, htariff, hinvoice,
      (hsnapshotAgain _).mpr rfl, (hclauseAgain _).mpr ⟨rfl, hclauseHolds⟩,
      (hinvoiceAgain _).mpr ⟨rfl, hinvoiceHolds⟩, ?_⟩
    dsimp only
    rw [hrun, ← hsnapshots, ← hclauses, ← hinvoices, ← hresult]
    rfl

/-- A call with inputs that were accepted before, after calls with any inputs, gives the ids of the
first call and changes nothing exactly if the clause and the invoice were stored before the first
call or keep what is written: the carrier is spelled as the database prints it, the rate of the
clause has no fraction of a cent, the rate of the invoice is spelled as the money column prints
it, and the database reads the time the invoice was received as the code does.

SOURCE: src/platform/receipt_pipeline.py:88-343 -/
theorem persist_again_iff {db db' : ReceiptDb} {result : StoredReceiptInputs}
    (minted' : Minted) (calls : List (Inputs × Minted))
    (hfresh : ∀ row ∈ db.clauses, row.snapshotId ≠ minted.snapshotId)
    (h : persistVerifiedInputs inputs minted db = .ok (result, db')) :
    persistVerifiedInputs inputs minted' (callAll calls db') = .ok (result, callAll calls db') ↔
      (ClauseStored inputs db ∨ ClauseKept inputs) ∧
        (InvoiceFound inputs db.invoices ∨ InvoiceKept inputs.invoiceClaim) :=
  persist_of_grown minted' hfresh h (grown_callAll calls db')

end Persisting

section Case

local instance caseDigest : Sha256 := Sha256.standard

/-- The database keeps the text of a UUID that is spelled the way it prints one. -/
local instance caseLiterals : Literals := ⟨some, fun text => (asUtcText text).toOption⟩

theorem firstOfJune_valid : (1 ≤ 2026 ∧ 2026 ≤ 9999) ∧ (1 ≤ 6 ∧ 6 ≤ 12) ∧
    1 ≤ 1 ∧ 1 ≤ Calendar.daysInMonth 2026 6 := by
  decide

theorem firstOfJuly_valid : (1 ≤ 2026 ∧ 2026 ≤ 9999) ∧ (1 ≤ 7 ∧ 7 ≤ 12) ∧
    1 ≤ 1 ∧ 1 ≤ Calendar.daysInMonth 2026 7 := by
  decide

/-- Inputs whose invoice claims a rate. -/
def inputsOf (rate : Decimal) : Inputs :=
  { carrierId := "2b1f6f9e-6a3c-4c6e-9f63-0d3ad7f7c001"
    lane := "USLAX-CNSHA"
    tariff :=
      { key := "tariff.txt"
        versionId := "v1"
        body := encode "$95.00 per day"
        observedAt := asUtcText "2026-06-01T00:00:00Z" |>.toOption }
    tariffSourceUrl := "https://carrier.example/tariff"
    extraction :=
      { rateAmount := .finite false 95 0
        rateCurrency := "USD"
        rateUnit := "per_day"
        rateText := "$95.00 per day"
        effectiveFrom := ⟨2026, 6, 1, firstOfJune_valid⟩
        effectiveTo := none
        clauseText := "$95.00 per day"
        sourceLocator := "p1"
        confidence := one }
    verification :=
      { eligible := true
        reasons := []
        sourceSha256 := hexdigest (encode "$95.00 per day")
        clauseSha256 := hexdigest (encode "$95.00 per day") }
    invoice :=
      { key := "invoice.json"
        versionId := "v1"
        body := encode "INV-1"
        observedAt := asUtcText "2026-07-02T00:00:00Z" |>.toOption }
    invoiceClaim :=
      { invoiceNo := "INV-1"
        claimedRate := rate
        rateCurrency := "USD"
        rateUnit := "per_day"
        chargeDays := 4
        invoiceDate := ⟨2026, 7, 1, firstOfJuly_valid⟩
        receivedAt := "2026-07-02T00:00:00Z" } }

/-- The ids of a call. -/
def mintedOf (tag : String) : Minted :=
  ⟨"snapshot" ++ tag, "t1", "clause" ++ tag, "t2", "invoice" ++ tag, "run" ++ tag, 0⟩

/-- Empty tables. -/
def noRows : ReceiptDb := ⟨[], [], [], []⟩

/-- What a second call says, if the first one is accepted. -/
def secondCall (rate : Decimal) : Option (Except PersistError StoredReceiptInputs) :=
  match persistVerifiedInputs (inputsOf rate) (mintedOf "1") noRows with
  | .ok (_, db) =>
    some ((persistVerifiedInputs (inputsOf rate) (mintedOf "2") db).map fun answer => answer.1)
  | .error _ => none

/-- A first call that is accepted leaves the rows the second one is made on. -/
theorem exists_of_secondCall {rate : Decimal} {answer : Except PersistError StoredReceiptInputs}
    (h : secondCall rate = some answer) : ∃ result db,
      persistVerifiedInputs (inputsOf rate) (mintedOf "1") noRows = .ok (result, db) ∧
        (persistVerifiedInputs (inputsOf rate) (mintedOf "2") db).map (fun again => again.1) =
          answer := by
  unfold secondCall at h
  split at h
  · rename_i result db hcall
    exact ⟨result, db, hcall, Option.some.inj h⟩
  · exact absurd h (by simp)

/-- The rate of 250.00 is claimed again. -/
theorem persist_again_iff_cents : ∃ result db,
    persistVerifiedInputs (inputsOf (.finite false 25000 (-2))) (mintedOf "1") noRows =
        .ok (result, db) ∧
      persistVerifiedInputs (inputsOf (.finite false 25000 (-2))) (mintedOf "2")
          (callAll [(inputsOf (.finite false 30000 (-2)), mintedOf "3")] db) =
        .ok (result, callAll [(inputsOf (.finite false 30000 (-2)), mintedOf "3")] db) := by
  have hsecond : secondCall (.finite false 25000 (-2)) =
      some (.ok ⟨"snapshot1", "t1", "clause1", "t2", "invoice1", "run1"⟩) := by
    decide +kernel
  obtain ⟨result, db, hfirst, _⟩ := exists_of_secondCall hsecond
  refine ⟨result, db, hfirst, (persist_again_iff (mintedOf "2") _ ?_ hfirst).mpr
    ⟨Or.inr ⟨rfl, .finite false 9500 (-2), ?_, ?_⟩,
      Or.inr (invoiceKept_of_cents rfl (by decide) (by simp) ?_)⟩⟩
  · intro row hmem
    exact absurd hmem List.not_mem_nil
  · decide +kernel
  · decide +kernel
  · have hreads : (asUtcText "2026-07-02T00:00:00Z").isOk = true := by
      decide +kernel
    cases hread : asUtcText "2026-07-02T00:00:00Z" with
    | error e =>
        rw [hread] at hreads
        exact absurd hreads (by simp [Except.isOk, Except.toBool])
    | ok instant =>
        refine ⟨instant, ?_, hread⟩
        change (asUtcText "2026-07-02T00:00:00Z").toOption = some instant
        rw [hread]
        rfl

/-- The invoice of a rate that is spelled 250 conflicts with its own row. -/
theorem whole_rate_conflicts : ∃ result db,
    persistVerifiedInputs (inputsOf (.finite false 250 0)) (mintedOf "1") noRows =
        .ok (result, db) ∧
      persistVerifiedInputs (inputsOf (.finite false 250 0)) (mintedOf "2") db =
        .error (.evidenceConflict "invoice") := by
  have hsecond : secondCall (.finite false 250 0) =
      some (.error (.evidenceConflict "invoice")) := by
    decide +kernel
  obtain ⟨result, db, hfirst, hagain⟩ := exists_of_secondCall hsecond
  refine ⟨result, db, hfirst, ?_⟩
  cases hcall : persistVerifiedInputs (inputsOf (.finite false 250 0)) (mintedOf "2") db with
  | error e =>
      rw [hcall] at hagain
      exact congrArg _ (Except.error.inj hagain)
  | ok answer =>
      rw [hcall] at hagain
      exact absurd hagain (by simp [Except.map])

end Case

end Tally.Analysis.PersistedInputs
