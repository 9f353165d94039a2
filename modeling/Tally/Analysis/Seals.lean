import Tally.Library.Fallible
import Tally.Model.CaseSeal

/-!
# Sealing and approving again

A seal writes the manifest of the evidence that the case has, and the manifest is built again
from the rows that the seal itself has updated. Under the text of the id that the case was sealed
with it is the same manifest; under another text of the id it is another one, and the seal is
taken for broken.
-/

set_option autoImplicit false

namespace Tally.Analysis.Seals
open Library Library.Sha256 Tally.Model CaseSeal
open CockroachMcp (JsonDecoder LoadsError)
open ReceiptPipeline (Literals)

theorem orRefuse_ok {α : Type} {result : Except SealError α} {a : α} {db db' : SealDb} :
    orRefuse result db = .ok (a, db') ↔ result = .ok a ∧ db = db' := by
  cases result with
  | error error => simp [orRefuse]
  | ok value => simp [orRefuse]

/-! ## The bytes of a manifest -/

/-- The manifest of the same evidence under another text of the id. -/
theorem buildManifest_caseId (head : ManifestHead) (gathered : Gathered) (caseId : String) :
    buildManifest { head with caseId } gathered =
      Value.setMember "case_id" (.str caseId) (buildManifest head gathered) := rfl

theorem version_buildManifest (head : ManifestHead) (gathered : Gathered) :
    isOne (CaseSeal.get (buildManifest head gathered) "manifest_version") = true := rfl

/-- The bytes of a manifest determine the text of the id in it. -/
theorem caseId_of_bytes (head : ManifestHead) {gathered : Gathered} {a b : String}
    (h : canonicalJsonBytes (.dict (buildManifest { head with caseId := a } gathered)) =
      canonicalJsonBytes (.dict (buildManifest { head with caseId := b } gathered))) : a = b := by
  rw [buildManifest_caseId, buildManifest_caseId] at h
  refine Value.canonicalText_setMember_inj ?_ (encode_injective h)
  show "case_id" ∈ (buildManifest head gathered).map Prod.fst
  exact List.mem_cons_of_mem _ List.mem_cons_self

/-- Digests of 32 bytes. -/
def DigestLength [Sha256] : Prop := ∀ bytes : Bytes, (digest bytes).length = 32

theorem length_hexChars (bytes : Bytes) : (hexChars bytes).length = 2 * bytes.length := by
  induction bytes with
  | nil => rfl
  | cons b bytes ih =>
      unfold hexChars at ih ⊢
      rw [List.flatMap_cons, List.length_append, ih, List.length_cons]
      show 2 + 2 * bytes.length = 2 * (bytes.length + 1)
      omega

/-- A hexadecimal digit is in the range of the pattern. -/
theorem hexDigit_range : ∀ n < 16,
    (('0' ≤ Words.hexDigit n && Words.hexDigit n ≤ '9') ||
      ('a' ≤ Words.hexDigit n && Words.hexDigit n ≤ 'f')) = true := by
  decide

/-- The hash of a manifest has the form of one. -/
theorem isPrefixedSha256_evidenceHash [Sha256] (hlength : DigestLength) (manifest : Mapping) :
    isPrefixedSha256 (evidenceHash manifest) = true := by
  have htext : (evidenceHash manifest).toList =
      "sha256:".toList ++ hexChars (digest (canonicalJsonBytes (.dict manifest))) := by
    unfold evidenceHash AuthoritySealRepository.prefixedSha256 hexdigest
    rw [String.toList_append]
    exact congrArg _ String.toList_ofList
  have hdrop : (evidenceHash manifest).toList.drop 7 =
      hexChars (digest (canonicalJsonBytes (.dict manifest))) := by
    rw [htext]
    rfl
  unfold isPrefixedSha256
  rw [hdrop, Bool.and_eq_true, Bool.and_eq_true]
  refine ⟨⟨?_, ?_⟩, ?_⟩
  · rw [htext]
    rfl
  · rw [length_hexChars, hlength]
    rfl
  · rw [List.all_eq_true]
    intro c hc
    obtain ⟨n, hn, rfl⟩ := mem_hexChars hc
    exact hexDigit_range n hn

/-! ## What a fresh seal writes -/

def sealRow (e : EvidenceRow) : EvidenceRow := { e with sealed := true }

def approveRow (f : FindingRow) : FindingRow := { f with humanApprovalState := "APPROVED" }

/-- The evidence of a case, in the order of its ids. -/
def evidenceOf (db : SealDb) (caseId : String) : List EvidenceRow :=
  orderById ((db .caseEvidence).filter fun e => e.caseId = caseId)

/-- What the manifest of a fresh seal is built of besides the evidence. -/
def headOf (call : SealCall) (row : CaseRow) (approvedAt : String) : ManifestHead :=
  { tenantId := call.tenantId
    caseId := call.caseId
    invoiceId := row.invoiceId
    findingId := row.findingId
    approvedBy := call.sealedByUserId
    approvedAt }

section Sealing

variable [Sha256]

/-- A case with its seal. -/
def sealCaseRow (txnTs sealedBy : String) (time : Calendar.Instant) (manifest : Mapping)
    (row : CaseRow) : CaseRow :=
  { row with
    state := "FILED"
    sealedAtDisplay := some time
    sealedTxnTs := some txnTs
    sealedBy := some sealedBy
    evidenceHash := some (evidenceHash manifest)
    manifestVersion := some 1
    evidenceManifest := some (.dict manifest) }

variable [JsonDecoder] [Literals]

/-- A fresh seal of a case: what it has read and what it has written. -/
structure Sealing (txnTs : String) (call : SealCall) (caseId approvedAt : String) (row : CaseRow)
    (db db' : SealDb) (gathered : Gathered) (sealedBy : String) (time : Calendar.Instant) :
    Prop where
  evidence : evidenceOf db caseId ≠ []
  unsealed : (evidenceOf db caseId).any EvidenceRow.sealed = false
  gathers : gather .empty (evidenceOf db caseId) = .ok gathered
  approver : Literals.uuid call.sealedByUserId = some sealedBy
  approved : Literals.timestamp approvedAt = some time
  finding : ((db .findings).filter fun f => f.id = row.findingId).length = 1
  cases : db' .cases = (db .cases).map fun c => if (decide (c.id = caseId)) = true then
    sealCaseRow txnTs sealedBy time (buildManifest (headOf call row approvedAt) gathered) c else c
  caseEvidence : db' .caseEvidence = (db .caseEvidence).map fun e =>
    if (decide (e.caseId = caseId)) = true then sealRow e else e
  findings : db' .findings = (db .findings).map fun f =>
    if (decide (f.id = row.findingId)) = true then approveRow f else f

theorem sealFresh_ok {txnTs caseId approvedAt : String} {call : SealCall} {row : CaseRow}
    {db db' : SealDb} {result : SealResult}
    (h : sealFresh txnTs call caseId approvedAt row db = .ok (result, db')) :
    ∃ gathered sealedBy time,
      Sealing txnTs call caseId approvedAt row db db' gathered sealedBy time ∧
        result =
          { alreadySealed := false
            state := "FILED"
            sealedTxnTs := txnTs
            evidenceHash := evidenceHash (buildManifest (headOf call row approvedAt) gathered)
            evidenceCount := (evidenceOf db caseId).length
            evidenceManifest := buildManifest (headOf call row approvedAt) gathered
            sealedBy
            sealedAtDisplay := timestampText time
            manifestVersion := 1
            commitLine := some ("1 finding · " ++ Nat.repr (evidenceOf db caseId).length ++
              " evidence rows · 1 draft — single transaction") } := by
  unfold sealFresh at h
  obtain ⟨selected, db₁, hselected, h⟩ := Txn.bind_ok.mp h
  obtain ⟨rfl, rfl⟩ := Txn.read_ok.mp hselected
  rcases Txn.ite_ok.mp h with ⟨_, h⟩ | ⟨hevidence, h⟩
  · exact (Txn.raise_ok.mp h).elim
  rcases Txn.ite_ok.mp h with ⟨_, h⟩ | ⟨hunsealed, h⟩
  · exact (Txn.raise_ok.mp h).elim
  obtain ⟨gathered, db₂, hrefuse, h⟩ := Txn.bind_ok.mp h
  obtain ⟨hgathered, rfl⟩ := orRefuse_ok.mp hrefuse
  obtain ⟨_, db₃, hseal, h⟩ := Txn.bind_ok.mp h
  obtain ⟨sealedBy, db₄, hraise, h⟩ := Txn.bind_ok.mp h
  obtain ⟨happrover, rfl⟩ := Txn.orRaise_ok.mp hraise
  obtain ⟨time, db₅, hraise, h⟩ := Txn.bind_ok.mp h
  obtain ⟨happroved, rfl⟩ := Txn.orRaise_ok.mp hraise
  obtain ⟨_, db₆, hjson, h⟩ := Txn.bind_ok.mp h
  obtain ⟨_, db₇, hcases, h⟩ := Txn.bind_ok.mp h
  obtain ⟨_, db₈, hfindings, h⟩ := Txn.bind_ok.mp h
  obtain ⟨approvals, db₉, hread, h⟩ := Txn.bind_ok.mp h
  obtain ⟨rfl, rfl⟩ := Txn.read_ok.mp hread
  obtain ⟨_, db₁₀, hcount, h⟩ := Txn.bind_ok.mp h
  obtain ⟨_, db₁₁, hledger, h⟩ := Txn.bind_ok.mp h
  obtain ⟨_, db₁₂, hlog, h⟩ := Txn.bind_ok.mp h
  obtain ⟨hresult, rfl⟩ := Txn.pure_ok.mp h
  obtain rfl := Schema.update_ok.mp hseal
  rcases Txn.onlyIf_ok.mp hjson with ⟨_, hjson⟩ | ⟨_, rfl⟩
  · exact (Txn.raise_ok.mp hjson).elim
  obtain rfl := Schema.update_ok.mp hcases
  obtain rfl := Schema.update_ok.mp hfindings
  rcases Txn.onlyIf_ok.mp hcount with ⟨_, hcount⟩ | ⟨hone, rfl⟩
  · exact (Txn.raise_ok.mp hcount).elim
  obtain rfl := Txn.write_ok.mp hledger
  obtain rfl := Txn.write_ok.mp hlog
  have hopen := Bool.eq_false_of_not_eq_true hunsealed
  refine ⟨gathered, sealedBy, time,
    ⟨hevidence, hopen, hgathered, happrover, happroved, ?_, ?_, ?_, ?_⟩, hresult.symm⟩
  · have hfinding := Decidable.not_not.mp hone
    rw [Store.modify_same, Store.modify_of_ne _ _ (by simp), Store.modify_of_ne _ _ (by simp)]
      at hfinding
    have hlength := (congrArg List.length (Schema.filter_update
      (fun f : FindingRow => decide (f.id = row.findingId)) approveRow (fun _ hf => hf)
      (db .findings))).symm.trans hfinding
    rwa [List.length_map] at hlength
  · simp [sealCaseRow, headOf]
  · simp [sealRow]
  · simp [approveRow]

/-- A call that succeeds approves a filed case again or makes a fresh seal of an analyzed one. -/
theorem sealCase_ok [Interpreter] {txnTs : String} {call : SealCall} {db db' : SealDb}
    {result : SealResult} (h : sealCase txnTs call db = .ok (result, db')) :
    ∃ approvedAt caseId row, timestampTextOf call.sealedAtDisplay = .ok approvedAt ∧
      Literals.uuid call.caseId = some caseId ∧ caseOf db caseId = some row ∧
      ((row.state = "FILED" ∧ approveAgain call caseId row db = .ok (result, db')) ∨
        (row.state = "ANALYZED" ∧
          sealFresh txnTs call caseId approvedAt row db = .ok (result, db'))) := by
  unfold sealCase at h
  obtain ⟨approvedAt, db₁, hrefuse, h⟩ := Txn.bind_ok.mp h
  obtain ⟨happroved, rfl⟩ := orRefuse_ok.mp hrefuse
  obtain ⟨caseId, db₂, hraise, h⟩ := Txn.bind_ok.mp h
  obtain ⟨hid, rfl⟩ := Txn.orRaise_ok.mp hraise
  obtain ⟨found, db₃, hread, h⟩ := Txn.bind_ok.mp h
  obtain ⟨hfound, rfl⟩ := Txn.read_ok.mp hread
  cases found with
  | none => exact (Txn.raise_ok.mp h).elim
  | some row =>
      refine ⟨approvedAt, caseId, row, happroved, hid, hfound, ?_⟩
      rcases Txn.ite_ok.mp h with ⟨_, h⟩ | ⟨_, h⟩
      · exact (Txn.raise_ok.mp h).elim
      rcases Txn.ite_ok.mp h with ⟨hfiled, h⟩ | ⟨_, h⟩
      · exact Or.inl ⟨List.mem_singleton.mp hfiled, h⟩
      rcases Txn.ite_ok.mp h with ⟨hfresh, h⟩ | ⟨_, h⟩
      · exact Or.inr ⟨List.mem_singleton.mp hfresh, h⟩
      · exact (Txn.raise_ok.mp h).elim

/-- A call on a case that is analyzed makes a fresh seal. -/
theorem sealCase_fresh [Interpreter] {txnTs caseId : String} {call : SealCall} {row : CaseRow}
    {db db' : SealDb} {result : SealResult} (hid : Literals.uuid call.caseId = some caseId)
    (hrow : caseOf db caseId = some row) (hstate : row.state = "ANALYZED")
    (h : sealCase txnTs call db = .ok (result, db')) :
    ∃ approvedAt, timestampTextOf call.sealedAtDisplay = .ok approvedAt ∧
      sealFresh txnTs call caseId approvedAt row db = .ok (result, db') := by
  obtain ⟨approvedAt, caseId', row', happroved, hid', hrow', h⟩ := sealCase_ok h
  obtain rfl : caseId = caseId' := Option.some.inj (hid.symm.trans hid')
  obtain rfl : row = row' := Option.some.inj (hrow.symm.trans hrow')
  rcases h with ⟨hfiled, _⟩ | ⟨_, h⟩
  · rw [hstate] at hfiled
    exact absurd hfiled (by decide)
  · exact ⟨approvedAt, happroved, h⟩

omit [Literals] in
/-- Approving again writes a line of the log. -/
theorem approveAgain_ok {caseId : String} {call : SealCall} {row : CaseRow} {db db' : SealDb}
    {result : SealResult} (h : approveAgain call caseId row db = .ok (result, db')) :
    result.alreadySealed = true ∧ ∃ line, db' = db.modify .queryLog (· ++ [line]) := by
  unfold approveAgain at h
  obtain ⟨evidence, db₁, hread, h⟩ := Txn.bind_ok.mp h
  obtain ⟨_, rfl⟩ := Txn.read_ok.mp hread
  obtain ⟨approvals, db₂, hread, h⟩ := Txn.bind_ok.mp h
  obtain ⟨_, rfl⟩ := Txn.read_ok.mp hread
  obtain ⟨found, db₃, hrefuse, h⟩ := Txn.bind_ok.mp h
  obtain ⟨_, rfl⟩ := orRefuse_ok.mp hrefuse
  obtain ⟨_, db₄, hlog, h⟩ := Txn.bind_ok.mp h
  obtain ⟨rfl, rfl⟩ := Txn.pure_ok.mp h
  exact ⟨rfl, _, (Txn.write_ok.mp hlog).symm⟩

/-! ## The rows read back -/

omit [Literals] in
/-- A seal of a row does not change what is gathered of it. -/
theorem gather_map_sealRow (gathered : Gathered) (rows : List EvidenceRow) :
    gather gathered (rows.map sealRow) = gather gathered rows := by
  induction rows generalizing gathered with
  | nil => rfl
  | cons row rows ih =>
      rw [List.map_cons, gather, gather]
      refine congrArg _ (funext fun content => ?_)
      rw [ih]
      rfl

omit [Sha256] [JsonDecoder] [Literals] in
theorem orderById_map_sealRow (rows : List EvidenceRow) :
    orderById (rows.map sealRow) = (orderById rows).map sealRow :=
  (List.map_insertionSort _ _ sealRow rows fun _ _ _ _ => Iff.rfl).symm

variable {txnTs caseId approvedAt sealedBy : String} {call again : SealCall} {row : CaseRow}
  {db db' : SealDb} {gathered : Gathered} {time : Calendar.Instant}

/-- The evidence of the case after its seal. -/
theorem Sealing.evidenceOf_eq
    (h : Sealing txnTs call caseId approvedAt row db db' gathered sealedBy time) :
    evidenceOf db' caseId = (evidenceOf db caseId).map sealRow := by
  unfold evidenceOf
  rw [h.caseEvidence, Schema.filter_update (fun e : EvidenceRow => decide (e.caseId = caseId)) sealRow
    (fun _ he => he), orderById_map_sealRow]

/-- The finding of the case is approved. -/
theorem Sealing.approval_eq
    (h : Sealing txnTs call caseId approvedAt row db db' gathered sealedBy time) :
    ((db' .findings).filter fun f => f.id = row.findingId).head?.map
      FindingRow.humanApprovalState = some "APPROVED" := by
  rw [h.findings, Schema.filter_update (fun f : FindingRow => decide (f.id = row.findingId)) approveRow
    (fun _ hf => hf)]
  obtain ⟨f, hf⟩ := List.length_eq_one_iff.mp h.finding
  rw [hf]
  rfl

/-- The case after its seal. -/
theorem Sealing.caseOf_eq
    (h : Sealing txnTs call caseId approvedAt row db db' gathered sealedBy time)
    (hrow : caseOf db caseId = some row) :
    caseOf db' caseId = some (sealCaseRow txnTs sealedBy time
      (buildManifest (headOf call row approvedAt) gathered) row) := by
  unfold caseOf at hrow ⊢
  rw [h.cases, List.find?_map]
  have hkey : ((fun c : CaseRow => decide (c.id = caseId)) ∘ fun c =>
      if (decide (c.id = caseId)) = true then sealCaseRow txnTs sealedBy time
        (buildManifest (headOf call row approvedAt) gathered) c else c) =
      fun c => decide (c.id = caseId) := by
    funext c
    show decide ((if _ then _ else _ : CaseRow).id = caseId) = _
    split
    · rfl
    · rfl
  rw [hkey, hrow]
  have hid := List.find?_some hrow
  rw [Option.map_some, if_pos hid]

/-! ## A case that is sealed -/

/-- The ids and the approval of a seal, with the id of the case as it was spelled. -/
def sealedHead (tenantId text : String) (c : CaseRow) (sealedBy : String)
    (time : Calendar.Instant) : ManifestHead :=
  { tenantId
    caseId := text
    invoiceId := c.invoiceId
    findingId := c.findingId
    approvedBy := sealedBy
    approvedAt := timestampText time }

/-- The case has a seal of its evidence, made under a text of its id. -/
structure SealedUnder (tenantId text : String) (db : SealDb) (c : CaseRow) (gathered : Gathered)
    (txnTs sealedBy : String) (time : Calendar.Instant) : Prop where
  evidence : evidenceOf db c.id ≠ []
  closed : (evidenceOf db c.id).all EvidenceRow.sealed = true
  gathers : gather .empty (evidenceOf db c.id) = .ok gathered
  approval : ((db .findings).filter fun f => f.id = c.findingId).head?.map
    FindingRow.humanApprovalState = some "APPROVED"
  row : sealCaseRow txnTs sealedBy time
    (buildManifest (sealedHead tenantId text c sealedBy time) gathered) c =
      { c with state := "FILED" }

/-- The approver and the time of the approval come back as they were written. -/
structure ReadsBack (call : SealCall) (approvedAt sealedBy : String) (time : Calendar.Instant) :
    Prop where
  approver : sealedBy = call.sealedByUserId
  approved : timestampText time = approvedAt

/-- A fresh seal leaves a case that is sealed under the text of the call. -/
theorem Sealing.sealedUnder
    (h : Sealing txnTs call caseId approvedAt row db db' gathered sealedBy time)
    (hid : row.id = caseId) (hback : ReadsBack call approvedAt sealedBy time) :
    SealedUnder call.tenantId call.caseId db' (sealCaseRow txnTs sealedBy time
      (buildManifest (headOf call row approvedAt) gathered) row) gathered txnTs sealedBy time := by
  subst hid
  refine ⟨?_, ?_, ?_, h.approval_eq, ?_⟩
  · show evidenceOf db' row.id ≠ []
    rw [h.evidenceOf_eq]
    exact fun hnil => h.evidence (List.map_eq_nil_iff.mp hnil)
  · show (evidenceOf db' row.id).all EvidenceRow.sealed = true
    rw [h.evidenceOf_eq, List.all_map]
    exact List.all_eq_true.mpr fun _ _ => rfl
  · show gather .empty (evidenceOf db' row.id) = .ok gathered
    rw [h.evidenceOf_eq, gather_map_sealRow, h.gathers]
  · have hhead : sealedHead call.tenantId call.caseId row sealedBy time =
        headOf call row approvedAt := by
      unfold sealedHead headOf
      rw [hback.approver, hback.approved]
    show sealCaseRow txnTs sealedBy time
      (buildManifest (sealedHead call.tenantId call.caseId row sealedBy time) gathered) row = _
    rw [hhead]
    rfl

/-! ## Approving again -/

section Again

variable {tenantId text : String} {c : CaseRow}

omit [Literals] in
/-- The seal that is there is accepted under the text that it was made with, and under no other. -/
theorem SealedUnder.validate (hlength : DigestLength)
    (h : SealedUnder tenantId text db c gathered txnTs sealedBy time) (other : String) :
    validateExistingSeal tenantId other c (evidenceOf db c.id) (some "APPROVED") =
      if other = text then
        .ok (buildManifest (sealedHead tenantId text c sealedBy time) gathered, txnTs, sealedBy,
          time, evidenceHash (buildManifest (sealedHead tenantId text c sealedBy time) gathered))
      else integrityError "sealed manifest does not match stored evidence" := by
  have hrow := h.row
  unfold sealCaseRow at hrow
  simp only [CaseRow.mk.injEq, true_and] at hrow
  obtain ⟨htxn, hhash, hmanifest, hsealedBy, htime, hversion⟩ := hrow
  have hmissing : ¬(evidenceOf db c.id = [] ∨
      (evidenceOf db c.id).all EvidenceRow.sealed = false) := by
    rintro (hnil | hopen)
    · exact h.evidence hnil
    · rw [h.closed] at hopen
      cases hopen
  have hstored : storedManifest c.evidenceManifest =
      .ok (buildManifest (sealedHead tenantId text c sealedBy time) gathered) := by
    rw [← hmanifest]
    rfl
  have hnamed : ¬(some (1 : Int) ≠ some 1 ∨ isOne (CaseSeal.get (buildManifest
      (sealedHead tenantId text c sealedBy time) gathered) "manifest_version") = false) := by
    rintro (hone | hone)
    · exact hone rfl
    · rw [version_buildManifest] at hone
      cases hone
  unfold validateExistingSeal
  rw [bind_of_eq_ok hstored, if_neg hmissing, ← htxn, ← hsealedBy, ← htime, ← hversion, ← hhash]
  dsimp only
  rw [if_neg hnamed, if_neg (not_not.mpr rfl), bind_of_eq_ok h.gathers]
  show (if canonicalJsonBytes _ ≠ canonicalJsonBytes (.dict (buildManifest
      { sealedHead tenantId text c sealedBy time with caseId := other } gathered)) then _
    else _) = _
  by_cases hother : other = text
  · subst hother
    have hsame : canonicalJsonBytes
        (.dict (buildManifest (sealedHead tenantId other c sealedBy time) gathered)) =
        canonicalJsonBytes (.dict (buildManifest
          { sealedHead tenantId other c sealedBy time with caseId := other } gathered)) := rfl
    rw [if_neg (not_not.mpr hsame), if_pos rfl, if_neg]
    rintro (hform | hhash)
    · rw [isPrefixedSha256_evidenceHash hlength] at hform
      cases hform
    · exact hhash rfl
  · have hdiffer : canonicalJsonBytes
        (.dict (buildManifest (sealedHead tenantId text c sealedBy time) gathered)) ≠
        canonicalJsonBytes (.dict (buildManifest
          { sealedHead tenantId text c sealedBy time with caseId := other } gathered)) :=
      fun hbytes =>
        hother (caseId_of_bytes (sealedHead tenantId text c sealedBy time) hbytes).symm
    rw [if_pos hdiffer, if_neg hother]

/-- What a call is answered that approves a sealed case again. -/
def sealedAnswer (tenantId text : String) (db : SealDb) (c : CaseRow) (gathered : Gathered)
    (txnTs sealedBy : String) (time : Calendar.Instant) : SealResult :=
  { alreadySealed := true
    state := "FILED"
    sealedTxnTs := txnTs
    evidenceHash := evidenceHash (buildManifest (sealedHead tenantId text c sealedBy time) gathered)
    evidenceCount := (evidenceOf db c.id).length
    evidenceManifest := buildManifest (sealedHead tenantId text c sealedBy time) gathered
    sealedBy
    sealedAtDisplay := timestampText time
    manifestVersion := 1
    commitLine := none }

/-- The line a call writes that approves a sealed case again. -/
def againLine (txnTs : String) (again : SealCall) : LogLine :=
  ⟨"already sealed · txn " ++ txnTs, again.actor⟩

omit [Literals] in
theorem length_gather {rows : List EvidenceRow} {before after : Gathered}
    (h : gather before rows = .ok after) :
    after.evidence.length = before.evidence.length + rows.length := by
  induction rows generalizing before with
  | nil =>
      rw [gather] at h
      rw [← Except.ok.inj h]
      rfl
  | cons row rows ih =>
      rw [gather] at h
      obtain ⟨content, _, h⟩ := bind_eq_ok.mp h
      rw [ih h, List.length_append, List.length_cons, List.length_cons, List.length_nil]
      omega

omit [Literals] in
/-- Approving a sealed case again under the text of its seal answers with the seal and writes a
line to the log; under another text it is refused. -/
theorem SealedUnder.approveAgain_eq (hlength : DigestLength)
    (h : SealedUnder again.tenantId text db c gathered txnTs sealedBy time)
    (hstate : c.state = "FILED") :
    approveAgain again c.id c db =
      if again.caseId = text then
        .ok (sealedAnswer again.tenantId text db c gathered txnTs sealedBy time,
          db.modify .queryLog (· ++ [againLine txnTs again]))
      else .error (.sealedCaseIntegrity "sealed manifest does not match stored evidence") := by
  have hcount : itemCount (CaseSeal.get (buildManifest
      (sealedHead again.tenantId text c sealedBy time) gathered) "evidence") =
      (evidenceOf db c.id).length := by
    show gathered.evidence.length = _
    rw [length_gather h.gathers]
    exact Nat.zero_add _
  have hvalidate := h.validate hlength again.caseId
  rw [← h.approval] at hvalidate
  unfold approveAgain
  show (orRefuse (validateExistingSeal again.tenantId again.caseId c (evidenceOf db c.id)
    (((db .findings).filter fun f => f.id = c.findingId).head?.map
      FindingRow.humanApprovalState)) >>= _) db = _
  rw [hvalidate]
  by_cases htext : again.caseId = text
  · rw [if_pos htext, if_pos htext]
    show Except.ok ((_ : SealResult), (_ : SealDb)) = _
    rw [hcount, hstate]
    rfl
  · rw [if_neg htext, if_neg htext]
    rfl

variable [Interpreter]

/-- A call on a case that is sealed. -/
theorem SealedUnder.sealCase_eq (hlength : DigestLength) (txnTs' : String) (again : SealCall)
    {at' : String} (h : SealedUnder again.tenantId text db c gathered txnTs sealedBy time)
    (hstate : c.state = "FILED") (hid : Literals.uuid again.caseId = some c.id)
    (hcase : caseOf db c.id = some c) (htime : timestampTextOf again.sealedAtDisplay = .ok at') :
    sealCase txnTs' again db =
      if again.caseId = text then
        .ok (sealedAnswer again.tenantId text db c gathered txnTs sealedBy time,
          db.modify .queryLog (· ++ [againLine txnTs again]))
      else .error (.sealedCaseIntegrity "sealed manifest does not match stored evidence") := by
  have hblocked : c.state ∉ blockedSealStates := by rw [hstate]; decide
  have hfiled : c.state ∈ idempotentSealedStates := by rw [hstate]; decide
  rw [← h.approveAgain_eq hlength hstate]
  have hread : (Txn.read fun db => caseOf db c.id : SealTx (Option CaseRow)) db =
      .ok (some c, db) := Txn.read_ok.mpr ⟨hcase, rfl⟩
  unfold sealCase
  rw [htime, hid, Txn.bind_of_ok (orRefuse_ok.mpr ⟨rfl, rfl⟩),
    Txn.bind_of_ok (Txn.orRaise_ok.mpr ⟨rfl, rfl⟩), Txn.bind_of_ok hread]
  simp only [if_neg hblocked, if_pos hfiled]

end Again

end Sealing

end Tally.Analysis.Seals
