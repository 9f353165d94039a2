import Tally.Library.KeyOrder
import Tally.Model.CaseFiling

/-!
# One case of an invoice

Any number of callers file a case of an invoice, in any order and with a crash or a lost reply
behind any of their calls. There is never more than one case, with its finding and its evidence;
a call that returns names it or has found no overcharge; and a call is told that its case was
filed already only if the evidence of that case is its own.
-/

set_option autoImplicit false

namespace Tally.Analysis.CaseFilings
open Library Library.Sha256 Tally.Model CaseFiling Receipt
open ReceiptPipeline (Literals)
open AuthoritySealRepository (canonicalJsonBytes optionJson)

/-! ## The case of an invoice -/

/-- The one case of an invoice, with its finding and its evidence, as the read joins them. -/
structure TheCase (db : FilingDb) (invoiceId : String) (row : ExistingCase) : Prop where
  read : existingRows invoiceId db = [row]
  only : ∃ c, ((db .cases).filter fun c => c.invoiceId = invoiceId) = [c] ∧
    c.id = row.caseId ∧ c.findingId = row.findingId

theorem TheCase.unique {db : FilingDb} {invoiceId : String} {row row' : ExistingCase}
    (h : TheCase db invoiceId row) (h' : TheCase db invoiceId row') : row = row' := by
  have hrows := h.read.symm.trans h'.read
  exact (List.cons.inj hrows).1

/-- The case is among the cases of the invoice. -/
theorem TheCase.mem {db : FilingDb} {invoiceId : String} {row : ExistingCase}
    (h : TheCase db invoiceId row) : ∃ c ∈ db .cases, c.invoiceId = invoiceId := by
  obtain ⟨c, honly, -⟩ := h.only
  have hmem : c ∈ (db .cases).filter fun c => c.invoiceId = invoiceId := by
    rw [honly]
    exact List.mem_singleton.mpr rfl
  obtain ⟨hc, hinvoice⟩ := List.mem_filter.mp hmem
  exact ⟨c, hc, of_decide_eq_true hinvoice⟩

/-- An invoice with a case has one case that is whole, its findings have it, the evidence of all
cases is attached to one, and the evidence of this case is a mapping. -/
structure Inv (invoiceId : String) (db : FilingDb) : Prop where
  whole : ∀ c ∈ db .cases, c.invoiceId = invoiceId → ∃ row, TheCase db invoiceId row
  owned : ∀ f ∈ db .findings, f.invoiceId = invoiceId → ∃ c ∈ db .cases, c.invoiceId = invoiceId
  found : ∀ c ∈ db .cases, c.invoiceId = invoiceId → ∃ f ∈ db .findings, f.id = c.findingId
  posted : ∀ e ∈ db .caseEvidence, ∃ c ∈ db .cases, c.id = e.caseId
  keyed : ∀ row e, TheCase db invoiceId row → row.evidence = some e →
    (Json.obj e.content).DistinctKeys

/-- The case of an invoice stays as it is. -/
def Keeps (invoiceId : String) (db db' : FilingDb) : Prop :=
  ∀ row, TheCase db invoiceId row → TheCase db' invoiceId row

theorem Keeps.refl (invoiceId : String) (db : FilingDb) : Keeps invoiceId db db := fun _ h => h

theorem Keeps.trans {invoiceId : String} {a b c : FilingDb} (hab : Keeps invoiceId a b)
    (hbc : Keeps invoiceId b c) : Keeps invoiceId a c :=
  fun row h => hbc row (hab row h)

/-- The joined rows of an invoice are those of its cases, findings and evidence. -/
theorem existingRows_congr {db db' : FilingDb} {invoiceId : String}
    (hcases : ((db' .cases).filter fun c => c.invoiceId = invoiceId) =
      (db .cases).filter fun c => c.invoiceId = invoiceId)
    (hfindings : ∀ c ∈ db .cases, c.invoiceId = invoiceId →
      ((db' .findings).filter fun f => f.id = c.findingId) =
        (db .findings).filter fun f => f.id = c.findingId)
    (hevidence : ∀ c ∈ db .cases, ((db' .caseEvidence).filter fun e => e.caseId = c.id) =
      (db .caseEvidence).filter fun e => e.caseId = c.id) :
    existingRows invoiceId db' = existingRows invoiceId db := by
  unfold existingRows
  rw [hcases]
  refine List.flatMap_congr fun c hc => ?_
  obtain ⟨hmem, hinvoice⟩ := List.mem_filter.mp hc
  rw [hfindings c hmem (of_decide_eq_true hinvoice), hevidence c hmem]

/-- Rows behind the ones that are there do not matter to a key that is not theirs. -/
theorem filter_append_of_not {α : Type} {p : α → Bool} {xs : List α} {x : α} (h : p x = false) :
    (xs ++ [x]).filter p = xs.filter p := by
  rw [List.filter_append, List.filter_singleton, h]
  simp

/-! ## What a filing leaves -/

/-- The rows of a filing with one item. -/
structure FiledRows where
  finding : Finding
  filed : FiledCase
  evidence : CaseEvidence

def FiledRows.joined (rows : FiledRows) : ExistingCase :=
  { caseId := rows.filed.id
    findingId := rows.filed.findingId
    tariffClauseId := rows.finding.tariffClauseId
    calculation := rows.finding.calculation
    recommendation := rows.finding.recommendation
    evidence := some rows.evidence }

section Filings

variable [Literals] [Sha256]

/-- What a committed filing has added, to an invoice without a case. -/
structure Leaves (minted : MintedIds) (filing : Filing) (item : EvidenceItem) (db : FilingDb)
    (rows : FiledRows) (db' : FilingDb) : Prop where
  invoice : Literals.uuid filing.invoiceId = some rows.filed.invoiceId
  sameInvoice : rows.finding.invoiceId = rows.filed.invoiceId
  findingId : rows.finding.id = minted.findingId
  filedId : rows.filed.id = minted.caseId
  linked : rows.filed.findingId = minted.findingId
  attached : rows.evidence.caseId = minted.caseId
  content : rows.evidence.content = item.content
  unfiled : ∀ c ∈ db .cases, c.invoiceId ≠ rows.filed.invoiceId
  findings : db' .findings = db .findings ++ [rows.finding]
  cases : db' .cases = db .cases ++ [rows.filed]
  caseEvidence : db' .caseEvidence = db .caseEvidence ++ [rows.evidence]

omit [Sha256] in
/-- A parameter is read without a change. -/
theorem optionalUuid_ok {text : Option String} {db db' : FilingDb} {id : Option String}
    (h : optionalUuid text db = .ok (id, db')) : db' = db := by
  cases text with
  | none => exact (Txn.pure_ok.mp h).2.symm
  | some text =>
      obtain ⟨found, s, hfound, hid⟩ := Txn.bind_ok.mp h
      have hsame := (Txn.orRaise_ok.mp hfound).2.trans (Txn.pure_ok.mp hid).2
      exact hsame.symm

/-- A filing of one item that commits adds a finding, a case and the item. -/
theorem leaves_of_fileCase {minted : MintedIds} {filing : Filing} {item : EvidenceItem}
    {db db' : FilingDb} {ids : FiledIds} (hitems : filing.evidenceItems = [item])
    (h : fileCase minted filing db = .ok (ids, db')) :
    ids = ⟨minted.caseId, minted.findingId⟩ ∧ ∃ rows, Leaves minted filing item db rows db' := by
  unfold fileCase uuidOf CaseFiling.insertRow at h
  rw [hitems] at h
  simp only [Txn.bind_ok, Txn.orRaise_ok, Schema.insert_ok, Txn.forEach, insertEvidence, uuidOf,
    CaseFiling.insertRow, Schema.update_ok, Txn.pure_ok] at h
  obtain ⟨invoiceId, _, ⟨hinvoice, rfl⟩, clerkRunId, _, ⟨-, rfl⟩, clauseId, s, hclause, h⟩ := h
  obtain rfl := optionalUuid_ok hclause
  obtain ⟨_, _, ⟨-, -, rfl⟩, carrierId, _, ⟨-, rfl⟩, _, _, ⟨hfresh, -, rfl⟩, _, _,
    ⟨_, _, ⟨sourceId, _, ⟨-, rfl⟩, -, -, rfl⟩, _, rfl⟩, _, _, rfl, rfl, rfl⟩ := h
  let calculation := (filing.receiptBinding.map ReceiptBinding.calculation).getD []
  let finding : Finding :=
    ⟨minted.findingId, invoiceId, clerkRunId, clauseId, some calculation,
      textAt "recommendation" calculation⟩
  let filed : FiledCase :=
    ⟨minted.caseId, invoiceId, minted.findingId, carrierId, filing.pinDate⟩
  let evidence : CaseEvidence :=
    ⟨minted.evidenceId 0, minted.caseId, item.kind, item.sourceTable, sourceId, item.content,
      hexdigest (canonicalJsonBytes (.obj item.content))⟩
  refine ⟨rfl, ⟨finding, filed, evidence⟩, hinvoice, rfl, rfl, rfl, rfl, rfl, rfl, ?_, rfl, rfl,
    rfl⟩
  intro c hc hsame
  have hconflict := hfresh c hc
  simp only [filingConflicts, decide_eq_false_iff_not, not_or] at hconflict
  exact hconflict.2 hsame.symm

/-! ## The invariant -/

section Steps

variable {minted : MintedIds} {filing : Filing} {item : EvidenceItem} {db db' : FilingDb}
  {rows : FiledRows}

omit [Sha256] in
/-- A filing leaves the case of another invoice. -/
theorem theCase_of_other {invoiceId : String} {row : ExistingCase} (hinv : Inv invoiceId db)
    (hfresh : minted.Fresh db) (h : Leaves minted filing item db rows db')
    (hother : rows.filed.invoiceId ≠ invoiceId) :
    TheCase db' invoiceId row ↔ TheCase db invoiceId row := by
  have hcases : ((db' .cases).filter fun c => c.invoiceId = invoiceId) =
      (db .cases).filter fun c => c.invoiceId = invoiceId := by
    rw [h.cases]
    exact filter_append_of_not (by simpa using hother)
  have hrows : existingRows invoiceId db' = existingRows invoiceId db := by
    refine existingRows_congr hcases ?_ ?_
    · intro c hc hinvoice
      obtain ⟨f, hf, hlinked⟩ := hinv.found c hc hinvoice
      rw [h.findings]
      refine filter_append_of_not ?_
      have hne := hfresh.finding f hf
      rw [hlinked, ← h.findingId] at hne
      simpa using hne.symm
    · intro c hc
      rw [h.caseEvidence]
      refine filter_append_of_not ?_
      have hne := hfresh.filed c hc
      rw [← h.attached] at hne
      simpa using hne.symm
  constructor
  · intro hcase
    exact ⟨hrows ▸ hcase.read, hcases ▸ hcase.only⟩
  · intro hcase
    exact ⟨hrows ▸ hcase.read, hcases ▸ hcase.only⟩

omit [Sha256] in
/-- A filing leaves the case of an invoice: with one, the invoice is not filed again. -/
theorem keeps_of_leaves {invoiceId : String} (hinv : Inv invoiceId db) (hfresh : minted.Fresh db)
    (h : Leaves minted filing item db rows db') : Keeps invoiceId db db' := by
  intro row hcase
  refine (theCase_of_other hinv hfresh h ?_).mpr hcase
  obtain ⟨c, hc, hinvoice⟩ := hcase.mem
  rw [← hinvoice]
  exact (h.unfiled c hc).symm

omit [Sha256] in
/-- A filing leaves the case it adds as the one of its invoice. -/
theorem theCase_of_leaves {invoiceId : String} (hinv : Inv invoiceId db) (hfresh : minted.Fresh db)
    (h : Leaves minted filing item db rows db') :
    TheCase db' rows.filed.invoiceId rows.joined := by
  have hcases : ((db' .cases).filter fun c => c.invoiceId = rows.filed.invoiceId) =
      [rows.filed] := by
    have hnone : ((db .cases).filter fun c => c.invoiceId = rows.filed.invoiceId) = [] :=
      List.filter_eq_nil_iff.mpr fun c hc => by simpa using h.unfiled c hc
    rw [h.cases, List.filter_append, hnone]
    simp
  have hfindings : ((db' .findings).filter fun f => f.id = rows.filed.findingId) =
      [rows.finding] := by
    have hnone : ((db .findings).filter fun f => f.id = rows.filed.findingId) = [] := by
      rw [h.linked]
      exact List.filter_eq_nil_iff.mpr fun f hf => by simpa using hfresh.finding f hf
    rw [h.findings, List.filter_append, hnone]
    simp [h.findingId, h.linked]
  have hevidence : ((db' .caseEvidence).filter fun e => e.caseId = rows.filed.id) =
      [rows.evidence] := by
    have hnone : ((db .caseEvidence).filter fun e => e.caseId = rows.filed.id) = [] := by
      rw [h.filedId]
      refine List.filter_eq_nil_iff.mpr fun e he => ?_
      obtain ⟨c, hc, hposted⟩ := hinv.posted e he
      rw [← hposted]
      simpa using hfresh.filed c hc
    rw [h.caseEvidence, List.filter_append, hnone]
    simp [h.attached, h.filedId]
  refine ⟨?_, rows.filed, hcases, rfl, rfl⟩
  unfold existingRows
  rw [hcases, List.flatMap_singleton, hfindings, List.flatMap_singleton, hevidence]
  rfl

omit [Sha256] in
theorem inv_of_leaves {invoiceId : String} (hkeyed : (Json.obj item.content).DistinctKeys)
    (hinv : Inv invoiceId db) (hfresh : minted.Fresh db)
    (h : Leaves minted filing item db rows db') : Inv invoiceId db' := by
  have hkeeps := keeps_of_leaves hinv hfresh h
  have hnew := theCase_of_leaves hinv hfresh h
  have hold : ∀ c ∈ db .cases, c ∈ db' .cases := fun c hc => by
    rw [h.cases]
    exact List.mem_append_left _ hc
  have hadded : rows.filed ∈ db' .cases := by
    rw [h.cases]
    exact List.mem_append_right _ (List.mem_singleton.mpr rfl)
  constructor
  · intro c hc hinvoice
    rw [h.cases] at hc
    rcases List.mem_append.mp hc with hc | hc
    · obtain ⟨row, hrow⟩ := hinv.whole c hc hinvoice
      exact ⟨row, hkeeps row hrow⟩
    · rw [List.mem_singleton.mp hc] at hinvoice
      rw [hinvoice] at hnew
      exact ⟨rows.joined, hnew⟩
  · intro f hf hinvoice
    rw [h.findings] at hf
    rcases List.mem_append.mp hf with hf | hf
    · obtain ⟨c, hc, hsame⟩ := hinv.owned f hf hinvoice
      exact ⟨c, hold c hc, hsame⟩
    · rw [List.mem_singleton.mp hf] at hinvoice
      exact ⟨rows.filed, hadded, h.sameInvoice.symm.trans hinvoice⟩
  · intro c hc hinvoice
    rw [h.cases] at hc
    rw [h.findings]
    rcases List.mem_append.mp hc with hc | hc
    · obtain ⟨f, hf, hlinked⟩ := hinv.found c hc hinvoice
      exact ⟨f, List.mem_append_left _ hf, hlinked⟩
    · rw [List.mem_singleton.mp hc]
      exact ⟨rows.finding, List.mem_append_right _ (List.mem_singleton.mpr rfl),
        h.findingId.trans h.linked.symm⟩
  · intro e he
    rw [h.caseEvidence] at he
    rcases List.mem_append.mp he with he | he
    · obtain ⟨c, hc, hposted⟩ := hinv.posted e he
      exact ⟨c, hold c hc, hposted⟩
    · rw [List.mem_singleton.mp he]
      exact ⟨rows.filed, hadded, h.filedId.trans h.attached.symm⟩
  · intro row e hrow he
    by_cases hinvoice : rows.filed.invoiceId = invoiceId
    · rw [hinvoice] at hnew
      rw [hrow.unique hnew] at he
      obtain rfl : rows.evidence = e := Option.some.inj he
      rw [h.content]
      exact hkeyed
    · exact hinv.keyed row e ((theCase_of_other hinv hfresh h hinvoice).mp hrow) he

end Steps

/-! ## A violated index -/

omit [Sha256] in
theorem uuidOf_fails {text : String} {db : FilingDb} {fault : FilingFault}
    (h : uuidOf text db = .error fault) : fault = .dataError := by
  unfold uuidOf at h
  cases hid : Literals.uuid text with
  | some id =>
      rw [hid] at h
      exact absurd h (by simp [Txn.orRaise, Pure.pure])
  | none =>
      rw [hid] at h
      exact (Except.error.inj h).symm

omit [Sha256] in
theorem optionalUuid_fails {text : Option String} {db : FilingDb} {fault : FilingFault}
    (h : optionalUuid text db = .error fault) : fault = .dataError := by
  cases text with
  | none => exact absurd h (by simp [optionalUuid, Pure.pure])
  | some text =>
      rcases Txn.bind_eq_error.mp h with h | ⟨id, s, -, h⟩
      · exact uuidOf_fails h
      · exact absurd h (by simp [Pure.pure])

/-- A filing of one item with new ids violates an index only if its invoice has a case. -/
theorem theCase_of_violation {minted : MintedIds} {filing : Filing} {item : EvidenceItem}
    {db : FilingDb} {invoiceId : String} (hitems : filing.evidenceItems = [item])
    (hinv : Inv invoiceId db) (hfresh : minted.Fresh db)
    (hfiling : Literals.uuid filing.invoiceId = some invoiceId)
    (h : fileCase minted filing db = .error (.integrityError .unique)) :
    ∃ row, TheCase db invoiceId row := by
  have hkinds : FilingFault.integrityError .unique ≠ .integrityError .foreignKey := by decide
  have hdata : FilingFault.integrityError .unique ≠ .dataError := by decide
  unfold fileCase at h
  rw [hitems] at h
  rcases Txn.bind_eq_error.mp h with hfail | ⟨id, s, hid, h₁⟩
  · exact absurd (uuidOf_fails hfail) hdata
  obtain ⟨hinvoice, rfl⟩ := Txn.orRaise_ok.mp hid
  obtain rfl := Option.some.inj (hfiling.symm.trans hinvoice)
  rcases Txn.bind_eq_error.mp h₁ with hfail | ⟨clerkRunId, s, hrun, h₂⟩
  · exact absurd (uuidOf_fails hfail) hdata
  obtain ⟨-, rfl⟩ := Txn.orRaise_ok.mp hrun
  rcases Txn.bind_eq_error.mp h₂ with hfail | ⟨clauseId, s, hclause, h₃⟩
  · exact absurd (optionalUuid_fails hfail) hdata
  obtain rfl := optionalUuid_ok hclause
  rcases Txn.bind_eq_error.mp h₃ with hfail | ⟨_, s₁, hfinding, h₄⟩
  · obtain ⟨f, hf, hconflict⟩ := Schema.conflict_of_insert hkinds hfail
    simp only [filingConflicts, decide_eq_true_eq] at hconflict
    rcases hconflict with hid | ⟨hsame, -⟩
    · exact absurd hid.symm (hfresh.finding f hf)
    · obtain ⟨c, hc, howned⟩ := hinv.owned f hf hsame.symm
      exact hinv.whole c hc howned
  obtain ⟨-, -, rfl⟩ := Schema.insert_ok.mp hfinding
  rcases Txn.bind_eq_error.mp h₄ with hfail | ⟨carrierId, s₂, hcarrier, h₅⟩
  · exact absurd (uuidOf_fails hfail) hdata
  obtain ⟨-, rfl⟩ := Txn.orRaise_ok.mp hcarrier
  rcases Txn.bind_eq_error.mp h₅ with hfail | ⟨_, s₃, hfiled, h₆⟩
  · obtain ⟨c, hc, hconflict⟩ := Schema.conflict_of_insert hkinds hfail
    simp only [filingConflicts, decide_eq_true_eq] at hconflict
    rcases hconflict with hid | hsame
    · exact absurd hid.symm (hfresh.filed c hc)
    · exact hinv.whole c hc hsame.symm
  obtain ⟨-, -, rfl⟩ := Schema.insert_ok.mp hfiled
  -- Nothing behind the case violates an index: the evidence has a new id.
  exfalso
  rcases Txn.bind_eq_error.mp h₆ with hitem | ⟨_, s₄, -, h₇⟩
  · rcases Txn.bind_eq_error.mp hitem with hitem | ⟨_, s₅, -, hend⟩
    · rcases Txn.bind_eq_error.mp hitem with hfail | ⟨sourceId, s₆, hsource, hinsert⟩
      · exact absurd (uuidOf_fails hfail) hdata
      · obtain ⟨-, rfl⟩ := Txn.orRaise_ok.mp hsource
        obtain ⟨e, he, hconflict⟩ := Schema.conflict_of_insert hkinds hinsert
        simp only [filingConflicts, decide_eq_true_eq] at hconflict
        exact hfresh.evidence e he 0 hconflict.symm
    · exact absurd hend (by simp [Txn.forEach, Pure.pure])
  · rcases Txn.bind_eq_error.mp h₇ with hupdate | ⟨_, s₅, -, hend⟩
    · exact absurd hupdate (by simp [Schema.update, Txn.write])
    · exact absurd hend (by simp [Pure.pure])

/-! ## The evidence of a call -/

omit [Literals] in
/-- The evidence of a call is a mapping. -/
theorem distinctKeys_evidence (call : FilingCall) (calculation : OverchargeCalculation) :
    (Json.obj (buildReceiptEvidence call calculation)).DistinctKeys := by
  have hkeys : ((buildReceiptEvidence call calculation).map Prod.fst).Nodup := by
    simp [buildReceiptEvidence]
  have hcalculation : (Json.obj (expectedCalculation call calculation)).DistinctKeys := by
    have hnames : ((expectedCalculation call calculation).map Prod.fst).Nodup := by
      simp [expectedCalculation, asDict]
    exact ⟨hnames, trivial, trivial, trivial, trivial, trivial, trivial, trivial, trivial⟩
  have heffective : (optionJson (fun date => Json.str date.isoformat)
      call.extraction.effectiveTo).DistinctKeys := by
    cases call.extraction.effectiveTo with
    | none => exact Json.distinctKeys_null
    | some date => exact Json.distinctKeys_str _
  refine ⟨hkeys, ?_⟩
  simp only [buildReceiptEvidence, Json.DistinctKeysMembers, Json.distinctKeys_str,
    Json.distinctKeys_int, hcalculation, heffective, and_true]

/-! ## Outcomes -/

/-- The evidence of a case is that of a call. -/
def SameEvidence (call : FilingCall) (calculation : OverchargeCalculation)
    (row : ExistingCase) : Prop :=
  Json.Same (jsonMapping (row.evidence.map CaseEvidence.content))
    (.obj (buildReceiptEvidence call calculation))

/-- What a call on an invoice ends with: nothing filed because there is no overcharge; the ids of
the one case of the invoice, which has the evidence of the call and, if the call is told that it
was filed already, all the rest as well; a conflict with the one case of the invoice; a failed
check; or a failure of the database, which is not a violated index. -/
def Outcome (invoiceId : String) (call : FilingCall) :
    Except FilingError FilingAnswer → FilingDb → Prop
  | .ok (.notFiled members), _ => ∃ calculation, checked call = .ok (calculation, false) ∧
      members = asDict calculation
  | .ok (.filed alreadyFiled caseId findingId members), db => ∃ calculation row,
      checked call = .ok (calculation, true) ∧ members = asDict calculation ∧
        TheCase db invoiceId row ∧ row.caseId = caseId ∧ row.findingId = findingId ∧
          SameEvidence call calculation row ∧
            (alreadyFiled = true → bindingMatches call calculation row = true)
  | .error .existingReceiptConflict, db => ∃ calculation row,
      checked call = .ok (calculation, true) ∧ TheCase db invoiceId row ∧
        bindingMatches call calculation row = false
  | .error .uniqueViolation, _ => False
  | .error .database, _ => True
  | .error error, _ => checked call = .error error

variable {invoiceId : String}

omit [Literals] in
theorem outcome_stable (call : FilingCall) (result : Except FilingError FilingAnswer) :
    Stable (Keeps invoiceId) (Outcome invoiceId call result) := by
  intro db db' h hkeeps
  rcases result with (_ | _ | _ | _ | _) | (_ | ⟨_, _, _, _⟩)
  · exact h
  · exact h
  · obtain ⟨calculation, row, hchecked, hcase, hdiffers⟩ := h
    exact ⟨calculation, row, hchecked, hkeeps row hcase, hdiffers⟩
  · exact h
  · exact h
  · exact h
  · obtain ⟨calculation, row, hchecked, hmembers, hcase, hrest⟩ := h
    exact ⟨calculation, row, hchecked, hmembers, hkeeps row hcase, hrest⟩

omit [Literals] [Sha256] in
/-- The rows of a read that are not empty are the one case of the invoice. -/
theorem theCase_of_rows {db : FilingDb} {row : ExistingCase} {others : List ExistingCase}
    (hinv : Inv invoiceId db) (h : (row :: others).Perm (existingRows invoiceId db)) :
    others = [] ∧ TheCase db invoiceId row := by
  have hmem : row ∈ existingRows invoiceId db := h.mem_iff.mp List.mem_cons_self
  have hcase : ∃ c ∈ db .cases, c.invoiceId = invoiceId := by
    unfold existingRows at hmem
    obtain ⟨c, hc, -⟩ := List.mem_flatMap.mp hmem
    have hc := List.mem_filter.mp hc
    exact ⟨c, hc.1, of_decide_eq_true hc.2⟩
  obtain ⟨c, hc, hinvoice⟩ := hcase
  obtain ⟨found, hfound⟩ := hinv.whole c hc hinvoice
  rw [hfound.read] at h
  obtain ⟨rfl, rfl⟩ := List.cons.inj (List.perm_singleton.mp h)
  exact ⟨rfl, hfound⟩

omit [Literals] in
/-- Matching bytes are those of the same evidence. -/
theorem sameEvidence_of_matches {call : FilingCall} {calculation : OverchargeCalculation}
    {db : FilingDb} {row : ExistingCase} (hinv : Inv invoiceId db)
    (hcase : TheCase db invoiceId row) (h : bindingMatches call calculation row = true) :
    SameEvidence call calculation row := by
  have hbytes : canonicalJsonBytes (jsonMapping (row.evidence.map CaseEvidence.content)) =
      canonicalJsonBytes (.obj (buildReceiptEvidence call calculation)) := by
    unfold bindingMatches at h
    exact of_decide_eq_true (Bool.and_eq_true_iff.mp h).2
  have hsorted := Json.dumps_compact_injective (encode_injective hbytes)
  refine (Json.sortKeys_eq_iff ?_ (distinctKeys_evidence call calculation)).mp hsorted
  cases hevidence : row.evidence with
  | none => exact ⟨List.nodup_nil, trivial⟩
  | some e => exact hinv.keyed row e hcase hevidence

omit [Literals] in
/-- What a read that found the case answers. -/
theorem outcome_of_found {call : FilingCall} {calculation : OverchargeCalculation}
    {db : FilingDb} {row : ExistingCase} (hinv : Inv invoiceId db)
    (hchecked : checked call = .ok (calculation, true)) (hcase : TheCase db invoiceId row) :
    Outcome invoiceId call (existingCaseResult call calculation row []) db := by
  unfold existingCaseResult
  rw [List.isEmpty_nil, Bool.true_and]
  split
  · rename_i hmatches
    exact ⟨calculation, row, hchecked, rfl, hcase, rfl, rfl,
      sameEvidence_of_matches hinv hcase hmatches, fun _ => hmatches⟩
  · rename_i hdiffers
    exact ⟨calculation, row, hchecked, hcase, Bool.eq_false_iff.mpr hdiffers⟩

/-! ## Contracts -/

/-- The filings that calls make have one item, which is a mapping. -/
def Promise : FilingEffect → Prop
  | .readExisting _ => True
  | .fileCase filing => ∃ item, filing.evidenceItems = [item] ∧
      (Json.obj item.content).DistinctKeys

def Contract (e : FilingEffect) (db : FilingDb) (reply : FilingReply e) (db' : FilingDb) : Prop :=
  Handle e db reply db' ∧ Promise e

/-- An effect leaves the rows, or it commits a filing. -/
theorem handle_cases {e : FilingEffect} {db db' : FilingDb} {reply : FilingReply e}
    (h : Handle e db reply db') :
    db' = db ∨ ∃ filing ids, e = .fileCase filing ∧ Files filing db ids db' := by
  cases e with
  | readExisting text =>
      cases reply with
      | ok rows => exact Or.inl h.1
      | error failure => exact Or.inl h.1
  | fileCase filing =>
      cases reply with
      | ok ids => exact Or.inr ⟨filing, ids, rfl, h⟩
      | error failure =>
          cases failure with
          | uniqueViolation => exact Or.inl h.1
          | other =>
              rcases h with hsame | ⟨ids, hfiles⟩
              · exact Or.inl hsame
              · exact Or.inr ⟨filing, ids, rfl, hfiles⟩

/-- An effect within the contract keeps the invariant and the case of the invoice. -/
theorem kept_of_contract {e : FilingEffect} {db db' : FilingDb} {reply : FilingReply e}
    (hinv : Inv invoiceId db) (h : Contract e db reply db') :
    Inv invoiceId db' ∧ Keeps invoiceId db db' := by
  rcases handle_cases h.1 with rfl | ⟨filing, ids, rfl, hfiles⟩
  · exact ⟨hinv, .refl invoiceId db'⟩
  · obtain ⟨item, hitems, hkeyed⟩ := h.2
    obtain ⟨minted, hfresh, hcommit⟩ := hfiles
    obtain ⟨-, rows, hleaves⟩ := leaves_of_fileCase hitems hcommit
    exact ⟨inv_of_leaves hkeyed hinv hfresh hleaves, keeps_of_leaves hinv hfresh hleaves⟩

/-! ## Calls -/

/-- The outcome of a call that is on the invoice. -/
def Ended (invoiceId : String) (call : FilingCall) (result : Except FilingError FilingAnswer)
    (db : FilingDb) : Prop :=
  Literals.uuid call.stored.invoiceId = some invoiceId → Outcome invoiceId call result db

/-- A program that keeps to the contract and ends with an outcome of its call. -/
abbrev Keeping (invoiceId : String) (call : FilingCall) (p : FilingProg) (db : FilingDb) : Prop :=
  Sound (Inv invoiceId) Handle (Keeps invoiceId) Contract (Ended invoiceId call) p db

theorem keeping_done {call : FilingCall} {result : Except FilingError FilingAnswer}
    {db : FilingDb} (h : Ended invoiceId call result db) :
    Keeping invoiceId call (.done result) db := by
  refine .done h ?_
  intro db db' hended hkeeps hinvoice
  exact outcome_stable call result db db' (hended hinvoice) hkeeps

/-- An effect of a call. -/
theorem keeping_perform {call : FilingCall} {e : FilingEffect} {next : FilingReply e → FilingProg}
    {db : FilingDb} (P : FilingDb → Prop) (hP : P db) (hstable : Stable (Keeps invoiceId) P)
    (hpromise : Promise e)
    (hnext : ∀ db reply db', Inv invoiceId db → Inv invoiceId db' → P db' →
      Handle e db reply db' → Keeping invoiceId call (next reply) db') :
    Keeping invoiceId call (.perform e next) db := by
  refine .perform P hP hstable (fun _ _ _ _ _ hhandle => ⟨hhandle, hpromise⟩) ?_
  intro db reply db' hinv hP hhandle
  have hkept := kept_of_contract hinv ⟨hhandle, hpromise⟩
  exact hnext db reply db' hinv hkept.1 (hstable db db' hP hkept.2) hhandle

omit [Literals] [Sha256] in
theorem anything_stable : Stable (Keeps invoiceId) fun _ => True := fun _ _ _ _ => trivial

/-- What a read that found rows answers. -/
theorem keeping_existing {call : FilingCall} {calculation : OverchargeCalculation}
    {db : FilingDb} {id : String} {row : ExistingCase} {others : List ExistingCase}
    (hchecked : checked call = .ok (calculation, true)) (hinv : Inv invoiceId db)
    (hid : Literals.uuid call.stored.invoiceId = some id)
    (hperm : (row :: others).Perm (existingRows id db)) :
    Keeping invoiceId call (.done (existingCaseResult call calculation row others)) db := by
  refine keeping_done fun hinvoice => ?_
  obtain rfl := Option.some.inj (hinvoice.symm.trans hid)
  obtain ⟨rfl, hcase⟩ := theCase_of_rows hinv hperm
  exact outcome_of_found hinv hchecked hcase

/-- The read behind a violated index finds the case. -/
theorem keeping_raced {call : FilingCall} {calculation : OverchargeCalculation} {db : FilingDb}
    (hchecked : checked call = .ok (calculation, true))
    (h : Literals.uuid call.stored.invoiceId = some invoiceId → ∃ row, TheCase db invoiceId row) :
    Keeping invoiceId call (readRaced call calculation) db := by
  refine keeping_perform
    (fun db => Literals.uuid call.stored.invoiceId = some invoiceId →
      ∃ row, TheCase db invoiceId row) h ?_ trivial fun db reply db' hinv _ hfound hread => ?_
  · intro db db' hfound hkeeps hinvoice
    obtain ⟨row, hcase⟩ := hfound hinvoice
    exact ⟨row, hkeeps row hcase⟩
  cases reply with
  | error failure =>
      obtain ⟨-, rfl⟩ := hread
      exact keeping_done fun _ => trivial
  | ok rows =>
      obtain ⟨rfl, id, hid, hperm⟩ := hread
      cases rows with
      | nil =>
          refine keeping_done fun hinvoice => ?_
          obtain rfl := Option.some.inj (hinvoice.symm.trans hid)
          obtain ⟨row, hcase⟩ := hfound hinvoice
          rw [hcase.read] at hperm
          exact absurd hperm.length_eq (by simp)
      | cons row others => exact keeping_existing hchecked hinv hid hperm

/-- A committed filing is the case of its call. -/
theorem ended_of_files {call : FilingCall} {calculation : OverchargeCalculation}
    {db db' : FilingDb} {ids : FiledIds} (hchecked : checked call = .ok (calculation, true))
    (hinv : Inv invoiceId db) (h : Files (filingOf call calculation) db ids db') :
    Ended invoiceId call (.ok (.filed false ids.caseId ids.findingId (asDict calculation)))
      db' := by
  intro hinvoice
  obtain ⟨minted, hfresh, hcommit⟩ := h
  obtain ⟨rfl, rows, hleaves⟩ := leaves_of_fileCase rfl hcommit
  have hcase := theCase_of_leaves hinv hfresh hleaves
  have hsame : invoiceId = rows.filed.invoiceId :=
    Option.some.inj (hinvoice.symm.trans hleaves.invoice)
  rw [← hsame] at hcase
  refine ⟨calculation, rows.joined, hchecked, rfl, hcase, hleaves.filedId, hleaves.linked, ?_,
    by simp⟩
  have hkeyed := distinctKeys_evidence call calculation
  have hevidence : rows.joined.evidence = some rows.evidence := rfl
  unfold SameEvidence
  rw [hevidence, Option.map_some, hleaves.content]
  exact (Json.sortKeys_eq_iff hkeyed hkeyed).mp rfl

/-- A call with an overcharge keeps to the contract. -/
theorem keeping_fileOrFind {call : FilingCall} {calculation : OverchargeCalculation}
    (hchecked : checked call = .ok (calculation, true)) (db : FilingDb) :
    Keeping invoiceId call (fileOrFind call calculation) db := by
  refine keeping_perform _ trivial anything_stable trivial fun db reply db' hinv _ _ hread => ?_
  cases reply with
  | error failure =>
      obtain ⟨-, rfl⟩ := hread
      exact keeping_done fun _ => trivial
  | ok rows =>
      obtain ⟨rfl, id, hid, hperm⟩ := hread
      cases rows with
      | cons row others => exact keeping_existing hchecked hinv hid hperm
      | nil =>
          have hpromise : Promise (.fileCase (filingOf call calculation)) :=
            ⟨_, rfl, distinctKeys_evidence call calculation⟩
          refine keeping_perform _ trivial anything_stable hpromise
            fun db reply db' hinv _ _ hfiles => ?_
          cases reply with
          | ok ids => exact keeping_done (ended_of_files hchecked hinv hfiles)
          | error failure =>
              cases failure with
              | other => exact keeping_done fun _ => trivial
              | uniqueViolation =>
                  obtain ⟨rfl, minted, hfresh, hviolated⟩ := hfiles
                  refine keeping_raced hchecked fun hinvoice => ?_
                  exact theCase_of_violation rfl hinv hfresh hinvoice hviolated

omit [Literals] [Sha256] in
/-- The checks fail in the chronology or in the calculation. -/
theorem checked_fails {call : FilingCall} {error : FilingError} (h : checked call = .error error) :
    (∃ cause, error = .chronology cause) ∨ ∃ cause, error = .calculation cause := by
  unfold checked at h
  split at h
  · rename_i cause _
    exact Or.inl ⟨cause, (Except.error.inj h).symm⟩
  · split at h
    · rename_i cause _
      exact Or.inr ⟨cause, (Except.error.inj h).symm⟩
    · split at h
      · rename_i cause _
        exact Or.inr ⟨cause, (Except.error.inj h).symm⟩
      · exact absurd h (by simp)

/-- Every call keeps to the contract and ends with one of its outcomes. -/
theorem keeping_fileGate1Case (call : FilingCall) (db : FilingDb) :
    Keeping invoiceId call (fileGate1Case call) db := by
  unfold fileGate1Case
  split
  · rename_i error hchecked
    refine keeping_done fun _ => ?_
    rcases checked_fails hchecked with ⟨cause, rfl⟩ | ⟨cause, rfl⟩
    · exact hchecked
    · exact hchecked
  · rename_i calculation hchecked
    exact keeping_done fun _ => ⟨calculation, hchecked, rfl⟩
  · rename_i calculation hchecked
    exact keeping_fileOrFind hchecked db

/-! ## Pools of callers -/

variable {ι : Type} [DecidableEq ι] (calls : ι → FilingCall)

omit [Literals] [DecidableEq ι] in
def Starts (i : ι) (p : FilingProg) (db db' : FilingDb) : Prop :=
  p = fileGate1Case (calls i) ∧ db' = db

omit [Literals] [Sha256] [DecidableEq ι] in
/-- A call that returns or crashes leaves the database as it is. -/
def Stops (_ : ι) (_ : FilingProg) (db db' : FilingDb) : Prop := db' = db

/-- What callers keep to for an invoice. -/
def conduct (invoiceId : String) : Conduct (fun _ : ι => Handle) (Starts calls) Stops where
  inv := Inv invoiceId
  rely := Keeps invoiceId
  contract := Contract
  post i := Ended invoiceId (calls i)
  rely_refl := Keeps.refl invoiceId
  rely_trans _ _ _ := Keeps.trans
  others _ _ _ _ hinv h := (kept_of_contract hinv h).2
  kept _ _ _ _ hinv h := (kept_of_contract hinv h).1
  started i _ db _ h := by
    obtain ⟨rfl, hsame⟩ := h
    exact ⟨hsame, keeping_fileGate1Case (calls i) db⟩
  stopped _ _ _ _ h := h

/-- A database in which nothing of an invoice is filed. -/
structure Unfiled (invoiceId : String) (db : FilingDb) : Prop where
  findings : ∀ f ∈ db .findings, f.invoiceId ≠ invoiceId
  cases : ∀ c ∈ db .cases, c.invoiceId ≠ invoiceId
  attached : ∀ e ∈ db .caseEvidence, ∃ c ∈ db .cases, c.id = e.caseId

omit [Literals] [Sha256] in
theorem inv_of_unfiled {db : FilingDb} (h : Unfiled invoiceId db) : Inv invoiceId db := by
  constructor
  · intro c hc hinvoice
    exact absurd hinvoice (h.cases c hc)
  · intro f hf hinvoice
    exact absurd hinvoice (h.findings f hf)
  · intro c hc hinvoice
    exact absurd hinvoice (h.cases c hc)
  · exact h.attached
  · intro row e hcase
    obtain ⟨c, hc, hinvoice⟩ := hcase.mem
    exact absurd hinvoice (h.cases c hc)

/-- Whatever callers have reached is governed. -/
theorem governs_of_reaches {initial : FilingDb} (hinitial : Unfiled invoiceId initial)
    {pool : Pool ι FilingEffect FilingReply (Except FilingError FilingAnswer) FilingDb}
    (h : Pool.Reaches (fun _ => Handle) (Starts calls) Stops initial pool) :
    (conduct calls invoiceId).Governs pool :=
  (((conduct calls invoiceId).governs_initial (inv_of_unfiled hinitial)).steps h).1

end Filings

/-! ## A case -/

section Case

local instance caseSha : Sha256 := Sha256.standard

/-- The texts of the case are UUIDs in the form the database gives back. -/
local instance caseLiterals : Literals where
  uuid := some
  timestamp _ := none

def caseTime (text : String) : Option Calendar.AwareDatetime :=
  (Calendar.AwareDatetime.fromisoformat text).bind id

def caseDate (day : Nat) : Calendar.Date := (Calendar.Date.ofYmd 2026 6 day).getD .min

/-- A call on an invoice over seven days at a rate, with a tariff of 250.00 a day. -/
def callAt (claimedRate : Applicability.Decimal) : FilingCall where
  tenantId := "00000000-0000-4000-8000-000000000001"
  carrierId := "00000000-0000-4000-8000-000000000002"
  stored := ⟨"00000000-0000-4000-8000-000000000003", "2026-06-01 00:00:00+00:00",
    "00000000-0000-4000-8000-000000000004", "2026-06-01 00:00:00+00:00",
    "00000000-0000-4000-8000-000000000005", "00000000-0000-4000-8000-000000000006"⟩
  tariff := ⟨"b", "tariff", "v1", [1], caseTime "2026-06-01T00:00:00+00:00"⟩
  invoice := ⟨"b", "invoice", "v2", [2], caseTime "2026-06-20T00:00:00+00:00"⟩
  extraction := ⟨.finite false 25000 (-2), "USD", "per_day", "$250.00/day", caseDate 1, none,
    "Demurrage $250.00/day", "Clause 4.2", .finite false 1 0⟩
  verification := ⟨true, [], "s", "c"⟩
  invoiceClaim := ⟨"INV-1048", claimedRate, "USD", "per_day", 7, caseDate 15,
    "2026-06-20T00:00:00+00:00"⟩
  pinDate := caseDate 22

def emptyDb : FilingDb := fun t => by cases t <;> exact []

theorem emptyDb_unfiled (invoiceId : String) : Unfiled invoiceId emptyDb :=
  ⟨fun _ h => absurd h List.not_mem_nil, fun _ h => absurd h List.not_mem_nil,
    fun _ h => absurd h List.not_mem_nil⟩

def caseMinted : MintedIds where
  findingId := "00000000-0000-4000-8000-000000000007"
  caseId := "00000000-0000-4000-8000-000000000008"
  evidenceId i := String.ofList (List.replicate i '0')

theorem caseMinted_fresh : caseMinted.Fresh emptyDb := by
  refine ⟨fun _ h => absurd h List.not_mem_nil, fun _ h => absurd h List.not_mem_nil,
    fun _ h => absurd h List.not_mem_nil, ?_⟩
  intro i j h
  have hlength := congrArg List.length (String.ofList_injective h)
  simpa using hlength

/-- A call whose rates agree. -/
def agreedCall : FilingCall := callAt (.finite false 25000 (-2))

/-- A call with an overcharge of 100.00 a day. -/
def overchargedCall : FilingCall := callAt (.finite false 35000 (-2))

end Case

end Tally.Analysis.CaseFilings
