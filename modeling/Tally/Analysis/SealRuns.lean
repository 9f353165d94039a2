import Tally.Analysis.Claims
import Tally.Analysis.Seals
import Tally.Library.Selection

/-!
# Seals over runs

Cases are committed, sealed and contested in any order. The evidence of a case is open until the
case is sealed and sealed from then on, and the seal of a case stays as it is: as long as the case
is filed, a call that approves it again is answered with the hash, the transaction and the
approver of its seal, and writes nothing but a line of the log.
-/

set_option autoImplicit false

namespace Tally.Analysis.SealRuns
open Library Library.Sha256 Tally.Model CaseSeal Seals
open CockroachMcp (JsonDecoder LoadsError)
open ReceiptPipeline (Literals)

section Runs

variable [Interpreter] [Sha256] [JsonDecoder] [Literals]

/-! ## Texts that come back as they were written -/

/-- A time comes back from the database as the approval wrote it. -/
def TimesReadBack : Prop :=
  ∀ text approvedAt time, timestampTextOf text = .ok approvedAt →
    Literals.timestamp approvedAt = some time → timestampText time = approvedAt

/-- The ids of a call are the texts the database gives them. -/
structure Canonical (tenantId : String) (call : SealCall) : Prop where
  tenant : call.tenantId = tenantId
  case : ∀ id, Literals.uuid call.caseId = some id → id = call.caseId
  approver : ∀ id, Literals.uuid call.sealedByUserId = some id → id = call.sealedByUserId

/-- The calls that seal have canonical ids. -/
def CanonicalStep (tenantId : String) : SealStep → Prop
  | .sealCase _ call => Canonical tenantId call
  | .commitCase _ => True
  | .contestCase _ _ => True

/-! ## What stays of a seal -/

variable {tenantId : String} {db db' : SealDb} {c : CaseRow} {gathered : Gathered}
  {txnTs sealedBy : String} {time : Calendar.Instant}

omit [Interpreter] [Literals] in
/-- A seal depends on the evidence and the approval of its case only. -/
theorem sealedUnder_frame {text : String}
    (h : SealedUnder tenantId text db c gathered txnTs sealedBy time)
    (hevidence : evidenceOf db' c.id = evidenceOf db c.id)
    (happroval : ((db' .findings).filter fun f => f.id = c.findingId).head?.map
      FindingRow.humanApprovalState = some "APPROVED") :
    SealedUnder tenantId text db' c gathered txnTs sealedBy time :=
  ⟨hevidence ▸ h.evidence, hevidence ▸ h.closed, hevidence ▸ h.gathers, happroval, h.row⟩

omit [Interpreter] [Literals] in
/-- A seal does not depend on the state of its case. -/
theorem sealedUnder_state {text : String}
    (h : SealedUnder tenantId text db c gathered txnTs sealedBy time) (state : String) :
    SealedUnder tenantId text db { c with state } gathered txnTs sealedBy time :=
  ⟨h.evidence, h.closed, h.gathers, h.approval,
    congrArg (fun row : CaseRow => { row with state := "FILED" }) h.row⟩

/-- Every case is open with open evidence or has a seal under its id. -/
structure Inv (tenantId : String) (db : SealDb) : Prop where
  keys : (db .cases).Pairwise fun a b => a.id ≠ b.id
  posted : ∀ e ∈ db .caseEvidence, ∃ c ∈ db .cases, c.id = e.caseId
  opens : ∀ c ∈ db .cases, c.state = "ANALYZED" →
    ∀ e ∈ db .caseEvidence, e.caseId = c.id → e.sealed = false
  closes : ∀ c ∈ db .cases, c.state ≠ "ANALYZED" → ∃ gathered txnTs sealedBy time,
    SealedUnder tenantId c.id db c gathered txnTs sealedBy time

omit [Interpreter] [Sha256] [JsonDecoder] [Literals] in
theorem mem_evidenceOf {e : EvidenceRow} {caseId : String} :
    e ∈ evidenceOf db caseId ↔ e ∈ db .caseEvidence ∧ e.caseId = caseId := by
  unfold evidenceOf orderById
  rw [List.mem_insertionSort, List.mem_filter, decide_eq_true_eq]

omit [Interpreter] [Sha256] [JsonDecoder] [Literals] in
theorem caseOf_of_mem (hkeys : (db .cases).Pairwise fun a b => a.id ≠ b.id)
    (hc : c ∈ db .cases) : caseOf db c.id = some c :=
  find?_of_key hkeys hc rfl

omit [Interpreter] [Sha256] [JsonDecoder] [Literals] in
theorem mem_of_caseOf {caseId : String} (h : caseOf db caseId = some c) :
    c ∈ db .cases ∧ c.id = caseId :=
  ⟨List.mem_of_find?_eq_some h, by simpa using List.find?_some h⟩

omit [Interpreter] [Literals] in
/-- The evidence of a case is sealed just when the case is not open any more. -/
theorem Inv.sealed_iff (h : Inv tenantId db) (hc : c ∈ db .cases) {e : EvidenceRow}
    (he : e ∈ db .caseEvidence) (hcase : e.caseId = c.id) :
    e.sealed = true ↔ c.state ≠ "ANALYZED" := by
  constructor
  · intro hsealed hstate
    have hopen := h.opens c hc hstate e he hcase
    rw [hsealed] at hopen
    cases hopen
  · intro hstate
    obtain ⟨_, _, _, _, hunder⟩ := h.closes c hc hstate
    exact List.all_eq_true.mp hunder.closed e (mem_evidenceOf.mpr ⟨he, hcase⟩)

/-! ## Committing a case -/

/-- The case of a commit. -/
def newCase (commit : CaseCommit) : CaseRow :=
  { id := commit.caseId
    invoiceId := commit.invoiceId
    findingId := commit.findingId
    carrierId := commit.carrierId
    state := "ANALYZED"
    sealedTxnTs := none
    evidenceHash := none
    evidenceManifest := none
    sealedBy := none
    sealedAtDisplay := none
    manifestVersion := none }

/-- What a commit leaves: a new case with open evidence. -/
structure Committed (commit : CaseCommit) (db db' : SealDb) : Prop where
  fresh : ∀ c ∈ db .cases, c.id ≠ commit.caseId
  cases : db' .cases = db .cases ++ [newCase commit]
  findings : ∃ row, db' .findings = db .findings ++ [row]
  caseEvidence : Schema.Appends .caseEvidence
    (fun e => e.caseId = commit.caseId ∧ e.sealed = false) db db'

omit [Interpreter] [Sha256] [JsonDecoder] [Literals] in
theorem commitCase_ok {commit : CaseCommit} (h : commitCase commit db = .ok ((), db')) :
    Committed commit db db' := by
  unfold commitCase at h
  obtain ⟨_, db₁, hfinding, h⟩ := Txn.bind_ok.mp h
  obtain ⟨_, db₂, hcase, h⟩ := Txn.bind_ok.mp h
  obtain ⟨_, db₃, hevidence, hlog⟩ := Txn.bind_ok.mp h
  obtain ⟨_, _, rfl⟩ := Schema.insert_ok.mp hfinding
  obtain ⟨hfresh, _, rfl⟩ := Schema.insert_ok.mp hcase
  have hrest := Txn.keeps_forEach Schema.sameExcept_refl Schema.sameExcept_trans 0 commit.evidence
    (fun _ item _ => Schema.writes_insert (List.mem_singleton.mpr rfl)) _ _ _ hevidence
  have happends := Txn.keeps_forEach (Schema.appends_refl
      (P := fun e => e.caseId = commit.caseId ∧ e.sealed = false)) Schema.appends_trans 0
    commit.evidence (fun _ item _ => Schema.appends_insert ⟨rfl, rfl⟩) _ _ _ hevidence
  obtain rfl := Txn.write_ok.mp hlog
  refine ⟨?_, ?_, ⟨⟨commit.findingId, "NOT_PRESSED"⟩, ?_⟩, ?_⟩
  · intro c hc hid
    have hconflict := hfresh c (by rwa [Store.modify_of_ne _ _ (by simp)])
    simp [sealConflicts, hid] at hconflict
  · rw [Store.modify_of_ne _ _ (by simp), hrest _ (by simp), Store.modify_same,
      Store.modify_of_ne _ _ (by simp)]
    rfl
  · rw [Store.modify_of_ne _ _ (by simp), hrest _ (by simp), Store.modify_of_ne _ _ (by simp),
      Store.modify_same]
  · obtain ⟨rows, hrows, hall⟩ := happends
    refine ⟨rows, ?_, hall⟩
    rw [Store.modify_of_ne _ _ (by simp), hrows, Store.modify_of_ne _ _ (by simp),
      Store.modify_of_ne _ _ (by simp)]

omit [Interpreter] [Sha256] [JsonDecoder] [Literals] in
/-- The evidence of the other cases stays. -/
theorem Committed.evidenceOf_eq {commit : CaseCommit} (h : Committed commit db db')
    {caseId : String} (hne : caseId ≠ commit.caseId) :
    evidenceOf db' caseId = evidenceOf db caseId := by
  obtain ⟨rows, hrows, hall⟩ := h.caseEvidence
  have hnone : (rows.filter fun e => e.caseId = caseId) = [] := by
    rw [List.filter_eq_nil_iff]
    intro e he hcase
    exact hne ((of_decide_eq_true hcase).symm.trans (hall e he).1)
  unfold evidenceOf
  rw [hrows, List.filter_append, hnone, List.append_nil]

omit [Interpreter] [Sha256] [JsonDecoder] [Literals] in
/-- A finding that is approved stays the first one of its id. -/
theorem head?_approval_append {rows more : List FindingRow} {p : FindingRow → Bool}
    (h : (rows.filter p).head?.map FindingRow.humanApprovalState = some "APPROVED") :
    ((rows ++ more).filter p).head?.map FindingRow.humanApprovalState = some "APPROVED" := by
  rw [List.filter_append]
  cases hrows : rows.filter p with
  | nil =>
      rw [hrows] at h
      cases h
  | cons row rest =>
      rw [hrows] at h
      exact h

omit [Interpreter] [Literals] in
theorem Committed.keeps {commit : CaseCommit} (h : Committed commit db db')
    (hc : c ∈ db .cases) {text : String}
    (hunder : SealedUnder tenantId text db c gathered txnTs sealedBy time) :
    SealedUnder tenantId text db' c gathered txnTs sealedBy time := by
  obtain ⟨row, hfindings⟩ := h.findings
  refine sealedUnder_frame hunder (h.evidenceOf_eq (h.fresh c hc)) ?_
  rw [hfindings]
  exact head?_approval_append hunder.approval

omit [Interpreter] [Literals] in
theorem Committed.inv {commit : CaseCommit} (h : Committed commit db db')
    (hinv : Inv tenantId db) : Inv tenantId db' := by
  have hnew : (newCase commit).id = commit.caseId := rfl
  obtain ⟨rows, hrows, hall⟩ := h.caseEvidence
  refine ⟨?_, ?_, ?_, ?_⟩
  · rw [h.cases, List.pairwise_append]
    refine ⟨hinv.keys, List.pairwise_singleton _ _, ?_⟩
    intro c hc c' hc'
    rw [List.mem_singleton.mp hc']
    exact h.fresh c hc
  · intro e he
    rw [hrows] at he
    rw [h.cases]
    rcases List.mem_append.mp he with he | he
    · obtain ⟨c, hc, hid⟩ := hinv.posted e he
      exact ⟨c, List.mem_append_left _ hc, hid⟩
    · exact ⟨newCase commit, List.mem_append_right _ (List.mem_singleton.mpr rfl),
        (hall e he).1.symm⟩
  · intro c hc hstate e he hcase
    rw [hrows] at he
    rw [h.cases] at hc
    rcases List.mem_append.mp he with he | he
    · rcases List.mem_append.mp hc with hc | hc
      · exact hinv.opens c hc hstate e he hcase
      · obtain ⟨c', hc', hid⟩ := hinv.posted e he
        rw [List.mem_singleton.mp hc] at hcase
        exact absurd (hid.trans hcase) (h.fresh c' hc')
    · exact (hall e he).2
  · intro c hc hstate
    rw [h.cases] at hc
    rcases List.mem_append.mp hc with hc | hc
    · obtain ⟨gathered, txnTs, sealedBy, time, hunder⟩ := hinv.closes c hc hstate
      exact ⟨gathered, txnTs, sealedBy, time, h.keeps hc hunder⟩
    · rw [List.mem_singleton.mp hc] at hstate
      exact absurd rfl hstate

/-! ## Sealing a case -/

omit [Interpreter] [Sha256] [JsonDecoder] [Literals] in
/-- A finding that is approved stays approved when one is approved. -/
theorem head?_approval_update {rows : List FindingRow} {findingId other : String}
    (h : (rows.filter fun f => f.id = findingId).head?.map FindingRow.humanApprovalState =
      some "APPROVED") :
    ((rows.map fun f => if (decide (f.id = other)) = true then approveRow f else f).filter
      fun f => f.id = findingId).head?.map FindingRow.humanApprovalState = some "APPROVED" := by
  have hkey : ((fun f : FindingRow => decide (f.id = findingId)) ∘ fun f =>
      if (decide (f.id = other)) = true then approveRow f else f) =
      fun f => decide (f.id = findingId) := by
    funext f
    show decide ((if _ then _ else _ : FindingRow).id = findingId) = _
    split
    · rfl
    · rfl
  rw [List.filter_map, hkey, List.head?_map, Option.map_map]
  cases hhead : (rows.filter fun f => f.id = findingId).head? with
  | none =>
      rw [hhead] at h
      cases h
  | some f =>
      rw [hhead] at h
      show some (if _ then _ else _ : FindingRow).humanApprovalState = _
      split
      · rfl
      · exact h

section Sealed

variable {caseId approvedAt : String} {call : SealCall} {row : CaseRow}

omit [Interpreter] in
/-- The seal of another case stays. -/
theorem sealing_keeps {gathered' : Gathered} {txnTs' sealedBy' : String}
    {time' : Calendar.Instant}
    (h : Sealing txnTs' call caseId approvedAt row db db' gathered' sealedBy' time')
    (hne : c.id ≠ caseId) {text : String}
    (hunder : SealedUnder tenantId text db c gathered txnTs sealedBy time) :
    SealedUnder tenantId text db' c gathered txnTs sealedBy time := by
  refine sealedUnder_frame hunder ?_ ?_
  · unfold evidenceOf
    rw [h.caseEvidence]
    refine congrArg orderById (Schema.filter_update_other ?_ ?_ _)
    · intro e he
      exact decide_eq_false fun hid => hne (hid.symm.trans (of_decide_eq_true he))
    · intro e he
      exact decide_eq_false fun hid => hne (hid.symm.trans (of_decide_eq_true he))
  · rw [h.findings]
    exact head?_approval_update hunder.approval

omit [Interpreter] in
theorem sealing_inv
    (h : Sealing txnTs call caseId approvedAt row db db' gathered sealedBy time)
    (hinv : Inv tenantId db) (hrow : caseOf db caseId = some row)
    (htenant : call.tenantId = tenantId)
    (hid : caseId = call.caseId) (hback : ReadsBack call approvedAt sealedBy time) :
    Inv tenantId db' := by
  obtain ⟨hmem, hrowId⟩ := mem_of_caseOf hrow
  refine ⟨?_, ?_, ?_, ?_⟩
  · rw [h.cases, List.pairwise_map]
    refine hinv.keys.imp ?_
    intro a b hab
    split
    · split
      · exact hab
      · exact hab
    · split
      · exact hab
      · exact hab
  · intro e he
    rw [h.caseEvidence] at he
    obtain ⟨e₀, he₀, rfl⟩ := List.mem_map.mp he
    obtain ⟨c, hc, hcid⟩ := hinv.posted e₀ he₀
    rw [h.cases]
    refine ⟨_, List.mem_map_of_mem hc, ?_⟩
    split
    · split
      · exact hcid
      · exact hcid
    · split
      · exact hcid
      · exact hcid
  · intro c hc hstate e he hcase
    rw [h.cases] at hc
    rw [h.caseEvidence] at he
    obtain ⟨c₀, hc₀, rfl⟩ := List.mem_map.mp hc
    obtain ⟨e₀, he₀, rfl⟩ := List.mem_map.mp he
    by_cases hcid : c₀.id = caseId
    · rw [if_pos (decide_eq_true hcid)] at hstate
      exact absurd hstate (by simp [sealCaseRow])
    · have hother : ¬decide (c₀.id = caseId) = true := by simpa using hcid
      rw [if_neg hother] at hstate hcase
      by_cases heid : e₀.caseId = caseId
      · rw [if_pos (decide_eq_true heid)] at hcase
        exact absurd (hcase.symm.trans heid) hcid
      · have hopen : ¬decide (e₀.caseId = caseId) = true := by simpa using heid
        rw [if_neg hopen] at hcase ⊢
        exact hinv.opens c₀ hc₀ hstate e₀ he₀ hcase
  · intro c hc hstate
    rw [h.cases] at hc
    obtain ⟨c₀, hc₀, rfl⟩ := List.mem_map.mp hc
    by_cases hcid : c₀.id = caseId
    · obtain rfl : row = c₀ := by
        have hfound := caseOf_of_mem hinv.keys hc₀
        rw [hcid] at hfound
        exact Option.some.inj (hrow.symm.trans hfound)
      rw [if_pos (decide_eq_true hcid)]
      refine ⟨gathered, txnTs, sealedBy, time, ?_⟩
      have hunder := h.sealedUnder hcid hback
      rw [htenant, ← hid, ← hcid] at hunder
      exact hunder
    · have hother : ¬decide (c₀.id = caseId) = true := by simpa using hcid
      rw [if_neg hother] at hstate ⊢
      obtain ⟨gathered', txnTs', sealedBy', time', hunder⟩ := hinv.closes c₀ hc₀ hstate
      exact ⟨gathered', txnTs', sealedBy', time', sealing_keeps h hcid hunder⟩

end Sealed

/-! ## Contesting a case -/

/-- The update of a contested case. -/
def contested (caseId : String) (c : CaseRow) : CaseRow :=
  if (decide (c.id = caseId ∧ c.state = "FILED")) = true then { c with state := "CONTESTED" } else c

omit [Interpreter] [Sha256] [JsonDecoder] [Literals] in
/-- Only the state of a case changes, and no case is opened. -/
theorem contested_eq (caseId : String) (c : CaseRow) : ∃ state,
    contested caseId c = { c with state } ∧ (state = "ANALYZED" ↔ c.state = "ANALYZED") := by
  unfold contested
  split
  · rename_i hcase
    refine ⟨"CONTESTED", rfl, ?_⟩
    rw [(of_decide_eq_true hcase).2]
    decide
  · exact ⟨c.state, rfl, Iff.rfl⟩

/-- What a contest leaves. -/
structure Contested (caseId : String) (db db' : SealDb) : Prop where
  cases : db' .cases = (db .cases).map (contested caseId)
  caseEvidence : db' .caseEvidence = db .caseEvidence
  findings : db' .findings = db .findings

omit [Interpreter] [Sha256] [JsonDecoder] [Literals] in
theorem contestCase_ok {caseId actor : String}
    (h : contestCase caseId actor db = .ok ((), db')) : Contested caseId db db' := by
  unfold contestCase at h
  obtain ⟨_, db₁, hupdate, hlog⟩ := Txn.bind_ok.mp h
  obtain rfl := Schema.update_ok.mp hupdate
  obtain rfl := Txn.write_ok.mp hlog
  refine ⟨?_, ?_, ?_⟩
  · rw [Store.modify_of_ne _ _ (by simp), Store.modify_same]
    rfl
  · rw [Store.modify_of_ne _ _ (by simp), Store.modify_of_ne _ _ (by simp)]
  · rw [Store.modify_of_ne _ _ (by simp), Store.modify_of_ne _ _ (by simp)]

omit [Interpreter] [Literals] in
/-- The seal of a case stays when some case is contested. -/
theorem Contested.keeps {caseId : String} (h : Contested caseId db db') {text : String}
    (hunder : SealedUnder tenantId text db c gathered txnTs sealedBy time) :
    SealedUnder tenantId text db' c gathered txnTs sealedBy time := by
  refine sealedUnder_frame hunder ?_ ?_
  · unfold evidenceOf
    rw [h.caseEvidence]
  · rw [h.findings]
    exact hunder.approval

omit [Interpreter] [Literals] in
theorem Contested.inv {caseId : String} (h : Contested caseId db db') (hinv : Inv tenantId db) :
    Inv tenantId db' := by
  have hid : ∀ c, (contested caseId c).id = c.id := by
    intro c
    obtain ⟨state, heq, _⟩ := contested_eq caseId c
    rw [heq]
  refine ⟨?_, ?_, ?_, ?_⟩
  · rw [h.cases, List.pairwise_map]
    refine hinv.keys.imp ?_
    intro a b hab
    rwa [hid, hid]
  · intro e he
    rw [h.caseEvidence] at he
    obtain ⟨c, hc, hcid⟩ := hinv.posted e he
    rw [h.cases]
    exact ⟨_, List.mem_map_of_mem hc, (hid c).trans hcid⟩
  · intro c hc hstate e he hcase
    rw [h.cases] at hc
    rw [h.caseEvidence] at he
    obtain ⟨c₀, hc₀, rfl⟩ := List.mem_map.mp hc
    obtain ⟨state, heq, hopen⟩ := contested_eq caseId c₀
    rw [heq] at hstate hcase
    exact hinv.opens c₀ hc₀ (hopen.mp hstate) e he hcase
  · intro c hc hstate
    rw [h.cases] at hc
    obtain ⟨c₀, hc₀, rfl⟩ := List.mem_map.mp hc
    obtain ⟨state, heq, hopen⟩ := contested_eq caseId c₀
    rw [heq] at hstate ⊢
    obtain ⟨gathered, txnTs, sealedBy, time, hunder⟩ :=
      hinv.closes c₀ hc₀ fun hanalyzed => hstate (hopen.mpr hanalyzed)
    exact ⟨gathered, txnTs, sealedBy, time, sealedUnder_state (h.keeps hunder) state⟩

/-! ## Every call -/

omit [Interpreter] [Literals] in
/-- The log does not matter. -/
theorem inv_of_log (hinv : Inv tenantId db) (lines : List LogLine → List LogLine) :
    Inv tenantId (db.modify .queryLog lines) := by
  have hcases : (db.modify .queryLog lines) .cases = db .cases :=
    Store.modify_of_ne _ _ (by simp)
  have hevidence : (db.modify .queryLog lines) .caseEvidence = db .caseEvidence :=
    Store.modify_of_ne _ _ (by simp)
  have hfindings : (db.modify .queryLog lines) .findings = db .findings :=
    Store.modify_of_ne _ _ (by simp)
  refine ⟨hcases ▸ hinv.keys, hcases ▸ hevidence ▸ hinv.posted, hcases ▸ hevidence ▸ hinv.opens, ?_⟩
  intro c hc hstate
  rw [hcases] at hc
  obtain ⟨gathered, txnTs, sealedBy, time, hunder⟩ := hinv.closes c hc hstate
  refine ⟨gathered, txnTs, sealedBy, time, sealedUnder_frame hunder ?_ ?_⟩
  · unfold evidenceOf
    rw [hevidence]
  · rw [hfindings]
    exact hunder.approval

/-- A fresh seal that a canonical call makes reads back as it was written. -/
theorem readsBack_of_sealing {caseId approvedAt : String} {call : SealCall} {row : CaseRow}
    (htimes : TimesReadBack) (hcanonical : Canonical tenantId call)
    (happroved : timestampTextOf call.sealedAtDisplay = .ok approvedAt)
    (h : Sealing txnTs call caseId approvedAt row db db' gathered sealedBy time) :
    ReadsBack call approvedAt sealedBy time :=
  ⟨hcanonical.approver _ h.approver, htimes _ _ _ happroved h.approved⟩

theorem inv_sealCase {call : SealCall} {result : SealResult} (htimes : TimesReadBack)
    (hcanonical : Canonical tenantId call) (hinv : Inv tenantId db)
    (h : sealCase txnTs call db = .ok (result, db')) : Inv tenantId db' := by
  obtain ⟨approvedAt, caseId, row, happroved, hid, hrow, hfiled | hfresh⟩ := sealCase_ok h
  · obtain ⟨_, line, rfl⟩ := approveAgain_ok hfiled.2
    exact inv_of_log hinv _
  · obtain ⟨gathered, sealedBy, time, hsealing, _⟩ := sealFresh_ok hfresh.2
    exact sealing_inv hsealing hinv hrow hcanonical.tenant (hcanonical.case _ hid)
      (readsBack_of_sealing htimes hcanonical happroved hsealing)

omit [Interpreter] [Literals] in
/-- A transaction that raises leaves the tables as they are. -/
theorem inv_commit {α : Type} {m : SealTx α} (hinv : Inv tenantId db)
    (hm : ∀ a db', m db = .ok (a, db') → Inv tenantId db') : Inv tenantId (m.commit db) := by
  rcases Txn.commit_cases m db with heq | ⟨a, hrun⟩
  · rw [heq]
    exact hinv
  · exact hm a _ hrun

theorem step_inv {call : SealStep} (htimes : TimesReadBack)
    (hcanonical : CanonicalStep tenantId call) (hinv : Inv tenantId db) :
    Inv tenantId (step db call) := by
  cases call with
  | commitCase commit => exact inv_commit hinv fun _ _ hrun => (commitCase_ok hrun).inv hinv
  | sealCase txnTs call =>
      show Inv tenantId ((sealCase txnTs call).commit db)
      refine inv_commit hinv ?_
      intro result db' hrun
      exact inv_sealCase htimes hcanonical hinv hrun
  | contestCase caseId actor =>
      exact inv_commit hinv fun _ _ hrun => (contestCase_ok hrun).inv hinv

theorem run_inv {calls : List SealStep} (htimes : TimesReadBack)
    (hcanonical : ∀ call ∈ calls, CanonicalStep tenantId call) (hinv : Inv tenantId db) :
    Inv tenantId (run calls db) := by
  induction calls generalizing db with
  | nil => exact hinv
  | cons call calls ih =>
      refine ih (fun other hother => hcanonical other (List.mem_cons_of_mem _ hother)) ?_
      exact step_inv htimes (hcanonical call List.mem_cons_self) hinv

/-! ## The seal of one case -/

/-- The case under an id has this seal, whatever its state is by now. -/
def Sealed (tenantId text : String) (db : SealDb) (c : CaseRow) (gathered : Gathered)
    (txnTs sealedBy : String) (time : Calendar.Instant) : Prop :=
  ∃ state, { c with state } ∈ db .cases ∧ state ≠ "ANALYZED" ∧
    SealedUnder tenantId text db { c with state } gathered txnTs sealedBy time

theorem step_sealed {call : SealStep} {text : String} (hinv : Inv tenantId db)
    (h : Sealed tenantId text db c gathered txnTs sealedBy time) :
    Sealed tenantId text (step db call) c gathered txnTs sealedBy time := by
  obtain ⟨state, hc, hstate, hunder⟩ := h
  cases call with
  | commitCase commit =>
      show Sealed tenantId text ((commitCase commit).commit db) c gathered txnTs sealedBy time
      rcases Txn.commit_cases (commitCase commit) db with heq | ⟨_, hrun⟩
      · rw [heq]
        exact ⟨state, hc, hstate, hunder⟩
      · have hcommitted := commitCase_ok hrun
        refine ⟨state, ?_, hstate, hcommitted.keeps hc hunder⟩
        rw [hcommitted.cases]
        exact List.mem_append_left _ hc
  | sealCase txnTs' call =>
      show Sealed tenantId text ((sealCase txnTs' call).commit db) c gathered txnTs sealedBy time
      rcases Txn.commit_cases (sealCase txnTs' call) db with heq | ⟨result, hrun⟩
      · rw [heq]
        exact ⟨state, hc, hstate, hunder⟩
      obtain ⟨approvedAt, caseId, row, _, _, hrow, hfiled | hfresh⟩ := sealCase_ok hrun
      · obtain ⟨_, line, hlog⟩ := approveAgain_ok hfiled.2
        rw [hlog]
        refine ⟨state, ?_, hstate, sealedUnder_frame hunder ?_ ?_⟩
        · rwa [Store.modify_of_ne _ _ (by simp)]
        · unfold evidenceOf
          rw [Store.modify_of_ne _ _ (by simp)]
        · rw [Store.modify_of_ne _ _ (by simp)]
          exact hunder.approval
      · obtain ⟨gathered', sealedBy', time', hsealing, _⟩ := sealFresh_ok hfresh.2
        have hother : ({ c with state } : CaseRow).id ≠ caseId := by
          intro hid
          have hfound := caseOf_of_mem hinv.keys hc
          rw [hid, hrow] at hfound
          rw [Option.some.inj hfound] at hfresh
          exact hstate hfresh.1
        refine ⟨state, ?_, hstate, sealing_keeps hsealing hother hunder⟩
        rw [hsealing.cases]
        refine List.mem_map.mpr ⟨_, hc, if_neg ?_⟩
        simpa using hother
  | contestCase caseId actor =>
      show Sealed tenantId text ((contestCase caseId actor).commit db) c gathered txnTs sealedBy
        time
      rcases Txn.commit_cases (contestCase caseId actor) db with heq | ⟨_, hrun⟩
      · rw [heq]
        exact ⟨state, hc, hstate, hunder⟩
      · have hcontested := contestCase_ok hrun
        obtain ⟨state', heq, hopen⟩ := contested_eq caseId { c with state }
        refine ⟨state', ?_, fun hanalyzed => hstate (hopen.mp hanalyzed),
          sealedUnder_state (hcontested.keeps hunder) state'⟩
        rw [hcontested.cases]
        exact List.mem_map.mpr ⟨_, hc, heq⟩

theorem run_sealed {calls : List SealStep} {text : String} (htimes : TimesReadBack)
    (hcanonical : ∀ call ∈ calls, CanonicalStep tenantId call) (hinv : Inv tenantId db)
    (h : Sealed tenantId text db c gathered txnTs sealedBy time) :
    Sealed tenantId text (run calls db) c gathered txnTs sealedBy time := by
  induction calls generalizing db with
  | nil => exact h
  | cons call calls ih =>
      have hhead := hcanonical call List.mem_cons_self
      exact ih (fun other hother => hcanonical other (List.mem_cons_of_mem _ hother))
        (step_inv htimes hhead hinv) (step_sealed hinv h)

omit [Interpreter] [Literals] in
theorem inv_noRows : Inv tenantId noRows :=
  ⟨List.Pairwise.nil, fun _ h => absurd h List.not_mem_nil, fun _ h => absurd h List.not_mem_nil,
    fun _ h => absurd h List.not_mem_nil⟩

/-- A call that raises changes nothing. -/
theorem step_of_error {call : SealCall} {error : SealError}
    (h : sealCase txnTs call db = .error error) : step db (.sealCase txnTs call) = db := by
  show (sealCase txnTs call).commit db = db
  exact Txn.commit_of_error h

/-! ## The round trip -/

/-- The manifest that is built again of the rows of a sealed case: its ids, its approval and its
evidence as they are stored, and the id of the case as a call spells it. -/
structure Rebuilt (call : SealCall) (db : SealDb) (c : CaseRow) (manifest : Mapping) : Prop where
  built : ∃ gathered sealedBy time, c.sealedBy = some sealedBy ∧ c.sealedAtDisplay = some time ∧
    gather .empty (evidenceOf db c.id) = .ok gathered ∧
    manifest = buildManifest (sealedHead call.tenantId call.caseId c sealedBy time) gathered

/-- A fresh seal leaves the case with the seal that it answers with. -/
theorem sealed_of_sealCase {call : SealCall} {result : SealResult} (htimes : TimesReadBack)
    (hcanonical : Canonical tenantId call) (h : sealCase txnTs call db = .ok (result, db'))
    (hfresh : result.alreadySealed = false) :
    ∃ c gathered sealedBy time, c.id = call.caseId ∧
      Literals.uuid call.caseId = some call.caseId ∧ result.sealedTxnTs = txnTs ∧
      Sealed tenantId call.caseId db' c gathered txnTs sealedBy time ∧
      { result with alreadySealed := true, commitLine := none } =
        sealedAnswer tenantId call.caseId db' c gathered txnTs sealedBy time := by
  obtain ⟨approvedAt, caseId, row, happroved, hid, hrow, hagain | hsealed⟩ := sealCase_ok h
  · rw [(approveAgain_ok hagain.2).1] at hfresh
    cases hfresh
  obtain ⟨gathered, sealedBy, time, hsealing, rfl⟩ := sealFresh_ok hsealed.2
  obtain ⟨_, hrowId⟩ := mem_of_caseOf hrow
  have hcaseId : caseId = call.caseId := hcanonical.case _ hid
  have hback := readsBack_of_sealing htimes hcanonical happroved hsealing
  have hunder := hsealing.sealedUnder hrowId hback
  have hfound := (mem_of_caseOf (hsealing.caseOf_eq hrow)).1
  have hhead : headOf call row approvedAt =
      sealedHead tenantId call.caseId row sealedBy time := by
    unfold sealedHead headOf
    rw [hback.approver, hback.approved, hcanonical.tenant]
  rw [hcanonical.tenant] at hunder
  refine ⟨sealCaseRow txnTs sealedBy time
    (buildManifest (headOf call row approvedAt) gathered) row, gathered, sealedBy, time,
    hrowId.trans hcaseId, hid.trans (congrArg some hcaseId), rfl,
    ⟨"FILED", hfound, by decide, hunder⟩, ?_⟩
  have hcount : (evidenceOf db caseId).length = (evidenceOf db' row.id).length := by
    rw [hrowId, hsealing.evidenceOf_eq, List.length_map]
  rw [hhead, hcount]
  rfl

/-- After any run of commits, seals and contests: the evidence of a case is sealed just when the
case is not open any more; a call that raises changes nothing; and once a call has sealed a case,
as long as the case is filed, the manifest that is built again is the one that was sealed, and a
later call answers with the hash, the transaction and the approver of the seal and writes nothing
but its line of the log. SOURCE: platform/seal.py:93-439 -/
theorem sealed_round_trip (hlength : DigestLength) (htimes : TimesReadBack)
    {before : List SealStep} (hbefore : ∀ s ∈ before, CanonicalStep tenantId s) :
    (∀ c ∈ (run before noRows) .cases, ∀ e ∈ (run before noRows) .caseEvidence,
      e.caseId = c.id → (e.sealed = true ↔ c.state ≠ "ANALYZED")) ∧
    (∀ txnTs call error, sealCase txnTs call (run before noRows) = .error error →
      step (run before noRows) (.sealCase txnTs call) = run before noRows) ∧
    ∀ txnTs call result db', Canonical tenantId call →
      sealCase txnTs call (run before noRows) = .ok (result, db') →
      result.alreadySealed = false →
      ∀ after, (∀ s ∈ after, CanonicalStep tenantId s) →
      ∀ c, caseOf (run after db') call.caseId = some c → c.state = "FILED" →
      ∀ txnTs' again approvedAt, Canonical tenantId again → again.caseId = call.caseId →
        timestampTextOf again.sealedAtDisplay = .ok approvedAt →
        (∃ manifest, Rebuilt again (run after db') c manifest ∧
          canonicalJsonBytes (.dict manifest) =
            canonicalJsonBytes (.dict result.evidenceManifest)) ∧
        sealCase txnTs' again (run after db') =
          .ok ({ result with alreadySealed := true, commitLine := none },
            (run after db').modify .queryLog (· ++ [againLine result.sealedTxnTs again])) := by
  have hinv := run_inv htimes hbefore inv_noRows
  refine ⟨fun c hc e he hcase => hinv.sealed_iff hc he hcase,
    fun txnTs call error herror => step_of_error herror, ?_⟩
  intro txnTs call result db' hcall hrun hfresh after hafter c hc hfiled txnTs' again approvedAt
    hagain hsame htime
  obtain ⟨c₀, gathered, sealedBy, time, hid, hread, htxn, hsealed, hanswer⟩ :=
    sealed_of_sealCase htimes hcall hrun hfresh
  have hinv' := inv_sealCase htimes hcall hinv hrun
  obtain ⟨_, _, _, hunder₀⟩ := id hsealed
  obtain ⟨state, hmem, _, hunder⟩ := run_sealed htimes hafter hinv' hsealed
  have hinv'' := run_inv htimes hafter hinv'
  -- the case that is found is the one that was sealed, in the state it has by now
  obtain ⟨hfound, hfoundId⟩ := mem_of_caseOf hc
  obtain rfl : c = { c₀ with state } :=
    eq_of_key hinv''.keys hfound hmem (hfoundId.trans hid.symm)
  have hgathered := hunder.gathers
  have hrow := hunder.row
  unfold sealCaseRow at hrow
  simp only [CaseRow.mk.injEq, true_and] at hrow
  obtain ⟨_, _, _, hsealedBy, hdisplay, _⟩ := hrow
  have hmanifest : result.evidenceManifest =
      buildManifest (sealedHead tenantId call.caseId c₀ sealedBy time) gathered :=
    congrArg SealResult.evidenceManifest hanswer
  refine ⟨⟨_, ⟨gathered, sealedBy, time, hsealedBy.symm, hdisplay.symm, hgathered, rfl⟩, ?_⟩, ?_⟩
  · rw [hmanifest, hagain.tenant, hsame]
    rfl
  · have hcaseId : Literals.uuid again.caseId = some ({ c₀ with state } : CaseRow).id := by
      rw [hsame, hread]
      exact congrArg some hid.symm
    have hcount : (evidenceOf (run after db') c₀.id).length = (evidenceOf db' c₀.id).length :=
      Nat.add_left_cancel
        ((length_gather hunder.gathers).symm.trans (length_gather hunder₀.gathers))
    rw [← hagain.tenant] at hunder
    have hcall := SealedUnder.sealCase_eq hlength txnTs' again hunder hfiled hcaseId
      (caseOf_of_mem hinv''.keys hmem) htime
    rw [if_pos hsame, hagain.tenant] at hcall
    rw [hcall, hanswer, htxn]
    unfold sealedAnswer
    rw [← hcount]
    rfl

end Runs

/-! ## A case under its id -/

section Case

/-- The id of the case as the database gives it back. -/
def lowerId : String := "6ba7b810-9dad-41d1-80b4-00c04fd430c8"

def upperId : String := "6BA7B810-9DAD-41D1-80B4-00C04FD430C8"

def sealTime : Option Calendar.AwareDatetime :=
  (Calendar.AwareDatetime.fromisoformat "2026-06-22T08:00:00+00:00").bind id

/-- The database reads two spellings as one id and the other ids as they are. -/
@[reducible] def sealLiterals : Literals where
  uuid text := some (if text = upperId then lowerId else text)
  timestamp text :=
    if text = "2026-06-22T08:00:00Z" then sealTime.map Calendar.AwareDatetime.instant else none

/-- No column of the case holds a text. -/
@[reducible] def noTexts : JsonDecoder where
  loads _ := .error .jsonDecodeError

local instance runInterpreter : Interpreter := Claims.asciiInterpreter
local instance runSha : Sha256 := .standard
local instance runDecoder : JsonDecoder := noTexts
local instance runLiterals : Literals := sealLiterals

/-- The call that approves the case under a text of its id. -/
def approval (caseId : String) : SealCall where
  tenantId := "00000000-0000-4000-8000-000000000001"
  actor := "reviewer"
  caseId
  sealedByUserId := "00000000-0000-4000-8000-000000000002"
  sealedAtDisplay := "2026-06-22T08:00:00Z"

/-- A case with one piece of evidence. -/
def caseCommit : CaseCommit where
  caseId := lowerId
  invoiceId := "00000000-0000-4000-8000-000000000003"
  findingId := "00000000-0000-4000-8000-000000000004"
  carrierId := "00000000-0000-4000-8000-000000000005"
  evidence :=
    [{ id := "00000000-0000-4000-8000-000000000006"
       kind := "tariff_invoice_receipt"
       sourceTable := "tariff_clauses"
       sourceId := "00000000-0000-4000-8000-000000000007"
       content := .dict [("recommendation", .str "DISPUTE")]
       contentSha256 := contentHash [("recommendation", .str "DISPUTE")] }]
  actor := "clerk"

/-- The tables with the open case. -/
def openDb : SealDb := run [.commitCase caseCommit] noRows

theorem approval_time (caseId : String) :
    timestampTextOf (approval caseId).sealedAtDisplay = .ok "2026-06-22T08:00:00Z" := by
  show timestampTextOf "2026-06-22T08:00:00Z" = _
  decide +kernel

theorem timesReadBack : TimesReadBack := by
  intro text approvedAt time _ htime
  have htext : (sealTime.map Calendar.AwareDatetime.instant).map timestampText =
      some "2026-06-22T08:00:00Z" := by
    decide +kernel
  change (if approvedAt = "2026-06-22T08:00:00Z" then
    sealTime.map Calendar.AwareDatetime.instant else none) = some time at htime
  split at htime
  · rename_i happroved
    rw [htime] at htext
    rw [happroved]
    exact Option.some.inj htext
  · cases htime

theorem approval_canonical :
    Canonical "00000000-0000-4000-8000-000000000001" (approval lowerId) := by
  refine ⟨rfl, ?_, ?_⟩
  · intro id hid
    exact (Option.some.inj hid).symm
  · intro id hid
    exact (Option.some.inj hid).symm

/-- A seal that is fresh and leaves the case filed. -/
def sealsFresh : Except SealError (SealResult × SealDb) → Bool
  | .ok (result, db) =>
    !result.alreadySealed && (caseOf db lowerId).map CaseRow.state = some "FILED"
  | .error _ => false

theorem openDb_seals : ∃ result db' c, sealCase "1" (approval lowerId) openDb = .ok (result, db') ∧
    result.alreadySealed = false ∧ caseOf db' lowerId = some c ∧ c.state = "FILED" := by
  have hseals : sealsFresh (sealCase "1" (approval lowerId) openDb) = true := by
    decide +kernel
  cases hrun : sealCase "1" (approval lowerId) openDb with
  | error error =>
      rw [hrun] at hseals
      cases hseals
  | ok sealed =>
      obtain ⟨result, db'⟩ := sealed
      rw [hrun] at hseals
      obtain ⟨hfresh, hfiled⟩ := Bool.and_eq_true_iff.mp hseals
      obtain ⟨c, hc, hstate⟩ := Option.map_eq_some_iff.mp (of_decide_eq_true hfiled)
      exact ⟨result, db', c, rfl, by simpa using hfresh, hc, hstate⟩

/-- The case is sealed, and a second call answers with the same seal. -/
theorem sealed_round_trip_case : ∃ result db',
    sealCase "1" (approval lowerId) openDb = .ok (result, db') ∧
      sealCase "2" (approval lowerId) db' =
        .ok ({ result with alreadySealed := true, commitLine := none },
          db'.modify .queryLog (· ++ [againLine result.sealedTxnTs (approval lowerId)])) := by
  obtain ⟨result, db', c, hrun, hfresh, hc, hfiled⟩ := openDb_seals
  have hbefore : ∀ s ∈ [SealStep.commitCase caseCommit],
      CanonicalStep "00000000-0000-4000-8000-000000000001" s := by
    intro s hs
    rw [List.mem_singleton.mp hs]
    trivial
  have htrip := (sealed_round_trip length_standardDigest timesReadBack hbefore).2.2
  exact ⟨result, db', hrun, (htrip "1" _ result db' approval_canonical hrun hfresh []
    (fun _ hs => absurd hs List.not_mem_nil) c hc hfiled "2" _ _ approval_canonical rfl
    (approval_time lowerId)).2⟩

end Case

end Tally.Analysis.SealRuns
