import Tally.Analysis.Approvals
import Tally.Analysis.ClaimSets
import Tally.Analysis.Freshness
import Tally.Analysis.Ingestions
import Tally.Analysis.Projections

/-!
# Seals that are read back

The digest of a seal is that of a manifest which is stored nowhere: it is built of the rows of the
decision, its rule, its days, its invoice and its source. No call changes what a sealed decision
was built of, and no query behind a manifest has two rows to choose from, so the manifest that is
built of the tables at any later time has the digest of the seal.
-/

set_option autoImplicit false

namespace Tally.Analysis.SealReadback
open Library Library.Calendar Tally.Model IntakeRepository JudgmentRepository
  ReconstructionRepository ApplicableRuleRepository AuthoritySealRepository Effects Pipeline
  Approvals ClaimSets Freshness
open Library.Schema (SameExcept Appends appends_of_same appends_refl appends_trans appends_insert)

/-! ## Rows that are only appended -/

/-- A row that is found stays the one that is found. -/
theorem find?_append_of_mem {α : Type} {rows rows' new : List α} {p : α → Bool} {a : α}
    (h : rows' = rows ++ new) (ha : a ∈ rows) (hp : p a = true) :
    rows'.find? p = rows.find? p := by
  have hsome : (rows.find? p).isSome := List.find?_isSome.mpr ⟨a, ha, hp⟩
  obtain ⟨b, hb⟩ := Option.isSome_iff_exists.mp hsome
  rw [h, List.find?_append, hb, Option.some_or]

/-- A query with one row at most has no choice. -/
theorem fetchOne_of_length {α : Type} {rows : List α} (h : rows.length ≤ 1) (env env' : TxnEnv) :
    fetchOne env rows = fetchOne env' rows := by
  cases rows with
  | nil => rfl
  | cons a rest =>
      have hrest : rest = [] := List.length_eq_zero_iff.mp (by simpa using h)
      subst hrest
      rw [Projections.fetchOne_singleton, Projections.fetchOne_singleton]

section Steps

variable [Sha256] [TzDatabase] [CharacterTables] {w w' : World} {env : TxnEnv} {c : Call}

/-- Only a completed reconstruction adds one. -/
theorem reconstructions_step (hstep : Transition w env c w') :
    ∃ new, w'.db .reconstructions = w.db .reconstructions ++ new := by
  cases c with
  | completeReconstruction lease rows =>
      cases hstep with
      | refused => exact ⟨[], (List.append_nil _).symm⟩
      | peripheral _ db hsame =>
          exact ⟨[], (hsame _ (by decide)).trans (List.append_nil _).symm⟩
      | completedReconstruction _ _ work r db hlease hwork hok =>
          obtain ⟨_, t, new, _, ⟨_, hsame⟩ | ⟨row, hrow⟩⟩ := completeReconstruction_ok hok
          · exact ⟨[], (hsame _ (by decide)).trans (List.append_nil _).symm⟩
          · exact ⟨[row], hrow.rows⟩
  | _ => exact ⟨[], (table_frame hstep rfl).trans (List.append_nil _).symm⟩

/-- Only a completed search adds a rule. -/
theorem rules_appended (hstep : Transition w env c w') :
    ∃ new, w'.db .applicableRules = w.db .applicableRules ++ new := by
  rcases rules_step hstep with ⟨hsame, _⟩ | ⟨lease, hdecides⟩
  · exact ⟨[], hsame.trans (List.append_nil _).symm⟩
  · rcases hdecides.rules with hsame | ⟨rule, _, _, _, _, hrows⟩
    · exact ⟨[], hsame.trans (List.append_nil _).symm⟩
    · exact ⟨[rule], hrows⟩

omit [Sha256] [TzDatabase] [CharacterTables] in
/-- The judgments a recommendation is inserted with are its own. -/
theorem insertJudgments_appends (k : Nat) (lease : JudgmentTaskLease) (recommendationId : Uuid)
    (judgments : List DayJudgment) :
    Txn.Keeps (Appends .chargedDayJudgments fun j => j.recommendationId = recommendationId)
      (insertJudgments env k lease recommendationId judgments) := by
  unfold insertJudgments
  refine Txn.keeps_forEach appends_refl appends_trans 0 judgments fun _ _ _ => ?_
  refine Txn.keeps_bind appends_trans (Txn.keeps_read appends_refl _) fun days => ?_
  exact Txn.keeps_forEach appends_refl appends_trans 0 days fun _ _ _ => appends_insert rfl

omit [TzDatabase] [CharacterTables] in
/-- A completed judgment appends judgments of the recommendation it makes. -/
theorem completeJudgment_appends (lease : JudgmentTaskLease) (days : List DayInput) :
    Txn.Keeps (Appends .chargedDayJudgments fun j => j.recommendationId = env.uuid 0)
      (completeJudgment env lease days) := by
  have hquiet {α : Type} {m : Tx α} {tables : List Table}
      (h : ∀ db a db', m db = .ok (a, db') → SameExcept tables db db')
      (ht : Table.chargedDayJudgments ∉ tables) :
      Txn.Keeps (Appends .chargedDayJudgments fun j => j.recommendationId = env.uuid 0) m :=
    fun db a db' hm => appends_of_same (h db a db' hm _ ht)
  have hread {α : Type} (f : Db → α) : Txn.Keeps
      (Appends .chargedDayJudgments fun j => j.recommendationId = env.uuid 0) (Txn.read f : Tx α) :=
    Txn.keeps_read appends_refl f
  have hfinish : Txn.Keeps (Appends .chargedDayJudgments fun j => j.recommendationId = env.uuid 0)
      (finishTask lease.toLeaseKey) :=
    hquiet (fun _ _ _ hm => (closeTask_ok hm).2.2) (by decide)
  have hassert : Txn.Keeps (Appends .chargedDayJudgments fun j => j.recommendationId = env.uuid 0)
      (assertCurrentLease lease.toLeaseKey) := by
    intro db a db' hm
    obtain ⟨rfl, _⟩ := assertCurrentLease_ok.mp hm
    exact appends_refl _
  have hrecommend (row : RecommendationRow) : Txn.Keeps
      (Appends .chargedDayJudgments fun j => j.recommendationId = env.uuid 0)
      (insertRecommendation row) := by
    unfold insertRecommendation
    have hother : Table.chargedDayJudgments ∉ [Table.recommendations] := by decide
    exact Schema.Writes.appends (Schema.writes_insertOrIgnore List.mem_cons_self) hother
  have hhold (rec : Recommendation) : Txn.Keeps
      (Appends .chargedDayJudgments fun j => j.recommendationId = env.uuid 0)
      (holdAccessBinding env 3 lease rec) := by
    intro db a db' hm
    rcases holdAccessBinding_ok hm with rfl | ⟨_, _, _, hemit⟩
    · exact appends_refl _
    · exact appends_of_same ((emitTask_ok hemit).2 _ (by decide))
  unfold completeJudgment
  cases resolveRecommendation days with
  | error e => exact Txn.keeps_raise _
  | ok rec =>
      refine Txn.keeps_bind appends_trans hassert fun _ => ?_
      refine Txn.keeps_bind appends_trans (hread _) fun existing => ?_
      cases existing with
      | some r =>
          refine Txn.keeps_bind appends_trans hfinish fun _ => ?_
          exact Txn.keeps_pure appends_refl _
      | none =>
          refine Txn.keeps_bind appends_trans (hread _) fun versions => ?_
          refine Txn.keeps_bind appends_trans (hread _) fun rule => ?_
          refine Txn.keeps_bind appends_trans (hrecommend _) fun _ => ?_
          refine Txn.keeps_bind appends_trans (insertJudgments_appends _ _ _ _) fun _ => ?_
          refine Txn.keeps_bind appends_trans hfinish fun _ => ?_
          refine Txn.keeps_bind appends_trans
            (hquiet (fun _ _ _ hm => (lockInvoiceAndAdvance_ok hm).2.2) (by decide)) fun _ => ?_
          refine Txn.keeps_bind appends_trans
            (hquiet (fun _ _ _ hm => (insertEventRow_ok hm).2.2.2) (by decide)) fun _ => ?_
          exact Txn.keeps_bind appends_trans (hhold rec) fun _ => Txn.keeps_pure appends_refl _

/-- The judgments of a recommendation that is there stay. -/
theorem judgmentsOf_step {r : RecommendationRow} (hr : r ∈ w.db .recommendations)
    (hstep : Transition w env c w') : judgmentsOf w'.db r.id = judgmentsOf w.db r.id := by
  have hsame {db : Db} (h : db .chargedDayJudgments = w.db .chargedDayJudgments) :
      judgmentsOf db r.id = judgmentsOf w.db r.id := by
    unfold judgmentsOf
    rw [h]
  cases c with
  | completeJudgment lease days =>
      cases hstep with
      | refused => rfl
      | peripheral _ db h => exact hsame (h _ (by decide))
      | completedJudgment _ _ result db hlease hdays hok =>
          obtain ⟨_, t, new, _, ⟨_, h, _⟩ | ⟨rec, row, hjudges⟩⟩ := completeJudgment_ok hok
          · exact hsame (h _ (by decide))
          · obtain ⟨rows, hrows, hown⟩ := completeJudgment_appends lease days _ _ _ hok
            have hother : rows.filter (fun j => j.recommendationId = r.id) = [] := by
              rw [List.filter_eq_nil_iff]
              intro j hj
              have hne : r.id ≠ env.uuid 0 := by
                have hfresh := hjudges.fresh r hr
                rwa [hjudges.made] at hfresh
              simpa [hown j hj] using hne.symm
            show judgmentsOf db r.id = judgmentsOf w.db r.id
            unfold judgmentsOf
            rw [hrows, List.filter_append, hother, List.append_nil]
  | _ => exact hsame (table_frame hstep rfl)

/-- Only a receipt adds a source, of the invoice it adds. -/
theorem sources_step (hstep : Transition w env c w') :
    w'.db .invoiceSources = w.db .invoiceSources ∨
      ∃ s, (∀ i ∈ w.db .invoices, i.id ≠ s.invoiceId) ∧
        (∀ s' ∈ w.db .invoiceSources, s'.invoiceId ≠ s.invoiceId) ∧
        w'.db .invoiceSources = w.db .invoiceSources ++ [s] := by
  cases c with
  | finalizeReceivedInvoice command =>
      cases hstep with
      | refused => exact Or.inl rfl
      | peripheral _ db hsame => exact Or.inl (hsame _ (by decide))
      | finalized _ r db hok =>
          unfold finalizeReceivedInvoice at hok
          rw [Txn.bind_ok] at hok
          obtain ⟨row, db₁, hload, hok⟩ := hok
          obtain ⟨rfl, _⟩ := loadRequest_ok hload
          rcases completedOr_ok hok with rfl | hok
          · exact Or.inl rfl
          · rcases Txn.ite_ok.mp hok with ⟨_, hok⟩ | ⟨_, hok⟩
            · exact (Txn.raise_ok.mp hok).elim
            rcases Txn.ite_ok.mp hok with ⟨_, hok⟩ | ⟨_, hok⟩
            · exact (Txn.raise_ok.mp hok).elim
            rw [Txn.bind_ok] at hok
            obtain ⟨_, db₂, hreceipt, hok⟩ := hok
            rw [Txn.bind_ok] at hok
            obtain ⟨_, db₃, hupdate, hok⟩ := hok
            obtain ⟨_, rfl⟩ := Txn.pure_ok.mp hok
            have hinserts := Ingestions.insertReceipt_inserts hreceipt
            have hupdated : SameExcept [.ingestionRequests] db₂ db₃ :=
              Schema.writes_update (by simp) _ _ _ hupdate
            refine Or.inr ⟨⟨row.reservedSourceId, row.reservedInvoiceId, command.storedSource,
              "VERSION_VERIFIED"⟩, hinserts.new, hinserts.unsourced, ?_⟩
            exact (hupdated _ (by decide)).trans hinserts.sources
  | _ => exact Or.inl (table_frame hstep rfl)

end Steps

/-! ## What a manifest is built of -/

/-- The sources of an invoice. -/
def sourcesOf (db : Db) (invoiceId : Uuid) : List InvoiceSource :=
  (db .invoiceSources).filter fun s => s.invoiceId = invoiceId

/-- What the rows of a recommendation refer to is there. -/
structure Grounded (db : Db) : Prop where
  invoices : ∀ r ∈ db .recommendations, ∃ i ∈ db .invoices, i.id = r.invoiceId
  reconstructions : ∀ r ∈ db .recommendations, ∃ row ∈ db .reconstructions,
    row.id = r.reconstructionId
  rules : ∀ r ∈ db .recommendations, ∀ id ∈ r.applicableRuleId, ∃ rule ∈ db .applicableRules,
    rule.id = id
  sources : (db .invoiceSources).Pairwise fun a b => a.invoiceId ≠ b.invoiceId

/-- Two databases from which one manifest is built of a recommendation. -/
structure SameManifest [Sha256] (r : RecommendationRow) (db db' : Db) : Prop where
  claims : ∀ env env', (invoiceBindings env' db' r.invoiceId).1 =
    (invoiceBindings env db r.invoiceId).1
  sources : sourcesOf db' r.invoiceId = sourcesOf db r.invoiceId
  version : reconstructionVersion db' r.reconstructionId =
    reconstructionVersion db r.reconstructionId
  rule : r.applicableRuleId.bind (ruleDigest db') = r.applicableRuleId.bind (ruleDigest db)
  days : dayJudgmentDigests db' r.id = dayJudgmentDigests db r.id

theorem Grounded.sourcesOf_length {db : Db} (h : Grounded db) (invoiceId : Uuid) :
    (sourcesOf db invoiceId).length ≤ 1 := by
  have hpair : (sourcesOf db invoiceId).Pairwise fun _ _ => False := by
    refine (h.sources.filter _).imp_of_mem fun {a b} ha hb hne => hne ?_
    exact (of_decide_eq_true (List.mem_filter.mp ha).2).trans
      (of_decide_eq_true (List.mem_filter.mp hb).2).symm
  cases hrows : sourcesOf db invoiceId with
  | nil => exact Nat.zero_le 1
  | cons a rest =>
      rw [hrows] at hpair
      cases rest with
      | nil => exact Nat.le_refl 1
      | cons b rest => exact ((List.pairwise_cons.mp hpair).1 b List.mem_cons_self).elim

/-- The rows of one manifest give one list of inputs, for one approver. -/
theorem SameManifest.sealInputs_eq [Sha256] {r : RecommendationRow} {db db' : Db}
    (h : SameManifest r db db') (hground : Grounded db) {env env' : TxnEnv}
    {request request' : ApprovalRequest}
    (hdisplay : request'.approverDisplay = request.approverDisplay)
    (hkind : request'.approverKind = request.approverKind) :
    sealInputs env' db' r request' = sealInputs env db r request := by
  have hsource : fetchOne env' (sourcesOf db' r.invoiceId) =
      fetchOne env (sourcesOf db r.invoiceId) := by
    rw [h.sources]
    exact fetchOne_of_length (hground.sourcesOf_length _) env' env
  have hbindings : invoiceBindings env' db' r.invoiceId = invoiceBindings env db r.invoiceId := by
    refine Prod.ext (h.claims env env') ?_
    show (match fetchOne env' (sourcesOf db' r.invoiceId) with
      | some s => s.source.objectKeyPrivate ++ "@" ++ s.source.versionIdPrivate
      | none => "unbound-source:" ++ uuidText r.invoiceId) = _
    rw [hsource]
    rfl
  unfold sealInputs
  rw [hbindings, h.version, h.rule, h.days, hdisplay, hkind]

/-! ## In every run -/

section Runs

variable [Sha256] [TzDatabase] [CharacterTables] {allowed : World → TxnEnv → Call → Prop}
  {w w' : World} {env : TxnEnv} {c : Call}

/-- The rules recommendations name, and the sources, are kept by every call. -/
theorem rules_named (h : ∀ r ∈ w.db .recommendations, ∀ id ∈ r.applicableRuleId,
      ∃ rule ∈ w.db .applicableRules, rule.id = id) (hstep : Transition w env c w') :
    ∀ r ∈ w'.db .recommendations, ∀ id ∈ r.applicableRuleId,
      ∃ rule ∈ w'.db .applicableRules, rule.id = id := by
  have hkept := rules_kept hstep
  intro r hr id hid
  have hold (hold : r ∈ w.db .recommendations) : ∃ rule ∈ w'.db .applicableRules, rule.id = id := by
    obtain ⟨rule, hrule, heq⟩ := h r hold id hid
    exact ⟨rule, hkept rule hrule, heq⟩
  rcases recommendations_step hstep with hsame | ⟨lease, _, _, _, row, _, _, _, _, _, hjudges⟩
  · rw [hsame] at hr
    exact hold hr
  · rw [hjudges.rows] at hr
    rcases List.mem_append.mp hr with hr | hr
    · exact hold hr
    · rw [List.mem_singleton.mp hr, hjudges.made] at hid
      obtain ⟨rule, hfind, rfl⟩ := Option.map_eq_some_iff.mp
        (show verifiedRuleOf w.db lease.reconstructionId = some id from hid)
      exact ⟨rule, hkept rule (List.mem_of_find?_eq_some hfind), rfl⟩

theorem grounded_of_run (h : Run allowed w) : Grounded w.db := by
  have hrules : ∀ r ∈ w.db .recommendations, ∀ id ∈ r.applicableRuleId,
      ∃ rule ∈ w.db .applicableRules, rule.id = id :=
    h.invariant (fun w => ∀ r ∈ w.db .recommendations, ∀ id ∈ r.applicableRuleId,
      ∃ rule ∈ w.db .applicableRules, rule.id = id) (fun _ hr => absurd hr List.not_mem_nil)
      fun _ _ _ _ hinv _ hstep => rules_named hinv hstep
  have hsources : (w.db .invoiceSources).Pairwise fun a b => a.invoiceId ≠ b.invoiceId := by
    refine h.invariant (fun w => (w.db .invoiceSources).Pairwise fun a b =>
      a.invoiceId ≠ b.invoiceId) List.Pairwise.nil fun w env c w' hinv _ hstep => ?_
    rcases sources_step hstep with hsame | ⟨s, _, hfresh, hrows⟩
    · rw [hsame]
      exact hinv
    · rw [hrows, List.pairwise_append]
      refine ⟨hinv, List.pairwise_singleton _ _, fun a ha b hb => ?_⟩
      rw [List.mem_singleton.mp hb]
      exact hfresh a ha
  refine ⟨fun r hr => ?_, fun r hr => ?_, hrules, hsources⟩
  · obtain ⟨t, ht, hinvoice, _⟩ := recommended_past h hr
    obtain ⟨i, hi, hid⟩ := (healthy_of_run h).2.invoices t ht
    exact ⟨i, hi, hid.trans hinvoice⟩
  · obtain ⟨row, hrow, hid, _⟩ := (healthy_of_run h).1.recommendations.reconstructed r hr
    exact ⟨row, hrow, hid⟩

/-- A call changes nothing that the manifest of a recommendation is built of. -/
theorem sameManifest_step (hrun : Run allowed w) (hc : allowed w env c)
    (hstep : Transition w env c (w.step env c)) {r : RecommendationRow}
    (hr : r ∈ w.db .recommendations) : SameManifest r w.db (w.step env c).db := by
  have hground := grounded_of_run hrun
  have hnamed := (bound_of_run hrun).named
  have hnamed' := (bound_of_run (hrun.step env c hc)).named
  refine ⟨fun env₁ env₂ => ?_, ?_, ?_, ?_, ?_⟩
  · rw [bindings_first hnamed, bindings_first hnamed']
  · rcases sources_step hstep with hsame | ⟨s, hnew, _, hrows⟩
    · unfold sourcesOf
      rw [hsame]
    · obtain ⟨i, hi, hid⟩ := hground.invoices r hr
      have hne : s.invoiceId ≠ r.invoiceId := fun heq => hnew i hi (hid.trans heq.symm)
      unfold sourcesOf
      rw [hrows, List.filter_append, List.filter_singleton, decide_eq_false hne, cond_false,
        List.append_nil]
  · obtain ⟨new, hrows⟩ := reconstructions_step hstep
    obtain ⟨row, hrow, hid⟩ := hground.reconstructions r hr
    unfold reconstructionVersion
    rw [find?_append_of_mem hrows hrow (by simpa using hid)]
  · cases hrule : r.applicableRuleId with
    | none => rfl
    | some id =>
        obtain ⟨new, hrows⟩ := rules_appended hstep
        obtain ⟨rule, hmem, hid⟩ := hground.rules r hr id hrule
        show ruleDigest _ id = ruleDigest _ id
        unfold ruleDigest
        rw [find?_append_of_mem hrows hmem (by simpa using hid)]
  · unfold dayJudgmentDigests
    rw [judgmentsOf_step hr hstep]

/-- A seal has the digest of the manifest built of the tables, for the approver it was given. -/
structure ReadsBack (db : Db) (s : DecisionSeal) (r : RecommendationRow) (a : Approval) : Prop where
  recommendation : r ∈ db .recommendations ∧ r.id = s.recommendationId
  approval : a ∈ db .approvals ∧ SealedBy a s
  digest : ∀ env request, request.approverDisplay = a.approverDisplay →
    request.approverKind = a.approverKind →
      sealDigest (buildSealManifest (sealInputs env db r request) s.revision) = s.sealDigest

theorem approvals_kept (hstep : Transition w env c w') :
    ∀ a ∈ w.db .approvals, a ∈ w'.db .approvals := by
  intro a ha
  rcases seals_step hstep with ⟨hsame, _⟩ | ⟨_, _, _, _, hfresh⟩
  · rwa [hsame]
  · rw [hfresh.seals.approvals]
    exact List.mem_append_left _ ha

/-- A seal that reads back reads back after every call. -/
theorem ReadsBack.step {s : DecisionSeal} {r : RecommendationRow} {a : Approval}
    (h : ReadsBack w.db s r a) (hrun : Run allowed w) (hc : allowed w env c) :
    ReadsBack (w.step env c).db s r a := by
  have hstep := step_transition w env c
  have hsame := sameManifest_step hrun hc hstep h.recommendation.1
  refine ⟨⟨recommendations_kept hstep r h.recommendation.1, h.recommendation.2⟩,
    ⟨approvals_kept hstep a h.approval.1, h.approval.2⟩, fun env' request hdisplay hkind => ?_⟩
  have hinputs : sealInputs env' (w.step env c).db r request = sealInputs env' w.db r request :=
    hsame.sealInputs_eq (grounded_of_run hrun) rfl rfl
  rw [hinputs]
  exact h.digest env' request hdisplay hkind

/-- A fresh seal reads back. -/
theorem readsBack_fresh (hrun : Run allowed w) (hc : allowed w env c) {request : ApprovalRequest}
    {r : RecommendationRow} {a : Approval}
    (hfresh : SealsFresh env request r a w.db (w.step env c).db) :
    ∃ s, (w.step env c).db .decisionSeals = w.db .decisionSeals ++ [s] ∧
      ReadsBack (w.step env c).db s r a := by
  have hstep := step_transition w env c
  have hmem := hfresh.mem.1
  have hrows := ((paired_of_run hrun).inserted hfresh.seals).1
  have hmade := hfresh.seals.made
  have hsame := sameManifest_step hrun hc hstep hmem
  refine ⟨_, hrows, ⟨recommendations_kept hstep r hmem, rfl⟩, ⟨?_, ?_⟩,
    fun env' request' hdisplay hkind => ?_⟩
  · rw [hfresh.seals.approvals]
    exact List.mem_append_right _ List.mem_cons_self
  · refine ⟨rfl, rfl, rfl, ?_, rfl⟩
    rw [hmade]
    rfl
  · rw [hmade] at hdisplay hkind
    have hinputs : sealInputs env' (w.step env c).db r request' = sealInputs env w.db r request :=
      hsame.sealInputs_eq (grounded_of_run hrun) hdisplay hkind
    rw [hinputs, hmade]
    rfl

theorem readsBack_of_run (h : Run allowed w) :
    ∀ s ∈ w.db .decisionSeals, ∃ r a, ReadsBack w.db s r a := by
  induction h with
  | start => exact fun _ hs => absurd hs List.not_mem_nil
  | step env c hrun hc ih =>
      intro s hs
      rcases seals_step (step_transition _ env c) with ⟨_, hsame⟩ | ⟨request, r, a, _, hfresh⟩
      · rw [hsame] at hs
        obtain ⟨r, a, hreads⟩ := ih s hs
        exact ⟨r, a, hreads.step hrun hc⟩
      · obtain ⟨new, hrows, hreads⟩ := readsBack_fresh hrun hc hfresh
        rw [hrows] at hs
        rcases List.mem_append.mp hs with hold | hadded
        · obtain ⟨r, a, hreads⟩ := ih s hold
          exact ⟨r, a, hreads.step hrun hc⟩
        · rw [List.mem_singleton.mp hadded]
          exact ⟨r, a, hreads⟩

end Runs

end Tally.Analysis.SealReadback
