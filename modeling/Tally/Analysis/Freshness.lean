import Tally.Analysis.Approvals
import Tally.Analysis.DayOutcomes
import Tally.Analysis.Deliveries
import Tally.Analysis.Staleness

/-!
# Fresh sends

The send route picks the last draft of an invoice and the gates read the invoice, neither
looks at the seal. A decision that is not withheld is the last thing its invoice is given,
so there the three name the same decision: nothing was reconstructed, judged or sealed
after it. A withheld decision can be sealed and drafted too, and the case that resumes
after it passes the gates in its place.
-/

set_option autoImplicit false

namespace Tally.Analysis.Freshness
open Library Library.Calendar Tally.Model ReconstructionRepository ApplicableRuleRepository
  JudgmentRepository AuthoritySealRepository CorrespondenceRepository Effects Pipeline Gates
  Deliveries Staleness
open Library.Schema (SameExcept)

/-! ## Rules and rates -/

/-- A reconstruction has a rule. -/
def HasRule (db : Db) (reconstructionId : Uuid) : Prop :=
  ∃ rule ∈ db .applicableRules, rule.reconstructionId = reconstructionId

/-- A decision names the rule of its reconstruction. -/
def Ruled (db : Db) (r : RecommendationRow) : Prop :=
  ∃ rule ∈ db .applicableRules, r.applicableRuleId = some rule.id ∧
    rule.reconstructionId = r.reconstructionId

/-- A reconstruction has one rule at most, a verified one, and nothing has a rate without it. -/
structure Rated (w : World) : Prop where
  rules : (w.db .applicableRules).Pairwise fun a b => a.reconstructionId ≠ b.reconstructionId
  verified : ∀ rule ∈ w.db .applicableRules, rule.validationState = "VERIFIED"
  days : ∀ d ∈ w.db .chargedDays, d.applicableRateMinor ≠ none → HasRule w.db d.reconstructionId
  inputs : ∀ p ∈ w.dayInputs, ∀ d ∈ p.2, d.applicableRateMinor ≠ none →
    HasRule w.db p.1.reconstructionId
  decisions : ∀ r ∈ w.db .recommendations, r.recommendationType ≠ .requestEvidence → Ruled w.db r

theorem rated_initial : Rated World.initial :=
  ⟨.nil, fun _ h => absurd h List.not_mem_nil, fun _ h => absurd h List.not_mem_nil,
    fun _ h => absurd h List.not_mem_nil, fun _ h => absurd h List.not_mem_nil⟩

theorem HasRule.kept {db db' : Db} {reconstructionId : Uuid} (h : HasRule db reconstructionId)
    (hkept : ∀ rule ∈ db .applicableRules, rule ∈ db' .applicableRules) :
    HasRule db' reconstructionId := by
  obtain ⟨rule, hrule, hid⟩ := h
  exact ⟨rule, hkept rule hrule, hid⟩

theorem Ruled.kept {db db' : Db} {r : RecommendationRow} (h : Ruled db r)
    (hkept : ∀ rule ∈ db .applicableRules, rule ∈ db' .applicableRules) : Ruled db' r := by
  obtain ⟨rule, hrule, hid⟩ := h
  exact ⟨rule, hkept rule hrule, hid⟩

/-- The judgment finds the rule of a reconstruction that has one. -/
theorem verifiedRuleOf_some {db : Db} {reconstructionId : Uuid}
    (hverified : ∀ rule ∈ db .applicableRules, rule.validationState = "VERIFIED")
    (h : HasRule db reconstructionId) : ∃ rule ∈ db .applicableRules,
      verifiedRuleOf db reconstructionId = some rule.id ∧
        rule.reconstructionId = reconstructionId := by
  obtain ⟨rule, hrule, hid⟩ := h
  have hsome : ((db .applicableRules).find? fun r =>
      r.reconstructionId = reconstructionId ∧ r.validationState = "VERIFIED").isSome := by
    rw [List.find?_isSome]
    exact ⟨rule, hrule, by simp [hid, hverified rule hrule]⟩
  obtain ⟨found, hfound⟩ := Option.isSome_iff_exists.mp hsome
  have hmatches := List.find?_some hfound
  simp only [decide_eq_true_eq] at hmatches
  refine ⟨found, List.mem_of_find?_eq_some hfound, ?_, hmatches.1⟩
  unfold verifiedRuleOf
  rw [hfound]
  rfl

/-- A decision that is not withheld has a day with a rate. -/
theorem rate_of_decision [Sha256] {days : List DayInput} {rec : Recommendation}
    (h : resolveRecommendation days = .ok rec) (hdecides : rec.recommendationType ≠ .requestEvidence) :
    ∃ d ∈ days, d.applicableRateMinor ≠ none := by
  have hwithheld := mt (DayOutcomes.requestEvidence_iff h).2.mpr hdecides
  rw [not_or] at hwithheld
  obtain ⟨hsufficient, hcounted⟩ := hwithheld
  obtain ⟨d, hd, hcounts⟩ : ∃ d ∈ days, (judgeDay d).outcome ≠ .excludedNotChargeable := by
    by_contra hnone
    exact hcounted fun d hd => by_contra fun hne => hnone ⟨d, hd, hne⟩
  refine ⟨d, hd, fun hrate => hsufficient ⟨d, hd, ?_⟩⟩
  unfold judgeDay at hcounts ⊢
  rw [hrate]
  cases hchargeable : d.chargeable with
  | false =>
      rw [hchargeable] at hcounts
      exact absurd rfl hcounts
  | true => cases d.coverageState <;> rfl

section Steps

variable [Sha256] [TzDatabase] [CharacterTables] {w w' : World} {env : TxnEnv} {c : Call}

/-- Only a completed search decides on a rule. -/
theorem rules_step (hstep : Transition w env c w') :
    (w'.db .applicableRules = w.db .applicableRules ∧
        (∃ rows, w'.db .chargedDays = w.db .chargedDays ++ rows ∧
          ∀ d ∈ rows, d.applicableRateMinor = none)) ∨
      ∃ lease, Decides lease w.db w'.db := by
  have hnothing : ∃ rows, w.db .chargedDays = w.db .chargedDays ++ rows ∧
      ∀ d ∈ rows, d.applicableRateMinor = none :=
    ⟨[], (List.append_nil _).symm, List.forall_mem_nil _⟩
  cases c with
  | completeRule lease fingerprint candidates decision =>
      cases hstep with
      | refused => exact Or.inl ⟨rfl, hnothing⟩
      | peripheral _ db hsame =>
          refine Or.inl ⟨hsame _ (by decide), [], ?_, List.forall_mem_nil _⟩
          rw [List.append_nil]
          exact hsame _ (by decide)
      | completedRule _ _ _ _ r db hlease hok =>
          obtain ⟨_, t, new, _, ⟨_, hsame, _⟩ | hsearch⟩ := completeRule_ok hok
          · refine Or.inl ⟨hsame _ (by decide), [], ?_, List.forall_mem_nil _⟩
            rw [List.append_nil]
            exact hsame _ (by decide)
          · exact Or.inr ⟨lease, hsearch.decides⟩
  | completeReconstruction lease rows =>
      refine Or.inl ⟨table_frame hstep rfl, ?_⟩
      cases hstep with
      | refused => exact hnothing
      | peripheral _ db hsame =>
          refine ⟨[], ?_, List.forall_mem_nil _⟩
          rw [List.append_nil]
          exact hsame _ (by decide)
      | completedReconstruction _ _ work r db hlease hwork hok =>
          obtain ⟨_, t, new, _, ⟨_, hsame⟩ | ⟨row, hrow⟩⟩ := completeReconstruction_ok hok
          · refine ⟨[], ?_, List.forall_mem_nil _⟩
            rw [List.append_nil]
            exact hsame _ (by decide)
          · obtain ⟨new, hnew, hadded⟩ := hrow.days lease.currency (reconstructionWork_currency hwork)
            exact ⟨new, hnew, fun d hd => (hadded d hd).2.2⟩
  | _ =>
      refine Or.inl ⟨table_frame hstep rfl, [], ?_, List.forall_mem_nil _⟩
      rw [List.append_nil]
      exact table_frame hstep rfl

theorem rules_kept (hstep : Transition w env c w') :
    ∀ rule ∈ w.db .applicableRules, rule ∈ w'.db .applicableRules := by
  intro rule hrule
  rcases rules_step hstep with ⟨hsame, _⟩ | ⟨lease, hdecides⟩
  · rwa [hsame]
  · rcases hdecides.rules with hsame | ⟨_, _, _, _, _, hrows⟩
    · rwa [hsame]
    · rw [hrows]
      exact List.mem_append_left _ hrule

theorem Rated.step (h : Rated w) (hstep : Transition w env c w') : Rated w' := by
  have hkept := rules_kept hstep
  have hinputs : ∀ p ∈ w'.dayInputs, ∀ d ∈ p.2, d.applicableRateMinor ≠ none →
      HasRule w'.db p.1.reconstructionId := by
    intro p hp d hd hrate
    rcases dayInputs_frame hstep p hp with hold | hnew
    · exact (h.inputs p hold d hd hrate).kept hkept
    · rw [hnew] at hd
      obtain ⟨row, hrow, rfl⟩ := List.mem_map.mp hd
      unfold chargedDaysOf at hrow
      rw [List.mem_insertionSort, List.mem_filter] at hrow
      have hrule := h.days row hrow.1 hrate
      rw [of_decide_eq_true hrow.2] at hrule
      exact hrule.kept hkept
  have hdecisions : ∀ r ∈ w'.db .recommendations, r.recommendationType ≠ .requestEvidence →
      Ruled w'.db r := by
    intro r hr hdecides
    rcases recommendations_step hstep with hsame |
      ⟨lease, days, t, rec, row, new, _, _, hread, _, hjudges⟩
    · rw [hsame] at hr
      exact (h.decisions r hr hdecides).kept hkept
    · rw [hjudges.rows] at hr
      rcases List.mem_append.mp hr with hold | hnew
      · exact (h.decisions r hold hdecides).kept hkept
      · rw [List.mem_singleton.mp hnew, hjudges.made] at hdecides ⊢
        obtain ⟨d, hd, hrate⟩ := rate_of_decision hjudges.resolved hdecides
        obtain ⟨rule, hrule, hfound, hid⟩ :=
          verifiedRuleOf_some h.verified (h.inputs (lease, days) hread d hd hrate)
        exact ⟨rule, hkept rule hrule, hfound, hid⟩
  rcases rules_step hstep with ⟨hsame, rows, hrows, hunrated⟩ | ⟨lease, hdecides⟩
  · refine ⟨?_, ?_, ?_, hinputs, hdecisions⟩
    · rw [hsame]
      exact h.rules
    · rw [hsame]
      exact h.verified
    · intro d hd hrate
      rw [hrows] at hd
      rcases List.mem_append.mp hd with hold | hnew
      · exact (h.days d hold hrate).kept hkept
      · exact absurd (hunrated d hnew) hrate
  · refine ⟨?_, ?_, ?_, hinputs, hdecisions⟩
    · rcases hdecides.rules with hsame | ⟨rule, _, hid, _, hfirst, hadded⟩
      · rw [hsame]
        exact h.rules
      · rw [hadded, List.pairwise_append]
        refine ⟨h.rules, List.pairwise_singleton _ _, fun a ha b hb => ?_⟩
        rw [List.mem_singleton.mp hb, hid]
        exact hfirst a ha
    · rcases hdecides.rules with hsame | ⟨rule, _, _, hverified, _, hadded⟩
      · rw [hsame]
        exact h.verified
      · intro r hr
        rw [hadded] at hr
        rcases List.mem_append.mp hr with hold | hnew
        · exact h.verified r hold
        · rw [List.mem_singleton.mp hnew]
          exact hverified
    · obtain ⟨f, hdays, hf⟩ := hdecides.days
      intro d hd hrate
      rw [hdays] at hd
      obtain ⟨e, he, rfl⟩ := List.mem_map.mp hd
      rcases hf e with hsame | ⟨hid, hrule, rate, hstamped⟩
      · rw [hsame] at hrate ⊢
        exact (h.days e he hrate).kept hkept
      · rw [hstamped]
        show HasRule w'.db e.reconstructionId
        rw [hid]
        exact hrule

theorem rated_of_run {allowed : World → TxnEnv → Call → Prop} (h : Run allowed w) : Rated w :=
  h.invariant Rated rated_initial fun _ _ _ _ hinv _ hstep => hinv.step hstep

end Steps

/-! ## Selections -/

/-- Drafts have distinct identifiers, and a selection is of a draft of its invoice. -/
structure Selected (w : World) : Prop where
  ids : (w.db .correspondenceDrafts).Pairwise fun a b => a.id ≠ b.id
  drafts : ∀ s ∈ w.selections, ∃ d ∈ w.db .correspondenceDrafts, d.id = s.request.draftId ∧
    d.invoiceId = s.invoiceId

theorem selected_initial : Selected World.initial :=
  ⟨.nil, fun _ h => absurd h List.not_mem_nil⟩

section Steps

variable [Sha256] [TzDatabase] [CharacterTables] {w w' : World} {env : TxnEnv} {c : Call}

/-- Only the route's selection adds one, of the invoice's last draft. -/
theorem selections_step (hstep : Transition w env c w') :
    ∀ s ∈ w'.selections, s ∈ w.selections ∨
      latestDraftId w'.db s.invoiceId = some s.request.draftId := by
  intro s hs
  cases hstep with
  | selectedSend invoiceId idempotencyKey secondApproverDisplay draftId hlatest =>
      rcases List.mem_append.mp hs with hold | hnew
      · exact Or.inl hold
      · rw [List.mem_singleton.mp hnew]
        exact Or.inr hlatest
  | sentSelected =>
      rw [(send_inFlight _ _ _ _ _ _).2.2.2.1] at hs
      exact Or.inl hs
  | approvedAndSent =>
      rw [(send_inFlight _ _ _ _ _ _).2.2.2.1] at hs
      exact Or.inl hs
  | _ => exact Or.inl hs

theorem Selected.step (h : Selected w) (hstep : Transition w env c w') : Selected w' := by
  constructor
  · rcases drafts_step hstep with hsame | ⟨_, _, d, _, _, _, _, _, hfresh, hrows⟩
    · rw [hsame]
      exact h.ids
    · rw [hrows, List.pairwise_append]
      refine ⟨h.ids, List.pairwise_singleton _ _, fun a ha b hb => ?_⟩
      rw [List.mem_singleton.mp hb]
      exact (hfresh a ha).1
  · intro s hs
    rcases selections_step hstep s hs with hold | hlatest
    · obtain ⟨d, hd, hrest⟩ := h.drafts s hold
      exact ⟨d, drafts_kept hstep d hd, hrest⟩
    · unfold latestDraftId at hlatest
      obtain ⟨d, hhead, hid⟩ := Option.map_eq_some_iff.mp hlatest
      obtain ⟨hd, hinvoice, _⟩ := latest_max CorrespondenceDraft.createdAt hhead
      exact ⟨d, hd, hid, of_decide_eq_true hinvoice⟩

theorem selected_of_run {allowed : World → TxnEnv → Call → Prop} (h : Run allowed w) : Selected w :=
  h.invariant Selected selected_initial fun _ _ _ _ hinv _ hstep => hinv.step hstep

end Steps

/-! ## What the gates read -/

/-- The gates that passed read a reconstruction and a rule of the invoice. -/
theorem gateRows_of_permitted {env : TxnEnv} {db : Db} {draft : CorrespondenceDraft}
    {request : SendRequest} {invoiceId : Uuid} {sealId : Option Uuid}
    (h : (sendDecision db draft request (buildFreshGateChecks env invoiceId sealId)).permitted =
      true) :
    (∃ row, mcpGateRow db invoiceId = some row) ∧ ∃ rule, vectorGateRow env db invoiceId = some rule := by
  have hmemory := permitted_verified h .approvedMemoryMcp (by decide)
  have hvector := permitted_verified h .vectorClauseBinding (by decide)
  constructor
  · cases hrow : mcpGateRow db invoiceId with
    | some row => exact ⟨row, rfl⟩
    | none =>
        have hfailed : (resultOf (gateResults db draft request.secondApproverDisplay
            (buildFreshGateChecks env invoiceId sealId)) .approvedMemoryMcp).state =
              verifiedIf ((mcpGateRow db invoiceId).any fun r => r.state = .complete) := rfl
        rw [hfailed, hrow] at hmemory
        exact nomatch hmemory
  · cases hrow : vectorGateRow env db invoiceId with
    | some rule => exact ⟨rule, rfl⟩
    | none =>
        have hfailed : (resultOf (gateResults db draft request.secondApproverDisplay
            (buildFreshGateChecks env invoiceId sealId)) .vectorClauseBinding).state =
              verifiedIf ((vectorGateRow env db invoiceId).any fun r =>
                r.validationState = "VERIFIED") := rfl
        rw [hfailed, hrow] at hvector
        exact nomatch hvector

/-- Two rows are one or were committed in one order or the other. -/
theorem committed_cases {α : Type} {rows : List α} {a b : α} (ha : a ∈ rows) (hb : b ∈ rows) :
    a = b ∨ CommittedAfter rows a b ∨ CommittedAfter rows b a := by
  obtain ⟨before, after, rfl⟩ := List.append_of_mem ha
  rcases List.mem_append.mp hb with hbefore | hafter
  · refine Or.inr (Or.inr ?_)
    have hfirst : [b].Sublist before := List.singleton_sublist.mpr hbefore
    exact hfirst.append (List.singleton_sublist.mpr List.mem_cons_self)
  · rcases List.mem_cons.mp hafter with heq | hafter
    · exact Or.inl heq.symm
    · refine Or.inr (Or.inl ?_)
      have hlast : [a, b].Sublist (a :: after) :=
        (List.singleton_sublist.mpr hafter).cons_cons a
      exact hlast.trans (List.sublist_append_right _ _)

/-- An attempt of the newest decision of its invoice, whose gates read the reconstruction and the
rule that decision seals. -/
structure Current (env : TxnEnv) (db : Db) (a : SendAttempt) : Prop where
  decision : ∃ d ∈ db .correspondenceDrafts, d.id = a.draftId ∧
    ∃ s ∈ db .decisionSeals, s.id = d.decisionSealId ∧ s.invoiceId = a.invoiceId ∧
      (∀ s' ∈ db .decisionSeals, s'.invoiceId = a.invoiceId → s'.revision ≤ s.revision) ∧
      (∃ row, mcpGateRow db a.invoiceId = some row ∧ row.id = s.reconstructionId) ∧
      ∃ rule, vectorGateRow env db a.invoiceId = some rule ∧ s.applicableRuleId = some rule.id

/-- No seal of a draft's invoice from its own on approves a withheld decision, and no other
reconstruction left the invoice a rule. -/
structure FreshDecision (db : Db) (d : CorrespondenceDraft) : Prop where
  decides : ∀ s ∈ db .decisionSeals, s.id = d.decisionSealId → ∀ s' ∈ db .decisionSeals,
    s'.invoiceId = d.invoiceId → s.revision ≤ s'.revision → ∀ r ∈ db .recommendations,
      r.id = s'.recommendationId → r.recommendationType ≠ .requestEvidence
  rules : ∀ s ∈ db .decisionSeals, s.id = d.decisionSealId → ∀ rule ∈ db .applicableRules,
    rule.invoiceId = d.invoiceId → rule.reconstructionId = s.reconstructionId

section Decision

variable [Sha256] [TzDatabase] [CharacterTables] {allowed : World → TxnEnv → Call → Prop} {w : World}

/-- Two recommendations that decide for one invoice are one. -/
theorem decision_unique (hrun : Run allowed w) {r r' : RecommendationRow}
    (hr : r ∈ w.db .recommendations) (hr' : r' ∈ w.db .recommendations)
    (hdecides : r.recommendationType ≠ .requestEvidence)
    (hdecides' : r'.recommendationType ≠ .requestEvidence) (hinvoice : r.invoiceId = r'.invoiceId) :
    r = r' := by
  have hsettled := allSettled_of_run hrun
  rcases committed_cases hr hr' with heq | hafter | hbefore
  · exact heq
  · exact absurd hinvoice.symm ((hsettled r hr hdecides).recommendation r' hafter)
  · exact absurd hinvoice ((hsettled r' hr' hdecides').recommendation r hbefore)

/-- The memory gate reads the reconstruction of a decision that is not withheld. -/
theorem mcpGateRow_of_decision (hrun : Run allowed w) {r : RecommendationRow}
    (hr : r ∈ w.db .recommendations) (hdecides : r.recommendationType ≠ .requestEvidence)
    {row : ReconstructionRow} (hrow : mcpGateRow w.db r.invoiceId = some row) :
    row.id = r.reconstructionId := by
  have hhealthy := (healthy_of_run hrun).1
  have hsettled := allSettled_of_run hrun r hr hdecides
  obtain ⟨own, hown, hid, hinvoice⟩ := hhealthy.recommendations.reconstructed r hr
  obtain ⟨hmem, hof, hmax⟩ := latest_max ReconstructionRow.version hrow
  have hle := hmax own hown (decide_eq_true hinvoice)
  rcases committed_cases hown hmem with rfl | hafter | hbefore
  · exact hid
  · exact absurd (of_decide_eq_true hof) (hsettled.reconstruction own row hid hafter)
  · have hlt := (List.pairwise_cons.mp (hhealthy.versions.versions.sublist hbefore)).1 own
      List.mem_cons_self ((of_decide_eq_true hof).trans hinvoice.symm)
    omega

/-- A fresh decision's send is of the newest seal, and its gates read what it seals. -/
theorem current_of_fresh {env : TxnEnv} (hrun : Run allowed w) {d : CorrespondenceDraft}
    (hd : d ∈ w.db .correspondenceDrafts) (hfresh : FreshDecision w.db d) {request : SendRequest}
    {sealId : Option Uuid}
    (hpermitted : (sendDecision w.db d request (buildFreshGateChecks env d.invoiceId sealId)).permitted
      = true) {a : SendAttempt} (hdraft : a.draftId = d.id) (hinvoice : a.invoiceId = d.invoiceId) :
    Current env w.db a := by
  have hlineage := lineage_of_run hrun
  have hpaired := Approvals.paired_of_run hrun
  have hrated := rated_of_run hrun
  obtain ⟨s, hs, hsid, hsinvoice⟩ := hlineage.drafts d hd
  obtain ⟨r, hr, hrid, hrinvoice, hreconstruction, hrule⟩ := hlineage.seals s hs
  have hdecides := hfresh.decides s hs hsid s hs hsinvoice (Nat.le_refl _) r hr hrid
  obtain ⟨⟨row, hrow⟩, rule, hvector⟩ := gateRows_of_permitted hpermitted
  have hof : r.invoiceId = d.invoiceId := hrinvoice.trans hsinvoice
  refine ⟨d, hd, hdraft.symm, s, hs, hsid, hsinvoice.trans hinvoice.symm, ?_, ?_, ?_⟩
  · intro s' hs' hinvoice'
    by_contra hlater
    have hof' : s'.invoiceId = d.invoiceId := hinvoice'.trans hinvoice
    obtain ⟨r', hr', hrid', hrinvoice', _⟩ := hlineage.seals s' hs'
    have hdecides' := hfresh.decides s hs hsid s' hs' hof' (by omega) r' hr' hrid'
    have hsame := decision_unique hrun hr hr' hdecides hdecides'
      (hof.trans (hrinvoice'.trans hof').symm)
    have heq : s = s' := eq_of_key hpaired.seals hs hs'
      (hrid.symm.trans ((congrArg RecommendationRow.id hsame).trans hrid'))
    rw [heq] at hlater
    exact hlater (Nat.le_refl _)
  · refine ⟨row, hinvoice ▸ hrow, ?_⟩
    rw [← hof] at hrow
    exact (mcpGateRow_of_decision hrun hr hdecides hrow).trans hreconstruction
  · have hmem := List.mem_filter.mp (List.mem_of_getElem? hvector)
    obtain ⟨own, hown, hnamed, hownId⟩ := hrated.decisions r hr hdecides
    have hread := hfresh.rules s hs hsid rule hmem.1 (of_decide_eq_true hmem.2)
    obtain rfl : own = rule := eq_of_key hrated.rules hown hmem.1
      (hownId.trans (hreconstruction.trans hread.symm))
    exact ⟨own, hinvoice ▸ hvector, hrule.symm.trans hnamed⟩

end Decision

/-! ## Every run -/

/-- Sends go through the route, and one that gets to the provider is of a fresh decision. -/
def SendsFresh [Sha256] (w : World) (env : TxnEnv) : Call → Prop
  | .approveAndSend .. => False
  | .sendSelected selection _ _ =>
    ReachesProvider w.db selection.request
      (buildFreshGateChecks env selection.invoiceId selection.decisionSealId) →
        ∀ d ∈ w.db .correspondenceDrafts, d.id = selection.request.draftId → FreshDecision w.db d
  | _ => True

section Runs

variable [Sha256] [TzDatabase] [CharacterTables] {allowed : World → TxnEnv → Call → Prop} {w : World}

/-- A step of a run records an attempt. -/
structure Records (allowed : World → TxnEnv → Call → Prop) (before : World) (env : TxnEnv) (c : Call)
    (a : SendAttempt) (w : World) : Prop where
  run : Run allowed before
  meets : allowed before env c
  later : RunFrom allowed (before.step env c) w
  unrecorded : a ∉ before.db .sendAttempts
  recorded : a ∈ (before.step env c).db .sendAttempts

/-- Every sent attempt was recorded by a step of the run, and was current wherever it was. -/
def SendsCurrent (allowed : World → TxnEnv → Call → Prop) (w : World) : Prop :=
  ∀ a ∈ w.db .sendAttempts, a.sendState = .sent →
    (∃ before env c, Records allowed before env c a w) ∧
      ∀ before env c, Records allowed before env c a w → Current env before.db a

/-- Every attempt was recorded by a step. -/
theorem recorded_of_run (h : Run allowed w) {a : SendAttempt} (ha : a ∈ w.db .sendAttempts) :
    ∃ before env c, Records allowed before env c a w := by
  induction h with
  | start => exact absurd ha List.not_mem_nil
  | step env c hrun hc ih =>
      rename_i before
      by_cases hbefore : a ∈ before.db .sendAttempts
      · obtain ⟨first, env', c', hrecords⟩ := ih hbefore
        exact ⟨first, env', c', hrecords.run, hrecords.meets, .step env c hrecords.later hc,
          hrecords.unrecorded, hrecords.recorded⟩
      · exact ⟨before, env, c, hrun, hc, .start, hbefore, ha⟩

omit [TzDatabase] [CharacterTables] in
/-- A sent attempt that a send adds is of a draft whose gates permitted it. -/
theorem permitted_of_sends {env : TxnEnv} {request : SendRequest}
    {gateChecks : List (Gate × GateCheck)} {r : SendResult} {db db' : Db}
    (hsends : Sends env request gateChecks db r db') {a : SendAttempt} (ha : a ∈ db' .sendAttempts)
    (hnew : a ∉ db .sendAttempts) (hsent : a.sendState = .sent) :
    ReachesProvider db request gateChecks ∧ ∃ d ∈ db .correspondenceDrafts, d.id = request.draftId ∧
      (sendDecision db d request gateChecks).permitted = true ∧ a.draftId = d.id ∧
        a.invoiceId = d.invoiceId := by
  have hadded {row : SendAttempt} (hrows : db' .sendAttempts = db .sendAttempts ++ [row]) :
      a = row := by
    rw [hrows] at ha
    rcases List.mem_append.mp ha with hold | hadded
    · exact absurd hold hnew
    · exact List.mem_singleton.mp hadded
  cases hsends with
  | replayed => exact absurd ha hnew
  | blocked _ draft _ hblocked hattempts =>
      have hstate : (attemptRow (env.uuid 0) request draft
          (sendDecision db draft request gateChecks)).sendState = .sendBlocked := by
        unfold attemptRow
        rw [hblocked]
        rfl
      rw [hadded hattempts.attempts, hstate] at hsent
      exact nomatch hsent
  | replied _ draft reply _ hpermitted hattempts =>
      refine ⟨⟨⟨draft, hattempts.found, hpermitted⟩, ?_⟩, draft,
        List.mem_of_find?_eq_some hattempts.found, by simpa using List.find?_some hattempts.found,
        hpermitted, ?_, ?_⟩
      · exact List.find?_eq_none.mpr fun a ha => by simpa using hattempts.newKey a ha
      · rw [hadded hattempts.attempts]
        exact repliedAttempt_draftId _ _
      · rw [hadded hattempts.attempts]
        exact repliedAttempt_invoiceId _ _

/-- A sent attempt is current in the world of the step that records it. -/
theorem current_of_step (hrun : Run allowed w) {env : TxnEnv} {c : Call} (hc : SendsFresh w env c)
    {w' : World} (hstep : Transition w env c w') {a : SendAttempt} (ha : a ∈ w'.db .sendAttempts)
    (hnew : a ∉ w.db .sendAttempts) (hsent : a.sendState = .sent) : Current env w.db a := by
  have hselected := selected_of_run hrun
  rcases attempts_step hstep with ⟨hsame, _⟩ | ⟨request, gateChecks, r, hsending, hsends⟩
  · rw [hsame] at ha
    exact absurd ha hnew
  · obtain ⟨hreaches, d, hd, hid, hpermitted, hdraft, hinvoice⟩ :=
      permitted_of_sends hsends ha hnew hsent
    cases hsending with
    | injected => exact hc.elim
    | selected selection fail =>
        -- the route's gates read the invoice of its draft
        have hroute : d.invoiceId = selection.invoiceId := by
          cases hstep with
          | refused => exact absurd ha hnew
          | peripheral _ db hsame =>
              have hattempts : db .sendAttempts = w.db .sendAttempts := hsame _ (by decide)
              exact absurd (hattempts ▸ ha) hnew
          | sentSelected _ _ _ hselection =>
              obtain ⟨d', hd', hid', hinvoice'⟩ := hselected.drafts selection hselection
              rw [eq_of_key hselected.ids hd hd' (hid.trans hid'.symm)]
              exact hinvoice'
        have hfresh := hc hreaches d hd hid
        rw [← hroute] at hpermitted
        exact current_of_fresh hrun hd hfresh hpermitted hdraft hinvoice

/-- In every run whose sends go through the route and are of fresh decisions when they get to the
provider, every sent attempt was current when it was recorded. -/
theorem sends_current (h : Run SendsFresh w) : SendsCurrent SendsFresh w := by
  intro a ha hsent
  refine ⟨recorded_of_run h ha, fun before env c hrecords => ?_⟩
  exact current_of_step hrecords.run hrecords.meets (step_transition before env c) hrecords.recorded
    hrecords.unrecorded hsent

end Runs

section Case
open Sample

local instance standardHash : Sha256 := Sha256.standard
local instance sampleZone : TzDatabase := zone
local instance sampleCharacters : CharacterTables := ascii

/-- Nothing is withheld, and every rule is of the reconstruction every decision is about. -/
def OneDecision (db : Db) : Prop :=
  ∀ r ∈ db .recommendations, r.recommendationType ≠ .requestEvidence ∧
    ∀ rule ∈ db .applicableRules, rule.reconstructionId = r.reconstructionId

/-- Calls of the route that leave recommendations and rules alone. -/
def LeavesDecision (c : Call) : Prop :=
  mayWrite c .recommendations = false ∧ mayWrite c .applicableRules = false ∧
    ∀ w env, SendsSelected w env c

theorem fresh_of_oneDecision {allowed : World → TxnEnv → Call → Prop} {w : World}
    (hrun : Run allowed w) (h : OneDecision w.db) {d : CorrespondenceDraft} :
    FreshDecision w.db d := by
  constructor
  · intro _ _ _ _ _ _ _ r hr _
    exact (h r hr).1
  · intro s hs _ rule hrule _
    obtain ⟨r, hr, _, _, hreconstruction, _⟩ := (lineage_of_run hrun).seals s hs
    rw [← hreconstruction]
    exact (h r hr).2 rule hrule

/-- Such calls lead on to fresh sends. -/
theorem fresh_run {w₀ w : World} (hrun : Run SendsFresh w₀) (h : OneDecision w₀.db)
    (hlater : RunFrom (fun _ _ c => LeavesDecision c) w₀ w) :
    Run SendsFresh w ∧ OneDecision w.db := by
  induction hlater with
  | start => exact ⟨hrun, h⟩
  | @step w env c _ hc ih =>
      obtain ⟨hrun, hone⟩ := ih
      have hstep := step_transition w env c
      constructor
      · refine .step env c hrun ?_
        cases c
        case sendSelected => exact fun _ d _ _ => fresh_of_oneDecision hrun hone
        case approveAndSend => exact (hc.2.2 w env).elim
        all_goals trivial
      · unfold OneDecision
        rw [table_frame hstep hc.1, table_frame hstep hc.2.1]
        exact hone

/-- Calls that commit no send. -/
def CommitsNoSend (_ : World) (_ : TxnEnv) : Call → Prop
  | .sendSelected _ _ fate => fate = .aborted
  | .approveAndSend .. => False
  | _ => True

theorem commitsNoSend_of_unsent {c : Call} (h : sends c = false) (w : World) (env : TxnEnv) :
    CommitsNoSend w env c := by
  cases c
  case sendSelected => exact nomatch h
  case approveAndSend => exact nomatch h
  all_goals trivial

theorem unsent_of_run {w : World} (h : Run CommitsNoSend w) : w.db .sendAttempts = [] :=
  h.invariant (fun w => w.db .sendAttempts = []) rfl fun w env c w' hnone hc hstep => by
    rcases attempts_step hstep with ⟨hsame, _⟩ | ⟨_, _, _, hsending, _⟩
    · rw [hsame]
      exact hnone
    · cases hsending with
      | selected => exact nomatch hc
      | injected => exact hc.elim

/-- Everything of the resent case before the send that commits. -/
def beforeResent : Script :=
  withheld ++ approved "k1" "ann" ++ drafted "" ++ bound "w5" ++ reconstructed "w6" sourcedRows ++
    selected "s1" "bob" ++ sent .aborted

theorem resent_split : resent = beforeResent ++ sent .committed := by
  unfold resent beforeResent
  rfl

theorem beforeResent_unsent : (play World.initial 1 beforeResent).db .sendAttempts = [] := by
  have hunsent {script : Script} (h : Unsent script) :
      Makes (fun c => ∀ w env, CommitsNoSend w env c) script :=
    h.mono fun _ hc => commitsNoSend_of_unsent hc
  have hmakes : Makes (fun c => ∀ w env, CommitsNoSend w env c) beforeResent :=
    makes_append (makes_append (makes_append (makes_append (makes_append (makes_append
      (hunsent withheld_unsent) (hunsent (approved_unsent _ _))) (hunsent (drafted_unsent _)))
        (hunsent (bound_unsent _))) (hunsent (reconstructed_unsent _ _)))
          (hunsent (selected_unsent _ _))) (makes_cons (last_makes fun _ _ _ => rfl) makes_nil)
  exact unsent_of_run (run_of_plays _ .start (hmakes.plays (fun w env _ hc => hc w env) _ _))

/-- A script that ends in the first send, sent past gates that read a reconstruction nobody
sealed. -/
theorem not_current_of_play (script : Script)
    (hnone : (play World.initial 1 script).db .sendAttempts = [])
    (hsent : ∃ a ∈ (play World.initial 1 (script ++ sent .committed)).db .sendAttempts,
      a.sendState = .sent ∧
        ∃ row ∈ mcpGateRow (play World.initial 1 (script ++ sent .committed)).db a.invoiceId,
          ∀ s ∈ (play World.initial 1 (script ++ sent .committed)).db .decisionSeals,
            row.id ≠ s.reconstructionId) :
    ¬ SendsCurrent (fun _ _ _ => True) (play World.initial 1 (script ++ sent .committed)) := by
  have hrun : Run (fun _ _ _ => True) (play World.initial 1 script) := run_play _ _ _
  rw [play_append] at hsent ⊢
  generalize play World.initial 1 script = before at hnone hrun hsent ⊢
  generalize 1 + script.length = n at hsent ⊢
  unfold sent play at hsent ⊢
  obtain ⟨a, ha, hstate, hstale⟩ := hsent
  intro hcurrent
  cases hselection : before.selections.getLast? with
  | none =>
      simp only [hselection, Option.map_none, play] at ha
      rw [hnone] at ha
      exact absurd ha List.not_mem_nil
  | some selection =>
      simp only [hselection, Option.map_some, play] at ha hstale hcurrent
      have hstep := step_transition before (env n) (.sendSelected selection false .committed)
      have hrecords : Records (fun _ _ _ => True) before (env n)
          (.sendSelected selection false .committed) a
          (before.step (env n) (.sendSelected selection false .committed)) :=
        ⟨hrun, trivial, .start, by simp [hnone], ha⟩
      obtain ⟨_, _, _, s, hs, _, _, _, ⟨row, hrow, hid⟩, _⟩ :=
        ((hcurrent a ha hstate).2 _ _ _ hrecords).decision
      have hrows : (before.step (env n) (.sendSelected selection false .committed)).db
          .reconstructions = before.db .reconstructions := table_frame hstep rfl
      have hread : mcpGateRow (before.step (env n) (.sendSelected selection false .committed)).db
          a.invoiceId = some row := by
        unfold mcpGateRow at hrow ⊢
        rwa [hrows]
      obtain ⟨row', hrow', hunsealed⟩ := hstale
      rw [hread, Option.mem_some_iff] at hrow'
      rw [← hrow'] at hunsealed
      exact hunsealed s (seals_kept hstep s hs) hid

/-- A sent attempt whose gates read a reconstruction that no decision seals. -/
theorem resent_stale :
    ¬ ∀ w, Run (fun _ _ _ => True) w → SendsCurrent (fun _ _ _ => True) w := by
  intro hcurrent
  have hsent := resent_sends.2
  have hhash : Deliveries.standardHash = standardHash := rfl
  have hzone : Deliveries.sampleZone = sampleZone := rfl
  have hcharacters : Deliveries.sampleCharacters = sampleCharacters := rfl
  rw [resent_split, hhash, hzone, hcharacters] at hsent
  exact not_current_of_play beforeResent beforeResent_unsent hsent (hcurrent _ (run_play _ _ _))

/-- An invoice judged and disputed. -/
def judgedScript : Script :=
  received ++ extracted ++ reconstructed "w2" sourcedRows ++ ruled "w3" ++ judged "w4"

theorem judgedScript_decides : OneDecision (play World.initial 1 judgedScript).db := by
  unfold OneDecision
  decide +kernel

/-- It is approved, drafted and sent. -/
def sentScript : Script :=
  approved "k1" "ann" ++ drafted "Please adjust." ++ selected "s1" "bob" ++ sent .committed

theorem sentScript_leaves : Makes LeavesDecision sentScript := by
  unfold sentScript approved drafted selected sent
  refine makes_append (makes_append (makes_append ?_ ?_) ?_) ?_
  · exact makes_cons (last_makes fun _ => ⟨rfl, rfl, fun _ _ => trivial⟩) makes_nil
  · exact makes_cons (last_makes fun _ => ⟨rfl, rfl, fun _ _ => trivial⟩)
      (makes_cons (last_makes fun _ => ⟨rfl, rfl, fun _ _ => trivial⟩) makes_nil)
  · exact makes_cons (last_makes fun _ => ⟨rfl, rfl, fun _ _ => trivial⟩) makes_nil
  · exact makes_cons (last_makes fun _ => ⟨rfl, rfl, fun _ _ => trivial⟩) makes_nil

theorem judgedScript_unsent : Unsent judgedScript :=
  makes_append (makes_append (makes_append (makes_append received_unsent extracted_unsent)
    (reconstructed_unsent _ _)) (ruled_unsent _)) (judged_unsent _)

theorem sendsFresh_of_unsent {c : Call} (h : sends c = false) (w : World) (env : TxnEnv) :
    SendsFresh w env c := by
  cases c
  case sendSelected => exact nomatch h
  case approveAndSend => exact nomatch h
  all_goals trivial

/-- A case that is decided once and then handled by the route is a run of fresh sends. -/
theorem fresh_play {first later : Script} (hunsent : Unsent first)
    (hone : OneDecision (play World.initial 1 first).db) (hleaves : Makes LeavesDecision later) :
    Run SendsFresh (play World.initial 1 (first ++ later)) := by
  have hfirst : Run SendsFresh (play World.initial 1 first) := run_of_plays _ .start
    (hunsent.plays (fun w env _ hc => sendsFresh_of_unsent hc w env) _ _)
  rw [play_append]
  exact (fresh_run hfirst hone (run_of_plays later .start
    (hleaves.plays (fun _ _ _ hc => hc) _ _))).1

theorem sends_current_sent :
    SendsCurrent SendsFresh (play World.initial 1 (judgedScript ++ sentScript)) :=
  sends_current (fresh_play judgedScript_unsent judgedScript_decides sentScript_leaves)

end Case

end Tally.Analysis.Freshness
