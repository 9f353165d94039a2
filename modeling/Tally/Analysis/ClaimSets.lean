import Tally.Analysis.EventLog
import Tally.Analysis.Approvals

/-!
# Claim sets

The query behind a draft reads a container claim of the invoice and names no claim set.
It reads the claim of the set its decision seal bound all the same: an invoice past its
extraction has one claim set, of version one, a set has one claim a field, and later
extractions are of other invoices.
-/

set_option autoImplicit false

namespace Tally.Analysis.ClaimSets
open Library Library.Calendar Tally.Model IntakeTasks AuthoritySealRepository
  CorrespondenceRepository Effects Pipeline EventLog
open Library.Schema (SameExcept)

/-! ## Invoices past their extraction -/

/-- An invoice past its extraction has a claim set. -/
def Sourced (p : State) : Prop :=
  ∀ invoiceId, PastExtraction p.tasks invoiceId → ∃ s ∈ p.claimSets, s.invoiceId = invoiceId

/-- A step in which every task of a later type follows one. -/
theorem Sourced.kept {p p' : State} (h : Sourced p) (hsets : ∀ s ∈ p.claimSets, s ∈ p'.claimSets)
    (htasks : ∀ t ∈ p'.tasks, t.taskType ≠ .extractInvoiceClaims →
      PastExtraction p.tasks t.invoiceId ∨ ∃ s ∈ p'.claimSets, s.invoiceId = t.invoiceId) :
    Sourced p' := by
  rintro invoiceId ⟨t, ht, rfl, htype⟩
  rcases htasks t ht htype with hpast | hset
  · obtain ⟨s, hs, hinvoice⟩ := h _ hpast
    exact ⟨s, hsets s hs, hinvoice⟩
  · exact hset

theorem pastExtraction_of_mem {tasks : List WorkflowTask} {t : WorkflowTask} (ht : t ∈ tasks)
    (htype : t.taskType ≠ .extractInvoiceClaims) : PastExtraction tasks t.invoiceId :=
  ⟨t, ht, rfl, htype⟩

theorem pastExtraction_of_moved {tasks : List WorkflowTask} {f : WorkflowTask → WorkflowTask}
    (hf : Moves tasks f) :
    ∀ u ∈ tasks.map f, u.taskType ≠ .extractInvoiceClaims → PastExtraction tasks u.invoiceId := by
  intro u hu htype
  obtain ⟨t, ht, rfl⟩ := List.mem_map.mp hu
  rw [(hf.same t ht).taskType] at htype
  rw [(hf.same t ht).invoiceId]
  exact pastExtraction_of_mem ht htype

theorem Sourced.step [Sha256] {o : Occasion} {p p' : State} (h : Sourced p) (hhealthy : Healthy p)
    (hstep : Step o p p') : Sourced p' := by
  have htasks := hhealthy.tasks
  have hended {t t' : WorkflowTask} {key : LeaseKey} {state : TaskState} (hmem : t ∈ p.tasks)
      (hruns : RunsUnder key t) (hended : Ended state t t') : Moves p.tasks (replaceTask t') :=
    htasks.moves_replace hmem (running_active hruns.state) hended.toSameTask
  -- a completed later task and what follows it
  have hafter {t t' : WorkflowTask} {key : LeaseKey} {taskType : TaskType}
      {P : WorkflowTask → Prop} {new : List WorkflowTask} (hmem : t ∈ p.tasks)
      (hruns : RunsUnder key t) (hend : Ended .completed t t')
      (hlater : t.taskType ≠ .extractInvoiceClaims) (hnew : Follows p.tasks t taskType P new) :
      ∀ u ∈ p.tasks.map (replaceTask t') ++ new, u.taskType ≠ .extractInvoiceClaims →
        PastExtraction p.tasks u.invoiceId := by
    intro u hu htype
    rcases List.mem_append.mp hu with hold | hadded
    · exact pastExtraction_of_moved (hended hmem hruns hend) u hold htype
    · rw [invoice_of_follows hnew u hadded]
      exact pastExtraction_of_mem hmem hlater
  cases hstep with
  | same => exact h
  | received n hnew htype hn =>
      refine h.kept (fun _ hs => hs) fun u hu hlater => Or.inl ?_
      rcases List.mem_append.mp hu with hold | hadded
      · exact pastExtraction_of_mem hold hlater
      · rw [List.mem_singleton.mp hadded] at hlater
        exact absurd htype hlater
  | started t t' key hmem hactive hstart hworker hst hkey hrun =>
      exact h.kept (fun _ hs => hs) fun u hu hlater =>
        Or.inl (pastExtraction_of_moved (htasks.moves_replace hmem hactive hst) u hu hlater)
  | failed t t' key state hmem hruns htype hend hstate =>
      exact h.kept (fun _ hs => hs) fun u hu hlater =>
        Or.inl (pastExtraction_of_moved (hended hmem hruns hend) u hu hlater)
  | retried t n hmem hfailed htype hlatest hfresh hunstarted hn =>
      refine h.kept (fun _ hs => hs) fun u hu hlater => Or.inl ?_
      rcases List.mem_append.mp hu with hold | hadded
      · exact pastExtraction_of_mem hold hlater
      · rw [List.mem_singleton.mp hadded] at hlater
        exact absurd hn.1 hlater
  | extracted t t' key s new hmem hruns htype hend hinvoice hversion hfresh hfollows =>
      refine h.kept (fun _ hs => List.mem_append_left _ hs) fun u hu hlater => ?_
      rcases List.mem_append.mp hu with hold | hadded
      · exact Or.inl (pastExtraction_of_moved (hended hmem hruns hend) u hold hlater)
      · refine Or.inr ⟨s, List.mem_append_right _ (List.mem_singleton_self _), ?_⟩
        exact hinvoice.trans (invoice_of_follows hfollows u hadded).symm
  | reconstructed t t' key rows new hmem hruns htype hend hrows =>
      have hlater : t.taskType ≠ .extractInvoiceClaims := by rw [htype]; decide
      refine h.kept (fun _ hs => hs) fun u hu hu' => Or.inl ?_
      rcases hrows with ⟨_, rfl⟩ | ⟨row, _, _, hfollows⟩
      · rw [List.append_nil] at hu
        exact pastExtraction_of_moved (hended hmem hruns hend) u hu hu'
      · exact hafter hmem hruns hend hlater hfollows u hu hu'
  | searched t t' key runs new hmem hruns htype hend hhands hfollows =>
      have hlater : t.taskType ≠ .extractInvoiceClaims := by rw [htype]; decide
      exact h.kept (fun _ hs => hs) fun u hu hu' =>
        Or.inl (hafter hmem hruns hend hlater hfollows u hu hu')
  | judged t t' key rows new hmem hruns htype hend hrows hfollows =>
      have hlater : t.taskType ≠ .extractInvoiceClaims := by rw [htype]; decide
      exact h.kept (fun _ hs => hs) fun u hu hu' =>
        Or.inl (hafter hmem hruns hend hlater hfollows u hu hu')
  | bound t t' key new hmem hruns htype hbinds hend hfollows =>
      have hlater : t.taskType ≠ .extractInvoiceClaims := by rw [htype]; decide
      exact h.kept (fun _ hs => hs) fun u hu hu' =>
        Or.inl (hafter hmem hruns hend hlater hfollows u hu hu')
  | released f hf hattempt =>
      exact h.kept (fun _ hs => hs) fun u hu hu' => Or.inl (pastExtraction_of_moved hf u hu hu')

/-! ## Claims and what reads them -/

/-- The container claims of the claim set a seal binds. -/
def sealedContainers (db : Db) (s : DecisionSeal) : List ExtractedClaim :=
  (db .extractedClaims).filter fun c => c.fieldName = "container_number" ∧
    (db .claimSets).any fun set => set.id = c.claimSetId ∧ set.invoiceId = s.invoiceId ∧
      set.claimSetVersion = s.claimSetVersion

/-- The text a draft takes from the claims read. -/
def containerOf (rows : List ExtractedClaim) : Except PyError String :=
  match rows.head? with
  | some c => containerText c.normalizedValue
  | none => .ok "UNKNOWN"

/-- Claims belong to claim sets, a set has one claim a field, and the first version is the
one that invoices name, seals bind and packs were read from. -/
structure Bound (w : World) : Prop where
  known : ∀ c ∈ w.db .extractedClaims, ∃ s ∈ w.db .claimSets, s.id = c.claimSetId
  fields : (w.db .extractedClaims).Pairwise fun a b => conflicts .extractedClaims b a = false
  named : ∀ i ∈ w.db .invoices, ∀ v ∈ i.activeClaimSetVersion, v = 1
  sealed : ∀ s ∈ w.db .decisionSeals, s.claimSetVersion = 1
  packs : ∀ pack ∈ w.packs, containerOf (containerRows w.db pack.invoiceId) = .ok pack.containerRef

theorem mem_containerRows {db : Db} {invoiceId : Uuid} {c : ExtractedClaim} :
    c ∈ containerRows db invoiceId ↔ c ∈ db .extractedClaims ∧ c.fieldName = "container_number" ∧
      ∃ s ∈ db .claimSets, s.id = c.claimSetId ∧ s.invoiceId = invoiceId := by
  unfold containerRows
  rw [List.mem_filter, decide_eq_true_eq, List.any_eq_true]
  simp only [decide_eq_true_eq]

/-- At most one container claim of an invoice is there to read. -/
theorem containerRows_length {db : Db} (hone : (db .claimSets).Pairwise fun a b =>
      a.invoiceId ≠ b.invoiceId)
    (hfields : (db .extractedClaims).Pairwise fun a b => conflicts .extractedClaims b a = false)
    (invoiceId : Uuid) : (containerRows db invoiceId).length ≤ 1 := by
  have hpair : (containerRows db invoiceId).Pairwise fun _ _ => False := by
    refine (hfields.filter _).imp_of_mem ?_
    intro a b ha hb hconflict
    obtain ⟨_, hafield, sa, hsa, hida, hinva⟩ := mem_containerRows.mp ha
    obtain ⟨_, hbfield, sb, hsb, hidb, hinvb⟩ := mem_containerRows.mp hb
    have hsame : sa = sb := eq_of_key hone hsa hsb (hinva.trans hinvb.symm)
    simp only [conflicts, decide_eq_false_iff_not, not_and] at hconflict
    exact hconflict (by rw [← hida, ← hidb, hsame]) (by rw [hafield, hbfield])
  cases hrows : containerRows db invoiceId with
  | nil => exact Nat.zero_le _
  | cons a rest =>
      rw [hrows, List.pairwise_cons] at hpair
      cases rest with
      | nil => exact Nat.le_refl _
      | cons b rest => exact (hpair.1 b List.mem_cons_self).elim

/-- The text of the one claim read. -/
theorem containerOf_mem {rows : List ExtractedClaim} {c : ExtractedClaim}
    (hlength : rows.length ≤ 1) (hc : c ∈ rows) :
    containerOf rows = containerText c.normalizedValue := by
  cases rows with
  | nil => exact absurd hc List.not_mem_nil
  | cons a rest =>
      rw [List.length_cons] at hlength
      have hrest : rest = [] := List.length_eq_zero_iff.mp (by omega)
      rw [hrest] at hc
      rw [List.mem_singleton.mp hc]
      rfl

/-- A new claim set of another invoice leaves the container claims of an invoice alone. -/
theorem containerRows_append {db db' : Db} {s : ClaimSet} {rows : List ExtractedClaim}
    {invoiceId : Uuid} (hsets : db' .claimSets = db .claimSets ++ [s])
    (hclaims : db' .extractedClaims = db .extractedClaims ++ rows)
    (hrows : ∀ c ∈ rows, c.claimSetId = s.id) (hfresh : ∀ s' ∈ db .claimSets, s'.id ≠ s.id)
    (hknown : ∀ c ∈ db .extractedClaims, ∃ s ∈ db .claimSets, s.id = c.claimSetId)
    (hother : s.invoiceId ≠ invoiceId) :
    containerRows db' invoiceId = containerRows db invoiceId := by
  have hadded : rows.filter (fun c => c.fieldName = "container_number" ∧
      (db .claimSets ++ [s]).any fun s => s.id = c.claimSetId ∧ s.invoiceId = invoiceId) = [] := by
    rw [List.filter_eq_nil_iff]
    intro c hc hread
    rw [decide_eq_true_eq, List.any_eq_true] at hread
    obtain ⟨_, s', hs', hmatch⟩ := hread
    rw [decide_eq_true_eq, hrows c hc] at hmatch
    rcases List.mem_append.mp hs' with hold | hnew
    · exact hfresh s' hold hmatch.1
    · rw [List.mem_singleton.mp hnew] at hmatch
      exact hother hmatch.2
  unfold containerRows
  rw [hclaims, hsets, List.filter_append, hadded, List.append_nil]
  refine List.filter_congr fun c hc => ?_
  obtain ⟨t, ht, hid⟩ := hknown c hc
  have hnot : s.id ≠ c.claimSetId := by
    rw [← hid]
    exact (hfresh t ht).symm
  simp [List.any_append, hnot]

/-! ## In every run -/

section Runs

variable [Sha256] [TzDatabase] [CharacterTables] {allowed : World → TxnEnv → Call → Prop}
  {w w' : World} {env : TxnEnv} {c : Call}

theorem sourced_of_run (h : Run allowed w) : Sourced (pipelineOf w) :=
  pipeline_of_run Sourced (fun _ ⟨_, ht, _⟩ => absurd ht List.not_mem_nil)
    (fun _ _ _ _ hhealthy hinv _ hstep => hinv.step hhealthy hstep) h

theorem sealed_sourced (h : Run allowed w) {s : DecisionSeal} (hs : s ∈ w.db .decisionSeals) :
    ∃ set ∈ w.db .claimSets, set.invoiceId = s.invoiceId := by
  obtain ⟨r, hr, _, hinvoice, _⟩ := (lineage_of_run h).seals s hs
  rw [← hinvoice]
  exact sourced_of_run h _ (recommended_past h hr)

theorem loaded_sourced (h : Run allowed w) {pack : SealedFactPack} (hpack : pack ∈ w.packs) :
    ∃ set ∈ w.db .claimSets, set.invoiceId = pack.invoiceId := by
  obtain ⟨s, hs, _, hinvoice⟩ := (lineage_of_run h).packs pack hpack
  rw [← hinvoice]
  exact sealed_sourced h hs

/-- The invoices a step names a claim set for name the first version. -/
theorem named_step (hnamed : ∀ i ∈ w.db .invoices, ∀ v ∈ i.activeClaimSetVersion, v = 1)
    (hfirst : ∀ s ∈ w'.db .claimSets, s.claimSetVersion = 1) (hstep : Transition w env c w') :
    ∀ i ∈ w'.db .invoices, ∀ v ∈ i.activeClaimSetVersion, v = 1 := by
  cases logStep_of_transition hstep with
  | quiet hinvoices =>
      rw [hinvoices]
      exact hnamed
  | received invoice task event hevent hinvoice hreceives =>
      intro i hi v hv
      rw [hreceives.invoices] at hi
      rcases List.mem_append.mp hi with hold | hnew
      · exact hnamed i hold v hv
      · rw [List.mem_singleton.mp hnew, hinvoice.2.2] at hv
        exact absurd hv (Option.not_mem_none v)
  | published invoiceId a events hsome ha hactive hemits =>
      intro i' hi' v hv
      rw [hemits.invoices] at hi'
      obtain ⟨i, hi, rfl⟩ := List.mem_map.mp hi'
      unfold advanceInvoice at hv
      split at hv
      · cases hset : a.activeClaimSetVersion with
        | none =>
            rw [hset] at hv
            exact hnamed i hi v hv
        | some n =>
            rw [hset] at hv
            obtain ⟨s, hs, hversion⟩ := hactive n hset
            obtain rfl : n = v := Option.some.inj hv
            rw [← hversion]
            exact hfirst s hs
      · exact hnamed i hi v hv
  | relayed limit hc hinvoices =>
      rw [hinvoices]
      exact hnamed

omit [Sha256] [TzDatabase] [CharacterTables] in
/-- A seal binds the first version. -/
theorem bindings_first {invoiceId : Uuid}
    (hnamed : ∀ i ∈ w.db .invoices, ∀ v ∈ i.activeClaimSetVersion, v = 1) :
    (invoiceBindings env w.db invoiceId).1 = 1 := by
  show (((w.db .invoices).find? fun i => i.id = invoiceId).bind
    Invoice.activeClaimSetVersion).getD 1 = 1
  cases hfind : (w.db .invoices).find? fun i => i.id = invoiceId with
  | none => rfl
  | some i =>
      rw [Option.bind_some]
      cases hversion : i.activeClaimSetVersion with
      | none => rfl
      | some v => exact hnamed i (List.mem_of_find?_eq_some hfind) v hversion

/-- The container claims of an invoice with a claim set stay. -/
theorem containerRows_step {invoiceId : Uuid}
    (hone : (w'.db .claimSets).Pairwise fun a b => a.invoiceId ≠ b.invoiceId)
    (hknown : ∀ c ∈ w.db .extractedClaims, ∃ s ∈ w.db .claimSets, s.id = c.claimSetId)
    (hset : ∃ s ∈ w.db .claimSets, s.invoiceId = invoiceId) (hstep : Transition w env c w') :
    containerRows w'.db invoiceId = containerRows w.db invoiceId := by
  rcases claimSets_step hstep with ⟨hsets, hclaims⟩ | ⟨s, rows, hfresh, hsets, hclaims, hrows, _⟩
  · unfold containerRows
    rw [hsets, hclaims]
  · refine containerRows_append hsets hclaims (fun c hc => (hrows c hc).1) hfresh hknown ?_
    obtain ⟨t, ht, rfl⟩ := hset
    rw [hsets, List.pairwise_append] at hone
    exact (hone.2.2 t ht s (List.mem_singleton_self _)).symm

theorem bound_of_run (h : Run allowed w) : Bound w := by
  induction h with
  | start =>
      exact ⟨fun _ hc => absurd hc List.not_mem_nil, List.Pairwise.nil,
        fun _ hi => absurd hi List.not_mem_nil, fun _ hs => absurd hs List.not_mem_nil,
        fun _ hp => absurd hp List.not_mem_nil⟩
  | step env c hrun hc ih =>
      rename_i w
      have hstep := step_transition w env c
      have hsets := (healthy_of_run (hrun.step env c hc)).1.sets
      have hnamed := named_step ih.named hsets.first hstep
      refine ⟨?_, ?_, hnamed, ?_, ?_⟩
      · rcases claimSets_step hstep with ⟨hsame, hclaims⟩ | ⟨s, rows, _, hnew, hclaims, hrows, _⟩
        · rw [hsame, hclaims]
          exact ih.known
        · rw [hnew, hclaims]
          intro c hc
          rcases List.mem_append.mp hc with hold | hadded
          · obtain ⟨s', hs', hid⟩ := ih.known c hold
            exact ⟨s', List.mem_append_left _ hs', hid⟩
          · exact ⟨s, List.mem_append_right _ (List.mem_singleton_self _), (hrows c hadded).1.symm⟩
      · rcases claimSets_step hstep with
          ⟨_, hclaims⟩ | ⟨s, rows, hfresh, _, hclaims, hrows, hfields⟩
        · rw [hclaims]
          exact ih.fields
        · rw [hclaims, List.pairwise_append]
          refine ⟨ih.fields, hfields, ?_⟩
          intro a ha b hb
          obtain ⟨s', hs', hid⟩ := ih.known a ha
          have hne : b.claimSetId ≠ a.claimSetId := by
            rw [(hrows b hb).1, ← hid]
            exact (hfresh s' hs').symm
          simp [conflicts, hne]
      · intro s hs
        rcases seals_step hstep with ⟨_, hsame⟩ | ⟨request, rec, approval, _, hfresh⟩
        · rw [hsame] at hs
          exact ih.sealed s hs
        · rcases hfresh.seals.seals with ⟨_, hsame⟩ | ⟨hrows, _⟩
          · rw [hsame] at hs
            exact ih.sealed s hs
          · rw [hrows] at hs
            rcases List.mem_append.mp hs with hold | hadded
            · exact ih.sealed s hold
            · rw [List.mem_singleton.mp hadded]
              show (invoiceBindings env w.db rec.invoiceId).1 = 1
              exact bindings_first ih.named
      · intro pack hpack
        rcases packs_step hstep pack hpack with hold | ⟨sealId, hok⟩
        · rw [containerRows_step hsets.one ih.known (loaded_sourced hrun hold) hstep]
          exact ih.packs pack hold
        · obtain ⟨hdb, _, s, _, _, hinvoice, _, hread⟩ := loadSealedFactPack_ok hok
          rw [hdb, hinvoice]
          rcases hread with ⟨hnone, hunknown⟩ | ⟨c, hc, htext⟩
          · rw [hnone, hunknown]
            rfl
          · have hlength := containerRows_length (healthy_of_run hrun).1.sets.one ih.fields
              s.invoiceId
            exact (containerOf_mem hlength hc).trans htext

/-- The container claims of an invoice are those of the claim set its seal binds. -/
theorem containerRows_sealed (h : Run allowed w) {s : DecisionSeal} (hs : s ∈ w.db .decisionSeals) :
    containerRows w.db s.invoiceId = sealedContainers w.db s := by
  have hfirst := (healthy_of_run h).1.sets.first
  have hversion := (bound_of_run h).sealed s hs
  unfold containerRows sealedContainers
  refine List.filter_congr fun c _ => ?_
  have hany : ((w.db .claimSets).any fun set => set.id = c.claimSetId ∧ set.invoiceId = s.invoiceId) =
      (w.db .claimSets).any fun set => set.id = c.claimSetId ∧ set.invoiceId = s.invoiceId ∧
        set.claimSetVersion = s.claimSetVersion := by
    rw [Bool.eq_iff_iff, List.any_eq_true, List.any_eq_true]
    simp only [decide_eq_true_eq]
    constructor
    · rintro ⟨set, hset, hid, hinvoice⟩
      exact ⟨set, hset, hid, hinvoice, (hfirst set hset).trans hversion.symm⟩
    · rintro ⟨set, hset, hid, hinvoice, _⟩
      exact ⟨set, hset, hid, hinvoice⟩
  rw [hany]

end Runs

/-! ## One claim set an invoice -/

/-- In every run each invoice has at most one claim set. The claims a draft query may read
for a sealed invoice are the container claims of the claim set its seal binds, at most one;
and what every loaded pack carries is the text of that claim. -/
theorem one_claimSet [Sha256] [TzDatabase] [CharacterTables] (calls : List (TxnEnv × Call)) :
    let w := World.initial.run calls
    (w.db .claimSets).Pairwise (fun a b => a.invoiceId ≠ b.invoiceId) ∧
    ∀ s ∈ w.db .decisionSeals,
      (∃ set ∈ w.db .claimSets, set.invoiceId = s.invoiceId ∧
        set.claimSetVersion = s.claimSetVersion) ∧
      containerRows w.db s.invoiceId = sealedContainers w.db s ∧
      (sealedContainers w.db s).length ≤ 1 ∧
      ∀ pack ∈ w.packs, pack.decisionSealId = s.id →
        containerOf (sealedContainers w.db s) = .ok pack.containerRef := by
  intro w
  have hrun := runFrom_run World.initial calls
  have hsets := (healthy_of_run hrun).1.sets
  have hbound := bound_of_run hrun
  refine ⟨hsets.one, fun s hs => ?_⟩
  have hsame := containerRows_sealed hrun hs
  obtain ⟨set, hset, hinvoice⟩ := sealed_sourced hrun hs
  refine ⟨⟨set, hset, hinvoice, (hsets.first set hset).trans (hbound.sealed s hs).symm⟩, hsame, ?_, ?_⟩
  · rw [← hsame]
    exact containerRows_length hsets.one hbound.fields s.invoiceId
  · intro pack hpack hid
    obtain ⟨s', hs', hid', hinvoice'⟩ := (lineage_of_run hrun).packs pack hpack
    have hseal : s' = s :=
      eq_of_key (Approvals.paired_of_run hrun).ids hs' hs (hid'.trans hid)
    rw [← hsame, ← hseal, hinvoice']
    exact hbound.packs pack hpack

end Tally.Analysis.ClaimSets
