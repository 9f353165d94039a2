import Tally.Analysis.Frames
import Tally.Analysis.PipelineRefinement

/-!
# Lineage

Nothing the pipeline refers to is lost: tasks keep their identity, recommendations stay,
and every recommendation, seal, loaded pack and draft belongs to the invoice of what it
was made from. An invoice with any of them is past its extraction.
-/

set_option autoImplicit false

namespace Tally.Analysis.Pipeline
open Library Library.Calendar Tally.Model CorrespondenceRepository AuthoritySealRepository Effects

/-! ## What a step keeps -/

/-- What a step keeps: every task, every recommendation, and the reconstructions, to
which it adds only new ones. -/
theorem kept_of_step [Sha256] {o : Occasion} {p p' : State} (hhealthy : Healthy p)
    (hstep : Step o p p') :
    (∀ t ∈ p.tasks, ∃ t' ∈ p'.tasks, SameTask t t') ∧
    (∀ r ∈ p.recommendations, r ∈ p'.recommendations) ∧
    ∀ row ∈ p'.reconstructions, row ∈ p.reconstructions ∨
      ∀ r ∈ p.reconstructions, r.id ≠ row.id := by
  have htasks := hhealthy.tasks
  have hmoved {f : WorkflowTask → WorkflowTask} {tasks : List WorkflowTask}
      (hf : Moves p.tasks f) (hsub : ∀ u ∈ p.tasks.map f, u ∈ tasks) :
      ∀ t ∈ p.tasks, ∃ t' ∈ tasks, SameTask t t' := fun t ht =>
    ⟨f t, hsub _ (List.mem_map_of_mem ht), hf.same t ht⟩
  have hended {t t' : WorkflowTask} {key : LeaseKey} {state : TaskState} (hmem : t ∈ p.tasks)
      (hruns : RunsUnder key t) (hended : Ended state t t') : Moves p.tasks (replaceTask t') :=
    htasks.moves_replace hmem (running_active hruns.state) hended.toSameTask
  have hrefl {tasks : List WorkflowTask} (hsub : ∀ u ∈ p.tasks, u ∈ tasks) :
      ∀ t ∈ p.tasks, ∃ t' ∈ tasks, SameTask t t' := fun t ht => ⟨t, hsub t ht, SameTask.refl t⟩
  have hsame : ∀ row ∈ p.reconstructions, row ∈ p.reconstructions ∨
      ∀ r ∈ p.reconstructions, r.id ≠ row.id := fun _ hrow => Or.inl hrow
  have hleft {α : Type} {xs ys : List α} : ∀ x ∈ xs, x ∈ xs ++ ys := fun _ hx =>
    List.mem_append_left _ hx
  cases hstep with
  | same => exact ⟨hrefl fun _ hu => hu, fun _ hr => hr, hsame⟩
  | received n hnew htype hn => exact ⟨hrefl hleft, fun _ hr => hr, hsame⟩
  | started t t' key hmem hactive hstart hworker hst hkey hrun =>
      exact ⟨hmoved (htasks.moves_replace hmem hactive hst) fun _ hu => hu, fun _ hr => hr, hsame⟩
  | failed t t' key state hmem hruns htype hend hstate =>
      exact ⟨hmoved (hended hmem hruns hend) fun _ hu => hu, fun _ hr => hr, hsame⟩
  | retried t n hmem hfailed htype hlatest hfresh hunstarted hn =>
      exact ⟨hrefl hleft, fun _ hr => hr, hsame⟩
  | extracted t t' key s new hmem hruns htype hend hinvoice hversion hfresh hfollows =>
      exact ⟨hmoved (hended hmem hruns hend) hleft, fun _ hr => hr, hsame⟩
  | reconstructed t t' key rows new hmem hruns htype hend hrows =>
      refine ⟨hmoved (hended hmem hruns hend) hleft, fun _ hr => hr, ?_⟩
      intro row hrow
      rcases List.mem_append.mp hrow with hold | hadded
      · exact Or.inl hold
      · rcases hrows with ⟨rfl, _⟩ | ⟨_, rfl, hversion, _⟩
        · exact absurd hadded List.not_mem_nil
        · rw [List.mem_singleton.mp hadded]
          exact Or.inr fun r hr => (hversion.fresh r hr).1
  | searched t t' key runs new hmem hruns htype hend hhands hfollows =>
      exact ⟨hmoved (hended hmem hruns hend) hleft, fun _ hr => hr, hsame⟩
  | judged t t' key rows new hmem hruns htype hend hrows hfollows =>
      exact ⟨hmoved (hended hmem hruns hend) hleft, hleft, hsame⟩
  | bound t t' key new hmem hruns htype hbinds hend hfollows =>
      exact ⟨hmoved (hended hmem hruns hend) hleft, fun _ hr => hr, hsame⟩
  | released f hf hattempt =>
      exact ⟨hmoved hf fun _ hu => hu, fun _ hr => hr, hsame⟩

/-- An invoice has a task after its extraction. -/
def PastExtraction (tasks : List WorkflowTask) (invoiceId : Uuid) : Prop :=
  ∃ t ∈ tasks, t.invoiceId = invoiceId ∧ t.taskType ≠ .extractInvoiceClaims

/-- Every reconstruction is of an invoice past its extraction. -/
def Worked (p : State) : Prop := ∀ row ∈ p.reconstructions, PastExtraction p.tasks row.invoiceId

theorem PastExtraction.kept {tasks tasks' : List WorkflowTask} {invoiceId : Uuid}
    (h : PastExtraction tasks invoiceId) (hkept : ∀ t ∈ tasks, ∃ t' ∈ tasks', SameTask t t') :
    PastExtraction tasks' invoiceId := by
  obtain ⟨t, ht, hinvoice, htype⟩ := h
  obtain ⟨t', ht', hsame⟩ := hkept t ht
  exact ⟨t', ht', hsame.invoiceId.trans hinvoice, hsame.taskType ▸ htype⟩

theorem Worked.step [Sha256] {o : Occasion} {p p' : State} (h : Worked p) (hhealthy : Healthy p)
    (hstep : Step o p p') : Worked p' := by
  have hkept := (kept_of_step hhealthy hstep).1
  have hold : ∀ row ∈ p.reconstructions, PastExtraction p'.tasks row.invoiceId :=
    fun row hrow => (h row hrow).kept hkept
  cases hstep with
  | reconstructed t t' key rows new hmem hruns htype hended hrows =>
      intro row hrow
      rcases List.mem_append.mp hrow with hrow | hrow
      · exact hold row hrow
      · rcases hrows with ⟨rfl, _⟩ | ⟨_, rfl, hversion, _⟩
        · exact absurd hrow List.not_mem_nil
        · rw [List.mem_singleton.mp hrow, hversion.invoiceId]
          have hlater : PastExtraction p.tasks t.invoiceId :=
            ⟨t, hmem, rfl, by rw [htype]; decide⟩
          exact hlater.kept hkept
  | _ => exact hold

/-- A task that follows another is of its invoice. -/
theorem invoice_of_follows {tasks new : List WorkflowTask} {t : WorkflowTask} {taskType : TaskType}
    {P : WorkflowTask → Prop} (h : Follows tasks t taskType P new) :
    ∀ n ∈ new, n.invoiceId = t.invoiceId := by
  intro n hn
  rcases h with rfl | ⟨_, rfl, _, _, hinvoice, _⟩
  · exact absurd hn List.not_mem_nil
  · rw [List.mem_singleton.mp hn, hinvoice]

/-! ## What belongs to what -/

/-- Seals, packs and drafts belong to the invoice of what they were made from. -/
structure Lineage (w : World) : Prop where
  seals : ∀ s ∈ w.db .decisionSeals, ∃ r ∈ w.db .recommendations, r.id = s.recommendationId ∧
    r.invoiceId = s.invoiceId ∧ r.reconstructionId = s.reconstructionId ∧
    r.applicableRuleId = s.applicableRuleId
  packs : ∀ p ∈ w.packs, ∃ s ∈ w.db .decisionSeals, s.id = p.decisionSealId ∧
    s.invoiceId = p.invoiceId
  drafts : ∀ d ∈ w.db .correspondenceDrafts, ∃ s ∈ w.db .decisionSeals, s.id = d.decisionSealId ∧
    s.invoiceId = d.invoiceId

theorem lineage_initial : Lineage World.initial :=
  ⟨fun _ h => absurd h List.not_mem_nil, fun _ h => absurd h List.not_mem_nil,
    fun _ h => absurd h List.not_mem_nil⟩

section Steps

variable [Sha256] [TzDatabase] [CharacterTables] {w w' : World} {env : TxnEnv} {c : Call}

theorem recommendations_kept (hstep : Transition w env c w') :
    ∀ r ∈ w.db .recommendations, r ∈ w'.db .recommendations := by
  intro r hr
  rcases recommendations_step hstep with hsame | ⟨_, _, _, _, row, _, _, _, _, _, hjudges⟩
  · rwa [hsame]
  · rw [hjudges.rows]
    exact List.mem_append_left _ hr

theorem seals_kept (hstep : Transition w env c w') :
    ∀ s ∈ w.db .decisionSeals, s ∈ w'.db .decisionSeals := by
  intro s hs
  rcases seals_step hstep with ⟨_, hsame⟩ | ⟨_, _, _, _, hfresh⟩
  · rwa [hsame]
  · rcases hfresh.seals.seals with ⟨_, hsame⟩ | ⟨hrows, _⟩
    · rwa [hsame]
    · rw [hrows]
      exact List.mem_append_left _ hs

theorem drafts_kept (hstep : Transition w env c w') :
    ∀ d ∈ w.db .correspondenceDrafts, d ∈ w'.db .correspondenceDrafts := by
  intro d hd
  rcases drafts_step hstep with hsame | ⟨_, _, _, _, _, _, _, _, _, hrows⟩
  · rwa [hsame]
  · rw [hrows]
    exact List.mem_append_left _ hd

theorem Lineage.step (h : Lineage w) (hstep : Transition w env c w') : Lineage w' := by
  have hrecs := recommendations_kept hstep
  have hseals := seals_kept hstep
  constructor
  · have hold : ∀ s ∈ w.db .decisionSeals, ∃ r ∈ w'.db .recommendations,
        r.id = s.recommendationId ∧ r.invoiceId = s.invoiceId ∧
          r.reconstructionId = s.reconstructionId ∧ r.applicableRuleId = s.applicableRuleId := by
      intro s hs
      obtain ⟨r, hr, hrest⟩ := h.seals s hs
      exact ⟨r, hrecs r hr, hrest⟩
    intro s hs
    rcases seals_step hstep with ⟨_, hsame⟩ | ⟨request, rec, approval, _, hfresh⟩
    · rw [hsame] at hs
      exact hold s hs
    · rcases hfresh.seals.seals with ⟨_, hsame⟩ | ⟨hrows, _⟩
      · rw [hsame] at hs
        exact hold s hs
      · rw [hrows] at hs
        rcases List.mem_append.mp hs with hs | hs
        · exact hold s hs
        · rw [List.mem_singleton.mp hs]
          exact ⟨rec, hrecs rec hfresh.mem.1, rfl, rfl, rfl, rfl⟩
  · intro pack hpack
    rcases packs_step hstep pack hpack with hold | ⟨sealId, hok⟩
    · obtain ⟨s, hs, hrest⟩ := h.packs pack hold
      exact ⟨s, hseals s hs, hrest⟩
    · obtain ⟨_, hid, s, hs, hsid, hinvoice, _⟩ := loadSealedFactPack_ok hok
      exact ⟨s, hseals s hs, hsid.trans hid.symm, hinvoice.symm⟩
  · have hold : ∀ d ∈ w.db .correspondenceDrafts, ∃ s ∈ w'.db .decisionSeals,
        s.id = d.decisionSealId ∧ s.invoiceId = d.invoiceId := by
      intro d hd
      obtain ⟨s, hs, hrest⟩ := h.drafts d hd
      exact ⟨s, hseals s hs, hrest⟩
    intro d hd
    rcases drafts_step hstep with hsame | ⟨pack, _, d', _, hpack, hinvoice, hseal, _, _, hrows⟩
    · rw [hsame] at hd
      exact hold d hd
    · rw [hrows] at hd
      rcases List.mem_append.mp hd with hd | hd
      · exact hold d hd
      · obtain ⟨s, hs, hsid, hsinvoice⟩ := h.packs pack hpack
        rw [List.mem_singleton.mp hd, hseal, hinvoice]
        exact ⟨s, hseals s hs, hsid, hsinvoice⟩

end Steps

section Runs

variable [Sha256] [TzDatabase] [CharacterTables] {allowed : World → TxnEnv → Call → Prop}
  {w : World}

theorem lineage_of_run (h : Run allowed w) : Lineage w :=
  h.invariant Lineage lineage_initial fun _ _ _ _ hinv _ hstep => hinv.step hstep

theorem worked_of_run (h : Run allowed w) : Worked (pipelineOf w) :=
  pipeline_of_run Worked (fun _ hrow => absurd hrow List.not_mem_nil)
    (fun _ _ _ _ hhealthy hinv _ hstep => hinv.step hhealthy hstep) h

/-- A recommended invoice is past its extraction. -/
theorem recommended_past (h : Run allowed w) {r : RecommendationRow}
    (hr : r ∈ w.db .recommendations) : PastExtraction (w.db .workflowTasks) r.invoiceId := by
  obtain ⟨row, hrow, _, hinvoice⟩ := (healthy_of_run h).1.recommendations.reconstructed r hr
  rw [← hinvoice]
  exact worked_of_run h row hrow

/-- So is one with a draft. -/
theorem drafted_past (h : Run allowed w) {d : CorrespondenceDraft}
    (hd : d ∈ w.db .correspondenceDrafts) :
    PastExtraction (w.db .workflowTasks) d.invoiceId := by
  have hlineage := lineage_of_run h
  obtain ⟨s, hs, _, hdraft⟩ := hlineage.drafts d hd
  obtain ⟨r, hr, _, hseal, _⟩ := hlineage.seals s hs
  rw [← hdraft, ← hseal]
  exact recommended_past h hr

end Runs

end Tally.Analysis.Pipeline
