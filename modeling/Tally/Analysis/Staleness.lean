import Tally.Analysis.Lineage

/-!
# Staleness

A recommendation that decides is the last thing the pipeline produces for its invoice:
nothing is left to run, so neither a reconstruction nor a recommendation can follow. Only
a withheld one can be superseded, and approving it is not refused.
-/

set_option autoImplicit false

namespace Tally.Analysis.Staleness
open Library Library.Calendar Tally.Model AuthoritySealRepository Effects Pipeline

/-! ## The order of commits -/

/-- Rows are appended, so the later of two rows was committed after the other. -/
def CommittedAfter {α : Type} (rows : List α) (a b : α) : Prop := [a, b].Sublist rows

theorem CommittedAfter.mem {α : Type} {rows : List α} {a b : α} (h : CommittedAfter rows a b) :
    a ∈ rows ∧ b ∈ rows :=
  ⟨h.subset List.mem_cons_self, h.subset (List.mem_cons_of_mem _ List.mem_cons_self)⟩

theorem committedAfter_append {α : Type} {rows new : List α} {a b : α}
    (h : CommittedAfter (rows ++ new) a b) : CommittedAfter rows a b ∨ b ∈ new := by
  obtain ⟨left, right, heq, hleft, hright⟩ := List.sublist_append_iff.mp h
  rcases List.eq_nil_or_concat right with rfl | ⟨init, last, rfl⟩
  · rw [List.append_nil] at heq
    rw [← heq] at hleft
    exact Or.inl hleft
  · have hlast : b = last := by
      have := congrArg List.getLast? heq
      simpa using this
    rw [hlast]
    exact Or.inr (hright.subset (by simp))

/-! ## Settled recommendations -/

/-- Nothing is left to run for the invoice of a recommendation, and nothing was committed
for it after the recommendation and its reconstruction. -/
structure Settled (p : State) (r : RecommendationRow) : Prop where
  idle : ∀ t ∈ p.tasks, active t = true → t.invoiceId ≠ r.invoiceId
  reconstruction : ∀ row later, row.id = r.reconstructionId →
    CommittedAfter p.reconstructions row later → later.invoiceId ≠ r.invoiceId
  recommendation : ∀ later, CommittedAfter p.recommendations r later →
    later.invoiceId ≠ r.invoiceId

/-- Every recommendation that decides is settled. -/
def AllSettled (p : State) : Prop :=
  ∀ r ∈ p.recommendations, r.recommendationType ≠ .requestEvidence → Settled p r

/-- Some task of the invoice may still move. -/
def Busy (p : State) (invoiceId : Uuid) : Prop :=
  ∃ t ∈ p.tasks, active t = true ∧ t.invoiceId = invoiceId

theorem Settled.not_busy {p : State} {r : RecommendationRow} (h : Settled p r) :
    ¬ Busy p r.invoiceId := by
  rintro ⟨t, ht, hactive, hinvoice⟩
  exact h.idle t ht hactive hinvoice

/-- What grows only for busy invoices leaves a settled recommendation settled. -/
theorem Settled.grows {p p' : State} {r : RecommendationRow} (h : Settled p r)
    (htasks : ∀ t ∈ p'.tasks, active t = true → t.invoiceId = r.invoiceId → Busy p r.invoiceId)
    {rows : List ReconstructionRow} (hrows : p'.reconstructions = p.reconstructions ++ rows)
    (hrowsBusy : ∀ row ∈ rows, Busy p row.invoiceId) {recs : List RecommendationRow}
    (hrecs : p'.recommendations = p.recommendations ++ recs)
    (hrecsBusy : ∀ rec ∈ recs, Busy p rec.invoiceId) : Settled p' r := by
  refine ⟨fun t ht hactive hinvoice => h.not_busy (htasks t ht hactive hinvoice), ?_, ?_⟩
  · intro row later hid hafter hinvoice
    rw [hrows] at hafter
    rcases committedAfter_append hafter with hold | hnew
    · exact h.reconstruction row later hid hold hinvoice
    · exact h.not_busy (hinvoice ▸ hrowsBusy later hnew)
  · intro later hafter hinvoice
    rw [hrecs] at hafter
    rcases committedAfter_append hafter with hold | hnew
    · exact h.recommendation later hold hinvoice
    · exact h.not_busy (hinvoice ▸ hrecsBusy later hnew)

theorem busy_of_moved {p : State} {f : WorkflowTask → WorkflowTask} (hf : Moves p.tasks f) :
    ∀ t ∈ p.tasks.map f, active t = true → Busy p t.invoiceId := by
  intro u hu hactive
  obtain ⟨t, ht, rfl⟩ := List.mem_map.mp hu
  exact ⟨t, ht, hf.active_of ht hactive, (hf.same t ht).invoiceId.symm⟩

/-- A new recommendation that decides is settled: its task was the only one of its invoice,
and it is about the last reconstruction. -/
theorem settled_of_judged {p p' : State} {t t' : WorkflowTask} {row : RecommendationRow}
    (hhealthy : Healthy p) (hhealthy' : Healthy p') (hmem : t ∈ p.tasks)
    (hactive : active t = true) (hended : Ended .completed t t') (htype : t.taskType = .judgeDays)
    (hrow : NewRecommendation p t row) (htasks : p'.tasks = p.tasks.map (replaceTask t'))
    (hrows : p'.reconstructions = p.reconstructions)
    (hrecs : p'.recommendations = p.recommendations ++ [row]) : Settled p' row := by
  have hidle : active t' = false := by
    unfold active
    rw [hended.state]
  refine ⟨?_, ?_, ?_⟩
  · rw [htasks, hrow.invoiceId]
    exact hhealthy.tasks.idle_of_ended hmem hactive hended.toSameTask hidle
  · intro x later hid hafter hinvoice
    rw [hrows] at hafter
    obtain ⟨last, hlast, hlastId⟩ := hhealthy.versions.current t hmem hactive (Or.inr htype)
    obtain ⟨hx, hlater⟩ := hafter.mem
    have hreconstruction := hlastId.symm.trans hrow.reconstruction
    obtain rfl : x = last := eq_of_key hhealthy.versions.ids hx (lastOf_mem hlast).1
      (hid.trans (Option.some.inj hreconstruction).symm)
    have hlaterInvoice := hinvoice.trans hrow.invoiceId
    have hle := hhealthy.versions.le_last hlast hlater hlaterInvoice
    have hlt := (List.pairwise_cons.mp (hhealthy.versions.versions.sublist hafter)).1 later
      List.mem_cons_self ((lastOf_mem hlast).2.trans hlaterInvoice.symm)
    omega
  · intro later hafter _
    have hne := (List.pairwise_cons.mp (hhealthy'.recommendations.ids.sublist hafter)).1 later
      List.mem_cons_self
    rw [hrecs] at hafter
    rcases committedAfter_append hafter with hold | hnew
    · exact hrow.fresh row hold.mem.1 rfl
    · exact hne (by rw [List.mem_singleton.mp hnew])

theorem AllSettled.step [Sha256] {o : Occasion} {p p' : State} (h : AllSettled p)
    (hhealthy : Healthy p) (hworked : Worked p) (hstep : Step o p p') : AllSettled p' := by
  have hhealthy' := hhealthy.step hstep
  have hnil {α : Type} (xs : List α) : xs = xs ++ [] := (List.append_nil xs).symm
  have hbusy {t : WorkflowTask} {key : LeaseKey} (hmem : t ∈ p.tasks) (hruns : RunsUnder key t) :
      Busy p t.invoiceId := ⟨t, hmem, running_active hruns.state, rfl⟩
  -- the tasks after one has ended, and what it hands over to
  have hafter {t t' : WorkflowTask} {key : LeaseKey} {state : TaskState} {taskType : TaskType}
      {P : WorkflowTask → Prop} {new : List WorkflowTask} (hmem : t ∈ p.tasks)
      (hruns : RunsUnder key t) (hended : Ended state t t')
      (hnew : Follows p.tasks t taskType P new) :
      ∀ u ∈ p.tasks.map (replaceTask t') ++ new, active u = true → Busy p u.invoiceId := by
    intro u hu hactive
    rcases List.mem_append.mp hu with hold | hadded
    · exact busy_of_moved (hhealthy.tasks.moves_replace hmem (running_active hruns.state)
        hended.toSameTask) u hold hactive
    · rw [invoice_of_follows hnew u hadded]
      exact hbusy hmem hruns
  have hkept {q : State} (htasks : ∀ u ∈ q.tasks, active u = true → Busy p u.invoiceId)
      (hrows : q.reconstructions = p.reconstructions)
      (hrecs : q.recommendations = p.recommendations) : AllSettled q := by
    intro r hr hdecides
    rw [hrecs] at hr
    exact (h r hr hdecides).grows (fun t ht hactive hinvoice => hinvoice ▸ htasks t ht hactive)
      (hrows.trans (hnil _)) (List.forall_mem_nil _) (hrecs.trans (hnil _)) (List.forall_mem_nil _)
  have hpast : ∀ r ∈ p.recommendations, PastExtraction p.tasks r.invoiceId := by
    intro r hr
    obtain ⟨row, hrow, _, hinvoice⟩ := hhealthy.recommendations.reconstructed r hr
    rw [← hinvoice]
    exact hworked row hrow
  have hadded {n : WorkflowTask} (hother : ∀ r ∈ p.recommendations, n.invoiceId ≠ r.invoiceId) :
      AllSettled { p with tasks := p.tasks ++ [n] } := by
    intro r hr hdecides
    refine (h r hr hdecides).grows ?_ (hnil _) (List.forall_mem_nil _) (hnil _)
      (List.forall_mem_nil _)
    intro u hu hactive hinvoice
    rcases List.mem_append.mp hu with hold | hnew
    · exact ⟨u, hold, hactive, hinvoice⟩
    · rw [List.mem_singleton.mp hnew] at hinvoice
      exact absurd hinvoice (hother r hr)
  cases hstep with
  | same => exact h
  | received n hnew htype hn =>
      refine hadded fun r hr hinvoice => ?_
      obtain ⟨u, hu, huinvoice, _⟩ := hpast r hr
      exact (hnew u hu).2 (huinvoice.trans hinvoice.symm)
  | started t t' key hmem hactive hstart hworker hst hkey hrun =>
      exact hkept (busy_of_moved (hhealthy.tasks.moves_replace hmem hactive hst)) rfl rfl
  | failed t t' key state hmem hruns htype hend hstate =>
      exact hkept (busy_of_moved (hhealthy.tasks.moves_replace hmem (running_active hruns.state)
        hend.toSameTask)) rfl rfl
  | retried t n hmem hfailed htype hlatest hfresh hunstarted hn =>
      refine hadded fun r hr hinvoice => ?_
      obtain ⟨u, hu, huinvoice, hutype⟩ := hpast r hr
      have hothers := hhealthy.tasks.failed_of_latest hmem hfailed htype hlatest u hu
        (huinvoice.trans (hinvoice.symm.trans hn.2.1))
      exact hutype hothers.1
  | extracted t t' key s new hmem hruns htype hend hinvoice hversion hfresh hfollows =>
      exact hkept (hafter hmem hruns hend hfollows) rfl rfl
  | reconstructed t t' key rows new hmem hruns htype hend hrows =>
      intro r hr hdecides
      have hrowsBusy : ∀ row ∈ rows, Busy p row.invoiceId := by
        intro row hrow
        rcases hrows with ⟨rfl, _⟩ | ⟨_, rfl, hversion, _⟩
        · exact absurd hrow List.not_mem_nil
        · rw [List.mem_singleton.mp hrow, hversion.invoiceId]
          exact hbusy hmem hruns
      have htasks : ∀ u ∈ p.tasks.map (replaceTask t') ++ new, active u = true →
          Busy p u.invoiceId := by
        rcases hrows with ⟨_, rfl⟩ | ⟨_, _, _, hfollows⟩
        · have hnone : Follows p.tasks t .findApplicableRule (fun _ => True) [] := Or.inl rfl
          exact hafter hmem hruns hend hnone
        · exact hafter hmem hruns hend hfollows
      exact (h r hr hdecides).grows (fun u hu hactive hinvoice => hinvoice ▸ htasks u hu hactive)
        rfl hrowsBusy (hnil _) (List.forall_mem_nil _)
  | searched t t' key runs new hmem hruns htype hend hhands hfollows =>
      exact hkept (hafter hmem hruns hend hfollows) rfl rfl
  | judged t t' key rows new hmem hruns htype hend hrows hfollows =>
      intro r hr hdecides
      have htasks := hafter hmem hruns hend hfollows
      have hrowsBusy : ∀ row ∈ rows, Busy p row.invoiceId := by
        intro row hrow
        rcases hrows with ⟨rfl, _⟩ | ⟨_, rfl, hnew⟩
        · exact absurd hrow List.not_mem_nil
        · rw [List.mem_singleton.mp hrow, hnew.invoiceId]
          exact hbusy hmem hruns
      rcases List.mem_append.mp hr with hold | hadded
      · exact (h r hold hdecides).grows (fun u hu hactive hinvoice => hinvoice ▸ htasks u hu hactive)
          (hnil _) (List.forall_mem_nil _) rfl hrowsBusy
      · rcases hrows with ⟨rfl, _⟩ | ⟨row, rfl, hnew⟩
        · exact absurd hadded List.not_mem_nil
        · obtain rfl := List.mem_singleton.mp hadded
          -- a decision hands over to nothing
          have hnone : new = [] := by
            rcases hfollows with hnone | ⟨_, _, _, _, _, _, hwithheld⟩
            · exact hnone
            · exact absurd (hwithheld r (List.mem_singleton_self _)) hdecides
          refine settled_of_judged hhealthy hhealthy' hmem (running_active hruns.state) hend htype
            hnew ?_ rfl rfl
          rw [hnone, List.append_nil]
  | bound t t' key new hmem hruns htype hbinds hend hfollows =>
      exact hkept (hafter hmem hruns hend hfollows) rfl rfl
  | released f hf hattempt => exact hkept (busy_of_moved hf) rfl rfl

/-! ## Approvals -/

/-- A recommendation that may be sealed: nothing for its invoice was committed after it or
after its reconstruction, and it decides. -/
structure Sealable (db : Db) (r : RecommendationRow) : Prop where
  reconstruction : ∀ row later, row.id = r.reconstructionId →
    CommittedAfter (db .reconstructions) row later → later.invoiceId ≠ r.invoiceId
  recommendation : ∀ later, CommittedAfter (db .recommendations) r later →
    later.invoiceId ≠ r.invoiceId
  decides : r.recommendationType ≠ .requestEvidence

section Runs

variable [Sha256] [TzDatabase] [CharacterTables]

theorem allSettled_of_run {allowed : World → TxnEnv → Call → Prop} {w : World}
    (h : Run allowed w) : AllSettled (pipelineOf w) := by
  have hboth := pipeline_of_run (fun p => Worked p ∧ AllSettled p)
    ⟨fun _ hrow => absurd hrow List.not_mem_nil, fun _ hr => absurd hr List.not_mem_nil⟩
    (fun _ _ _ _ hhealthy hinv _ hstep =>
      ⟨hinv.1.step hhealthy hstep, hinv.2.step hhealthy hinv.1 hstep⟩) h
  exact hboth.2

end Runs

section Case
open Sample

local instance : Sha256 := Sha256.standard
local instance : TzDatabase := zone
local instance : CharacterTables := ascii

/-- A withheld decision, superseded by the reconstruction its access binding resumed. -/
def superseded : World :=
  play World.initial 1 (withheld ++ bound "w5" ++ reconstructed "w6" sourcedRows)

-- one block, so that the evaluations are made one after the other
mutual

theorem superseded_run : Run (fun _ _ _ => True) superseded := run_play _ _ _

theorem superseded_approved : ∃ rec ∈ superseded.db .recommendations,
    (approveAndSeal (env 40) (requestFor "k1" "ann" rec) superseded.db).map
      (fun p => p.1.alreadySealed) = .ok false ∧
    rec.recommendationType = .requestEvidence ∧
    ∃ row ∈ superseded.db .reconstructions, ∃ later ∈ superseded.db .reconstructions,
      row.id = rec.reconstructionId ∧ later.invoiceId = rec.invoiceId ∧
      CommittedAfter (superseded.db .reconstructions) row later := by
  unfold CommittedAfter
  decide +kernel

end

end Case

end Tally.Analysis.Staleness
