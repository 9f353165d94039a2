import Tally.Analysis.Pipeline

/-!
# Invariants of the pipeline

Every step of the pipeline keeps its tasks in order, gives an invoice at most one
claim set, numbers its reconstructions in the order they are appended, and lets a
rule search or a judgment under way see the last of them.
-/

set_option autoImplicit false

namespace Tally.Analysis.Pipeline
open Library Tally.Model ApplicableRuleRepository

/-! ## Claim sets -/

/-- One claim set an invoice, of version 1, after a completed extraction. -/
structure SetsInv (p : State) : Prop where
  first : ∀ s ∈ p.claimSets, s.claimSetVersion = 1
  extracted : ∀ s ∈ p.claimSets, ∃ e ∈ p.tasks, e.taskType = .extractInvoiceClaims ∧
    e.invoiceId = s.invoiceId ∧ e.state = .completed
  one : p.claimSets.Pairwise fun a b => a.invoiceId ≠ b.invoiceId

/-! ## Reconstructions and recommendations -/

/-- The reconstructions of the machine, and the tasks that refer to them. -/
structure VersionsInv (p : State) : Prop where
  ids : p.reconstructions.Pairwise fun a b => a.id ≠ b.id
  versions : p.reconstructions.Pairwise fun a b => a.invoiceId = b.invoiceId → a.version < b.version
  fingerprints : p.reconstructions.Pairwise fun a b =>
    ¬(a.invoiceId = b.invoiceId ∧ a.inputFingerprint = b.inputFingerprint)
  current : ∀ t ∈ p.tasks, active t = true →
    t.taskType = .findApplicableRule ∨ t.taskType = .judgeDays →
    ∃ row, lastOf p.reconstructions t.invoiceId = some row ∧
      reconstructionIdOf t.inputObjectRefs = some row.id

/-- The recommendations of the machine follow its reconstructions. -/
structure RecommendationsInv (p : State) : Prop where
  ids : p.recommendations.Pairwise fun a b => a.id ≠ b.id
  reconstructed : ∀ r ∈ p.recommendations, ∃ row ∈ p.reconstructions,
    row.id = r.reconstructionId ∧ row.invoiceId = r.invoiceId
  ordered : p.recommendations.Pairwise fun a b => a.invoiceId = b.invoiceId →
    ∀ x ∈ p.reconstructions, ∀ y ∈ p.reconstructions, x.id = a.reconstructionId →
      y.id = b.reconstructionId → x.version ≤ y.version
  versions : p.recommendations.Pairwise fun a b =>
    a.reconstructionId = b.reconstructionId → a.version < b.version

structure Healthy (p : State) : Prop where
  tasks : TasksInv p.tasks
  sets : SetsInv p
  versions : VersionsInv p
  recommendations : RecommendationsInv p

theorem lastOf_mem {rows : List ReconstructionRow} {invoiceId : Uuid} {row : ReconstructionRow}
    (h : lastOf rows invoiceId = some row) : row ∈ rows ∧ row.invoiceId = invoiceId := by
  have hmem := List.mem_of_getLast? h
  rw [List.mem_filter] at hmem
  exact ⟨hmem.1, by simpa using hmem.2⟩

theorem lastOf_append_same {rows : List ReconstructionRow} {row : ReconstructionRow} :
    lastOf (rows ++ [row]) row.invoiceId = some row := by
  unfold lastOf
  rw [List.filter_append]
  simp

theorem lastOf_append_other {rows : List ReconstructionRow} {row : ReconstructionRow}
    {invoiceId : Uuid} (h : row.invoiceId ≠ invoiceId) :
    lastOf (rows ++ [row]) invoiceId = lastOf rows invoiceId := by
  unfold lastOf
  rw [List.filter_append]
  simp [h]

/-- Versions increase, so the last one is the highest. -/
theorem VersionsInv.le_last {p : State} (h : VersionsInv p) {invoiceId : Uuid}
    {last row : ReconstructionRow} (hlast : lastOf p.reconstructions invoiceId = some last)
    (hrow : row ∈ p.reconstructions) (hinvoice : row.invoiceId = invoiceId) :
    row.version ≤ last.version := by
  have hlastInvoice := (lastOf_mem hlast).2
  unfold lastOf at hlast
  have hpair := h.versions.filter fun r => r.invoiceId = invoiceId
  obtain ⟨xs, hxs⟩ := List.getLast?_eq_some_iff.mp hlast
  have hmem : row ∈ p.reconstructions.filter fun r => r.invoiceId = invoiceId :=
    List.mem_filter.mpr ⟨hrow, by simpa using hinvoice⟩
  rw [hxs] at hpair hmem
  rcases List.mem_append.mp hmem with hmem | hmem
  · have hlt := (List.pairwise_append.mp hpair).2.2 row hmem last (by simp)
    exact (hlt (hinvoice.trans hlastInvoice.symm)).le
  · rw [List.mem_singleton.mp hmem]

/-! ## Rows of the task table -/

/-- The invariants are about the tasks and what they leave behind. -/
theorem Healthy.of_same {p p' : State} (h : Healthy p) (htasks : p'.tasks = p.tasks)
    (hsets : p'.claimSets = p.claimSets) (hversions : p'.reconstructions = p.reconstructions)
    (hrecs : p'.recommendations = p.recommendations) : Healthy p' := by
  obtain ⟨tasks, keys, attempts, completed, claimSets, reconstructions, runs, recs⟩ := p
  obtain ⟨tasks', keys', attempts', completed', claimSets', reconstructions', runs', recs'⟩ := p'
  dsimp only at htasks hsets hversions hrecs
  subst htasks hsets hversions hrecs
  exact ⟨h.tasks, ⟨h.sets.first, h.sets.extracted, h.sets.one⟩,
    ⟨h.versions.ids, h.versions.versions, h.versions.fingerprints, h.versions.current⟩,
    ⟨h.recommendations.ids, h.recommendations.reconstructed, h.recommendations.ordered,
      h.recommendations.versions⟩⟩

/-- A step that changes the task table only by moves of its rows. -/
theorem Healthy.of_moves {p : State} (h : Healthy p) {f : WorkflowTask → WorkflowTask}
    (hf : Moves p.tasks f) : Healthy { p with tasks := p.tasks.map f } := by
  refine ⟨h.tasks.map hf, ⟨h.sets.first, ?_, h.sets.one⟩, ⟨h.versions.ids, h.versions.versions,
    h.versions.fingerprints, ?_⟩, ⟨h.recommendations.ids, h.recommendations.reconstructed,
    h.recommendations.ordered, h.recommendations.versions⟩⟩
  · intro s hs
    obtain ⟨e, he, htype, hinvoice, hstate⟩ := h.sets.extracted s hs
    exact ⟨e, List.mem_map.mpr ⟨e, he, hf.completed he (Or.inl hstate)⟩, htype, hinvoice, hstate⟩
  · intro t' ht' hactive htype
    obtain ⟨t, ht, rfl⟩ := List.mem_map.mp ht'
    rw [(hf.same t ht).taskType] at htype
    rw [(hf.same t ht).invoiceId, (hf.same t ht).inputObjectRefs]
    exact h.versions.current t ht (hf.active_of ht hactive) htype

/-- A step that appends one task of an idle invoice. -/
theorem Healthy.of_append {p : State} (h : Healthy p) {n : WorkflowTask}
    (htasks : TasksInv (p.tasks ++ [n]))
    (hcurrent : n.taskType = .findApplicableRule ∨ n.taskType = .judgeDays →
      ∃ row, lastOf p.reconstructions n.invoiceId = some row ∧
        reconstructionIdOf n.inputObjectRefs = some row.id) :
    Healthy { p with tasks := p.tasks ++ [n] } := by
  refine ⟨htasks, ⟨h.sets.first, ?_, h.sets.one⟩, ⟨h.versions.ids, h.versions.versions,
    h.versions.fingerprints, ?_⟩, ⟨h.recommendations.ids, h.recommendations.reconstructed,
    h.recommendations.ordered, h.recommendations.versions⟩⟩
  · intro s hs
    obtain ⟨e, he, hrest⟩ := h.sets.extracted s hs
    exact ⟨e, List.mem_append_left _ he, hrest⟩
  · intro t ht hactive htype
    rcases List.mem_append.mp ht with hold | hnew
    · exact h.versions.current t hold hactive htype
    · rw [List.mem_singleton.mp hnew] at htype ⊢
      exact hcurrent htype

/-- Completing the one active task of an invoice leaves it idle, with an extraction
completed. -/
theorem Healthy.of_completed {p : State} (h : Healthy p) {t t' : WorkflowTask} {key : LeaseKey}
    (hmem : t ∈ p.tasks) (hruns : RunsUnder key t) (hended : Ended .completed t t') :
    Healthy { p with tasks := p.tasks.map (replaceTask t') } ∧
      (∀ u ∈ p.tasks.map (replaceTask t'), active u = true → u.invoiceId ≠ t.invoiceId) ∧
      ∃ e ∈ p.tasks.map (replaceTask t'), e.taskType = .extractInvoiceClaims ∧
        e.invoiceId = t.invoiceId ∧ e.state = .completed := by
  have hactive : active t = true := by
    unfold active
    rw [hruns.state]
  have hidle : active t' = false := by
    unfold active
    rw [hended.state]
  have hf := h.tasks.moves_replace hmem hactive hended.toSameTask
  refine ⟨h.of_moves hf,
    h.tasks.idle_of_ended hmem hactive hended.toSameTask hidle, ?_⟩
  have hmem' : t' ∈ p.tasks.map (replaceTask t') :=
    List.mem_map.mpr ⟨t, hmem, if_pos hended.id.symm⟩
  by_cases htype : t.taskType = .extractInvoiceClaims
  · exact ⟨t', hmem', hended.taskType.trans htype, hended.invoiceId, hended.state⟩
  · obtain ⟨e, he, hetype, hinvoice, hstate⟩ := h.tasks.extracted t hmem htype
    exact ⟨e, List.mem_map.mpr ⟨e, he, hf.completed he (Or.inl hstate)⟩, hetype, hinvoice, hstate⟩

/-- The task a completion hands over to. -/
theorem Healthy.of_follows {p : State} (h : Healthy p) {tasks : List WorkflowTask}
    {t t' : WorkflowTask} {taskType : TaskType} {P : WorkflowTask → Prop}
    {new : List WorkflowTask} (htasks : p.tasks = tasks.map (replaceTask t'))
    (hfollows : Follows tasks t taskType P new) (htype : taskType ≠ .extractInvoiceClaims)
    (hidle : ∀ u ∈ p.tasks, active u = true → u.invoiceId ≠ t.invoiceId)
    (hextracted : ∃ e ∈ p.tasks, e.taskType = .extractInvoiceClaims ∧ e.invoiceId = t.invoiceId ∧
      e.state = .completed)
    (hcurrent : taskType = .findApplicableRule ∨ taskType = .judgeDays → ∀ n, P n →
      ∃ row, lastOf p.reconstructions t.invoiceId = some row ∧
        reconstructionIdOf n.inputObjectRefs = some row.id) :
    Healthy { p with tasks := p.tasks ++ new } := by
  rcases hfollows with rfl | ⟨n, rfl, hfresh, hn, hinvoice, _, hP⟩
  · rw [List.append_nil]
    exact h
  · refine h.of_append (h.tasks.append ?_ ?_ ?_ ?_) ?_
    · intro u hu
      rw [htasks] at hu
      obtain ⟨v, hv, rfl⟩ := List.mem_map.mp hu
      unfold replaceTask
      split
      · rename_i hid
        rw [← hid]
        exact hfresh v hv
      · exact hfresh v hv
    · rw [hinvoice]
      exact hidle
    · intro hext
      exact absurd (hn.symm.trans hext) htype
    · intro _
      rw [hinvoice]
      exact hextracted
    · rw [hn, hinvoice]
      exact fun hcase => hcurrent hcase n hP

/-! ## Steps -/

theorem nextNumber_nil : nextNumber [] = 1 := rfl

/-- An extraction under way means that its invoice has no claim set. -/
theorem Healthy.no_claimSet {p : State} (h : Healthy p) {t : WorkflowTask} (hmem : t ∈ p.tasks)
    (htype : t.taskType = .extractInvoiceClaims) (hstate : t.state = .running) :
    ∀ s ∈ p.claimSets, s.invoiceId ≠ t.invoiceId := by
  intro s hs hinvoice
  obtain ⟨e, he, hetype, heinvoice, hestate⟩ := h.sets.extracted s hs
  rcases h.tasks.extractions e he t hmem hetype htype (heinvoice.trans hinvoice) with
    hid | ⟨hfailed, _⟩ | ⟨hfailed, _⟩
  · rw [h.tasks.eq_of_id he hmem hid, hstate] at hestate
    exact nomatch hestate
  · rw [hfailed] at hestate
    exact nomatch hestate
  · rw [hfailed] at hstate
    exact nomatch hstate

theorem Healthy.extracted {p : State} (h : Healthy p) {t t' : WorkflowTask} {key : LeaseKey}
    {s : ClaimSet} {new : List WorkflowTask} (hmem : t ∈ p.tasks) (hruns : RunsUnder key t)
    (htype : t.taskType = .extractInvoiceClaims) (hended : Ended .completed t t')
    (hinvoice : s.invoiceId = t.invoiceId)
    (hversion : s.claimSetVersion = nextNumber ((p.claimSets.filter fun s =>
      s.invoiceId = t.invoiceId).map ClaimSet.claimSetVersion))
    (hnew : Follows p.tasks t .startReconstruction (fun _ => True) new) :
    Healthy { p with
      tasks := p.tasks.map (replaceTask t') ++ new
      claimSets := p.claimSets ++ [s] } := by
  have hnone := h.no_claimSet hmem htype hruns.state
  obtain ⟨hdone, hidle, e, he, hetype, heinvoice, hestate⟩ :=
    h.of_completed hmem hruns hended
  have hfilter : p.claimSets.filter (fun s => s.invoiceId = t.invoiceId) = [] := by
    rw [List.filter_eq_nil_iff]
    intro s' hs'
    simpa using hnone s' hs'
  have hsets : SetsInv { p with
      tasks := p.tasks.map (replaceTask t'), claimSets := p.claimSets ++ [s] } := by
    refine ⟨?_, ?_, ?_⟩
    · intro s' hs'
      rcases List.mem_append.mp hs' with hold | hnew
      · exact h.sets.first s' hold
      · rw [List.mem_singleton.mp hnew, hversion, hfilter]
        rfl
    · intro s' hs'
      rcases List.mem_append.mp hs' with hold | hnew
      · exact hdone.sets.extracted s' hold
      · rw [List.mem_singleton.mp hnew]
        exact ⟨e, he, hetype, heinvoice.trans hinvoice.symm, hestate⟩
    · rw [List.pairwise_append]
      refine ⟨h.sets.one, List.pairwise_singleton _ _, ?_⟩
      intro a ha b hb
      rw [List.mem_singleton.mp hb, hinvoice]
      exact hnone a ha
  have hmid : Healthy { p with
      tasks := p.tasks.map (replaceTask t'), claimSets := p.claimSets ++ [s] } :=
    ⟨hdone.tasks, hsets, ⟨hdone.versions.ids, hdone.versions.versions,
      hdone.versions.fingerprints, hdone.versions.current⟩, ⟨hdone.recommendations.ids,
      hdone.recommendations.reconstructed, hdone.recommendations.ordered,
      hdone.recommendations.versions⟩⟩
  exact hmid.of_follows rfl hnew (by decide) hidle ⟨e, he, hetype, heinvoice, hestate⟩ (by simp)

theorem Healthy.reconstructed {p : State} (h : Healthy p) {t t' : WorkflowTask} {key : LeaseKey}
    {row : ReconstructionRow} {new : List WorkflowTask} (hmem : t ∈ p.tasks)
    (hruns : RunsUnder key t) (hended : Ended .completed t t') (hrow : NewVersion p t row)
    (hnew : Follows p.tasks t .findApplicableRule
      (fun n => reconstructionIdOf n.inputObjectRefs = some row.id) new) :
    Healthy { p with
      tasks := p.tasks.map (replaceTask t') ++ new
      reconstructions := p.reconstructions ++ [row] } := by
  obtain ⟨hdone, hidle, hextracted⟩ := h.of_completed hmem hruns hended
  have hpairs {R : ReconstructionRow → ReconstructionRow → Prop}
      (hold : p.reconstructions.Pairwise R) (hlast : ∀ r ∈ p.reconstructions, R r row) :
      (p.reconstructions ++ [row]).Pairwise R := by
    rw [List.pairwise_append]
    refine ⟨hold, List.pairwise_singleton _ _, fun a ha b hb => ?_⟩
    rw [List.mem_singleton.mp hb]
    exact hlast a ha
  have hversions : VersionsInv { p with
      tasks := p.tasks.map (replaceTask t')
      reconstructions := p.reconstructions ++ [row] } := by
    refine ⟨hpairs h.versions.ids fun r hr => (hrow.fresh r hr).1,
      hpairs h.versions.versions fun r hr hinvoice => hrow.version r hr
        (hinvoice.trans hrow.invoiceId),
      hpairs h.versions.fingerprints fun r hr => (hrow.fresh r hr).2, ?_⟩
    intro u hu hactive htype
    obtain ⟨last, hlast, hid⟩ := hdone.versions.current u hu hactive htype
    have hne : row.invoiceId ≠ u.invoiceId := fun heq =>
      hidle u hu hactive (heq.symm.trans hrow.invoiceId)
    exact ⟨last, (lastOf_append_other hne).trans hlast, hid⟩
  have hrecs : RecommendationsInv { p with
      tasks := p.tasks.map (replaceTask t')
      reconstructions := p.reconstructions ++ [row] } := by
    refine ⟨h.recommendations.ids, ?_, ?_, h.recommendations.versions⟩
    · intro r hr
      obtain ⟨x, hx, hrest⟩ := h.recommendations.reconstructed r hr
      exact ⟨x, List.mem_append_left _ hx, hrest⟩
    · have hold (r : RecommendationRow) (hr : r ∈ p.recommendations) (x : ReconstructionRow)
          (hx : x ∈ p.reconstructions ++ [row]) (hid : x.id = r.reconstructionId) :
          x ∈ p.reconstructions := by
        rcases List.mem_append.mp hx with hx | hx
        · exact hx
        · obtain ⟨y, hy, hyid, _⟩ := h.recommendations.reconstructed r hr
          rw [List.mem_singleton.mp hx] at hid
          exact absurd (hyid.trans hid.symm) (hrow.fresh y hy).1
      refine h.recommendations.ordered.imp_of_mem ?_
      intro a b ha hb hab hinvoice x hx y hy hxid hyid
      exact hab hinvoice x (hold a ha x hx hxid) y (hold b hb y hy hyid) hxid hyid
  have hmid : Healthy { p with
      tasks := p.tasks.map (replaceTask t')
      reconstructions := p.reconstructions ++ [row] } :=
    ⟨hdone.tasks, ⟨hdone.sets.first, hdone.sets.extracted, hdone.sets.one⟩, hversions, hrecs⟩
  refine hmid.of_follows rfl hnew (by decide) hidle hextracted fun _ n hn => ⟨row, ?_, hn⟩
  rw [← hrow.invoiceId]
  exact lastOf_append_same

theorem Healthy.judged {p : State} (h : Healthy p) {t t' : WorkflowTask} {key : LeaseKey}
    {row : RecommendationRow} {P : WorkflowTask → Prop} {new : List WorkflowTask}
    (hmem : t ∈ p.tasks) (hruns : RunsUnder key t) (htype : t.taskType = .judgeDays)
    (hended : Ended .completed t t') (hrow : NewRecommendation p t row)
    (hnew : Follows p.tasks t .bindAccessEvidence P new) :
    Healthy { p with
      tasks := p.tasks.map (replaceTask t') ++ new
      recommendations := p.recommendations ++ [row] } := by
  obtain ⟨hdone, hidle, hextracted⟩ := h.of_completed hmem hruns hended
  have hactive : active t = true := by
    unfold active
    rw [hruns.state]
  obtain ⟨last, hlast, hid⟩ := h.versions.current t hmem hactive (Or.inr htype)
  obtain ⟨hlastMem, hlastInvoice⟩ := lastOf_mem hlast
  have hlastId : last.id = row.reconstructionId :=
    Option.some.inj (hid.symm.trans hrow.reconstruction)
  have hpairs {R : RecommendationRow → RecommendationRow → Prop}
      (hold : p.recommendations.Pairwise R) (hlast : ∀ r ∈ p.recommendations, R r row) :
      (p.recommendations ++ [row]).Pairwise R := by
    rw [List.pairwise_append]
    refine ⟨hold, List.pairwise_singleton _ _, fun a ha b hb => ?_⟩
    rw [List.mem_singleton.mp hb]
    exact hlast a ha
  have hsameId {x y : ReconstructionRow} (hx : x ∈ p.reconstructions) (hy : y ∈ p.reconstructions)
      (heq : x.id = y.id) : x = y := by
    refine List.inj_on_of_nodup_map (f := ReconstructionRow.id) ?_ hx hy heq
    rw [List.Nodup, List.pairwise_map]
    exact h.versions.ids
  have hrecs : RecommendationsInv { p with
      tasks := p.tasks.map (replaceTask t')
      recommendations := p.recommendations ++ [row] } := by
    refine ⟨hpairs h.recommendations.ids hrow.fresh, ?_,
      hpairs h.recommendations.ordered ?_, hpairs h.recommendations.versions hrow.version⟩
    · intro r hr
      rcases List.mem_append.mp hr with hr | hr
      · exact h.recommendations.reconstructed r hr
      · rw [List.mem_singleton.mp hr]
        exact ⟨last, hlastMem, hlastId, hlastInvoice.trans hrow.invoiceId.symm⟩
    · intro r hr hinvoice x hx y hy hxid hyid
      obtain ⟨z, hz, hzid, hzinvoice⟩ := h.recommendations.reconstructed r hr
      rw [hsameId hy hlastMem (hyid.trans hlastId.symm), hsameId hx hz (hxid.trans hzid.symm)]
      exact h.versions.le_last hlast hz (hzinvoice.trans (hinvoice.trans hrow.invoiceId))
  have hmid : Healthy { p with
      tasks := p.tasks.map (replaceTask t')
      recommendations := p.recommendations ++ [row] } :=
    ⟨hdone.tasks, ⟨hdone.sets.first, hdone.sets.extracted, hdone.sets.one⟩,
      ⟨hdone.versions.ids, hdone.versions.versions, hdone.versions.fingerprints,
        hdone.versions.current⟩, hrecs⟩
  exact hmid.of_follows rfl hnew (by decide) hidle hextracted (by simp)

/-- The invariants hold of every run of the machine. -/
theorem Healthy.step [Sha256] {o : Occasion} {p p' : State} (h : Healthy p)
    (hstep : Step o p p') : Healthy p' := by
  cases hstep with
  | same => exact h
  | received n hnew htype hn =>
      refine h.of_append (h.tasks.append (fun u hu => (hnew u hu).1)
        (fun u hu _ => (hnew u hu).2) (fun _ u hu _ hinvoice => absurd hinvoice (hnew u hu).2)
        fun hne => absurd htype hne) ?_
      rw [htype]
      simp
  | started t t' key hmem hactive hstart hworker hsame hkey hrun =>
      exact (h.of_moves (h.tasks.moves_replace hmem hactive hsame)).of_same rfl rfl rfl rfl
  | failed t t' key state hmem hruns htype hended hstate =>
      refine (h.of_moves (h.tasks.moves_replace hmem ?_ hended.toSameTask)).of_same rfl rfl rfl rfl
      unfold active
      rw [hruns.state]
  | retried t n hmem hfailed htype hlatest hnew _ hn =>
      obtain ⟨hntype, hninvoice, hnversion, _⟩ := hn
      have hothers := h.tasks.failed_of_latest hmem hfailed htype hlatest
      refine h.of_append (h.tasks.append hnew ?_ ?_ fun hne => absurd hntype hne) ?_
      · intro u hu hactive hinvoice
        obtain ⟨_, hstate⟩ := hothers u hu (hinvoice.trans hninvoice)
        unfold active at hactive
        rw [hstate] at hactive
        exact nomatch hactive
      · intro _ u hu hutype hinvoice
        rw [hninvoice] at hinvoice
        refine ⟨(hothers u hu hinvoice).2, ?_⟩
        have hle := hlatest u hu hinvoice hutype
        omega
      · rw [hntype]
        simp
  | extracted t t' key s new hmem hruns htype hended hinvoice hversion hfresh hnew =>
      exact (h.extracted hmem hruns htype hended hinvoice hversion hnew).of_same rfl rfl rfl rfl
  | reconstructed t t' key rows new hmem hruns htype hended hrows =>
      rcases hrows with ⟨rfl, rfl⟩ | ⟨row, rfl, hrow, hnew⟩
      · rw [List.append_nil, List.append_nil]
        exact (h.of_completed hmem hruns hended).1.of_same rfl rfl rfl rfl
      · exact (h.reconstructed hmem hruns hended hrow hnew).of_same rfl rfl rfl rfl
  | searched t t' key runs new hmem hruns htype hended _ hnew =>
      obtain ⟨hdone, hidle, hextracted⟩ := h.of_completed hmem hruns hended
      refine (hdone.of_follows rfl hnew (by decide) hidle hextracted fun _ n hn => ?_).of_same
        rfl rfl rfl rfl
      have hactive : active t = true := by
        unfold active
        rw [hruns.state]
      obtain ⟨row, hrow, hid⟩ := h.versions.current t hmem hactive (Or.inl htype)
      exact ⟨row, hrow, hn.trans hid⟩
  | judged t t' key rows new hmem hruns htype hended hrows hnew =>
      rcases hrows with ⟨rfl, _⟩ | ⟨row, rfl, hrow⟩
      · obtain ⟨hdone, hidle, hextracted⟩ := h.of_completed hmem hruns hended
        rw [List.append_nil]
        exact (hdone.of_follows rfl hnew (by decide) hidle hextracted (by simp)).of_same
          rfl rfl rfl rfl
      · exact (h.judged hmem hruns htype hended hrow hnew).of_same rfl rfl rfl rfl
  | bound t t' key new hmem hruns htype hbinds hended hnew =>
      obtain ⟨hdone, hidle, hextracted⟩ := h.of_completed hmem hruns hended
      exact (hdone.of_follows rfl hnew (by decide) hidle hextracted (by simp)).of_same
        rfl rfl rfl rfl
  | released f hf hattempt => exact h.of_moves hf

theorem healthy_initial : Healthy (pipelineOf World.initial) := by
  refine ⟨tasksInv_nil, ⟨?_, ?_, List.Pairwise.nil⟩, ⟨List.Pairwise.nil, List.Pairwise.nil,
    List.Pairwise.nil, ?_⟩, ⟨List.Pairwise.nil, ?_, List.Pairwise.nil, List.Pairwise.nil⟩⟩
  all_goals exact fun _ h => absurd h List.not_mem_nil

end Tally.Analysis.Pipeline
