import Tally.Analysis.Lineage

/-!
# The hand-over to judgment

A reconstruction with charged days is searched for its rule once. The search hands
over to judgment when it accepted a rule or when every charged day has its sources.
A search that accepts no rule for a reconstruction with open days completes without
a judgment task, and the invoice stops without a recommendation.
-/

set_option autoImplicit false

namespace Tally.Analysis.Handoffs
open Library Library.Calendar Tally.Model ApplicableRuleRepository Effects Pipeline

/-! ## The property -/

section Property

variable [Sha256]

/-- Each searched reconstruction with charged days has its judgment task. -/
def Judged (p : State) : Prop :=
  ∀ t ∈ p.tasks, t.taskType = .findApplicableRule → t.state = .completed →
    ∀ row ∈ p.reconstructions, reconstructionIdOf t.inputObjectRefs = some row.id →
      row.daysTotal ≠ 0 → ∃ j ∈ p.tasks, JudgmentOf row.invoiceId row.id j

omit [Sha256] in
/-- Each completed judgment task has its recommendation. -/
def Recommended (p : State) : Prop :=
  ∀ t ∈ p.tasks, t.taskType = .judgeDays → t.state = .completed →
    ∃ r ∈ p.recommendations, reconstructionIdOf t.inputObjectRefs = some r.reconstructionId

end Property

/-! ## Searches -/

/-- A reconstruction has one rule task, and a run only once that task is completed. -/
structure SearchInv (p : State) : Prop where
  once : ∀ t ∈ p.tasks, ∀ u ∈ p.tasks, t.taskType = .findApplicableRule →
    u.taskType = .findApplicableRule →
    reconstructionIdOf t.inputObjectRefs = reconstructionIdOf u.inputObjectRefs → t.id = u.id
  refers : ∀ t ∈ p.tasks, t.taskType = .findApplicableRule → ∃ row ∈ p.reconstructions,
    reconstructionIdOf t.inputObjectRefs = some row.id ∧ row.invoiceId = t.invoiceId
  runs : ∀ run ∈ p.runs, ∃ t ∈ p.tasks, t.taskType = .findApplicableRule ∧ t.state = .completed ∧
    reconstructionIdOf t.inputObjectRefs = some run.reconstructionId

/-- The rows of the tasks may move, and reconstructions may be added. -/
theorem SearchInv.map {p p' : State} (h : SearchInv p) {f : WorkflowTask → WorkflowTask}
    (hf : Moves p.tasks f) (htasks : p'.tasks = p.tasks.map f)
    (hrows : ∀ row ∈ p.reconstructions, row ∈ p'.reconstructions) (hruns : p'.runs = p.runs) :
    SearchInv p' := by
  refine ⟨?_, ?_, ?_⟩
  · rw [htasks]
    intro t' ht' u' hu' htype htype' hid
    obtain ⟨t, ht, rfl⟩ := List.mem_map.mp ht'
    obtain ⟨u, hu, rfl⟩ := List.mem_map.mp hu'
    have hsame := hf.same t ht
    have hsame' := hf.same u hu
    rw [hsame.taskType] at htype
    rw [hsame'.taskType] at htype'
    rw [hsame.inputObjectRefs, hsame'.inputObjectRefs] at hid
    rw [hsame.id, hsame'.id]
    exact h.once t ht u hu htype htype' hid
  · rw [htasks]
    intro t' ht' htype
    obtain ⟨t, ht, rfl⟩ := List.mem_map.mp ht'
    have hsame := hf.same t ht
    rw [hsame.taskType] at htype
    obtain ⟨row, hrow, hid, hinvoice⟩ := h.refers t ht htype
    exact ⟨row, hrows row hrow, by rw [hsame.inputObjectRefs, hid], by rw [hsame.invoiceId, hinvoice]⟩
  · rw [htasks, hruns]
    intro run hrun
    obtain ⟨t, ht, htype, hstate, hid⟩ := h.runs run hrun
    refine ⟨t, List.mem_map.mpr ⟨t, ht, hf.completed ht (Or.inl hstate)⟩, htype, hstate, hid⟩

/-- New tasks that search for no rule. -/
theorem SearchInv.append {p : State} (h : SearchInv p) {new : List WorkflowTask}
    (hnew : ∀ n ∈ new, n.taskType ≠ .findApplicableRule) :
    SearchInv { p with tasks := p.tasks ++ new } := by
  have hold {t : WorkflowTask} (ht : t ∈ p.tasks ++ new) (htype : t.taskType = .findApplicableRule) :
      t ∈ p.tasks := by
    rcases List.mem_append.mp ht with hmem | hmem
    · exact hmem
    · exact absurd htype (hnew t hmem)
  refine ⟨?_, ?_, ?_⟩
  · intro t ht u hu htype htype'
    exact h.once t (hold ht htype) u (hold hu htype') htype htype'
  · intro t ht htype
    exact h.refers t (hold ht htype) htype
  · intro run hrun
    obtain ⟨t, ht, hrest⟩ := h.runs run hrun
    exact ⟨t, List.mem_append_left _ ht, hrest⟩

theorem follows_taskType {tasks : List WorkflowTask} {t : WorkflowTask} {taskType : TaskType}
    {P : WorkflowTask → Prop} {new : List WorkflowTask} (h : Follows tasks t taskType P new) :
    ∀ n ∈ new, n.taskType = taskType := by
  rcases h with rfl | ⟨n, rfl, _, htype, _⟩
  · exact fun _ h => absurd h List.not_mem_nil
  · intro m hm
    rw [List.mem_singleton.mp hm]
    exact htype

/-- A completion that hands over to a task of another type. -/
theorem SearchInv.handed {p p' : State} (h : SearchInv p) (htasks : TasksInv p.tasks)
    {t t' : WorkflowTask} {key : LeaseKey} {taskType : TaskType} {P : WorkflowTask → Prop}
    {new : List WorkflowTask} (hmem : t ∈ p.tasks) (hruns : RunsUnder key t)
    (hended : Ended .completed t t') (hnew : Follows p.tasks t taskType P new)
    (htype : taskType ≠ .findApplicableRule)
    (htasks' : p'.tasks = p.tasks.map (replaceTask t') ++ new)
    (hrows : ∀ row ∈ p.reconstructions, row ∈ p'.reconstructions) (hrunRows : p'.runs = p.runs) :
    SearchInv p' := by
  have hf := htasks.moves_replace hmem (running_active hruns.state) hended.toSameTask
  have hmid : SearchInv { p' with tasks := p.tasks.map (replaceTask t') } :=
    h.map hf rfl hrows hrunRows
  have hother : ∀ n ∈ new, n.taskType ≠ .findApplicableRule := fun n hn heq =>
    htype ((follows_taskType hnew n hn).symm.trans heq)
  have hdone := hmid.append hother
  rw [← htasks'] at hdone
  exact hdone

theorem SearchInv.step [Sha256] {o : Occasion} {p p' : State} (h : SearchInv p)
    (hhealthy : Healthy p) (hstep : Step o p p') : SearchInv p' := by
  have htasks := hhealthy.tasks
  cases hstep with
  | same => exact h
  | received n hnew htype hn =>
      refine h.append fun m hm => ?_
      rw [List.mem_singleton.mp hm, htype]
      exact nofun
  | started t t' key hmem hactive hstart hworker hsame hkey hrun =>
      exact h.map (htasks.moves_replace hmem hactive hsame) rfl (fun _ hrow => hrow) rfl
  | failed t t' key state hmem hruns htype hended hstate =>
      have hf := htasks.moves_replace hmem (running_active hruns.state) hended.toSameTask
      exact h.map hf rfl (fun _ hrow => hrow) rfl
  | retried t n hmem hfailed htype hlatest hnew hunstarted hn =>
      refine h.append fun m hm => ?_
      rw [List.mem_singleton.mp hm, hn.1]
      exact nofun
  | extracted t t' key s new hmem hruns htype hended hinvoice hversion hfresh hnew =>
      exact h.handed htasks hmem hruns hended hnew nofun rfl (fun _ hrow => hrow) rfl
  | reconstructed t t' key rows new hmem hruns htype hended hrows =>
      have hf := htasks.moves_replace hmem (running_active hruns.state) hended.toSameTask
      have hmid : SearchInv { p with
          tasks := p.tasks.map (replaceTask t'), reconstructions := p.reconstructions ++ rows } :=
        h.map hf rfl (fun _ hrow => List.mem_append_left _ hrow) rfl
      rcases hrows with ⟨rfl, rfl⟩ | ⟨row, rfl, hrow, hnew⟩
      · rw [List.append_nil] at hmid ⊢
        exact ⟨by simpa using hmid.once, by simpa using hmid.refers, by simpa using hmid.runs⟩
      · rcases hnew with rfl | ⟨n, rfl, _, hntype, hninvoice, _, hnid⟩
        · exact ⟨by simpa using hmid.once, by simpa using hmid.refers, by simpa using hmid.runs⟩
        · -- the rule task of the new version: no other task refers to it
          have hother : ∀ u ∈ p.tasks.map (replaceTask t'), u.taskType = .findApplicableRule →
              reconstructionIdOf u.inputObjectRefs ≠ some row.id := by
            intro u hu hutype hid
            obtain ⟨v, hv, rfl⟩ := List.mem_map.mp hu
            have hsame := hf.same v hv
            rw [hsame.taskType] at hutype
            rw [hsame.inputObjectRefs] at hid
            obtain ⟨r, hr, hrid, _⟩ := h.refers v hv hutype
            have heq : r.id = row.id := Option.some.inj (hrid.symm.trans hid)
            exact (hrow.fresh r hr).1 heq
          refine ⟨?_, ?_, ?_⟩
          · intro u hu v hv hutype hvtype hid
            rcases List.mem_append.mp hu with hold | hadded <;>
              rcases List.mem_append.mp hv with hold' | hadded'
            · exact hmid.once u hold v hold' hutype hvtype hid
            · rw [List.mem_singleton.mp hadded', hnid] at hid
              exact absurd hid (hother u hold hutype)
            · rw [List.mem_singleton.mp hadded, hnid] at hid
              exact absurd hid.symm (hother v hold' hvtype)
            · rw [List.mem_singleton.mp hadded, List.mem_singleton.mp hadded']
          · intro u hu hutype
            rcases List.mem_append.mp hu with hold | hadded
            · exact hmid.refers u hold hutype
            · rw [List.mem_singleton.mp hadded]
              refine ⟨row, List.mem_append_right _ (List.mem_singleton_self _), hnid, ?_⟩
              rw [hrow.invoiceId, hninvoice]
          · intro run hrun
            obtain ⟨u, hu, hrest⟩ := hmid.runs run hrun
            exact ⟨u, List.mem_append_left _ hu, hrest⟩
  | searched t t' key runs new hmem hruns htype hended hhands hnew =>
      have hmid : SearchInv { p with tasks := p.tasks.map (replaceTask t') ++ new } :=
        h.handed htasks hmem hruns hended hnew nofun rfl (fun _ hrow => hrow) rfl
      refine ⟨hmid.once, hmid.refers, ?_⟩
      intro run hrun
      rcases List.mem_append.mp hrun with hold | hadded
      · exact hmid.runs run hold
      · cases hhands with
        | repeated => exact absurd hadded List.not_mem_nil
        | searched reconstructionId _ _ hid hids _ =>
            refine ⟨t', List.mem_append_left _ ?_, hended.taskType.trans htype, hended.state, ?_⟩
            · exact List.mem_map.mpr ⟨t, hmem, if_pos hended.id.symm⟩
            · rw [hended.inputObjectRefs, hid, hids run hadded]
  | judged t t' key rows new hmem hruns htype hended hrows hnew =>
      exact h.handed htasks hmem hruns hended hnew nofun rfl (fun _ hrow => hrow) rfl
  | bound t t' key new hmem hruns htype hbinds hended hnew =>
      exact h.handed htasks hmem hruns hended hnew nofun rfl (fun _ hrow => hrow) rfl
  | released f hf hattempt => exact h.map hf rfl (fun _ hrow => hrow) rfl

/-! ## Completed tasks -/

/-- Every completed task of a type has what its completion owes. -/
def Settled (taskType : TaskType) (owes : List ObjectRef → Prop) (tasks : List WorkflowTask) :
    Prop :=
  ∀ t ∈ tasks, t.taskType = taskType → t.state = .completed → owes t.inputObjectRefs

/-- A task with these inputs had completed before. -/
def Before (p : State) (taskType : TaskType) (refs : List ObjectRef) : Prop :=
  ∃ t ∈ p.tasks, t.taskType = taskType ∧ t.state = .completed ∧ t.inputObjectRefs = refs

theorem settled_before (p : State) (taskType : TaskType) :
    Settled taskType (Before p taskType) p.tasks :=
  fun t ht htype hstate => ⟨t, ht, htype, hstate, rfl⟩

theorem Settled.mono {taskType : TaskType} {owes owes' : List ObjectRef → Prop}
    {tasks : List WorkflowTask} (h : Settled taskType owes tasks)
    (hle : ∀ refs, owes refs → owes' refs) : Settled taskType owes' tasks :=
  fun t ht htype hstate => hle _ (h t ht htype hstate)

/-- A change of rows that completes none. -/
theorem Settled.map {taskType : TaskType} {owes : List ObjectRef → Prop}
    {tasks : List WorkflowTask} (h : Settled taskType owes tasks)
    {f : WorkflowTask → WorkflowTask} (hf : ∀ t ∈ tasks, (f t).state = .completed → f t = t) :
    Settled taskType owes (tasks.map f) := by
  intro t' ht' htype hstate
  obtain ⟨t, ht, rfl⟩ := List.mem_map.mp ht'
  have heq := hf t ht hstate
  rw [heq] at htype hstate ⊢
  exact h t ht htype hstate

theorem Settled.append {taskType : TaskType} {owes : List ObjectRef → Prop}
    {tasks new : List WorkflowTask} (h : Settled taskType owes tasks)
    (hnew : ∀ n ∈ new, n.state ≠ .completed) : Settled taskType owes (tasks ++ new) := by
  intro t ht htype hstate
  rcases List.mem_append.mp ht with hold | hadded
  · exact h t hold htype hstate
  · exact absurd hstate (hnew t hadded)

/-- The end of an attempt, which owes something when it completed a task of the type. -/
theorem Settled.ended {taskType : TaskType} {owes : List ObjectRef → Prop}
    {tasks : List WorkflowTask} (h : Settled taskType owes tasks) {t t' : WorkflowTask}
    {state : TaskState} (hended : Ended state t t')
    (howes : t.taskType = taskType → state = .completed → owes t.inputObjectRefs) :
    Settled taskType owes (tasks.map (replaceTask t')) := by
  intro u' hu' htype hstate
  obtain ⟨u, hu, rfl⟩ := List.mem_map.mp hu'
  unfold replaceTask at htype hstate ⊢
  split
  · rename_i hid
    rw [if_pos hid] at htype hstate
    rw [hended.inputObjectRefs]
    exact howes (hended.taskType.symm.trans htype) (hended.state.symm.trans hstate)
  · rename_i hid
    rw [if_neg hid] at htype hstate
    exact h u hu htype hstate

theorem follows_not_completed {tasks : List WorkflowTask} {t : WorkflowTask} {taskType : TaskType}
    {P : WorkflowTask → Prop} {new : List WorkflowTask} (h : Follows tasks t taskType P new) :
    ∀ n ∈ new, n.state ≠ .completed := by
  rcases h with rfl | ⟨n, rfl, _, _, _, hunstarted, _⟩
  · exact fun _ h => absurd h List.not_mem_nil
  · intro m hm
    rw [List.mem_singleton.mp hm]
    rcases hunstarted.state with hstate | hstate <;> rw [hstate] <;> exact nofun

/-- What a completion leaves behind: of a rule search its hand-over, of a judgment its
recommendation. -/
def Leaves [Sha256] (o : Occasion) (p p' : State) (t : WorkflowTask) : Prop :=
  (t.taskType = .findApplicableRule → ∃ runs new, Hands o.handsOver p t runs new ∧
    ∀ n ∈ new, n ∈ p'.tasks) ∧
  (t.taskType = .judgeDays → ∃ r ∈ p'.recommendations,
    reconstructionIdOf t.inputObjectRefs = some r.reconstructionId)

/-- A step completes at most one task, and leaves behind what it should. -/
theorem settled_of_step [Sha256] {o : Occasion} {p p' : State}
    (hstep : Step o p p') {taskType : TaskType} {owes : List ObjectRef → Prop}
    (hbefore : Settled taskType owes p.tasks)
    (howes : ∀ t ∈ p.tasks, t.taskType = taskType → t.state = .running → Leaves o p p' t →
      owes t.inputObjectRefs) :
    Settled taskType owes p'.tasks := by
  have hcompleted {t t' : WorkflowTask} {key : LeaseKey} {new : List WorkflowTask}
      (hmem : t ∈ p.tasks) (hruns : RunsUnder key t) (hended : Ended .completed t t')
      (hnew : ∀ n ∈ new, n.state ≠ .completed) (hleaves : Leaves o p p' t) :
      Settled taskType owes (p.tasks.map (replaceTask t') ++ new) :=
    (hbefore.ended hended fun htype _ => howes t hmem htype hruns.state hleaves).append hnew
  have hnew {n : WorkflowTask} (hn : n.state = .pending) : ∀ m ∈ [n], m.state ≠ .completed := by
    intro m hm
    rw [List.mem_singleton.mp hm, hn]
    exact nofun
  cases hstep with
  | same => exact hbefore
  | received n _ _ hn => exact hbefore.append (hnew hn.2.1)
  | started t t' key hmem hactive hstart hworker hsame hkey hrun =>
      refine hbefore.map fun u hu hstate => ?_
      unfold replaceTask at hstate ⊢
      split
      · rename_i hid
        rw [if_pos hid, hrun.1] at hstate
        exact nomatch hstate
      · rfl
  | failed t t' key state hmem hruns htype hended hstate =>
      refine hbefore.ended hended fun _ hdone => ?_
      subst hdone
      rcases hstate with ⟨h, _⟩ | ⟨_, h⟩ | ⟨_, h⟩ <;> exact nomatch h
  | retried t n hmem hfailed htype hlatest hfresh hunstarted hn =>
      exact hbefore.append (hnew hn.2.2.2)
  | extracted t t' key s new hmem hruns htype hended hinvoice hversion hfresh hfollows =>
      refine hcompleted hmem hruns hended (follows_not_completed hfollows) ⟨?_, ?_⟩ <;> rw [htype] <;> exact nofun
  | reconstructed t t' key rows new hmem hruns htype hended hrows =>
      have hleaves {q : State} : Leaves o p q t := by
        constructor <;> rw [htype] <;> exact nofun
      rcases hrows with ⟨rfl, rfl⟩ | ⟨row, rfl, hrow, hfollows⟩
      · exact hcompleted hmem hruns hended (fun _ hn => absurd hn List.not_mem_nil) hleaves
      · exact hcompleted hmem hruns hended (follows_not_completed hfollows) hleaves
  | searched t t' key runs new hmem hruns htype hended hhands hfollows =>
      refine hcompleted hmem hruns hended (follows_not_completed hfollows) ⟨fun _ => ⟨runs, new, hhands, ?_⟩, ?_⟩
      · exact fun n hn => List.mem_append_right _ hn
      · rw [htype]
        exact nofun
  | judged t t' key rows new hmem hruns htype hended hrows hfollows =>
      refine hcompleted hmem hruns hended (follows_not_completed hfollows) ⟨?_, fun _ => ?_⟩
      · rw [htype]
        exact nofun
      · rcases hrows with ⟨_, r, hr, hid⟩ | ⟨row, rfl, hrow⟩
        · exact ⟨r, List.mem_append_left _ hr, hid⟩
        · exact ⟨row, List.mem_append_right _ (List.mem_singleton_self _), hrow.reconstruction⟩
  | bound t t' key new hmem hruns htype hbinds hended hfollows =>
      refine hcompleted hmem hruns hended (follows_not_completed hfollows) ⟨?_, ?_⟩ <;> rw [htype] <;> exact nofun
  | released f hf hattempt =>
      refine hbefore.map fun t ht hstate => ?_
      rcases (hattempt t ht).2 with heq | ⟨_, hpending⟩
      · exact heq
      · rw [hpending] at hstate
        exact nomatch hstate

/-! ## Steps -/

theorem Recommended.step [Sha256] {o : Occasion} {p p' : State} (h : Recommended p)
    (hhealthy : Healthy p) (hstep : Step o p p') : Recommended p' := by
  obtain ⟨_, hrecs, _⟩ := kept_of_step hhealthy hstep
  have hbefore : Settled .judgeDays (fun refs => ∃ r ∈ p.recommendations,
      reconstructionIdOf refs = some r.reconstructionId) p.tasks := h
  show Settled .judgeDays (fun refs => ∃ r ∈ p'.recommendations,
    reconstructionIdOf refs = some r.reconstructionId) p'.tasks
  refine settled_of_step hstep (hbefore.mono ?_) ?_
  · rintro refs ⟨r, hr, hid⟩
    exact ⟨r, hrecs r hr, hid⟩
  · intro t _ htype _ hleaves
    exact hleaves.2 htype

/-- A step that hands over keeps every searched reconstruction judged. -/
theorem Judged.step [Sha256] {o : Occasion} {p p' : State} (h : Judged p) (hsearch : SearchInv p)
    (hhealthy : Healthy p) (ho : o.handsOver) (hstep : Step o p p') : Judged p' := by
  obtain ⟨hkept, _, hrows⟩ := kept_of_step hhealthy hstep
  -- the reconstruction of a rule task is an old one
  have hold {t : WorkflowTask} (ht : t ∈ p.tasks) (htype : t.taskType = .findApplicableRule)
      {row : ReconstructionRow} (hrow : row ∈ p'.reconstructions)
      (hid : reconstructionIdOf t.inputObjectRefs = some row.id) :
      row ∈ p.reconstructions ∧ row.invoiceId = t.invoiceId := by
    obtain ⟨r, hr, hrid, hinvoice⟩ := hsearch.refers t ht htype
    have heq : r.id = row.id := Option.some.inj (hrid.symm.trans hid)
    rcases hrows row hrow with hmem | hfresh
    · have hnodup : (p.reconstructions.map ReconstructionRow.id).Nodup := by
        rw [List.Nodup, List.pairwise_map]
        exact hhealthy.versions.ids
      obtain rfl := List.inj_on_of_nodup_map hnodup hr hmem heq
      exact ⟨hmem, hinvoice⟩
    · exact absurd heq (hfresh r hr)
  have hjudgment {invoiceId id : Uuid} {j : WorkflowTask} (hj : j ∈ p.tasks)
      (hof : JudgmentOf invoiceId id j) : ∃ j' ∈ p'.tasks, JudgmentOf invoiceId id j' := by
    obtain ⟨j', hj', hsame⟩ := hkept j hj
    exact ⟨j', hj', hsame.taskType.trans hof.taskType, hsame.invoiceId.trans hof.invoiceId,
      hsame.inputFingerprint.trans hof.fingerprint⟩
  show Settled .findApplicableRule (fun refs => ∀ row ∈ p'.reconstructions,
    reconstructionIdOf refs = some row.id → row.daysTotal ≠ 0 →
      ∃ j ∈ p'.tasks, JudgmentOf row.invoiceId row.id j) p'.tasks
  refine settled_of_step hstep ?_ ?_
  · intro t ht htype hstate row hrow hid hdays
    obtain ⟨hmem, _⟩ := hold ht htype hrow hid
    obtain ⟨j, hj, hof⟩ := h t ht htype hstate row hmem hid hdays
    exact hjudgment hj hof
  · intro t ht htype hstate hleaves row hrow hid hdays
    obtain ⟨hmem, hinvoice⟩ := hold ht htype hrow hid
    obtain ⟨runs, new, hhands, hnew⟩ := hleaves.1 htype
    cases hhands with
    | repeated run hrun hrunId =>
        -- the task is running, yet the search that left the run had completed
        obtain ⟨u, hu, hutype, hustate, huid⟩ := hsearch.runs run hrun
        have heq := hsearch.once t ht u hu htype hutype (hrunId.trans huid.symm)
        rw [hhealthy.tasks.eq_of_id ht hu heq, hustate] at hstate
        exact nomatch hstate
    | searched reconstructionId _ _ hrid _ hover =>
        have heq : reconstructionId = row.id := Option.some.inj (hrid.symm.trans hid)
        subst heq
        rcases hover ho with ⟨r, hr, hrid', hzero⟩ | ⟨j, hj, hof⟩
        · have hnodup : (p.reconstructions.map ReconstructionRow.id).Nodup := by
            rw [List.Nodup, List.pairwise_map]
            exact hhealthy.versions.ids
          obtain rfl := List.inj_on_of_nodup_map hnodup hr hmem hrid'
          exact absurd hzero hdays
        · rw [← hinvoice] at hof
          rcases List.mem_append.mp hj with hj | hj
          · exact hjudgment hj hof
          · exact ⟨j, hnew j hj, hof⟩

/-! ## Runs -/

section Runs

variable [Sha256] [TzDatabase] [CharacterTables]

omit [Sha256] [TzDatabase] [CharacterTables] in
theorem searchInv_initial : SearchInv (pipelineOf World.initial) := by
  refine ⟨?_, ?_, ?_⟩
  all_goals exact fun _ h => absurd h List.not_mem_nil

theorem searchInv_of_run {allowed : World → TxnEnv → Call → Prop} {w : World}
    (h : Run allowed w) : SearchInv (pipelineOf w) :=
  pipeline_of_run SearchInv searchInv_initial
    (fun _ _ _ _ hhealthy hinv _ hstep => hinv.step hhealthy hstep) h

/-- Every judgment task that completed, in any run, has its recommendation. -/
theorem recommended_of_run {allowed : World → TxnEnv → Call → Prop} {w : World}
    (h : Run allowed w) : Recommended (pipelineOf w) :=
  pipeline_of_run Recommended (fun _ ht => absurd ht List.not_mem_nil)
    (fun _ _ _ _ hhealthy hinv _ hstep => hinv.step hhealthy hstep) h

end Runs

/-! ## A search that stalls -/

/-- A searched reconstruction with charged days, and no judgment task at all. -/
def stalls (p : State) : Bool :=
  p.tasks.any (fun t => t.taskType = .findApplicableRule ∧ t.state = .completed ∧
    p.reconstructions.any fun row =>
      reconstructionIdOf t.inputObjectRefs = some row.id ∧ row.daysTotal ≠ 0) ∧
  p.tasks.all fun j => j.taskType ≠ .judgeDays

theorem not_judged_of_stalls [Sha256] {p : State} (h : stalls p = true) : ¬ Judged p := by
  intro hjudged
  unfold stalls at h
  simp only [decide_eq_true_eq, List.any_eq_true, List.all_eq_true] at h
  obtain ⟨⟨t, ht, htype, hstate, row, hrow, hid, hdays⟩, hnone⟩ := h
  obtain ⟨j, hj, hof⟩ := hjudged t ht htype hstate row hrow hid hdays
  exact hnone j hj hof.taskType

section Case

open Sample

local instance : Sha256 := Sha256.standard
local instance : TzDatabase := zone
local instance : CharacterTables := ascii

/-- The container's events are missing, and no rule applies. -/
def stalled : World :=
  play World.initial 1 (received ++ extracted ++ reconstructed "w2" [] ++ searched "w3")

/-- No rule applies either, but every charged day is sourced. -/
def refused : Script :=
  received ++ extracted ++ reconstructed "w2" eventRows ++ searched "w3"

end Case

end Tally.Analysis.Handoffs
