import Tally.Analysis.PipelineRefinement

/-!
# The attempts of a task

The life of one task, apart from the others: its row, the leases handed out for it
and its rows of the attempt ledger. Every step of the pipeline starts a task, ends
its attempt, or leaves it alone, so an invariant of lives holds of every run. Two
follow. A task is started at most as often as the automatic attempts allow, unless a
claim takes it over from the expired lease of its last attempt. The ledger has one
RUNNING row for a running task and none for another, unless a claim takes a task
over, or a binding completes, which leaves its row RUNNING.
-/

set_option autoImplicit false

namespace Tally.Analysis.Attempts
open Library Library.Calendar Tally.Model Effects Pipeline

/-! ## Lives -/

/-- What there is about one task. -/
structure Record where
  task : WorkflowTask
  keys : List LeaseKey
  attempts : List WorkflowTaskAttempt

def keysOf (p : State) (id : Uuid) : List LeaseKey := p.keys.filter fun k => k.taskId = id

def attemptsOf (p : State) (id : Uuid) : List WorkflowTaskAttempt :=
  p.attempts.filter fun a => a.taskId = id

def recordOf (p : State) (t : WorkflowTask) : Record := ⟨t, keysOf p t.id, attemptsOf p t.id⟩

/-- What a step does to a task. -/
inductive Life (o : Occasion) (r : Record) : Record → Prop
  | same : Life o r r
  | started (t' : WorkflowTask) (key : LeaseKey)
      (hstart : r.task.state = .pending ∨ r.task.state = .retryWait ∨ o.takesOver r.task)
      (hsame : SameTask r.task t')
      (hkey : key.taskId = r.task.id ∧ key.attempt = r.task.currentAttempt + 1)
      (hrun : t'.state = .running ∧ t'.currentAttempt = key.attempt ∧
        t'.leaseOwner = some key.workerId) :
      Life o r ⟨t', r.keys ++ [key], r.attempts ++ [startedAttempt key]⟩
  | ended (t' : WorkflowTask) (key : LeaseKey) (state : TaskState)
      (hruns : RunsUnder key r.task) (hattempt : r.task.currentAttempt = key.attempt)
      (hended : Ended state r.task t')
      (hstate : (state = .retryWait ∧ key.attempt < maxAutomaticAttempts) ∨ state = .failed ∨
        state = .blocked ∨ state = .completed) :
      Life o r ⟨t', r.keys, r.attempts.map (endAttempt key state)⟩
  | bound (t' : WorkflowTask) (key : LeaseKey) (hbinds : o.binds) (hruns : RunsUnder key r.task)
      (hended : Ended .completed r.task t') : Life o r ⟨t', r.keys, r.attempts⟩
  | released (t' : WorkflowTask) (hsame : SameTask r.task t')
      (hattempt : t'.currentAttempt = r.task.currentAttempt)
      (hstate : r.task.state = .held ∧ t'.state = .pending) :
      Life o r ⟨t', r.keys, r.attempts⟩

/-- Leases and attempts are those of tasks. -/
structure Known (p : State) : Prop where
  keys : ∀ k ∈ p.keys, ∃ t ∈ p.tasks, t.id = k.taskId
  attempts : ∀ a ∈ p.attempts, ∃ t ∈ p.tasks, t.id = a.taskId

@[simp] theorem endAttempt_taskId (key : LeaseKey) (state : TaskState) (a : WorkflowTaskAttempt) :
    (endAttempt key state a).taskId = a.taskId := by
  unfold endAttempt
  split <;> rfl

theorem Known.none_of_fresh {p : State} (h : Known p) {id : Uuid} (hfresh : ∀ u ∈ p.tasks, u.id ≠ id) :
    keysOf p id = [] ∧ attemptsOf p id = [] := by
  unfold keysOf attemptsOf
  rw [List.filter_eq_nil_iff, List.filter_eq_nil_iff]
  constructor
  · intro k hk hid
    obtain ⟨u, hu, huid⟩ := h.keys k hk
    exact hfresh u hu (huid.trans (of_decide_eq_true hid))
  · intro a ha hid
    obtain ⟨u, hu, huid⟩ := h.attempts a ha
    exact hfresh u hu (huid.trans (of_decide_eq_true hid))

/-- The records of a state follow those of another: each goes on from one, or is that
of a task no attempt has started on. -/
def Follow (o : Occasion) (p p' : State) : Prop :=
  ∀ t' ∈ p'.tasks, (∃ t ∈ p.tasks, Life o (recordOf p t) (recordOf p' t')) ∨
    (Unstarted t' ∧ recordOf p' t' = ⟨t', [], []⟩)

/-- A step that adds tasks and nothing else. -/
theorem follow_append {o : Occasion} {p p' : State} (hknown : Known p) {new : List WorkflowTask}
    (hnew : ∀ n ∈ new, Unstarted n ∧ ∀ u ∈ p.tasks, u.id ≠ n.id)
    (htasks : p'.tasks = p.tasks ++ new) (hkeys : p'.keys = p.keys)
    (hattempts : p'.attempts = p.attempts) : Known p' ∧ Follow o p p' := by
  have hsame (id : Uuid) : keysOf p' id = keysOf p id ∧ attemptsOf p' id = attemptsOf p id := by
    unfold keysOf attemptsOf
    rw [hkeys, hattempts]
    exact ⟨rfl, rfl⟩
  constructor
  · constructor
    · rw [hkeys, htasks]
      intro k hk
      obtain ⟨t, ht, hid⟩ := hknown.keys k hk
      exact ⟨t, List.mem_append_left _ ht, hid⟩
    · rw [hattempts, htasks]
      intro a ha
      obtain ⟨t, ht, hid⟩ := hknown.attempts a ha
      exact ⟨t, List.mem_append_left _ ht, hid⟩
  · intro t ht
    rw [htasks] at ht
    unfold recordOf
    rw [(hsame t.id).1, (hsame t.id).2]
    rcases List.mem_append.mp ht with hold | hadded
    · exact Or.inl ⟨t, hold, .same⟩
    · obtain ⟨hunstarted, hfresh⟩ := hnew t hadded
      rw [(hknown.none_of_fresh hfresh).1, (hknown.none_of_fresh hfresh).2]
      exact Or.inr ⟨hunstarted, rfl⟩

/-- A step that replaces the row of one task and adds tasks. -/
theorem follow_replace {o : Occasion} {p p' : State} (hknown : Known p) (hinv : TasksInv p.tasks)
    {t t' : WorkflowTask} {new : List WorkflowTask} (hmem : t ∈ p.tasks) (hsame : SameTask t t')
    (htasks : p'.tasks = p.tasks.map (replaceTask t') ++ new)
    (hkeys : ∀ k ∈ p'.keys, k ∈ p.keys ∨ k.taskId = t.id)
    (hattempts : ∀ a ∈ p'.attempts, (∃ b ∈ p.attempts, b.taskId = a.taskId) ∨ a.taskId = t.id)
    (hothers : ∀ id, id ≠ t.id → keysOf p' id = keysOf p id ∧ attemptsOf p' id = attemptsOf p id)
    (hlife : Life o (recordOf p t) ⟨t', keysOf p' t.id, attemptsOf p' t.id⟩)
    (hnew : ∀ n ∈ new, Unstarted n ∧ ∀ u ∈ p.tasks, u.id ≠ n.id) : Known p' ∧ Follow o p p' := by
  have hkept : ∀ u ∈ p.tasks, ∃ u' ∈ p'.tasks, u'.id = u.id := by
    intro u hu
    refine ⟨replaceTask t' u, ?_, ?_⟩
    · rw [htasks]
      exact List.mem_append_left _ (List.mem_map_of_mem hu)
    · unfold replaceTask
      split
      · rename_i hid
        exact hid.symm
      · rfl
  constructor
  · constructor
    · intro k hk
      rcases hkeys k hk with hold | hid
      · obtain ⟨u, hu, huid⟩ := hknown.keys k hold
        obtain ⟨u', hu', hid⟩ := hkept u hu
        exact ⟨u', hu', hid.trans huid⟩
      · obtain ⟨u', hu', hid'⟩ := hkept t hmem
        exact ⟨u', hu', hid'.trans hid.symm⟩
    · intro a ha
      rcases hattempts a ha with ⟨b, hb, hid⟩ | hid
      · obtain ⟨u, hu, huid⟩ := hknown.attempts b hb
        obtain ⟨u', hu', hid'⟩ := hkept u hu
        exact ⟨u', hu', hid'.trans (huid.trans hid)⟩
      · obtain ⟨u', hu', hid'⟩ := hkept t hmem
        exact ⟨u', hu', hid'.trans hid.symm⟩
  · intro v hv
    rw [htasks] at hv
    rcases List.mem_append.mp hv with hold | hadded
    · obtain ⟨u, hu, rfl⟩ := List.mem_map.mp hold
      refine Or.inl ⟨u, hu, ?_⟩
      unfold replaceTask
      split
      · rename_i hid
        obtain rfl := hinv.eq_of_id hu hmem (hid.trans hsame.id)
        unfold recordOf
        rw [hsame.id]
        exact hlife
      · rename_i hid
        obtain ⟨hk, ha⟩ := hothers u.id fun heq => hid (heq.trans hsame.id.symm)
        unfold recordOf
        rw [hk, ha]
        exact .same
    · obtain ⟨hunstarted, hfresh⟩ := hnew v hadded
      obtain ⟨hk, ha⟩ := hothers v.id fun heq => hfresh t hmem heq.symm
      obtain ⟨hnoKeys, hnoAttempts⟩ := hknown.none_of_fresh hfresh
      refine Or.inr ⟨hunstarted, ?_⟩
      unfold recordOf
      rw [hk, ha, hnoKeys, hnoAttempts]

/-- The end of an attempt in the ledger, for each task. -/
theorem attemptsOf_endAttempt (p : State) (key : LeaseKey) (state : TaskState) (id : Uuid) :
    (p.attempts.map (endAttempt key state)).filter (fun a => a.taskId = id) =
      (attemptsOf p id).map (endAttempt key state) := by
  unfold attemptsOf
  rw [List.filter_map]
  congr 1
  refine List.filter_congr fun a _ => ?_
  simp

theorem attemptsOf_endAttempt_other (p : State) {key : LeaseKey} (state : TaskState) {id : Uuid}
    (hid : id ≠ key.taskId) :
    (p.attempts.map (endAttempt key state)).filter (fun a => a.taskId = id) = attemptsOf p id := by
  rw [attemptsOf_endAttempt]
  refine (List.map_congr_left fun a ha => ?_).trans (List.map_id _)
  have htask : a.taskId = id := by simpa using List.of_mem_filter ha
  unfold endAttempt
  exact if_neg fun hcase => hid (htask.symm.trans hcase.1)

theorem follows_unstarted {tasks : List WorkflowTask} {t : WorkflowTask} {taskType : TaskType}
    {P : WorkflowTask → Prop} {new : List WorkflowTask} (h : Follows tasks t taskType P new) :
    ∀ n ∈ new, Unstarted n ∧ ∀ u ∈ tasks, u.id ≠ n.id := by
  rcases h with rfl | ⟨n, rfl, hfresh, _, _, hunstarted, _⟩
  · exact fun _ h => absurd h List.not_mem_nil
  · intro m hm
    rw [List.mem_singleton.mp hm]
    exact ⟨hunstarted, hfresh⟩

/-- The end of an attempt, with the tasks its completion hands over to. -/
theorem follow_ended {o : Occasion} {p p' : State} (hknown : Known p) (hinv : TasksInv p.tasks)
    {t t' : WorkflowTask} {key : LeaseKey} {state : TaskState} {new : List WorkflowTask}
    (hmem : t ∈ p.tasks) (hruns : RunsUnder key t) (hattempt : t.currentAttempt = key.attempt)
    (hended : Ended state t t')
    (hstate : (state = .retryWait ∧ key.attempt < maxAutomaticAttempts) ∨ state = .failed ∨
      state = .blocked ∨ state = .completed)
    (htasks : p'.tasks = p.tasks.map (replaceTask t') ++ new) (hkeys : p'.keys = p.keys)
    (hattempts : p'.attempts = p.attempts.map (endAttempt key state))
    (hnew : ∀ n ∈ new, Unstarted n ∧ ∀ u ∈ p.tasks, u.id ≠ n.id) : Known p' ∧ Follow o p p' := by
  refine follow_replace hknown hinv hmem hended.toSameTask htasks ?_ ?_ ?_ ?_ hnew
  · rw [hkeys]
    exact fun k hk => Or.inl hk
  · rw [hattempts]
    intro a ha
    obtain ⟨b, hb, rfl⟩ := List.mem_map.mp ha
    exact Or.inl ⟨b, hb, (endAttempt_taskId key state b).symm⟩
  · intro id hid
    constructor
    · unfold keysOf
      rw [hkeys]
    · unfold attemptsOf
      rw [hattempts]
      exact attemptsOf_endAttempt_other p state (hruns.id ▸ hid)
  · have hk : keysOf p' t.id = keysOf p t.id := by
      unfold keysOf
      rw [hkeys]
    have ha : attemptsOf p' t.id = (attemptsOf p t.id).map (endAttempt key state) := by
      rw [← attemptsOf_endAttempt, ← hattempts]
      rfl
    rw [hk, ha]
    exact .ended t' key state hruns hattempt hended hstate

/-- Every step of the pipeline is a step in the life of each task. -/
theorem follow_of_step [Sha256] {o : Occasion} {p p' : State} (hhealthy : Healthy p)
    (hknown : Known p) (hstep : Step o p p') : Known p' ∧ Follow o p p' := by
  have hinv := hhealthy.tasks
  have hcompleted {t t' : WorkflowTask} {key : LeaseKey} {q : State} {new : List WorkflowTask}
      (hmem : t ∈ p.tasks) (hruns : RunsUnder key t) (htype : t.taskType ≠ .bindAccessEvidence)
      (hended : Ended .completed t t') (htasks : q.tasks = p.tasks.map (replaceTask t') ++ new)
      (hkeys : q.keys = p.keys)
      (hattempts : q.attempts = p.attempts.map (endAttempt key .completed))
      (hnew : ∀ n ∈ new, Unstarted n ∧ ∀ u ∈ p.tasks, u.id ≠ n.id) : Known q ∧ Follow o p q :=
    follow_ended hknown hinv hmem hruns (hruns.attempt htype) hended
      (Or.inr (Or.inr (Or.inr rfl))) htasks hkeys hattempts hnew
  have hnil : ∀ n ∈ ([] : List WorkflowTask), Unstarted n ∧ ∀ u ∈ p.tasks, u.id ≠ n.id :=
    fun _ hn => absurd hn List.not_mem_nil
  cases hstep with
  | same => exact ⟨hknown, fun t ht => Or.inl ⟨t, ht, .same⟩⟩
  | received n hnew htype hn =>
      have hunstarted : ∀ m ∈ [n], Unstarted m ∧ ∀ u ∈ p.tasks, u.id ≠ m.id := by
        intro m hm
        rw [List.mem_singleton.mp hm]
        exact ⟨hn.1, fun u hu => (hnew u hu).1⟩
      exact follow_append hknown hunstarted rfl rfl rfl
  | started t t' key hmem hactive hstart hworker hsame hkey hrun =>
      refine follow_replace hknown hinv hmem hsame (List.append_nil _).symm ?_ ?_ ?_ ?_ hnil
      · intro k hk
        rcases List.mem_append.mp hk with hold | hadded
        · exact Or.inl hold
        · rw [List.mem_singleton.mp hadded]
          exact Or.inr hkey.1
      · intro a ha
        rcases List.mem_append.mp ha with hold | hadded
        · exact Or.inl ⟨a, hold, rfl⟩
        · rw [List.mem_singleton.mp hadded]
          exact Or.inr hkey.1
      · intro id hid
        have hne : key.taskId ≠ id := fun heq => hid (heq.symm.trans hkey.1)
        unfold keysOf attemptsOf
        rw [List.filter_append, List.filter_append]
        simp [startedAttempt, hne]
      · have hkeys : (p.keys ++ [key]).filter (fun k => k.taskId = t.id) = keysOf p t.id ++ [key] := by
          rw [List.filter_append]
          simp [keysOf, hkey.1]
        have hattempts : (p.attempts ++ [startedAttempt key]).filter (fun a => a.taskId = t.id) =
            attemptsOf p t.id ++ [startedAttempt key] := by
          rw [List.filter_append]
          simp [attemptsOf, startedAttempt, hkey.1]
        unfold keysOf attemptsOf
        rw [hkeys, hattempts]
        exact .started t' key hstart hsame hkey hrun
  | failed t t' key state hmem hruns htype hended hstate =>
      refine follow_ended hknown hinv hmem hruns (hruns.attempt htype) hended ?_
        (List.append_nil _).symm rfl rfl hnil
      rcases hstate with hretry | ⟨_, hfailed⟩ | ⟨_, hblocked⟩
      · exact Or.inl hretry
      · exact Or.inr (Or.inl hfailed)
      · exact Or.inr (Or.inr (Or.inl hblocked))
  | retried t n hmem hfailed htype hlatest hnew hunstarted hn =>
      have hfresh : ∀ m ∈ [n], Unstarted m ∧ ∀ u ∈ p.tasks, u.id ≠ m.id := by
        intro m hm
        rw [List.mem_singleton.mp hm]
        exact ⟨hunstarted, hnew⟩
      exact follow_append hknown hfresh rfl rfl rfl
  | extracted t t' key s new hmem hruns htype hended hinvoice hversion hfresh hnew =>
      exact hcompleted hmem hruns (by rw [htype]; decide) hended rfl rfl rfl (follows_unstarted hnew)
  | reconstructed t t' key rows new hmem hruns htype hended hrows =>
      have hunstarted : ∀ n ∈ new, Unstarted n ∧ ∀ u ∈ p.tasks, u.id ≠ n.id := by
        rcases hrows with ⟨_, rfl⟩ | ⟨_, _, _, hnew⟩
        · exact hnil
        · exact follows_unstarted hnew
      exact hcompleted hmem hruns (by rw [htype]; decide) hended rfl rfl rfl hunstarted
  | searched t t' key runs new hmem hruns htype hended hhands hnew =>
      exact hcompleted hmem hruns (by rw [htype]; decide) hended rfl rfl rfl (follows_unstarted hnew)
  | judged t t' key rows new hmem hruns htype hended hrows hnew =>
      exact hcompleted hmem hruns (by rw [htype]; decide) hended rfl rfl rfl (follows_unstarted hnew)
  | bound t t' key new hmem hruns htype hbinds hended hnew =>
      exact follow_replace hknown hinv hmem hended.toSameTask rfl (fun k hk => Or.inl hk)
        (fun a ha => Or.inl ⟨a, ha, rfl⟩) (fun id _ => ⟨rfl, rfl⟩)
        (.bound t' key hbinds hruns hended) (follows_unstarted hnew)
  | released f hf hattempt =>
      constructor
      · constructor
        · intro k hk
          obtain ⟨t, ht, hid⟩ := hknown.keys k hk
          exact ⟨f t, List.mem_map_of_mem ht, (hf.same t ht).id.trans hid⟩
        · intro a ha
          obtain ⟨t, ht, hid⟩ := hknown.attempts a ha
          exact ⟨f t, List.mem_map_of_mem ht, (hf.same t ht).id.trans hid⟩
      · intro t' ht'
        obtain ⟨t, ht, rfl⟩ := List.mem_map.mp ht'
        refine Or.inl ⟨t, ht, ?_⟩
        obtain ⟨hsame, heq | hreleased⟩ := hattempt t ht
        · rw [heq]
          exact .same
        · unfold recordOf
          rw [(hf.same t ht).id]
          exact .released (f t) (hf.same t ht) hsame hreleased

/-! ## Runs -/

/-- An invariant of lives holds of every task of every run. -/
theorem records_of_run [Sha256] [TzDatabase] [CharacterTables]
    {allowed : World → TxnEnv → Call → Prop} (Q : Record → Prop)
    (hfresh : ∀ n, Unstarted n → Q ⟨n, [], []⟩)
    (hlife : ∀ w env c r r', allowed w env c → Q r → Life (occasionOf w env c) r r' → Q r')
    {w : World} (h : Run allowed w) :
    Known (pipelineOf w) ∧ ∀ t ∈ w.db .workflowTasks, Q (recordOf (pipelineOf w) t) := by
  refine pipeline_of_run (fun p => Known p ∧ ∀ t ∈ p.tasks, Q (recordOf p t)) ?_ ?_ h
  · refine ⟨⟨?_, ?_⟩, ?_⟩
    all_goals exact fun _ h => absurd h List.not_mem_nil
  · rintro w env c p' hhealthy ⟨hknown, hinv⟩ hallowed hstep
    obtain ⟨hknown', hfollow⟩ := follow_of_step hhealthy hknown hstep
    refine ⟨hknown', fun t' ht' => ?_⟩
    rcases hfollow t' ht' with ⟨t, ht, hstep⟩ | ⟨hunstarted, heq⟩
    · exact hlife w env c _ _ hallowed (hinv t ht) hstep
    · rw [heq]
      exact hfresh t' hunstarted

/-! ## Bounded attempts -/

/-- As many leases as attempts, within the automatic ones, and none left after the
last but the one that runs. -/
structure Bounded (r : Record) : Prop where
  counted : r.keys.length = r.task.currentAttempt
  bounded : r.task.currentAttempt ≤ maxAutomaticAttempts
  unstarted : r.task.state = .pending ∨ r.task.state = .held → r.task.currentAttempt = 0
  waiting : r.task.state = .retryWait → r.task.currentAttempt < maxAutomaticAttempts
  unleased : r.task.state ≠ .leased

theorem Bounded.life {o : Occasion} {r r' : Record} (h : Bounded r) (hlife : Life o r r')
    (ho : o.takesOver r.task → r.task.currentAttempt < maxAutomaticAttempts) : Bounded r' := by
  cases hlife with
  | same => exact h
  | started t' key hstart hsame hkey hrun =>
      have hlt : r.task.currentAttempt < maxAutomaticAttempts := by
        rcases hstart with hpending | hwaiting | htaken
        · rw [h.unstarted (Or.inl hpending)]
          exact Nat.succ_pos 2
        · exact h.waiting hwaiting
        · exact ho htaken
      have hattempt : t'.currentAttempt = r.task.currentAttempt + 1 := hrun.2.1.trans hkey.2
      refine ⟨?_, ?_, ?_, ?_, ?_⟩
      · rw [List.length_append, h.counted, hattempt]
        rfl
      · rw [hattempt]
        exact hlt
      all_goals
        rw [hrun.1]
        exact nofun
  | ended t' key state hruns hattempt hended hstate =>
      refine ⟨?_, ?_, ?_, ?_, ?_⟩
      · rw [hended.attempt]
        exact h.counted
      · rw [hended.attempt]
        exact h.bounded
      · rw [hended.state]
        rcases hstate with ⟨rfl, _⟩ | rfl | rfl | rfl <;> exact nofun
      · rw [hended.state, hended.attempt, hattempt]
        rcases hstate with ⟨_, hlt⟩ | rfl | rfl | rfl
        · exact fun _ => hlt
        all_goals exact nofun
      · rw [hended.state]
        rcases hstate with ⟨rfl, _⟩ | rfl | rfl | rfl <;> exact nofun
  | bound t' key hbinds hruns hended =>
      refine ⟨?_, ?_, ?_, ?_, ?_⟩
      · rw [hended.attempt]
        exact h.counted
      · rw [hended.attempt]
        exact h.bounded
      all_goals
        rw [hended.state]
        exact nofun
  | released t' hsame hattempt hstate =>
      have hzero := h.unstarted (Or.inr hstate.1)
      refine ⟨?_, ?_, ?_, ?_, ?_⟩
      · rw [hattempt]
        exact h.counted
      · rw [hattempt]
        exact h.bounded
      · rw [hattempt]
        exact fun _ => hzero
      all_goals
        rw [hstate.2]
        exact nofun

/-- No task is started more often than the automatic attempts allow, and one started
as often runs or is terminal. -/
def AttemptsBounded (p : State) : Prop :=
  ∀ t ∈ p.tasks, (keysOf p t.id).length ≤ maxAutomaticAttempts ∧
    ((keysOf p t.id).length = maxAutomaticAttempts → t.state = .running ∨ active t = false)

instance (p : State) : Decidable (AttemptsBounded p) := by
  unfold AttemptsBounded
  exact inferInstance

section Runs

variable [Sha256] [TzDatabase] [CharacterTables]

/-- No claim takes a task over whose automatic attempts are used up. -/
def WithinAttempts (w : World) (env : TxnEnv) (c : Call) : Prop :=
  ∀ t ∈ takenOver w env c, t.currentAttempt < maxAutomaticAttempts

instance (w : World) (env : TxnEnv) (c : Call) : Decidable (WithinAttempts w env c) :=
  inferInstanceAs (Decidable (∀ t ∈ takenOver w env c, _))

/-- In every run in which no claim takes over a task whose automatic attempts are used
up, the attempts of every task are bounded. -/
theorem attempts_bounded {w : World} (h : Run WithinAttempts w) :
    AttemptsBounded (pipelineOf w) := by
  have hbounded := (records_of_run Bounded ?_ ?_ h).2
  · intro t ht
    obtain ⟨hcounted, hle, hunstarted, hwaiting, hunleased⟩ := hbounded t ht
    dsimp only [recordOf] at hcounted hle hunstarted hwaiting hunleased
    rw [hcounted]
    refine ⟨hle, fun hlast => ?_⟩
    have hzero : t.state = .pending ∨ t.state = .held → maxAutomaticAttempts = 0 := fun hstate =>
      hlast.symm.trans (hunstarted hstate)
    unfold active
    cases hstate : t.state with
    | pending => exact nomatch hzero (Or.inl hstate)
    | held => exact nomatch hzero (Or.inr hstate)
    | leased => exact absurd hstate hunleased
    | retryWait =>
        have hlt := hwaiting hstate
        omega
    | running => exact Or.inl rfl
    | completed => exact Or.inr rfl
    | blocked => exact Or.inr rfl
    | failed => exact Or.inr rfl
  · intro n hn
    refine ⟨hn.attempt.symm, ?_, fun _ => hn.attempt, ?_, ?_⟩
    · rw [hn.attempt]
      exact Nat.zero_le _
    all_goals
      dsimp only
      rcases hn.state with hstate | hstate <;> rw [hstate] <;> exact nofun
  · intro w env c r r' hallowed hinv hlife
    exact hinv.life hlife fun htaken => hallowed r.task htaken

end Runs

section Case

open Sample

local instance : Sha256 := Sha256.standard
local instance : TzDatabase := zone
local instance : CharacterTables := ascii

/-- Workers that claim the extraction for one second each and die. -/
def dying (workers : List String) : Script :=
  workers.flatMap fun workerId => [always (.claimExtraction workerId 1), pause, pause]

theorem attempts_bounded_dying :
    AttemptsBounded (pipelineOf (play World.initial 1 (received ++ dying ["w1", "w2", "w3"]))) :=
  attempts_bounded (run_of_plays _ .start (by decide +kernel))

/-- A fourth claim takes the task over from the third. -/
theorem dying_not_bounded :
    let w := play World.initial 1 (received ++ dying ["w1", "w2", "w3", "w4"])
    Run (fun _ _ _ => True) w ∧ ¬ AttemptsBounded (pipelineOf w) :=
  ⟨run_play _ _ _, by decide +kernel⟩

end Case

/-! ## The attempt ledger -/

/-- The RUNNING rows of a ledger. -/
def runningIn (attempts : List WorkflowTaskAttempt) : List WorkflowTaskAttempt :=
  attempts.filter fun a => a.state = .running

/-- The rows of a task are numbered as its attempts, with one RUNNING row while it
runs and a COMPLETED one for the attempt that completed it. -/
structure Ledger (r : Record) : Prop where
  numbers : r.attempts.map WorkflowTaskAttempt.attempt = List.range' 1 r.task.currentAttempt
  running : r.task.state = .running → ∃ owner, r.task.leaseOwner = some owner ∧
    runningIn r.attempts = [⟨r.task.id, r.task.currentAttempt, .running, owner⟩]
  idle : r.task.state ≠ .running → runningIn r.attempts = []
  completed : r.task.state = .completed → ∃ a ∈ r.attempts, a.attempt = r.task.currentAttempt ∧
    a.state = .completed

theorem Ledger.started {r : Record} (h : Ledger r) {t' : WorkflowTask} {key : LeaseKey}
    (hstart : r.task.state = .pending ∨ r.task.state = .retryWait) (hsame : SameTask r.task t')
    (hkey : key.taskId = r.task.id ∧ key.attempt = r.task.currentAttempt + 1)
    (hrun : t'.state = .running ∧ t'.currentAttempt = key.attempt ∧
      t'.leaseOwner = some key.workerId) :
    Ledger ⟨t', r.keys ++ [key], r.attempts ++ [startedAttempt key]⟩ := by
  have hidle : runningIn r.attempts = [] := by
    refine h.idle fun hrunning => ?_
    rcases hstart with hstate | hstate <;> rw [hrunning] at hstate <;>
      exact absurd hstate (by decide)
  refine ⟨?_, ?_, ?_, ?_⟩
  · rw [List.map_append, h.numbers, hrun.2.1, hkey.2, List.range'_concat]
    simp [startedAttempt, hkey.2, Nat.add_comm]
  · intro _
    refine ⟨key.workerId, hrun.2.2, ?_⟩
    have hone : runningIn [startedAttempt key] = [startedAttempt key] := rfl
    unfold runningIn at hidle hone ⊢
    rw [List.filter_append, hidle, hone, List.nil_append, hrun.2.1, hsame.id, ← hkey.1]
    rfl
  · exact fun hne => absurd hrun.1 hne
  · intro hdone
    exact absurd (hrun.1.symm.trans hdone) (by decide)

/-- The end of an attempt closes the one RUNNING row. -/
theorem Ledger.ended {r : Record} (h : Ledger r) {t' : WorkflowTask} {key : LeaseKey}
    {state : TaskState} (hruns : RunsUnder key r.task)
    (hattempt : r.task.currentAttempt = key.attempt) (hended : Ended state r.task t')
    (hstate : state ≠ .running) : Ledger ⟨t', r.keys, r.attempts.map (endAttempt key state)⟩ := by
  obtain ⟨owner, howner, hrunning⟩ := h.running hruns.state
  obtain rfl : key.workerId = owner := Option.some.inj (hruns.owner.symm.trans howner)
  have hmatches : ∀ a ∈ r.attempts, a.state = .running →
      a = ⟨r.task.id, r.task.currentAttempt, .running, key.workerId⟩ := by
    intro a ha hrun
    have hmem : a ∈ runningIn r.attempts := List.mem_filter.mpr ⟨ha, decide_eq_true hrun⟩
    rw [hrunning] at hmem
    exact List.mem_singleton.mp hmem
  have hcloses : endAttempt key state ⟨r.task.id, r.task.currentAttempt, .running, key.workerId⟩ =
      ⟨r.task.id, r.task.currentAttempt, state, key.workerId⟩ := by
    unfold endAttempt
    exact if_pos ⟨hruns.id, hattempt, rfl⟩
  refine ⟨?_, ?_, ?_, ?_⟩
  · rw [hended.attempt, ← h.numbers, List.map_map]
    refine List.map_congr_left fun a _ => ?_
    unfold endAttempt
    dsimp only [Function.comp_apply]
    split <;> rfl
  · exact fun hrun => absurd (hended.state.symm.trans hrun) hstate
  · intro _
    unfold runningIn
    rw [List.filter_eq_nil_iff]
    intro b hb hrun
    obtain ⟨a, ha, rfl⟩ := List.mem_map.mp hb
    have hrun' : (endAttempt key state a).state = .running := of_decide_eq_true hrun
    have ha' : a.state = .running := by
      unfold endAttempt at hrun'
      split at hrun'
      · exact absurd hrun' hstate
      · exact hrun'
    rw [hmatches a ha ha', hcloses] at hrun'
    exact hstate hrun'
  · intro hdone
    have hcompleted : state = .completed := hended.state.symm.trans hdone
    have hmem : (⟨r.task.id, r.task.currentAttempt, .running, key.workerId⟩ :
        WorkflowTaskAttempt) ∈ runningIn r.attempts := by
      rw [hrunning]
      exact List.mem_singleton_self _
    refine ⟨_, List.mem_map_of_mem (List.mem_of_mem_filter hmem), ?_⟩
    rw [hcloses]
    exact ⟨hended.attempt.symm, hcompleted⟩

theorem Ledger.life {o : Occasion} {r r' : Record} (h : Ledger r) (hlife : Life o r r')
    (htakes : ¬ o.takesOver r.task) (hbinds : ¬ o.binds) : Ledger r' := by
  cases hlife with
  | same => exact h
  | started t' key hstart hsame hkey hrun =>
      refine h.started ?_ hsame hkey hrun
      rcases hstart with hpending | hwaiting | htaken
      · exact Or.inl hpending
      · exact Or.inr hwaiting
      · exact absurd htaken htakes
  | ended t' key state hruns hattempt hended hstate =>
      refine h.ended hruns hattempt hended ?_
      rcases hstate with ⟨rfl, _⟩ | rfl | rfl | rfl <;> exact nofun
  | bound t' key hbound hruns hended => exact absurd hbound hbinds
  | released t' hsame hattempt hstate =>
      have hidle := h.idle fun hrun => nomatch hrun.symm.trans hstate.1
      refine ⟨?_, ?_, fun _ => hidle, ?_⟩
      · rw [hattempt]
        exact h.numbers
      all_goals
        rw [hstate.2]
        exact nofun

/-- The RUNNING rows of each task are its current attempt while it runs, and none
otherwise; the row of the attempt that completed a task is COMPLETED. -/
def LedgerConsistent (p : State) : Prop :=
  ∀ t ∈ p.tasks, let running := runningIn (attemptsOf p t.id)
    running.length ≤ 1 ∧ (running ≠ [] ↔ t.state = .running) ∧
    (∀ a ∈ running, a.attempt = t.currentAttempt) ∧
    (t.state = .completed → (∃ a ∈ attemptsOf p t.id, a.attempt = t.currentAttempt) ∧
      ∀ a ∈ attemptsOf p t.id, a.attempt = t.currentAttempt → a.state = .completed)

instance (p : State) : Decidable (LedgerConsistent p) := by
  unfold LedgerConsistent
  exact inferInstance

theorem Ledger.consistent {r : Record} (h : Ledger r) :
    let running := runningIn r.attempts
    running.length ≤ 1 ∧ (running ≠ [] ↔ r.task.state = .running) ∧
    (∀ a ∈ running, a.attempt = r.task.currentAttempt) ∧
    (r.task.state = .completed → (∃ a ∈ r.attempts, a.attempt = r.task.currentAttempt) ∧
      ∀ a ∈ r.attempts, a.attempt = r.task.currentAttempt → a.state = .completed) := by
  intro running
  have hcompleted : r.task.state = .completed →
      (∃ a ∈ r.attempts, a.attempt = r.task.currentAttempt) ∧
        ∀ a ∈ r.attempts, a.attempt = r.task.currentAttempt → a.state = .completed := by
    intro hdone
    obtain ⟨a, ha, hattempt, hstate⟩ := h.completed hdone
    refine ⟨⟨a, ha, hattempt⟩, fun b hb hb' => ?_⟩
    have hnodup : (r.attempts.map WorkflowTaskAttempt.attempt).Nodup := by
      rw [h.numbers]
      exact List.nodup_range'
    rw [List.inj_on_of_nodup_map hnodup hb ha (hb'.trans hattempt.symm)]
    exact hstate
  by_cases hrun : r.task.state = .running
  · obtain ⟨owner, _, hone⟩ := h.running hrun
    have hrunning : running = _ := hone
    rw [hrunning]
    refine ⟨le_rfl, ⟨fun _ => hrun, fun _ => List.cons_ne_nil _ _⟩, ?_, hcompleted⟩
    intro a ha
    rw [List.mem_singleton.mp ha]
  · have hrunning : running = [] := h.idle hrun
    rw [hrunning]
    exact ⟨Nat.zero_le _, ⟨fun hne => absurd rfl hne, fun hstate => absurd hstate hrun⟩,
      fun _ ha => absurd ha List.not_mem_nil, hcompleted⟩

section Runs

variable [Sha256] [TzDatabase] [CharacterTables]

/-- No claim takes a task over, and no access binding completes. -/
def ClosesAttempts (w : World) (env : TxnEnv) (c : Call) : Prop :=
  takenOver w env c = none ∧ ¬ BindsAccess w c

end Runs

section Case

open Sample

local instance : Sha256 := Sha256.standard
local instance : TzDatabase := zone
local instance : CharacterTables := ascii

instance (w : World) (env : TxnEnv) (c : Call) : Decidable (ClosesAttempts w env c) :=
  inferInstanceAs (Decidable (_ ∧ _))

end Case

end Tally.Analysis.Attempts
