import Tally.Analysis.Currency
import Tally.Analysis.PipelineRefinement

/-!
# Fencing by leases

A worker ends an attempt only under the lease the attempt runs under. The attempt
counter of a task grows with every claim, so at most one lease is current; a call
with any other lease is refused before it writes, a task completes once, and what a
completion writes is written once.
-/

set_option autoImplicit false

namespace Tally.Analysis.Leases
open Library Library.Calendar Tally.Model IntakeTasks ReconstructionRepository
  ApplicableRuleRepository JudgmentRepository AccessEvidenceRepository Effects Pipeline

/-! ## The invariant -/

/-- The keys handed out, the tasks they run, and the completions. -/
structure Fenced (p : State) : Prop where
  keys : ∀ k ∈ p.keys, ∃ t ∈ p.tasks, t.id = k.taskId ∧ k.attempt ≤ t.currentAttempt
  running : ∀ t ∈ p.tasks, t.state = .running → ∃ k ∈ p.keys,
    k.taskId = t.id ∧ k.attempt = t.currentAttempt ∧ t.leaseOwner = some k.workerId
  workers : (p.keys.map LeaseKey.workerId).Nodup
  completed : ∀ c ∈ p.completed, ∃ t ∈ p.tasks, t.id = c.key.taskId ∧ t.state = .completed
  once : (p.completed.map fun c => c.key.taskId).Nodup
  written : ∀ s ∈ p.claimSets, ∃ c ∈ p.completed, c.claimSetId = some s.id
  sets : p.claimSets.Pairwise fun a b => a.id ≠ b.id

/-- The invariant is about the tasks, the keys, the completions and the claim sets. -/
theorem Fenced.of_same {p p' : State} (h : Fenced p) (htasks : p'.tasks = p.tasks)
    (hkeys : p'.keys = p.keys) (hcompleted : p'.completed = p.completed)
    (hsets : p'.claimSets = p.claimSets) : Fenced p' := by
  obtain ⟨tasks, keys, attempts, completed, claimSets, reconstructions, runs, recs⟩ := p
  obtain ⟨tasks', keys', attempts', completed', claimSets', reconstructions', runs', recs'⟩ := p'
  dsimp only at htasks hkeys hcompleted hsets
  subst htasks hkeys hcompleted hsets
  exact ⟨h.keys, h.running, h.workers, h.completed, h.once, h.written, h.sets⟩

/-- New tasks that no attempt has started on. -/
theorem Fenced.append {p : State} (h : Fenced p) {new : List WorkflowTask}
    (hnew : ∀ n ∈ new, n.state ≠ .running) : Fenced { p with tasks := p.tasks ++ new } := by
  refine ⟨?_, ?_, h.workers, ?_, h.once, h.written, h.sets⟩
  · intro k hk
    obtain ⟨t, ht, hrest⟩ := h.keys k hk
    exact ⟨t, List.mem_append_left _ ht, hrest⟩
  · intro t ht hrun
    rcases List.mem_append.mp ht with hold | hadded
    · exact h.running t hold hrun
    · exact absurd hrun (hnew t hadded)
  · intro c hc
    obtain ⟨t, ht, hrest⟩ := h.completed c hc
    exact ⟨t, List.mem_append_left _ ht, hrest⟩

/-- Rows that keep their attempt and run no more than before. -/
theorem Fenced.map {p : State} (h : Fenced p) {f : WorkflowTask → WorkflowTask}
    (hf : Moves p.tasks f) (hattempt : ∀ t ∈ p.tasks, (f t).currentAttempt = t.currentAttempt)
    (hrunning : ∀ t ∈ p.tasks, (f t).state = .running → f t = t) :
    Fenced { p with tasks := p.tasks.map f } := by
  refine ⟨?_, ?_, h.workers, ?_, h.once, h.written, h.sets⟩
  · intro k hk
    obtain ⟨t, ht, hid, hle⟩ := h.keys k hk
    refine ⟨f t, List.mem_map_of_mem ht, (hf.same t ht).id.trans hid, ?_⟩
    rw [hattempt t ht]
    exact hle
  · intro t' ht' hrun
    obtain ⟨t, ht, rfl⟩ := List.mem_map.mp ht'
    have heq := hrunning t ht hrun
    rw [heq] at hrun ⊢
    exact h.running t ht hrun
  · intro c hc
    obtain ⟨t, ht, hid, hstate⟩ := h.completed c hc
    refine ⟨f t, List.mem_map_of_mem ht, (hf.same t ht).id.trans hid, ?_⟩
    rw [hf.completed ht (Or.inl hstate)]
    exact hstate

/-- The end of an attempt in any state but RUNNING. -/
theorem Fenced.ended {p : State} (h : Fenced p) (htasks : TasksInv p.tasks) {t t' : WorkflowTask}
    {state : TaskState} (hmem : t ∈ p.tasks) (hrun : t.state = .running) (hended : Ended state t t')
    (hstate : state ≠ .running) : Fenced { p with tasks := p.tasks.map (replaceTask t') } := by
  have hf := htasks.moves_replace hmem (running_active hrun) hended.toSameTask
  refine h.map hf ?_ ?_
  · intro u hu
    unfold replaceTask
    split
    · rename_i hid
      obtain rfl := htasks.eq_of_id hu hmem (hid.trans hended.id)
      exact hended.attempt
    · rfl
  · intro u hu hrunning
    unfold replaceTask at hrunning ⊢
    split
    · rename_i hid
      rw [if_pos hid, hended.state] at hrunning
      exact absurd hrunning hstate
    · rfl

/-- A completion is recorded once: the task was running, and is no more. -/
theorem Fenced.complete {p : State} (h : Fenced p) (htasks : TasksInv p.tasks)
    {t t' : WorkflowTask} {key : LeaseKey} (hmem : t ∈ p.tasks) (hruns : RunsUnder key t)
    (hended : Ended .completed t t') (claimSetId : Option Uuid) :
    Fenced { p with
      tasks := p.tasks.map (replaceTask t')
      completed := p.completed ++ [⟨key, claimSetId⟩] } := by
  have hdone := h.ended htasks hmem hruns.state hended (by decide)
  refine ⟨hdone.keys, hdone.running, h.workers, ?_, ?_, ?_, h.sets⟩
  · intro c hc
    rcases List.mem_append.mp hc with hold | hnew
    · exact hdone.completed c hold
    · rw [List.mem_singleton.mp hnew]
      exact ⟨t', List.mem_map.mpr ⟨t, hmem, if_pos hended.id.symm⟩,
        hended.id.trans hruns.id, hended.state⟩
  · rw [List.map_append, List.nodup_append]
    refine ⟨h.once, List.nodup_singleton _, ?_⟩
    intro a ha b hb heq
    obtain ⟨c, hc, rfl⟩ := List.mem_map.mp ha
    rw [List.map_singleton, List.mem_singleton] at hb
    obtain ⟨u, hu, huid, hustate⟩ := h.completed c hc
    have hid : u.id = t.id := huid.trans (heq.trans (hb.trans hruns.id.symm))
    rw [htasks.eq_of_id hu hmem hid, hruns.state] at hustate
    exact nomatch hustate
  · intro s hs
    obtain ⟨c, hc, hid⟩ := h.written s hs
    exact ⟨c, List.mem_append_left _ hc, hid⟩

/-- The claim of a task hands out the only key of its new attempt. -/
theorem Fenced.started {p : State} (h : Fenced p) (htasks : TasksInv p.tasks)
    {t t' : WorkflowTask} {key : LeaseKey} (hmem : t ∈ p.tasks) (hactive : active t = true)
    (hsame : SameTask t t') (hkey : key.taskId = t.id ∧ key.attempt = t.currentAttempt + 1)
    (hrun : t'.state = .running ∧ t'.currentAttempt = key.attempt ∧
      t'.leaseOwner = some key.workerId)
    (hworker : ∀ k ∈ p.keys, k.workerId ≠ key.workerId) :
    Fenced { p with tasks := p.tasks.map (replaceTask t'), keys := p.keys ++ [key] } := by
  have hf := htasks.moves_replace hmem hactive hsame
  have hmem' : t' ∈ p.tasks.map (replaceTask t') :=
    List.mem_map.mpr ⟨t, hmem, if_pos hsame.id.symm⟩
  refine ⟨?_, ?_, ?_, ?_, h.once, h.written, h.sets⟩
  · intro k hk
    rcases List.mem_append.mp hk with hold | hnew
    · obtain ⟨u, hu, hid, hle⟩ := h.keys k hold
      by_cases hut : u.id = t.id
      · obtain rfl := htasks.eq_of_id hu hmem hut
        refine ⟨t', hmem', hsame.id.trans hid, ?_⟩
        rw [hrun.2.1, hkey.2]
        omega
      · refine ⟨u, List.mem_map.mpr ⟨u, hu, ?_⟩, hid, hle⟩
        unfold replaceTask
        exact if_neg fun heq => hut (heq.trans hsame.id)
    · rw [List.mem_singleton.mp hnew]
      exact ⟨t', hmem', hsame.id.trans hkey.1.symm, hrun.2.1.ge⟩
  · intro u' hu' hrunning
    obtain ⟨u, hu, rfl⟩ := List.mem_map.mp hu'
    unfold replaceTask at hrunning ⊢
    by_cases hid : u.id = t'.id
    · rw [if_pos hid]
      exact ⟨key, List.mem_append_right _ (List.mem_singleton_self _),
        hkey.1.trans hsame.id.symm, hrun.2.1.symm, hrun.2.2⟩
    · rw [if_neg hid] at hrunning ⊢
      obtain ⟨k, hk, hrest⟩ := h.running u hu hrunning
      exact ⟨k, List.mem_append_left _ hk, hrest⟩
  · rw [List.map_append, List.nodup_append]
    refine ⟨h.workers, List.nodup_singleton _, ?_⟩
    intro a ha b hb
    obtain ⟨k, hk, rfl⟩ := List.mem_map.mp ha
    rw [List.map_singleton, List.mem_singleton] at hb
    rw [hb]
    exact hworker k hk
  · intro c hc
    obtain ⟨u, hu, hid, hstate⟩ := h.completed c hc
    exact ⟨u, List.mem_map.mpr ⟨u, hu, hf.completed hu (Or.inl hstate)⟩, hid, hstate⟩

theorem follows_not_running {tasks new : List WorkflowTask} {t : WorkflowTask}
    {taskType : TaskType} {P : WorkflowTask → Prop} (h : Follows tasks t taskType P new) :
    ∀ n ∈ new, n.state ≠ .running := by
  intro n hn hrun
  rcases h with rfl | ⟨m, rfl, _, _, _, hunstarted, _⟩
  · exact List.not_mem_nil hn
  · rw [List.mem_singleton.mp hn] at hrun
    rcases hunstarted.state with hstate | hstate
    · rw [hrun] at hstate
      exact nomatch hstate
    · rw [hrun] at hstate
      exact nomatch hstate

/-- Every step of a run with distinct workers keeps the invariant. -/
theorem Fenced.step [Sha256] {o : Occasion} {p p' : State} (h : Fenced p) (hhealthy : Healthy p)
    (hdistinct : ∀ id, o.worker id → ∀ k ∈ p.keys, k.workerId ≠ id) (hstep : Step o p p') :
    Fenced p' := by
  have htasks := hhealthy.tasks
  cases hstep with
  | same => exact h
  | received n hnew htype hn =>
      refine h.append fun m hm => ?_
      rw [List.mem_singleton.mp hm, hn.2.1]
      decide
  | started t t' key hmem hactive hstart hworker hsame hkey hrun =>
      exact (h.started htasks hmem hactive hsame hkey hrun
        (hdistinct key.workerId hworker)).of_same rfl rfl rfl rfl
  | failed t t' key state hmem hruns htype hended hstate =>
      have hne : state ≠ .running := by
        rcases hstate with ⟨rfl, _⟩ | ⟨_, rfl⟩ | ⟨_, rfl⟩ <;> decide
      exact (h.ended htasks hmem hruns.state hended hne).of_same rfl rfl rfl rfl
  | retried t n hmem hfailed htype hlatest hnew hunstarted hn =>
      refine h.append fun m hm => ?_
      rw [List.mem_singleton.mp hm, hn.2.2.2]
      decide
  | extracted t t' key s new hmem hruns htype hended hinvoice hversion hfresh hnew =>
      have hcompleted := h.complete htasks hmem hruns hended (some s.id)
      have hdone := hcompleted.append (follows_not_running hnew)
      refine ⟨hdone.keys, hdone.running, hdone.workers, hdone.completed, hdone.once, ?_, ?_⟩
      · intro r hr
        rcases List.mem_append.mp hr with hold | hadded
        · exact hdone.written r hold
        · rw [List.mem_singleton.mp hadded]
          exact ⟨_, List.mem_append_right _ (List.mem_singleton_self _), rfl⟩
      · rw [List.pairwise_append]
        refine ⟨h.sets, List.pairwise_singleton _ _, ?_⟩
        intro a ha b hb
        rw [List.mem_singleton.mp hb]
        exact hfresh a ha
  | reconstructed t t' key rows new hmem hruns htype hended hrows =>
      have hnotRunning : ∀ n ∈ new, n.state ≠ .running := by
        rcases hrows with ⟨_, rfl⟩ | ⟨row, _, _, hnew⟩
        · exact fun n hn => absurd hn List.not_mem_nil
        · exact follows_not_running hnew
      exact ((h.complete htasks hmem hruns hended none).append hnotRunning).of_same rfl rfl rfl rfl
  | searched t t' key runs new hmem hruns htype hended hhands hnew =>
      exact ((h.complete htasks hmem hruns hended none).append
        (follows_not_running hnew)).of_same rfl rfl rfl rfl
  | judged t t' key rows new hmem hruns htype hended hrows hnew =>
      exact ((h.complete htasks hmem hruns hended none).append
        (follows_not_running hnew)).of_same rfl rfl rfl rfl
  | bound t t' key new hmem hruns htype hbinds hended hnew =>
      exact ((h.complete htasks hmem hruns hended none).append
        (follows_not_running hnew)).of_same rfl rfl rfl rfl
  | released f hf hattempt =>
      refine h.map hf (fun t ht => (hattempt t ht).1) fun t ht hrun => ?_
      rcases (hattempt t ht).2 with heq | ⟨_, hpending⟩
      · exact heq
      · rw [hpending] at hrun
        exact nomatch hrun

theorem fenced_initial : Fenced (pipelineOf World.initial) := by
  refine ⟨?_, ?_, List.nodup_nil, ?_, List.nodup_nil, ?_, List.Pairwise.nil⟩
  all_goals exact fun _ h => absurd h List.not_mem_nil

/-! ## Runs -/

section Runs

variable [Sha256] [TzDatabase] [CharacterTables]

/-- No two claims serve the same worker. -/
def DistinctWorkers (w : World) (_ : TxnEnv) (c : Call) : Prop :=
  ∀ workerId, ClaimsFor workerId c → ∀ l ∈ w.leases, l.key.workerId ≠ workerId

theorem fenced_of_run {w : World} (h : Run DistinctWorkers w) : Fenced (pipelineOf w) := by
  refine pipeline_of_run Fenced fenced_initial ?_ h
  intro w env c p' hhealthy hinv hallowed hstep
  refine hinv.step hhealthy ?_ hstep
  intro id hclaims k hk
  obtain ⟨l, hl, rfl⟩ := List.mem_map.mp hk
  exact hallowed id hclaims l hl

/-! ## Stale leases -/

/-- The lease a task runs under. -/
def Current (db : Db) (key : LeaseKey) : Prop :=
  ∃ t ∈ db .workflowTasks, t.id = key.taskId ∧ t.state = .running ∧
    t.currentAttempt = key.attempt ∧ t.leaseOwner = some key.workerId

/-- The lease a call ends an attempt under. -/
def endedLease : Call → Option Lease
  | .completeExtraction lease _ | .failExtraction lease _ _ => some (.extraction lease)
  | .completeReconstruction lease _ | .failReconstruction lease _ _ =>
    some (.reconstruction lease)
  | .completeRule lease _ _ _ | .failRule lease _ _ => some (.rule lease)
  | .completeJudgment lease _ | .failJudgment lease => some (.judgment lease)
  | .completeAccessBinding lease => some (.access lease)
  | _ => none

/-- The worker has what its call submits: the adjudicated days, or the inputs it
read. -/
def Submits (w : World) : Call → Prop
  | .completeReconstruction lease rows => ∃ work, reconstructionWork lease rows = .ok work
  | .completeJudgment lease days => (lease, days) ∈ w.dayInputs ∧ days ≠ []
  | _ => True

omit [Sha256] [TzDatabase] [CharacterTables] in
theorem assertCurrentLease_lost {db : Db} {key : LeaseKey} (h : ¬ Current db key) :
    assertCurrentLease key db = .error .taskLeaseLost := by
  refine assertLease_lost fun t hpasses => h ?_
  obtain ⟨hmem, hid⟩ := hpasses.mem
  have hpass := hpasses.2
  unfold holdsLease at hpass
  simp only [decide_eq_true_eq] at hpass
  exact ⟨t, hmem, hid, hpass⟩

omit [Sha256] [TzDatabase] [CharacterTables] in
/-- A worker holds one lease, so a binding under a stale lease is refused although
the check reads the worker only. -/
theorem assertWorker_lost {w : World} {l : Lease} (h : Fenced (pipelineOf w)) (hl : l ∈ w.leases)
    (hstale : ¬ Current w.db l.key) : assertWorker l.key w.db = .error .taskLeaseLost := by
  refine assertLease_lost fun t hpasses => hstale ?_
  obtain ⟨hmem, hid⟩ := hpasses.mem
  have hpass := hpasses.2
  simp only [decide_eq_true_eq] at hpass
  obtain ⟨k, hk, hkid, hkattempt, hkowner⟩ := h.running t hmem hpass.1
  have hworker : k.workerId = l.key.workerId :=
    Option.some.inj (hkowner.symm.trans hpass.2)
  obtain rfl : k = l.key :=
    List.inj_on_of_nodup_map h.workers hk (List.mem_map_of_mem hl) hworker
  exact ⟨t, hmem, hid, hpass.1, hkattempt.symm, hpass.2⟩

omit [Sha256] [TzDatabase] [CharacterTables] in
/-- A transaction that raises at its lease check leaves the world alone. -/
theorem commit_lost {α β : Type} {w : World} {check : Tx β} {rest : β → Tx α} {m : Tx α}
    (hm : m = check >>= rest) (hcheck : check w.db = .error .taskLeaseLost)
    (record : α → World → World) : w.commit m record = (w, some .taskLeaseLost) := by
  have herror : m w.db = .error .taskLeaseLost := by
    rw [hm]
    exact Txn.bind_error hcheck
  unfold World.commit
  rw [herror]

omit [Sha256] [TzDatabase] [CharacterTables] in
theorem withLease_eq {w : World} {l : Lease} (hl : l ∈ w.leases) (call : World × Option Raised) :
    w.withLease l call = call := if_pos hl

/-- A call under a lease that is not current raises and changes nothing. -/
theorem call_lost {w : World} {env : TxnEnv} {c : Call} {l : Lease} (h : Run DistinctWorkers w)
    (hc : endedLease c = some l) (hl : l ∈ w.leases) (hsubmits : Submits w c)
    (hstale : ¬ Current w.db l.key) : w.call env c = (w, some .taskLeaseLost) := by
  have hcheck := assertCurrentLease_lost hstale
  cases c with
  | completeExtraction lease validation =>
      obtain rfl := Option.some.inj hc
      exact (withLease_eq hl _).trans (commit_lost rfl hcheck _)
  | failExtraction lease errorCode retryable =>
      obtain rfl := Option.some.inj hc
      exact (withLease_eq hl _).trans (commit_lost rfl hcheck _)
  | completeReconstruction lease rows =>
      obtain rfl := Option.some.inj hc
      obtain ⟨work, hwork⟩ := hsubmits
      refine (withLease_eq hl _).trans ?_
      rw [hwork]
      exact commit_lost rfl hcheck _
  | failReconstruction lease errorCode retryable =>
      obtain rfl := Option.some.inj hc
      exact (withLease_eq hl _).trans (commit_lost rfl hcheck _)
  | completeRule lease fingerprint candidates decision =>
      obtain rfl := Option.some.inj hc
      exact (withLease_eq hl _).trans (commit_lost rfl hcheck _)
  | failRule lease errorCode retryable =>
      obtain rfl := Option.some.inj hc
      exact (withLease_eq hl _).trans (commit_lost rfl hcheck _)
  | completeJudgment lease days =>
      obtain rfl := Option.some.inj hc
      obtain ⟨hread, hdays⟩ := hsubmits
      obtain ⟨rec, hrec, _⟩ :=
        resolveRecommendation_inUsd hdays ((inUsd_of_run h).inputs _ hread)
      have herror : completeJudgment env lease days w.db = .error .taskLeaseLost := by
        unfold completeJudgment
        rw [hrec]
        exact Txn.bind_error hcheck
      refine (if_pos ⟨hread, hdays⟩).trans ((withLease_eq hl _).trans ?_)
      unfold World.commit
      rw [herror]
  | failJudgment lease =>
      obtain rfl := Option.some.inj hc
      exact (withLease_eq hl _).trans (commit_lost rfl hcheck _)
  | completeAccessBinding lease =>
      obtain rfl := Option.some.inj hc
      have hworker := assertWorker_lost (fenced_of_run h) hl hstale
      exact (withLease_eq hl _).trans (commit_lost rfl hworker _)
  | _ => exact nomatch hc

end Runs

section Case

open Sample

local instance : Sha256 := Sha256.standard
local instance : TzDatabase := zone
local instance : CharacterTables := ascii

/-- A received invoice whose extraction one worker has claimed. -/
def claimedOnce : World :=
  play World.initial 1 (received ++ [always (.claimExtraction "w1" 90)])

end Case

end Tally.Analysis.Leases
