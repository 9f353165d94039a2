import Tally.Library.Fallible
import Tally.Model.DemoRestore

/-!
# Restoring the demo again

The restore deletes the derived rows of the hero and writes them anew, but the task, the tariff
snapshot and the clause that it writes are not among the tables it deletes from. Every restore
leaves one more row in each of the three, whatever was there before, so a second restore never
leaves the tables that the first one left.
-/

set_option autoImplicit false

namespace Tally.Analysis.Restores
open Library Tally.Model Tally.Model.DemoRestore

/-! ## What a restore writes -/

/-- The tables the restore writes to and never deletes from. -/
def accumulating : List DemoTable := [.workflowTasks, .tariffSnapshots, .tariffClauses]

/-- The tables `_clear_derived` deletes from. -/
def cleared : List DemoTable :=
  [.sendGateRuns, .sendAttempts, .correspondenceDrafts, .decisionSeals, .approvals,
    .chargedDayJudgments, .chargedDayRuleBindings, .applicableRules, .ruleCandidates,
    .ruleRetrievalRuns, .recommendations, .dayEventBindings, .reconstructionEvents,
    .sourceArtifacts, .reconstructionCoverage, .chargedDays, .reconstructions]

/-- Each of the three tables gets one row of the three. -/
theorem inserted_once {t : DemoTable} (ht : t ∈ accumulating) :
    (if t = .workflowTasks then 1 else 0) +
      ((if t = .tariffSnapshots then 1 else 0) + if t = .tariffClauses then 1 else 0) = 1 := by
  revert t
  decide

theorem not_cleared {t : DemoTable} (ht : t ∈ accumulating) : t ∉ cleared := by
  revert t
  decide

section Footprints

variable {tables : List DemoTable} {t : DemoTable}

theorem writes_bind {α β : Type} {m : RestoreTx α} {f : α → RestoreTx β}
    (hm : Schema.Writes tables m) (hf : ∀ a, Schema.Writes tables (f a)) :
    Schema.Writes tables (m >>= f) :=
  Txn.keeps_bind Schema.sameExcept_trans hm hf

theorem writes_selectRows (selects : DemoRow t → Bool) :
    Schema.Writes tables (selectRows t selects) :=
  Schema.writes_read _

theorem writes_deleteRows (ht : t ∈ tables) (selects : DemoRow t → Bool) :
    Schema.Writes tables (deleteRows t selects) :=
  Schema.writes_delete ht

theorem writes_insertRow (ht : t ∈ tables) (row : DemoRow t) :
    Schema.Writes tables (insertRow t row) :=
  Schema.writes_insert ht

theorem writes_orRaise {α : Type} (error : RestoreError) (found : Option α) :
    Schema.Writes tables (Txn.orRaise error found : RestoreTx α) :=
  Txn.keeps_orRaise Schema.sameExcept_refl error found

theorem writes_orRefuse {α : Type} (result : Except RestoreError α) :
    Schema.Writes tables (orRefuse result) := by
  cases result with
  | ok value => exact Txn.keeps_pure Schema.sameExcept_refl value
  | error error => exact Txn.keeps_raise error

theorem writes_forEach {γ : Type} {body : Nat → γ → RestoreTx Unit}
    (hbody : ∀ i x, Schema.Writes tables (body i x)) (i : Nat) (xs : List γ) :
    Schema.Writes tables (Txn.forEach body i xs) :=
  Txn.keeps_forEach Schema.sameExcept_refl Schema.sameExcept_trans i xs fun i x _ => hbody i x

end Footprints

/-- Clearing deletes from the derived tables only. -/
theorem writes_clearDerived (invoiceId : Uuid) :
    Schema.Writes cleared (clearDerived invoiceId) := by
  unfold clearDerived
  refine writes_bind (writes_selectRows _) fun attempts => ?_
  refine writes_bind (writes_deleteRows (by decide) _) fun _ => ?_
  refine writes_bind (writes_deleteRows (by decide) _) fun _ => ?_
  refine writes_bind (writes_deleteRows (by decide) _) fun _ => ?_
  refine writes_bind (writes_deleteRows (by decide) _) fun _ => ?_
  refine writes_bind (writes_deleteRows (by decide) _) fun _ => ?_
  refine writes_bind (writes_deleteRows (by decide) _) fun _ => ?_
  refine writes_bind (writes_selectRows _) fun rules => ?_
  refine writes_bind (writes_deleteRows (by decide) _) fun _ => ?_
  refine writes_bind (writes_deleteRows (by decide) _) fun _ => ?_
  refine writes_bind (writes_selectRows _) fun runs => ?_
  refine writes_bind (writes_deleteRows (by decide) _) fun _ => ?_
  refine writes_bind (writes_deleteRows (by decide) _) fun _ => ?_
  refine writes_bind (writes_deleteRows (by decide) _) fun _ => ?_
  refine writes_bind (writes_selectRows _) fun days => ?_
  refine writes_bind (writes_deleteRows (by decide) _) fun _ => ?_
  refine writes_bind (writes_deleteRows (by decide) _) fun _ => ?_
  refine writes_bind (writes_deleteRows (by decide) _) fun _ => ?_
  refine writes_bind (writes_deleteRows (by decide) _) fun _ => ?_
  refine writes_bind (writes_deleteRows (by decide) _) fun _ => ?_
  exact writes_deleteRows (by decide) _

/-- The timeline is written to the artifacts and the events only. -/
theorem writes_seedEvents (env : TxnEnv) (invoiceId reconId : Uuid) :
    Schema.Writes cleared (seedEvents env invoiceId reconId) := by
  refine writes_bind (writes_forEach ?_ _ _) fun _ => writes_forEach ?_ _ _
  · intro i artifact
    exact Schema.writes_insertOrIgnore (by decide)
  · intro i event
    refine writes_bind (writes_selectRows _) fun artifacts => writes_forEach ?_ _ _
    intro j artifact
    exact writes_insertRow (by decide) _

/-! ## One more row -/

section Counts

variable [Sha256] {t : DemoTable}

omit [Sha256] in
theorem adds_insertRow (t u : DemoTable) (row : DemoRow u) :
    Schema.Adds t (if t = u then 1 else 0) (insertRow u row) := by
  by_cases htu : t = u
  · subst htu
    rw [if_pos rfl]
    exact Schema.adds_insert
  · rw [if_neg htu]
    exact (writes_insertRow (List.mem_singleton.mpr rfl) row).adds (by simpa using htu)

/-- The seed writes one task, one snapshot and one clause. -/
theorem adds_seedDispute (ht : t ∈ accumulating) (env : TxnEnv) (invoiceId carrierId : Uuid) :
    Schema.Adds t 1 (seedDispute env invoiceId carrierId) := by
  have hcleared := not_cleared ht
  have hinsert : ∀ u ∈ cleared, ∀ row : DemoRow u, Schema.Adds t 0 (insertRow u row) :=
    fun u hu row => (writes_insertRow hu row).adds hcleared
  have h : Schema.Adds t ((if t = .workflowTasks then 1 else 0) +
      ((if t = .tariffSnapshots then 1 else 0) + if t = .tariffClauses then 1 else 0))
      (seedDispute env invoiceId carrierId) := by
    unfold seedDispute
    refine Schema.adds_bind (adds_insertRow t _ _) fun _ => ?_
    refine Schema.adds_skip (hinsert _ (by decide) _) fun _ => ?_
    refine Schema.adds_skip ((writes_forEach ?_ _ _).adds hcleared) fun _ => ?_
    · exact fun i chargeDate => writes_insertRow (by decide) _
    refine Schema.adds_skip (hinsert _ (by decide) _) fun _ => ?_
    refine Schema.adds_skip ((writes_selectRows _).adds hcleared) fun runs => ?_
    refine Schema.adds_skip ((writes_orRaise _ _).adds hcleared) fun run => ?_
    refine Schema.adds_bind (adds_insertRow t _ _) fun _ => ?_
    refine Schema.adds_settled (adds_insertRow t _ _) fun _ => ?_
    refine Schema.adds_skip (hinsert _ (by decide) _) fun _ => ?_
    refine Schema.adds_skip ((writes_orRefuse _).adds hcleared) fun resolved => ?_
    refine Schema.adds_skip (hinsert _ (by decide) _) fun _ => ?_
    refine Schema.adds_skip ((writes_forEach ?_ _ _).adds hcleared) fun _ => ?_
    · exact fun i day => writes_insertRow (by decide) _
    exact (writes_seedEvents env invoiceId (env.uuid 0)).adds hcleared
  rwa [inserted_once ht] at h

/-- A restore leaves one more task, one more snapshot and one more clause. -/
theorem adds_restoreHero (ht : t ∈ accumulating) (tenantId : String) (env : TxnEnv) :
    Schema.Adds t 1 (restoreHero tenantId env) := by
  have hcleared := not_cleared ht
  unfold restoreHero
  refine Schema.adds_skip ?_ fun hero => ?_
  · refine Schema.Writes.adds ?_ hcleared
    refine writes_bind (writes_selectRows _) fun rows => ?_
    refine writes_bind (writes_orRaise _ _) fun row => ?_
    exact Txn.keeps_pure Schema.sameExcept_refl _
  refine Schema.adds_skip ((writes_clearDerived hero.1).adds hcleared) fun _ => ?_
  refine Schema.adds_settled (adds_seedDispute ht env hero.1 hero.2) fun _ => ?_
  refine Schema.adds_skip Schema.adds_update fun _ => ?_
  refine Schema.adds_skip Schema.adds_update fun _ => ?_
  refine Schema.adds_skip ((writes_selectRows _).adds hcleared) fun invoices => ?_
  refine Schema.adds_skip ((writes_orRaise _ _).adds hcleared) fun invoice => ?_
  refine Schema.adds_skip ((writes_selectRows _).adds hcleared) fun recommendations => ?_
  refine Schema.adds_skip ((writes_selectRows _).adds hcleared) fun events => ?_
  exact Schema.Writes.adds (Txn.keeps_pure Schema.sameExcept_refl _) hcleared

/-- After any number of restores, one after the other, the three tables have that many more
rows. -/
theorem adds_restores (ht : t ∈ accumulating) (tenantId : String) (envs : List TxnEnv) :
    Schema.Adds t envs.length
      (Txn.forEach (fun _ env => restoreHero tenantId env >>= fun _ => pure ()) 0 envs) := by
  have hbody : ∀ (i : Nat) (env : TxnEnv),
      Schema.Adds t 1 (restoreHero tenantId env >>= fun _ => pure ()) := fun _ env =>
    Schema.adds_settled (adds_restoreHero ht tenantId env) fun _ =>
      Schema.Writes.adds (Txn.keeps_pure Schema.sameExcept_refl _) (not_cleared ht)
  have h := Schema.adds_forEach hbody 0 envs
  rwa [Nat.one_mul] at h

end Counts

/-! ## Restoring twice -/

/-- The tables of two databases hold the same rows, in some order, up to what counts as alike. -/
def SameContents (alike : (t : DemoTable) → DemoRow t → DemoRow t → Prop) (db db' : DemoDb) :
    Prop :=
  ∀ t, ∃ rows, rows.Perm (db' t) ∧ List.Forall₂ (alike t) (db t) rows

theorem SameContents.length_eq {alike : (t : DemoTable) → DemoRow t → DemoRow t → Prop}
    {db db' : DemoDb} (h : SameContents alike db db') (t : DemoTable) :
    (db t).length = (db' t).length := by
  obtain ⟨rows, hperm, halike⟩ := h t
  calc (db t).length = rows.length := halike.length_eq
    _ = (db' t).length := hperm.length_eq

/-- Whatever was there before, a second restore leaves one more task, snapshot and clause than the
first, so whatever rows count as alike, it does not leave the tables the first one left.
SOURCE: src/platform/demo_restore.py:156-356. -/
theorem restored_again_differs [Sha256]
    (alike : (t : DemoTable) → DemoRow t → DemoRow t → Prop) (tenantId : String)
    (env env' : TxnEnv) (db db₁ db₂ : DemoDb) (first second : Restored)
    (hfirst : restoreHero tenantId env db = .ok (first, db₁))
    (hsecond : restoreHero tenantId env' db₁ = .ok (second, db₂)) :
    (∀ t ∈ accumulating, (db₁ t).length = (db t).length + 1 ∧
      (db₂ t).length = (db₁ t).length + 1) ∧
    ¬ SameContents alike db₁ db₂ := by
  have hcounts : ∀ t ∈ accumulating, (db₁ t).length = (db t).length + 1 ∧
      (db₂ t).length = (db₁ t).length + 1 := fun t ht =>
    ⟨adds_restoreHero ht tenantId env db first db₁ hfirst,
      adds_restoreHero ht tenantId env' db₁ second db₂ hsecond⟩
  refine ⟨hcounts, ?_⟩
  intro hsame
  have hlength := hsame.length_eq .workflowTasks
  have hmore := (hcounts .workflowTasks (by decide)).2
  omega

section Case

local instance caseHash : Sha256 := Sha256.standard

/-- The hero, imported and not yet reconstructed. -/
def heroRow : Invoice :=
  { id := 1, carrierId := 2, receivedAt := cutoff, sha256 := "h", displayName := "INV-1048.pdf"
    status := .received, intakeState := .readyForReconstruction, aggregateStatus := .received
    statusSequence := 0, rowVersion := 0 }

def heroDb : DemoDb := DemoDb.empty.modify .invoices fun _ => [heroRow]

/-- A restore at a time, with identifiers of its own. -/
def restoreAt (n : Nat) : TxnEnv :=
  { now := n, uuid := fun k => BitVec.ofNat 128 (100 * n + k) }

/-- Two restores of the hero, and how many rows the three tables have after each. -/
def rowsAfterEach : Except RestoreError (List Nat × List Nat) := do
  let (_, once) ← restoreHero "demo" (restoreAt 1) heroDb
  let (_, again) ← restoreHero "demo" (restoreAt 2) once
  pure (accumulating.map fun t => (once t).length, accumulating.map fun t => (again t).length)

/-- Both restores succeed, and the second adds a task, a snapshot and a clause to those of the
first. -/
theorem heroDb_restored_twice : ∃ first once second again,
    restoreHero "demo" (restoreAt 1) heroDb = .ok (first, once) ∧
    restoreHero "demo" (restoreAt 2) once = .ok (second, again) ∧
    (accumulating.map fun t => (once t).length) = [1, 1, 1] ∧
    (accumulating.map fun t => (again t).length) = [2, 2, 2] := by
  have h : rowsAfterEach = .ok ([1, 1, 1], [2, 2, 2]) := by decide +kernel
  obtain ⟨⟨first, once⟩, hfirst, h⟩ := bind_eq_ok.mp h
  obtain ⟨⟨second, again⟩, hsecond, h⟩ := bind_eq_ok.mp h
  obtain ⟨honce, hagain⟩ := Prod.mk.inj (Except.ok.inj h)
  exact ⟨first, once, second, again, hfirst, hsecond, honce, hagain⟩

/-- Two restores of a hero that had no derived rows leave two snapshots, not one. -/
theorem hero_snapshots_accumulate : ∃ first once second again,
    restoreHero "demo" (restoreAt 1) heroDb = .ok (first, once) ∧
    restoreHero "demo" (restoreAt 2) once = .ok (second, again) ∧
    (once .workflowTasks).length = 1 ∧ (again .workflowTasks).length = 2 ∧
    (once .tariffSnapshots).length = 1 ∧ (again .tariffSnapshots).length = 2 ∧
    (once .tariffClauses).length = 1 ∧ (again .tariffClauses).length = 2 := by
  obtain ⟨first, once, second, again, hfirst, hsecond, honce, hagain⟩ := heroDb_restored_twice
  simp only [accumulating, List.map_cons, List.cons.injEq] at honce hagain
  exact ⟨first, once, second, again, hfirst, hsecond, honce.1, hagain.1, honce.2.1, hagain.2.1,
    honce.2.2.1, hagain.2.2.1⟩

theorem restored_again_differs_hero : ∃ first once second again,
    restoreHero "demo" (restoreAt 1) heroDb = .ok (first, once) ∧
    restoreHero "demo" (restoreAt 2) once = .ok (second, again) ∧
    ¬ SameContents (fun _ _ _ => True) once again := by
  obtain ⟨first, once, second, again, hfirst, hsecond, -, -⟩ := heroDb_restored_twice
  exact ⟨first, once, second, again, hfirst, hsecond,
    (restored_again_differs _ _ _ _ _ _ _ _ _ hfirst hsecond).2⟩

end Case

end Tally.Analysis.Restores
