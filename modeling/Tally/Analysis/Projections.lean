import Tally.Analysis.PipelineRefinement
import Tally.Library.Selection
import Tally.Model.Projections

/-!
# The two projections of an invoice

Versions number the recommendations of one reconstruction. The invoice's projection
compares them across reconstructions, so it shows the recommendation committed last
exactly when that one is of the latest reconstruction and has a version of its own.
-/

set_option autoImplicit false

namespace Tally.Analysis.Projections
open Library Tally.Model Tally.Model.Projections Pipeline

/-! ## Agreement -/

/-- Both projections show the recommendation committed last, whatever the database returns
first. -/
def Agree (db : Db) (invoiceId : Uuid) : Prop :=
  ∀ env env', invoiceRecommendation env db invoiceId =
      (recommendationsOf db invoiceId).getLast? ∧
    reconstructionRecommendation env' db invoiceId = (recommendationsOf db invoiceId).getLast?

/-- The recommendation committed last is of the latest reconstruction, and its version is
above those of the recommendations of the others. -/
def NewestLeads (db : Db) (invoiceId : Uuid) : Prop :=
  ∀ newest, (recommendationsOf db invoiceId).getLast? = some newest →
    (latestReconstruction db invoiceId).map ReconstructionRow.id =
      some newest.reconstructionId ∧
    ∀ r ∈ recommendationsOf db invoiceId, r.reconstructionId ≠ newest.reconstructionId →
      r.version < newest.version

/-! ## The row of a query -/

theorem mem_topVersions {rows : List RecommendationRow} {r : RecommendationRow} :
    r ∈ topVersions rows ↔ r ∈ rows ∧ ∀ other ∈ rows, other.version ≤ r.version := by
  unfold topVersions
  rw [List.mem_filter, List.all_eq_true]
  simp

theorem fetchOne_mem {α : Type} {env : TxnEnv} {rows : List α} {a : α}
    (h : fetchOne env rows = some a) : a ∈ rows := List.mem_of_getElem? h

/-- The database may return any of the rows. -/
theorem fetchOne_of_mem {α : Type} {rows : List α} {a : α} (h : a ∈ rows) (env : TxnEnv) :
    ∃ choice, fetchOne { env with choice } rows = some a := by
  obtain ⟨i, hi, ha⟩ := List.mem_iff_getElem.mp h
  refine ⟨i, ?_⟩
  unfold fetchOne
  dsimp only
  rw [Nat.mod_eq_of_lt hi, List.getElem?_eq_getElem hi, ha]

theorem fetchOne_singleton {α : Type} (env : TxnEnv) (a : α) : fetchOne env [a] = some a := by
  unfold fetchOne
  rw [List.length_singleton, Nat.mod_one]
  rfl

/-- A row above all others is what the query returns. -/
theorem topVersions_eq {rows : List RecommendationRow} {newest : RecommendationRow}
    (hdistinct : rows.Pairwise fun a b => a.id ≠ b.id) (hmem : newest ∈ rows)
    (habove : ∀ r ∈ rows, r ≠ newest → r.version < newest.version) :
    topVersions rows = [newest] := by
  have hnodup : (topVersions rows).Nodup := by
    have hrows : rows.Nodup := hdistinct.imp fun hne heq => hne (congrArg _ heq)
    exact hrows.filter _
  refine List.perm_singleton.mp ((List.perm_ext_iff_of_nodup hnodup (by simp)).mpr ?_)
  intro r
  rw [mem_topVersions, List.mem_singleton]
  constructor
  · rintro ⟨hr, htop⟩
    by_contra hne
    have hlt := habove r hr hne
    have hle := htop newest hmem
    omega
  · rintro rfl
    refine ⟨hmem, fun other hother => ?_⟩
    by_cases heq : other = r
    · rw [heq]
    · exact le_of_lt (habove other hother heq)

/-- If the query returns one row for every choice, the row is above all others. -/
theorem above_of_fetchOne (rows : List RecommendationRow) (newest : RecommendationRow)
    (h : ∀ env, fetchOne env (topVersions rows) = some newest) :
    newest ∈ rows ∧ ∀ r ∈ rows, r ≠ newest → r.version < newest.version := by
  obtain ⟨hmem, htop⟩ := mem_topVersions.mp (fetchOne_mem (h ⟨0, fun _ => 0, [], 0⟩))
  refine ⟨hmem, fun r hr hne => ?_⟩
  by_contra hnot
  have hle := htop r hr
  have hrtop : r ∈ topVersions rows := by
    refine mem_topVersions.mpr ⟨hr, fun other hother => ?_⟩
    have := htop other hother
    omega
  obtain ⟨choice, hchoice⟩ := fetchOne_of_mem hrtop ⟨0, fun _ => 0, [], 0⟩
  rw [h] at hchoice
  exact hne (Option.some.inj hchoice).symm

/-! ## Reachable states -/

section Runs

variable {w : World}

/-- The recommendations of a reconstruction are of its invoice. -/
theorem invoice_of_reconstruction (hhealthy : Healthy (pipelineOf w)) {r : RecommendationRow}
    {row : ReconstructionRow} (hr : r ∈ w.db .recommendations) (hrow : row ∈ w.db .reconstructions)
    (hid : r.reconstructionId = row.id) : r.invoiceId = row.invoiceId := by
  obtain ⟨row', hrow', hid', hinvoice⟩ := hhealthy.recommendations.reconstructed r hr
  obtain rfl := eq_of_key hhealthy.versions.ids hrow' hrow (hid'.trans hid)
  exact hinvoice.symm

/-- Within its reconstruction the recommendation committed last has the highest version. -/
theorem version_lt_newest (hhealthy : Healthy (pipelineOf w)) {invoiceId : Uuid}
    {r newest : RecommendationRow}
    (hnewest : (recommendationsOf w.db invoiceId).getLast? = some newest)
    (hr : r ∈ recommendationsOf w.db invoiceId) (hne : r ≠ newest)
    (hid : r.reconstructionId = newest.reconstructionId) : r.version < newest.version := by
  obtain ⟨before, hrows⟩ := List.getLast?_eq_some_iff.mp hnewest
  rw [hrows] at hr
  have hbefore : r ∈ before := by
    rcases List.mem_append.mp hr with hold | hlast
    · exact hold
    · exact absurd (List.mem_singleton.mp hlast) hne
  have hversions : (recommendationsOf w.db invoiceId).Pairwise fun a b =>
      a.reconstructionId = b.reconstructionId → a.version < b.version :=
    hhealthy.recommendations.versions.filter _
  rw [hrows, List.pairwise_append] at hversions
  exact hversions.2.2 r hbefore newest (List.mem_singleton_self _) hid

theorem newest_mem {db : Db} {invoiceId : Uuid} {newest : RecommendationRow}
    (h : (recommendationsOf db invoiceId).getLast? = some newest) :
    newest ∈ db .recommendations ∧ newest.invoiceId = invoiceId := by
  obtain ⟨hmem, hinvoice⟩ := List.mem_filter.mp (List.mem_of_getLast? h)
  exact ⟨hmem, of_decide_eq_true hinvoice⟩

theorem latestReconstruction_mem {db : Db} {invoiceId : Uuid} {head : ReconstructionRow}
    (h : latestReconstruction db invoiceId = some head) :
    head ∈ db .reconstructions ∧ head.invoiceId = invoiceId := by
  obtain ⟨hmem, hinvoice, _⟩ := latest_max ReconstructionRow.version h
  exact ⟨hmem, of_decide_eq_true hinvoice⟩

theorem agree_of_newestLeads (hhealthy : Healthy (pipelineOf w)) {invoiceId : Uuid}
    (h : NewestLeads w.db invoiceId) : Agree w.db invoiceId := by
  intro env env'
  cases hlast : (recommendationsOf w.db invoiceId).getLast? with
  | none =>
      have hnone : recommendationsOf w.db invoiceId = [] := List.getLast?_eq_none_iff.mp hlast
      constructor
      · unfold invoiceRecommendation
        rw [hnone]
        rfl
      · unfold reconstructionRecommendation
        split
        · rfl
        · rename_i head hhead
          obtain ⟨hrow, hinvoice⟩ := latestReconstruction_mem hhead
          have hempty : ((w.db .recommendations).filter fun r =>
              r.reconstructionId = head.id) = [] := by
            refine List.filter_eq_nil_iff.mpr fun r hr hid => ?_
            have hof := invoice_of_reconstruction hhealthy hr hrow (of_decide_eq_true hid)
            have hmem : r ∈ recommendationsOf w.db invoiceId :=
              List.mem_filter.mpr ⟨hr, decide_eq_true (hof.trans hinvoice)⟩
            rw [hnone] at hmem
            exact absurd hmem List.not_mem_nil
          rw [hempty]
          rfl
  | some newest =>
      obtain ⟨hreconstruction, hothers⟩ := h newest hlast
      have habove : ∀ r ∈ recommendationsOf w.db invoiceId, r ≠ newest →
          r.version < newest.version := by
        intro r hr hne
        by_cases hid : r.reconstructionId = newest.reconstructionId
        · exact version_lt_newest hhealthy hlast hr hne hid
        · exact hothers r hr hid
      have hids : (w.db .recommendations).Pairwise fun a b => a.id ≠ b.id :=
        hhealthy.recommendations.ids
      constructor
      · unfold invoiceRecommendation
        have hrows : topVersions (recommendationsOf w.db invoiceId) = [newest] :=
          topVersions_eq (hids.filter _) (List.mem_of_getLast? hlast) habove
        rw [hrows, fetchOne_singleton]
      · obtain ⟨head, hhead, hheadId⟩ := Option.map_eq_some_iff.mp hreconstruction
        obtain ⟨hrow, hinvoice⟩ := latestReconstruction_mem hhead
        have hmem : newest ∈ (w.db .recommendations).filter fun r =>
            r.reconstructionId = head.id :=
          List.mem_filter.mpr ⟨(newest_mem hlast).1, decide_eq_true hheadId.symm⟩
        have habove' : ∀ r ∈ (w.db .recommendations).filter (fun r =>
            r.reconstructionId = head.id), r ≠ newest → r.version < newest.version := by
          intro r hr hne
          obtain ⟨hr, hid⟩ := List.mem_filter.mp hr
          have hof := invoice_of_reconstruction hhealthy hr hrow (of_decide_eq_true hid)
          exact habove r (List.mem_filter.mpr ⟨hr, decide_eq_true (hof.trans hinvoice)⟩) hne
        unfold reconstructionRecommendation
        rw [hhead]
        dsimp only
        rw [topVersions_eq (hids.filter _) hmem habove', fetchOne_singleton]

theorem newestLeads_of_agree {db : Db} {invoiceId : Uuid} (h : Agree db invoiceId) :
    NewestLeads db invoiceId := by
  intro newest hlast
  constructor
  · have hshown := (h ⟨0, fun _ => 0, [], 0⟩ ⟨0, fun _ => 0, [], 0⟩).2
    rw [hlast] at hshown
    unfold reconstructionRecommendation at hshown
    split at hshown
    · exact absurd hshown (by simp)
    · rename_i head hhead
      obtain ⟨hmem, _⟩ := mem_topVersions.mp (fetchOne_mem hshown)
      rw [hhead]
      exact congrArg some (of_decide_eq_true (List.mem_filter.mp hmem).2).symm
  · intro r hr hid
    have habove := above_of_fetchOne (recommendationsOf db invoiceId) newest
      fun env => (h env env).1.trans hlast
    exact habove.2 r hr fun heq => hid (congrArg _ heq)

/-- In every reachable state the two projections of an invoice show the recommendation
committed last exactly when it is of the latest reconstruction and its version is above
those of the earlier reconstructions. -/
theorem projections_agree_iff [Sha256] [TzDatabase] [CharacterTables] (w : World) (h : Run (fun _ _ _ => True) w) (invoiceId : Uuid) :
    Agree w.db invoiceId ↔ NewestLeads w.db invoiceId :=
  ⟨newestLeads_of_agree, agree_of_newestLeads (healthy_of_run h).1⟩

end Runs

/-! ## A case resumed by new evidence -/

section Case
open Sample

local instance caseSha : Sha256 := Sha256.standard
local instance caseZone : TzDatabase := zone
local instance caseTables : CharacterTables := ascii

/-- A withheld decision, and the one its access binding resumed the case for. -/
def resumed : World :=
  play World.initial 1 (withheld ++ bound "w5" ++ reconstructed "w6" sourcedRows ++ ruled "w7" ++
    judged "w8")

/-- Whether the two projections of some invoice show different recommendations. -/
def showsDifferent (db : Db) (env : TxnEnv) : Bool :=
  (db .invoices).any fun i =>
    decide ((invoiceRecommendation env db i.id).map RecommendationRow.id ≠
      (reconstructionRecommendation env db i.id).map RecommendationRow.id)

-- one block, so that the evaluations are made one after the other
mutual

theorem not_agree_of_different {db : Db} (env : TxnEnv) (h : showsDifferent db env = true) :
    ∃ i ∈ db .invoices, ¬ Agree db i.id := by
  obtain ⟨i, hi, hdifferent⟩ := List.any_eq_true.mp h
  refine ⟨i, hi, fun hagree => ?_⟩
  obtain ⟨hfirst, hsecond⟩ := hagree env env
  refine of_decide_eq_true hdifferent ?_
  rw [hfirst, hsecond]

theorem resumed_different : showsDifferent resumed.db (env 0) = true := by decide +kernel

end

/-- After the resumed judgment the invoice's projection may still show the withheld
decision. -/
theorem resumed_disagrees : Run (fun _ _ _ => True) resumed ∧
    ∃ i ∈ resumed.db .invoices, ¬ Agree resumed.db i.id :=
  ⟨run_play _ _ _, not_agree_of_different (env 0) resumed_different⟩

theorem projections_agree_iff_resumed : ∃ i ∈ resumed.db .invoices,
    Agree resumed.db i.id ↔ NewestLeads resumed.db i.id := by
  obtain ⟨i, hi, _⟩ := not_agree_of_different (env 0) resumed_different
  exact ⟨i, hi, projections_agree_iff resumed (run_play _ _ _) i.id⟩

end Case

end Tally.Analysis.Projections
