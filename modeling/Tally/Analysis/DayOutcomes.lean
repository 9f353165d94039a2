import Tally.Analysis.Transitions

/-!
# Charged days and their judgments

The reconstruction decides the state of every charged day, the judgment reads
the days back with the rate of the applicable rule and decides again. The two
agree day by day. A day outside the sourced window counts against the terminal
state of the reconstruction and not at all in the recommendation, so the
recommendation follows the terminal state of the remaining days.
-/

set_option autoImplicit false

namespace Tally.Analysis.DayOutcomes
open Library Library.Calendar Model Model.ReconstructionRepository
  Model.ApplicableRuleRepository Model.JudgmentRepository Analysis.Effects
open Library.Schema (SameExcept sameExcept_refl sameExcept_trans)

/-! ## One day -/

/-- What the judgment reads off an adjudicated day: whether it counts and whether
it is sourced. -/
structure Adjudicated (day : ChargedDayResult) : Prop where
  known : day.state = .sourceComplete ∨ day.state = .excludedNotChargeable ∨
    day.state = .insufficientEvidence
  excluded : day.chargeability = .notChargeable ↔ day.state = .excludedNotChargeable
  sourced : day.coverageState = .presentVerified ↔ day.state ≠ .insufficientEvidence

theorem adjudicated_day (invoiceRateMinor : Int) (currency : String)
    (events : List NormalizedEvent) (boundary : Option ChargeBoundary) (chargeDate : Date) :
    Adjudicated (adjudicateChargedDay invoiceRateMinor currency events boundary chargeDate) := by
  unfold adjudicateChargedDay
  dsimp only
  split
  · split
    · exact ⟨Or.inl rfl, by simp, by simp⟩
    · exact ⟨Or.inr (Or.inl rfl), by simp, by simp⟩
  · exact ⟨Or.inr (Or.inr rfl), by simp, by simp⟩

theorem adjudicated_of_mem {chargeDates : List Date} {invoiceRateMinor : Int} {currency : String}
    {events : List NormalizedEvent} {boundary : Option ChargeBoundary} {day : ChargedDayResult}
    (h : day ∈ adjudicateChargedDays chargeDates invoiceRateMinor currency events boundary) :
    Adjudicated day ∧ day.currency = currency := by
  obtain ⟨date, _, rfl⟩ := List.mem_map.mp h
  refine ⟨adjudicated_day _ _ _ _ _, ?_⟩
  unfold adjudicateChargedDay
  dsimp only
  split
  · split <;> rfl
  · rfl

/-- Excluded by the reconstruction and excluded by the judgment are the same. -/
theorem judgeDay_excluded {day : ChargedDayResult} (h : Adjudicated day) (rate : Option Int) :
    (judgeDay (day.toDayInput rate)).outcome = .excludedNotChargeable ↔
      day.state = .excludedNotChargeable := by
  unfold judgeDay ChargedDayResult.toDayInput
  by_cases hexcluded : day.chargeability = .notChargeable
  · simp only [hexcluded, ne_eq, not_true_eq_false, decide_false, Bool.not_false, ↓reduceIte,
      true_iff]
    exact h.excluded.mp hexcluded
  · have hcounts := mt h.excluded.mpr hexcluded
    simp only [hexcluded, ne_eq, not_false_eq_true, decide_true, Bool.not_true, Bool.false_eq_true,
      ↓reduceIte, hcounts, iff_false]
    split
    · split <;> simp
    · simp

/-- A day is judged insufficient when it is not sourced, or sourced and without a rate. -/
theorem judgeDay_insufficient {day : ChargedDayResult} (h : Adjudicated day) (rate : Option Int) :
    (judgeDay (day.toDayInput rate)).outcome = .insufficientEvidence ↔
      day.state = .insufficientEvidence ∨ (day.state = .sourceComplete ∧ rate = none) := by
  unfold judgeDay ChargedDayResult.toDayInput
  rcases h.known with hstate | hstate | hstate
  · have hcounts : day.chargeability ≠ .notChargeable := fun hc => by
      simpa [hstate] using h.excluded.mp hc
    have hsourced : day.coverageState = .presentVerified := h.sourced.mpr (by simp [hstate])
    cases rate with
    | none => simp [hcounts, hsourced, hstate]
    | some applicable =>
        by_cases hequal : day.invoiceRateMinor - applicable = 0
        · simp [hcounts, hsourced, hstate, hequal]
        · simp [hcounts, hsourced, hstate, hequal]
  · have hexcluded : day.chargeability = .notChargeable := h.excluded.mpr hstate
    simp [hexcluded, hstate]
  · have hcounts : day.chargeability ≠ .notChargeable := fun hc => by
      simpa [hstate] using h.excluded.mp hc
    have hmissing : day.coverageState ≠ .presentVerified := fun hc => h.sourced.mp hc hstate
    cases hcoverage : day.coverageState with
    | presentVerified => exact absurd hcoverage hmissing
    | missing | unavailable | conflicted | notApplicable => simp [hcounts, hstate]

/-! ## The recommendation -/

section Recommending

variable [Sha256]

/-- A recommendation asks for evidence when some day that counts has none, or no
day counts. -/
theorem requestEvidence_iff {days : List DayInput} {r : Recommendation}
    (h : resolveRecommendation days = .ok r) :
    r.judgments = days.map judgeDay ∧
      (r.recommendationType = .requestEvidence ↔
        (∃ d ∈ days, (judgeDay d).outcome = .insufficientEvidence) ∨
          ∀ d ∈ days, (judgeDay d).outcome = .excludedNotChargeable) := by
  unfold resolveRecommendation at h
  cases days with
  | nil => exact absurd h (by simp)
  | cons first rest =>
      dsimp only at h
      split at h
      · exact absurd h (by simp)
      · have hr := Except.ok.inj h
        subst hr
        refine ⟨rfl, ?_⟩
        have hwithheld : ((((first :: rest).map judgeDay).filter fun j =>
              j.outcome ≠ .excludedNotChargeable).any fun j => j.outcome = .insufficientEvidence) ∨
              (((first :: rest).map judgeDay).filter fun j =>
                j.outcome ≠ .excludedNotChargeable).length = 0 ↔
            (∃ d ∈ first :: rest, (judgeDay d).outcome = .insufficientEvidence) ∨
              ∀ d ∈ first :: rest, (judgeDay d).outcome = .excludedNotChargeable := by
          refine or_congr ?_ ?_
          · simp only [List.any_eq_true, List.mem_filter, List.mem_map, decide_eq_true_eq]
            constructor
            · rintro ⟨_, ⟨⟨d, hd, rfl⟩, _⟩, hout⟩
              exact ⟨d, hd, hout⟩
            · rintro ⟨d, hd, hout⟩
              exact ⟨_, ⟨⟨d, hd, rfl⟩, by simp [hout]⟩, hout⟩
          · simp only [List.length_eq_zero_iff, List.filter_eq_nil_iff, List.forall_mem_map,
              decide_eq_true_eq, not_not]
        rw [← hwithheld]
        dsimp only
        split
        case isTrue h => exact iff_of_true rfl h
        case isFalse h =>
          refine iff_of_false ?_ h
          split
          · simp
          · simp

/-- A recommendation is made from any days but none, all of one currency. -/
theorem resolveRecommendation_made {days : List DayInput} {currency : String}
    (hnonempty : days ≠ []) (hcurrency : ∀ d ∈ days, d.currency = currency) :
    ∃ r, resolveRecommendation days = .ok r := by
  cases days with
  | nil => exact absurd rfl hnonempty
  | cons first rest =>
      have hsame : ((first :: rest).any fun d => d.currency ≠ first.currency) = false := by
        rw [List.any_eq_false]
        intro d hd
        rw [hcurrency d hd, hcurrency first (List.mem_cons_self ..)]
        simp
      unfold resolveRecommendation
      dsimp only
      rw [if_neg (by simpa using hsame)]
      exact ⟨_, rfl⟩

end Recommending

/-! ## The reconstruction's days -/

theorem mem_dayInputsOf {days : List ChargedDayResult} {rate : Option Int} {d : DayInput} :
    d ∈ dayInputsOf days rate ↔ ∃ day ∈ days, day.toDayInput rate = d := by
  unfold dayInputsOf
  rw [List.mem_insertionSort, List.mem_map]

/-- A reconstruction is complete when it has days and all are sourced. -/
theorem resolveTerminalState_complete {days : List ChargedDayResult} :
    resolveTerminalState days = .complete ↔
      days ≠ [] ∧ ∀ day ∈ days, day.state = .sourceComplete := by
  unfold resolveTerminalState
  cases days with
  | nil => simp
  | cons day days =>
      simp only [List.isEmpty_cons, Bool.false_eq_true, ↓reduceIte, List.all_eq_true,
        decide_eq_true_eq]
      split
      · simp_all
      · simp_all

/-- The days that are not outside the sourced window. -/
def countedDays (days : List ChargedDayResult) : List ChargedDayResult :=
  days.filter fun day => day.state ≠ .excludedNotChargeable

/-! ## The persisted days -/

section Persisting

variable {env : TxnEnv} {db db' : Db}

/-- The days of a reconstruction read back, as the judgment loads them. -/
def loadedInputs (db : Db) (reconstructionId : Uuid) : List DayInput :=
  (chargedDaysOf db reconstructionId).map ReconstructionChargedDay.toDayInput

theorem loadedInputs_eq (db : Db) (reconstructionId : Uuid) :
    loadedInputs db reconstructionId =
      (((db .chargedDays).filter fun d => d.reconstructionId = reconstructionId).map
        ReconstructionChargedDay.toDayInput).insertionSort
          fun a b => a.chargeDate ≤ b.chargeDate := by
  unfold loadedInputs chargedDaysOf
  exact List.map_insertionSort _ _ _ _ fun _ _ _ _ => Iff.rfl

/-- The rows of inserted days are read back as the days without a rate. -/
theorem insertChargedDays_rows {reconstructionId invoiceId : Uuid} {k i : Nat}
    {rowIds : List (String × Uuid)} {roles : List (Date × List (EventRole × List String))}
    {days : List ChargedDayResult} {u : Unit}
    (h : Txn.forEach (insertChargedDay env k reconstructionId invoiceId rowIds roles) i days db =
      .ok (u, db')) :
    ∃ rows, db' .chargedDays = db .chargedDays ++ rows ∧
      (∀ row ∈ rows, row.reconstructionId = reconstructionId) ∧
      rows.map ReconstructionChargedDay.toDayInput =
        days.map (ChargedDayResult.toDayInput none) := by
  induction days generalizing i db with
  | nil =>
      obtain ⟨_, rfl⟩ := Txn.pure_ok.mp h
      exact ⟨[], (List.append_nil _).symm, by simp, rfl⟩
  | cons day days ih =>
      rw [Txn.forEach, Txn.bind_ok] at h
      obtain ⟨_, db₁, hday, h⟩ := h
      obtain ⟨rows, hrows, hmine, hinputs⟩ := ih h
      unfold insertChargedDay at hday
      rw [Txn.bind_ok] at hday
      obtain ⟨_, db₂, hinsert, hbindings⟩ := hday
      obtain ⟨_, _, rfl⟩ := insertRow_ok.mp hinsert
      have hsame : SameExcept [.dayEventBindings] _ db₁ :=
        Txn.keeps_forEach sameExcept_refl sameExcept_trans _ _
          (fun _ _ _ => Schema.writes_insertOrIgnore (by simp)) _ _ _ hbindings
      rw [hsame .chargedDays (by decide), Store.modify_same] at hrows
      refine ⟨_ :: rows, by rw [hrows, List.append_assoc]; rfl, ?_, ?_⟩
      · intro row hrow
        rcases List.mem_cons.mp hrow with rfl | hrow
        · rfl
        · exact hmine row hrow
      · rw [List.map_cons, List.map_cons, hinputs]
        rfl

/-- A version that is persisted is loaded as its days without a rate. -/
theorem loadedInputs_persisted {lease : ReconstructionTaskLease} {work : ReconstructionWork}
    {reconstructionId : Uuid} {u : Unit}
    (hnew : ∀ d ∈ db .chargedDays, d.reconstructionId ≠ reconstructionId)
    (h : insertReconstructionDetail env lease work reconstructionId db = .ok (u, db')) :
    loadedInputs db' reconstructionId = dayInputsOf work.days none := by
  unfold insertReconstructionDetail at h
  rw [Txn.bind_ok] at h
  obtain ⟨_, db₁, hevents, h⟩ := h
  rw [Txn.bind_ok] at h
  obtain ⟨_, db₂, hdays, hcoverage⟩ := h
  have hsame₁ : SameExcept [.reconstructionEvents] db db₁ :=
    Txn.keeps_forEach sameExcept_refl sameExcept_trans _ _
      (fun i e _ => insertReconstructionEvent_writes _ _ _ i e) _ _ _ hevents
  have hsame₂ : SameExcept [.reconstructionCoverage] db₂ db' :=
    Txn.keeps_forEach sameExcept_refl sameExcept_trans _ _
      (fun _ _ _ => Schema.writes_insert (by simp)) _ _ _ hcoverage
  obtain ⟨rows, hrows, hmine, hinputs⟩ := insertChargedDays_rows hdays
  have hbefore : ((db .chargedDays).filter fun d => d.reconstructionId = reconstructionId) = [] :=
    List.filter_eq_nil_iff.mpr fun d hd => by simpa using hnew d hd
  have hafter : (rows.filter fun d => d.reconstructionId = reconstructionId) = rows :=
    List.filter_eq_self.mpr fun d hd => by simpa using hmine d hd
  rw [loadedInputs_eq, hsame₂ .chargedDays (by decide), hrows, hsame₁ .chargedDays (by decide),
    List.filter_append, hbefore, hafter, List.nil_append, hinputs]
  rfl

/-- The order of the days does not look at their rates. -/
theorem insertionSort_rated (days : List DayInput) (rate : Option Int) :
    (days.map fun d => { d with applicableRateMinor := rate }).insertionSort
        (fun a b => a.chargeDate ≤ b.chargeDate) =
      (days.insertionSort fun a b => a.chargeDate ≤ b.chargeDate).map
        fun d => { d with applicableRateMinor := rate } := by
  symm
  apply List.map_insertionSort
  intro a _ b _
  rfl

/-- A verified rule puts its rate on every day of its reconstruction. -/
theorem loadedInputs_stamped {k : Nat} {lease : RuleTaskLease} {runId : Uuid}
    {accepted : CandidateValidation} {r : Uuid × Int} {days : List ChargedDayResult}
    {rate : Option Int}
    (hloaded : loadedInputs db lease.reconstructionId = dayInputsOf days rate)
    (h : insertApplicableRule env k lease runId accepted db = .ok (r, db')) :
    loadedInputs db' lease.reconstructionId = dayInputsOf days (some r.2) := by
  unfold insertApplicableRule at h
  rw [Txn.bind_ok] at h
  obtain ⟨rateMinor, db₁, hrate, h⟩ := h
  obtain ⟨_, rfl⟩ := Txn.orRaise_ok.mp hrate
  rw [Txn.bind_ok] at h
  obtain ⟨effectiveFrom, db₁, hfrom, h⟩ := h
  obtain ⟨_, rfl⟩ := Txn.orRaise_ok.mp hfrom
  rw [Txn.bind_ok] at h
  obtain ⟨_, db₁, hinsert, h⟩ := h
  rw [Txn.bind_ok] at h
  obtain ⟨_, db₂, hupdate, h⟩ := h
  rw [Txn.bind_ok] at h
  obtain ⟨bound, db₃, hbound, h⟩ := h
  obtain ⟨_, rfl⟩ := selectRows_ok.mp hbound
  rw [Txn.bind_ok] at h
  obtain ⟨_, db₃, hbindings, h⟩ := h
  obtain ⟨rfl, rfl⟩ := Txn.pure_ok.mp h
  have hsame₁ : SameExcept [.applicableRules] db db₁ :=
    Schema.writes_insertOrIgnore (by simp) _ _ _ hinsert
  have hsame₃ : SameExcept [.chargedDayRuleBindings] db₂ db₃ :=
    Txn.keeps_forEach sameExcept_refl sameExcept_trans _ _
      (fun _ _ _ => Schema.writes_insertOrIgnore (by simp)) _ _ _ hbindings
  have hdays : db₃ .chargedDays = (db .chargedDays).map fun d =>
      if decide (d.reconstructionId = lease.reconstructionId) = true then
        { d with applicableRateMinor := some rateMinor } else d := by
    rw [hsame₃ .chargedDays (by decide), ← updateRows_ok.mp hupdate, Store.modify_same,
      hsame₁ .chargedDays (by decide)]
  have hrows : ((db₃ .chargedDays).filter fun d =>
        d.reconstructionId = lease.reconstructionId).map ReconstructionChargedDay.toDayInput =
      (((db .chargedDays).filter fun d => d.reconstructionId = lease.reconstructionId).map
        ReconstructionChargedDay.toDayInput).map fun d =>
          { d with applicableRateMinor := some rateMinor } := by
    rw [hdays, List.filter_map, List.map_map, List.map_map]
    have hkept : ((fun d : ReconstructionChargedDay =>
          decide (d.reconstructionId = lease.reconstructionId)) ∘ fun d =>
            if decide (d.reconstructionId = lease.reconstructionId) = true then
              { d with applicableRateMinor := some rateMinor } else d) =
        fun d => decide (d.reconstructionId = lease.reconstructionId) := by
      funext d
      dsimp only [Function.comp_apply]
      split <;> rfl
    rw [hkept]
    refine List.map_congr_left fun d hd => ?_
    dsimp only [Function.comp_apply]
    rw [if_pos (List.mem_filter.mp hd).2]
    rfl
  show loadedInputs db₃ lease.reconstructionId = dayInputsOf days (some rateMinor)
  rw [loadedInputs_eq, hrows, insertionSort_rated, ← loadedInputs_eq, hloaded]
  unfold dayInputsOf
  rw [← insertionSort_rated, List.map_map]
  rfl

end Persisting

/-- The recommendation from the adjudicated days asks for evidence exactly when the days that
are not excluded do not make a complete reconstruction or there is no rate, and a day is judged
insufficient exactly when it is not sourced or lacks a rate. Without days there is none. -/
theorem recommendation_follows_days [Sha256] (chargeDates : List Date) (invoiceRateMinor : Int)
    (currency : String) (events : List NormalizedEvent) (boundary : Option ChargeBoundary)
    (rate : Option Int) :
    let days := adjudicateChargedDays chargeDates invoiceRateMinor currency events boundary
    ((∃ r, resolveRecommendation (dayInputsOf days rate) = .ok r) ↔ chargeDates ≠ []) ∧
      (∀ r, resolveRecommendation (dayInputsOf days rate) = .ok r →
        r.judgments = (dayInputsOf days rate).map judgeDay ∧
        (r.recommendationType = .requestEvidence ↔
          resolveTerminalState (countedDays days) ≠ .complete ∨ rate = none)) ∧
      ∀ day ∈ days, ((judgeDay (day.toDayInput rate)).outcome = .insufficientEvidence ↔
        day.state = .insufficientEvidence ∨ (day.state = .sourceComplete ∧ rate = none)) := by
  intro days
  have hdays : ∀ day ∈ days, Adjudicated day ∧ day.currency = currency :=
    fun day hday => adjudicated_of_mem hday
  refine ⟨⟨?_, fun hdates => ?_⟩, fun r hr => ?_,
    fun day hday => judgeDay_insufficient (hdays day hday).1 rate⟩
  · rintro ⟨r, hr⟩ rfl
    exact absurd hr (by simp [days, adjudicateChargedDays, dayInputsOf, resolveRecommendation])
  · have hnonempty : dayInputsOf days rate ≠ [] := by
      obtain ⟨date, hdate⟩ := List.exists_mem_of_ne_nil chargeDates hdates
      exact List.ne_nil_of_mem (mem_dayInputsOf.mpr ⟨_, List.mem_map_of_mem hdate, rfl⟩)
    have hcurrency : ∀ d ∈ dayInputsOf days rate, d.currency = currency := by
      intro d hd
      obtain ⟨day, hday, rfl⟩ := mem_dayInputsOf.mp hd
      exact (hdays day hday).2
    exact resolveRecommendation_made hnonempty hcurrency
  obtain ⟨hjudgments, htype⟩ := requestEvidence_iff hr
  refine ⟨hjudgments, ?_⟩
  rw [htype, Ne, resolveTerminalState_complete]
  constructor
  · rintro (⟨d, hd, hout⟩ | hall)
    · obtain ⟨day, hday, rfl⟩ := mem_dayInputsOf.mp hd
      rcases (judgeDay_insufficient (hdays day hday).1 rate).mp hout with hstate | ⟨_, hrate⟩
      · refine Or.inl fun hcomplete => ?_
        have hcounted : day ∈ countedDays days := List.mem_filter.mpr ⟨hday, by simp [hstate]⟩
        simpa [hstate] using hcomplete.2 day hcounted
      · exact Or.inr hrate
    · refine Or.inl fun hcomplete => ?_
      obtain ⟨day, hday⟩ := List.exists_mem_of_ne_nil _ hcomplete.1
      obtain ⟨hmem, hcounts⟩ := List.mem_filter.mp hday
      have hexcluded := (judgeDay_excluded (hdays day hmem).1 rate).mp
        (hall _ (mem_dayInputsOf.mpr ⟨day, hmem, rfl⟩))
      simp [hexcluded] at hcounts
  · intro h
    by_cases hall : ∀ d ∈ dayInputsOf days rate, (judgeDay d).outcome = .excludedNotChargeable
    · exact Or.inr hall
    · left
      -- some day counts; without an insufficient one every counted day is sourced and rated
      by_contra hnone
      have hcounted : ∀ day ∈ countedDays days, day.state = .sourceComplete ∧ rate ≠ none := by
        intro day hday
        obtain ⟨hmem, hcounts⟩ := List.mem_filter.mp hday
        have hsufficient : (judgeDay (day.toDayInput rate)).outcome ≠ .insufficientEvidence :=
          fun hout => hnone ⟨_, mem_dayInputsOf.mpr ⟨day, hmem, rfl⟩, hout⟩
        rw [Ne, judgeDay_insufficient (hdays day hmem).1 rate, not_or] at hsufficient
        have hstate : day.state = .sourceComplete := by
          rcases (hdays day hmem).1.known with hs | hs | hs
          · exact hs
          · simp [hs] at hcounts
          · exact absurd hs hsufficient.1
        exact ⟨hstate, fun hrate => hsufficient.2 ⟨hstate, hrate⟩⟩
      push Not at hall
      obtain ⟨d, hd, hout⟩ := hall
      obtain ⟨day, hday, rfl⟩ := mem_dayInputsOf.mp hd
      have hmem : day ∈ countedDays days := List.mem_filter.mpr
        ⟨hday, by simpa using mt (judgeDay_excluded (hdays day hday).1 rate).mpr hout⟩
      rcases h with hincomplete | hrate
      · exact hincomplete ⟨List.ne_nil_of_mem hmem, fun day hday => (hcounted day hday).1⟩
      · exact (hcounted day hmem).2 hrate

section Case
open Sample

local instance : Sha256 := Sha256.standard
local instance : TzDatabase := zone

/-- The gate-out day of the sample container and the day after it, as they are adjudicated. -/
def mixedDays : List ChargedDayResult :=
  let events := (validateEvents eventRows (env 0).now "TLLU4829317" "TLLU4829317").accepted
  let boundary := (resolveChargeBoundary events effectiveTimezone).toOption.join
  adjudicateChargedDays ((Date.ofYmd 2026 6 12).toList ++ (Date.ofYmd 2026 6 13).toList) 30000
    "USD" events boundary

/-- With a sourced and an excluded day the reconstruction is not complete, and the
recommendation is made all the same. -/
theorem mixed_days_disagree :
    ∃ r, resolveRecommendation (dayInputsOf mixedDays (some 25000)) = .ok r ∧
      ¬(r.recommendationType = .requestEvidence ↔
        resolveTerminalState mixedDays ≠ .complete ∨ some (25000 : Int) = none) := by
  have hterminal : resolveTerminalState mixedDays ≠ .complete := by decide +kernel
  have htype : (resolveRecommendation (dayInputsOf mixedDays (some 25000))).toOption.map
      Recommendation.recommendationType = some .dispute := by decide +kernel
  cases hr : resolveRecommendation (dayInputsOf mixedDays (some 25000)) with
  | error e => simp [hr, Except.toOption] at htype
  | ok r =>
      refine ⟨r, rfl, ?_⟩
      have hdispute : r.recommendationType = .dispute := by
        simpa [hr, Except.toOption] using htype
      simp [hdispute, hterminal]

end Case

end Tally.Analysis.DayOutcomes
