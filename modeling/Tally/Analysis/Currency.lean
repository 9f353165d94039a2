import Tally.Analysis.Frames

/-!
# One currency

The validation of an extraction accepts amounts in US dollars only. The currency
travels from the claims to the leases of a reconstruction, to its charged days and
to the inputs of a judgment, so every day a judgment reads is in dollars and its
arithmetic never meets two currencies.
-/

set_option autoImplicit false

namespace Tally.Analysis
open Library Library.Calendar Tally.Model IntakeTasks ReconstructionRepository
  ApplicableRuleRepository JudgmentRepository Effects

/-- Every amount of the platform is in US dollars. -/
structure InUsd (w : World) : Prop where
  claims : ∀ c ∈ w.db .extractedClaims, c.currency.getD "USD" = "USD"
  leases : ∀ l, .reconstruction l ∈ w.leases → l.currency = "USD"
  days : ∀ d ∈ w.db .chargedDays, d.currency = "USD"
  inputs : ∀ p ∈ w.dayInputs, ∀ d ∈ p.2, d.currency = "USD"

theorem inUsd_initial : InUsd World.initial := by
  refine ⟨?_, ?_, ?_, ?_⟩
  all_goals intro x hx
  all_goals exact absurd hx List.not_mem_nil

section Steps

variable [Sha256] [TzDatabase] [CharacterTables] {w w' : World} {env : TxnEnv} {c : Call}

theorem claims_inUsd (h : InUsd w) (hstep : Transition w env c w') :
    ∀ c ∈ w'.db .extractedClaims, c.currency.getD "USD" = "USD" := by
  cases c with
  | completeExtraction lease validation =>
      cases hstep with
      | refused => exact h.claims
      | peripheral _ db hsame =>
          show ∀ c ∈ db .extractedClaims, _
          rw [hsame .extractedClaims (by decide)]
          exact h.claims
      | completedExtraction _ _ r db hlease hok =>
          obtain ⟨_, t, new, s, rows, sequence, _, _, _, _, _, _, _, hrows, hcurrency, _⟩ :=
            completeExtraction_ok hok
          intro x hx
          have hx' : x ∈ db .extractedClaims := hx
          rw [hrows] at hx'
          rcases List.mem_append.mp hx' with hold | hnew
          · exact h.claims x hold
          · exact (hcurrency.1 x hnew).2
  | _ =>
      rw [table_frame hstep rfl]
      exact h.claims

theorem leases_inUsd (h : InUsd w) (hstep : Transition w env c w') :
    ∀ l, .reconstruction l ∈ w'.leases → l.currency = "USD" := by
  intro l hl
  cases hstep with
  | claimedReconstruction workerId leaseSeconds r db hok =>
      obtain ⟨_, ⟨rfl, _⟩ | ⟨lease, t, _, rfl, _, _, _, hcurrency, _⟩⟩ :=
        claimNextReconstructionTask_ok hok
      · exact h.leases l (by simpa [World.addLease] using hl)
      · rcases List.mem_append.mp hl with hold | hnew
        · exact h.leases l hold
        · obtain rfl : l = lease := by simpa using hnew
          exact hcurrency h.claims
  | claimedExtraction _ _ r => exact h.leases l (by simpa [World.addLease] using hl)
  | claimedRule _ _ r => exact h.leases l (by simpa [World.addLease] using hl)
  | claimedJudgment _ _ r => exact h.leases l (by simpa [World.addLease] using hl)
  | claimedAccessEvidence _ _ r => exact h.leases l (by simpa [World.addLease] using hl)
  | sentSelected =>
      rw [(send_inFlight _ _ _ _ _ _).1] at hl
      exact h.leases l hl
  | approvedAndSent =>
      rw [(send_inFlight _ _ _ _ _ _).1] at hl
      exact h.leases l hl
  | _ => exact h.leases l hl

theorem days_inUsd (h : InUsd w) (hstep : Transition w env c w') :
    ∀ d ∈ w'.db .chargedDays, d.currency = "USD" := by
  have hperipheral {db : Db} (hsame : Schema.SameExcept peripheralTables w.db db) :
      ∀ d ∈ db .chargedDays, d.currency = "USD" := by
    rw [hsame .chargedDays (by decide)]
    exact h.days
  cases c with
  | completeReconstruction lease rows =>
      cases hstep with
      | refused => exact h.days
      | peripheral _ db hsame => exact hperipheral hsame
      | completedReconstruction _ _ work r db hlease hwork hok =>
          obtain ⟨_, t, new, _, ⟨_, hsame⟩ | ⟨row, hrow⟩⟩ := completeReconstruction_ok hok
          · show ∀ d ∈ db .chargedDays, _
            rw [hsame .chargedDays (by decide)]
            exact h.days
          · have hcurrency : ∀ d ∈ work.days, d.currency = "USD" := by
              intro d hd
              rw [reconstructionWork_currency hwork d hd]
              exact h.leases lease hlease
            obtain ⟨new, hnew, hadded⟩ := hrow.days "USD" hcurrency
            intro d hd
            have hd' : d ∈ db .chargedDays := hd
            rw [hnew] at hd'
            rcases List.mem_append.mp hd' with hold | hnew
            · exact h.days d hold
            · exact (hadded d hnew).2.1
  | completeRule lease fingerprint candidates decision =>
      cases hstep with
      | refused => exact h.days
      | peripheral _ db hsame => exact hperipheral hsame
      | completedRule _ _ _ _ r db hlease hok =>
          obtain ⟨_, t, new, _, ⟨_, hsame, _⟩ | hsearch⟩ := completeRule_ok hok
          · show ∀ d ∈ db .chargedDays, _
            rw [hsame .chargedDays (by decide)]
            exact h.days
          · obtain ⟨f, hdays, hf⟩ := hsearch.decides.days
            intro d hd
            have hd' : d ∈ db .chargedDays := hd
            rw [hdays] at hd'
            obtain ⟨e, he, rfl⟩ := List.mem_map.mp hd'
            obtain ⟨rate, hrate⟩ := (hf e).same
            rw [hrate]
            exact h.days e he
  | _ =>
      rw [table_frame hstep rfl]
      exact h.days

theorem inputs_inUsd (h : InUsd w) (hstep : Transition w env c w') :
    ∀ p ∈ w'.dayInputs, ∀ d ∈ p.2, d.currency = "USD" := by
  intro p hp
  rcases dayInputs_frame hstep p hp with hold | hnew
  · exact h.inputs p hold
  · intro d hd
    rw [hnew] at hd
    obtain ⟨row, hrow, rfl⟩ := List.mem_map.mp hd
    unfold chargedDaysOf at hrow
    rw [List.mem_insertionSort, List.mem_filter] at hrow
    exact h.days row hrow.1

theorem InUsd.step (h : InUsd w) (hstep : Transition w env c w') : InUsd w' :=
  ⟨claims_inUsd h hstep, leases_inUsd h hstep, days_inUsd h hstep, inputs_inUsd h hstep⟩

end Steps

section Runs

variable [Sha256] [TzDatabase] [CharacterTables]

theorem inUsd_of_run {allowed : World → TxnEnv → Call → Prop} {w : World} (h : Run allowed w) :
    InUsd w :=
  h.invariant InUsd inUsd_initial fun _ _ _ _ hinv _ hstep => hinv.step hstep

omit [TzDatabase] [CharacterTables] in
/-- The recommendation of days a judgment has read always resolves, in dollars. -/
theorem resolveRecommendation_inUsd {days : List DayInput} (hdays : days ≠ [])
    (husd : ∀ d ∈ days, d.currency = "USD") :
    ∃ rec, resolveRecommendation days = .ok rec ∧ rec.currency = "USD" := by
  cases days with
  | nil => exact absurd rfl hdays
  | cons first rest =>
      have hfirst : first.currency = "USD" := husd first List.mem_cons_self
      have hsame : ((first :: rest).any fun d => d.currency ≠ first.currency) = false := by
        rw [List.any_eq_false]
        intro d hd
        rw [husd d hd, hfirst]
        simp
      unfold resolveRecommendation
      dsimp only
      rw [if_neg (by rw [hsame]; decide)]
      exact ⟨_, rfl, hfirst⟩

end Runs

end Tally.Analysis
