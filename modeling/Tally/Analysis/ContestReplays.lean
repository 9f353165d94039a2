import Tally.Analysis.Claims
import Tally.Analysis.MoneyColumns
import Tally.Library.Fallible
import Tally.Model.ContestWorkflow

/-!
# Contests that are recorded again

A recorded contest stays, and its case stays contested and sealed: nothing the program does moves
a contested case. A later call with its id is compared with the row that was kept, so it is a
replay exactly if it agrees with the row. The row agrees with what was recorded if the rate has no
fraction of a cent; otherwise the call that recorded the contest conflicts with it.
-/

set_option autoImplicit false

namespace Tally.Analysis.ContestReplays
open Library Tally.Model Tally.Model.Receipt Tally.Model.DecimalColumns Tally.Model.ContestWorkflow
open Applicability (Decimal)
open RuleRates (rational)
open DecimalValues MoneyColumns

/-! ## Tables -/

/-- An update changes the case of its id alone. -/
theorem find?_updateCase {id : Uuid} {change : CaseRow → CaseRow}
    (hchange : ∀ row, (change row).id = row.id) (cases : List CaseRow) (id' : Uuid) :
    (updateCase id change cases).find? (fun row => row.id = id') =
      (cases.find? fun row => row.id = id').map
        fun row => if id' = id then change row else row := by
  unfold updateCase
  induction cases with
  | nil =>
      rfl
  | cons first rest ih =>
      rw [List.map_cons, List.find?_cons, List.find?_cons]
      have hid : (if first.id = id then change first else first).id = first.id := by
        split
        · exact hchange first
        · rfl
      rw [hid]
      by_cases hfirst : first.id = id'
      · subst hfirst
        simp
      · simp only [hfirst, decide_false]
        exact ih

theorem toContested_id (row : CaseRow) : (toContested row).id = row.id := by
  unfold toContested
  split <;> rfl

/-- The cases behind a contest of a case that is filed or contested. -/
theorem caseOf_recorded {actor : String} {input : ContestInput} {db : ContestDb} {row : CaseRow}
    (contests : Bool × List ContestRow) (h : caseOf db input.caseId = some row) (id : Uuid) :
    caseOf (recorded actor input row contests db).2 id =
      if id = input.caseId then some (toContested row) else caseOf db id := by
  unfold recorded
  by_cases hfiled : row.state = .filed
  · rw [if_pos hfiled]
    unfold caseOf at h ⊢
    dsimp only
    rw [find?_updateCase toContested_id]
    split
    · rename_i hid
      rw [hid, h]
      rfl
    · simp
  · rw [if_neg hfiled]
    have hsame : toContested row = row := if_neg hfiled
    split
    · rename_i hid
      rw [hid, hsame]
      exact h
    · rfl

/-! ## Transactions -/

theorem storeText_eq {text kept : String} (h : storeText text = some kept) : kept = text := by
  unfold storeText at h
  split at h
  · exact absurd h (by simp)
  · exact (Option.some.inj h).symm

/-- The row of a contest is its input with the rate that is kept. -/
theorem contestRow_ok {carrierId : Uuid} {input : ContestInput} {row : ContestRow}
    (h : contestRow carrierId input = .ok row) : ∃ kept, storeMoney input.rate = some kept ∧
      row = ⟨input.contestId, input.caseId, carrierId, input.received, input.sender,
        input.claimText, some kept⟩ := by
  unfold contestRow at h
  split at h
  · rename_i sender claimText rate hsender hclaim hrate
    rw [storeText_eq hsender, storeText_eq hclaim] at h
    exact ⟨rate, hrate, (Except.ok.inj h).symm⟩
  · exact absurd h (by simp)

theorem insertContest_ok {carrierId : Uuid} {input : ContestInput} {db : ContestDb}
    {contests : Bool × List ContestRow} :
    insertContest carrierId input db = .ok contests ↔
      (∃ found, contestOf db input.contestId = some found ∧ sameRow found carrierId input = true ∧
        contests = (true, db.contests)) ∨
      (∃ row, contestOf db input.contestId = none ∧ contestRow carrierId input = .ok row ∧
        contests = (false, db.contests ++ [row])) := by
  unfold insertContest
  cases hfound : contestOf db input.contestId with
  | some found =>
      dsimp only
      constructor
      · intro h
        split at h
        · rename_i hsame
          exact Or.inl ⟨found, rfl, hsame, (Except.ok.inj h).symm⟩
        · exact absurd h (by simp)
      · rintro (⟨other, hother, hsame, rfl⟩ | ⟨row, hnone, _⟩)
        · obtain rfl := Option.some.inj hother
          rw [if_pos hsame]
        · exact absurd hnone (by simp)
  | none =>
      dsimp only
      constructor
      · intro h
        split at h
        · exact absurd h (by simp)
        · rename_i row hrow
          exact Or.inr ⟨row, rfl, hrow, (Except.ok.inj h).symm⟩
      · rintro (⟨other, hother, _⟩ | ⟨row, _, hrow, rfl⟩)
        · exact absurd hother (by simp)
        · rw [hrow]

theorem commitContest_ok {actor : String} {input : ContestInput} {db : ContestDb}
    {answer : ContestAnswer × ContestDb} :
    commitContest actor input db = .ok answer ↔ ∃ row contests,
      caseOf db input.caseId = some row ∧ sealedForContest row = true ∧
        insertContest row.carrierId input db = .ok contests ∧
          answer = recorded actor input row contests db := by
  unfold commitContest
  constructor
  · intro h
    split at h
    · exact absurd h (by simp)
    · rename_i row hrow
      split at h
      · rename_i hsealed
        cases hcontests : insertContest row.carrierId input db with
        | error e =>
            rw [hcontests] at h
            exact absurd h (by simp [bind, Except.bind])
        | ok contests =>
            rw [hcontests] at h
            exact ⟨row, contests, hrow, hsealed, hcontests, (Except.ok.inj h).symm⟩
      · exact absurd h (by simp)
  · rintro ⟨row, contests, hrow, hsealed, hcontests, rfl⟩
    rw [hrow]
    dsimp only
    rw [if_pos hsealed, hcontests]
    rfl

theorem sealedForContest_iff {row : CaseRow} : sealedForContest row = true ↔
    (row.state = .filed ∨ row.state = .contested) ∧ hasSeal row = true := by
  unfold sealedForContest
  simp

/-- A case that can be contested is contested and sealed behind the contest. -/
theorem toContested_sealed {row : CaseRow} (h : sealedForContest row = true) :
    (toContested row).state = .contested ∧ hasSeal (toContested row) = true ∧
      (toContested row).carrierId = row.carrierId := by
  obtain ⟨hfiled | hcontested, hseal⟩ := sealedForContest_iff.mp h
  · unfold toContested
    rw [if_pos hfiled]
    exact ⟨rfl, hseal, rfl⟩
  · unfold toContested
    rw [if_neg (by simp [hcontested])]
    exact ⟨hcontested, hseal, rfl⟩

/-! ## Steps -/

section Steps

variable [Interpreter]

theorem recordLaterContest_ok {actor : String} {args : ContestArguments} {db : ContestDb}
    {answer : ContestAnswer × ContestDb} :
    recordLaterContest actor args db = .ok answer ↔ ∃ input,
      parseContest args = .ok input ∧ commitContest actor input db = .ok answer :=
  bind_eq_ok

/-- What a step does to the tables. -/
inductive Effect (db : ContestDb) : ContestDb → Prop where
  | none : Effect db db
  | logged (row : AuditRow) : Effect db { db with queryLog := db.queryLog ++ [row] }
  | opened {id carrierId : Uuid} (row : AuditRow) (habsent : caseOf db id = none) :
    Effect db { db with
      cases := db.cases ++ [⟨id, carrierId, .analyzed, none, none, none, none, none⟩]
      queryLog := db.queryLog ++ [row] }
  | filed {id : Uuid} {found : CaseRow} (values : SealStep) (row : AuditRow)
    (hcase : caseOf db id = some found) (hstate : found.state = .analyzed) :
    Effect db { db with
      cases := updateCase id (fileCase values) db.cases
      queryLog := db.queryLog ++ [row] }
  | contested {actor : String} {input : ContestInput} {found : CaseRow}
    {contests : Bool × List ContestRow} (hcase : caseOf db input.caseId = some found)
    (hsealed : sealedForContest found = true)
    (hcontests : insertContest found.carrierId input db = .ok contests) :
    Effect db (recorded actor input found contests db).2

theorem step_effect (db : ContestDb) (call : Step) : Effect db (step db call) := by
  cases call with
  | commitCase id carrierId actor =>
      unfold step ContestWorkflow.commitCase
      dsimp only
      cases hcase : caseOf db id with
      | some row => exact Effect.none
      | none => exact Effect.opened _ hcase
  | sealCase id values actor =>
      unfold step ContestWorkflow.sealCase
      dsimp only
      split
      · split
        · exact Effect.logged _
        · exact Effect.none
      · rename_i hstate
        split
        · obtain ⟨found, hcase, hanalyzed⟩ := Option.map_eq_some_iff.mp hstate
          exact Effect.filed values _ hcase hanalyzed
        · exact Effect.none
      · exact Effect.none
  | recordContest args actor =>
      unfold step
      dsimp only
      split
      · rename_i answer hanswer
        obtain ⟨input, _, hcommit⟩ := recordLaterContest_ok.mp hanswer
        obtain ⟨row, contests, hcase, hsealed, hcontests, rfl⟩ := commitContest_ok.mp hcommit
        exact Effect.contested hcase hsealed hcontests
      · exact Effect.none

omit [Interpreter] in
/-- A contested case is not moved any more. -/
theorem caseOf_of_effect {db db' : ContestDb} (h : Effect db db') {id : Uuid} {row : CaseRow}
    (hcase : caseOf db id = some row) (hstate : row.state = .contested) :
    caseOf db' id = some row := by
  cases h with
  | none =>
      exact hcase
  | logged =>
      exact hcase
  | opened =>
      unfold caseOf at hcase ⊢
      rw [List.find?_append, hcase, Option.some_or]
  | @filed id' found values _ hother hanalyzed =>
      have hdiffers : id ≠ id' := by
        rintro rfl
        rw [hcase] at hother
        obtain rfl := Option.some.inj hother
        rw [hstate] at hanalyzed
        exact absurd hanalyzed (by simp)
      have hkeeps : ∀ row, (fileCase values row).id = row.id := fun _ => rfl
      unfold caseOf at hcase ⊢
      dsimp only
      rw [find?_updateCase hkeeps, hcase]
      simp [hdiffers]
  | @contested actor input found contests hother hsealed hcontests =>
      rw [caseOf_recorded contests hother]
      split
      · rename_i hid
        rw [hid, hother] at hcase
        obtain rfl := Option.some.inj hcase
        unfold toContested
        rw [if_neg (by simp [hstate])]
      · exact hcase

omit [Interpreter] in
/-- The contests grow. -/
theorem contests_of_effect {db db' : ContestDb} (h : Effect db db') :
    ∃ more, db'.contests = db.contests ++ more := by
  cases h with
  | none => exact ⟨[], (List.append_nil _).symm⟩
  | logged => exact ⟨[], (List.append_nil _).symm⟩
  | opened => exact ⟨[], (List.append_nil _).symm⟩
  | filed => exact ⟨[], (List.append_nil _).symm⟩
  | contested hcase hsealed hcontests =>
      rcases insertContest_ok.mp hcontests with ⟨_, _, _, rfl⟩ | ⟨row, _, _, rfl⟩
      · exact ⟨[], (List.append_nil _).symm⟩
      · exact ⟨[row], rfl⟩

/-! ## Recorded contests -/

/-- A contest stands: its row is there with the rate that was kept, and its case is contested and
sealed. -/
structure Standing (input : ContestInput) (kept : Decimal) (row : CaseRow) (db : ContestDb) :
    Prop where
  caseFound : caseOf db input.caseId = some row
  contested : row.state = .contested
  sealed : hasSeal row = true
  contestFound : contestOf db input.contestId = some ⟨input.contestId, input.caseId, row.carrierId,
    input.received, input.sender, input.claimText, some kept⟩

omit [Interpreter] in
/-- A call that records a contest leaves it standing. -/
theorem standing_of_commit {actor : String} {input : ContestInput} {db db' : ContestDb}
    {answer : ContestAnswer} (h : commitContest actor input db = .ok (answer, db'))
    (hnew : answer.alreadyRecorded = false) :
    ∃ kept row, storeMoney input.rate = some kept ∧ Standing input kept row db' := by
  obtain ⟨sealedCase, contests, hcase, hsealed, hcontests, hanswer⟩ := commitContest_ok.mp h
  obtain ⟨rfl, rfl⟩ := Prod.mk.inj hanswer
  rcases insertContest_ok.mp hcontests with ⟨_, _, _, rfl⟩ | ⟨row, habsent, hrow, rfl⟩
  · exact absurd hnew (by simp)
  · obtain ⟨kept, hkept, rfl⟩ := contestRow_ok hrow
    have hcontest : ∀ row : ContestRow, row.id = input.contestId →
        (db.contests ++ [row]).find? (fun row => row.id = input.contestId) = some row := by
      intro row hid
      unfold contestOf at habsent
      rw [List.find?_append, habsent]
      simp [hid]
    obtain ⟨hstate', hseal', hcarrier⟩ := toContested_sealed hsealed
    refine ⟨kept, toContested sealedCase, hkept, ⟨?_, hstate', hseal', ?_⟩⟩
    · exact (caseOf_recorded (false, _) hcase input.caseId).trans (if_pos rfl)
    · rw [hcarrier]
      exact hcontest _ rfl

theorem standing_step {input : ContestInput} {kept : Decimal} {row : CaseRow} {db : ContestDb}
    (h : Standing input kept row db) (call : Step) : Standing input kept row (step db call) := by
  have heffect := step_effect db call
  obtain ⟨more, hmore⟩ := contests_of_effect heffect
  have hfound := h.contestFound
  refine ⟨caseOf_of_effect heffect h.caseFound h.contested, h.contested, h.sealed, ?_⟩
  unfold contestOf at hfound ⊢
  rw [hmore, List.find?_append, hfound, Option.some_or]

theorem standing_run {input : ContestInput} {kept : Decimal} {row : CaseRow} {db : ContestDb}
    (h : Standing input kept row db) (steps : List Step) :
    Standing input kept row (run steps db) := by
  unfold run
  induction steps generalizing db with
  | nil =>
      exact h
  | cons call steps ih =>
      exact ih (standing_step h call)

/-! ## Later calls -/

/-- A later input agrees with a contest that was kept. -/
structure Matches (input' input : ContestInput) (kept : Decimal) : Prop where
  caseId : input'.caseId = input.caseId
  received : input'.received = input.received
  sender : input'.sender = input.sender
  claimText : input'.claimText = input.claimText
  rate : equal kept input'.rate = true

/-- The tables with one audit row more. -/
def logged (actor : String) (db : ContestDb) : ContestDb :=
  { db with queryLog := db.queryLog ++ [contestAudit actor] }

/-- The answer to a replay. -/
def replayed (input : ContestInput) : ContestAnswer :=
  ⟨input.contestId, input.caseId, .contested, true⟩

omit [Interpreter] in
/-- A later call with the id of a standing contest goes through exactly if it agrees with the
contest, and adds an audit row. -/
theorem commit_standing {input input' : ContestInput} {kept : Decimal} {row : CaseRow}
    {db : ContestDb} (h : Standing input kept row db) (hid : input'.contestId = input.contestId)
    (actor : String) {answer : ContestAnswer × ContestDb} :
    commitContest actor input' db = .ok answer ↔
      Matches input' input kept ∧ answer = (replayed input, logged actor db) := by
  rw [commitContest_ok]
  constructor
  · rintro ⟨sealedCase, contests, hcase, hsealed, hcontests, rfl⟩
    rcases insertContest_ok.mp hcontests with ⟨found, hfound, hsame, rfl⟩ | ⟨_, hnone, _⟩
    · rw [hid, h.contestFound] at hfound
      obtain rfl := Option.some.inj hfound
      unfold sameRow at hsame
      simp only [Bool.and_eq_true, decide_eq_true_eq, Option.any_some] at hsame
      obtain ⟨⟨⟨⟨⟨hcaseId, hcarrier⟩, hreceived⟩, hsender⟩, hclaim⟩, hrate⟩ := hsame
      refine ⟨⟨hcaseId.symm, hreceived.symm, hsender.symm, hclaim.symm, hrate⟩, ?_⟩
      rw [← hcaseId, h.caseFound] at hcase
      obtain rfl := Option.some.inj hcase
      have hnot : row.state ≠ .filed := by
        rw [h.contested]
        simp
      unfold recorded replayed logged
      rw [if_neg hnot, hid, hcaseId]
    · rw [hid, h.contestFound] at hnone
      exact absurd hnone (by simp)
  · rintro ⟨hmatches, rfl⟩
    have hnot : row.state ≠ .filed := by
      rw [h.contested]
      simp
    refine ⟨row, (true, db.contests), ?_, sealedForContest_iff.mpr ⟨Or.inr h.contested, h.sealed⟩,
      insertContest_ok.mpr (Or.inl ⟨_, hid ▸ h.contestFound, ?_, rfl⟩), ?_⟩
    · rw [hmatches.caseId]
      exact h.caseFound
    · unfold sameRow
      simp [hmatches.caseId, hmatches.received, hmatches.sender, hmatches.claimText, hmatches.rate]
    · unfold recorded replayed logged
      rw [if_neg hnot, hid, hmatches.caseId]

/-! ## Contested cases -/

/-- A case is contested exactly if a contest of it is recorded. -/
def Consistent (db : ContestDb) : Prop :=
  ∀ id, (∃ row, caseOf db id = some row ∧ row.state = .contested) ↔
    ∃ contest ∈ db.contests, contest.caseId = id

omit [Interpreter] in
/-- A contest and the state of its case are written together. -/
theorem consistent_of_effect {db db' : ContestDb} (h : Effect db db') (hdb : Consistent db) :
    Consistent db' := by
  intro id
  cases h with
  | none =>
      exact hdb id
  | logged =>
      exact hdb id
  | @opened id' carrierId _ habsent =>
      rw [← hdb id]
      refine exists_congr fun row => and_congr_left fun hstate => ?_
      unfold caseOf at habsent ⊢
      dsimp only
      rw [List.find?_append]
      cases hfind : db.cases.find? fun row => row.id = id with
      | some other => simp
      | none =>
          simp only [Option.none_or, List.find?_singleton]
          constructor
          · intro hnew
            split at hnew
            · obtain rfl := Option.some.inj hnew
              exact absurd hstate (by simp)
            · exact absurd hnew (by simp)
          · intro hnone
            exact absurd hnone (by simp)
  | @filed id' found values _ hfound hanalyzed =>
      rw [← hdb id]
      have hkeeps : ∀ row, (fileCase values row).id = row.id := fun _ => rfl
      have hcases : (updateCase id' (fileCase values) db.cases).find? (fun row => row.id = id) =
          (caseOf db id).map fun row => if id = id' then fileCase values row else row :=
        find?_updateCase hkeeps db.cases id
      unfold caseOf at hcases ⊢
      dsimp only
      rw [hcases]
      by_cases hid : id = id'
      · unfold caseOf at hfound
        rw [hid, hfound]
        simp [fileCase, hanalyzed]
      · simp [hid]
  | @contested actor input found contests hfound hsealed hcontests =>
      have hstate := (toContested_sealed hsealed).1
      rw [caseOf_recorded contests hfound]
      rcases insertContest_ok.mp hcontests with ⟨other, hother, hsame, rfl⟩ | ⟨row, _, hrow, rfl⟩
      · have hcase : other.caseId = input.caseId := by
          unfold sameRow at hsame
          simp only [Bool.and_eq_true, decide_eq_true_eq] at hsame
          exact hsame.1.1.1.1.1
        have hmem : other ∈ db.contests := List.mem_of_find?_eq_some hother
        by_cases hid : id = input.caseId
        · rw [if_pos hid]
          exact iff_of_true ⟨_, rfl, hstate⟩ ⟨other, hmem, hcase.trans hid.symm⟩
        · rw [if_neg hid]
          exact hdb id
      · obtain ⟨kept, _, rfl⟩ := contestRow_ok hrow
        by_cases hid : id = input.caseId
        · rw [if_pos hid]
          exact iff_of_true ⟨_, rfl, hstate⟩
            ⟨_, List.mem_append_right _ (List.mem_singleton.mpr rfl), hid.symm⟩
        · rw [if_neg hid, hdb id]
          unfold recorded
          dsimp only
          constructor
          · rintro ⟨contest, hmem, hcase⟩
            exact ⟨contest, List.mem_append_left _ hmem, hcase⟩
          · rintro ⟨contest, hmem, hcase⟩
            rcases List.mem_append.mp hmem with hmem | hnew
            · exact ⟨contest, hmem, hcase⟩
            · rw [List.mem_singleton.mp hnew] at hcase
              exact absurd hcase.symm hid

/-- In every state of the program a case is contested exactly if a contest of it is recorded. -/
theorem consistent_run (steps : List Step) {db : ContestDb} (h : Consistent db) :
    Consistent (run steps db) := by
  unfold run
  induction steps generalizing db with
  | nil =>
      exact h
  | cons call steps ih =>
      exact ih (consistent_of_effect (step_effect db call) h)

omit [Interpreter] in
theorem consistent_noCases : Consistent noCases := by
  intro id
  simp [noCases, caseOf]

/-! ## Replays -/

/-- The arguments stand for the same contest. -/
structure SameContest (input' input : ContestInput) : Prop where
  contestId : input'.contestId = input.contestId
  caseId : input'.caseId = input.caseId
  received : input'.received = input.received
  sender : input'.sender = input.sender
  claimText : input'.claimText = input.claimText
  rate : rational (some input'.rate) = rational (some input.rate)

def Denotes (args : ContestArguments) (input : ContestInput) : Prop :=
  ∃ input', parseContest args = .ok input' ∧ SameContest input' input

/-- A call with the arguments of a contest is answered as a replay and adds an audit row; a call
with its id and other arguments fails. -/
structure Replays (input : ContestInput) (db : ContestDb) : Prop where
  again : ∀ actor args, Denotes args input →
    recordLaterContest actor args db = .ok (replayed input, logged actor db)
  refused : ∀ actor args, uuidOf args.contestId = some input.contestId → ¬Denotes args input →
    ∃ e, recordLaterContest actor args db = .error e

theorem parseUuid_ok {value field : String} {id : Uuid} (h : parseUuid value field = .ok id) :
    uuidOf value = some id := by
  unfold parseUuid at h
  split at h
  · rename_i id' hid
    rw [hid, Except.ok.inj h]
  · exact absurd h (by simp)

theorem parseContest_ok {args : ContestArguments} {input : ContestInput}
    (h : parseContest args = .ok input) :
    uuidOf args.contestId = some input.contestId ∧ nonnegative input.rate = true := by
  unfold parseContest at h
  obtain ⟨contestId, hcontest, h⟩ := bind_eq_ok.mp h
  obtain ⟨caseId, _, h⟩ := bind_eq_ok.mp h
  obtain ⟨received, _, h⟩ := bind_eq_ok.mp h
  split at h
  · exact absurd h (by simp)
  · split at h
    · exact absurd h (by simp)
    · rename_i hchecks
      obtain rfl := Except.ok.inj h
      simp only [Bool.or_eq_true, not_or, Bool.not_eq_true, Bool.not_eq_false'] at hchecks
      exact ⟨parseUuid_ok hcontest, hchecks.2⟩

omit [Interpreter] in
theorem finite_of_nonnegative {rate : Decimal} (h : nonnegative rate = true) :
    ∃ negative coefficient exponent, rate = .finite negative coefficient exponent := by
  cases rate with
  | finite negative coefficient exponent => exact ⟨negative, coefficient, exponent, rfl⟩
  | infinity negative => exact absurd h (by simp [nonnegative])
  | nan => exact absurd h (by simp [nonnegative])

omit [Interpreter] in
/-- What equals a number that was kept. -/
theorem equal_kept_iff {rate kept : Decimal} (hrate : nonnegative rate = true)
    (hkept : storeMoney rate = some kept) (rate' : Decimal) :
    equal kept rate' = true ↔ rational (some rate') = rational (some kept) := by
  obtain ⟨negative, coefficient, exponent, rfl⟩ := finite_of_nonnegative hrate
  rw [storeMoney_finite hkept]
  constructor
  · exact rational_of_equal
  · intro hvalue
    cases rate' with
    | finite n c e =>
        rw [rational_finite, rational_finite, Option.some.injEq] at hvalue
        exact decide_eq_true (scaled_eq_iff.mpr hvalue.symm)
    | infinity n => exact absurd hvalue (by simp [rational])
    | nan => exact absurd hvalue (by simp [rational])

omit [Interpreter] in
/-- The rate that is kept is the rate of the contest exactly if that has no fraction of a cent. -/
theorem rate_kept_iff {rate kept : Decimal} (hrate : nonnegative rate = true)
    (hkept : storeMoney rate = some kept) :
    rational (some kept) = rational (some rate) ↔ InCents rate := by
  obtain ⟨negative, coefficient, exponent, rfl⟩ := finite_of_nonnegative hrate
  exact kept_iff hkept

/-- A standing contest replays exactly if its rate has no fraction of a cent. -/
theorem replays_standing {input : ContestInput} {kept : Decimal} {row : CaseRow} {db : ContestDb}
    (hinput : ∃ args, parseContest args = .ok input) (hkept : storeMoney input.rate = some kept)
    (h : Standing input kept row db) : Replays input db ↔ InCents input.rate := by
  obtain ⟨first, hfirst⟩ := hinput
  have hrate := (parseContest_ok hfirst).2
  rw [← rate_kept_iff hrate hkept]
  constructor
  · intro hreplays
    -- the arguments of the first call agree with the row that was kept
    have hself := hreplays.again "" first ⟨input, hfirst, rfl, rfl, rfl, rfl, rfl, rfl⟩
    obtain ⟨input', hparsed, hcommit⟩ := recordLaterContest_ok.mp hself
    rw [hfirst] at hparsed
    obtain rfl := Except.ok.inj hparsed
    have hmatches := ((commit_standing h rfl "").mp hcommit).1
    exact ((equal_kept_iff hrate hkept input.rate).mp hmatches.rate).symm
  · intro hsame
    have hmatch : ∀ input', input'.contestId = input.contestId →
        (Matches input' input kept ↔ SameContest input' input) := by
      intro input' hid
      constructor
      · intro hmatches
        exact ⟨hid, hmatches.caseId, hmatches.received, hmatches.sender, hmatches.claimText,
          ((equal_kept_iff hrate hkept _).mp hmatches.rate).trans hsame⟩
      · intro hcontest
        exact ⟨hcontest.caseId, hcontest.received, hcontest.sender, hcontest.claimText,
          (equal_kept_iff hrate hkept _).mpr (hcontest.rate.trans hsame.symm)⟩
    constructor
    · rintro actor args ⟨input', hparsed, hcontest⟩
      refine recordLaterContest_ok.mpr ⟨input', hparsed, ?_⟩
      rw [commit_standing h hcontest.contestId]
      exact ⟨(hmatch input' hcontest.contestId).mpr hcontest, rfl⟩
    · intro actor args hid hdiffers
      cases hcall : recordLaterContest actor args db with
      | error e => exact ⟨e, rfl⟩
      | ok answer =>
          obtain ⟨input', hparsed, hcommit⟩ := recordLaterContest_ok.mp hcall
          have hsameId : input'.contestId = input.contestId := by
            have hread := (parseContest_ok hparsed).1
            rw [hid] at hread
            exact (Option.some.inj hread).symm
          have hmatches := ((commit_standing h hsameId actor).mp hcommit).1
          exact absurd ⟨input', hparsed, (hmatch input' hsameId).mp hmatches⟩ hdiffers

/-- In every run of the program, in every state behind a call that recorded a contest: a case is
contested exactly if a contest of it is recorded, and the contest replays, with every other
argument refused, exactly if its rate has no fraction of a cent.

SOURCE: src/platform/contest_workflow.py:39-148 -/
theorem contest_replays_iff (before later : List Step) {actor : String} {args : ContestArguments}
    {input : ContestInput} {answer : ContestAnswer} {db : ContestDb}
    (hinput : parseContest args = .ok input)
    (hrecorded : recordLaterContest actor args (run before noCases) = .ok (answer, db))
    (hnew : answer.alreadyRecorded = false) :
    Consistent (run later db) ∧ (Replays input (run later db) ↔ InCents input.rate) := by
  obtain ⟨input', hparsed, hcommit⟩ := recordLaterContest_ok.mp hrecorded
  rw [hinput] at hparsed
  obtain rfl := Except.ok.inj hparsed
  constructor
  · have hstep : step (run before noCases) (.recordContest args actor) = db := by
      unfold step
      dsimp only
      rw [hrecorded]
    rw [← hstep]
    refine consistent_run later (consistent_of_effect (step_effect _ _) ?_)
    exact consistent_run before consistent_noCases
  · obtain ⟨kept, row, hkept, hstanding⟩ := standing_of_commit hcommit hnew
    exact replays_standing ⟨args, hinput⟩ hkept (standing_run hstanding later)

end Steps

section Case

local instance caseInterpreter : Interpreter := Claims.asciiInterpreter

/-- A contest of a filed case. -/
def argumentsOf (claimedRate : String) : ContestArguments :=
  { contestId := "60000000-0000-4000-8000-000000000003"
    caseId := "60000000-0000-4000-8000-000000000002"
    receivedAt := "2026-07-21T19:00:00Z"
    sender := "Synthetic Carrier Review Desk"
    claimText := "Synthetic later contest of the recorded rate."
    claimedRate }

/-- The seal of a case. -/
def sealStep : SealStep :=
  { accepted := true
    evidenceHash := "sha256:00"
    evidenceManifest := [("manifest_version", .int 1)]
    sealedBy := 0x60000000000040008000000000000005
    sealedAtDisplay := 0
    sealedTxnTs := .finite false 1 0
    auditText := "APPROVE & FILE" }

/-- A case that is analyzed and filed. -/
def filedCase : List Step :=
  [.commitCase 0x60000000000040008000000000000002 0x60000000000040008000000000000004 "clerk",
    .sealCase 0x60000000000040008000000000000002 sealStep "clerk"]

/-- The answers to a first contest and to a second one. -/
def answers (rate rate' : String) :
    Option (ContestAnswer × Except ContestError ContestAnswer) :=
  match recordLaterContest "desk" (argumentsOf rate) (run filedCase noCases) with
  | .ok (answer, db) =>
    some (answer, (recordLaterContest "desk" (argumentsOf rate') db).map fun again => again.1)
  | .error _ => none

theorem exists_of_answers {rate rate' : String} {answer : ContestAnswer}
    {again : Except ContestError ContestAnswer} (h : answers rate rate' = some (answer, again)) :
    ∃ db, recordLaterContest "desk" (argumentsOf rate) (run filedCase noCases) = .ok (answer, db) ∧
      (recordLaterContest "desk" (argumentsOf rate') db).map (fun again => again.1) = again := by
  unfold answers at h
  split at h
  · rename_i first db hcall
    obtain ⟨rfl, hagain⟩ := Prod.mk.inj (Option.some.inj h)
    exact ⟨db, hcall, hagain⟩
  · exact absurd h (by simp)

/-- The answer to the first contest. -/
def firstAnswer : ContestAnswer :=
  ⟨0x60000000000040008000000000000003, 0x60000000000040008000000000000002, .contested, false⟩

/-- A contest of the rate 350.00 replays after another call. -/
theorem contest_replays_cents : ∃ db input,
    recordLaterContest "desk" (argumentsOf "350.00") (run filedCase noCases) =
        .ok (firstAnswer, db) ∧
      parseContest (argumentsOf "350.00") = .ok input ∧
        Replays input (run [.recordContest (argumentsOf "351.00") "desk"] db) := by
  have hanswers : answers "350.00" "350.00" = some (firstAnswer, .ok { firstAnswer with
      alreadyRecorded := true }) := by
    decide +kernel
  obtain ⟨db, hfirst, _⟩ := exists_of_answers hanswers
  obtain ⟨input, hinput, _⟩ := recordLaterContest_ok.mp hfirst
  have hrate : (parseContest (argumentsOf "350.00")).map (fun input => input.rate) =
      .ok (.finite false 35000 (-2)) := by
    decide +kernel
  rw [hinput] at hrate
  have hcents : input.rate = .finite false 35000 (-2) := Except.ok.inj hrate
  refine ⟨db, input, hfirst, hinput,
    (contest_replays_iff filedCase _ hinput hfirst rfl).2.mpr ⟨35000, ?_⟩⟩
  rw [hcents]
  norm_num [rational]

/-- The call that recorded the rate 95.125 conflicts with the contest it recorded. -/
theorem third_decimal_conflicts : ∃ db,
    recordLaterContest "desk" (argumentsOf "95.125") (run filedCase noCases) =
        .ok (firstAnswer, db) ∧
      recordLaterContest "desk" (argumentsOf "95.125") db =
        .error (.workflow "contest_id_conflict") := by
  have hanswers : answers "95.125" "95.125" =
      some (firstAnswer, .error (.workflow "contest_id_conflict")) := by
    decide +kernel
  obtain ⟨db, hfirst, hagain⟩ := exists_of_answers hanswers
  refine ⟨db, hfirst, ?_⟩
  cases hcall : recordLaterContest "desk" (argumentsOf "95.125") db with
  | error e =>
      rw [hcall] at hagain
      exact congrArg _ (Except.error.inj hagain)
  | ok answer =>
      rw [hcall] at hagain
      exact absurd hagain (by simp [Except.map])

end Case

end Tally.Analysis.ContestReplays
