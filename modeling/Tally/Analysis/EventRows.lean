import Tally.Library.Screening
import Tally.Model.Reconstruction

/-!
# What becomes of the event rows

The validation loop screens the returned rows: a row is refused under the first rule it
breaks, or as a duplicate of a row before it, or it is accepted. Each row has one verdict,
and the two lists of the outcome are the verdicts sorted by their kind.
-/

set_option autoImplicit false

namespace Tally.Analysis.EventRows
open Library Library.Calendar Library.Screening Tally.Model

/-! ## The rules -/

/-- All timestamps and dates of the row can be read. -/
def TimesValid (row : RawEventRow) : Prop :=
  (parseDt row.occurredAt).isSome ∧ (parseDt row.recordedAt).isSome ∧
    (parseDtField row.observedAt).isSome ∧ (parseDateField row.effectiveFrom).isSome ∧
    (parseDateField row.effectiveTo).isSome

/-- The rules of a row in the order of the source, under the codes of the rows that break
them. SOURCE: core/reconstruction.py:193-213 -/
def rules (knowledgeCutoff : Instant) (shipmentRef containerRef : String) :
    List (EventIssue × (RawEventRow → Prop)) :=
  [(.eventSourceMissing, fun row => row.sourceVerificationState = "VERIFIED"),
   (.eventTypeNotAllowed, fun row => ∃ t : ShipmentEventType, t.value = row.eventType),
   (.eventOwnershipMismatch, fun row =>
     row.shipmentRef = shipmentRef ∧ row.containerRef = containerRef),
   (.eventTimeInvalid, TimesValid),
   (.eventAfterKnowledgeCutoff, fun row =>
     ∀ recorded ∈ parseDt row.recordedAt, recorded.instant ≤ knowledgeCutoff)]

/-- The event is the row, with its type and its times read. -/
structure Normalizes (row : RawEventRow) (event : NormalizedEvent) : Prop where
  publicRef : event.publicRef = row.publicRef
  eventType : event.eventType.value = row.eventType
  shipmentRef : event.shipmentRef = row.shipmentRef
  containerRef : event.containerRef = row.containerRef
  sourcePublicRef : event.sourcePublicRef = row.sourcePublicRef
  displayAnchor : event.displayAnchor = row.displayAnchor
  provenance : event.provenanceClassification = row.provenanceClassification
  occurredAt : parseDt row.occurredAt = some event.occurredAt
  recordedAt : parseDt row.recordedAt = some event.recordedAt
  observedAt : parseDtField row.observedAt = some event.observedAt
  effectiveFrom : parseDateField row.effectiveFrom = some event.effectiveFrom
  effectiveTo : parseDateField row.effectiveTo = some event.effectiveTo
  normalizedFacts : event.normalizedFacts = row.normalizedFacts

theorem value_ofValue {text : String} {t : ShipmentEventType}
    (h : ShipmentEventType.ofValue text = some t) : t.value = text := by
  simpa using List.find?_some h

theorem ofValue_value (t : ShipmentEventType) : ShipmentEventType.ofValue t.value = some t := by
  cases t <;> decide

theorem ofValue_eq_none {text : String} :
    ShipmentEventType.ofValue text = none ↔ ¬∃ t : ShipmentEventType, t.value = text := by
  constructor
  · rintro hnone ⟨t, rfl⟩
    rw [ofValue_value] at hnone
    exact absurd hnone (by simp)
  · intro hnot
    cases hvalue : ShipmentEventType.ofValue text with
    | none => rfl
    | some t => exact absurd ⟨t, value_ofValue hvalue⟩ hnot

theorem value_injective {t t' : ShipmentEventType} (h : t.value = t'.value) : t = t' := by
  have hsome := ofValue_value t
  rw [h, ofValue_value] at hsome
  exact (Option.some.inj hsome).symm

section Loop

variable {knowledgeCutoff : Instant} {shipmentRef containerRef : String}

/-- What passes keeps every rule and becomes the event it describes. -/
theorem checkRow_ok {row : RawEventRow} {event : NormalizedEvent}
    (h : checkRow knowledgeCutoff shipmentRef containerRef row = .ok event) :
    (∀ rule ∈ rules knowledgeCutoff shipmentRef containerRef, rule.2 row) ∧
      Normalizes row event := by
  unfold checkRow at h
  split at h
  · exact absurd h (by simp)
  rename_i hverified
  split at h
  · exact absurd h (by simp)
  rename_i t htype
  split at h
  · exact absurd h (by simp)
  rename_i howned
  split at h
  · rename_i occurred recorded observed effectiveFrom effectiveTo hoccurred hrecorded hobserved
      hfrom hto
    split at h
    · exact absurd h (by simp)
    rename_i hcutoff
    obtain rfl := Except.ok.inj h
    have htypes := value_ofValue htype
    refine ⟨?_, ⟨rfl, htypes, rfl, rfl, rfl, rfl, rfl, hoccurred, hrecorded, hobserved, hfrom, hto,
      rfl⟩⟩
    simp only [rules, List.forall_mem_cons, List.not_mem_nil, false_implies, implies_true, and_true]
    refine ⟨not_not.mp hverified, ⟨t, htypes⟩, ?_, ?_, ?_⟩
    · rw [not_or, not_not, not_not] at howned
      exact howned
    · exact ⟨by rw [hoccurred]; rfl, by rw [hrecorded]; rfl, by rw [hobserved]; rfl,
        by rw [hfrom]; rfl, by rw [hto]; rfl⟩
    · intro r hr
      rw [hrecorded] at hr
      obtain rfl := Option.some.inj hr
      exact not_lt.mp hcutoff
  · exact absurd h (by simp)

/-- What is refused breaks a rule, and the code is the one of the first it breaks. -/
theorem checkRow_error {row : RawEventRow} {issue : EventIssue}
    (h : checkRow knowledgeCutoff shipmentRef containerRef row = .error issue) :
    FirstBroken (rules knowledgeCutoff shipmentRef containerRef) issue row := by
  unfold checkRow at h
  unfold rules
  rw [firstBroken_cons]
  split at h
  · rename_i hunverified
    exact Or.inl ⟨Except.error.inj h, hunverified⟩
  rename_i hverified
  refine Or.inr ⟨not_not.mp hverified, ?_⟩
  rw [firstBroken_cons]
  split at h
  · rename_i htype
    exact Or.inl ⟨Except.error.inj h, ofValue_eq_none.mp htype⟩
  rename_i t htype
  refine Or.inr ⟨⟨t, value_ofValue htype⟩, ?_⟩
  rw [firstBroken_cons]
  split at h
  · rename_i hforeign
    refine Or.inl ⟨Except.error.inj h, ?_⟩
    rintro ⟨hshipment, hcontainer⟩
    rcases hforeign with hne | hne
    · exact hne hshipment
    · exact hne hcontainer
  rename_i howned
  rw [not_or, not_not, not_not] at howned
  refine Or.inr ⟨howned, ?_⟩
  rw [firstBroken_cons]
  split at h
  · rename_i occurred recorded observed effectiveFrom effectiveTo hoccurred hrecorded hobserved
      hfrom hto
    refine Or.inr ⟨⟨by rw [hoccurred]; rfl, by rw [hrecorded]; rfl, by rw [hobserved]; rfl,
      by rw [hfrom]; rfl, by rw [hto]; rfl⟩, ?_⟩
    rw [firstBroken_cons]
    split at h
    · rename_i hlate
      refine Or.inl ⟨Except.error.inj h, ?_⟩
      intro hcutoff
      have hle := hcutoff recorded (by rw [hrecorded]; rfl)
      exact absurd hle (not_le.mpr hlate)
    · exact absurd h (by simp)
  · rename_i hmalformed
    refine Or.inl ⟨Except.error.inj h, ?_⟩
    rintro ⟨hoccurred, hrecorded, hobserved, hfrom, hto⟩
    obtain ⟨occurred, hoccurred⟩ := Option.isSome_iff_exists.mp hoccurred
    obtain ⟨recorded, hrecorded⟩ := Option.isSome_iff_exists.mp hrecorded
    obtain ⟨observed, hobserved⟩ := Option.isSome_iff_exists.mp hobserved
    obtain ⟨effectiveFrom, hfrom⟩ := Option.isSome_iff_exists.mp hfrom
    obtain ⟨effectiveTo, hto⟩ := Option.isSome_iff_exists.mp hto
    exact hmalformed occurred recorded observed effectiveFrom effectiveTo hoccurred hrecorded
      hobserved hfrom hto

end Loop

/-- The duplicate key of an event. -/
def dedupeKey (event : NormalizedEvent) : String × String :=
  (event.eventType.value, event.occurredAt.isoformat)

/-- The verdict on each row. -/
def verdicts (knowledgeCutoff : Instant) (shipmentRef containerRef : String)
    (rows : List RawEventRow) : List (Except EventIssue NormalizedEvent) :=
  screen (checkRow knowledgeCutoff shipmentRef containerRef) dedupeKey .eventDuplicate [] rows

/-- The entry a row leaves in the rejected list. -/
def refusal : RawEventRow × Except EventIssue NormalizedEvent → Option (String × EventIssue)
  | (row, .error issue) => some (row.publicRef, issue)
  | (_, .ok _) => none

theorem refusals_error (row : RawEventRow) (rows : List RawEventRow) (issue : EventIssue)
    (judged : List (Except EventIssue NormalizedEvent)) :
    ((row :: rows).zip (.error issue :: judged)).filterMap refusal =
      (row.publicRef, issue) :: (rows.zip judged).filterMap refusal := rfl

theorem refusals_ok (row : RawEventRow) (rows : List RawEventRow) (event : NormalizedEvent)
    (judged : List (Except EventIssue NormalizedEvent)) :
    ((row :: rows).zip (.ok event :: judged)).filterMap refusal =
      (rows.zip judged).filterMap refusal := rfl

section Verdicts

variable {knowledgeCutoff : Instant} {shipmentRef containerRef : String}

/-- The loop adds the verdicts to its two lists, each to the one of its kind. The induction
carries the keys seen. SOURCE: core/reconstruction.py:187-234 -/
theorem foldl_validateRow (rows : List RawEventRow) (acc : ValidationState) :
    let judged := screen (checkRow knowledgeCutoff shipmentRef containerRef) dedupeKey
      .eventDuplicate acc.seen rows
    let after := rows.foldl (validateRow knowledgeCutoff shipmentRef containerRef) acc
    after.accepted = acc.accepted ++ kept judged ∧
      after.rejected = acc.rejected ++ (rows.zip judged).filterMap refusal := by
  induction rows generalizing acc with
  | nil => exact ⟨(List.append_nil _).symm, (List.append_nil _).symm⟩
  | cons row rows ih =>
      dsimp only
      rw [List.foldl_cons]
      unfold screen
      cases hcheck : checkRow knowledgeCutoff shipmentRef containerRef row with
      | error issue =>
          have hstep : validateRow knowledgeCutoff shipmentRef containerRef acc row =
              { acc with rejected := acc.rejected ++ [(row.publicRef, issue)] } := by
            unfold validateRow
            rw [hcheck]
          obtain ⟨haccepted, hrejected⟩ :=
            ih { acc with rejected := acc.rejected ++ [(row.publicRef, issue)] }
          rw [hstep]
          refine ⟨haccepted.trans (by rw [kept_cons_error]), hrejected.trans ?_⟩
          rw [refusals_error, List.append_assoc]
          rfl
      | ok event =>
          have htype : (row.eventType, event.occurredAt.isoformat) = dedupeKey event := by
            rw [← (checkRow_ok hcheck).2.eventType]
            rfl
          dsimp only
          by_cases hseen : dedupeKey event ∈ acc.seen
          · have hstep : validateRow knowledgeCutoff shipmentRef containerRef acc row =
                { acc with rejected := acc.rejected ++ [(row.publicRef, .eventDuplicate)] } := by
              unfold validateRow
              rw [hcheck]
              dsimp only
              rw [htype, if_pos hseen]
            obtain ⟨haccepted, hrejected⟩ :=
              ih { acc with rejected := acc.rejected ++ [(row.publicRef, .eventDuplicate)] }
            rw [hstep, if_pos hseen]
            refine ⟨haccepted.trans (by rw [kept_cons_error]), hrejected.trans ?_⟩
            rw [refusals_error, List.append_assoc]
            rfl
          · have hstep : validateRow knowledgeCutoff shipmentRef containerRef acc row =
                { acc with
                  accepted := acc.accepted ++ [event]
                  seen := dedupeKey event :: acc.seen } := by
              unfold validateRow
              rw [hcheck]
              dsimp only
              rw [htype, if_neg hseen]
            obtain ⟨haccepted, hrejected⟩ := ih { acc with
              accepted := acc.accepted ++ [event]
              seen := dedupeKey event :: acc.seen }
            rw [hstep, if_neg hseen]
            refine ⟨haccepted.trans ?_, hrejected.trans ?_⟩
            · rw [kept_cons_ok, List.append_assoc]
              rfl
            · rw [refusals_ok]

/-- The outcome is the verdicts. -/
theorem validateEvents_eq (rows : List RawEventRow) :
    validateEvents rows knowledgeCutoff shipmentRef containerRef =
      ⟨(kept (verdicts knowledgeCutoff shipmentRef containerRef rows)).insertionSort
          NormalizedEvent.sortsBefore,
        (rows.zip (verdicts knowledgeCutoff shipmentRef containerRef rows)).filterMap refusal⟩ := by
  unfold validateEvents
  dsimp only
  rw [(foldl_validateRow rows ⟨[], [], []⟩).1, (foldl_validateRow rows ⟨[], [], []⟩).2]
  rfl

/-- The keys of the rows that pass. -/
abbrev rowKeys (knowledgeCutoff : Instant) (shipmentRef containerRef : String)
    (rows : List RawEventRow) : List (String × String) :=
  passedKeys (checkRow knowledgeCutoff shipmentRef containerRef) dedupeKey rows

/-- The verdict on a row is told by the keys of the rows before it. -/
theorem getElem?_verdicts (rows : List RawEventRow) (i : Nat) :
    (verdicts knowledgeCutoff shipmentRef containerRef rows)[i]? =
      rows[i]?.map (judge (checkRow knowledgeCutoff shipmentRef containerRef) dedupeKey
        .eventDuplicate (rowKeys knowledgeCutoff shipmentRef containerRef (rows.take i))) := by
  unfold verdicts rowKeys
  rw [getElem?_screen, List.append_nil]

/-- An event is accepted for the first row of its key that passes. -/
theorem mem_accepted {rows : List RawEventRow} {event : NormalizedEvent} :
    event ∈ (validateEvents rows knowledgeCutoff shipmentRef containerRef).accepted ↔
      ∃ (i : Nat) (row : RawEventRow), rows[i]? = some row ∧
        checkRow knowledgeCutoff shipmentRef containerRef row = .ok event ∧
        dedupeKey event ∉ rowKeys knowledgeCutoff shipmentRef containerRef (rows.take i) := by
  rw [validateEvents_eq]
  refine (List.mem_insertionSort _).trans (mem_kept.trans (List.mem_iff_getElem?.trans ?_))
  refine exists_congr fun i => ?_
  rw [getElem?_verdicts]
  cases rows[i]? with
  | none => simp
  | some row =>
      rw [Option.map_some, Option.some_inj, judge_eq_ok]
      constructor
      · intro h
        exact ⟨row, rfl, h⟩
      · rintro ⟨row', hrow, h⟩
        obtain rfl := Option.some.inj hrow
        exact h

end Verdicts

/-! ## The order -/

theorem sortsBefore_total (a b : NormalizedEvent) : a.sortsBefore b ∨ b.sortsBefore a := by
  rcases lt_trichotomy a.occurredAt.instant b.occurredAt.instant with h | h | h
  · exact Or.inl (Or.inl h)
  · rcases le_total a.publicRef b.publicRef with hle | hle
    · exact Or.inl (Or.inr ⟨h, hle⟩)
    · exact Or.inr (Or.inr ⟨h.symm, hle⟩)
  · exact Or.inr (Or.inl h)

theorem sortsBefore_trans {a b c : NormalizedEvent} (hab : a.sortsBefore b)
    (hbc : b.sortsBefore c) : a.sortsBefore c := by
  rcases hab with hab | ⟨hab, hle⟩
  · rcases hbc with hbc | ⟨hbc, _⟩
    · exact Or.inl (lt_trans hab hbc)
    · exact Or.inl (lt_of_lt_of_eq hab hbc)
  · rcases hbc with hbc | ⟨hbc, hle'⟩
    · exact Or.inl (lt_of_eq_of_lt hab hbc)
    · exact Or.inr ⟨hab.trans hbc, le_trans hle hle'⟩

instance : Std.Total NormalizedEvent.sortsBefore := ⟨sortsBefore_total⟩

instance : IsTrans NormalizedEvent NormalizedEvent.sortsBefore :=
  ⟨fun _ _ _ hab hbc => sortsBefore_trans hab hbc⟩

/-! ## The partition -/

/-- What the outcome makes of the rows, by the verdict on each of them. -/
structure Partitions (knowledgeCutoff : Instant) (shipmentRef containerRef : String)
    (rows : List RawEventRow) (outcome : EventValidation)
    (judged : List (Except EventIssue NormalizedEvent)) : Prop where
  each : judged.length = rows.length
  accepted : outcome.accepted.Perm (judged.filterMap Except.toOption)
  rejected : outcome.rejected = (rows.zip judged).filterMap refusal
  sorted : outcome.accepted.Pairwise NormalizedEvent.sortsBefore
  keys : (outcome.accepted.map dedupeKey).Nodup
  ok : ∀ (i : Nat) row event, rows[i]? = some row → judged[i]? = some (Except.ok event) →
    (∀ rule ∈ rules knowledgeCutoff shipmentRef containerRef, rule.2 row) ∧ Normalizes row event
  duplicate : ∀ (i : Nat) row, rows[i]? = some row →
    (judged[i]? = some (Except.error .eventDuplicate) ↔
      (∀ rule ∈ rules knowledgeCutoff shipmentRef containerRef, rule.2 row) ∧
        ∃ event, Normalizes row event ∧ ∃ j < i, ∃ earlier, judged[j]? = some (Except.ok earlier) ∧
          dedupeKey earlier = dedupeKey event)
  first : ∀ (i : Nat) row issue, rows[i]? = some row → issue ≠ .eventDuplicate →
    (judged[i]? = some (Except.error issue) ↔
      FirstBroken (rules knowledgeCutoff shipmentRef containerRef) issue row)

section Partition

variable {knowledgeCutoff : Instant} {shipmentRef containerRef : String}

/-- A row breaks a rule, or it keeps all of them. -/
theorem not_firstBroken {rules : List (EventIssue × (RawEventRow → Prop))} {row : RawEventRow}
    (h : ∀ rule ∈ rules, rule.2 row) (issue : EventIssue) : ¬FirstBroken rules issue row := by
  rintro ⟨before, rule, after, rfl, _, hbroken⟩
  exact hbroken (h (issue, rule) (List.mem_append_right _ List.mem_cons_self))

theorem firstBroken_unique {rules : List (EventIssue × (RawEventRow → Prop))} {row : RawEventRow}
    {issue issue' : EventIssue} (h : FirstBroken rules issue row)
    (h' : FirstBroken rules issue' row) : issue = issue' := by
  induction rules with
  | nil => exact absurd h (firstBroken_nil issue row)
  | cons rule rules ih =>
      obtain ⟨code, rule⟩ := rule
      rw [firstBroken_cons] at h h'
      rcases h with ⟨rfl, hbroken⟩ | ⟨hholds, h⟩
      · rcases h' with ⟨rfl, _⟩ | ⟨hholds, _⟩
        · rfl
        · exact absurd hholds hbroken
      · rcases h' with ⟨_, hbroken⟩ | ⟨_, h'⟩
        · exact absurd hholds hbroken
        · exact ih h h'

theorem normalizes_unique {row : RawEventRow} {event event' : NormalizedEvent}
    (h : Normalizes row event) (h' : Normalizes row event') : event = event' := by
  have hoccurred := Option.some.inj (h.occurredAt.symm.trans h'.occurredAt)
  have hrecorded := Option.some.inj (h.recordedAt.symm.trans h'.recordedAt)
  have hobserved := Option.some.inj (h.observedAt.symm.trans h'.observedAt)
  have hfrom := Option.some.inj (h.effectiveFrom.symm.trans h'.effectiveFrom)
  have hto := Option.some.inj (h.effectiveTo.symm.trans h'.effectiveTo)
  have htype := value_injective (h.eventType.trans h'.eventType.symm)
  rw [NormalizedEvent.mk.injEq]
  exact ⟨h.publicRef.trans h'.publicRef.symm, htype, h.shipmentRef.trans h'.shipmentRef.symm,
    h.containerRef.trans h'.containerRef.symm, h.sourcePublicRef.trans h'.sourcePublicRef.symm,
    h.displayAnchor.trans h'.displayAnchor.symm, h.provenance.trans h'.provenance.symm, hoccurred,
    hrecorded, hobserved, hfrom, hto, h.normalizedFacts.trans h'.normalizedFacts.symm⟩

/-- Keeping every rule is what the check of a row lets through. -/
theorem checkRow_ok_iff {row : RawEventRow} {event : NormalizedEvent} :
    checkRow knowledgeCutoff shipmentRef containerRef row = .ok event ↔
      (∀ rule ∈ rules knowledgeCutoff shipmentRef containerRef, rule.2 row) ∧
        Normalizes row event := by
  constructor
  · exact checkRow_ok
  · rintro ⟨hrules, hevent⟩
    cases hcheck : checkRow knowledgeCutoff shipmentRef containerRef row with
    | error issue => exact absurd (checkRow_error hcheck) (not_firstBroken hrules issue)
    | ok event' => rw [normalizes_unique (checkRow_ok hcheck).2 hevent]

theorem rules_of_isSome {row : RawEventRow}
    (h : (checkRow knowledgeCutoff shipmentRef containerRef row).toOption.isSome = true) :
    ∀ rule ∈ rules knowledgeCutoff shipmentRef containerRef, rule.2 row := by
  cases hcheck : checkRow knowledgeCutoff shipmentRef containerRef row with
  | error issue =>
      rw [hcheck] at h
      exact absurd h (by simp [Except.toOption])
  | ok event => exact (checkRow_ok hcheck).1

theorem checkRow_error_iff {row : RawEventRow} {issue : EventIssue} :
    checkRow knowledgeCutoff shipmentRef containerRef row = .error issue ↔
      FirstBroken (rules knowledgeCutoff shipmentRef containerRef) issue row := by
  constructor
  · exact checkRow_error
  · intro hbroken
    cases hcheck : checkRow knowledgeCutoff shipmentRef containerRef row with
    | error issue' => rw [firstBroken_unique (checkRow_error hcheck) hbroken]
    | ok event => exact absurd hbroken (not_firstBroken (checkRow_ok hcheck).1 issue)

theorem not_firstBroken_duplicate (row : RawEventRow) :
    ¬FirstBroken (rules knowledgeCutoff shipmentRef containerRef) .eventDuplicate row := by
  rintro ⟨before, rule, after, heq, _⟩
  have hmem : (EventIssue.eventDuplicate, rule) ∈
      rules knowledgeCutoff shipmentRef containerRef := by
    rw [heq]
    exact List.mem_append_right _ List.mem_cons_self
  simp [rules] at hmem

/-- An earlier row that passes has a key when an earlier row that is accepted has it. -/
theorem mem_passedKeys_take {rows : List RawEventRow} {i : Nat} {k : String × String} :
    k ∈ rowKeys knowledgeCutoff shipmentRef containerRef (rows.take i) ↔
      ∃ j < i, ∃ earlier, (verdicts knowledgeCutoff shipmentRef containerRef rows)[j]? =
        some (.ok earlier) ∧ dedupeKey earlier = k := by
  have hkept : k ∈ (kept (verdicts knowledgeCutoff shipmentRef containerRef (rows.take i))).map
      dedupeKey ∨ k ∈ [] ↔ k ∈ rowKeys knowledgeCutoff shipmentRef containerRef (rows.take i) ∨
        k ∈ [] := mem_kept_screen_keys [] (rows.take i) k
  simp only [List.not_mem_nil, or_false] at hkept
  rw [← hkept, List.mem_map]
  have hearlier : ∀ j < i, (screen (checkRow knowledgeCutoff shipmentRef containerRef) dedupeKey
      .eventDuplicate [] (rows.take i))[j]? =
        (verdicts knowledgeCutoff shipmentRef containerRef rows)[j]? := by
    intro j hj
    rw [getElem?_verdicts, getElem?_screen, List.getElem?_take_of_lt hj, List.take_take,
      Nat.min_eq_left (Nat.le_of_lt hj), List.append_nil]
  constructor
  · rintro ⟨earlier, hmem, hkey⟩
    obtain ⟨j, hget⟩ := List.mem_iff_getElem?.mp (mem_kept.mp hmem)
    have hj : j < i := by
      have hlength := (List.getElem?_eq_some_iff.mp hget).1
      rw [verdicts, length_screen, List.length_take] at hlength
      omega
    exact ⟨j, hj, earlier, (hearlier j hj).symm.trans hget, hkey⟩
  · rintro ⟨j, hj, earlier, hget, hkey⟩
    exact ⟨earlier, mem_kept.mpr (List.mem_iff_getElem?.mpr ⟨j, (hearlier j hj).trans hget⟩), hkey⟩

/-- The outcome of a validation is a partition of the rows.
SOURCE: core/reconstruction.py:170-237 -/
theorem validateEvents_partitions (rows : List RawEventRow) (knowledgeCutoff : Instant)
    (shipmentRef containerRef : String) :
    ∃ judged, Partitions knowledgeCutoff shipmentRef containerRef rows
      (validateEvents rows knowledgeCutoff shipmentRef containerRef) judged := by
  have hverdict : ∀ (i : Nat) row, rows[i]? = some row →
      (verdicts knowledgeCutoff shipmentRef containerRef rows)[i]? =
        some (judge (checkRow knowledgeCutoff shipmentRef containerRef) dedupeKey .eventDuplicate
          (rowKeys knowledgeCutoff shipmentRef containerRef (rows.take i)) row) := by
    intro i row hrow
    rw [getElem?_verdicts, hrow, Option.map_some]
  refine ⟨verdicts knowledgeCutoff shipmentRef containerRef rows, ?_⟩
  rw [validateEvents_eq]
  refine ⟨length_screen [] rows, List.perm_insertionSort _ _, rfl,
    List.pairwise_insertionSort _ _, ?_, ?_, ?_, ?_⟩
  · exact (((List.perm_insertionSort _ _).map dedupeKey).nodup_iff).mpr
      (kept_screen_keys [] rows).1
  · intro i row event hrow hok
    rw [hverdict i row hrow, Option.some_inj, judge_eq_ok] at hok
    exact checkRow_ok hok.1
  · intro i row hrow
    rw [hverdict i row hrow, Option.some_inj]
    unfold judge
    cases hcheck : checkRow knowledgeCutoff shipmentRef containerRef row with
    | error issue =>
        have hbroken := checkRow_error hcheck
        constructor
        · intro heq
          obtain rfl := Except.error.inj heq
          exact absurd hbroken (not_firstBroken_duplicate row)
        · rintro ⟨hrules, _⟩
          exact absurd hbroken (not_firstBroken hrules issue)
    | ok event =>
        obtain ⟨hrules, hevent⟩ := checkRow_ok hcheck
        dsimp only
        constructor
        · intro heq
          split at heq
          · rename_i hmem
            exact ⟨hrules, event, hevent, mem_passedKeys_take.mp hmem⟩
          · exact absurd heq (by simp)
        · rintro ⟨_, event', hevent', hearlier⟩
          rw [normalizes_unique hevent' hevent] at hearlier
          rw [if_pos (mem_passedKeys_take.mpr hearlier)]
  · intro i row issue hrow hissue
    rw [hverdict i row hrow, Option.some_inj, ← checkRow_error_iff]
    unfold judge
    cases hcheck : checkRow knowledgeCutoff shipmentRef containerRef row with
    | error issue' => simp only [Except.error.injEq]
    | ok event =>
        dsimp only
        split
        · simp only [reduceCtorEq, iff_false, Except.error.injEq]
          exact fun heq => hissue heq.symm
        · simp

end Partition

/-! ## Rows of a container -/

/-- A row of the container C1 that passes when its type and its time do. -/
def containerRow (publicRef eventType occurredAt : String) : RawEventRow :=
  { publicRef, eventType, shipmentRef := "C1", containerRef := "C1", sourcePublicRef := "SRC-1"
    sourceVerificationState := "VERIFIED", displayAnchor := "p1"
    provenanceClassification := "RETAINED", occurredAt, recordedAt := "2026-06-20T10:00:00Z" }

/-- The cutoff 2026-07-01T00:00Z. -/
def julyCutoff : Instant := ((Date.mk 2026 7 1 (by decide)).toOrdinal * dayMicros : Nat)

end Tally.Analysis.EventRows
