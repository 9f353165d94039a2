import Tally.Library.Pointwise
import Tally.Analysis.DayEvidence

/-!
# Timestamps in another offset

Rewriting a timestamp to the same instant in another UTC offset. The cutoff, the order of the
events and the local dates of the bounds go by the instant. The duplicate key is a text with the
offset in it, and a snapshot that names no day stands for the date written in its timestamp.
-/

set_option autoImplicit false

namespace Tally.Analysis.OffsetRewrites
open Library Library.Calendar Library.Screening Library.Pointwise Tally.Model EventRows
  DayEvidence
open List (Forall₂)

/-! ## Rewritten rows -/

/-- The second text is the first, or an aware timestamp of the same instant. -/
def Rewritten (text text' : String) : Prop :=
  text = text' ∨ ∃ t t', parseDt text = some t ∧ parseDt text' = some t' ∧
    t.instant = t'.instant

/-- The second row is the first with its timestamps rewritten. -/
structure SameRow (row row' : RawEventRow) : Prop where
  rest : { row with occurredAt := row'.occurredAt, recordedAt := row'.recordedAt,
                    observedAt := row'.observedAt } = row'
  occurredAt : Rewritten row.occurredAt row'.occurredAt
  recordedAt : Rewritten row.recordedAt row'.recordedAt
  observedAt : Option.Rel Rewritten row.observedAt row'.observedAt

/-- The second event is the first at the same instants. -/
structure SameEvent (event event' : NormalizedEvent) : Prop where
  rest : { event with occurredAt := event'.occurredAt, recordedAt := event'.recordedAt,
                      observedAt := event'.observedAt } = event'
  occurredAt : event.occurredAt.instant = event'.occurredAt.instant
  recordedAt : event.recordedAt.instant = event'.recordedAt.instant
  observedAt : event.observedAt.map AwareDatetime.instant =
    event'.observedAt.map AwareDatetime.instant

/-- Two verdicts refuse under one code, or accept the same event. -/
inductive SameVerdict : Except EventIssue NormalizedEvent → Except EventIssue NormalizedEvent →
    Prop
  | error (issue : EventIssue) : SameVerdict (.error issue) (.error issue)
  | ok {event event' : NormalizedEvent} (h : SameEvent event event') :
      SameVerdict (.ok event) (.ok event')

/-- What does not read the timestamps reads the same. -/
theorem SameRow.field {β : Type} {row row' : RawEventRow} (h : SameRow row row')
    (f : RawEventRow → β)
    (hf : ∀ r occurredAt recordedAt observedAt,
      f { r with occurredAt, recordedAt, observedAt } = f r) : f row = f row' :=
  (hf row _ _ _).symm.trans (congrArg f h.rest)

theorem SameEvent.field {β : Type} {event event' : NormalizedEvent} (h : SameEvent event event')
    (f : NormalizedEvent → β)
    (hf : ∀ e occurredAt recordedAt observedAt,
      f { e with occurredAt, recordedAt, observedAt } = f e) : f event = f event' :=
  (hf event _ _ _).symm.trans (congrArg f h.rest)

theorem Rewritten.instant {text text' : String} (h : Rewritten text text') :
    (parseDt text).map AwareDatetime.instant = (parseDt text').map AwareDatetime.instant := by
  rcases h with rfl | ⟨t, t', ht, ht', heq⟩
  · rfl
  · rw [ht, ht', Option.map_some, Option.map_some, heq]

theorem isSome_eq_of_map {α β : Type} {f : α → β} {a b : Option α} (h : a.map f = b.map f) :
    a.isSome = b.isSome := by
  have hsome := congrArg Option.isSome h
  rwa [Option.isSome_map, Option.isSome_map] at hsome

/-- An absent or empty observation time is read alike, and so is a rewritten one. -/
theorem parseDtField_same {text text' : Option String} (h : Option.Rel Rewritten text text') :
    (parseDtField text).map (Option.map AwareDatetime.instant) =
      (parseDtField text').map (Option.map AwareDatetime.instant) := by
  have hempty : parseDt "" = none := by decide
  cases h with
  | none => rfl
  | some h =>
      rename_i text text'
      unfold parseDtField
      rcases h with rfl | ⟨t, t', ht, ht', heq⟩
      · rfl
      · have hne : text ≠ "" := by
          rintro rfl
          rw [hempty] at ht
          exact absurd ht (by simp)
        have hne' : text' ≠ "" := by
          rintro rfl
          rw [hempty] at ht'
          exact absurd ht' (by simp)
        dsimp only
        rw [if_neg hne, if_neg hne', ht, ht']
        simp [heq]

section Rows

variable {knowledgeCutoff : Instant} {shipmentRef containerRef : String}

/-- A row keeps a rule when the rewritten row does. -/
theorem rules_same {row row' : RawEventRow} (h : SameRow row row') :
    ∀ rule ∈ rules knowledgeCutoff shipmentRef containerRef, rule.2 row ↔ rule.2 row' := by
  have hoccurred := isSome_eq_of_map h.occurredAt.instant
  have hrecorded := isSome_eq_of_map h.recordedAt.instant
  have hobserved := isSome_eq_of_map (parseDtField_same h.observedAt)
  have hinstant := h.recordedAt.instant
  have hverified : row.sourceVerificationState = row'.sourceVerificationState :=
    h.field RawEventRow.sourceVerificationState fun _ _ _ _ => rfl
  have htype : row.eventType = row'.eventType :=
    h.field RawEventRow.eventType fun _ _ _ _ => rfl
  have hshipment : row.shipmentRef = row'.shipmentRef :=
    h.field RawEventRow.shipmentRef fun _ _ _ _ => rfl
  have hcontainer : row.containerRef = row'.containerRef :=
    h.field RawEventRow.containerRef fun _ _ _ _ => rfl
  have hfrom : row.effectiveFrom = row'.effectiveFrom :=
    h.field RawEventRow.effectiveFrom fun _ _ _ _ => rfl
  have hto : row.effectiveTo = row'.effectiveTo :=
    h.field RawEventRow.effectiveTo fun _ _ _ _ => rfl
  simp only [rules, List.forall_mem_cons, List.not_mem_nil, false_implies, implies_true, and_true]
  refine ⟨by rw [hverified], by rw [htype], by rw [hshipment, hcontainer], ?_, ?_⟩
  · unfold TimesValid
    rw [hoccurred, hrecorded, hobserved, hfrom, hto]
  · constructor
    · intro hcutoff recorded' hrecorded'
      rw [Option.mem_def.mp hrecorded', Option.map_some] at hinstant
      obtain ⟨recorded, hparse, heq⟩ := Option.map_eq_some_iff.mp hinstant
      exact heq ▸ hcutoff recorded hparse
    · intro hcutoff recorded hparse
      rw [Option.mem_def.mp hparse, Option.map_some] at hinstant
      obtain ⟨recorded', hrecorded', heq⟩ := Option.map_eq_some_iff.mp hinstant.symm
      exact heq ▸ hcutoff recorded' hrecorded'

/-- The events of a row and of the rewritten row are the same. -/
theorem sameEvent_of_normalizes {row row' : RawEventRow} (h : SameRow row row')
    {event event' : NormalizedEvent} (he : Normalizes row event) (he' : Normalizes row' event') :
    SameEvent event event' := by
  have hoccurred := h.occurredAt.instant
  have hrecorded := h.recordedAt.instant
  have hobserved := parseDtField_same h.observedAt
  rw [he.occurredAt, he'.occurredAt, Option.map_some, Option.map_some, Option.some_inj] at hoccurred
  rw [he.recordedAt, he'.recordedAt, Option.map_some, Option.map_some, Option.some_inj] at hrecorded
  rw [he.observedAt, he'.observedAt, Option.map_some, Option.map_some, Option.some_inj] at hobserved
  refine ⟨?_, hoccurred, hrecorded, hobserved⟩
  have htype : event.eventType.value = event'.eventType.value := by
    rw [he.eventType, he'.eventType]
    exact h.field RawEventRow.eventType fun _ _ _ _ => rfl
  have hfrom : some event.effectiveFrom = some event'.effectiveFrom := by
    rw [← he.effectiveFrom, ← he'.effectiveFrom]
    exact h.field (fun r => parseDateField r.effectiveFrom) fun _ _ _ _ => rfl
  have hto : some event.effectiveTo = some event'.effectiveTo := by
    rw [← he.effectiveTo, ← he'.effectiveTo]
    exact h.field (fun r => parseDateField r.effectiveTo) fun _ _ _ _ => rfl
  rw [NormalizedEvent.mk.injEq]
  refine ⟨?_, value_injective htype, ?_, ?_, ?_, ?_, ?_, rfl, rfl, rfl, Option.some.inj hfrom,
    Option.some.inj hto, ?_⟩
  · rw [he.publicRef, he'.publicRef]
    exact h.field RawEventRow.publicRef fun _ _ _ _ => rfl
  · rw [he.shipmentRef, he'.shipmentRef]
    exact h.field RawEventRow.shipmentRef fun _ _ _ _ => rfl
  · rw [he.containerRef, he'.containerRef]
    exact h.field RawEventRow.containerRef fun _ _ _ _ => rfl
  · rw [he.sourcePublicRef, he'.sourcePublicRef]
    exact h.field RawEventRow.sourcePublicRef fun _ _ _ _ => rfl
  · rw [he.displayAnchor, he'.displayAnchor]
    exact h.field RawEventRow.displayAnchor fun _ _ _ _ => rfl
  · rw [he.provenance, he'.provenance]
    exact h.field RawEventRow.provenanceClassification fun _ _ _ _ => rfl
  · rw [he.normalizedFacts, he'.normalizedFacts]
    exact h.field RawEventRow.normalizedFacts fun _ _ _ _ => rfl

/-- On its own a row fares as the rewritten row. -/
theorem checkRow_same {row row' : RawEventRow} (h : SameRow row row') :
    SameVerdict (checkRow knowledgeCutoff shipmentRef containerRef row)
      (checkRow knowledgeCutoff shipmentRef containerRef row') := by
  have hrules : ∀ rule ∈ rules knowledgeCutoff shipmentRef containerRef,
      rule.2 row ↔ rule.2 row' := rules_same h
  cases hcheck : checkRow knowledgeCutoff shipmentRef containerRef row with
  | error issue =>
      rw [checkRow_error_iff.mpr ((firstBroken_congr hrules issue).mp (checkRow_error hcheck))]
      exact .error issue
  | ok event =>
      obtain ⟨hkeeps, hevent⟩ := checkRow_ok hcheck
      cases hcheck' : checkRow knowledgeCutoff shipmentRef containerRef row' with
      | error issue =>
          have hbroken := (firstBroken_congr hrules issue).mpr (checkRow_error hcheck')
          exact absurd hbroken (not_firstBroken hkeeps issue)
      | ok event' => exact .ok (sameEvent_of_normalizes h hevent (checkRow_ok hcheck').2)

/-! ## Verdicts -/

/-- The rewriting keeps which of the rows that pass repeat the duplicate key of an earlier row
that passes. -/
def SameDuplicates (knowledgeCutoff : Instant) (shipmentRef containerRef : String)
    (rows rows' : List RawEventRow) : Prop :=
  ∀ (i : Nat) row row' event event', rows[i]? = some row → rows'[i]? = some row' →
    checkRow knowledgeCutoff shipmentRef containerRef row = .ok event →
    checkRow knowledgeCutoff shipmentRef containerRef row' = .ok event' →
      (dedupeKey event ∈ rowKeys knowledgeCutoff shipmentRef containerRef (rows.take i) ↔
        dedupeKey event' ∈ rowKeys knowledgeCutoff shipmentRef containerRef (rows'.take i))

/-- After the same checks a row is judged alike when it is a duplicate before and after. -/
theorem judge_same {row row' : RawEventRow} (h : SameRow row row')
    (earlier earlier' : List (String × String)) :
    SameVerdict
        (judge (checkRow knowledgeCutoff shipmentRef containerRef) dedupeKey .eventDuplicate
          earlier row)
        (judge (checkRow knowledgeCutoff shipmentRef containerRef) dedupeKey .eventDuplicate
          earlier' row') ↔
      ∀ event event', checkRow knowledgeCutoff shipmentRef containerRef row = .ok event →
        checkRow knowledgeCutoff shipmentRef containerRef row' = .ok event' →
          (dedupeKey event ∈ earlier ↔ dedupeKey event' ∈ earlier') := by
  have hsame : SameVerdict (checkRow knowledgeCutoff shipmentRef containerRef row)
      (checkRow knowledgeCutoff shipmentRef containerRef row') := checkRow_same h
  unfold judge
  cases hcheck : checkRow knowledgeCutoff shipmentRef containerRef row with
  | error issue =>
      rw [hcheck] at hsame
      cases hcheck' : checkRow knowledgeCutoff shipmentRef containerRef row' with
      | error issue' =>
          rw [hcheck'] at hsame
          exact iff_of_true hsame fun _ _ hok => absurd hok (by simp)
      | ok event' =>
          rw [hcheck'] at hsame
          exact absurd hsame (by intro h; cases h)
  | ok event =>
      rw [hcheck] at hsame
      cases hcheck' : checkRow knowledgeCutoff shipmentRef containerRef row' with
      | error issue' =>
          rw [hcheck'] at hsame
          exact absurd hsame (by intro h; cases h)
      | ok event' =>
          rw [hcheck'] at hsame
          have hpair : (∀ e e', (Except.ok event : Except EventIssue NormalizedEvent) = .ok e →
              (Except.ok event' : Except EventIssue NormalizedEvent) = .ok e' →
                (dedupeKey e ∈ earlier ↔ dedupeKey e' ∈ earlier')) ↔
              (dedupeKey event ∈ earlier ↔ dedupeKey event' ∈ earlier') := by
            constructor
            · intro hall
              exact hall event event' rfl rfl
            · intro hiff e e' he he'
              obtain rfl := Except.ok.inj he
              obtain rfl := Except.ok.inj he'
              exact hiff
          rw [hpair]
          dsimp only
          by_cases hmem : dedupeKey event ∈ earlier
          · by_cases hmem' : dedupeKey event' ∈ earlier'
            · rw [if_pos hmem, if_pos hmem']
              exact iff_of_true (.error _) (iff_of_true hmem hmem')
            · rw [if_pos hmem, if_neg hmem']
              exact iff_of_false (by intro h; cases h) fun hiff => hmem' (hiff.mp hmem)
          · by_cases hmem' : dedupeKey event' ∈ earlier'
            · rw [if_neg hmem, if_pos hmem']
              exact iff_of_false (by intro h; cases h) fun hiff => hmem (hiff.mpr hmem')
            · rw [if_neg hmem, if_neg hmem']
              exact iff_of_true hsame (iff_of_false hmem hmem')

/-- The rows are judged alike exactly when the duplicates among them stay the same. -/
theorem verdicts_same_iff {rows rows' : List RawEventRow} (h : Forall₂ SameRow rows rows') :
    Forall₂ SameVerdict (verdicts knowledgeCutoff shipmentRef containerRef rows)
        (verdicts knowledgeCutoff shipmentRef containerRef rows') ↔
      SameDuplicates knowledgeCutoff shipmentRef containerRef rows rows' := by
  obtain ⟨hlength, hrows⟩ := forall₂_iff_getElem?.mp h
  have hverdicts : (verdicts knowledgeCutoff shipmentRef containerRef rows).length =
      (verdicts knowledgeCutoff shipmentRef containerRef rows').length := by
    unfold verdicts
    rw [length_screen, length_screen, hlength]
  rw [forall₂_iff_getElem?, and_iff_right hverdicts]
  constructor
  · intro hsame i row row' event event' hrow hrow' hok hok'
    refine (judge_same (hrows i row row' hrow hrow') _ _).mp (hsame i _ _ ?_ ?_) event event' hok hok'
    · rw [getElem?_verdicts, hrow, Option.map_some]
    · rw [getElem?_verdicts, hrow', Option.map_some]
  · intro hduplicates i verdict verdict' hverdict hverdict'
    rw [getElem?_verdicts] at hverdict hverdict'
    obtain ⟨row, hrow, rfl⟩ := Option.map_eq_some_iff.mp hverdict
    obtain ⟨row', hrow', rfl⟩ := Option.map_eq_some_iff.mp hverdict'
    exact (judge_same (hrows i row row' hrow hrow') _ _).mpr fun event event' =>
      hduplicates i row row' event event' hrow hrow'

end Rows

/-! ## Outcomes of the same verdicts -/

theorem kept_same {judged judged' : List (Except EventIssue NormalizedEvent)}
    (h : Forall₂ SameVerdict judged judged') : Forall₂ SameEvent (kept judged) (kept judged') := by
  induction h with
  | nil => exact .nil
  | cons hab _ ih =>
      cases hab with
      | error issue =>
          rw [kept_cons_error, kept_cons_error]
          exact ih
      | ok hevent =>
          rw [kept_cons_ok, kept_cons_ok]
          exact .cons hevent ih

/-- The same refusals leave the same entries. -/
theorem refusals_same {rows rows' : List RawEventRow} (hrows : Forall₂ SameRow rows rows')
    {judged judged' : List (Except EventIssue NormalizedEvent)}
    (h : Forall₂ SameVerdict judged judged') :
    (rows.zip judged).filterMap refusal = (rows'.zip judged').filterMap refusal := by
  induction hrows generalizing judged judged' with
  | nil => rfl
  | @cons row row' rows rows' hrow _ ih =>
      cases h with
      | nil => rfl
      | cons hab htail =>
          cases hab with
          | error issue =>
              have href : row.publicRef = row'.publicRef :=
                hrow.field RawEventRow.publicRef fun _ _ _ _ => rfl
              rw [refusals_error, refusals_error, ih htail, href]
          | ok hevent =>
              rw [refusals_ok, refusals_ok]
              exact ih htail

theorem SameEvent.publicRef_eq {event event' : NormalizedEvent} (h : SameEvent event event') :
    event.publicRef = event'.publicRef :=
  h.field NormalizedEvent.publicRef fun _ _ _ _ => rfl

theorem SameEvent.eventType_eq {event event' : NormalizedEvent} (h : SameEvent event event') :
    event.eventType = event'.eventType :=
  h.field NormalizedEvent.eventType fun _ _ _ _ => rfl

/-- The order goes by the instant. -/
theorem sortsBefore_same {a a' b b' : NormalizedEvent} (h : SameEvent a b) (h' : SameEvent a' b') :
    a.sortsBefore a' ↔ b.sortsBefore b' := by
  unfold NormalizedEvent.sortsBefore
  rw [h.occurredAt, h'.occurredAt, h.publicRef_eq, h'.publicRef_eq]

theorem accepted_same {knowledgeCutoff : Instant} {shipmentRef containerRef : String}
    {rows rows' : List RawEventRow}
    (h : Forall₂ SameVerdict (verdicts knowledgeCutoff shipmentRef containerRef rows)
      (verdicts knowledgeCutoff shipmentRef containerRef rows')) :
    Forall₂ SameEvent (validateEvents rows knowledgeCutoff shipmentRef containerRef).accepted
      (validateEvents rows' knowledgeCutoff shipmentRef containerRef).accepted := by
  rw [validateEvents_eq, validateEvents_eq]
  refine forall₂_insertionSort (R := SameEvent) ?_ (kept_same h)
  intro a a' b b' hab hab'
  exact sortsBefore_same hab hab'

/-! ## The boundary and the charged days -/

section Events

variable {events events' : List NormalizedEvent}

theorem eventsOfType_same (h : Forall₂ SameEvent events events') (eventType : ShipmentEventType) :
    Forall₂ SameEvent (eventsOfType eventType events) (eventsOfType eventType events') :=
  forall₂_filter (fun a b hab => by rw [hab.eventType_eq]) h

theorem refs_same (h : Forall₂ SameEvent events events') (eventType : ShipmentEventType) :
    (eventsOfType eventType events).map NormalizedEvent.publicRef =
      (eventsOfType eventType events').map NormalizedEvent.publicRef :=
  map_eq_of_forall₂ (fun _ _ hab => hab.publicRef_eq) (eventsOfType_same h eventType)

theorem isEmpty_same (h : Forall₂ SameEvent events events') (eventType : ShipmentEventType) :
    (eventsOfType eventType events).isEmpty = (eventsOfType eventType events').isEmpty := by
  have hsame := eventsOfType_same h eventType
  cases hevents : eventsOfType eventType events with
  | nil =>
      rw [hevents, List.forall₂_nil_left_iff] at hsame
      rw [hsame]
  | cons e rest =>
      rw [hevents] at hsame
      obtain ⟨e', rest', _, _, heq⟩ := List.forall₂_cons_left_iff.mp hsame
      rw [heq]
      rfl

/-- A local date is one of an instant. -/
theorem localDate_same [TzDatabase] {a b : AwareDatetime} (h : a.instant = b.instant)
    (tzName : String) : localDate a tzName = localDate b tzName := by
  unfold localDate
  rw [h]

/-- The boundary goes by the instants. -/
theorem resolveChargeBoundary_same [TzDatabase] (h : Forall₂ SameEvent events events')
    (tzName : String) : resolveChargeBoundary events tzName = resolveChargeBoundary events' tzName := by
  have hfirst (eventType : ShipmentEventType) :
      Option.Rel SameEvent (firstOfType eventType events) (firstOfType eventType events') :=
    rel_find? (fun a b hab => by rw [hab.eventType_eq]) h
  have hfree := hfirst .freeTimeEnd
  have hgate := hfirst .gateOut
  unfold resolveChargeBoundary
  generalize firstOfType .freeTimeEnd events = free at hfree ⊢
  generalize firstOfType .freeTimeEnd events' = free' at hfree ⊢
  generalize firstOfType .gateOut events = gate at hgate ⊢
  generalize firstOfType .gateOut events' = gate' at hgate ⊢
  cases hfree with
  | none => rfl
  | some hfree =>
      cases hgate with
      | none => rfl
      | some hgate =>
          dsimp only
          rw [localDate_same hfree.occurredAt, localDate_same hgate.occurredAt]

theorem absentCodes_same (h : Forall₂ SameEvent events events') {chargeDate : Date}
    (haccess : AccessOn events chargeDate ↔ AccessOn events' chargeDate) :
    absentCodes events chargeDate = absentCodes events' chargeDate := by
  have hnone : (snapshotOn events chargeDate).isNone = (snapshotOn events' chargeDate).isNone := by
    rw [Bool.eq_iff_iff, snapshotOn_isNone, snapshotOn_isNone, haccess]
  unfold absentCodes
  rw [isEmpty_same h, isEmpty_same h, isEmpty_same h, isEmpty_same h, hnone]

/-- Under every boundary a day has the same result, exactly when it has a snapshot before and
after, and one of the same reference if it lacks nothing. -/
theorem adjudicateChargedDay_same_iff (h : Forall₂ SameEvent events events') (chargeDate : Date)
    (invoiceRateMinor : Int) (currency : String) :
    (∀ boundary, adjudicateChargedDay invoiceRateMinor currency events boundary chargeDate =
        adjudicateChargedDay invoiceRateMinor currency events' boundary chargeDate) ↔
      (AccessOn events chargeDate ↔ AccessOn events' chargeDate) ∧
        ((∀ m, ¬Absent events chargeDate m) →
          (snapshotOn events chargeDate).map NormalizedEvent.publicRef =
            (snapshotOn events' chargeDate).map NormalizedEvent.publicRef) := by
  have hrefs (tail tail' : List NormalizedEvent) :
      boundaryRefs [eventsOfType .available events, eventsOfType .freeTimeEnd events,
          eventsOfType .gateOut events, tail] =
        boundaryRefs [eventsOfType .available events', eventsOfType .freeTimeEnd events',
          eventsOfType .gateOut events', tail'] ↔
        tail.map NormalizedEvent.publicRef = tail'.map NormalizedEvent.publicRef := by
    simp only [boundaryRefs, List.flatMap_cons, List.flatMap_nil, List.append_nil, refs_same h,
      List.append_cancel_left_eq]
  have hsnapshot : (snapshotOn events chargeDate).toList.map NormalizedEvent.publicRef =
        (snapshotOn events' chargeDate).toList.map NormalizedEvent.publicRef ↔
      (snapshotOn events chargeDate).map NormalizedEvent.publicRef =
        (snapshotOn events' chargeDate).map NormalizedEvent.publicRef := by
    cases snapshotOn events chargeDate with
    | none =>
        cases snapshotOn events' chargeDate with
        | none => simp
        | some e' => simp
    | some e =>
        cases snapshotOn events' chargeDate with
        | none => simp
        | some e' => simp
  have hday : (⟨chargeDate, chargeDate⟩ : ChargeBoundary).firstChargeableDate ≤ chargeDate ∧
      chargeDate ≤ (⟨chargeDate, chargeDate⟩ : ChargeBoundary).lastChargeableDate :=
    ⟨le_refl _, le_refl _⟩
  constructor
  · intro hsame
    have haccess : AccessOn events chargeDate ↔ AccessOn events' chargeDate := by
      have hmissing := congrArg (fun day => .terminalAccess ∈ day.missingRequirements) (hsame none)
      simp only [mem_missingRequirements, Absent, reduceCtorEq, false_and, or_false, eq_iff_iff]
        at hmissing
      have hused : Has .terminalAccessSnapshot events ↔ Has .terminalAccessSnapshot events' := by
        rw [← not_iff_not, ← isEmpty_eventsOfType, ← isEmpty_eventsOfType, isEmpty_same h]
      have hhas (xs : List NormalizedEvent) (hx : AccessOn xs chargeDate) :
          Has .terminalAccessSnapshot xs := by
        obtain ⟨e, hmem, htype, _⟩ := hx
        exact ⟨e, hmem, htype⟩
      constructor
      · intro hon
        by_contra hoff
        exact (hmissing.mpr ⟨hused.mp (hhas events hon), hoff⟩).2 hon
      · intro hon
        by_contra hoff
        exact (hmissing.mp ⟨hused.mpr (hhas events' hon), hoff⟩).2 hon
    refine ⟨haccess, fun hnothing => ?_⟩
    have hnil := absentCodes_eq_nil.mpr hnothing
    have hnil' : absentCodes events' chargeDate = [] := absentCodes_same h haccess ▸ hnil
    have hboth := congrArg ChargedDayResult.eventRefs (hsame (some ⟨chargeDate, chargeDate⟩))
    rw [adjudicateChargedDay_eq, adjudicateChargedDay_eq, hnil, hnil'] at hboth
    dsimp only at hboth
    rw [if_pos hday, if_pos hday] at hboth
    exact hsnapshot.mp ((hrefs _ _).mp hboth)
  · rintro ⟨haccess, hleading⟩ boundary
    have hbounds : boundaryRefs [eventsOfType .available events, eventsOfType .freeTimeEnd events,
          eventsOfType .gateOut events] =
        boundaryRefs [eventsOfType .available events', eventsOfType .freeTimeEnd events',
          eventsOfType .gateOut events'] := by
      simp only [boundaryRefs, List.flatMap_cons, List.flatMap_nil, refs_same h]
    rw [adjudicateChargedDay_eq, adjudicateChargedDay_eq, ← absentCodes_same h haccess, hbounds]
    cases hcodes : absentCodes events chargeDate with
    | nil =>
        have htail := (hrefs (snapshotOn events chargeDate).toList _).mpr
          (hsnapshot.mpr (hleading (absentCodes_eq_nil.mp hcodes)))
        rw [htail]
    | cons m ms => rfl

end Events

/-! ## What a rewriting changes -/

section Changes

variable {knowledgeCutoff : Instant} {shipmentRef containerRef : String}

/-- The reference of the snapshot that stands for a day: the first of its snapshots. -/
def LeadingRef (knowledgeCutoff : Instant) (shipmentRef containerRef : String)
    (rows : List RawEventRow) (chargeDate : Date) (ref : String) : Prop :=
  ∃ event, SnapshotEvent knowledgeCutoff shipmentRef containerRef rows chargeDate event ∧
    event.publicRef = ref ∧
    ∀ other, SnapshotEvent knowledgeCutoff shipmentRef containerRef rows chargeDate other →
      event.sortsBefore other

theorem sortsBefore_refl (event : NormalizedEvent) : event.sortsBefore event :=
  Or.inr ⟨rfl, le_refl _⟩

theorem publicRef_of_sortsBefore {a b : NormalizedEvent} (hab : a.sortsBefore b)
    (hba : b.sortsBefore a) : a.publicRef = b.publicRef := by
  rcases hab with hlt | ⟨_, hle⟩
  · rcases hba with hlt' | ⟨heq, _⟩
    · exact absurd (lt_trans hlt hlt') (lt_irrefl _)
    · exact absurd heq (ne_of_gt hlt)
  · rcases hba with hlt' | ⟨_, hle'⟩
    · rename_i heq
      exact absurd heq (ne_of_gt hlt')
    · exact le_antisymm hle hle'

/-- The snapshot found among the accepted events is the leading one. -/
theorem snapshotOn_accepted {rows : List RawEventRow} {chargeDate : Date} {ref : String} :
    (snapshotOn (validateEvents rows knowledgeCutoff shipmentRef containerRef).accepted
        chargeDate).map NormalizedEvent.publicRef = some ref ↔
      LeadingRef knowledgeCutoff shipmentRef containerRef rows chargeDate ref := by
  have hmem (event : NormalizedEvent) :
      event ∈ eventsOfType .terminalAccessSnapshot
          (validateEvents rows knowledgeCutoff shipmentRef containerRef).accepted ∧
        decide (snapshotDate event = chargeDate) = true ↔
      SnapshotEvent knowledgeCutoff shipmentRef containerRef rows chargeDate event := by
    rw [← mem_accepted_snapshot]
    unfold eventsOfType
    rw [List.mem_filter, decide_eq_true_eq, decide_eq_true_eq, and_assoc]
  have hsorted : (eventsOfType .terminalAccessSnapshot (validateEvents rows knowledgeCutoff
      shipmentRef containerRef).accepted).Pairwise NormalizedEvent.sortsBefore := by
    rw [validateEvents_eq]
    exact (List.pairwise_insertionSort _ _).filter _
  have hfirst {event : NormalizedEvent} (hfind : snapshotOn (validateEvents rows knowledgeCutoff
      shipmentRef containerRef).accepted chargeDate = some event) :
      SnapshotEvent knowledgeCutoff shipmentRef containerRef rows chargeDate event ∧
        ∀ other, SnapshotEvent knowledgeCutoff shipmentRef containerRef rows chargeDate other →
          event.sortsBefore other := by
    have hdate := List.find?_some (p := fun e => decide (snapshotDate e = chargeDate)) hfind
    refine ⟨(hmem event).mp ⟨List.mem_of_find?_eq_some hfind, hdate⟩, ?_⟩
    intro other hother
    obtain ⟨hin, hdate⟩ := (hmem other).mpr hother
    exact find?_sorted sortsBefore_refl hsorted hfind other hin hdate
  constructor
  · intro hfound
    obtain ⟨event, hfind, href⟩ := Option.map_eq_some_iff.mp hfound
    exact ⟨event, (hfirst hfind).1, href, (hfirst hfind).2⟩
  · rintro ⟨event, hsnapshot, href, hleads⟩
    have hsome : (snapshotOn (validateEvents rows knowledgeCutoff shipmentRef containerRef).accepted
        chargeDate).isSome := by
      obtain ⟨hin, hdate⟩ := (hmem event).mpr hsnapshot
      exact List.find?_isSome.mpr ⟨event, hin, hdate⟩
    obtain ⟨event', hfind⟩ := Option.isSome_iff_exists.mp hsome
    obtain ⟨hsnapshot', hleads'⟩ := hfirst hfind
    rw [hfind, Option.map_some, ← href,
      publicRef_of_sortsBefore (hleads' event hsnapshot) (hleads event' hsnapshot')]

/-- The outcome of the rewritten rows is that of the rows: each row is judged alike, the
boundary is the same, and so is the result of every charged day under every boundary. -/
structure Unchanged [TzDatabase] (knowledgeCutoff : Instant)
    (shipmentRef containerRef tzName : String) (chargeDates : List Date) (invoiceRateMinor : Int)
    (currency : String) (rows rows' : List RawEventRow) : Prop where
  verdicts : Forall₂ SameVerdict (verdicts knowledgeCutoff shipmentRef containerRef rows)
    (verdicts knowledgeCutoff shipmentRef containerRef rows')
  rejected : (validateEvents rows knowledgeCutoff shipmentRef containerRef).rejected =
    (validateEvents rows' knowledgeCutoff shipmentRef containerRef).rejected
  accepted : Forall₂ SameEvent
    (validateEvents rows knowledgeCutoff shipmentRef containerRef).accepted
    (validateEvents rows' knowledgeCutoff shipmentRef containerRef).accepted
  boundary : resolveChargeBoundary
      (validateEvents rows knowledgeCutoff shipmentRef containerRef).accepted tzName =
    resolveChargeBoundary
      (validateEvents rows' knowledgeCutoff shipmentRef containerRef).accepted tzName
  days : ∀ boundary, adjudicateChargedDays chargeDates invoiceRateMinor currency
      (validateEvents rows knowledgeCutoff shipmentRef containerRef).accepted boundary =
    adjudicateChargedDays chargeDates invoiceRateMinor currency
      (validateEvents rows' knowledgeCutoff shipmentRef containerRef).accepted boundary

/-- The rewriting keeps which of the charged days have a snapshot, and which one stands for a
day that lacks nothing. -/
def SameSnapshots (knowledgeCutoff : Instant) (shipmentRef containerRef : String)
    (chargeDates : List Date) (rows rows' : List RawEventRow) : Prop :=
  ∀ chargeDate ∈ chargeDates,
    ((∃ event, SnapshotEvent knowledgeCutoff shipmentRef containerRef rows chargeDate event) ↔
      ∃ event, SnapshotEvent knowledgeCutoff shipmentRef containerRef rows' chargeDate event) ∧
    ((∀ m, ¬Absent (validateEvents rows knowledgeCutoff shipmentRef containerRef).accepted
        chargeDate m) →
      ∀ ref, LeadingRef knowledgeCutoff shipmentRef containerRef rows chargeDate ref ↔
        LeadingRef knowledgeCutoff shipmentRef containerRef rows' chargeDate ref)

/-- Rewriting the timestamps changes nothing exactly when it keeps the duplicates among the rows
and the snapshots of the charged days. SOURCE: core/reconstruction.py:200-217,248-408 -/
theorem unchanged_iff [TzDatabase] (knowledgeCutoff : Instant)
    (shipmentRef containerRef tzName : String) (chargeDates : List Date) (invoiceRateMinor : Int)
    (currency : String) (rows rows' : List RawEventRow) (h : Forall₂ SameRow rows rows') :
    Unchanged knowledgeCutoff shipmentRef containerRef tzName chargeDates invoiceRateMinor currency
        rows rows' ↔
      SameDuplicates knowledgeCutoff shipmentRef containerRef rows rows' ∧
        SameSnapshots knowledgeCutoff shipmentRef containerRef chargeDates rows rows' := by
  have hdays (hevents : Forall₂ SameEvent
      (validateEvents rows knowledgeCutoff shipmentRef containerRef).accepted
      (validateEvents rows' knowledgeCutoff shipmentRef containerRef).accepted) :
      (∀ boundary, adjudicateChargedDays chargeDates invoiceRateMinor currency
          (validateEvents rows knowledgeCutoff shipmentRef containerRef).accepted boundary =
        adjudicateChargedDays chargeDates invoiceRateMinor currency
          (validateEvents rows' knowledgeCutoff shipmentRef containerRef).accepted boundary) ↔
      SameSnapshots knowledgeCutoff shipmentRef containerRef chargeDates rows rows' := by
    have hday (chargeDate : Date) := adjudicateChargedDay_same_iff hevents chargeDate
      invoiceRateMinor currency
    have hrefs (chargeDate : Date) : (snapshotOn (validateEvents rows knowledgeCutoff shipmentRef
          containerRef).accepted chargeDate).map NormalizedEvent.publicRef =
        (snapshotOn (validateEvents rows' knowledgeCutoff shipmentRef
          containerRef).accepted chargeDate).map NormalizedEvent.publicRef ↔
        ∀ ref, LeadingRef knowledgeCutoff shipmentRef containerRef rows chargeDate ref ↔
          LeadingRef knowledgeCutoff shipmentRef containerRef rows' chargeDate ref := by
      simp only [← snapshotOn_accepted]
      constructor
      · intro heq ref
        rw [heq]
      · intro hall
        exact Option.ext hall
    unfold SameSnapshots
    simp only [← accessOn_accepted, ← hrefs, ← hday]
    constructor
    · intro hall chargeDate hdate boundary
      exact List.map_inj_left.mp (hall boundary) chargeDate hdate
    · intro hall boundary
      exact List.map_congr_left fun chargeDate hdate => hall chargeDate hdate boundary
  constructor
  · intro hsame
    exact ⟨(verdicts_same_iff h).mp hsame.verdicts, (hdays hsame.accepted).mp hsame.days⟩
  · rintro ⟨hduplicates, hsnapshots⟩
    have hverdicts := (verdicts_same_iff h).mpr hduplicates
    have hevents := accepted_same hverdicts
    refine ⟨hverdicts, ?_, hevents, resolveChargeBoundary_same hevents tzName,
      (hdays hevents).mpr hsnapshots⟩
    rw [validateEvents_eq, validateEvents_eq]
    exact refusals_same h hverdicts

end Changes

section Case

/-- Pacific daylight time. -/
local instance pacificTime : TzDatabase := ⟨fun _ _ => -25200000000⟩

/-- Two gate-outs of one text. -/
def repeatedRows : List RawEventRow :=
  [containerRow "E1" "GATE_OUT" "2026-06-12T18:00:00Z",
   containerRow "E2" "GATE_OUT" "2026-06-12T18:00:00Z"]

/-- The second one in another offset. -/
def rewrittenRows : List RawEventRow :=
  [containerRow "E1" "GATE_OUT" "2026-06-12T18:00:00Z",
   containerRow "E2" "GATE_OUT" "2026-06-12T20:00:00+02:00"]

theorem rewritten_gateOut :
    Rewritten "2026-06-12T18:00:00Z" "2026-06-12T20:00:00+02:00" := by
  have hsome : (parseDt "2026-06-12T18:00:00Z").isSome = true := by decide +kernel
  have hsame : (parseDt "2026-06-12T18:00:00Z").map AwareDatetime.instant =
      (parseDt "2026-06-12T20:00:00+02:00").map AwareDatetime.instant := by
    decide +kernel
  obtain ⟨t, ht⟩ := Option.isSome_iff_exists.mp hsome
  rw [ht, Option.map_some] at hsame
  obtain ⟨t', ht', heq⟩ := Option.map_eq_some_iff.mp hsame.symm
  exact Or.inr ⟨t, t', ht, ht', heq.symm⟩

theorem rewrittenRows_same : Forall₂ SameRow repeatedRows rewrittenRows := by
  refine .cons ⟨rfl, Or.inl rfl, Or.inl rfl, .none⟩ (.cons ⟨rfl, ?_, Or.inl rfl, .none⟩ .nil)
  exact rewritten_gateOut

theorem unchanged_iff_rewritten :
    Unchanged julyCutoff "C1" "C1" effectiveTimezone [Date.min] 30000 "USD" repeatedRows
        rewrittenRows ↔
      SameDuplicates julyCutoff "C1" "C1" repeatedRows rewrittenRows ∧
        SameSnapshots julyCutoff "C1" "C1" [Date.min] repeatedRows rewrittenRows :=
  unchanged_iff julyCutoff "C1" "C1" effectiveTimezone [Date.min] 30000 "USD" repeatedRows
    rewrittenRows rewrittenRows_same

/-- The second gate-out is a duplicate before it is rewritten, and accepted after. -/
theorem rewritten_accepted : Forall₂ SameRow repeatedRows rewrittenRows ∧
    ¬Unchanged julyCutoff "C1" "C1" effectiveTimezone [Date.min] 30000 "USD" repeatedRows
      rewrittenRows := by
  refine ⟨rewrittenRows_same, fun hsame => ?_⟩
  have hrejected := hsame.rejected
  revert hrejected
  decide +kernel

end Case

end Tally.Analysis.OffsetRewrites
