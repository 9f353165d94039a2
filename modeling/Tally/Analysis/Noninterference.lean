import Tally.Model.Judgment

/-!
# Refused rows never influence a decision

Two lists of candidate rows that differ only in rows the per-row rules refuse are
accepted alike: the refusal touches neither the accepted list nor the
duplicate-detection set. Everything the reconstruction and the judgment compute
is computed from the accepted list, so the boundary, the charged days, the
terminal state and the recommendation agree as well.
-/

set_option autoImplicit false

namespace Tally.Analysis.Noninterference
open Library Library.Calendar Tally.Model

/-! ## Edits of the candidate rows -/

/-- The row fails one of the per-row rules. -/
def Refused (knowledgeCutoff : Instant) (shipmentRef containerRef : String)
    (row : RawEventRow) : Prop :=
  ∃ issue, checkRow knowledgeCutoff shipmentRef containerRef row = .error issue

/-- The second list arises from the first by inserting, deleting and altering
refused rows, at any positions; an altered row is refused before and after. -/
inductive RefusedEdit (refused : RawEventRow → Prop) :
    List RawEventRow → List RawEventRow → Prop
  | done : RefusedEdit refused [] []
  | keep (row : RawEventRow) {rows rows' : List RawEventRow} :
      RefusedEdit refused rows rows' → RefusedEdit refused (row :: rows) (row :: rows')
  | insert (row : RawEventRow) {rows rows' : List RawEventRow} :
      refused row → RefusedEdit refused rows rows' → RefusedEdit refused rows (row :: rows')
  | delete (row : RawEventRow) {rows rows' : List RawEventRow} :
      refused row → RefusedEdit refused rows rows' → RefusedEdit refused (row :: rows) rows'
  | alter (row row' : RawEventRow) {rows rows' : List RawEventRow} :
      refused row → refused row' → RefusedEdit refused rows rows' →
      RefusedEdit refused (row :: rows) (row' :: rows')

/-! ## The validation loop -/

section Loop

variable {knowledgeCutoff : Instant} {shipmentRef containerRef : String}

/-- Two loop states that accept the same events and refuse the same duplicates. -/
def SameAccepted (acc acc' : ValidationState) : Prop :=
  acc.accepted = acc'.accepted ∧ acc.seen = acc'.seen

/-- A refused row changes neither the accepted events nor the seen keys.
SOURCE: core/reconstruction.py:191-213 -/
theorem validateRow_refused {row : RawEventRow}
    (hrow : Refused knowledgeCutoff shipmentRef containerRef row) (acc : ValidationState) :
    SameAccepted (validateRow knowledgeCutoff shipmentRef containerRef acc row) acc := by
  obtain ⟨issue, hissue⟩ := hrow
  unfold validateRow
  rw [hissue]
  exact ⟨rfl, rfl⟩

/-- Any row acts alike on two states that agree on both.
SOURCE: core/reconstruction.py:214-234 -/
theorem validateRow_same {acc acc' : ValidationState} (hacc : SameAccepted acc acc')
    (row : RawEventRow) :
    SameAccepted (validateRow knowledgeCutoff shipmentRef containerRef acc row)
      (validateRow knowledgeCutoff shipmentRef containerRef acc' row) := by
  obtain ⟨haccepted, hseen⟩ := hacc
  unfold validateRow
  cases checkRow knowledgeCutoff shipmentRef containerRef row with
  | error issue => exact ⟨haccepted, hseen⟩
  | ok event =>
      simp only [hseen, haccepted]
      split
      · exact ⟨rfl, rfl⟩
      · exact ⟨rfl, rfl⟩

theorem SameAccepted.trans {a b c : ValidationState} (hab : SameAccepted a b)
    (hbc : SameAccepted b c) : SameAccepted a c :=
  ⟨hab.1.trans hbc.1, hab.2.trans hbc.2⟩

theorem SameAccepted.symm {a b : ValidationState} (hab : SameAccepted a b) : SameAccepted b a :=
  ⟨hab.1.symm, hab.2.symm⟩

/-- The whole loop accepts the same events from both lists: the induction carries
the agreement on the accepted events and the seen keys through every edit.
SOURCE: core/reconstruction.py:191-234 -/
theorem foldl_validateRow_same {rows rows' : List RawEventRow}
    (hedit : RefusedEdit (Refused knowledgeCutoff shipmentRef containerRef) rows rows')
    {acc acc' : ValidationState} (hacc : SameAccepted acc acc') :
    SameAccepted (rows.foldl (validateRow knowledgeCutoff shipmentRef containerRef) acc)
      (rows'.foldl (validateRow knowledgeCutoff shipmentRef containerRef) acc') := by
  induction hedit generalizing acc acc' with
  | done => exact hacc
  | keep row _ ih => exact ih (validateRow_same hacc row)
  | insert row hrow _ ih => exact ih (hacc.trans (validateRow_refused hrow acc').symm)
  | delete row hrow _ ih => exact ih ((validateRow_refused hrow acc).trans hacc)
  | alter row row' hrow hrow' _ ih =>
      exact ih ((validateRow_refused hrow acc).trans
        (hacc.trans (validateRow_refused hrow' acc').symm))

end Loop

/-! ## The chained decision -/

/-- What a list of rows decides: the accepted events, the boundary, the charged
days, the terminal state and the recommendation built from the days. -/
structure Decision where
  accepted : List NormalizedEvent
  boundary : Except PyError (Option ChargeBoundary)
  days : Except PyError (List ChargedDayResult)
  terminalState : Except PyError ReconstructionState
  recommendation : Except PyError Recommendation

/-- The worker's chain of calls over one list of rows: an error of the boundary
stops it. SOURCE: platform/reconstruction_worker.py:133-165,
platform/judgment_worker.py:16-27 -/
def decisionOf [TzDatabase] [Sha256] (rows : List RawEventRow) (knowledgeCutoff : Instant)
    (shipmentRef containerRef tzName : String) (chargeDates : List Date)
    (invoiceRateMinor : Int) (currency : String) (ruleRateMinor : Option Int) : Decision :=
  let validation := validateEvents rows knowledgeCutoff shipmentRef containerRef
  let boundary := resolveChargeBoundary validation.accepted tzName
  let days := boundary.map fun b =>
    adjudicateChargedDays chargeDates invoiceRateMinor currency validation.accepted b
  { accepted := validation.accepted
    boundary
    days
    terminalState := days.map resolveTerminalState
    recommendation := days.bind fun days =>
      resolveRecommendation (dayInputsOf days ruleRateMinor) }

/-- Knowledge-cutoff noninterference: inserting, deleting or altering refused
rows leaves the accepted events, the boundary, the charged days, the terminal
state and the recommendation as they are. SOURCE: core/reconstruction.py:170-408,
core/judgment.py:127-212 -/
theorem decisionOf_refusedEdit [TzDatabase] [Sha256] {rows rows' : List RawEventRow}
    (knowledgeCutoff : Instant) (shipmentRef containerRef tzName : String)
    (chargeDates : List Date) (invoiceRateMinor : Int) (currency : String)
    (ruleRateMinor : Option Int)
    (hedit : RefusedEdit (Refused knowledgeCutoff shipmentRef containerRef) rows rows') :
    decisionOf rows knowledgeCutoff shipmentRef containerRef tzName chargeDates invoiceRateMinor
        currency ruleRateMinor =
      decisionOf rows' knowledgeCutoff shipmentRef containerRef tzName chargeDates invoiceRateMinor
        currency ruleRateMinor := by
  have hstart : SameAccepted ⟨[], [], []⟩ ⟨[], [], []⟩ := ⟨rfl, rfl⟩
  have hloop := foldl_validateRow_same hedit hstart
  have haccepted : (validateEvents rows knowledgeCutoff shipmentRef containerRef).accepted =
      (validateEvents rows' knowledgeCutoff shipmentRef containerRef).accepted := by
    unfold validateEvents
    simp only [hloop.1]
  unfold decisionOf
  simp only [haccepted]

/-- A gate-out row recorded in time. -/
def timelyRow : RawEventRow :=
  { publicRef := "EV-1", eventType := "GATE_OUT", shipmentRef := "C1", containerRef := "C1",
    sourcePublicRef := "SRC-1", sourceVerificationState := "VERIFIED", displayAnchor := "p1",
    provenanceClassification := "RETAINED", occurredAt := "2026-06-03T10:00:00Z",
    recordedAt := "2026-06-04T10:00:00Z" }

/-- The same event recorded after the cutoff: a refused row with an accepted row's
duplicate key. -/
def lateRow : RawEventRow := { timelyRow with recordedAt := "2026-07-04T10:00:00Z" }

/-- The cutoff 2026-06-30T00:00Z. -/
def juneCutoff : Instant := ((Date.mk 2026 6 30 (by decide)).toOrdinal * dayMicros : Nat)

theorem decisionOf_refusedEdit_late :
    @decisionOf ⟨fun _ _ => -25200000000⟩ Sha256.standard [timelyRow] juneCutoff "C1" "C1"
        effectiveTimezone [Date.min] 25000 "USD" (some 15000) =
      @decisionOf ⟨fun _ _ => -25200000000⟩ Sha256.standard [lateRow, timelyRow] juneCutoff "C1" "C1"
        effectiveTimezone [Date.min] 25000 "USD" (some 15000) :=
  @decisionOf_refusedEdit ⟨fun _ _ => -25200000000⟩ Sha256.standard _ _ juneCutoff "C1" "C1"
    effectiveTimezone [Date.min] 25000 "USD" (some 15000)
    (.insert lateRow ⟨.eventAfterKnowledgeCutoff, by decide +kernel⟩ (.keep timelyRow .done))

end Tally.Analysis.Noninterference
