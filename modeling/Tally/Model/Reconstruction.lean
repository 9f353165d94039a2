import Mathlib.Data.List.Sort
import Tally.Library.Calendar
import Tally.Library.Json

/-!
# Sourced reconstruction: the pure rules

The embedding of `core/reconstruction.py`: which returned event rows become
facts, the free-time and gate-out boundary they establish, the state of every
charged day, and the terminal state of the whole reconstruction. The time-zone
database is a parameter.
-/

set_option autoImplicit false

namespace Tally.Model
open Library Library.Calendar

/-! ## Enumerations -/

inductive ReconstructionState where
  | queued | retrievingMemory | assemblingEvents | adjudicatingDays | complete | partialState
  | needsEvidence | blockedMemoryUnavailable | blockedSourceGap | failed
deriving DecidableEq

inductive ShipmentEventType where
  | discharged | available | freeTimeStart | freeTimeEnd | gateOut | terminalAccessSnapshot
deriving DecidableEq

namespace ShipmentEventType

def value : ShipmentEventType → String
  | discharged => "DISCHARGED"
  | available => "AVAILABLE"
  | freeTimeStart => "FREE_TIME_START"
  | freeTimeEnd => "FREE_TIME_END"
  | gateOut => "GATE_OUT"
  | terminalAccessSnapshot => "TERMINAL_ACCESS_SNAPSHOT"

def all : List ShipmentEventType :=
  [discharged, available, freeTimeStart, freeTimeEnd, gateOut, terminalAccessSnapshot]

/-- The member with a given value; `none` outside `ALLOWED_EVENT_TYPES`. -/
def ofValue (text : String) : Option ShipmentEventType := all.find? fun t => t.value == text

end ShipmentEventType

inductive ChargedDayState where
  | unresolved | sourcing | sourceComplete | supported | rateDiscrepancy | operationalException
  | insufficientEvidence | excludedNotChargeable
deriving DecidableEq

inductive CoverageState where
  | presentVerified | missing | unavailable | conflicted | notApplicable
deriving DecidableEq

inductive Chargeability where
  | chargeable | notChargeable | unresolved
deriving DecidableEq

/-- The codes a charged day lists as missing. -/
inductive MissingRequirement where
  | availability | freeTimeEnd | gateOut | terminalAccess | chargeBoundary
deriving DecidableEq

/-- Invoice-level source-coverage requirement classes. -/
inductive CoverageRequirement where
  | invoiceSource | containerIdentity | chargedDates | invoiceRate
  | availability | freeTimeStart | freeTimeEnd | gateOut
deriving DecidableEq

/-- The errors of the language's own date arithmetic and of the value checks. -/
inductive PyError where
  | overflowError
  | attributeError
  | typeError
  | valueError (message : String)
deriving DecidableEq

/-! ## Event rows -/

/-- One row as the reconstruction read returns it, before any validation. -/
structure RawEventRow where
  publicRef : String
  eventType : String
  shipmentRef : String
  containerRef : String
  sourcePublicRef : String
  sourceVerificationState : String
  displayAnchor : String
  provenanceClassification : String
  occurredAt : String
  recordedAt : String
  observedAt : Option String := none
  effectiveFrom : Option String := none
  effectiveTo : Option String := none
  normalizedFacts : List (String × String) := []
deriving DecidableEq

/-- A validated, source-bound event. -/
structure NormalizedEvent where
  publicRef : String
  eventType : ShipmentEventType
  shipmentRef : String
  containerRef : String
  sourcePublicRef : String
  displayAnchor : String
  provenanceClassification : String
  occurredAt : AwareDatetime
  recordedAt : AwareDatetime
  observedAt : Option AwareDatetime
  effectiveFrom : Option Date
  effectiveTo : Option Date
  normalizedFacts : List (String × String)
deriving DecidableEq

inductive EventIssue where
  | eventSourceMissing | eventTypeNotAllowed | eventOwnershipMismatch | eventTimeInvalid
  | eventAfterKnowledgeCutoff | eventDuplicate
deriving DecidableEq

structure EventValidation where
  accepted : List NormalizedEvent
  rejected : List (String × EventIssue)
deriving DecidableEq

def EventValidation.issueCodes (v : EventValidation) : List EventIssue := v.rejected.map Prod.snd

/-! ## Validation of the rows -/

/-- `value.replace("Z", "+00:00")`, then `datetime.fromisoformat`; a malformed or
a naive timestamp is `none`. -/
def parseDt (value : String) : Option AwareDatetime :=
  let text := value.toList.flatMap fun c => if c = 'Z' then "+00:00".toList else [c]
  (AwareDatetime.fromisoformat (String.ofList text)).join

/-- An absent date is no error, a malformed one is. -/
def parseDateField : Option String → Option (Option Date)
  | none => some none
  | some value => (Date.fromisoformat value).map some

/-- An absent or empty timestamp is no error, a malformed one is. -/
def parseDtField : Option String → Option (Option AwareDatetime)
  | none => some none
  | some value => if value = "" then some none else (parseDt value).map some

/-- The rules one row is checked against on its own, in the source's order. -/
def checkRow (knowledgeCutoff : Instant) (shipmentRef containerRef : String) (row : RawEventRow) :
    Except EventIssue NormalizedEvent :=
  if row.sourceVerificationState ≠ "VERIFIED" then .error .eventSourceMissing
  else match ShipmentEventType.ofValue row.eventType with
  | none => .error .eventTypeNotAllowed
  | some eventType =>
    if row.shipmentRef ≠ shipmentRef ∨ row.containerRef ≠ containerRef then
      .error .eventOwnershipMismatch
    else match parseDt row.occurredAt, parseDt row.recordedAt, parseDtField row.observedAt,
        parseDateField row.effectiveFrom, parseDateField row.effectiveTo with
    | some occurred, some recorded, some observed, some effectiveFrom, some effectiveTo =>
      -- no event learned after the invoice arrived
      if recorded.instant > knowledgeCutoff then .error .eventAfterKnowledgeCutoff
      else .ok
        { publicRef := row.publicRef
          eventType
          shipmentRef := row.shipmentRef
          containerRef := row.containerRef
          sourcePublicRef := row.sourcePublicRef
          displayAnchor := row.displayAnchor
          provenanceClassification := row.provenanceClassification
          occurredAt := occurred
          recordedAt := recorded
          observedAt := observed
          effectiveFrom
          effectiveTo
          normalizedFacts := row.normalizedFacts }
    | _, _, _, _, _ => .error .eventTimeInvalid

/-- The two lists and the duplicate-detection set the loop carries. -/
structure ValidationState where
  accepted : List NormalizedEvent
  rejected : List (String × EventIssue)
  seen : List (String × String)

local instance lawfulKey : LawfulBEq (String × String) := inferInstance

def validateRow (knowledgeCutoff : Instant) (shipmentRef containerRef : String)
    (acc : ValidationState) (row : RawEventRow) : ValidationState :=
  match checkRow knowledgeCutoff shipmentRef containerRef row with
  | .error issue => { acc with rejected := acc.rejected ++ [(row.publicRef, issue)] }
  | .ok event =>
    let dedupeKey := (row.eventType, event.occurredAt.isoformat)
    if dedupeKey ∈ acc.seen then
      { acc with rejected := acc.rejected ++ [(row.publicRef, .eventDuplicate)] }
    else
      { acc with accepted := acc.accepted ++ [event], seen := dedupeKey :: acc.seen }

/-- The sort key `(occurred_at, public_ref)`: instants first, then the texts. -/
def NormalizedEvent.sortsBefore (a b : NormalizedEvent) : Prop :=
  a.occurredAt.instant < b.occurredAt.instant ∨
    (a.occurredAt.instant = b.occurredAt.instant ∧ a.publicRef ≤ b.publicRef)

instance : DecidableRel NormalizedEvent.sortsBefore := fun a b =>
  inferInstanceAs (Decidable (a.occurredAt.instant < b.occurredAt.instant ∨
    (a.occurredAt.instant = b.occurredAt.instant ∧ a.publicRef ≤ b.publicRef)))

def validateEvents (rows : List RawEventRow) (knowledgeCutoff : Instant)
    (shipmentRef containerRef : String) : EventValidation :=
  let acc := rows.foldl (validateRow knowledgeCutoff shipmentRef containerRef) ⟨[], [], []⟩
  ⟨acc.accepted.insertionSort NormalizedEvent.sortsBefore, acc.rejected⟩

/-! ## Charge boundary -/

/-- The time-zone database: the UTC offset of a zone at an instant, in
microseconds. -/
class TzDatabase where
  utcOffset : String → Instant → Int

def effectiveTimezone : String := "America/Los_Angeles"

/-- The calendar date of a datetime in a zone. Moving it to UTC and from there to
the zone overflows outside the years 1 to 9999. -/
def localDate [TzDatabase] (value : AwareDatetime) (tzName : String) :
    Except PyError Date :=
  match Instant.date value.instant with
  | none => .error .overflowError
  | some _ =>
    match Instant.date (value.instant + TzDatabase.utcOffset tzName value.instant) with
    | none => .error .overflowError
    | some date => .ok date

structure ChargeBoundary where
  firstChargeableDate : Date
  lastChargeableDate : Date
deriving DecidableEq

def firstOfType (eventType : ShipmentEventType) (events : List NormalizedEvent) :
    Option NormalizedEvent :=
  events.find? fun e => e.eventType = eventType

/-- First chargeable date: the day after free time ends; last: the gate-out date.
No boundary when an event is missing or the dates cross. -/
def resolveChargeBoundary [TzDatabase] (events : List NormalizedEvent)
    (tzName : String) : Except PyError (Option ChargeBoundary) :=
  match firstOfType .freeTimeEnd events, firstOfType .gateOut events with
  | some freeTimeEnd, some gateOut => do
    let freeDate ← localDate freeTimeEnd.occurredAt tzName
    let some first := freeDate.addDays 1 | .error .overflowError
    let last ← localDate gateOut.occurredAt tzName
    if last < first then .ok none else .ok (some ⟨first, last⟩)
  | _, _ => .ok none

/-! ## Charged days -/

structure ChargedDayResult where
  chargeDate : Date
  state : ChargedDayState
  chargeability : Chargeability
  coverageState : CoverageState
  invoiceRateMinor : Int
  currency : String
  eventRefs : List String
  missingRequirements : List MissingRequirement
deriving DecidableEq

def eventsOfType (eventType : ShipmentEventType) (events : List NormalizedEvent) :
    List NormalizedEvent :=
  events.filter fun e => e.eventType = eventType

/-- The date a terminal-access snapshot sources. -/
def snapshotDate (event : NormalizedEvent) : Date :=
  event.effectiveFrom.getD event.occurredAt.date

def boundaryRefs (groups : List (List NormalizedEvent)) : List String :=
  groups.flatMap fun group => group.map NormalizedEvent.publicRef

def adjudicateChargedDay (invoiceRateMinor : Int) (currency : String)
    (events : List NormalizedEvent) (boundary : Option ChargeBoundary) (chargeDate : Date) :
    ChargedDayResult :=
  let availability := eventsOfType .available events
  let freeTimeEnd := eventsOfType .freeTimeEnd events
  let gateOut := eventsOfType .gateOut events
  let snapshots := eventsOfType .terminalAccessSnapshot events
  let accessSnapshot := snapshots.find? fun e => snapshotDate e = chargeDate
  let missing : List MissingRequirement :=
    (if availability.isEmpty then [.availability] else []) ++
    (if freeTimeEnd.isEmpty then [.freeTimeEnd] else []) ++
    (if gateOut.isEmpty then [.gateOut] else []) ++
    -- only once the scenario uses access snapshots at all
    (if !snapshots.isEmpty && accessSnapshot.isNone then [.terminalAccess] else [])
  let refs := boundaryRefs [availability, freeTimeEnd, gateOut]
  match missing, boundary with
  | [], some b =>
    if b.firstChargeableDate ≤ chargeDate ∧ chargeDate ≤ b.lastChargeableDate then
      { chargeDate, state := .sourceComplete, chargeability := .chargeable,
        coverageState := .presentVerified, invoiceRateMinor, currency,
        eventRefs := boundaryRefs [availability, freeTimeEnd, gateOut, accessSnapshot.toList],
        missingRequirements := [] }
    else
      { chargeDate, state := .excludedNotChargeable, chargeability := .notChargeable,
        coverageState := .presentVerified, invoiceRateMinor, currency, eventRefs := refs,
        missingRequirements := [] }
  | missing, _ =>
    { chargeDate, state := .insufficientEvidence, chargeability := .unresolved,
      coverageState := .missing, invoiceRateMinor, currency, eventRefs := refs,
      missingRequirements := if missing.isEmpty then [.chargeBoundary] else missing }

def adjudicateChargedDays (chargeDates : List Date) (invoiceRateMinor : Int) (currency : String)
    (events : List NormalizedEvent) (boundary : Option ChargeBoundary) : List ChargedDayResult :=
  chargeDates.map (adjudicateChargedDay invoiceRateMinor currency events boundary)

/-- COMPLETE only when there are days and every one of them is SOURCE_COMPLETE. -/
def resolveTerminalState (days : List ChargedDayResult) : ReconstructionState :=
  if days.isEmpty then .needsEvidence
  else if days.all fun d => d.state = .sourceComplete then .complete
  else .needsEvidence

/-! ## Coverage and access snapshots -/

def present (flag : Bool) : CoverageState := if flag then .presentVerified else .missing

def classifyCoverage (events : List NormalizedEvent)
    (haveInvoiceSource haveContainerIdentity haveChargedDates haveInvoiceRate : Bool) :
    List (CoverageRequirement × CoverageState) :=
  let seen (eventType : ShipmentEventType) : CoverageState :=
    present (events.any fun e => e.eventType = eventType)
  [(.invoiceSource, present haveInvoiceSource),
   (.containerIdentity, present haveContainerIdentity),
   (.chargedDates, present haveChargedDates),
   (.invoiceRate, present haveInvoiceRate),
   (.availability, seen .available),
   (.freeTimeStart, seen .freeTimeStart),
   (.freeTimeEnd, seen .freeTimeEnd),
   (.gateOut, seen .gateOut)]

structure AccessSnapshotFacts where
  publicRef : String
  containerRef : String
  snapshotDate : Option Date
  exactSourceVerified : Bool
  accessStatus : String
  gateStatus : String
  blockingHold : String
deriving DecidableEq

inductive AccessRefusal where
  | containerMismatch | dateMismatch | sourceVersionUnavailable | sourceIntegrityFailed
deriving DecidableEq

/-- `none` when the snapshot passes, else the first check it fails. -/
def verifyAccessSnapshot (facts : AccessSnapshotFacts) (expectedContainerRef : String)
    (expectedDate : Date) : Option AccessRefusal :=
  if facts.containerRef ≠ expectedContainerRef then some .containerMismatch
  else if facts.snapshotDate ≠ some expectedDate then some .dateMismatch
  else if !facts.exactSourceVerified then some .sourceVersionUnavailable
  else if facts.accessStatus ≠ "AVAILABLE" ∨ facts.gateStatus ≠ "OPEN" ∨
      facts.blockingHold ≠ "NONE" then
    some .sourceIntegrityFailed
  else none

end Tally.Model
