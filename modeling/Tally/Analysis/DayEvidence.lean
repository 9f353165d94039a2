import Tally.Analysis.EventRows

/-!
# The evidence of a charged day

What the state and the missing requirements of a charged day say about the events, with the
boundary the same events establish. The boundary is taken from the first free-time end and the
first gate-out, so a second one of another date goes unnoticed; and an access snapshot counts
for its day only if the screening of the rows let it through.
-/

set_option autoImplicit false

namespace Tally.Analysis.DayEvidence
open Library Library.Calendar Library.Screening Tally.Model EventRows

/-! ## Requirements -/

/-- Some event has the type. -/
def Has (eventType : ShipmentEventType) (events : List NormalizedEvent) : Prop :=
  ∃ e ∈ events, e.eventType = eventType

/-- Some access snapshot stands for the day. -/
def AccessOn (events : List NormalizedEvent) (chargeDate : Date) : Prop :=
  ∃ e ∈ events, e.eventType = .terminalAccessSnapshot ∧ snapshotDate e = chargeDate

/-- A day lacks a requirement. The access to the terminal is one only where there are access
snapshots at all. -/
def Absent (events : List NormalizedEvent) (chargeDate : Date) : MissingRequirement → Prop
  | .availability => ¬Has .available events
  | .freeTimeEnd => ¬Has .freeTimeEnd events
  | .gateOut => ¬Has .gateOut events
  | .terminalAccess => Has .terminalAccessSnapshot events ∧ ¬AccessOn events chargeDate
  | .chargeBoundary => False

/-- The day lies between the day after the local date of the first free-time end and the local
date of the first gate-out. -/
def InWindow [TzDatabase] (events : List NormalizedEvent) (tzName : String) (chargeDate : Date) :
    Prop :=
  ∃ freeTimeEnd gateOut freeDate first last,
    firstOfType .freeTimeEnd events = some freeTimeEnd ∧
    firstOfType .gateOut events = some gateOut ∧
    localDate freeTimeEnd.occurredAt tzName = .ok freeDate ∧ freeDate.addDays 1 = some first ∧
    localDate gateOut.occurredAt tzName = .ok last ∧ first ≤ chargeDate ∧ chargeDate ≤ last

variable {events : List NormalizedEvent} {chargeDate : Date}

theorem isEmpty_eventsOfType {eventType : ShipmentEventType} :
    (eventsOfType eventType events).isEmpty = true ↔ ¬Has eventType events := by
  unfold eventsOfType Has
  rw [List.isEmpty_iff, List.filter_eq_nil_iff]
  simp only [decide_eq_true_eq, not_exists, not_and]

/-- The first access snapshot that stands for a day. -/
def snapshotOn (events : List NormalizedEvent) (chargeDate : Date) : Option NormalizedEvent :=
  (eventsOfType .terminalAccessSnapshot events).find? fun e => snapshotDate e = chargeDate

theorem snapshotOn_isNone :
    (snapshotOn events chargeDate).isNone = true ↔ ¬AccessOn events chargeDate := by
  unfold snapshotOn eventsOfType AccessOn
  rw [Option.isNone_iff_eq_none, List.find?_eq_none]
  simp only [List.mem_filter, decide_eq_true_eq, not_exists, not_and, and_imp]

/-- The codes a day lists before the boundary is looked at. -/
def absentCodes (events : List NormalizedEvent) (chargeDate : Date) : List MissingRequirement :=
  (if (eventsOfType .available events).isEmpty then [.availability] else []) ++
  (if (eventsOfType .freeTimeEnd events).isEmpty then [.freeTimeEnd] else []) ++
  (if (eventsOfType .gateOut events).isEmpty then [.gateOut] else []) ++
  (if !(eventsOfType .terminalAccessSnapshot events).isEmpty &&
      (snapshotOn events chargeDate).isNone then [.terminalAccess] else [])

theorem mem_absentCodes {m : MissingRequirement} :
    m ∈ absentCodes events chargeDate ↔ Absent events chargeDate m := by
  have hone (p : Prop) [Decidable p] (m' : MissingRequirement) :
      m ∈ (if p then [m'] else []) ↔ p ∧ m = m' := by
    by_cases hp : p
    · rw [if_pos hp, List.mem_singleton]
      exact (and_iff_right hp).symm
    · rw [if_neg hp]
      exact iff_of_false List.not_mem_nil fun h => hp h.1
  have haccess : (!(eventsOfType .terminalAccessSnapshot events).isEmpty &&
      (snapshotOn events chargeDate).isNone) = true ↔
      Has .terminalAccessSnapshot events ∧ ¬AccessOn events chargeDate := by
    rw [Bool.and_eq_true, Bool.not_eq_true', snapshotOn_isNone, ← Bool.not_eq_true,
      isEmpty_eventsOfType, not_not]
  unfold absentCodes
  rw [List.mem_append, List.mem_append, List.mem_append, hone, hone, hone, hone,
    isEmpty_eventsOfType, isEmpty_eventsOfType, isEmpty_eventsOfType, haccess]
  cases m <;> simp [Absent]

theorem nodup_absentCodes (events : List NormalizedEvent) (chargeDate : Date) :
    (absentCodes events chargeDate).Nodup := by
  unfold absentCodes
  generalize (eventsOfType .available events).isEmpty = a
  generalize (eventsOfType .freeTimeEnd events).isEmpty = f
  generalize (eventsOfType .gateOut events).isEmpty = g
  generalize (!(eventsOfType .terminalAccessSnapshot events).isEmpty &&
    (snapshotOn events chargeDate).isNone) = s
  revert a f g s
  decide

theorem absentCodes_eq_nil :
    absentCodes events chargeDate = [] ↔ ∀ m, ¬Absent events chargeDate m := by
  rw [List.eq_nil_iff_forall_not_mem]
  exact forall_congr' fun m => not_congr mem_absentCodes

/-! ## One day -/

section Day

variable (invoiceRateMinor : Int) (currency : String) (boundary : Option ChargeBoundary)

/-- The result of a day, by the codes it lists before the boundary is looked at. -/
theorem adjudicateChargedDay_eq (events : List NormalizedEvent) (chargeDate : Date) :
    adjudicateChargedDay invoiceRateMinor currency events boundary chargeDate =
      match absentCodes events chargeDate, boundary with
      | [], some b =>
        if b.firstChargeableDate ≤ chargeDate ∧ chargeDate ≤ b.lastChargeableDate then
          ⟨chargeDate, .sourceComplete, .chargeable, .presentVerified, invoiceRateMinor, currency,
            boundaryRefs [eventsOfType .available events, eventsOfType .freeTimeEnd events,
              eventsOfType .gateOut events, (snapshotOn events chargeDate).toList], []⟩
        else
          ⟨chargeDate, .excludedNotChargeable, .notChargeable, .presentVerified, invoiceRateMinor,
            currency, boundaryRefs [eventsOfType .available events,
              eventsOfType .freeTimeEnd events, eventsOfType .gateOut events], []⟩
      | missing, _ =>
        ⟨chargeDate, .insufficientEvidence, .unresolved, .missing, invoiceRateMinor, currency,
          boundaryRefs [eventsOfType .available events, eventsOfType .freeTimeEnd events,
            eventsOfType .gateOut events],
          if missing.isEmpty then [.chargeBoundary] else missing⟩ := rfl

/-- A day is complete, excluded or insufficient, by what it lacks and by the boundary. -/
theorem adjudicateChargedDay_cases (events : List NormalizedEvent) (chargeDate : Date) :
    let day := adjudicateChargedDay invoiceRateMinor currency events boundary chargeDate
    day.chargeDate = chargeDate ∧
    ((∃ b, absentCodes events chargeDate = [] ∧ boundary = some b ∧
        (b.firstChargeableDate ≤ chargeDate ∧ chargeDate ≤ b.lastChargeableDate) ∧
        day.state = .sourceComplete ∧ day.missingRequirements = []) ∨
      (∃ b, absentCodes events chargeDate = [] ∧ boundary = some b ∧
        ¬(b.firstChargeableDate ≤ chargeDate ∧ chargeDate ≤ b.lastChargeableDate) ∧
        day.state = .excludedNotChargeable ∧ day.missingRequirements = []) ∨
      ((absentCodes events chargeDate ≠ [] ∨ boundary = none) ∧
        day.state = .insufficientEvidence ∧
        day.missingRequirements =
          if (absentCodes events chargeDate).isEmpty then [.chargeBoundary]
          else absentCodes events chargeDate)) := by
  dsimp only
  rw [adjudicateChargedDay_eq]
  cases hcodes : absentCodes events chargeDate with
  | nil =>
      cases boundary with
      | none => exact ⟨rfl, Or.inr (Or.inr ⟨Or.inr rfl, rfl, rfl⟩)⟩
      | some b =>
          dsimp only
          by_cases hin : b.firstChargeableDate ≤ chargeDate ∧ chargeDate ≤ b.lastChargeableDate
          · rw [if_pos hin]
            exact ⟨rfl, Or.inl ⟨b, rfl, rfl, hin, rfl, rfl⟩⟩
          · rw [if_neg hin]
            exact ⟨rfl, Or.inr (Or.inl ⟨b, rfl, rfl, hin, rfl, rfl⟩)⟩
  | cons m ms => exact ⟨rfl, Or.inr (Or.inr ⟨Or.inl (by simp), rfl, rfl⟩)⟩

theorem state_complete_iff :
    (adjudicateChargedDay invoiceRateMinor currency events boundary chargeDate).state =
        .sourceComplete ↔
      (∀ m, ¬Absent events chargeDate m) ∧ ∃ b, boundary = some b ∧
        b.firstChargeableDate ≤ chargeDate ∧ chargeDate ≤ b.lastChargeableDate := by
  obtain ⟨_, hcases⟩ := adjudicateChargedDay_cases invoiceRateMinor currency boundary events
    chargeDate
  rw [← absentCodes_eq_nil]
  rcases hcases with ⟨b, hnil, hb, hin, hstate, _⟩ | ⟨b, _, hb, hout, hstate, _⟩ |
    ⟨hinsufficient, hstate, _⟩
  · exact iff_of_true hstate ⟨hnil, b, hb, hin⟩
  · refine iff_of_false (by rw [hstate]; decide) ?_
    rintro ⟨_, b', hb', hin⟩
    obtain rfl := Option.some.inj (hb.symm.trans hb')
    exact hout hin
  · refine iff_of_false (by rw [hstate]; decide) ?_
    rintro ⟨hnil, b, hb, _⟩
    rcases hinsufficient with hsome | hnone
    · exact hsome hnil
    · rw [hnone] at hb
      exact absurd hb (by simp)

theorem state_excluded_iff :
    (adjudicateChargedDay invoiceRateMinor currency events boundary chargeDate).state =
        .excludedNotChargeable ↔
      (∀ m, ¬Absent events chargeDate m) ∧ ∃ b, boundary = some b ∧
        ¬(b.firstChargeableDate ≤ chargeDate ∧ chargeDate ≤ b.lastChargeableDate) := by
  obtain ⟨_, hcases⟩ := adjudicateChargedDay_cases invoiceRateMinor currency boundary events
    chargeDate
  rw [← absentCodes_eq_nil]
  rcases hcases with ⟨b, _, hb, hin, hstate, _⟩ | ⟨b, hnil, hb, hout, hstate, _⟩ |
    ⟨hinsufficient, hstate, _⟩
  · refine iff_of_false (by rw [hstate]; decide) ?_
    rintro ⟨_, b', hb', hout⟩
    obtain rfl := Option.some.inj (hb.symm.trans hb')
    exact hout hin
  · exact iff_of_true hstate ⟨hnil, b, hb, hout⟩
  · refine iff_of_false (by rw [hstate]; decide) ?_
    rintro ⟨hnil, b, hb, _⟩
    rcases hinsufficient with hsome | hnone
    · exact hsome hnil
    · rw [hnone] at hb
      exact absurd hb (by simp)

/-- The missing list has what is absent, and the boundary when nothing else is missing. -/
theorem mem_missingRequirements (m : MissingRequirement) :
    m ∈ (adjudicateChargedDay invoiceRateMinor currency events boundary
        chargeDate).missingRequirements ↔
      Absent events chargeDate m ∨
        (m = .chargeBoundary ∧ boundary = none ∧ ∀ m', ¬Absent events chargeDate m') := by
  obtain ⟨_, hcases⟩ := adjudicateChargedDay_cases invoiceRateMinor currency boundary events
    chargeDate
  rw [← absentCodes_eq_nil, ← mem_absentCodes]
  have hsourced (b : ChargeBoundary) (hnil : absentCodes events chargeDate = [])
      (hb : boundary = some b) : ¬(m ∈ absentCodes events chargeDate ∨
        (m = .chargeBoundary ∧ boundary = none ∧ absentCodes events chargeDate = [])) := by
    rw [hnil, hb]
    simp
  rcases hcases with ⟨b, hnil, hb, _, _, hmissing⟩ | ⟨b, hnil, hb, _, _, hmissing⟩ |
    ⟨hinsufficient, _, hmissing⟩
  · rw [hmissing]
    exact iff_of_false List.not_mem_nil (hsourced b hnil hb)
  · rw [hmissing]
    exact iff_of_false List.not_mem_nil (hsourced b hnil hb)
  · rw [hmissing]
    by_cases hnil : absentCodes events chargeDate = []
    · have hnone := hinsufficient.resolve_left (not_not.mpr hnil)
      rw [if_pos (List.isEmpty_iff.mpr hnil), hnil, hnone, List.mem_singleton]
      simp
    · rw [if_neg (mt List.isEmpty_iff.mp hnil)]
      simp [hnil]

theorem nodup_missingRequirements (events : List NormalizedEvent) (chargeDate : Date) :
    (adjudicateChargedDay invoiceRateMinor currency events boundary
      chargeDate).missingRequirements.Nodup := by
  obtain ⟨_, hcases⟩ := adjudicateChargedDay_cases invoiceRateMinor currency boundary events
    chargeDate
  rcases hcases with ⟨_, _, _, _, _, hmissing⟩ | ⟨_, _, _, _, _, hmissing⟩ | ⟨_, _, hmissing⟩
  · rw [hmissing]
    exact List.nodup_nil
  · rw [hmissing]
    exact List.nodup_nil
  · rw [hmissing]
    split
    · exact List.nodup_singleton _
    · exact nodup_absentCodes events chargeDate

end Day

/-! ## The boundary of the events -/

section Boundary

variable [TzDatabase] {tzName : String} {boundary : Option ChargeBoundary}

/-- A boundary is the one of the first free-time end and the first gate-out. -/
theorem resolveChargeBoundary_some {b : ChargeBoundary}
    (h : resolveChargeBoundary events tzName = .ok (some b)) :
    InWindow events tzName chargeDate ↔
      b.firstChargeableDate ≤ chargeDate ∧ chargeDate ≤ b.lastChargeableDate := by
  unfold resolveChargeBoundary at h
  cases hfree : firstOfType .freeTimeEnd events with
  | none =>
      rw [hfree] at h
      exact absurd h (by simp)
  | some freeTimeEnd =>
      cases hgate : firstOfType .gateOut events with
      | none =>
          rw [hfree, hgate] at h
          exact absurd h (by simp)
      | some gateOut =>
          rw [hfree, hgate] at h
          cases hfreeDate : localDate freeTimeEnd.occurredAt tzName with
          | error e =>
              simp only [hfreeDate] at h
              exact nomatch h
          | ok freeDate =>
              cases hfirst : freeDate.addDays 1 with
              | none =>
                  simp only [hfreeDate, hfirst, bind, Except.bind] at h
                  exact nomatch h
              | some first =>
                  cases hlast : localDate gateOut.occurredAt tzName with
                  | error e =>
                      simp only [hfreeDate, hfirst, hlast, bind, Except.bind] at h
                      exact nomatch h
                  | ok last =>
                      simp only [hfreeDate, hfirst, hlast, bind, Except.bind] at h
                      split at h
                      · exact nomatch h
                      · obtain rfl := Option.some.inj (Except.ok.inj h)
                        constructor
                        · rintro ⟨free', gate', freeDate', first', last', hfree', hgate', hdate',
                            hfirst', hlast', hin⟩
                          obtain rfl := Option.some.inj (hfree.symm.trans hfree')
                          obtain rfl := Option.some.inj (hgate.symm.trans hgate')
                          obtain rfl := Except.ok.inj (hfreeDate.symm.trans hdate')
                          obtain rfl := Option.some.inj (hfirst.symm.trans hfirst')
                          obtain rfl := Except.ok.inj (hlast.symm.trans hlast')
                          exact hin
                        · intro hin
                          exact ⟨_, _, freeDate, first, last, hfree, hgate, hfreeDate, hfirst,
                            hlast, hin⟩

/-- Without a boundary no day lies in the window. -/
theorem resolveChargeBoundary_none (h : resolveChargeBoundary events tzName = .ok none) :
    ¬InWindow events tzName chargeDate := by
  rintro ⟨freeTimeEnd, gateOut, freeDate, first, last, hfree, hgate, hfreeDate, hfirst, hlast,
    hle, hle'⟩
  unfold resolveChargeBoundary at h
  simp only [hfree, hgate, hfreeDate, hfirst, hlast, bind, Except.bind] at h
  rw [if_neg (not_lt.mpr (le_trans hle hle'))] at h
  exact nomatch h

theorem inWindow_iff (h : resolveChargeBoundary events tzName = .ok boundary) :
    InWindow events tzName chargeDate ↔ ∃ b, boundary = some b ∧
      b.firstChargeableDate ≤ chargeDate ∧ chargeDate ≤ b.lastChargeableDate := by
  cases boundary with
  | none => exact iff_of_false (resolveChargeBoundary_none h) (by simp)
  | some b =>
      rw [resolveChargeBoundary_some h]
      constructor
      · intro hin
        exact ⟨b, rfl, hin⟩
      · rintro ⟨b', hb', hin⟩
        obtain rfl := Option.some.inj hb'
        exact hin

/-- A day is complete on these events. -/
def Complete (events : List NormalizedEvent) (tzName : String) (chargeDate : Date) : Prop :=
  Has .available events ∧ Has .freeTimeEnd events ∧ Has .gateOut events ∧
    InWindow events tzName chargeDate ∧
    (¬Has .terminalAccessSnapshot events ∨ AccessOn events chargeDate)

theorem complete_iff : Complete events tzName chargeDate ↔
    (∀ m, ¬Absent events chargeDate m) ∧ InWindow events tzName chargeDate := by
  have hsourced : (∀ m, ¬Absent events chargeDate m) ↔ Has .available events ∧
      Has .freeTimeEnd events ∧ Has .gateOut events ∧
      (¬Has .terminalAccessSnapshot events ∨ AccessOn events chargeDate) := by
    constructor
    · intro h
      refine ⟨not_not.mp (h .availability), not_not.mp (h .freeTimeEnd), not_not.mp (h .gateOut), ?_⟩
      have haccess := h .terminalAccess
      unfold Absent at haccess
      tauto
    · rintro ⟨havailable, hfree, hgate, haccess⟩ m
      cases m with
      | availability => exact not_not.mpr havailable
      | freeTimeEnd => exact not_not.mpr hfree
      | gateOut => exact not_not.mpr hgate
      | terminalAccess =>
          unfold Absent
          tauto
      | chargeBoundary => exact not_false
  rw [hsourced]
  unfold Complete
  tauto

/-- What the result of a day says, exactly. -/
structure DayExact (events : List NormalizedEvent) (tzName : String)
    (boundary : Option ChargeBoundary) (day : ChargedDayResult) : Prop where
  complete : day.state = .sourceComplete ↔ Complete events tzName day.chargeDate
  excluded : day.state = .excludedNotChargeable ↔
    (∀ m, ¬Absent events day.chargeDate m) ∧ ∃ b, boundary = some b ∧
      ¬(b.firstChargeableDate ≤ day.chargeDate ∧ day.chargeDate ≤ b.lastChargeableDate)
  otherwise : day.state ≠ .sourceComplete → day.state ≠ .excludedNotChargeable →
    day.state = .insufficientEvidence
  missing : ∀ m, m ∈ day.missingRequirements ↔ Absent events day.chargeDate m ∨
    (m = .chargeBoundary ∧ boundary = none ∧ ∀ m', ¬Absent events day.chargeDate m')
  once : day.missingRequirements.Nodup

theorem dayExact (h : resolveChargeBoundary events tzName = .ok boundary)
    (invoiceRateMinor : Int) (currency : String) (chargeDate : Date) :
    DayExact events tzName boundary
      (adjudicateChargedDay invoiceRateMinor currency events boundary chargeDate) := by
  obtain ⟨hdate, hcases⟩ := adjudicateChargedDay_cases invoiceRateMinor currency boundary events
    chargeDate
  refine ⟨?_, ?_, ?_, ?_, nodup_missingRequirements _ _ _ _ _⟩
  · rw [hdate, complete_iff, inWindow_iff h]
    exact state_complete_iff invoiceRateMinor currency boundary
  · rw [hdate]
    exact state_excluded_iff invoiceRateMinor currency boundary
  · intro hcomplete hexcluded
    rcases hcases with ⟨_, _, _, _, hstate, _⟩ | ⟨_, _, _, _, hstate, _⟩ | ⟨_, hstate, _⟩
    · exact absurd hstate hcomplete
    · exact absurd hstate hexcluded
    · exact hstate
  · rw [hdate]
    exact mem_missingRequirements invoiceRateMinor currency boundary

omit [TzDatabase] in
/-- The terminal state is complete when there are days and all of them are. -/
theorem resolveTerminalState_complete (days : List ChargedDayResult) :
    resolveTerminalState days = .complete ↔
      days ≠ [] ∧ ∀ day ∈ days, day.state = .sourceComplete := by
  unfold resolveTerminalState
  cases days with
  | nil => exact iff_of_false (by simp) (by simp)
  | cons day days =>
      rw [List.isEmpty_cons, if_neg Bool.false_ne_true]
      by_cases hall : (day :: days).all (fun d => d.state = .sourceComplete) = true
      · rw [if_pos hall]
        refine iff_of_true rfl ⟨List.cons_ne_nil _ _, fun d hd => ?_⟩
        exact of_decide_eq_true (List.all_eq_true.mp hall d hd)
      · rw [if_neg hall]
        refine iff_of_false (by decide) ?_
        rintro ⟨_, hcomplete⟩
        exact hall (List.all_eq_true.mpr fun d hd => decide_eq_true (hcomplete d hd))

/-- Charged days are adjudicated exactly: one result for each date in their order, each saying
what the events say, and the terminal state is theirs.
SOURCE: core/reconstruction.py:262-408,492-504 -/
theorem adjudicateChargedDays_exact (events : List NormalizedEvent) (tzName : String)
    (boundary : Option ChargeBoundary) (chargeDates : List Date) (invoiceRateMinor : Int)
    (currency : String) (h : resolveChargeBoundary events tzName = .ok boundary) :
    let days := adjudicateChargedDays chargeDates invoiceRateMinor currency events boundary
    days.map ChargedDayResult.chargeDate = chargeDates ∧
    (∀ day ∈ days, DayExact events tzName boundary day) ∧
    (resolveTerminalState days = .complete ↔
      days ≠ [] ∧ ∀ day ∈ days, day.state = .sourceComplete) := by
  refine ⟨?_, ?_, resolveTerminalState_complete _⟩
  · unfold adjudicateChargedDays
    rw [List.map_map]
    refine (List.map_congr_left fun chargeDate _ => ?_).trans (List.map_id _)
    exact (adjudicateChargedDay_cases invoiceRateMinor currency boundary events chargeDate).1
  · intro day hday
    obtain ⟨chargeDate, _, rfl⟩ := List.mem_map.mp hday
    exact dayExact h invoiceRateMinor currency chargeDate

/-! ## Conflicting bounds -/

/-- Two free-time ends, or two gate-outs, of different local dates. -/
def Conflict (events : List NormalizedEvent) (tzName : String) : Prop :=
  ∃ e ∈ events, ∃ e' ∈ events, e.eventType = e'.eventType ∧
    (e.eventType = .freeTimeEnd ∨ e.eventType = .gateOut) ∧
    ∃ date date', localDate e.occurredAt tzName = .ok date ∧
      localDate e'.occurredAt tzName = .ok date' ∧ date ≠ date'

/-- No charged day is complete on a boundary chosen between conflicting bounds. -/
def KeepsConflict (events : List NormalizedEvent) (tzName : String) (chargeDates : List Date)
    (invoiceRateMinor : Int) (currency : String) : Prop :=
  Conflict events tzName → ∀ boundary, resolveChargeBoundary events tzName = .ok boundary →
    ∀ day ∈ adjudicateChargedDays chargeDates invoiceRateMinor currency events boundary,
      day.state ≠ .sourceComplete

/-- A day in the window has a boundary. -/
theorem resolveChargeBoundary_of_inWindow (h : InWindow events tzName chargeDate) :
    ∃ boundary, resolveChargeBoundary events tzName = .ok boundary := by
  obtain ⟨freeTimeEnd, gateOut, freeDate, first, last, hfree, hgate, hfreeDate, hfirst, hlast, _⟩ :=
    h
  unfold resolveChargeBoundary
  simp only [hfree, hgate, hfreeDate, hfirst, hlast, bind, Except.bind]
  by_cases hlt : last < first
  · exact ⟨none, if_pos hlt⟩
  · exact ⟨some ⟨first, last⟩, if_neg hlt⟩

/-- Nothing looks for a second bound: a conflict is kept from a charged day only by what the day
lacks, or by its lying outside the window of the first bounds.
SOURCE: core/reconstruction.py:276-290 -/
theorem keepsConflict_iff (events : List NormalizedEvent) (tzName : String)
    (chargeDates : List Date) (invoiceRateMinor : Int) (currency : String) :
    KeepsConflict events tzName chargeDates invoiceRateMinor currency ↔
      ¬Conflict events tzName ∨ ∀ chargeDate ∈ chargeDates,
        (∃ m, Absent events chargeDate m) ∨ ¬InWindow events tzName chargeDate := by
  have hday (chargeDate : Date) : ((∃ m, Absent events chargeDate m) ∨
      ¬InWindow events tzName chargeDate) ↔ ¬Complete events tzName chargeDate := by
    rw [complete_iff, not_and_or, not_forall]
    simp only [not_not]
  constructor
  · intro hkeeps
    by_cases hconflict : Conflict events tzName
    · refine Or.inr fun chargeDate hdate => (hday chargeDate).mpr fun hcomplete => ?_
      obtain ⟨boundary, hboundary⟩ :=
        resolveChargeBoundary_of_inWindow (complete_iff.mp hcomplete).2
      refine hkeeps hconflict boundary hboundary _ (List.mem_map_of_mem hdate) ?_
      rw [state_complete_iff, ← inWindow_iff hboundary]
      exact complete_iff.mp hcomplete
    · exact Or.inl hconflict
  · intro hcondition hconflict boundary hboundary day hmem hstate
    obtain ⟨chargeDate, hdate, rfl⟩ := List.mem_map.mp hmem
    rw [state_complete_iff, ← inWindow_iff hboundary, ← complete_iff] at hstate
    exact (hday chargeDate).mp (hcondition.resolve_left (not_not.mpr hconflict) chargeDate hdate)
      hstate

end Boundary

/-! ## Snapshots of a charged day -/

section Snapshots

variable {knowledgeCutoff : Instant} {shipmentRef containerRef : String}

/-- An access snapshot of the day that keeps every rule. -/
def SnapshotOf (knowledgeCutoff : Instant) (shipmentRef containerRef : String) (chargeDate : Date)
    (row : RawEventRow) : Prop :=
  row.eventType = "TERMINAL_ACCESS_SNAPSHOT" ∧
    parseDateField row.effectiveFrom = some (some chargeDate) ∧
    ∀ rule ∈ rules knowledgeCutoff shipmentRef containerRef, rule.2 row

/-- The event of an access snapshot that stands for the day and is the first row with its
duplicate key that keeps every rule. -/
def SnapshotEvent (knowledgeCutoff : Instant) (shipmentRef containerRef : String)
    (rows : List RawEventRow) (chargeDate : Date) (event : NormalizedEvent) : Prop :=
  ∃ (i : Nat) (row : RawEventRow), rows[i]? = some row ∧
    (∀ rule ∈ rules knowledgeCutoff shipmentRef containerRef, rule.2 row) ∧
    Normalizes row event ∧ event.eventType = .terminalAccessSnapshot ∧
    snapshotDate event = chargeDate ∧
    ∀ earlier ∈ rows.take i, ∀ event',
      (∀ rule ∈ rules knowledgeCutoff shipmentRef containerRef, rule.2 earlier) →
        Normalizes earlier event' → dedupeKey event' ≠ dedupeKey event

theorem not_mem_rowKeys {rows : List RawEventRow} {k : String × String} :
    k ∉ rowKeys knowledgeCutoff shipmentRef containerRef rows ↔
      ∀ row ∈ rows, ∀ event, (∀ rule ∈ rules knowledgeCutoff shipmentRef containerRef, rule.2 row) →
        Normalizes row event → dedupeKey event ≠ k := by
  rw [mem_passedKeys]
  constructor
  · intro hnone row hrow event hrules hevent hkey
    exact hnone ⟨row, hrow, event, checkRow_ok_iff.mpr ⟨hrules, hevent⟩, hkey⟩
  · rintro hnone ⟨row, hrow, event, hok, hkey⟩
    obtain ⟨hrules, hevent⟩ := checkRow_ok_iff.mp hok
    exact hnone row hrow event hrules hevent hkey

/-- An accepted snapshot of a day is the first row with its key. -/
theorem mem_accepted_snapshot {rows : List RawEventRow} {chargeDate : Date}
    {event : NormalizedEvent} :
    event ∈ (validateEvents rows knowledgeCutoff shipmentRef containerRef).accepted ∧
        event.eventType = .terminalAccessSnapshot ∧ snapshotDate event = chargeDate ↔
      SnapshotEvent knowledgeCutoff shipmentRef containerRef rows chargeDate event := by
  constructor
  · rintro ⟨hmem, htype, hdate⟩
    obtain ⟨i, row, hrow, hok, hnew⟩ := mem_accepted.mp hmem
    obtain ⟨hrules, hevent⟩ := checkRow_ok_iff.mp hok
    exact ⟨i, row, hrow, hrules, hevent, htype, hdate, not_mem_rowKeys.mp hnew⟩
  · rintro ⟨i, row, hrow, hrules, hevent, htype, hdate, hnew⟩
    exact ⟨mem_accepted.mpr ⟨i, row, hrow, checkRow_ok_iff.mpr ⟨hrules, hevent⟩,
      not_mem_rowKeys.mpr hnew⟩, htype, hdate⟩

theorem accessOn_accepted {rows : List RawEventRow} {chargeDate : Date} :
    AccessOn (validateEvents rows knowledgeCutoff shipmentRef containerRef).accepted chargeDate ↔
      ∃ event, SnapshotEvent knowledgeCutoff shipmentRef containerRef rows chargeDate event :=
  exists_congr fun _ => mem_accepted_snapshot

/-- A row that passes leaves an accepted event of its type. -/
theorem has_accepted {rows : List RawEventRow} {row : RawEventRow} {event : NormalizedEvent}
    (hrow : row ∈ rows) (hok : checkRow knowledgeCutoff shipmentRef containerRef row = .ok event) :
    Has event.eventType
      (validateEvents rows knowledgeCutoff shipmentRef containerRef).accepted := by
  have hkey : dedupeKey event ∈ rowKeys knowledgeCutoff shipmentRef containerRef rows :=
    mem_passedKeys.mpr ⟨row, hrow, event, hok, rfl⟩
  have hkept : dedupeKey event ∈ (kept (verdicts knowledgeCutoff shipmentRef containerRef rows)).map
      dedupeKey ∨ dedupeKey event ∈ [] := (mem_kept_screen_keys [] rows _).mpr (Or.inl hkey)
  obtain ⟨event', hmem, heq⟩ := List.mem_map.mp (hkept.resolve_right List.not_mem_nil)
  refine ⟨event', ?_, value_injective (congrArg Prod.fst heq)⟩
  rw [validateEvents_eq]
  exact (List.mem_insertionSort _).mpr hmem

/-- The charged days that have a snapshot among the rows are not reported without access. -/
def KeepsSnapshots (knowledgeCutoff : Instant) (shipmentRef containerRef : String)
    (rows : List RawEventRow) (chargeDates : List Date) (invoiceRateMinor : Int)
    (currency : String) (boundary : Option ChargeBoundary) : Prop :=
  ∀ day ∈ adjudicateChargedDays chargeDates invoiceRateMinor currency
      (validateEvents rows knowledgeCutoff shipmentRef containerRef).accepted boundary,
    (∃ row ∈ rows, SnapshotOf knowledgeCutoff shipmentRef containerRef day.chargeDate row) →
      .terminalAccess ∉ day.missingRequirements

/-- The duplicate key ignores the day a snapshot stands for: a day that has a snapshot is
reported without access exactly when each of its snapshots repeats the key of an earlier row.
SOURCE: core/reconstruction.py:214-218,329-355 -/
theorem keepsSnapshots_iff (knowledgeCutoff : Instant) (shipmentRef containerRef : String)
    (rows : List RawEventRow) (chargeDates : List Date) (invoiceRateMinor : Int)
    (currency : String) (boundary : Option ChargeBoundary) :
    KeepsSnapshots knowledgeCutoff shipmentRef containerRef rows chargeDates invoiceRateMinor
        currency boundary ↔
      ∀ chargeDate ∈ chargeDates,
        (∃ row ∈ rows, SnapshotOf knowledgeCutoff shipmentRef containerRef chargeDate row) →
          ∃ event, SnapshotEvent knowledgeCutoff shipmentRef containerRef rows chargeDate event := by
  have hday (chargeDate : Date)
      (hsnapshot : ∃ row ∈ rows, SnapshotOf knowledgeCutoff shipmentRef containerRef chargeDate
        row) :
      .terminalAccess ∉ (adjudicateChargedDay invoiceRateMinor currency
          (validateEvents rows knowledgeCutoff shipmentRef containerRef).accepted boundary
          chargeDate).missingRequirements ↔
        ∃ event, SnapshotEvent knowledgeCutoff shipmentRef containerRef rows chargeDate event := by
    obtain ⟨row, hrow, htype, _, hrules⟩ := hsnapshot
    have hused : Has .terminalAccessSnapshot
        (validateEvents rows knowledgeCutoff shipmentRef containerRef).accepted := by
      cases hcheck : checkRow knowledgeCutoff shipmentRef containerRef row with
      | error issue => exact absurd (checkRow_error hcheck) (not_firstBroken hrules issue)
      | ok event =>
          have hsame : event.eventType = .terminalAccessSnapshot :=
            value_injective ((checkRow_ok hcheck).2.eventType.trans htype)
          exact hsame ▸ has_accepted hrow hcheck
    rw [mem_missingRequirements, ← accessOn_accepted]
    unfold Absent
    simp [hused]
  constructor
  · intro hkeeps chargeDate hdate hsnapshot
    refine (hday chargeDate hsnapshot).mp (hkeeps _ (List.mem_map_of_mem hdate) ?_)
    rw [(adjudicateChargedDay_cases invoiceRateMinor currency boundary _ chargeDate).1]
    exact hsnapshot
  · intro hfirst day hmem hsnapshot
    obtain ⟨chargeDate, hdate, rfl⟩ := List.mem_map.mp hmem
    rw [(adjudicateChargedDay_cases invoiceRateMinor currency boundary _ chargeDate).1] at hsnapshot
    exact (hday chargeDate hsnapshot).mpr (hfirst chargeDate hdate hsnapshot)

end Snapshots

section Case

/-- Pacific daylight time. -/
local instance pacific : TzDatabase := ⟨fun _ _ => -25200000000⟩

/-- A day of June 2026. -/
def june (day : Nat) (h : (1 ≤ 2026 ∧ 2026 ≤ 9999) ∧ (1 ≤ 6 ∧ 6 ≤ 12) ∧ 1 ≤ day ∧
    day ≤ daysInMonth 2026 6) : Date := ⟨2026, 6, day, h⟩

/-- Availability, the end of free time on the 9th and a gate-out on the 12th. -/
def boundRows : List RawEventRow :=
  [containerRow "E1" "AVAILABLE" "2026-06-05T18:00:00Z",
   containerRow "E2" "FREE_TIME_END" "2026-06-09T18:00:00Z",
   containerRow "E3" "GATE_OUT" "2026-06-12T18:00:00Z"]

/-- With a gate-out on the 14th too. -/
def conflictingRows : List RawEventRow :=
  boundRows ++ [containerRow "E4" "GATE_OUT" "2026-06-14T18:00:00Z"]

/-- With the snapshots of two days, taken at one time. -/
def snapshotRows : List RawEventRow :=
  boundRows ++
    [{ containerRow "A1" "TERMINAL_ACCESS_SNAPSHOT" "2026-06-09T20:00:00Z" with
        effectiveFrom := some "2026-06-10" },
     { containerRow "A2" "TERMINAL_ACCESS_SNAPSHOT" "2026-06-09T20:00:00Z" with
        effectiveFrom := some "2026-06-11" }]

/-- The accepted events of rows. -/
def acceptedOf (rows : List RawEventRow) : List NormalizedEvent :=
  (validateEvents rows julyCutoff "C1" "C1").accepted

/-- The boundary of the case. -/
def juneBoundary : ChargeBoundary := ⟨june 10 (by decide), june 12 (by decide)⟩

theorem boundRows_boundary :
    resolveChargeBoundary (acceptedOf boundRows) effectiveTimezone = .ok (some juneBoundary) := by
  decide +kernel

theorem adjudicateChargedDays_exact_bound :
    let days := adjudicateChargedDays [june 9 (by decide), june 11 (by decide)] 30000 "USD"
      (acceptedOf boundRows) (some juneBoundary)
    days.map ChargedDayResult.chargeDate = [june 9 (by decide), june 11 (by decide)] ∧
    (∀ day ∈ days, DayExact (acceptedOf boundRows) effectiveTimezone (some juneBoundary) day) ∧
    (resolveTerminalState days = .complete ↔
      days ≠ [] ∧ ∀ day ∈ days, day.state = .sourceComplete) :=
  adjudicateChargedDays_exact (acceptedOf boundRows) effectiveTimezone (some juneBoundary)
    [june 9 (by decide), june 11 (by decide)] 30000 "USD" boundRows_boundary

theorem conflict_of_gateOuts {events : List NormalizedEvent} {tzName : String} {date date' : Date}
    (h : (eventsOfType .gateOut events).map (fun e => localDate e.occurredAt tzName) =
      [.ok date, .ok date']) (hne : date ≠ date') : Conflict events tzName := by
  obtain ⟨e, rest, heq, hdate, hrest⟩ := List.map_eq_cons_iff.mp h
  obtain ⟨e', rest', heq', hdate', _⟩ := List.map_eq_cons_iff.mp hrest
  have hgate (x : NormalizedEvent) (hx : x ∈ eventsOfType .gateOut events) :
      x ∈ events ∧ x.eventType = .gateOut := by
    obtain ⟨hmem, htype⟩ := List.mem_filter.mp hx
    exact ⟨hmem, of_decide_eq_true htype⟩
  obtain ⟨hmem, htype⟩ := hgate e (by rw [heq]; exact List.mem_cons_self)
  obtain ⟨hmem', htype'⟩ := hgate e' (by rw [heq, heq']; simp)
  exact ⟨e, hmem, e', hmem', htype.trans htype'.symm, Or.inr htype, date, date', hdate, hdate', hne⟩

/-- The 11th is complete on the gate-out of the 12th, the other one is passed over. -/
theorem conflict_passed_over :
    ¬KeepsConflict (acceptedOf conflictingRows) effectiveTimezone [june 11 (by decide)] 30000
      "USD" := by
  intro hkeeps
  have hgates : (eventsOfType .gateOut (acceptedOf conflictingRows)).map
      (fun e => localDate e.occurredAt effectiveTimezone) =
        [.ok (june 12 (by decide)), .ok (june 14 (by decide))] := by
    decide +kernel
  have hboundary : resolveChargeBoundary (acceptedOf conflictingRows) effectiveTimezone =
      .ok (some juneBoundary) := by
    decide +kernel
  have hcomplete : (adjudicateChargedDay 30000 "USD" (acceptedOf conflictingRows)
      (some juneBoundary) (june 11 (by decide))).state = .sourceComplete := by
    decide +kernel
  exact hkeeps (conflict_of_gateOuts hgates (by decide)) _ hboundary _ List.mem_cons_self hcomplete

/-- The snapshot of the 11th is refused as a duplicate of the one of the 10th. -/
theorem snapshot_lost :
    ¬KeepsSnapshots julyCutoff "C1" "C1" snapshotRows [june 11 (by decide)] 30000 "USD"
      (some juneBoundary) := by
  intro hkeeps
  have hmissing : .terminalAccess ∈ (adjudicateChargedDay 30000 "USD" (acceptedOf snapshotRows)
      (some juneBoundary) (june 11 (by decide))).missingRequirements := by
    decide +kernel
  refine hkeeps _ List.mem_cons_self ⟨{ containerRow "A2" "TERMINAL_ACCESS_SNAPSHOT"
    "2026-06-09T20:00:00Z" with effectiveFrom := some "2026-06-11" }, by simp [snapshotRows],
    rfl, ?_, rules_of_isSome (by decide +kernel)⟩ hmissing
  decide +kernel

end Case

end Tally.Analysis.DayEvidence
