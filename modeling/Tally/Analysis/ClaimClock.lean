import Tally.Analysis.ClaimErrors

/-!
# Claim validation and the clock

The date library completes a text from the current date. Two validations of the same model
output agree exactly when every anchored date is read alike on both days, or when both
raise.
-/

set_option autoImplicit false

namespace Tally.Analysis.ClaimClock
open Library Library.Calendar Library.Sha256 Library.Traversal Model Model.IntakeClaims
open Analysis.Claims Analysis.ClaimErrors

section Clock

variable [Interpreter] [DateLibrary] [Sha256] {K : Type} [Min K] [Max K] [Div K]
  {today today' : Date} {raw rawClaims : List (String × Value)} {pages : List (Page K)}

def dateFields : List ClaimField := [.periodStart, .periodEnd, .issuedDate]

/-- The anchored dates are read alike on two days. -/
def SameDates (today today' : Date) (raw : List (String × Value)) (pages : List (Page K)) : Prop :=
  ∀ rawClaims, getMember raw "claims" = some (.dict rawClaims) →
    ∀ field ∈ dateFields, ∀ value anchor,
      anchoredValue pages rawClaims field = .ok (value, anchor) →
      DateLibrary.parse today value.text = DateLibrary.parse today' value.text

/-! ## Days on which the dates are read alike -/

omit [Sha256] in
/-- Only the parsers of the dates look at the clock. -/
theorem normalizeClaim_same {field : ClaimField} {value : Value}
    (h : field ∈ dateFields →
      DateLibrary.parse today value.text = DateLibrary.parse today' value.text) :
    normalizeClaim today field value = normalizeClaim today' field value := by
  have hdate : field ∈ dateFields → readDate today value = readDate today' value := by
    intro hfield
    unfold readDate
    rw [h hfield]
  cases field with
  | periodStart => exact hdate (by simp [dateFields])
  | periodEnd => exact hdate (by simp [dateFields])
  | issuedDate => exact hdate (by simp [dateFields])
  | invoiceNumber => rfl
  | containerNumber => rfl
  | billOfLading => rfl
  | chargeType => rfl
  | chargedDays => rfl
  | dailyRate => rfl
  | total => rfl

theorem validateField_same {field : ClaimField}
    (h : field ∈ dateFields → ∀ value anchor,
      anchoredValue pages rawClaims field = .ok (value, anchor) →
      DateLibrary.parse today value.text = DateLibrary.parse today' value.text) :
    validateField today pages rawClaims field = validateField today' pages rawClaims field := by
  unfold validateField
  split
  · rfl
  · rename_i value anchor hanchored
    rw [normalizeClaim_same fun hfield => h hfield value anchor hanchored]

theorem validate_same (h : SameDates today today' raw pages) :
    validateExtractedClaims today raw pages = validateExtractedClaims today' raw pages := by
  unfold validateExtractedClaims
  split
  · rename_i rawClaims hraw
    have hrounds : requiredClaimFields.mapM (validateField today pages rawClaims) =
        requiredClaimFields.mapM (validateField today' pages rawClaims) := by
      have hfields : validateField today pages rawClaims =
          validateField today' pages rawClaims := by
        funext field
        exact validateField_same fun hfield => h rawClaims hraw field hfield
      rw [hfields]
    rw [hrounds]
  · rfl

/-! ## Validations that raise -/

/-- What a validation raises is an overflow. -/
theorem validate_error {e : ClaimError}
    (h : validateExtractedClaims today raw pages = .error e) : e = .overflow := by
  unfold validateExtractedClaims at h
  split at h
  · rename_i rawClaims hraw
    cases hresults : requiredClaimFields.mapM (validateField today pages rawClaims) with
    | error e' =>
        rw [hresults] at h
        obtain rfl := Except.error.inj h
        obtain ⟨field, _, hfield⟩ := mapM_error hresults
        exact (validateField_error.mp hfield).1
    | ok results =>
        have hread : ∀ claim ∈ results.filterMap Sum.getLeft?, ∃ value reading,
            Read today pages rawClaims claim value reading :=
          fun claim hclaim => claim_of_mem (mapM_ok hresults) hclaim
        obtain ⟨periodCodes, hperiod⟩ := periodIssues_returns hread
        obtain ⟨totalCodes, htotal⟩ := totalIssues_returns hread
        simp only [hresults, hperiod, htotal, bind, Except.bind] at h
        exact absurd h (by simp [pure, Except.pure])
  · exact absurd h (by simp [pure, Except.pure])

theorem raises_of_not_representable (h : ¬ Representable today raw pages) :
    validateExtractedClaims today raw pages = .error .overflow := by
  cases hv : validateExtractedClaims today raw pages with
  | error e => rw [validate_error hv]
  | ok v => exact absurd ((returns_iff today raw pages).mp ⟨v, hv, reported hv⟩) h

/-! ## Results that agree -/

omit [Interpreter] [DateLibrary] [Sha256] in
theorem isoformat_injective {first second : Date} (h : first.isoformat = second.isoformat) :
    first = second := by
  have hread : Date.fromisoformat first.isoformat = Date.fromisoformat second.isoformat := by
    rw [h]
  rw [Date.fromisoformat_isoformat, Date.fromisoformat_isoformat] at hread
  exact Option.some.inj hread

omit [Sha256] in
/-- A date field is read by the date library. -/
theorem normalizeClaim_date {field : ClaimField} (hfield : field ∈ dateFields) (value : Value) :
    normalizeClaim today field value = readDate today value := by
  simp only [dateFields, List.mem_cons, List.not_mem_nil, or_false] at hfield
  rcases hfield with rfl | rfl | rfl <;> rfl

/-- A date that one of two agreeing validations reads is the date the other reads. -/
theorem date_of_agree {v : ClaimValidation K} {field : ClaimField} {value : Value}
    {anchor : PdfAnchor K} {date : Date}
    (hraw : getMember raw "claims" = some (.dict rawClaims))
    (hv : validateExtractedClaims today raw pages = .ok v)
    (hv' : validateExtractedClaims today' raw pages = .ok v) (hfield : field ∈ dateFields)
    (hanchored : anchoredValue pages rawClaims field = .ok (value, anchor))
    (hdate : DateLibrary.parse today value.text = .ok date) :
    DateLibrary.parse today' value.text = .ok date := by
  rcases validateExtractedClaims_ok hv with
    ⟨_, hnone⟩ | ⟨rawClaims₁, results, _, _, hraw₁, hvalid⟩
  · exact absurd hraw (hnone rawClaims)
  rcases validateExtractedClaims_ok hv' with
    ⟨_, hnone⟩ | ⟨rawClaims₂, results', _, _, hraw₂, hvalid'⟩
  · exact absurd hraw (hnone rawClaims)
  obtain rfl : rawClaims = rawClaims₁ := by simpa using hraw.symm.trans hraw₁
  obtain rfl : rawClaims = rawClaims₂ := by simpa using hraw.symm.trans hraw₂
  -- the claim of the field in the first validation
  have hrequired : field ∈ requiredClaimFields := by
    cases field <;> simp [requiredClaimFields]
  obtain ⟨result, hresult, hround⟩ := round_of_field hvalid.rounds hrequired
  have hreading : normalizeClaim today field value =
      .ok ⟨.date, .text date.isoformat, none, none⟩ := by
    rw [normalizeClaim_date hfield]
    unfold readDate
    rw [hdate]
  have hclaim : result = .inl (claimOf field value anchor
      ⟨.date, .text date.isoformat, none, none⟩) := by
    unfold validateField at hround
    rw [hanchored] at hround
    simp only [hreading] at hround
    exact (Except.ok.inj hround).symm
  have hmem : claimOf field value anchor ⟨.date, .text date.isoformat, none, none⟩ ∈
      v.claims := by
    rw [hvalid.claims]
    exact List.mem_filterMap.mpr ⟨result, hresult, by rw [hclaim]; rfl⟩
  -- the second validation made the same claim
  rw [hvalid'.claims] at hmem
  obtain ⟨value', reading, hread⟩ := claim_of_mem hvalid'.rounds hmem
  have hvalue : value' = value := by
    have hsame := hread.anchored
    change anchoredValue pages rawClaims field = _ at hsame
    rw [hanchored] at hsame
    exact (Prod.mk.inj (Except.ok.inj hsame)).1.symm
  subst hvalue
  have hparsed : normalizeClaim today' field value' = .ok reading := hread.parsed
  rw [normalizeClaim_date hfield] at hparsed
  obtain ⟨date', rfl, hdate'⟩ := readDate_ok hparsed
  have hnormalized : ClaimValue.text date.isoformat = .text date'.isoformat :=
    congrArg ValidatedClaim.normalizedValue hread.claim
  obtain rfl := isoformat_injective (ClaimValue.text.inj hnormalized)
  exact hdate'

theorem sameDates_of_agree {v : ClaimValidation K}
    (hv : validateExtractedClaims today raw pages = .ok v)
    (hv' : validateExtractedClaims today' raw pages = .ok v) :
    SameDates today today' raw pages := by
  intro rawClaims hraw field hfield value anchor hanchored
  have hrepresentable := (returns_iff today raw pages).mp ⟨v, hv, reported hv⟩
  have hrepresentable' := (returns_iff today' raw pages).mp ⟨v, hv', reported hv'⟩
  have hrequired : field ∈ requiredClaimFields := by
    cases field <;> simp [requiredClaimFields]
  have hno := hrepresentable rawClaims hraw field hrequired value anchor hanchored
  have hno' := hrepresentable' rawClaims hraw field hrequired value anchor hanchored
  have hoverflow : ∀ day, Overflows day field value ↔
      DateLibrary.parse day value.text = .error .overflowError := by
    simp only [dateFields, List.mem_cons, List.not_mem_nil, or_false] at hfield
    rcases hfield with rfl | rfl | rfl <;> exact fun day => Iff.rfl
  rw [hoverflow] at hno hno'
  cases hdate : DateLibrary.parse today value.text with
  | ok date => exact (date_of_agree hraw hv hv' hfield hanchored hdate).symm
  | error e =>
      cases hdate' : DateLibrary.parse today' value.text with
      | ok date' =>
          have hsame := date_of_agree hraw hv' hv hfield hanchored hdate'
          rw [hdate] at hsame
          exact absurd hsame (by simp)
      | error e' =>
          cases e with
          | overflowError => exact absurd hdate hno
          | valueError =>
              cases e' with
              | overflowError => exact absurd hdate' hno'
              | valueError => rfl

/-- Validations on two days agree exactly when the anchored dates are read alike, or when
both raise. -/
theorem validate_agree_iff (today today' : Date) (raw : List (String × Value))
    (pages : List (Page K)) :
    validateExtractedClaims today raw pages = validateExtractedClaims today' raw pages ↔
      SameDates today today' raw pages ∨
        ¬ Representable today raw pages ∧ ¬ Representable today' raw pages := by
  constructor
  · intro hagree
    cases hv : validateExtractedClaims today raw pages with
    | ok v => exact Or.inl (sameDates_of_agree hv (hagree.symm.trans hv))
    | error e =>
        have hv' := hagree.symm.trans hv
        refine Or.inr ⟨?_, ?_⟩
        · intro hrepresentable
          obtain ⟨v, hok, _⟩ := (returns_iff today raw pages).mpr hrepresentable
          rw [hv] at hok
          exact absurd hok (by simp)
        · intro hrepresentable
          obtain ⟨v, hok, _⟩ := (returns_iff today' raw pages).mpr hrepresentable
          rw [hv'] at hok
          exact absurd hok (by simp)
  · rintro (hsame | ⟨hraises, hraises'⟩)
    · exact validate_same hsame
    · rw [raises_of_not_representable hraises, raises_of_not_representable hraises']

end Clock

/-! ## A bare day of the month -/

section Case

local instance caseInterpreter : Interpreter := asciiInterpreter
local instance caseSha : Sha256 := .standard

/-- A date library that completes a day with the month and the year of the current date. -/
@[reducible] def completingDates : DateLibrary where
  parse today text :=
    match Date.fromisoformat text with
    | some date => .ok date
    | none =>
      match intOfText text.toList with
      | some (.ofNat day) =>
        if h : (1 ≤ today.year ∧ today.year ≤ 9999) ∧ (1 ≤ today.month ∧ today.month ≤ 12) ∧
            1 ≤ day ∧ day ≤ daysInMonth today.year today.month then
          .ok ⟨today.year, today.month, day, h⟩
        else .error .valueError
      | _ => .error .valueError

local instance caseDates : DateLibrary := completingDates

def bareWords : List String :=
  ["INV-1", "TEMU1234567", "BOL-001", "DEMURRAGE", "1", "7", "$350.00", "$2450.00", "10"]

/-- Claims whose dates are days of a month that is not named. -/
def bareClaims : List (String × Value) :=
  claimsWith (entry (.str "1") "1") (entry (.str "7") "7") (entry (.int 7) "7")
    (entry (.str "2450.00") "$2450.00") (entry (.str "10") "10")

/-- The normalised start of the period. -/
def claimedStart {K : Type} (result : Except ClaimError (ClaimValidation K)) :
    Option ClaimValue :=
  match result with
  | .ok v => if v.passed then (byName v.claims .periodStart).map ValidatedClaim.normalizedValue
      else none
  | .error _ => none

theorem differ_of_start {K : Type} {first second : Except ClaimError (ClaimValidation K)}
    (start start' : ClaimValue) (h : claimedStart first = some start)
    (h' : claimedStart second = some start') (hne : start ≠ start') : first ≠ second := by
  rintro rfl
  exact hne (Option.some.inj (h.symm.trans h'))

/-- The same output is accepted in August and in September, with the period of each. -/
theorem bare_days_differ :
    validateExtractedClaims ⟨2026, 8, 20, by decide⟩ bareClaims [pageOf bareWords] ≠
      validateExtractedClaims ⟨2026, 9, 20, by decide⟩ bareClaims [pageOf bareWords] :=
  differ_of_start (.text "2026-08-01") (.text "2026-09-01")
    (by decide +kernel) (by decide +kernel) (by decide)

end Case

end Tally.Analysis.ClaimClock
