import Tally.Analysis.Claims

/-!
# When claim validation raises

The loop over the required fields reports type errors, value errors and malformed decimals.
An arithmetic overflow escapes it: an infinite number of days, a date out of range, an
amount whose exponent the decimal context cannot hold. A validation that meets none of
these returns, with a claim or an issue for every required field.
-/

set_option autoImplicit false

namespace Tally.Analysis.ClaimErrors
open Library Library.Calendar Library.Sha256 Library.Traversal Model Model.IntakeClaims
open Analysis.Claims

/-! ## Overflows of the parsers -/

section Overflows

variable [Interpreter]

/-- The product of an amount and hundred is rounded to an exponent that is too large. -/
def ExponentTooLarge (coefficient fractionDigits : Nat) : Prop :=
  let product := coefficient * 100
  let shift := (Nat.toDigits 10 product).length - decimalPrecision
  decimalPrecision < (Nat.toDigits 10 product).length ∧
    decimalEmax + fractionDigits + 1 <
      (Nat.toDigits 10 (roundHalfEven product (10 ^ shift))).length + shift

/-- The text of an amount is one of US dollars and cents whose exponent is too large. -/
def AmountTooLarge (value : Value) : Prop :=
  (∀ b, value ≠ .bool b) ∧
  ∃ negative coefficient fractionDigits,
    parseDecimal (value.text.toList.filter fun c => isDigit c || c = '.' || c = '-') =
      some (negative, coefficient, fractionDigits) ∧
    (negative = false ∨ coefficient = 0) ∧ fractionDigits ≤ 2 ∧
    ExponentTooLarge coefficient fractionDigits

/-- The values the parser of a field cannot hold. -/
def Overflows [DateLibrary] (today : Date) (field : ClaimField) (value : Value) : Prop :=
  match field with
  | .chargedDays => ∃ number negative, value = .float number ∧ number.number = .infinity negative
  | .periodStart => DateLibrary.parse today value.text = .error .overflowError
  | .periodEnd => DateLibrary.parse today value.text = .error .overflowError
  | .issuedDate => DateLibrary.parse today value.text = .error .overflowError
  | .dailyRate => AmountTooLarge value
  | .total => AmountTooLarge value
  | _ => False

omit [Interpreter] in
theorem timesHundred_error {coefficient fractionDigits : Nat} {e : ClaimError} :
    timesHundred coefficient fractionDigits = .error e ↔
      e = .overflow ∧ ExponentTooLarge coefficient fractionDigits := by
  unfold timesHundred ExponentTooLarge
  dsimp only
  split
  · rename_i hlength
    constructor
    · intro h
      exact absurd h (by simp)
    · rintro ⟨_, hlong, _⟩
      omega
  · rename_i hlength
    split
    · rename_i hlarge
      constructor
      · intro h
        exact ⟨(Except.error.inj h).symm, by omega, hlarge⟩
      · rintro ⟨rfl, _⟩
        rfl
    · rename_i hsmall
      constructor
      · intro h
        exact absurd h (by simp)
      · rintro ⟨_, _, hlarge⟩
        exact absurd hlarge hsmall

theorem readMoney_overflow {value : Value} :
    readMoney value = .error .overflow ↔ AmountTooLarge value := by
  have hread : readMoney value = .error .overflow ↔ parseUsdMinor value = .error .overflow := by
    unfold readMoney
    split
    · rename_i e he
      rw [he]
      simp
    · rename_i amount hamount
      rw [hamount]
      simp
  rw [hread]
  unfold parseUsdMinor AmountTooLarge
  split
  · rename_i b
    constructor
    · intro h
      exact absurd h (by simp)
    · rintro ⟨hbool, _⟩
      exact absurd rfl (hbool b)
  · rename_i hbool
    dsimp only
    split
    · rename_i hnone
      constructor
      · intro h
        exact absurd h (by simp)
      · rintro ⟨_, negative, coefficient, fractionDigits, hsome, _⟩
        rw [hnone] at hsome
        exact absurd hsome (by simp)
    · rename_i negative coefficient fractionDigits hsome
      split
      · rename_i hinvalid
        constructor
        · intro h
          exact absurd h (by simp)
        · rintro ⟨_, negative', coefficient', fractionDigits', hsome', hsign, hdigits, _⟩
          rw [hsome] at hsome'
          obtain ⟨rfl, rfl, rfl⟩ := by simpa using Option.some.inj hsome'
          rcases hinvalid with ⟨hneg, hnonzero⟩ | hmany
          · rcases hsign with hfalse | hzero
            · exact absurd (hneg.symm.trans hfalse) (by decide)
            · exact absurd hzero hnonzero
          · omega
      · rename_i hvalid
        rw [timesHundred_error]
        constructor
        · rintro ⟨_, hlarge⟩
          refine ⟨fun b hb => hbool b hb, negative, coefficient, fractionDigits, hsome, ?_, ?_,
            hlarge⟩
          · by_contra hsign
            refine hvalid (Or.inl ?_)
            push Not at hsign
            exact ⟨by simpa using hsign.1, hsign.2⟩
          · by_contra hdigits
            exact hvalid (Or.inr (by omega))
        · rintro ⟨_, negative', coefficient', fractionDigits', hsome', _, _, hlarge⟩
          rw [hsome] at hsome'
          obtain ⟨rfl, rfl, rfl⟩ := by simpa using Option.some.inj hsome'
          exact ⟨rfl, hlarge⟩

theorem readDays_overflow {value : Value} :
    readDays value = .error .overflow ↔
      ∃ number negative, value = .float number ∧ number.number = .infinity negative := by
  cases value with
  | float number =>
      unfold readDays
      cases hnumber : number.number with
      | nan => simp [Value.toInt, hnumber, conversionError]
      | infinity negative => simp [Value.toInt, hnumber, conversionError]
      | finite q =>
          simp only [Value.toInt, hnumber]
          split <;> simp [hnumber]
  | bool b => simp [readDays]
  | null => simp [readDays, Value.toInt, conversionError]
  | list items => simp [readDays, Value.toInt, conversionError]
  | dict members => simp [readDays, Value.toInt, conversionError]
  | int n =>
      unfold readDays
      simp only [Value.toInt]
      split <;> simp
  | str text =>
      unfold readDays
      cases htext : intOfText text.toList with
      | none => simp [Value.toInt, htext, conversionError]
      | some n =>
          simp only [Value.toInt, htext]
          split <;> simp

theorem readDate_overflow [DateLibrary] {today : Date} {value : Value} :
    readDate today value = .error .overflow ↔
      DateLibrary.parse today value.text = .error .overflowError := by
  unfold readDate
  split
  · rename_i date hdate
    rw [hdate]
    simp
  · rename_i hvalue
    rw [hvalue]
    simp
  · rename_i hoverflow
    rw [hoverflow]
    simp

/-- The parser of a field overflows on the values it cannot hold, and on no other. -/
theorem normalizeClaim_overflow [DateLibrary] {today : Date} {field : ClaimField}
    {value : Value} :
    normalizeClaim today field value = .error .overflow ↔ Overflows today field value := by
  cases field with
  | chargedDays => exact readDays_overflow
  | periodStart => exact readDate_overflow
  | periodEnd => exact readDate_overflow
  | issuedDate => exact readDate_overflow
  | dailyRate => exact readMoney_overflow
  | total => exact readMoney_overflow
  | invoiceNumber =>
      simp only [normalizeClaim, Overflows]
      split <;> simp
  | containerNumber =>
      simp only [normalizeClaim, Overflows]
      split <;> simp
  | billOfLading =>
      simp only [normalizeClaim, Overflows]
      split <;> simp
  | chargeType =>
      simp only [normalizeClaim, Overflows]
      split <;> simp

end Overflows

/-! ## Rounds that raise -/

section Rounds

variable [Interpreter] [DateLibrary] [Sha256] {K : Type} [Min K] [Max K] [Div K] {today : Date}
  {pages : List (Page K)} {rawClaims : List (String × Value)}

omit [Interpreter] [DateLibrary] [Sha256] in
theorem ClaimError.eq_overflow {e : ClaimError} : ¬ e.caught = true ↔ e = .overflow := by
  cases e <;> simp [ClaimError.caught]

/-- A round raises exactly when it reaches a value its parser cannot hold. -/
theorem validateField_error {field : ClaimField} {e : ClaimError} :
    validateField today pages rawClaims field = .error e ↔
      e = .overflow ∧ ∃ value anchor,
        anchoredValue pages rawClaims field = .ok (value, anchor) ∧
        Overflows today field value := by
  unfold validateField
  split
  · rename_i code hcode
    rw [hcode]
    simp
  · rename_i value anchor hanchored
    have hsame : (∃ value' anchor', anchoredValue pages rawClaims field = .ok (value', anchor') ∧
        Overflows today field value') ↔ Overflows today field value := by
      constructor
      · rintro ⟨value', anchor', hanchored', hoverflow⟩
        rw [hanchored] at hanchored'
        obtain ⟨rfl, rfl⟩ := Prod.mk.inj (Except.ok.inj hanchored')
        exact hoverflow
      · exact fun hoverflow => ⟨value, anchor, hanchored, hoverflow⟩
    rw [hsame, ← normalizeClaim_overflow]
    split
    · rename_i e' he'
      rw [he']
      split
      · rename_i hcaught
        constructor
        · intro h
          exact absurd h (by simp)
        · rintro ⟨_, he⟩
          obtain rfl := Except.error.inj he
          exact absurd hcaught (by decide)
      · rename_i huncaught
        obtain rfl := ClaimError.eq_overflow.mp huncaught
        simp [eq_comm]
    · rename_i reading hreading
      rw [hreading]
      simp

/-- No field of the entries reaches a value its parser cannot hold. -/
def NoOverflow (today : Date) (pages : List (Page K)) (rawClaims : List (String × Value)) : Prop :=
  ∀ field ∈ requiredClaimFields, ∀ value anchor,
    anchoredValue pages rawClaims field = .ok (value, anchor) → ¬ Overflows today field value

theorem rounds_return : (∃ results,
    requiredClaimFields.mapM (validateField today pages rawClaims) = .ok results) ↔
      NoOverflow today pages rawClaims := by
  rw [mapM_returns]
  constructor
  · intro hall field hfield value anchor hanchored hoverflow
    obtain ⟨result, hresult⟩ := hall field hfield
    have herror := validateField_error.mpr
      ⟨rfl, value, anchor, hanchored, hoverflow⟩
    rw [hresult] at herror
    exact absurd herror (by simp)
  · intro hno field hfield
    cases hround : validateField today pages rawClaims field with
    | ok result => exact ⟨result, rfl⟩
    | error e =>
        obtain ⟨_, value, anchor, hanchored, hoverflow⟩ := validateField_error.mp hround
        exact absurd hoverflow (hno field hfield value anchor hanchored)

/-- The comparisons of the fields never raise on claims that were read. -/
theorem periodIssues_returns {claims : List (ValidatedClaim K)}
    (hread : ∀ claim ∈ claims, ∃ value reading,
      Read today pages rawClaims claim value reading) :
    ∃ codes, periodIssues claims = .ok codes := by
  unfold periodIssues
  split
  · rename_i a b c ha hb hc
    obtain ⟨hma, hfa⟩ := byName_some ha
    obtain ⟨hmb, hfb⟩ := byName_some hb
    obtain ⟨hmc, hfc⟩ := byName_some hc
    obtain ⟨_, ra, hreada⟩ := hread a hma
    obtain ⟨_, rb, hreadb⟩ := hread b hmb
    obtain ⟨_, rc, hreadc⟩ := hread c hmc
    obtain ⟨start, rfl, _⟩ := readDate_ok (hfa ▸ hreada.parsed)
    obtain ⟨last, rfl, _⟩ := readDate_ok (hfb ▸ hreadb.parsed)
    obtain ⟨days, rfl, _⟩ := readDays_ok (hfc ▸ hreadc.parsed)
    have hva : a.normalizedValue = .text start.isoformat := by rw [hreada.claim]; rfl
    have hvb : b.normalizedValue = .text last.isoformat := by rw [hreadb.claim]; rfl
    have hvc : c.normalizedValue = .integer days := by rw [hreadc.claim]; rfl
    simp only [hva, hvb, hvc, claimDate, claimInt, Date.fromisoformat_isoformat]
    exact ⟨_, rfl⟩
  · exact ⟨_, rfl⟩

theorem totalIssues_returns {claims : List (ValidatedClaim K)}
    (hread : ∀ claim ∈ claims, ∃ value reading,
      Read today pages rawClaims claim value reading) :
    ∃ codes, totalIssues claims = .ok codes := by
  unfold totalIssues
  split
  · rename_i a b c _ hb _
    obtain ⟨hmb, hfb⟩ := byName_some hb
    obtain ⟨_, rb, hreadb⟩ := hread b hmb
    obtain ⟨days, rfl, _⟩ := readDays_ok (hfb ▸ hreadb.parsed)
    have hvb : b.normalizedValue = .integer days := by rw [hreadb.claim]; rfl
    simp only [hvb, claimInt]
    exact ⟨_, rfl⟩
  · exact ⟨_, rfl⟩

end Rounds

/-! ## Validations that return -/

section Returning

variable [Interpreter] [DateLibrary] [Sha256] {K : Type} [Min K] [Max K] [Div K]

/-- Every required field has its claim or an issue; claims that are no dict are an issue. -/
def Reported (raw : List (String × Value)) (v : ClaimValidation K) : Prop :=
  match getMember raw "claims" with
  | some (.dict _) => ∀ field ∈ requiredClaimFields,
      (∃ claim ∈ v.claims, claim.fieldName = field) ∨
      ∃ kind ∈ ["MISSING", "UNANCHORED", "INVALID"], issue kind field ∈ v.issueCodes
  | _ => v.issueCodes = ["INVALID_MODEL_SCHEMA"]

/-- No entry of the model's claims reaches a value its parser cannot hold. -/
def Representable (today : Date) (raw : List (String × Value)) (pages : List (Page K)) : Prop :=
  ∀ rawClaims, getMember raw "claims" = some (.dict rawClaims) →
    NoOverflow today pages rawClaims

theorem round_of_field {today : Date} {pages : List (Page K)}
    {rawClaims : List (String × Value)} {fields : List ClaimField}
    {results : List (ValidatedClaim K ⊕ String)}
    (h : List.Forall₂ (fun field result =>
      validateField today pages rawClaims field = .ok result) fields results)
    {field : ClaimField} (hfield : field ∈ fields) :
    ∃ result ∈ results, validateField today pages rawClaims field = .ok result := by
  induction h with
  | nil => exact absurd hfield (by simp)
  | @cons first result fields results hfirst _ ih =>
      rcases List.mem_cons.mp hfield with rfl | hlater
      · exact ⟨result, List.mem_cons_self, hfirst⟩
      · obtain ⟨result', hmem, hresult'⟩ := ih hlater
        exact ⟨result', List.mem_cons_of_mem _ hmem, hresult'⟩

theorem reported {today : Date} {raw : List (String × Value)} {pages : List (Page K)}
    {v : ClaimValidation K} (h : validateExtractedClaims today raw pages = .ok v) :
    Reported raw v := by
  unfold Reported
  split
  · rename_i rawClaims hraw
    rcases validateExtractedClaims_ok h with
      ⟨_, hnone⟩ | ⟨rawClaims', results, period, total, hraw', hv⟩
    · exact absurd hraw (hnone rawClaims)
    · rw [hraw] at hraw'
      obtain rfl : rawClaims = rawClaims' := by simpa using hraw'
      intro field hfield
      obtain ⟨result, hmem, hresult⟩ := round_of_field hv.rounds hfield
      cases result with
      | inl claim =>
          refine Or.inl ⟨claim, ?_, (validateField_claim hresult).1⟩
          rw [hv.claims]
          exact List.mem_filterMap.mpr ⟨_, hmem, rfl⟩
      | inr code =>
          obtain ⟨kind, hkind, rfl⟩ := List.mem_map.mp (validateField_issue hresult)
          refine Or.inr ⟨kind, hkind, ?_⟩
          rw [hv.issues, List.mem_insertionSort, List.mem_dedup]
          exact List.mem_append_left _ (List.mem_append_left _
            (List.mem_filterMap.mpr ⟨_, hmem, rfl⟩))
  · rename_i hraw
    rcases validateExtractedClaims_ok h with
      ⟨rfl, _⟩ | ⟨rawClaims, results, period, total, hdict, _⟩
    · rfl
    · exact absurd hdict (hraw rawClaims)

/-- Validation returns and reports exactly when no entry reaches a value its parser cannot
hold. -/
theorem returns_iff (today : Date) (raw : List (String × Value)) (pages : List (Page K)) :
    (∃ v, validateExtractedClaims today raw pages = .ok v ∧ Reported raw v) ↔
      Representable today raw pages := by
  constructor
  · rintro ⟨v, hv, _⟩ rawClaims hraw
    rcases validateExtractedClaims_ok hv with
      ⟨_, hnone⟩ | ⟨rawClaims', results, period, total, hraw', hvalid⟩
    · exact absurd hraw (hnone rawClaims)
    · obtain rfl : rawClaims = rawClaims' := by simpa using hraw.symm.trans hraw'
      intro field hfield value anchor hanchored hoverflow
      obtain ⟨result, _, hresult⟩ := round_of_field hvalid.rounds hfield
      have herror := validateField_error.mpr
        ⟨rfl, value, anchor, hanchored, hoverflow⟩
      rw [hresult] at herror
      exact absurd herror (by simp)
  · intro hrepresentable
    have hreturns : ∃ v, validateExtractedClaims today raw pages = .ok v := by
      unfold validateExtractedClaims
      split
      · rename_i rawClaims hraw
        obtain ⟨results, hresults⟩ := rounds_return.mpr (hrepresentable rawClaims hraw)
        have hread : ∀ claim ∈ results.filterMap Sum.getLeft?, ∃ value reading,
            Read today pages rawClaims claim value reading :=
          fun claim hclaim => claim_of_mem (mapM_ok hresults) hclaim
        obtain ⟨periodCodes, hperiod⟩ := periodIssues_returns hread
        obtain ⟨totalCodes, htotal⟩ := totalIssues_returns hread
        simp only [hresults, hperiod, htotal, bind, Except.bind]
        exact ⟨_, rfl⟩
      · exact ⟨_, rfl⟩
    obtain ⟨v, hv⟩ := hreturns
    exact ⟨v, hv, reported hv⟩

end Returning

/-! ## An infinite number of days -/

section Case

local instance caseInterpreter : Interpreter := asciiInterpreter
local instance caseDates : DateLibrary := isoDates
local instance caseSha : Sha256 := .standard

/-- The claims of the document with the number of days that a decoder reads `Infinity` as. -/
def endlessClaims : List (String × Value) :=
  claimsWith (entry (.str "2026-08-01") "2026-08-01") (entry (.str "2026-08-07") "2026-08-07")
    (entry (.float ⟨.infinity false, "inf"⟩) "7") (entry (.str "2450.00") "$2450.00")
    (entry (.str "2026-08-10") "2026-08-10")

def raises {ε A : Type} : Except ε A → Bool
  | .ok _ => false
  | .error _ => true

theorem not_returns {ε A : Type} {result : Except ε A} {p : A → Prop} (h : raises result = true) :
    ¬ ∃ v, result = .ok v ∧ p v := by
  rintro ⟨v, hv, _⟩
  rw [hv] at h
  exact absurd h (by simp [raises])

/-- An infinite number of days escapes the validation. -/
theorem endless_raises :
    ¬ ∃ v, validateExtractedClaims ⟨2026, 8, 20, by decide⟩ endlessClaims
      [pageOf documentWords] = .ok v ∧ Reported endlessClaims v :=
  not_returns (by decide +kernel)

end Case

end Tally.Analysis.ClaimErrors
