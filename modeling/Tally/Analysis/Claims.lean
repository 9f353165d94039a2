import Mathlib.Algebra.Order.Ring.Rat
import Mathlib.Data.List.Dedup
import Tally.Library.Traversal
import Tally.Model.IntakeClaims

/-!
# What claim validation guarantees

A validation that passes holds one claim of every required field, in order, each anchored
in words of an existing page, and its days, period and amounts fit together.
-/

set_option autoImplicit false

namespace Tally.Analysis.Claims
open Library Library.Calendar Library.Sha256 Library.Traversal Model Model.IntakeClaims

/-! ## Anchors -/

section Anchors

variable [Interpreter] {K : Type}

/-- The run that is found is a part of the words with the tokens of the excerpt. -/
theorem findRun_some {excerptTokens : List (List Char)} {words run : List (PageWord K)}
    (h : findRun excerptTokens words = some run) :
    run <:+: words ∧ run.map (fun w => token w.text.toList) = excerptTokens := by
  induction words with
  | nil => exact absurd h (by simp [findRun])
  | cons word words ih =>
      rw [findRun] at h
      split at h
      · rename_i htokens
        obtain rfl := Option.some.inj h
        exact ⟨(List.take_prefix _ _).isInfix, htokens⟩
      · obtain ⟨hwithin, htokens⟩ := ih h
        exact ⟨hwithin.trans (List.suffix_cons word words).isInfix, htokens⟩

variable [Min K] [Max K] [Div K] [Sha256]

/-- An anchor names an existing page and a contiguous run of its words, whose joined text
hashes to its digest. -/
structure Anchored (pages : List (Page K)) (anchor : PdfAnchor K) (run : List (PageWord K)) :
    Prop where
  page : ∃ page ∈ pages, 1 ≤ anchor.pageNumber ∧
    pages[(anchor.pageNumber - 1).toNat]? = some page ∧ run <:+: page.words
  nonempty : run ≠ []
  excerpt : anchor.textExcerpt = joinedWords run
  digest : anchor.textExcerptSha256 = hexdigest (encode (joinedWords run))

theorem locatePdfAnchor_some {pages : List (Page K)} {pageNumber : Option Value}
    {textExcerpt : String} {anchor : PdfAnchor K}
    (h : locatePdfAnchor pages pageNumber textExcerpt = some anchor) :
    pageNumber = some (.int anchor.pageNumber) ∧
    ∃ run, Anchored pages anchor run ∧
      run.map (fun w => token w.text.toList) = tokens textExcerpt.toList := by
  unfold locatePdfAnchor at h
  split at h
  · rename_i number
    split at h
    · exact absurd h (by simp)
    · rename_i hrange
      split at h
      · exact absurd h (by simp)
      · rename_i page hpage
        dsimp only at h
        split at h
        · exact absurd h (by simp)
        · split at h
          · rename_i word words hrun
            obtain rfl := Option.some.inj h
            obtain ⟨hwithin, htokens⟩ := findRun_some hrun
            refine ⟨rfl, word :: words, ⟨⟨page, List.mem_of_getElem? hpage, ?_, hpage, hwithin⟩,
              List.cons_ne_nil _ _, rfl, rfl⟩, htokens⟩
            show 1 ≤ number
            omega
          · exact absurd h (by simp)
  · exact absurd h (by simp)

end Anchors

/-! ## Readings -/

section Readings

variable [Interpreter] [DateLibrary] {today : Date} {value : Value} {reading : Reading}

theorem readDate_ok (h : readDate today value = .ok reading) :
    ∃ date : Date, reading = ⟨.date, .text date.isoformat, none, none⟩ ∧
      DateLibrary.parse today value.text = .ok date := by
  unfold readDate at h
  split at h
  · rename_i date hdate
    obtain rfl := Except.ok.inj h
    exact ⟨date, rfl, hdate⟩
  · exact absurd h (by simp)
  · exact absurd h (by simp)

omit [DateLibrary] in
theorem readDays_ok (h : readDays value = .ok reading) :
    ∃ days : Int, reading = ⟨.integer, .integer days, none, none⟩ ∧ 1 ≤ days ∧ days ≤ 90 := by
  unfold readDays at h
  split at h
  · exact absurd h (by simp)
  · split at h
    · exact absurd h (by simp)
    · rename_i days _
      split at h
      · exact absurd h (by simp)
      · obtain rfl := Except.ok.inj h
        exact ⟨days, rfl, by omega, by omega⟩

omit [DateLibrary] in
theorem readMoney_ok (h : readMoney value = .ok reading) :
    ∃ amountMinor : Int,
      reading = ⟨.money, .money amountMinor "USD", some amountMinor, some "USD"⟩ := by
  unfold readMoney at h
  split at h
  · exact absurd h (by simp)
  · rename_i amountMinor _
    exact ⟨amountMinor, (Except.ok.inj h).symm⟩

end Readings

/-! ## Rounds of the loop -/

section Rounds

variable [Interpreter] [DateLibrary] [Sha256] {K : Type} [Min K] [Max K] [Div K] {today : Date}
  {pages : List (Page K)} {rawClaims : List (String × Value)}

/-- The claim a reading makes. -/
def claimOf (field : ClaimField) (value : Value) (anchor : PdfAnchor K) (reading : Reading) :
    ValidatedClaim K :=
  { fieldName := field
    valueType := reading.valueType
    rawValue := value.text
    normalizedValue := reading.normalizedValue
    amountMinor := reading.amountMinor
    currency := reading.currency
    anchor }

/-- Where a claim comes from: an anchored value and what its parser makes of it. -/
structure Read (today : Date) (pages : List (Page K)) (rawClaims : List (String × Value))
    (claim : ValidatedClaim K) (value : Value) (reading : Reading) : Prop where
  anchored : anchoredValue pages rawClaims claim.fieldName = .ok (value, claim.anchor)
  parsed : normalizeClaim today claim.fieldName value = .ok reading
  claim : claim = claimOf claim.fieldName value claim.anchor reading

theorem validateField_claim {field : ClaimField} {claim : ValidatedClaim K}
    (h : validateField today pages rawClaims field = .ok (.inl claim)) :
    claim.fieldName = field ∧ ∃ value reading, Read today pages rawClaims claim value reading := by
  unfold validateField at h
  split at h
  · exact absurd h (by simp)
  · rename_i value anchor hanchored
    split at h
    · split at h
      · exact absurd h (by simp)
      · exact absurd h (by simp)
    · rename_i reading hreading
      obtain rfl := Sum.inl.inj (Except.ok.inj h)
      exact ⟨rfl, value, reading, hanchored, hreading, rfl⟩

/-- A round that ends in an issue names its field. -/
theorem validateField_issue {field : ClaimField} {code : String}
    (h : validateField today pages rawClaims field = .ok (.inr code)) :
    code ∈ ["MISSING", "UNANCHORED", "INVALID"].map fun kind => issue kind field := by
  unfold validateField at h
  split at h
  · rename_i code' hcode
    obtain rfl := Sum.inr.inj (Except.ok.inj h)
    unfold anchoredValue at hcode
    split at hcode
    · split at hcode
      · obtain rfl := Except.error.inj hcode
        simp
      · split at hcode
        · obtain rfl := Except.error.inj hcode
          simp
        · split at hcode
          · obtain rfl := Except.error.inj hcode
            simp
          · exact absurd hcode (by simp)
      · obtain rfl := Except.error.inj hcode
        simp
    · obtain rfl := Except.error.inj hcode
      simp
  · split at h
    · split at h
      · obtain rfl := Sum.inr.inj (Except.ok.inj h)
        simp
      · exact absurd h (by simp)
    · exact absurd h (by simp)

/-- Claims are made for the fields of the loop, each at most once and in their order. -/
theorem fields_sublist {fields : List ClaimField} {results : List (ValidatedClaim K ⊕ String)}
    (h : List.Forall₂ (fun field result =>
      validateField today pages rawClaims field = .ok result) fields results) :
    ((results.filterMap Sum.getLeft?).map ValidatedClaim.fieldName).Sublist fields := by
  induction h with
  | nil => exact List.Sublist.refl []
  | @cons field result fields results hfield _ ih =>
      cases result with
      | inl claim =>
          rw [List.filterMap_cons_some (f := Sum.getLeft?) rfl, List.map_cons,
            (validateField_claim hfield).1]
          exact ih.cons_cons field
      | inr code =>
          rw [List.filterMap_cons_none (f := Sum.getLeft?) rfl]
          exact ih.cons field

theorem claim_of_mem {fields : List ClaimField} {results : List (ValidatedClaim K ⊕ String)}
    (h : List.Forall₂ (fun field result =>
      validateField today pages rawClaims field = .ok result) fields results)
    {claim : ValidatedClaim K} (hclaim : claim ∈ results.filterMap Sum.getLeft?) :
    ∃ value reading, Read today pages rawClaims claim value reading := by
  induction h with
  | nil => exact absurd hclaim (by simp)
  | @cons field result fields results hfield _ ih =>
      cases result with
      | inl first =>
          rw [List.filterMap_cons_some (f := Sum.getLeft?) rfl] at hclaim
          rcases List.mem_cons.mp hclaim with rfl | hlater
          · exact (validateField_claim hfield).2
          · exact ih hlater
      | inr code =>
          rw [List.filterMap_cons_none (f := Sum.getLeft?) rfl] at hclaim
          exact ih hclaim

/-- Without an issue every field has its claim. -/
theorem fields_of_no_issue {fields : List ClaimField}
    {results : List (ValidatedClaim K ⊕ String)}
    (h : List.Forall₂ (fun field result =>
      validateField today pages rawClaims field = .ok result) fields results)
    (hissues : results.filterMap Sum.getRight? = []) :
    (results.filterMap Sum.getLeft?).map ValidatedClaim.fieldName = fields := by
  induction h with
  | nil => rfl
  | @cons field result fields results hfield _ ih =>
      cases result with
      | inl claim =>
          rw [List.filterMap_cons_none (f := Sum.getRight?) rfl] at hissues
          rw [List.filterMap_cons_some (f := Sum.getLeft?) rfl, List.map_cons,
            (validateField_claim hfield).1, ih hissues]
      | inr code =>
          rw [List.filterMap_cons_some (f := Sum.getRight?) rfl] at hissues
          exact absurd hissues (List.cons_ne_nil _ _)

omit [Interpreter] [DateLibrary] [Sha256] [Min K] [Max K] [Div K] in
theorem byName_some {claims : List (ValidatedClaim K)} {field : ClaimField}
    {claim : ValidatedClaim K} (h : byName claims field = some claim) :
    claim ∈ claims ∧ claim.fieldName = field :=
  ⟨List.mem_of_find?_eq_some h, by simpa using List.find?_some h⟩

omit [Interpreter] [DateLibrary] [Sha256] [Min K] [Max K] [Div K] in
theorem byName_of_field {claims : List (ValidatedClaim K)} {field : ClaimField}
    (h : field ∈ claims.map ValidatedClaim.fieldName) :
    ∃ claim, byName claims field = some claim := by
  obtain ⟨claim, hclaim, hfield⟩ := List.mem_map.mp h
  refine Option.isSome_iff_exists.mp ?_
  unfold byName
  rw [List.find?_isSome]
  exact ⟨claim, hclaim, by simpa using hfield⟩

end Rounds

/-! ## Validations that pass -/

section Passing

variable [Interpreter] [DateLibrary] [Sha256] {K : Type} [Min K] [Max K] [Div K] {today : Date}
  {raw : List (String × Value)} {pages : List (Page K)} {v : ClaimValidation K}

/-- How a validation that returns came about. -/
structure Validated (today : Date) (pages : List (Page K)) (rawClaims : List (String × Value))
    (v : ClaimValidation K) (results : List (ValidatedClaim K ⊕ String))
    (periodCodes totalCodes : List String) : Prop where
  rounds : List.Forall₂ (fun field result =>
    validateField today pages rawClaims field = .ok result) requiredClaimFields results
  claims : v.claims = results.filterMap Sum.getLeft?
  period : periodIssues v.claims = .ok periodCodes
  total : totalIssues v.claims = .ok totalCodes
  issues : v.issueCodes =
    (results.filterMap Sum.getRight? ++ periodCodes ++ totalCodes).dedup.insertionSort (· ≤ ·)

theorem validateExtractedClaims_ok (h : validateExtractedClaims today raw pages = .ok v) :
    (v = ⟨[], ["INVALID_MODEL_SCHEMA"]⟩ ∧
      ∀ rawClaims, getMember raw "claims" ≠ some (.dict rawClaims)) ∨
    ∃ rawClaims results period total, getMember raw "claims" = some (.dict rawClaims) ∧
      Validated today pages rawClaims v results period total := by
  unfold validateExtractedClaims at h
  split at h
  · rename_i rawClaims hclaims
    right
    cases hresults : requiredClaimFields.mapM (validateField today pages rawClaims) with
    | error e =>
        rw [hresults] at h
        exact absurd h (by simp [bind, Except.bind])
    | ok results =>
        rw [hresults] at h
        change (periodIssues (results.filterMap Sum.getLeft?) >>= _) = _ at h
        cases hperiod : periodIssues (results.filterMap Sum.getLeft?) with
        | error e =>
            rw [hperiod] at h
            exact absurd h (by simp [bind, Except.bind])
        | ok period =>
            rw [hperiod] at h
            change (totalIssues (results.filterMap Sum.getLeft?) >>= _) = _ at h
            cases htotal : totalIssues (results.filterMap Sum.getLeft?) with
            | error e =>
                rw [htotal] at h
                exact absurd h (by simp [bind, Except.bind])
            | ok total =>
                rw [htotal] at h
                obtain rfl := Except.ok.inj h
                exact ⟨rawClaims, results, period, total, hclaims, mapM_ok hresults, rfl, hperiod,
                  htotal, rfl⟩
  · rename_i hraw
    exact Or.inl ⟨(Except.ok.inj h).symm, hraw⟩

omit [Interpreter] [DateLibrary] [Sha256] [Min K] [Max K] [Div K] in
theorem nil_of_sorted {codes : List String}
    (h : codes.dedup.insertionSort (· ≤ ·) = []) : codes = [] := by
  have hlength := List.length_insertionSort (· ≤ ·) codes.dedup
  rw [h] at hlength
  have hdedup : codes.dedup = [] := List.length_eq_zero_iff.mp hlength.symm
  refine List.eq_nil_iff_forall_not_mem.mpr ?_
  intro code hcode
  have hmem := List.mem_dedup.mpr hcode
  rw [hdedup] at hmem
  exact absurd hmem (by simp)

/-- A validation that passes went through every field without an issue. -/
theorem passed_cases (h : validateExtractedClaims today raw pages = .ok v)
    (hpassed : v.passed = true) :
    ∃ rawClaims, getMember raw "claims" = some (.dict rawClaims) ∧
      v.claims.map ValidatedClaim.fieldName = requiredClaimFields ∧
      (∀ claim ∈ v.claims, ∃ value reading, Read today pages rawClaims claim value reading) ∧
      periodIssues v.claims = .ok [] ∧ totalIssues v.claims = .ok [] := by
  have hnone : v.issueCodes = [] := List.isEmpty_iff.mp hpassed
  rcases validateExtractedClaims_ok h with ⟨rfl, _⟩ | ⟨rawClaims, results, period, total, hraw, hv⟩
  · exact absurd hnone (by simp)
  · have hcodes := nil_of_sorted (hv.issues ▸ hnone)
    obtain ⟨hrest, htotal⟩ := List.append_eq_nil_iff.mp hcodes
    obtain ⟨hissues, hperiod⟩ := List.append_eq_nil_iff.mp hrest
    subst htotal hperiod
    refine ⟨rawClaims, hraw, ?_, ?_, hv.period, hv.total⟩
    · rw [hv.claims]
      exact fields_of_no_issue hv.rounds hissues
    · rw [hv.claims]
      exact fun claim hclaim => claim_of_mem hv.rounds hclaim

omit [DateLibrary] in
/-- The anchored value of a claim comes from a located excerpt. -/
theorem anchoredValue_ok {rawClaims : List (String × Value)} {field : ClaimField} {value : Value}
    {anchor : PdfAnchor K} (h : anchoredValue pages rawClaims field = .ok (value, anchor)) :
    ∃ entry excerpt, getMember rawClaims field.value = some (.dict entry) ∧
      getMember entry "value" = some value ∧ getMember entry "text_excerpt" = some (.str excerpt) ∧
      locatePdfAnchor pages (getMember entry "page_number") excerpt = some anchor := by
  unfold anchoredValue at h
  split at h
  · rename_i entry hentry
    split at h
    · exact absurd h (by simp)
    · rename_i value' excerpt _ hvalue hexcerpt
      split at h
      · exact absurd h (by simp)
      · split at h
        · exact absurd h (by simp)
        · rename_i anchor' hanchor
          obtain ⟨rfl, rfl⟩ := Prod.mk.inj (Except.ok.inj h)
          exact ⟨entry, excerpt, hentry, hvalue, hexcerpt, hanchor⟩
    · exact absurd h (by simp)
  · exact absurd h (by simp)

/-- What the claims of a passed validation say together. -/
structure Consistent (claims : List (ValidatedClaim K)) (start last : Date)
    (days rate total : Int) : Prop where
  periodStart : ∃ claim, byName claims .periodStart = some claim ∧
    claim.normalizedValue = .text start.isoformat
  periodEnd : ∃ claim, byName claims .periodEnd = some claim ∧
    claim.normalizedValue = .text last.isoformat
  chargedDays : ∃ claim, byName claims .chargedDays = some claim ∧
    claim.normalizedValue = .integer days
  dailyRate : ∃ claim, byName claims .dailyRate = some claim ∧ claim.amountMinor = some rate
  claimedTotal : ∃ claim, byName claims .total = some claim ∧ claim.amountMinor = some total
  positive : 1 ≤ days
  bounded : days ≤ 90
  period : (last.toOrdinal : Int) - start.toOrdinal + 1 = days
  amount : rate * days = total

/-- A valid set of claims. -/
structure ValidClaims (pages : List (Page K)) (claims : List (ValidatedClaim K)) : Prop where
  fields : claims.map ValidatedClaim.fieldName = requiredClaimFields
  anchored : ∀ claim ∈ claims, ∃ run, Anchored pages claim.anchor run
  currency : ∀ claim ∈ claims, claim.fieldName = .dailyRate ∨ claim.fieldName = .total →
    claim.currency = some "USD"
  consistent : ∃ start last days rate total, Consistent claims start last days rate total

omit [Interpreter] [DateLibrary] [Sha256] [Min K] [Max K] [Div K] in
theorem periodIssues_nil {claims : List (ValidatedClaim K)} {a b c : ValidatedClaim K}
    {start last : Date} {days : Int} (ha : byName claims .periodStart = some a)
    (hb : byName claims .periodEnd = some b) (hc : byName claims .chargedDays = some c)
    (hstart : a.normalizedValue = .text start.isoformat)
    (hlast : b.normalizedValue = .text last.isoformat) (hdays : c.normalizedValue = .integer days)
    (h : periodIssues claims = .ok []) : (last.toOrdinal : Int) - start.toOrdinal + 1 = days := by
  unfold periodIssues at h
  rw [ha, hb, hc] at h
  simp only [hstart, hlast, hdays, claimDate, claimInt, Date.fromisoformat_isoformat] at h
  change Except.ok (if _ then _ else _) = _ at h
  split at h
  · exact absurd h (by simp)
  · rename_i hsame
    by_contra hne
    exact hsame (Or.inr hne)

omit [Interpreter] [DateLibrary] [Sha256] [Min K] [Max K] [Div K] in
theorem totalIssues_nil {claims : List (ValidatedClaim K)} {a b c : ValidatedClaim K}
    {rate days total : Int} (ha : byName claims .dailyRate = some a)
    (hb : byName claims .chargedDays = some b) (hc : byName claims .total = some c)
    (hrate : a.amountMinor = some rate) (hdays : b.normalizedValue = .integer days)
    (htotal : c.amountMinor = some total) (h : totalIssues claims = .ok []) :
    rate * days = total := by
  unfold totalIssues at h
  rw [ha, hb, hc] at h
  simp only [hrate, hdays, htotal, claimInt, Option.getD_some] at h
  change Except.ok (if _ then _ else _) = _ at h
  split at h
  · exact absurd h (by simp)
  · rename_i hsame
    by_contra hne
    exact hsame (fun heq => hne (Option.some.inj heq))

/-- The claims of a validation that passes are valid. -/
theorem claims_valid (today : Date) (raw : List (String × Value)) (pages : List (Page K))
    (v : ClaimValidation K) (h : validateExtractedClaims today raw pages = .ok v)
    (hpassed : v.passed = true) : ValidClaims pages v.claims := by
  obtain ⟨rawClaims, _, hfields, hread, hperiod, htotal⟩ := passed_cases h hpassed
  have hclaim : ∀ field, ∃ claim value reading, byName v.claims field = some claim ∧
      claim.fieldName = field ∧ Read today pages rawClaims claim value reading := by
    intro field
    have hmem : field ∈ v.claims.map ValidatedClaim.fieldName := by
      rw [hfields]
      cases field <;> decide
    obtain ⟨claim, hclaim⟩ := byName_of_field hmem
    obtain ⟨hmem, hfield⟩ := byName_some hclaim
    obtain ⟨value, reading, hread⟩ := hread claim hmem
    exact ⟨claim, value, reading, hclaim, hfield, hread⟩
  refine ⟨hfields, ?_, ?_, ?_⟩
  · intro claim hclaim
    obtain ⟨value, reading, hread⟩ := hread claim hclaim
    obtain ⟨entry, excerpt, _, _, _, hlocated⟩ := anchoredValue_ok hread.anchored
    obtain ⟨_, run, hrun, _⟩ := locatePdfAnchor_some hlocated
    exact ⟨run, hrun⟩
  · intro claim hclaim hmoney
    obtain ⟨value, reading, hread⟩ := hread claim hclaim
    have hparsed : readMoney value = .ok reading := by
      rcases hmoney with hfield | hfield
      · have hparsed := hread.parsed
        rwa [hfield] at hparsed
      · have hparsed := hread.parsed
        rwa [hfield] at hparsed
    obtain ⟨amount, rfl⟩ := readMoney_ok hparsed
    rw [hread.claim]
    rfl
  · obtain ⟨a, _, ra, ha, hfa, hreada⟩ := hclaim .periodStart
    obtain ⟨b, _, rb, hb, hfb, hreadb⟩ := hclaim .periodEnd
    obtain ⟨c, _, rc, hc, hfc, hreadc⟩ := hclaim .chargedDays
    obtain ⟨d, _, rd, hd, hfd, hreadd⟩ := hclaim .dailyRate
    obtain ⟨e, _, re, he, hfe, hreade⟩ := hclaim .total
    obtain ⟨start, rfl, _⟩ := readDate_ok (hfa ▸ hreada.parsed)
    obtain ⟨last, rfl, _⟩ := readDate_ok (hfb ▸ hreadb.parsed)
    obtain ⟨days, rfl, hpos, hle⟩ := readDays_ok (hfc ▸ hreadc.parsed)
    obtain ⟨rate, rfl⟩ := readMoney_ok (hfd ▸ hreadd.parsed)
    obtain ⟨total, rfl⟩ := readMoney_ok (hfe ▸ hreade.parsed)
    have hva : a.normalizedValue = .text start.isoformat := by rw [hreada.claim]; rfl
    have hvb : b.normalizedValue = .text last.isoformat := by rw [hreadb.claim]; rfl
    have hvc : c.normalizedValue = .integer days := by rw [hreadc.claim]; rfl
    have hvd : d.amountMinor = some rate := by rw [hreadd.claim]; rfl
    have hve : e.amountMinor = some total := by rw [hreade.claim]; rfl
    exact ⟨start, last, days, rate, total, ⟨a, ha, hva⟩, ⟨b, hb, hvb⟩, ⟨c, hc, hvc⟩, ⟨d, hd, hvd⟩,
      ⟨e, he, hve⟩, hpos, hle, periodIssues_nil ha hb hc hva hvb hvc hperiod,
      totalIssues_nil hd hc he hvd hvc hve htotal⟩

end Passing

/-! ## A document -/

section Case

/-- An interpreter that knows the ASCII characters. -/
@[reducible] def asciiInterpreter : Interpreter where
  isSpace c := c = ' '
  upper c := [c.toUpper]
  digitValue c := if isDigit c then some (c.toNat - 48) else none
  containerText _ := ""

/-- A date library that reads the ISO format. -/
@[reducible] def isoDates : DateLibrary where
  parse _ text :=
    match Date.fromisoformat text with
    | some date => .ok date
    | none => .error .valueError

local instance caseInterpreter : Interpreter := asciiInterpreter
local instance caseDates : DateLibrary := isoDates
local instance caseSha : Sha256 := .standard

/-- A page of words in one line. -/
def pageOf (words : List String) : Page ℚ where
  words := words.map fun text => ⟨text, 72, 72, 144, 84⟩
  width := 612
  height := 792

/-- What the model says about a field, with its quote from the first page. -/
def entry (value : Value) (excerpt : String) : Value :=
  .dict [("value", value), ("text_excerpt", .str excerpt), ("page_number", .int 1)]

def documentWords : List String :=
  ["INV-1", "TEMU1234567", "BOL-001", "DEMURRAGE", "2026-08-01", "2026-08-07", "7", "$350.00",
    "$2450.00", "2026-08-10"]

/-- Claims about the document, some of them replaced. -/
def claimsWith (periodStart periodEnd chargedDays total issuedDate : Value) :
    List (String × Value) :=
  [("claims", .dict
    [("invoice_number", entry (.str "INV-1") "INV-1"),
      ("container_number", entry (.str "TEMU1234567") "TEMU1234567"),
      ("bill_of_lading", entry (.str "BOL-001") "BOL-001"),
      ("charge_type", entry (.str "Demurrage") "DEMURRAGE"),
      ("period_start", periodStart), ("period_end", periodEnd), ("charged_days", chargedDays),
      ("daily_rate", entry (.str "350.00") "$350.00"), ("total", total),
      ("issued_date", issuedDate)])]

def documentClaims : List (String × Value) :=
  claimsWith (entry (.str "2026-08-01") "2026-08-01") (entry (.str "2026-08-07") "2026-08-07")
    (entry (.int 7) "7") (entry (.str "2450.00") "$2450.00")
    (entry (.str "2026-08-10") "2026-08-10")

/-- Whether a validation returns and passes. -/
def passes {K : Type} (result : Except ClaimError (ClaimValidation K)) : Bool :=
  match result with
  | .ok v => v.passed
  | .error _ => false

theorem passes_iff {K : Type} {result : Except ClaimError (ClaimValidation K)} :
    passes result = true ↔ ∃ v, result = .ok v ∧ v.passed = true := by
  cases result with
  | error e => simp [passes]
  | ok v => simp [passes]

theorem claims_valid_document :
    ∃ v, validateExtractedClaims ⟨2026, 8, 20, by decide⟩ documentClaims [pageOf documentWords] = .ok v ∧
      v.passed = true ∧ ValidClaims [pageOf documentWords] v.claims := by
  have hpasses : passes (validateExtractedClaims ⟨2026, 8, 20, by decide⟩ documentClaims
      [pageOf documentWords]) = true := by decide +kernel
  obtain ⟨v, hv, hpassed⟩ := passes_iff.mp hpasses
  exact ⟨v, hv, hpassed, claims_valid _ _ _ v hv hpassed⟩

end Case

end Tally.Analysis.Claims
