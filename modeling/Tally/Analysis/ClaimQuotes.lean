import Tally.Analysis.Claims

/-!
# Values and their quotes

Validation locates the quote of a claim and parses its value, each without the other. The
claims of a validation that passes stand in their quotes exactly when the model quoted so:
when the words located for a field hold a text its parser reads as the value.
-/

set_option autoImplicit false

namespace Tally.Analysis.ClaimQuotes
open Library Library.Calendar Library.Sha256 Model Model.IntakeClaims Analysis.Claims

section Quotes

variable [Interpreter] [DateLibrary] {K : Type}

/-- A part of the words is read as the value of the field. -/
def StandsIn (today : Date) (field : ClaimField) (words : String) (normalized : ClaimValue) :
    Prop :=
  ∃ piece reading, piece <:+: words.toList ∧
    normalizeClaim today field (.str (String.ofList piece)) = .ok reading ∧
    reading.normalizedValue = normalized

/-- The value of a claim occurs in the excerpt of its anchor. -/
def Quoted (today : Date) (claim : ValidatedClaim K) : Prop :=
  StandsIn today claim.fieldName claim.anchor.textExcerpt claim.normalizedValue

/-- The value the model gives for a field and the words of the page with the tokens of its
quote. -/
def quotedWords (pages : List (Page K)) (rawClaims : List (String × Value))
    (field : ClaimField) : Option (Value × List (PageWord K)) :=
  match getMember rawClaims field.value with
  | some (.dict entry) =>
    match getMember entry "value", getMember entry "text_excerpt",
        getMember entry "page_number" with
    | some value, some (.str excerpt), some (.int number) =>
      match pages[(number - 1).toNat]? with
      | some page => (findRun (tokens excerpt.toList) page.words).map fun words => (value, words)
      | none => none
    | _, _, _ => none
  | _ => none

/-- The model quotes its values: the words located for a field hold a text that is read as
the field's value is. -/
def QuotesValues (today : Date) (raw : List (String × Value)) (pages : List (Page K)) : Prop :=
  ∀ rawClaims, getMember raw "claims" = some (.dict rawClaims) →
    ∀ field ∈ requiredClaimFields, ∀ value words reading,
      quotedWords pages rawClaims field = some (value, words) →
      normalizeClaim today field value = .ok reading →
      StandsIn today field (joinedWords words) reading.normalizedValue

variable [Min K] [Max K] [Div K] [Sha256] {today : Date} {raw rawClaims : List (String × Value)}
  {pages : List (Page K)}

omit [DateLibrary] in
/-- An anchor's excerpt joins the words located for the field. -/
theorem quotedWords_of_anchored {field : ClaimField} {value : Value} {anchor : PdfAnchor K}
    (h : anchoredValue pages rawClaims field = .ok (value, anchor)) :
    ∃ words, quotedWords pages rawClaims field = some (value, words) ∧
      anchor.textExcerpt = joinedWords words := by
  obtain ⟨entry, excerpt, hentry, hvalue, hexcerpt, hlocated⟩ := anchoredValue_ok h
  unfold quotedWords
  rw [hentry]
  simp only [hvalue, hexcerpt]
  unfold locatePdfAnchor at hlocated
  split at hlocated
  · rename_i number hnumber
    rw [hnumber]
    dsimp only
    split at hlocated
    · exact absurd hlocated (by simp)
    · split at hlocated
      · exact absurd hlocated (by simp)
      · rename_i page hpage
        dsimp only at hlocated
        rw [hpage]
        dsimp only
        split at hlocated
        · exact absurd hlocated (by simp)
        · split at hlocated
          · rename_i word words hrun
            obtain rfl := Option.some.inj hlocated
            exact ⟨word :: words, by rw [hrun]; rfl, rfl⟩
          · exact absurd hlocated (by simp)
  · exact absurd hlocated (by simp)

/-- A claim that was read stands in its quote exactly when the located words hold its value. -/
theorem quoted_iff_of_read {claim : ValidatedClaim K} {value : Value} {reading : Reading}
    (h : Read today pages rawClaims claim value reading) :
    ∃ words, quotedWords pages rawClaims claim.fieldName = some (value, words) ∧
      (Quoted today claim ↔
        StandsIn today claim.fieldName (joinedWords words) reading.normalizedValue) := by
  obtain ⟨words, hwords, hexcerpt⟩ := quotedWords_of_anchored h.anchored
  have hnormalized : claim.normalizedValue = reading.normalizedValue :=
    congrArg ValidatedClaim.normalizedValue h.claim
  refine ⟨words, hwords, ?_⟩
  unfold Quoted
  rw [hexcerpt, hnormalized]

omit [Sha256] in
/-- A text without a digit is no amount. -/
theorem not_standsIn_money {words : String} {normalized : ClaimValue}
    (h : words.toList.filter (fun c => isDigit c || c = '.' || c = '-') = []) :
    ¬ StandsIn today .total words normalized := by
  rintro ⟨piece, reading, hpiece, hreading, _⟩
  have hfiltered : piece.filter (fun c => isDigit c || c = '.' || c = '-') = [] := by
    have hsublist := hpiece.sublist.filter fun c => isDigit c || c = '.' || c = '-'
    rw [h] at hsublist
    exact List.eq_nil_of_sublist_nil hsublist
  have hmoney : readMoney (.str (String.ofList piece)) = .ok reading := hreading
  unfold readMoney parseUsdMinor at hmoney
  simp only [Value.text, String.toList_ofList, hfiltered] at hmoney
  simp [parseDecimal] at hmoney

end Quotes

/-! ## Claims about the document -/

section Case

local instance caseInterpreter : Interpreter := asciiInterpreter
local instance caseDates : DateLibrary := isoDates
local instance caseSha : Sha256 := .standard

/-- A document that states no total. -/
def totallessWords : List String :=
  ["INV-1", "TEMU1234567", "BOL-001", "DEMURRAGE", "2026-08-01", "2026-08-07", "7", "$350.00",
    "2026-08-10"]

/-- Claims with a total and the charge type as its quote. -/
def unquotedClaims : List (String × Value) :=
  claimsWith (entry (.str "2026-08-01") "2026-08-01") (entry (.str "2026-08-07") "2026-08-07")
    (entry (.int 7) "7") (entry (.str "2450.00") "DEMURRAGE")
    (entry (.str "2026-08-10") "2026-08-10")

/-- Whether a validation passes with a total quoted by the given words. -/
def passesQuoting {K : Type} (result : Except ClaimError (ClaimValidation K))
    (quote : String) : Bool :=
  match result with
  | .ok v => v.passed && v.claims.any fun claim =>
      decide (claim.fieldName = .total ∧ claim.anchor.textExcerpt = quote)
  | .error _ => false

theorem unquoted_of_passes {K : Type} {today : Date}
    {result : Except ClaimError (ClaimValidation K)} (quote : String)
    (h : passesQuoting result quote = true)
    (hquote : quote.toList.filter (fun c => isDigit c || c = '.' || c = '-') = []) :
    ∃ v, result = .ok v ∧ v.passed = true ∧ ∃ claim ∈ v.claims, ¬ Quoted today claim := by
  cases result with
  | error e => exact absurd h (by simp [passesQuoting])
  | ok v =>
      simp only [passesQuoting, Bool.and_eq_true, List.any_eq_true, decide_eq_true_eq] at h
      obtain ⟨hpassed, claim, hclaim, hfield, hexcerpt⟩ := h
      refine ⟨v, rfl, hpassed, claim, hclaim, ?_⟩
      unfold Quoted
      rw [hfield, hexcerpt]
      exact not_standsIn_money hquote

end Case

end Tally.Analysis.ClaimQuotes
