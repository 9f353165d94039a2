import Tally.Analysis.AmountTexts

/-!
# Dollar amounts of drafts

A dollar amount of a prose is a dollar sign and a numeral that nothing goes on with, but for the
commas of the sentence. The check finds every one of them, and supports it by a number from the
list, whatever that number stands for there. An accepted amount denotes one of the three amounts
of the seal unless the number that supports it was put on the list for something else.
-/

set_option autoImplicit false

namespace Tally.Analysis.DraftAmounts
open Tally.Model Tally.Model.Receipt
open Tally.Analysis.AmountTexts Tally.Analysis.ProseNumbers
open CharacterTables PatternTables

section Amounts

variable [PatternTables]

/-! ## Written amounts -/

/-- Digits that stand plainly, or in groups of three with commas between them. -/
def Thousands (text : List Char) : Prop :=
  ∃ (first : List Char) (rest : List (List Char)),
    text = first ++ rest.flatMap (',' :: ·) ∧ first ≠ [] ∧ (rest ≠ [] → first.length ≤ 3) ∧
      (∀ c ∈ first, isDecimal c = true) ∧
      ∀ group ∈ rest, group.length = 3 ∧ ∀ c ∈ group, isDecimal c = true

/-- The prose has a dollar sign, a whole number and a fraction, if there is one, with nothing that
goes on with them. Commas may follow a whole number as they follow a word. -/
def WrittenAt (prose whole commas fraction : List Char) : Prop :=
  ∃ before after, prose = before ++ '$' :: (whole ++ commas ++ pointed fraction ++ after) ∧
    Thousands whole ∧ (∀ c ∈ commas, c = ',') ∧ (∀ c ∈ fraction, isDecimal c = true) ∧
    (fraction ≠ [] → commas = []) ∧
    if fraction = [] then (∀ c ∈ after.head?, isNumeral c = false) ∧ fractionOf after = []
      else ∀ c ∈ after.head?, isDecimal c = false

theorem Thousands.numeral {whole : List Char} (h : Thousands whole) :
    ∀ c ∈ whole, isNumeral c = true := by
  obtain ⟨first, rest, rfl, _, _, hfirst, hrest⟩ := h
  intro c hc
  rcases List.mem_append.mp hc with hc | hc
  · exact isNumeral_of_isDecimal (hfirst c hc)
  · obtain ⟨group, hgroup, hmem⟩ := List.mem_flatMap.mp hc
    rcases List.mem_cons.mp hmem with rfl | hmem
    · unfold isNumeral
      simp
    · exact isNumeral_of_isDecimal ((hrest group hgroup).2 c hmem)

theorem Thousands.head {whole : List Char} (h : Thousands whole) :
    whole.head?.any isDecimal = true := by
  obtain ⟨first, rest, rfl, hne, _, hfirst, _⟩ := h
  cases first with
  | nil => exact absurd rfl hne
  | cons c first => simpa using hfirst c (by simp)

/-- The check reads every dollar amount of a prose. -/
theorem mem_numbersOf {prose whole commas fraction : List Char}
    (h : WrittenAt prose whole commas fraction) :
    '$' :: (whole ++ commas ++ pointed fraction) ∈ numbersOf prose := by
  obtain ⟨before, after, rfl, hwhole, hcommas, hfraction, _, hafter⟩ := h
  have hrun : ∀ c ∈ whole ++ commas, isNumeral c = true := by
    intro c hc
    rcases List.mem_append.mp hc with hc | hc
    · exact hwhole.numeral c hc
    · rw [hcommas c hc]
      unfold isNumeral
      simp
  have hread := numeralOf_append hrun hfraction isDecimal_point hafter
  have hhead : (whole ++ commas ++ pointed fraction ++ after).head?.any isDecimal = true := by
    have hfirst := hwhole.head
    cases whole with
    | nil => exact absurd hfirst (by simp)
    | cons c whole => exact hfirst
  rw [numbersOf_append stops_dollar, numbersOf_cons]
  have hstart : start '$' (whole ++ commas ++ pointed fraction ++ after) =
      whole ++ commas ++ pointed fraction ++ after := if_pos rfl
  rw [hstart, if_pos hhead, hread]
  exact List.mem_append_right _ List.mem_cons_self

/-! ## What the list supports -/

/-- The numeral denotes one of the three amounts of the seal. -/
def Denotes (pack : SealedFactPack) (numeral : List Char) : Prop :=
  ∃ amount ∈ amounts pack, dollarsOf numeral = (amount : ℚ) / 100

/-- The number is on the list for something else than dollars that it denotes: the minor units of
an amount, the dollars of an amount with cents left out, a date or a part of one, or a number of
an identifier. -/
def Misplaced (pack : SealedFactPack) (number : List Char) : Prop :=
  (∃ amount ∈ amounts pack, 0 ≤ amount ∧ number = plain amount ∧ 100 * amount ∉ amounts pack) ∨
  (∃ amount ∈ amounts pack, 0 ≤ amount ∧ amount % 100 ≠ 0 ∧
    (number = plain (amount / 100) ∨ number = grouped (amount / 100)) ∧
    100 * (amount / 100) ∉ amounts pack) ∨
  ((∃ text ∈ periodDates pack, number ∈ dateNumbers text) ∨
    ∃ text ∈ identifiers pack, number ∈ identifierNumbers text) ∧ ¬Denotes pack number

theorem dollarsOf_groupedWhole {value : Int} (h : 0 ≤ value) :
    dollarsOf (grouped value) = value := by
  have hgrouped := dollarsOf_grouped h []
  rw [List.append_nil, List.append_nil] at hgrouped
  rw [hgrouped, dollarsOf_whole h]

/-- The dollars of an amount denote themselves, with commas or without them. -/
theorem dollarsOf_wholeShape {value : Int} (h : 0 ≤ value) {number : List Char}
    (htext : number = plain value ∨ number = grouped value) : dollarsOf number = value := by
  rcases htext with rfl | rfl
  · exact dollarsOf_whole h
  · exact dollarsOf_groupedWhole h

theorem denotes_whole {pack : SealedFactPack} {value : Int} {number : List Char}
    (hdollars : dollarsOf number = value) : Denotes pack number ↔ 100 * value ∈ amounts pack := by
  unfold Denotes
  rw [hdollars]
  constructor
  · rintro ⟨amount, hamount, heq⟩
    have hvalue : 100 * value = amount := by
      have hrational : (100 : ℚ) * value = amount := by rw [heq]; ring
      exact_mod_cast hrational
    rw [hvalue]
    exact hamount
  · intro h
    refine ⟨_, h, ?_⟩
    push_cast
    ring

/-- A number on the list that is a numeral denotes one of the amounts, or is there for something
else. -/
theorem denotes_or_misplaced {pack : SealedFactPack} {number : List Char}
    (hlisted : number ∈ supportedNumberTokens pack)
    (hhead : number.head?.any isDecimal = true) : Denotes pack number ∨ Misplaced pack number := by
  rcases mem_supportedNumberTokens.mp hlisted with ⟨amount, hamount, hshape⟩ | hother
  · have hnonneg : 0 ≤ amount := by
      by_contra hneg
      rw [head_shape (by omega) hshape, Option.any_some, isDecimal_minus] at hhead
      exact absurd hhead (by decide)
    have hwhole : 0 ≤ amount / 100 := by omega
    have hleft (htext : number = plain (amount / 100) ∨ number = grouped (amount / 100)) :
        Denotes pack number ∨ Misplaced pack number := by
      by_cases hmem : 100 * (amount / 100) ∈ amounts pack
      · exact Or.inl ((denotes_whole (dollarsOf_wholeShape hwhole htext)).mpr hmem)
      · refine Or.inr (Or.inr (Or.inl ⟨amount, hamount, hnonneg, ?_, htext, hmem⟩))
        intro hcents
        have hsame : 100 * (amount / 100) = amount := by omega
        rw [hsame] at hmem
        exact hmem hamount
    unfold amountTokens at hshape
    simp only [List.mem_cons, List.not_mem_nil, or_false] at hshape
    rcases hshape with hminor | hplain | hgrouped | hcents | hcents
    · by_cases hmem : 100 * amount ∈ amounts pack
      · exact Or.inl ((denotes_whole (by rw [hminor, dollarsOf_whole hnonneg])).mpr hmem)
      · exact Or.inr (Or.inl ⟨amount, hamount, hnonneg, hminor, hmem⟩)
    · exact hleft (Or.inl hplain)
    · exact hleft (Or.inr hgrouped)
    · exact Or.inl ⟨amount, hamount, by rw [hcents, dollarsOf_cents hnonneg]⟩
    · refine Or.inl ⟨amount, hamount, ?_⟩
      rw [hcents, dollarsOf_grouped hwhole, dollarsOf_cents hnonneg]
  · by_cases hdenotes : Denotes pack number
    · exact Or.inl hdenotes
    · exact Or.inr (Or.inr (Or.inr ⟨hother, hdenotes⟩))

/-- A number that is on the list for something else denotes none of the amounts. -/
theorem not_denotes_of_misplaced {pack : SealedFactPack} {number : List Char}
    (h : Misplaced pack number) : ¬Denotes pack number := by
  rcases h with ⟨amount, _, hnonneg, rfl, hnot⟩ | ⟨amount, _, hnonneg, _, htext, hnot⟩ | ⟨_, hnot⟩
  · rw [denotes_whole (dollarsOf_whole hnonneg)]
    exact hnot
  · have hwhole : 0 ≤ amount / 100 := by omega
    rw [denotes_whole (dollarsOf_wholeShape hwhole htext)]
    exact hnot
  · exact hnot

/-! ## Accepted proses -/

/-- Commas behind an amount do not change it. -/
theorem dollarsOf_commas {whole commas fraction : List Char} (hcommas : ∀ c ∈ commas, c = ',') :
    dollarsOf (whole ++ commas ++ pointed fraction) = dollarsOf (whole ++ pointed fraction) := by
  have hnone : commas.filter (· ≠ ',') = [] := by
    rw [List.filter_eq_nil_iff]
    intro c hc
    simp [hcommas c hc]
  rw [← dollarsOf_filter (whole ++ commas ++ pointed fraction),
    ← dollarsOf_filter (whole ++ pointed fraction), List.filter_append, List.filter_append,
    hnone, List.append_nil, List.filter_append]

/-- The number that supports an amount of the prose: it has the commas of the amount and of the
sentence, or none. -/
def SupportedAs (whole commas fraction number : List Char) : Prop :=
  number = whole ++ commas ++ pointed fraction ∨
    number = (whole ++ commas ++ pointed fraction).filter (· ≠ ',')

theorem SupportedAs.denotes_same {pack : SealedFactPack}
    {prose whole commas fraction number : List Char}
    (hwritten : WrittenAt prose whole commas fraction)
    (h : SupportedAs whole commas fraction number) :
    Denotes pack number ↔ Denotes pack (whole ++ pointed fraction) := by
  obtain ⟨_, _, _, _, hcommas, _⟩ := hwritten
  unfold Denotes
  rcases h with rfl | rfl
  · rw [dollarsOf_commas hcommas]
  · rw [dollarsOf_filter, dollarsOf_commas hcommas]

/-- In an accepted prose every dollar amount denotes one of the three amounts of the seal exactly
if none is a number that is on the list for something else.
SOURCE: core/correspondence.py:98-174 -/
theorem amounts_denote_iff {pack : SealedFactPack} {prose : String}
    (haccepted : (validateDraftProse pack prose).ok = true) :
    (∀ whole commas fraction, WrittenAt prose.toList whole commas fraction →
        Denotes pack (whole ++ pointed fraction)) ↔
      ∀ whole commas fraction, WrittenAt prose.toList whole commas fraction →
        ∀ number, SupportedAs whole commas fraction number → ¬Misplaced pack number := by
  constructor
  · intro hdenotes whole commas fraction hwritten number hnumber hmisplaced
    refine not_denotes_of_misplaced hmisplaced ?_
    exact (hnumber.denotes_same hwritten).mpr (hdenotes whole commas fraction hwritten)
  · intro hplaced whole commas fraction hwritten
    have hread := mem_numbersOf hwritten
    have hthousands : Thousands whole := by
      obtain ⟨_, _, _, hthousands, _⟩ := hwritten
      exact hthousands
    have hfirst := hthousands.head
    obtain ⟨c, rest, hwhole, hc⟩ : ∃ c rest, whole = c :: rest ∧ isDecimal c = true := by
      cases whole with
      | nil => exact absurd hfirst (by simp)
      | cons c rest => exact ⟨c, rest, rfl, by simpa using hfirst⟩
    have hcdollar : c ≠ '$' := by
      rintro rfl
      rw [isDecimal_dollar] at hc
      exact absurd hc (by decide)
    have hbare : ('$' :: (whole ++ commas ++ pointed fraction)).dropWhile (· = '$') =
        whole ++ commas ++ pointed fraction := by
      rw [List.dropWhile_cons_of_pos (by decide), hwhole, List.cons_append, List.cons_append,
        List.dropWhile_cons_of_neg (by simpa using hcdollar)]
    have hadmitted := admitted_of_accepted haccepted hread
    unfold Admitted Covered at hadmitted
    rw [hbare] at hadmitted
    obtain ⟨number, hnumber, hlisted⟩ : ∃ number, SupportedAs whole commas fraction number ∧
        number ∈ supportedNumberTokens pack := by
      rcases hadmitted with hlisted | hlisted
      · exact ⟨_, Or.inl rfl, hlisted⟩
      · exact ⟨_, Or.inr rfl, hlisted⟩
    have hhead : number.head?.any isDecimal = true := by
      rcases hnumber with rfl | rfl
      · rw [hwhole]
        simpa using hc
      · rw [hwhole, List.cons_append, List.cons_append,
          List.filter_cons_of_pos (by simpa using ne_comma_of_isDecimal hc)]
        simpa using hc
    rcases denotes_or_misplaced hlisted hhead with hdenotes | hmisplaced
    · exact (hnumber.denotes_same hwritten).mp hdenotes
    · exact absurd hmisplaced (hplaced whole commas fraction hwritten number hnumber)

end Amounts

/-! ## Minor units after a dollar sign -/

section Case

local instance caseTables : PatternTables := asciiPatterns

/-- The facts of a dispute of 700 dollars. -/
def disputedFacts : SealedFactPack :=
  { invoiceId := 1
    decisionSealId := 2
    sealDigest := ""
    recommendationType := .dispute
    disputedAmountMinor := 70000
    supportedAmountMinor := 0
    currency := "USD"
    chargedPeriodStart := "2026-06-08"
    chargedPeriodEnd := "2026-06-10"
    containerRef := "TLLU-482931-7"
    invoiceNo := "INV-1048"
    ruleRef := "Clause 4.2" }

theorem amounts_denote_credit :
    (validateDraftProse disputedFacts "We dispute $700.00 of this invoice.").ok = true ∧
      ((∀ whole commas fraction,
          WrittenAt "We dispute $700.00 of this invoice.".toList whole commas fraction →
          Denotes disputedFacts (whole ++ pointed fraction)) ↔
        ∀ whole commas fraction,
          WrittenAt "We dispute $700.00 of this invoice.".toList whole commas fraction →
          ∀ number, SupportedAs whole commas fraction number →
            ¬Misplaced disputedFacts number) := by
  have haccepted :
      (validateDraftProse disputedFacts "We dispute $700.00 of this invoice.").ok = true := by
    decide +kernel
  exact ⟨haccepted, amounts_denote_iff haccepted⟩

/-- The disputed 700 dollars may be written as 70000. -/
theorem cents_as_dollars :
    (validateDraftProse disputedFacts "We dispute $70000.").ok = true ∧
      WrittenAt "We dispute $70000.".toList ['7', '0', '0', '0', '0'] [] [] ∧
      ¬Denotes disputedFacts ['7', '0', '0', '0', '0'] := by
  refine ⟨by decide +kernel, ?_, ?_⟩
  · refine ⟨"We dispute ".toList, ['.'], by decide, ?_, fun c hc => absurd hc List.not_mem_nil,
      fun c hc => absurd hc List.not_mem_nil, fun h => absurd rfl h, ?_⟩
    · exact ⟨['7', '0', '0', '0', '0'], [], rfl, by decide, by decide,
        List.all_eq_true.mp (by decide), by simp⟩
    · rw [if_pos rfl]
      refine ⟨fun c hc => ?_, rfl⟩
      obtain rfl := Option.some.inj hc
      decide
  · have hdollars : dollarsOf ['7', '0', '0', '0', '0'] = ((70000 : Int) : ℚ) := by
      have hdigits : Library.Numerals.IsDigits ['7', '0', '0', '0', '0'] := by
        unfold Library.Numerals.IsDigits
        exact List.all_eq_true.mp (by decide)
      have h := dollarsOf_digits hdigits Library.Numerals.isDigits_nil
      simpa [pointed, Library.Numerals.number] using h
    rw [denotes_whole hdollars]
    decide

end Case

end Tally.Analysis.DraftAmounts
