import Tally.Analysis.AmountTexts

/-!
# Drafts of sealed facts

A prose of words without digits and of sealed facts as they are, with spaces between them. Its
numbers are those of the facts, and the check takes its list from the facts by patterns of their
own. The shapes of an amount that is not negative are always supported; a number of a date or an
identifier is if the list has it from that text, or from another fact.
-/

set_option autoImplicit false

namespace Tally.Analysis.DraftFacts
open Tally.Model Tally.Model.Receipt
open Tally.Analysis.AmountTexts Tally.Analysis.ProseNumbers
open CharacterTables PatternTables

section Facts

variable [PatternTables]

/-! ## Proses of facts -/

omit [PatternTables] in
/-- The shapes of the amounts, with a dollar sign or without it. -/
def moneyTexts (pack : SealedFactPack) : List (List Char) :=
  (amounts pack).flatMap fun amount =>
    (amountTokens amount).flatMap fun shape => [shape, '$' :: shape]

def sealedTexts (pack : SealedFactPack) : List (List Char) :=
  moneyTexts pack ++ periodDates pack ++ identifiers pack

/-- Words without digits and sealed facts as they are, with spaces between them. -/
def Composed (pack : SealedFactPack) (prose : String) : Prop :=
  ∃ words, prose.toList = [' '].intercalate words ∧
    ∀ word ∈ words, (∀ c ∈ word, isDecimal c = false) ∨ word ∈ sealedTexts pack

/-- No prose of sealed facts is rejected for a number. -/
def Complete (pack : SealedFactPack) : Prop :=
  ∀ prose, Composed pack prose →
    ∀ number, "UNSUPPORTED_NUMBER:" ++ number ∉ (validateDraftProse pack prose).issues

/-- Every number of the text is supported. -/
def Supports (pack : SealedFactPack) (text : List Char) : Prop :=
  ∀ token ∈ numbersOf text, Admitted pack token

/-- The proses of sealed facts pass exactly if each fact does on its own. -/
theorem complete_iff_supports (pack : SealedFactPack) :
    Complete pack ↔ ∀ text ∈ sealedTexts pack, Supports pack text := by
  constructor
  · intro hcomplete text htext token htoken
    by_contra hnot
    have hcomposed : Composed pack (String.ofList text) := by
      refine ⟨[text], by rw [String.toList_ofList, List.intercalate_singleton], ?_⟩
      intro word hword
      obtain rfl := List.mem_singleton.mp hword
      exact Or.inr htext
    refine hcomplete _ hcomposed (String.ofList token) (unsupported_iff.mpr ?_)
    rw [String.toList_ofList, String.toList_ofList]
    exact ⟨htoken, hnot⟩
  · rintro hsupports prose ⟨words, hprose, hwords⟩ number hissue
    obtain ⟨hmem, hnot⟩ := unsupported_iff.mp hissue
    rw [hprose, numbersOf_words stops_space] at hmem
    obtain ⟨word, hword, hnumber⟩ := List.mem_flatMap.mp hmem
    rcases hwords word hword with hfree | htext
    · rw [numbersOf_eq_nil hfree] at hnumber
      exact absurd hnumber List.not_mem_nil
    · exact hnot (hsupports word htext _ hnumber)

/-! ## Amounts -/

theorem admitted_dollar {pack : SealedFactPack} {token : List Char} :
    Admitted pack ('$' :: token) ↔ Admitted pack token := by
  unfold Admitted Covered
  rw [List.dropWhile_cons_of_pos (by decide)]

/-- A dollar sign before a text adds no number. -/
theorem mem_numbersOf_dollar {text token : List Char} (h : token ∈ numbersOf ('$' :: text)) :
    token ∈ numbersOf text ∨ ∃ number ∈ numbersOf text, token = '$' :: number := by
  rw [numbersOf_cons] at h
  split at h
  · rename_i hdecimal
    cases text with
    | nil => exact absurd hdecimal (by simp [start])
    | cons c text =>
        have hc : c ≠ '$' := by
          rintro rfl
          simp [start, isDecimal_dollar] at hdecimal
        have hstart : start '$' (c :: text) = start c text := by
          unfold start
          rw [if_pos rfl, if_neg hc]
        rw [hstart] at h hdecimal
        rw [numbersOf_cons, if_pos hdecimal]
        unfold marked at h ⊢
        rw [if_neg hc]
        rw [if_pos rfl] at h
        rcases List.mem_cons.mp h with rfl | hrest
        · exact Or.inr ⟨_, List.mem_cons_self, rfl⟩
        · exact Or.inl (List.mem_cons_of_mem _ hrest)
  · exact Or.inl h

theorem Supports.dollar {pack : SealedFactPack} {text : List Char} (h : Supports pack text) :
    Supports pack ('$' :: text) := by
  intro token htoken
  rcases mem_numbersOf_dollar htoken with hmem | ⟨number, hmem, rfl⟩
  · exact h token hmem
  · exact admitted_dollar.mpr (h number hmem)

omit [PatternTables] in
theorem covered_self {numbers : List (List Char)} {token : List Char} (h : token ∈ numbers)
    (hdollar : token.head? ≠ some '$') : Covered numbers token := by
  refine Or.inl ?_
  cases token with
  | nil => exact h
  | cons c token =>
      rw [List.dropWhile_cons_of_neg]
      · exact h
      · intro hc
        exact hdollar (by simpa using hc)

/-- The shapes of an amount that is not negative are supported. -/
theorem supports_shape {pack : SealedFactPack} {amount : Int} (hamount : amount ∈ amounts pack)
    (h : 0 ≤ amount) {shape : List Char} (hshape : shape ∈ amountTokens amount) :
    Supports pack shape := by
  obtain ⟨run, fraction, hnumeral⟩ := isNumeral_shape h hshape
  intro token htoken
  rw [hnumeral.numbersOf] at htoken
  obtain rfl := List.mem_singleton.mp htoken
  refine covered_self (mem_supportedNumberTokens.mpr (Or.inl ⟨amount, hamount, hshape⟩)) ?_
  intro hdollar
  have hhead := hnumeral.head
  rw [hnumeral.text_eq] at hdollar
  cases run with
  | nil => exact absurd hhead (by simp)
  | cons c run =>
      obtain rfl : c = '$' := Option.some.inj hdollar
      rw [List.head?_cons, Option.any_some, isDecimal_dollar] at hhead
      exact absurd hhead (by decide)

/-! ## Dates and identifiers -/

/-- What is taken from a text for the list covers its numbers, or the list has them from
elsewhere. -/
def Settled (pack : SealedFactPack) (taken : List (List Char)) (text : List Char) : Prop :=
  ∀ token ∈ numbersOf text, ¬Covered taken token → Admitted pack token

theorem admitted_of_covered {pack : SealedFactPack} {taken : List (List Char)} {token : List Char}
    (htaken : ∀ number ∈ taken, number ∈ supportedNumberTokens pack) (h : Covered taken token) :
    Admitted pack token := h.imp (htaken _) (htaken _)

theorem supports_iff_settled {pack : SealedFactPack} {taken : List (List Char)} {text : List Char}
    (htaken : ∀ number ∈ taken, number ∈ supportedNumberTokens pack) :
    Supports pack text ↔ Settled pack taken text := by
  constructor
  · intro h token htoken _
    exact h token htoken
  · intro h token htoken
    by_cases hcovered : Covered taken token
    · exact admitted_of_covered htaken hcovered
    · exact h token htoken hcovered

/-- No prose of sealed facts is rejected for a number exactly if the numbers of each date and each
identifier are among those that are taken from it, or are supported by another fact, and so are
the digits of an amount below zero.
SOURCE: core/correspondence.py:98-174 -/
theorem facts_pass_iff (pack : SealedFactPack) :
    Complete pack ↔
      (∀ text ∈ periodDates pack, Settled pack (dateNumbers text) text) ∧
      (∀ text ∈ identifiers pack, Settled pack (identifierNumbers text) text) ∧
      ∀ amount ∈ amounts pack, amount < 0 → ∀ shape ∈ amountTokens amount, Supports pack shape := by
  have hdates (text) (htext : text ∈ periodDates pack) (number) (h : number ∈ dateNumbers text) :
      number ∈ supportedNumberTokens pack :=
    mem_supportedNumberTokens.mpr (Or.inr (Or.inl ⟨text, htext, h⟩))
  have hidentifiers (text) (htext : text ∈ identifiers pack) (number)
      (h : number ∈ identifierNumbers text) : number ∈ supportedNumberTokens pack :=
    mem_supportedNumberTokens.mpr (Or.inr (Or.inr ⟨text, htext, h⟩))
  rw [complete_iff_supports]
  constructor
  · intro h
    refine ⟨fun text htext => ?_, fun text htext => ?_, fun amount hamount _ shape hshape => ?_⟩
    · refine (supports_iff_settled (hdates text htext)).mp (h text ?_)
      exact List.mem_append_left _ (List.mem_append_right _ htext)
    · refine (supports_iff_settled (hidentifiers text htext)).mp (h text ?_)
      exact List.mem_append_right _ htext
    · refine h shape (List.mem_append_left _ (List.mem_append_left _ ?_))
      exact List.mem_flatMap.mpr ⟨amount, hamount, List.mem_flatMap.mpr ⟨shape, hshape, by simp⟩⟩
  · rintro ⟨hdate, hidentifier, hnegative⟩ text htext
    rcases List.mem_append.mp htext with htext | htext
    · rcases List.mem_append.mp htext with hmoney | htext
      · obtain ⟨amount, hamount, hmoney⟩ := List.mem_flatMap.mp hmoney
        obtain ⟨shape, hshape, hmoney⟩ := List.mem_flatMap.mp hmoney
        have hsupports : Supports pack shape := by
          by_cases hneg : amount < 0
          · exact hnegative amount hamount hneg shape hshape
          · exact supports_shape hamount (by omega) hshape
        simp only [List.mem_cons, List.not_mem_nil, or_false] at hmoney
        rcases hmoney with rfl | rfl
        · exact hsupports
        · exact hsupports.dollar
      · exact (supports_iff_settled (hdates text htext)).mpr (hdate text htext)
    · exact (supports_iff_settled (hidentifiers text htext)).mpr (hidentifier text htext)

end Facts

/-! ## A number with two points -/

section Case

local instance factTables : PatternTables := asciiPatterns

/-- The facts of a dispute of 700 dollars. -/
def factsOf (ruleRef : String) : SealedFactPack :=
  { invoiceId := 1
    decisionSealId := 2
    sealDigest := ""
    recommendationType := .dispute
    disputedAmountMinor := 70000
    supportedAmountMinor := 0
    currency := "USD"
    chargedPeriodStart := "2026-06-08"
    chargedPeriodEnd := "2026-06-10"
    containerRef := "TLLU-482931-7"
    invoiceNo := "INV-1048"
    ruleRef }

/-- The clause of a rule is rejected as an unsupported number. -/
theorem clause_rejected :
    Composed (factsOf "Clause 4.2.1") "See Clause 4.2.1" ∧
      "UNSUPPORTED_NUMBER:" ++ "4.2" ∈
        (validateDraftProse (factsOf "Clause 4.2.1") "See Clause 4.2.1").issues := by
  refine ⟨⟨["See".toList, "Clause 4.2.1".toList], by decide, ?_⟩, unsupported_iff.mpr ?_⟩
  · intro word hword
    simp only [List.mem_cons, List.not_mem_nil, or_false] at hword
    rcases hword with rfl | rfl
    · have hfree : "See".toList.all (fun c => !isDecimal c) = true := by decide
      exact Or.inl fun c hc => by simpa using List.all_eq_true.mp hfree c hc
    · refine Or.inr (List.mem_append_right _ ?_)
      simp [identifiers, factsOf]
  · unfold Admitted Covered
    decide +kernel

end Case

end Tally.Analysis.DraftFacts
