import Mathlib.Data.List.Dedup
import Mathlib.Data.List.Infix
import Mathlib.Data.List.Sort
import Tally.Library.Numerals
import Tally.Model.Receipt

/-!
# Numbers in prose

The numbers that the check of a draft reads in a text: the numeral at the head of a text, what a
character outside every numeral separates, and the numbers of words with spaces between them. A
number that the sealed facts do not support is an issue of the prose, and there is no other such
issue.
-/

set_option autoImplicit false

namespace Tally.Analysis.ProseNumbers
open Library.Calendar (isDigit)
open Tally.Model
open CharacterTables

/-! ## The numeral at the head -/

section Numerals

variable [CharacterTables]

def isNumeral (c : Char) : Bool := isDecimal c || c = ','

/-- The digits and commas at the head of a text. -/
def runOf (text : List Char) : List Char := text.takeWhile isNumeral

/-- The digits behind a point at the head of a text. -/
def fractionOf : List Char → List Char
  | '.' :: digits => digits.takeWhile isDecimal
  | _ => []

/-- A fraction with its point, if there is one. -/
def pointed (fraction : List Char) : List Char :=
  if fraction.isEmpty then [] else '.' :: fraction

def numeralOf (text : List Char) : List Char :=
  runOf text ++ pointed (fractionOf (text.drop (runOf text).length))

/-- What is read as a numeral from a character on: a dollar sign stands before it. -/
def start (c : Char) (text : List Char) : List Char := if c = '$' then text else c :: text

def marked (c : Char) (numeral : List Char) : List Char :=
  if c = '$' then '$' :: numeral else numeral

/-- The numbers of a text. -/
def numbersOf (text : List Char) : List (List Char) := numberTokens (text.length + 1) text

theorem numberTokens_cons (fuel : Nat) (c : Char) (text : List Char) :
    numberTokens (fuel + 1) (c :: text) =
      if (start c text).head?.any isDecimal then
        marked c (numeralOf (start c text)) ::
          numberTokens fuel ((start c text).drop (numeralOf (start c text)).length)
      else numberTokens fuel text := rfl

theorem pointed_fraction (text : List Char) : pointed (fractionOf text) <+: text := by
  unfold pointed
  split
  · exact List.nil_prefix
  · rename_i hne
    unfold fractionOf at hne ⊢
    split
    · rename_i digits
      exact List.cons_prefix_cons.mpr ⟨rfl, List.takeWhile_prefix _⟩
    · rename_i hother
      split at hne
      · exact absurd rfl (hother _)
      · exact absurd rfl hne

/-- A numeral is what the text begins with. -/
theorem numeralOf_leads (text : List Char) : numeralOf text <+: text := by
  have hrun : runOf text <+: text := List.takeWhile_prefix _
  obtain ⟨rest, hrest⟩ := hrun
  have hdrop : text.drop (runOf text).length = rest := by
    have h := congrArg (List.drop (runOf text).length) hrest
    rwa [List.drop_left, eq_comm] at h
  unfold numeralOf
  rw [hdrop]
  conv_rhs => rw [← hrest]
  exact (List.prefix_append_right_inj _).mpr (pointed_fraction rest)

theorem runOf_pos {text : List Char} (h : text.head?.any isDecimal = true) :
    0 < (runOf text).length := by
  cases text with
  | nil => exact absurd h (by simp)
  | cons c text =>
      have hc : isNumeral c = true := by
        unfold isNumeral
        simp only [List.head?_cons, Option.any_some] at h
        rw [h, Bool.true_or]
      unfold runOf
      rw [List.takeWhile_cons_of_pos hc, List.length_cons]
      omega

theorem numeralOf_pos {text : List Char} (h : text.head?.any isDecimal = true) :
    0 < (numeralOf text).length := by
  have hrun := runOf_pos h
  unfold numeralOf
  rw [List.length_append]
  omega

omit [CharacterTables] in
theorem length_start (c : Char) (text : List Char) : (start c text).length ≤ text.length + 1 := by
  unfold start
  split
  · omega
  · simp

/-- What follows a number is shorter than the text. -/
theorem length_rest {c : Char} {text : List Char}
    (h : (start c text).head?.any isDecimal = true) :
    ((start c text).drop (numeralOf (start c text)).length).length ≤ text.length := by
  have hpos := numeralOf_pos h
  have hstart := length_start c text
  rw [List.length_drop]
  omega

/-- Reading a text with more steps than it has characters finds the same numbers. -/
theorem numberTokens_congr {n m : Nat} {text : List Char} (hn : text.length ≤ n)
    (hm : text.length ≤ m) : numberTokens n text = numberTokens m text := by
  induction n generalizing m text with
  | zero =>
      obtain rfl := List.length_eq_zero_iff.mp (Nat.le_zero.mp hn)
      cases m <;> rfl
  | succ n ih =>
      cases text with
      | nil => cases m <;> rfl
      | cons c text =>
          rw [List.length_cons] at hn hm
          cases m with
          | zero => omega
          | succ m =>
              rw [numberTokens_cons, numberTokens_cons]
              split
              · rename_i hdecimal
                have hrest := length_rest hdecimal
                rw [ih (m := m) (by omega) (by omega)]
              · exact ih (by omega) (by omega)

@[simp]
theorem numbersOf_nil : numbersOf [] = [] := rfl

theorem numbersOf_cons (c : Char) (text : List Char) :
    numbersOf (c :: text) =
      if (start c text).head?.any isDecimal then
        marked c (numeralOf (start c text)) ::
          numbersOf ((start c text).drop (numeralOf (start c text)).length)
      else numbersOf text := by
  unfold numbersOf
  rw [numberTokens_cons]
  split
  · rename_i hdecimal
    have hrest := length_rest hdecimal
    rw [numberTokens_congr (n := (c :: text).length) (by simpa using Nat.le_succ_of_le hrest)
      (Nat.le_succ _)]
  · rfl

/-! ## Separated texts -/

/-- The character is no part of a numeral. -/
def Stops (c : Char) : Prop := isDecimal c = false ∧ c ≠ ',' ∧ c ≠ '.'

theorem Stops.isNumeral {c : Char} (h : Stops c) : isNumeral c = false := by
  unfold ProseNumbers.isNumeral
  simp [h.1, h.2.1]

omit [CharacterTables] in
theorem takeWhile_stop {keep : Char → Bool} {c : Char} (h : keep c = false) (a b : List Char) :
    (a ++ c :: b).takeWhile keep = a.takeWhile keep := by
  induction a with
  | nil => simp [h]
  | cons d a ih =>
      rw [List.cons_append, List.takeWhile_cons, List.takeWhile_cons, ih]

theorem fractionOf_stop {c : Char} (h : Stops c) (a b : List Char) :
    fractionOf (a ++ c :: b) = fractionOf a := by
  cases a with
  | nil =>
      rw [List.nil_append]
      unfold fractionOf
      split
      · rename_i heq
        exact absurd (List.cons.inj heq).1 h.2.2
      · rfl
  | cons d a =>
      by_cases hpoint : d = '.'
      · subst hpoint
        exact takeWhile_stop h.1 a b
      · unfold fractionOf
        split
        · rename_i heq
          exact absurd (List.cons.inj heq).1 hpoint
        · split
          · rename_i heq
            exact absurd (List.cons.inj heq).1 hpoint
          · rfl

/-- A numeral does not go past a character that is no part of one. -/
theorem numeralOf_stop {c : Char} (h : Stops c) (a b : List Char) :
    numeralOf (a ++ c :: b) = numeralOf a := by
  have hrun : runOf (a ++ c :: b) = runOf a := takeWhile_stop h.isNumeral a b
  have hlength : (runOf a).length ≤ a.length := (List.takeWhile_prefix _).length_le
  unfold numeralOf
  rw [hrun, List.drop_append_of_le_length hlength, fractionOf_stop h]

omit [CharacterTables] in
theorem start_append (d c : Char) (a b : List Char) :
    start d (a ++ c :: b) = start d a ++ c :: b := by
  unfold start
  split <;> rfl

/-- The numbers of a text are those before and those from a character that is no part of a
numeral. -/
theorem numbersOf_append {c : Char} (h : Stops c) (a b : List Char) :
    numbersOf (a ++ c :: b) = numbersOf a ++ numbersOf (c :: b) := by
  induction hlength : a.length using Nat.strong_induction_on generalizing a with
  | _ length ih =>
      cases a with
      | nil => rfl
      | cons d a =>
          rw [List.length_cons] at hlength
          rw [List.cons_append, numbersOf_cons, numbersOf_cons d a, start_append]
          have hhead : (start d a ++ c :: b).head?.any isDecimal =
              (start d a).head?.any isDecimal := by
            cases hstart : start d a with
            | nil => simp [h.1]
            | cons e rest => rfl
          rw [hhead]
          split
          · rename_i hdecimal
            have hrest := length_rest hdecimal
            rw [numeralOf_stop h,
              List.drop_append_of_le_length (numeralOf_leads _).length_le,
              ih _ (by omega) _ rfl]
            rfl
          · exact ih a.length (by omega) a rfl

/-- A character that is neither a dollar sign nor part of a numeral is passed over. -/
theorem numbersOf_skip {c : Char} (hdecimal : isDecimal c = false) (hdollar : c ≠ '$')
    (text : List Char) : numbersOf (c :: text) = numbersOf text := by
  rw [numbersOf_cons]
  unfold start
  simp [hdollar, hdecimal]

/-- There is no number in a text without digits. -/
theorem numbersOf_eq_nil {text : List Char} (h : ∀ c ∈ text, isDecimal c = false) :
    numbersOf text = [] := by
  induction text with
  | nil => rfl
  | cons c text ih =>
      have hhead : (start c text).head?.any isDecimal = false := by
        rw [Option.any_eq_false]
        intro d hd
        have hmem := List.mem_of_mem_head? hd
        unfold start at hmem
        split at hmem
        · simp [h d (List.mem_cons_of_mem _ hmem)]
        · simp [h d hmem]
      rw [numbersOf_cons, hhead]
      exact ih fun d hd => h d (List.mem_cons_of_mem _ hd)

/-- The numbers of words with spaces between them are those of the words. -/
theorem numbersOf_words (hspace : Stops ' ') (words : List (List Char)) :
    numbersOf ([' '].intercalate words) = words.flatMap numbersOf := by
  induction words with
  | nil => rfl
  | cons word words ih =>
      cases words with
      | nil => simp
      | cons next words =>
          rw [List.intercalate_cons_cons, List.append_assoc, List.singleton_append,
            numbersOf_append hspace, numbersOf_skip hspace.1 (by decide), ih, List.flatMap_cons,
            List.flatMap_cons, List.flatMap_cons]

/-! ## Whole numerals -/

/-- Digits and commas that begin with a digit, and digits behind a point, are read whole if
nothing goes on with them. -/
theorem numeralOf_append {run fraction after : List Char} (hrun : ∀ c ∈ run, isNumeral c = true)
    (hfraction : ∀ c ∈ fraction, isDecimal c = true) (hpoint : isDecimal '.' = false)
    (hafter : if fraction = [] then
        (∀ c ∈ after.head?, isNumeral c = false) ∧ fractionOf after = []
      else ∀ c ∈ after.head?, isDecimal c = false) :
    numeralOf (run ++ pointed fraction ++ after) = run ++ pointed fraction := by
  have htake {keep : Char → Bool} {a b : List Char} (ha : ∀ c ∈ a, keep c = true)
      (hb : ∀ c ∈ b.head?, keep c = false) : (a ++ b).takeWhile keep = a := by
    rw [List.takeWhile_append_of_pos ha]
    cases b with
    | nil => simp
    | cons c b => simp [hb c (by simp)]
  have hrunOf : runOf (run ++ pointed fraction ++ after) = run := by
    rw [List.append_assoc]
    apply htake hrun
    unfold pointed
    cases fraction with
    | nil =>
        rw [if_pos rfl] at hafter
        exact hafter.1
    | cons d fraction =>
        intro c hc
        simp only [List.isEmpty_cons, Bool.false_eq_true, if_false, List.cons_append,
          List.head?_cons, Option.mem_def, Option.some.injEq] at hc
        subst hc
        unfold isNumeral
        simp [hpoint]
  unfold numeralOf
  rw [hrunOf, List.append_assoc, List.drop_left]
  congr 1
  unfold pointed
  cases fraction with
  | nil =>
      rw [if_pos rfl] at hafter
      simp [hafter.2]
  | cons d fraction =>
      rw [if_neg (List.cons_ne_nil _ _)] at hafter
      have hread : fractionOf (('.' :: d :: fraction) ++ after) = d :: fraction :=
        htake hfraction hafter
      simp only [List.isEmpty_cons, Bool.false_eq_true, if_false]
      rw [hread]
      rfl

/-- A numeral on its own is the only number of its text. -/
theorem numbersOf_numeral {run fraction : List Char} (hhead : run.head?.any isDecimal = true)
    (hrun : ∀ c ∈ run, isNumeral c = true) (hfraction : ∀ c ∈ fraction, isDecimal c = true)
    (hpoint : isDecimal '.' = false) (hdollar : isDecimal '$' = false) :
    numbersOf (run ++ pointed fraction) = [run ++ pointed fraction] := by
  have hwhole : numeralOf (run ++ pointed fraction) = run ++ pointed fraction := by
    have h := numeralOf_append hrun hfraction hpoint
      (show if fraction = [] then (∀ c ∈ ([] : List Char).head?, isNumeral c = false) ∧
          fractionOf [] = [] else ∀ c ∈ ([] : List Char).head?, isDecimal c = false by
        split <;> simp [fractionOf])
    rwa [List.append_nil] at h
  cases run with
  | nil => exact absurd hhead (by simp)
  | cons c run =>
      have hc : c ≠ '$' := by
        rintro rfl
        simp [hdollar] at hhead
      rw [List.cons_append] at hwhole ⊢
      rw [numbersOf_cons]
      have hstart : start c (run ++ pointed fraction) = c :: (run ++ pointed fraction) := if_neg hc
      rw [hstart, hwhole, if_pos (by simpa using hhead), List.drop_length]
      unfold marked
      rw [if_neg hc]
      rfl

/-! ## Sealed facts -/

def amounts (pack : SealedFactPack) : List Int :=
  [pack.disputedAmountMinor, pack.supportedAmountMinor,
    pack.supportedAmountMinor + pack.disputedAmountMinor]

def periodDates (pack : SealedFactPack) : List (List Char) :=
  [pack.chargedPeriodStart.toList, pack.chargedPeriodEnd.toList]

def identifiers (pack : SealedFactPack) : List (List Char) :=
  [pack.containerRef.toList, pack.invoiceNo.toList, pack.ruleRef.toList]

/-- The numbers that are taken from a date. -/
def dateNumbers (text : List Char) : List (List Char) :=
  text :: (dateParts text).flatMap fun part => [part, withoutLeadingZeros part]

/-- The numbers that are taken from an identifier. -/
def identifierNumbers (text : List Char) : List (List Char) :=
  (identifierRuns text.length text).flatMap fun run => [run, withoutLeadingZeros run]

/-- A supported number is taken from an amount, a date or an identifier. -/
theorem mem_supportedNumberTokens {pack : SealedFactPack} {token : List Char} :
    token ∈ supportedNumberTokens pack ↔
      (∃ amount ∈ amounts pack, token ∈ amountTokens amount) ∨
      (∃ text ∈ periodDates pack, token ∈ dateNumbers text) ∨
      ∃ text ∈ identifiers pack, token ∈ identifierNumbers text := by
  have htokens : supportedNumberTokens pack =
      amountTokens pack.disputedAmountMinor ++ amountTokens pack.supportedAmountMinor ++
        (periodDates pack).flatMap dateNumbers ++ (identifiers pack).flatMap identifierNumbers ++
        amountTokens (pack.supportedAmountMinor + pack.disputedAmountMinor) := rfl
  rw [htokens]
  simp only [List.mem_append, List.mem_flatMap, amounts, List.mem_cons, List.not_mem_nil, or_false,
    exists_eq_or_imp, exists_eq_left]
  constructor
  · rintro ((((hdisputed | hsupported) | hdate) | hidentifier) | hclaimed)
    · exact Or.inl (Or.inl hdisputed)
    · exact Or.inl (Or.inr (Or.inl hsupported))
    · exact Or.inr (Or.inl hdate)
    · exact Or.inr (Or.inr hidentifier)
    · exact Or.inl (Or.inr (Or.inr hclaimed))
  · rintro ((hdisputed | hsupported | hclaimed) | hdate | hidentifier)
    · exact Or.inl (Or.inl (Or.inl (Or.inl hdisputed)))
    · exact Or.inl (Or.inl (Or.inl (Or.inr hsupported)))
    · exact Or.inr hclaimed
    · exact Or.inl (Or.inl (Or.inr hdate))
    · exact Or.inl (Or.inr hidentifier)

/-! ## Issues -/

/-- The number without a dollar sign is in a list, with its commas or without them. -/
def Covered (numbers : List (List Char)) (token : List Char) : Prop :=
  token.dropWhile (· = '$') ∈ numbers ∨ (token.dropWhile (· = '$')).filter (· ≠ ',') ∈ numbers

/-- The sealed facts support the number. -/
def Admitted (pack : SealedFactPack) (token : List Char) : Prop :=
  Covered (supportedNumberTokens pack) token

/-- The numbers that are issues of a prose are those that the sealed facts do not support. -/
theorem unsupported_iff {pack : SealedFactPack} {prose : String} {number : String} :
    "UNSUPPORTED_NUMBER:" ++ number ∈ (validateDraftProse pack prose).issues ↔
      number.toList ∈ numbersOf prose.toList ∧ ¬Admitted pack number.toList := by
  unfold validateDraftProse
  simp only [List.mem_insertionSort, List.mem_dedup, List.mem_append, List.mem_map,
    List.mem_filter]
  constructor
  · rintro (⟨token, ⟨hmem, hnot⟩, heq⟩ | ⟨entry, _, heq⟩)
    · have htoken : token = number.toList := by
        have hlist := congrArg String.toList heq
        rw [String.toList_append, String.toList_append] at hlist
        have hcancel := List.append_cancel_left hlist
        rwa [String.toList_ofList] at hcancel
      subst htoken
      refine ⟨hmem, ?_⟩
      simpa [Admitted, Covered] using hnot
    · have hlist := congrArg String.toList heq
      rw [String.toList_append, String.toList_append] at hlist
      exact absurd (congrArg List.head? hlist) (by simp)
  · rintro ⟨hmem, hnot⟩
    refine Or.inl ⟨number.toList, ⟨hmem, ?_⟩, by rw [String.ofList_toList]⟩
    simpa [Admitted, Covered] using hnot

theorem admitted_of_accepted {pack : SealedFactPack} {prose : String}
    (h : (validateDraftProse pack prose).ok = true) {token : List Char}
    (hmem : token ∈ numbersOf prose.toList) : Admitted pack token := by
  by_contra hnot
  have hissue : "UNSUPPORTED_NUMBER:" ++ String.ofList token ∈
      (validateDraftProse pack prose).issues := by
    refine unsupported_iff.mpr ?_
    rw [String.toList_ofList]
    exact ⟨hmem, hnot⟩
  have hnone : (validateDraftProse pack prose).issues = [] := List.isEmpty_iff.mp h
  rw [hnone] at hissue
  exact absurd hissue List.not_mem_nil

end Numerals

end Tally.Analysis.ProseNumbers
