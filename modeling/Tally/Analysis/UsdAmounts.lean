import Tally.Analysis.ClaimErrors
import Tally.Analysis.RuleRates
import Tally.Library.Numerals

/-!
# Amounts of dollars

A money claim is parsed from what is left of its text without everything but digits, points and
hyphens. An amount in the standard form of US dollars leaves its own digits behind, and is read
exactly within the precision of the decimal context; but other texts leave an amount behind too,
and they are all taken for dollars.
-/

set_option autoImplicit false

namespace Tally.Analysis.UsdAmounts
open Library Library.Calendar Library.Numerals Tally.Model Tally.Model.IntakeClaims
open ClaimErrors (ExponentTooLarge timesHundred_error)
open RuleRates (WithinPrecision roundHalfEven_mul_eq within_of_excess)
open Applicability (excessDigits)

/-! ## Decimals -/

/-- A leading hyphen, and what follows it. -/
def signed : List Char → Bool × List Char
  | '-' :: text => (true, text)
  | text => (false, text)

/-- The decimal that stands behind a sign. -/
def decimalBehind (negative : Bool) (text : List Char) : Option (Bool × Nat × Nat) :=
  let whole := text.takeWhile isDigit
  match text.drop whole.length with
  | [] => if whole.isEmpty then none else some (negative, number whole, 0)
  | '.' :: fraction =>
    if fraction.all isDigit && !(whole.isEmpty && fraction.isEmpty) then
      some (negative, number (whole ++ fraction), fraction.length)
    else none
  | _ => none

theorem parseDecimal_eq (text : List Char) :
    parseDecimal text = decimalBehind (signed text).1 (signed text).2 := rfl

theorem signed_plain {text : List Char} (h : text.head? ≠ some '-') :
    signed text = (false, text) := by
  unfold signed
  split
  · exact absurd rfl h
  · rfl

/-- A text is its sign and what stands behind it. -/
theorem signed_eq (text : List Char) :
    text = (if (signed text).1 then ['-'] else []) ++ (signed text).2 := by
  unfold signed
  split <;> simp

/-- A text of digits with an optional point does not begin with a hyphen. -/
theorem head_ne_hyphen {whole point fraction : List Char} (hwhole : IsDigits whole)
    (hfraction : IsDigits fraction) (hpoint : point = ['.'] ∨ point = [] ∧ fraction = []) :
    (whole ++ (point ++ fraction)).head? ≠ some '-' := by
  intro hhead
  have hmem : '-' ∈ whole ++ (point ++ fraction) := List.mem_of_mem_head? hhead
  simp only [List.mem_append] at hmem
  have hno : ¬ isDigit '-' = true := by decide
  rcases hmem with hmem | hmem | hmem
  · exact hno (hwhole _ hmem)
  · rcases hpoint with rfl | ⟨rfl, _⟩
    · exact absurd hmem (by decide)
    · exact absurd hmem List.not_mem_nil
  · exact hno (hfraction _ hmem)

theorem drop_takeWhile (text : List Char) :
    text.drop (text.takeWhile isDigit).length = text.dropWhile isDigit := by
  have h : ((text.takeWhile isDigit) ++ (text.dropWhile isDigit)).drop
      (text.takeWhile isDigit).length = text.dropWhile isDigit := List.drop_left
  rwa [List.takeWhile_append_dropWhile] at h

/-- The decimals behind a sign. -/
structure Behind (text : List Char) (coefficient fractionDigits : Nat) : Prop where
  parts : ∃ whole point fraction : List Char, text = whole ++ (point ++ fraction) ∧
    IsDigits whole ∧ IsDigits fraction ∧ (point = ['.'] ∨ point = [] ∧ fraction = []) ∧
    (whole ≠ [] ∨ fraction ≠ []) ∧ coefficient = number (whole ++ fraction) ∧
    fractionDigits = fraction.length

theorem Behind.decimal {text : List Char} {coefficient fractionDigits : Nat}
    (h : Behind text coefficient fractionDigits) (negative : Bool) :
    decimalBehind negative text = some (negative, coefficient, fractionDigits) := by
  obtain ⟨whole, point, fraction, rfl, hwhole, hfraction, hpoint, hne, rfl, rfl⟩ := h.parts
  have hhead : ∀ c ∈ (point ++ fraction).head?, isDigit c = false := by
    intro c hc
    rcases hpoint with rfl | ⟨rfl, rfl⟩
    · rw [← Option.mem_some.mp hc]
      rfl
    · exact absurd hc (by simp)
  have hrun : (whole ++ (point ++ fraction)).takeWhile isDigit = whole :=
    takeWhile_digits hwhole hhead
  unfold decimalBehind
  dsimp only
  rw [hrun, List.drop_left]
  rcases hpoint with rfl | ⟨rfl, rfl⟩
  · have hall : fraction.all isDigit = true := List.all_eq_true.mpr hfraction
    have hsome : ¬(whole = [] ∧ fraction = []) := by
      rintro ⟨rfl, rfl⟩
      simp at hne
    simp [hall, hsome]
  · have hsome : whole ≠ [] := by simpa using hne
    simp [hsome]

theorem decimalBehind_some {negative sign : Bool} {text : List Char}
    {coefficient fractionDigits : Nat}
    (h : decimalBehind negative text = some (sign, coefficient, fractionDigits)) :
    sign = negative ∧ Behind text coefficient fractionDigits := by
  have hsplit : text = text.takeWhile isDigit ++ text.dropWhile isDigit :=
    List.takeWhile_append_dropWhile.symm
  have hrun := isDigits_takeWhile text
  unfold decimalBehind at h
  dsimp only at h
  rw [drop_takeWhile] at h
  split at h
  · rename_i hrest
    split at h
    · exact absurd h (by simp)
    · rename_i hne
      obtain ⟨rfl, rfl, rfl⟩ := by simpa using h
      refine ⟨rfl, text.takeWhile isDigit, [], [], ?_, hrun, isDigits_nil, Or.inr ⟨rfl, rfl⟩,
        Or.inl (by simpa using hne), by rw [List.append_nil], rfl⟩
      rw [hrest] at hsplit
      exact hsplit
  · rename_i fraction hrest
    split at h
    · rename_i hall
      obtain ⟨hdigits, hne⟩ := Bool.and_eq_true_iff.mp hall
      obtain ⟨rfl, rfl, rfl⟩ := by simpa using h
      refine ⟨rfl, text.takeWhile isDigit, ['.'], fraction, ?_, hrun, List.all_eq_true.mp hdigits,
        Or.inl rfl, ?_, rfl, rfl⟩
      · rw [hrest] at hsplit
        exact hsplit
      · by_contra hnone
        rw [not_or, not_not, not_not] at hnone
        rw [hnone.1, hnone.2] at hne
        exact absurd hne (by decide)
    · exact absurd h (by simp)
  · exact absurd h (by simp)

/-- The text is a decimal: an optional hyphen, then digits with an optional point. -/
def IsDecimal (text : List Char) (negative : Bool) (coefficient fractionDigits : Nat) : Prop :=
  ∃ rest, text = (if negative then ['-'] else []) ++ rest ∧ Behind rest coefficient fractionDigits

/-- The decimals are what is read as one. -/
theorem parseDecimal_eq_some {text : List Char} {negative : Bool}
    {coefficient fractionDigits : Nat} :
    parseDecimal text = some (negative, coefficient, fractionDigits) ↔
      IsDecimal text negative coefficient fractionDigits := by
  rw [parseDecimal_eq]
  constructor
  · intro h
    obtain ⟨hsign, hbehind⟩ := decimalBehind_some h
    refine ⟨(signed text).2, ?_, hbehind⟩
    rw [hsign]
    exact signed_eq text
  · rintro ⟨rest, rfl, hbehind⟩
    cases negative with
    | true => exact hbehind.decimal true
    | false =>
        obtain ⟨whole, point, fraction, rfl, hwhole, hfraction, hpoint, _⟩ := hbehind.parts
        rw [if_neg (by decide), List.nil_append,
          signed_plain (head_ne_hyphen hwhole hfraction hpoint)]
        exact hbehind.decimal false

/-! ## Amounts in standard form -/

/-- A mark with blanks around it. -/
def Padded (mark text : List Char) : Prop :=
  ∃ before after, text = List.replicate before ' ' ++ (mark ++ List.replicate after ' ')

/-- The marks of US dollars. -/
def dollarSign : List Char := ['$']

def usd : List Char := ['U', 'S', 'D']

/-- An amount of US dollars and its cents: a number with at most two decimals, commas between
its thousands, and at most one mark of the currency. -/
structure Standard (text : List Char) (cents : Nat) : Prop where
  parts : ∃ lead leadMark amount tail tailMark whole fraction : List Char,
    text = lead ++ (amount ++ tail) ∧ Padded leadMark lead ∧ Padded tailMark tail ∧
    (leadMark, tailMark) ∈ [([], []), (dollarSign, []), (usd, []), ([], usd)] ∧
    Numeral ',' amount whole fraction ∧ fraction.length ≤ 2 ∧
    cents = number whole * 100 + number fraction * 10 ^ (2 - fraction.length)

/-- What the parser keeps of a text. -/
def kept (text : List Char) : List Char :=
  text.filter fun c => isDigit c || c = '.' || c = '-'

theorem kept_append (a b : List Char) : kept (a ++ b) = kept a ++ kept b := List.filter_append a b

/-- Nothing is kept of a mark and its blanks. -/
theorem Padded.kept {mark text : List Char} (h : Padded mark text) (hmark : kept mark = []) :
    kept text = [] := by
  obtain ⟨before, after, rfl⟩ := h
  have hblanks (n : Nat) : UsdAmounts.kept (List.replicate n ' ') = [] := by
    unfold UsdAmounts.kept
    rw [List.filter_replicate]
    rfl
  rw [kept_append, kept_append, hblanks, hmark, hblanks]
  rfl

theorem kept_digits {digits : List Char} (h : IsDigits digits) : kept digits = digits :=
  filter_digits h fun c hc => by simp [hc]

/-- Of a number its digits and its point are kept. -/
theorem kept_numeral {amount whole fraction : List Char} (h : Numeral ',' amount whole fraction) :
    Behind (kept amount) (number (whole ++ fraction)) fraction.length := by
  obtain ⟨wholeText, point, rfl, hgrouped, hpoint⟩ := h.parts
  have hwhole : kept wholeText = whole :=
    hgrouped.filter (fun c hc => by simp [hc]) (by decide)
  have hpointKept : kept point = point := by
    rcases hpoint with rfl | ⟨rfl, _⟩
    · rfl
    · rfl
  refine ⟨whole, point, fraction, ?_, hgrouped.isDigits, h.isDigits, hpoint, h.nonempty, rfl, rfl⟩
  rw [kept_append, kept_append, hwhole, hpointKept, kept_digits h.isDigits, List.append_assoc]

/-- A standard amount leaves its own decimal behind. -/
theorem Standard.decimal {text : List Char} {cents : Nat} (h : Standard text cents) :
    ∃ coefficient fractionDigits, IsDecimal (kept text) false coefficient fractionDigits ∧
      fractionDigits ≤ 2 ∧ cents = coefficient * 10 ^ (2 - fractionDigits) := by
  obtain ⟨lead, leadMark, amount, tail, tailMark, whole, fraction, rfl, hlead, htail, hmarks,
    hnumeral, htwo, rfl⟩ := h.parts
  have hnone : kept leadMark = [] ∧ kept tailMark = [] := by
    simp only [List.mem_cons, Prod.mk.injEq, List.not_mem_nil, or_false] at hmarks
    rcases hmarks with ⟨rfl, rfl⟩ | ⟨rfl, rfl⟩ | ⟨rfl, rfl⟩ | ⟨rfl, rfl⟩
    · exact ⟨rfl, rfl⟩
    · exact ⟨by decide, rfl⟩
    · exact ⟨by decide, rfl⟩
    · exact ⟨rfl, by decide⟩
  have hkept : kept (lead ++ (amount ++ tail)) = kept amount := by
    rw [kept_append, kept_append, hlead.kept hnone.1, htail.kept hnone.2, List.nil_append,
      List.append_nil]
  refine ⟨number (whole ++ fraction), fraction.length, ?_, htwo, ?_⟩
  · rw [hkept]
    exact ⟨kept amount, rfl, kept_numeral hnumeral⟩
  · have hscale : 10 ^ fraction.length * 10 ^ (2 - fraction.length) = 100 := by
      rw [← Nat.pow_add, Nat.add_sub_cancel' htwo]
    rw [number_append, Nat.add_mul, Nat.mul_assoc, hscale]

theorem decimal_unique {text : List Char} {negative negative' : Bool}
    {coefficient coefficient' fractionDigits fractionDigits' : Nat}
    (h : IsDecimal text negative coefficient fractionDigits)
    (h' : IsDecimal text negative' coefficient' fractionDigits') :
    coefficient = coefficient' ∧ fractionDigits = fractionDigits' := by
  have heq := (parseDecimal_eq_some.mpr h).symm.trans (parseDecimal_eq_some.mpr h')
  simp only [Option.some.injEq, Prod.mk.injEq] at heq
  exact heq.2

/-! ## The cents of a decimal -/

/-- The cents are exact where no digit is rounded away. -/
theorem timesHundred_exact {coefficient fractionDigits : Nat} {cents : Int}
    (h : timesHundred coefficient fractionDigits = .ok cents) (htwo : fractionDigits ≤ 2) :
    cents = (coefficient * 10 ^ (2 - fractionDigits) : Nat) ↔ WithinPrecision coefficient := by
  have hpos : 0 < 10 ^ fractionDigits := Nat.pow_pos (by omega)
  have hproduct : coefficient * 100 =
      coefficient * 10 ^ (2 - fractionDigits) * 10 ^ fractionDigits := by
    rw [Nat.mul_assoc, ← Nat.pow_add, Nat.sub_add_cancel htwo]
  unfold timesHundred at h
  dsimp only at h
  split at h
  · rename_i hshort
    have hwithin : WithinPrecision coefficient := by
      apply within_of_excess
      unfold excessDigits
      omega
    obtain rfl := Except.ok.inj h
    rw [hproduct, Nat.mul_div_cancel _ hpos]
    exact iff_of_true rfl hwithin
  · rename_i hlong
    split at h
    · exact absurd h (by simp)
    · obtain rfl := Except.ok.inj h
      have hexact : roundHalfEven (coefficient * 100) (10 ^ excessDigits (coefficient * 100)) *
          10 ^ excessDigits (coefficient * 100) = coefficient * 100 ↔ WithinPrecision coefficient :=
        roundHalfEven_mul_eq (Nat.pow_pos (by omega))
      change ((roundHalfEven (coefficient * 100) (10 ^ excessDigits (coefficient * 100)) *
        10 ^ excessDigits (coefficient * 100) / 10 ^ fractionDigits : Nat) : Int) = _ ↔ _
      rw [Nat.cast_inj, ← hexact]
      constructor
      · intro hcents
        by_cases hfew : excessDigits (coefficient * 100) ≤ 2
        · exact hexact.mpr (within_of_excess hfew)
        · -- The rounded product ends in more zeros than the amount has decimals.
          have hdvd : 10 ^ fractionDigits ∣ roundHalfEven (coefficient * 100)
              (10 ^ excessDigits (coefficient * 100)) * 10 ^ excessDigits (coefficient * 100) :=
            Dvd.dvd.mul_left (Nat.pow_dvd_pow 10 (by omega)) _
          rw [Nat.div_eq_iff_eq_mul_left hpos hdvd] at hcents
          rw [hcents, ← hproduct]
      · intro hrounded
        rw [hrounded, hproduct, Nat.mul_div_cancel _ hpos]

/-! ## What is accepted -/

section Amounts

variable [Interpreter]

/-- What is kept of the text is a decimal that can be taken for dollars and cents: it is not
below zero, has at most two decimals and its product with hundred stays in range. -/
def Taken (text : List Char) (coefficient fractionDigits : Nat) : Prop :=
  (∃ negative, IsDecimal (kept text) negative coefficient fractionDigits ∧
    (negative = true → coefficient = 0)) ∧
  fractionDigits ≤ 2 ∧ ¬ExponentTooLarge coefficient fractionDigits

/-- The texts that are accepted, and what they are read as. -/
theorem parseUsdMinor_ok {text : String} {cents : Int} :
    parseUsdMinor (.str text) = .ok cents ↔ ∃ coefficient fractionDigits,
      Taken text.toList coefficient fractionDigits ∧
        timesHundred coefficient fractionDigits = .ok cents := by
  cases hdecimal : parseDecimal (kept text.toList) with
  | none =>
      have herror : parseUsdMinor (.str text) = .error .invalidOperation := by
        unfold kept at hdecimal
        simp only [parseUsdMinor, Value.text, hdecimal]
      refine iff_of_false (by simp [herror]) ?_
      rintro ⟨coefficient, fractionDigits, ⟨⟨negative, hkept, _⟩, _⟩, _⟩
      rw [parseDecimal_eq_some.mpr hkept] at hdecimal
      exact absurd hdecimal (by simp)
  | some decimal =>
      obtain ⟨negative, coefficient, fractionDigits⟩ := decimal
      have hread : parseUsdMinor (.str text) =
          if negative = true ∧ coefficient ≠ 0 ∨ 2 < fractionDigits then .error .valueError
          else timesHundred coefficient fractionDigits := by
        unfold kept at hdecimal
        simp only [parseUsdMinor, Value.text, hdecimal]
      have hkept := parseDecimal_eq_some.mp hdecimal
      rw [hread]
      constructor
      · intro h
        split at h
        · exact absurd h (by simp)
        · rename_i hvalid
          rw [not_or, not_and, not_not] at hvalid
          refine ⟨coefficient, fractionDigits, ⟨⟨negative, hkept, hvalid.1⟩, by omega, ?_⟩, h⟩
          intro hlarge
          rw [timesHundred_error.mpr ⟨rfl, hlarge⟩] at h
          exact absurd h (by simp)
      · rintro ⟨c, f, ⟨⟨sign, hkept', hsign⟩, htwo, _⟩, hcents⟩
        have heq := hdecimal.symm.trans (parseDecimal_eq_some.mpr hkept')
        simp only [Option.some.injEq, Prod.mk.injEq] at heq
        obtain ⟨rfl, rfl, rfl⟩ := heq
        rw [if_neg, hcents]
        rw [not_or, not_and, not_not]
        exact ⟨hsign, by omega⟩

/-- An accepted text is an amount of dollars in standard form, read as its cents. -/
def ReadExactly (text : String) : Prop :=
  ∀ minor, parseUsdMinor (.str text) = .ok minor →
    ∃ cents, Standard text.toList cents ∧ minor = cents

/-- A text is read exactly if and only if nothing that can be taken for dollars is left of it, or
it is an amount in standard form without a digit beyond the precision of the context.
SOURCE: core/intake_claims.py:200-208 -/
theorem readExactly_iff (text : String) :
    ReadExactly text ↔ ∀ coefficient fractionDigits,
      Taken text.toList coefficient fractionDigits →
        (∃ cents, Standard text.toList cents) ∧ WithinPrecision coefficient := by
  constructor
  · intro hexact coefficient fractionDigits htaken
    cases hcents : timesHundred coefficient fractionDigits with
    | error e => exact absurd (timesHundred_error.mp hcents).2 htaken.2.2
    | ok minor =>
        obtain ⟨cents, hstandard, rfl⟩ :=
          hexact minor (parseUsdMinor_ok.mpr ⟨coefficient, fractionDigits, htaken, hcents⟩)
        obtain ⟨c, f, hdecimal, _, hvalue⟩ := hstandard.decimal
        obtain ⟨⟨negative, hkept, _⟩, htwo, _⟩ := htaken
        obtain ⟨rfl, rfl⟩ := decimal_unique hdecimal hkept
        refine ⟨⟨cents, hstandard⟩, (timesHundred_exact hcents htwo).mp ?_⟩
        rw [hvalue]
  · intro hcondition minor hparsed
    obtain ⟨coefficient, fractionDigits, htaken, hcents⟩ := parseUsdMinor_ok.mp hparsed
    obtain ⟨⟨cents, hstandard⟩, hwithin⟩ := hcondition coefficient fractionDigits htaken
    obtain ⟨c, f, hdecimal, _, hvalue⟩ := hstandard.decimal
    obtain ⟨⟨negative, hkept, _⟩, htwo, _⟩ := htaken
    obtain ⟨rfl, rfl⟩ := decimal_unique hdecimal hkept
    refine ⟨cents, hstandard, ?_⟩
    rw [(timesHundred_exact hcents htwo).mpr hwithin, hvalue]

end Amounts

/-! ## An amount of another currency -/

/-- The characters of standard amounts. -/
def written (c : Char) : Bool := isDigit c || decide (c ∈ [' ', '.', ',', '$', 'U', 'S', 'D'])

theorem Padded.written {mark text : List Char} (h : Padded mark text)
    (hmark : ∀ c ∈ mark, written c = true) : ∀ c ∈ text, written c = true := by
  obtain ⟨before, after, rfl⟩ := h
  intro c hc
  simp only [List.mem_append, List.mem_replicate] at hc
  rcases hc with ⟨_, rfl⟩ | hmem | ⟨_, rfl⟩
  · decide
  · exact hmark c hmem
  · decide

theorem written_of_isDigit {c : Char} (h : isDigit c = true) : written c = true := by
  unfold written
  rw [h, Bool.true_or]

theorem numeral_written {amount whole fraction : List Char}
    (h : Numeral ',' amount whole fraction) : ∀ c ∈ amount, written c = true := by
  obtain ⟨wholeText, point, rfl, hgrouped, hpoint⟩ := h.parts
  intro c hc
  simp only [List.mem_append] at hc
  rcases hc with (hmem | hmem) | hmem
  · rcases hgrouped.mem hmem with rfl | hdigit
    · decide
    · exact written_of_isDigit hdigit
  · rcases hpoint with rfl | ⟨rfl, _⟩
    · rw [List.mem_singleton.mp hmem]
      decide
    · exact absurd hmem List.not_mem_nil
  · exact written_of_isDigit (h.isDigits c hmem)

theorem Standard.written {text : List Char} {cents : Nat} (h : Standard text cents) :
    ∀ c ∈ text, written c = true := by
  obtain ⟨lead, leadMark, amount, tail, tailMark, whole, fraction, rfl, hlead, htail, hmarks,
    hnumeral, _⟩ := h.parts
  have hmarked : (∀ c ∈ leadMark, UsdAmounts.written c = true) ∧
      ∀ c ∈ tailMark, UsdAmounts.written c = true := by
    simp only [List.mem_cons, Prod.mk.injEq, List.not_mem_nil, or_false] at hmarks
    rcases hmarks with ⟨rfl, rfl⟩ | ⟨rfl, rfl⟩ | ⟨rfl, rfl⟩ | ⟨rfl, rfl⟩ <;>
      exact ⟨List.all_eq_true.mp (by decide), List.all_eq_true.mp (by decide)⟩
  intro c hc
  simp only [List.mem_append] at hc
  rcases hc with hmem | hmem | hmem
  · exact hlead.written hmarked.1 c hmem
  · exact numeral_written hnumeral c hmem
  · exact htail.written hmarked.2 c hmem

section Case

local instance caseInterpreter : Interpreter := Claims.asciiInterpreter

/-- Twelve euros are taken for twelve dollars. -/
theorem euros_accepted : ¬ReadExactly "EUR 12.00" := by
  intro hexact
  have hparsed : parseUsdMinor (.str "EUR 12.00") = .ok 1200 := by decide +kernel
  obtain ⟨cents, hstandard, _⟩ := hexact 1200 hparsed
  have hletter := hstandard.written 'E' (by decide +kernel)
  exact absurd hletter (by decide)

end Case

end Tally.Analysis.UsdAmounts
