import Mathlib.Tactic.FieldSimp
import Mathlib.Tactic.Ring
import Mathlib.Data.Rat.Cast.Order
import Tally.Analysis.ProseNumbers

/-!
# Texts of amounts

The shapes in which an amount of minor units may be written, and the dollars that a numeral
denotes: its digits are read without the commas, those behind the point at their places. Each
shape of an amount that is not negative is one numeral; of an amount below zero each begins with
the sign.
-/

set_option autoImplicit false

namespace Tally.Analysis.AmountTexts
open Library.Calendar Library.Numerals
open Tally.Model Tally.Model.Receipt
open Tally.Analysis.ProseNumbers
open CharacterTables PatternTables

section Texts

variable [PatternTables]

/-! ## Characters of numerals -/

theorem isDecimal_of_isDigit {c : Char} (h : isDigit c = true) : isDecimal c = true := by
  have hbounds := Bool.and_eq_true_iff.mp h
  have hle := of_decide_eq_true hbounds.2
  rw [isDecimal_ascii c (by omega)]
  exact h

theorem isDecimal_comma : isDecimal ',' = false := by
  rw [isDecimal_ascii ',' (by decide)]
  decide

theorem isDecimal_point : isDecimal '.' = false := by
  rw [isDecimal_ascii '.' (by decide)]
  decide

theorem isDecimal_dollar : isDecimal '$' = false := by
  rw [isDecimal_ascii '$' (by decide)]
  decide

theorem isDecimal_minus : isDecimal '-' = false := by
  rw [isDecimal_ascii '-' (by decide)]
  decide

theorem stops_space : Stops ' ' := by
  refine ⟨?_, by decide, by decide⟩
  rw [isDecimal_ascii ' ' (by decide)]
  decide

theorem stops_dollar : Stops '$' := ⟨isDecimal_dollar, by decide, by decide⟩

theorem isNumeral_of_isDecimal {c : Char} (h : isDecimal c = true) : isNumeral c = true := by
  unfold isNumeral
  rw [h, Bool.true_or]

theorem ne_comma_of_isDecimal {c : Char} (h : isDecimal c = true) : c ≠ ',' := by
  rintro rfl
  rw [isDecimal_comma] at h
  exact absurd h (by decide)

/-! ## Digits of numbers -/

omit [PatternTables] in
theorem isDigits_toDigits (n : Nat) : IsDigits (Nat.toDigits 10 n) := by
  intro c hc
  have h := Nat.isDigit_of_mem_toDigits (by decide) (by decide) hc
  unfold Char.isDigit at h
  unfold isDigit
  simp only [ge_iff_le, Bool.and_eq_true, decide_eq_true_eq, UInt32.le_iff_toNat_le] at h ⊢
  exact h

omit [PatternTables] in
theorem isDigits_pad (width n : Nat) : IsDigits (pad width n) := by
  induction width generalizing n with
  | zero => exact isDigits_nil
  | succ width ih =>
      rw [pad, isDigits_append]
      refine ⟨ih _, ?_⟩
      intro c hc
      obtain rfl := List.mem_singleton.mp hc
      have hvalue := toNat_digitChar n
      unfold isDigit
      simp only [Bool.and_eq_true, decide_eq_true_eq]
      omega

omit [PatternTables] in
theorem number_pad (width n : Nat) : number (pad width n) = n % 10 ^ width := by
  induction width generalizing n with
  | zero => simp [pad, number, Nat.mod_one]
  | succ width ih =>
      rw [pad, number_append, ih]
      have hlast : number [digitChar n] = n % 10 := by
        simp [number, toNat_digitChar]
      rw [hlast, List.length_singleton, Nat.pow_one, Nat.pow_succ', Nat.mod_mul]
      ring

omit [PatternTables] in
theorem number_toDigits (n : Nat) : number (Nat.toDigits 10 n) = n := by
  have h := Nat.ofDigitChars_ten_toDigits (n := n)
  unfold Nat.ofDigitChars at h
  unfold number
  convert h using 3
  ring_nf
  rfl

/-- The number that decimal digits of any script denote. -/
def numberOf (digits : List Char) : Nat :=
  digits.foldl (fun value c => value * 10 + digitValue c) 0

theorem numberOf_eq {digits : List Char} (h : IsDigits digits) :
    numberOf digits = number digits := by
  unfold numberOf number
  generalize 0 = value
  induction digits generalizing value with
  | nil => rfl
  | cons c digits ih =>
      rw [List.foldl_cons, List.foldl_cons, digitValue_ascii c (h c (by simp))]
      exact ih (fun d hd => h d (List.mem_cons_of_mem _ hd)) _

/-! ## Thousands -/

omit [PatternTables] in
theorem mem_groupDigits {c : Char} {digits : List Char} (h : c ∈ groupDigits digits) :
    c ∈ digits ∨ c = ',' := by
  induction digits using groupDigits.induct with
  | case1 a b d e rest ih =>
      rw [groupDigits] at h
      simp only [List.mem_cons] at h ih ⊢
      rcases h with h | h | h | h | h
      · exact Or.inl (Or.inl h)
      · exact Or.inl (Or.inr (Or.inl h))
      · exact Or.inl (Or.inr (Or.inr (Or.inl h)))
      · exact Or.inr h
      · rcases ih h with hmem | hcomma
        · exact Or.inl (Or.inr (Or.inr (Or.inr hmem)))
        · exact Or.inr hcomma
  | case2 digits hshort =>
      rw [groupDigits.eq_2 digits hshort] at h
      exact Or.inl h

omit [PatternTables] in
/-- Grouped digits without their commas are the digits. -/
theorem filter_groupDigits {digits : List Char} (h : ∀ c ∈ digits, c ≠ ',') :
    (groupDigits digits).filter (· ≠ ',') = digits := by
  induction digits using groupDigits.induct with
  | case1 a b d e rest ih =>
      simp only [List.mem_cons, forall_eq_or_imp] at h ih
      have hrest := ih h.2.2.2
      rw [groupDigits, List.filter_cons_of_pos (by simpa using h.1),
        List.filter_cons_of_pos (by simpa using h.2.1),
        List.filter_cons_of_pos (by simpa using h.2.2.1), List.filter_cons_of_neg (by decide),
        hrest]
  | case2 digits hshort =>
      rw [groupDigits.eq_2 digits hshort]
      exact List.filter_eq_self.mpr fun c hc => by simpa using h c hc

omit [PatternTables] in
theorem getLast_groupDigits (digits : List Char) :
    (groupDigits digits).getLast? = digits.getLast? := by
  induction digits using groupDigits.induct with
  | case1 a b d e rest ih =>
      rw [groupDigits]
      have hne : groupDigits (e :: rest) ≠ [] := by
        intro hnil
        rw [hnil, eq_comm, List.getLast?_nil, List.getLast?_eq_none_iff] at ih
        exact absurd ih (List.cons_ne_nil _ _)
      rw [List.getLast?_cons_cons, List.getLast?_cons_cons, List.getLast?_cons_cons,
        List.getLast?_cons_of_ne_nil hne, ih, List.getLast?_cons_cons, List.getLast?_cons_cons,
        List.getLast?_cons_cons]
  | case2 digits hshort => rw [groupDigits.eq_2 digits hshort]

omit [PatternTables] in
theorem plain_of_nonneg {value : Int} (h : 0 ≤ value) :
    plain value = Nat.toDigits 10 value.toNat := by
  obtain ⟨n, rfl⟩ := Int.eq_ofNat_of_zero_le h
  unfold plain
  rw [Int.toNat_natCast]
  exact String.toList_ofList

omit [PatternTables] in
theorem plain_of_neg {value : Int} (h : value < 0) : (plain value).head? = some '-' := by
  obtain ⟨n, rfl⟩ := Int.eq_negSucc_of_lt_zero h
  unfold plain
  have htext : toString (Int.negSucc n) = "-" ++ Nat.repr (n + 1) := rfl
  rw [htext, String.toList_append]
  rfl

omit [PatternTables] in
theorem grouped_of_neg {value : Int} (h : value < 0) : (grouped value).head? = some '-' := by
  unfold grouped
  rw [if_pos h]
  rfl

omit [PatternTables] in
theorem grouped_of_nonneg {value : Int} (h : 0 ≤ value) :
    grouped value = (groupDigits (Nat.toDigits 10 value.toNat).reverse).reverse := by
  unfold grouped
  rw [if_neg (by omega), List.nil_append]
  congr 4
  omega

/-! ## Shapes -/

/-- The text is a numeral: digits and commas that begin with a digit, and digits behind a point,
if there is one. -/
structure IsNumeral (text run fraction : List Char) : Prop where
  text_eq : text = run ++ pointed fraction
  head : run.head?.any isDecimal = true
  run_numeral : ∀ c ∈ run, isNumeral c = true
  fraction_decimal : ∀ c ∈ fraction, isDecimal c = true

theorem isNumeral_digits {digits fraction : List Char} (hne : digits ≠ [])
    (hdigits : IsDigits digits) (hfraction : IsDigits fraction) :
    IsNumeral (digits ++ pointed fraction) digits fraction where
  text_eq := rfl
  head := by
    cases digits with
    | nil => exact absurd rfl hne
    | cons c digits => simpa using isDecimal_of_isDigit (hdigits c (by simp))
  run_numeral c hc := isNumeral_of_isDecimal (isDecimal_of_isDigit (hdigits c hc))
  fraction_decimal c hc := isDecimal_of_isDigit (hfraction c hc)

theorem isNumeral_plain {value : Int} (h : 0 ≤ value) {fraction : List Char}
    (hfraction : IsDigits fraction) :
    IsNumeral (plain value ++ pointed fraction) (plain value) fraction := by
  rw [plain_of_nonneg h]
  exact isNumeral_digits Nat.toDigits_ne_nil (isDigits_toDigits _) hfraction

theorem isNumeral_grouped {value : Int} (h : 0 ≤ value) {fraction : List Char}
    (hfraction : IsDigits fraction) :
    IsNumeral (grouped value ++ pointed fraction) (grouped value) fraction := by
  rw [grouped_of_nonneg h]
  refine ⟨rfl, ?_, ?_, fun c hc => isDecimal_of_isDigit (hfraction c hc)⟩
  · rw [List.head?_reverse, getLast_groupDigits, List.getLast?_reverse]
    cases hdigits : Nat.toDigits 10 value.toNat with
    | nil => exact absurd hdigits Nat.toDigits_ne_nil
    | cons c digits =>
        have hc : c ∈ Nat.toDigits 10 value.toNat := by rw [hdigits]; exact List.mem_cons_self
        simpa using isDecimal_of_isDigit (isDigits_toDigits _ c hc)
  · intro c hc
    rcases mem_groupDigits (List.mem_reverse.mp hc) with hmem | rfl
    · exact isNumeral_of_isDecimal
        (isDecimal_of_isDigit (isDigits_toDigits _ c (List.mem_reverse.mp hmem)))
    · unfold isNumeral
      simp

omit [PatternTables] in
theorem pointed_pad (n : Nat) : pointed (pad 2 n) = '.' :: pad 2 n := rfl

/-- Each shape of an amount that is not negative is one numeral. -/
theorem isNumeral_shape {amount : Int} (h : 0 ≤ amount) {shape : List Char}
    (hshape : shape ∈ amountTokens amount) : ∃ run fraction, IsNumeral shape run fraction := by
  have hwhole : 0 ≤ amount / 100 := by omega
  have hcents := isDigits_pad 2 (amount % 100).toNat
  unfold amountTokens at hshape
  simp only [List.mem_cons, List.not_mem_nil, or_false] at hshape
  rcases hshape with rfl | rfl | rfl | rfl | rfl
  · exact ⟨_, [], by simpa [pointed] using isNumeral_plain h isDigits_nil⟩
  · exact ⟨_, [], by simpa [pointed] using isNumeral_plain hwhole isDigits_nil⟩
  · exact ⟨_, [], by simpa [pointed] using isNumeral_grouped hwhole isDigits_nil⟩
  · exact ⟨_, _, isNumeral_plain hwhole hcents⟩
  · exact ⟨_, _, isNumeral_grouped hwhole hcents⟩

omit [PatternTables] in
/-- Each shape of an amount below zero begins with the sign. -/
theorem head_shape {amount : Int} (h : amount < 0) {shape : List Char}
    (hshape : shape ∈ amountTokens amount) : shape.head? = some '-' := by
  have hwhole : amount / 100 < 0 := by omega
  unfold amountTokens at hshape
  simp only [List.mem_cons, List.not_mem_nil, or_false] at hshape
  rcases hshape with rfl | rfl | rfl | rfl | rfl
  · exact plain_of_neg h
  · exact plain_of_neg hwhole
  · exact grouped_of_neg hwhole
  · rw [List.head?_append, plain_of_neg hwhole]
    rfl
  · rw [List.head?_append, grouped_of_neg hwhole]
    rfl

theorem IsNumeral.numbersOf {text run fraction : List Char} (h : IsNumeral text run fraction) :
    numbersOf text = [text] := by
  rw [h.text_eq]
  exact numbersOf_numeral h.head h.run_numeral h.fraction_decimal isDecimal_point isDecimal_dollar

/-! ## Values -/

/-- The dollars that a numeral denotes. -/
def dollarsOf (text : List Char) : ℚ :=
  let digits := text.filter (· ≠ ',')
  let whole := digits.takeWhile isDecimal
  let fraction := fractionOf (digits.drop whole.length)
  numberOf whole + numberOf fraction / 10 ^ fraction.length

theorem dollarsOf_filter (text : List Char) :
    dollarsOf (text.filter (· ≠ ',')) = dollarsOf text := by
  unfold dollarsOf
  rw [List.filter_filter]
  simp only [Bool.and_self]

/-- Digits with digits behind a point are read at their places. -/
theorem dollarsOf_digits {digits fraction : List Char} (hdigits : IsDigits digits)
    (hfraction : IsDigits fraction) :
    dollarsOf (digits ++ pointed fraction) =
      number digits + number fraction / 10 ^ fraction.length := by
  have hcomma (c : Char) (hc : isDigit c = true) : decide (c ≠ ',') = true :=
    decide_eq_true (ne_comma_of_isDecimal (isDecimal_of_isDigit hc))
  have hfilter : (digits ++ pointed fraction).filter (· ≠ ',') = digits ++ pointed fraction := by
    refine List.filter_eq_self.mpr fun c hc => ?_
    rcases List.mem_append.mp hc with hmem | hmem
    · exact hcomma c (hdigits c hmem)
    · unfold pointed at hmem
      split at hmem
      · exact absurd hmem List.not_mem_nil
      · rcases List.mem_cons.mp hmem with rfl | hdigit
        · decide
        · exact hcomma c (hfraction c hdigit)
  have hwhole : (digits ++ pointed fraction).takeWhile isDecimal = digits := by
    rw [List.takeWhile_append_of_pos fun c hc => isDecimal_of_isDigit (hdigits c hc)]
    unfold pointed
    split
    · simp
    · simp [isDecimal_point]
  have hpoint : fractionOf (pointed fraction) = fraction := by
    cases fraction with
    | nil => rfl
    | cons c fraction =>
        exact List.takeWhile_eq_self_iff.mpr fun d hd => isDecimal_of_isDigit (hfraction d hd)
  unfold dollarsOf
  dsimp only
  rw [hfilter, hwhole, List.drop_left, hpoint, numberOf_eq hdigits, numberOf_eq hfraction]

theorem dollarsOf_plain {value : Int} (h : 0 ≤ value) {fraction : List Char}
    (hfraction : IsDigits fraction) :
    dollarsOf (plain value ++ pointed fraction) =
      value + number fraction / 10 ^ fraction.length := by
  rw [plain_of_nonneg h, dollarsOf_digits (isDigits_toDigits _) hfraction, number_toDigits]
  congr 1
  exact_mod_cast Int.toNat_of_nonneg h

/-- The commas of a grouped number do not count. -/
theorem dollarsOf_grouped {value : Int} (h : 0 ≤ value) (fraction : List Char) :
    dollarsOf (grouped value ++ fraction) = dollarsOf (plain value ++ fraction) := by
  have hfilter : (grouped value).filter (· ≠ ',') = plain value := by
    rw [grouped_of_nonneg h, plain_of_nonneg h, List.filter_reverse, filter_groupDigits,
      List.reverse_reverse]
    intro c hc
    exact ne_comma_of_isDecimal
      (isDecimal_of_isDigit (isDigits_toDigits _ c (List.mem_reverse.mp hc)))
  have hplain : (plain value).filter (· ≠ ',') = plain value := by
    rw [plain_of_nonneg h]
    exact filter_digits (isDigits_toDigits _) fun c hc =>
      decide_eq_true (ne_comma_of_isDecimal (isDecimal_of_isDigit hc))
  rw [← dollarsOf_filter (grouped value ++ fraction), ← dollarsOf_filter (plain value ++ fraction),
    List.filter_append, List.filter_append, hfilter, hplain]

/-- An amount with its cents behind the point denotes the amount. -/
theorem dollarsOf_cents {amount : Int} (h : 0 ≤ amount) :
    dollarsOf (plain (amount / 100) ++ '.' :: pad 2 (amount % 100).toNat) = (amount : ℚ) / 100 := by
  have hwhole : 0 ≤ amount / 100 := by omega
  have hcents : (amount % 100).toNat % 10 ^ 2 = (amount % 100).toNat := by omega
  rw [← pointed_pad, dollarsOf_plain hwhole (isDigits_pad _ _), number_pad, length_pad, hcents]
  have hsplit : ((amount / 100 : Int) : ℚ) * 100 + ((amount % 100).toNat : ℚ) = amount := by
    have hnat : ((amount % 100).toNat : ℚ) = ((amount % 100 : Int) : ℚ) := by
      have hmod : ((amount % 100).toNat : Int) = amount % 100 := by omega
      exact_mod_cast congrArg (Int.cast (R := ℚ)) hmod
    rw [hnat]
    have hdiv : amount / 100 * 100 + amount % 100 = amount := by omega
    exact_mod_cast congrArg (Int.cast (R := ℚ)) hdiv
  rw [← hsplit]
  field_simp
  ring

/-- A whole number denotes itself. -/
theorem dollarsOf_whole {value : Int} (h : 0 ≤ value) : dollarsOf (plain value) = value := by
  have hvalue := dollarsOf_plain h isDigits_nil
  simpa [pointed, number] using hvalue

end Texts

end Tally.Analysis.AmountTexts
