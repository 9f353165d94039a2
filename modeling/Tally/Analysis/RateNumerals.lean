import Mathlib.Data.List.DropRight
import Mathlib.Tactic.Linarith
import Tally.Analysis.DecimalValues
import Tally.Analysis.UsdAmounts

/-!
# Numerals of rate texts

The amount of a rate text is that of its first match, which takes the digits and commas from the
first digit on and up to two decimals behind them. Where the text goes on otherwise (with a third
decimal, a second point, groups that are not thousands) or has a point before its first digit, the
match is part of a longer numeral, and the extraction is eligible with the amount of that part.
-/

set_option autoImplicit false

namespace Tally.Analysis.RateNumerals
open Library Library.Calendar Library.Numerals Tally.Model Tally.Model.Receipt
open Applicability (Decimal)
open CharacterTables PatternTables
open DecimalValues RuleRates UsdAmounts

/-! ## The complete numeral -/

/-- The characters of numerals. -/
def inNumeral (c : Char) : Bool := isDigit c || c = ',' || c = '.'

theorem inNumeral_eq_false {c : Char} :
    inNumeral c = false ↔ isDigit c = false ∧ c ≠ ',' ∧ c ≠ '.' := by
  simp [inNumeral, and_assoc]

/-- From the first digit on. -/
def fromDigit (text : List Char) : List Char := text.dropWhile fun c => !isDigit c

/-- The digits, commas and points from the first digit on, up to the last digit among them. -/
def stretch (found : List Char) : List Char :=
  (found.takeWhile inNumeral).rdropWhile fun c => !isDigit c

/-- The first numeral of a text, with all its digits and separators and with a point right before
them. -/
def completeNumeral (text : List Char) : List Char :=
  (if (text.takeWhile fun c => !isDigit c).getLast? = some '.' then ['.'] else []) ++
    stretch (fromDigit text)

/-- The number that a whole part and decimals denote. -/
def numeralValue (whole fraction : List Char) : ℚ := number (whole ++ fraction) / 10 ^ fraction.length

/-! ## The match -/

/-- The match from the first digit on. -/
def munch (found : List Char) : List Char :=
  let whole := found.takeWhile fun c => isDigit c || c = ','
  match found.drop whole.length with
  | '.' :: rest =>
    let decimals := rest.takeWhile isDigit
    if 1 ≤ decimals.length ∧ decimals.length ≤ 2 then whole ++ '.' :: decimals else whole
  | _ => whole

/-- The characters that are matched before a point. -/
def IsWhole (text : List Char) : Prop := ∀ c ∈ text, isDigit c = true ∨ c = ','

theorem takeWhile_whole {whole rest : List Char} (hwhole : IsWhole whole)
    (hrest : ∀ c ∈ rest.head?, isDigit c = false ∧ c ≠ ',') :
    (whole ++ rest).takeWhile (fun c => isDigit c || c = ',') = whole := by
  rw [List.takeWhile_append_of_pos (by simpa [IsWhole] using hwhole)]
  cases rest with
  | nil => simp
  | cons c rest => simp [hrest c (by simp)]

theorem munch_plain {whole rest : List Char} (hwhole : IsWhole whole)
    (hrest : ∀ c ∈ rest.head?, inNumeral c = false) : munch (whole ++ rest) = whole := by
  have hrun := takeWhile_whole hwhole fun c hc =>
    (inNumeral_eq_false.mp (hrest c hc)).imp_right And.left
  unfold munch
  dsimp only
  rw [hrun, List.drop_left]
  cases rest with
  | nil => rfl
  | cons c rest =>
      have hne : c ≠ '.' := by
        rintro rfl
        exact absurd (hrest '.' (by simp)) (by decide)
      split
      · rename_i heq
        exact absurd (List.cons.inj heq).1 hne
      · rfl

theorem munch_point {whole fraction rest : List Char} (hwhole : IsWhole whole)
    (hfraction : IsDigits fraction) (hrest : ∀ c ∈ rest.head?, isDigit c = false) :
    munch (whole ++ '.' :: (fraction ++ rest)) =
      if 1 ≤ fraction.length ∧ fraction.length ≤ 2 then whole ++ '.' :: fraction else whole := by
  have hstop : ∀ c ∈ ('.' :: (fraction ++ rest)).head?, isDigit c = false ∧ c ≠ ',' := by
    intro c hc
    rw [← Option.mem_some.mp hc]
    decide
  have hrun := takeWhile_whole hwhole hstop
  unfold munch
  dsimp only
  rw [hrun, List.drop_left]
  simp only [takeWhile_digits hfraction hrest]

/-- Only separators stand before the next character that is in no numeral. -/
structure Ends (tail : List Char) : Prop where
  parts : ∃ separators rest : List Char, tail = separators ++ rest ∧
    (∀ c ∈ separators, c = ',' ∨ c = '.') ∧ ∀ c ∈ rest.head?, inNumeral c = false

/-- Such a text does not begin with a digit. -/
theorem Ends.head {tail : List Char} (h : Ends tail) : ∀ c ∈ tail.head?, isDigit c = false := by
  obtain ⟨separators, rest, rfl, hseparators, hrest⟩ := h.parts
  intro c hc
  cases separators with
  | nil =>
      exact (inNumeral_eq_false.mp (hrest c hc)).1
  | cons separator separators =>
      obtain rfl := Option.mem_some.mp hc
      rcases hseparators separator List.mem_cons_self with rfl | rfl <;> decide

/-- Behind digits and commas only more commas are matched. -/
theorem munch_ends {whole tail : List Char} (hwhole : IsWhole whole) (h : Ends tail) :
    ∃ commas, (∀ c ∈ commas, c = ',') ∧ munch (whole ++ tail) = whole ++ commas := by
  obtain ⟨separators, rest, rfl, hseparators, hrest⟩ := h.parts
  clear h
  induction separators generalizing whole with
  | nil => exact ⟨[], fun _ hc => absurd hc List.not_mem_nil, by
      rw [List.nil_append, munch_plain hwhole hrest, List.append_nil]⟩
  | cons separator separators ih =>
      have hlater : ∀ c ∈ separators, c = ',' ∨ c = '.' :=
        fun c hc => hseparators c (List.mem_cons_of_mem _ hc)
      rcases hseparators separator List.mem_cons_self with rfl | rfl
      · have hlonger : IsWhole (whole ++ [',']) := by
          intro c hc
          rcases List.mem_append.mp hc with hmem | hmem
          · exact hwhole c hmem
          · exact Or.inr (List.mem_singleton.mp hmem)
        obtain ⟨commas, hcommas, hmunch⟩ := ih hlonger hlater
        refine ⟨',' :: commas, ?_, ?_⟩
        · intro c hc
          rcases List.mem_cons.mp hc with rfl | hmem
          · rfl
          · exact hcommas c hmem
        · rw [List.cons_append, List.append_cons, hmunch, List.append_assoc]
          rfl
      · have hends : Ends (separators ++ rest) := ⟨separators, rest, rfl, hlater, hrest⟩
        refine ⟨[], fun _ hc => absurd hc List.not_mem_nil, ?_⟩
        have hmunch := munch_point hwhole isDigits_nil hends.head
        rw [List.nil_append] at hmunch
        rw [List.cons_append, hmunch, List.append_nil]
        rfl

/-! ## The match of a numeral -/

theorem head_dropWhile {p : Char → Bool} {text : List Char} {c : Char}
    (h : c ∈ (text.dropWhile p).head?) : p c = false := by
  rw [← List.find?_not_eq_head?_dropWhile] at h
  simpa using List.find?_some h

/-- The stretch ends in a digit, and behind it are only separators. -/
theorem stretch_split (found : List Char) : ∃ tail, found = stretch found ++ tail ∧ Ends tail := by
  refine ⟨((found.takeWhile inNumeral).rtakeWhile fun c => !isDigit c) ++
    found.dropWhile inNumeral, ?_, ?_⟩
  · unfold stretch
    rw [← List.append_assoc, List.rdropWhile_append_rtakeWhile, List.takeWhile_append_dropWhile]
  · refine ⟨_, _, rfl, ?_, fun c hc => head_dropWhile hc⟩
    intro c hc
    have hdigit : (!isDigit c) = true :=
      @List.mem_rtakeWhile_imp _ (fun c => !isDigit c) (found.takeWhile inNumeral) c hc
    have hin : inNumeral c = true :=
      List.mem_takeWhile_imp ((List.rtakeWhile_suffix _ _).subset hc)
    simpa [inNumeral, show isDigit c = false by simpa using hdigit] using hin

theorem stretch_last {found : List Char} {c : Char} (h : c ∈ (stretch found).getLast?) :
    isDigit c = true := by
  have hne : stretch found ≠ [] := by
    rintro hnil
    rw [hnil] at h
    exact absurd h (by simp)
  have hlast := List.rdropWhile_last_not (fun c => !isDigit c) (found.takeWhile inNumeral) hne
  rw [List.getLast?_eq_some_getLast hne] at h
  have heq : (stretch found).getLast hne = c := Option.some.inj h
  unfold stretch at heq
  rw [heq] at hlast
  simpa using hlast

/-- A numeral has a digit. -/
theorem exists_digit {text whole fraction : List Char} (h : Numeral ',' text whole fraction) :
    ∃ c ∈ text, isDigit c = true := by
  obtain ⟨wholeText, point, rfl, hgrouped, _⟩ := h.parts
  have hfilter : wholeText.filter isDigit = whole :=
    hgrouped.filter (fun _ hc => hc) (by decide)
  rcases h.nonempty with hwhole | hfraction
  · obtain ⟨c, hc⟩ := List.exists_mem_of_ne_nil _ hwhole
    rw [← hfilter] at hc
    obtain ⟨hmem, hdigit⟩ := List.mem_filter.mp hc
    exact ⟨c, by simp [hmem], hdigit⟩
  · obtain ⟨c, hc⟩ := List.exists_mem_of_ne_nil _ hfraction
    exact ⟨c, by simp [hc], h.isDigits c hc⟩

/-- The digits of a numeral that are matched. -/
def matchedParts (whole fraction : List Char) : List Char × List Char :=
  if whole = [] then (fraction, [])
  else if fraction.length ≤ 2 then (whole, fraction) else (whole, [])

/-- What is read of a match that is the digits of a whole number and some decimals. -/
theorem parseDecimal_digits {text whole fraction : List Char} (hwhole : IsDigits whole)
    (hfraction : IsDigits fraction) (hne : whole ≠ [])
    (htext : text = whole ++ '.' :: fraction ∨ text = whole ∧ fraction = []) :
    IntakeClaims.parseDecimal text =
      some (false, number (whole ++ fraction), fraction.length) := by
  refine parseDecimal_eq_some.mpr ⟨text, rfl, ?_⟩
  rcases htext with rfl | ⟨rfl, rfl⟩
  · exact ⟨whole, ['.'], fraction, rfl, hwhole, hfraction, Or.inl rfl, Or.inl hne, rfl, rfl⟩
  · exact ⟨_, [], [], by simp, hwhole, isDigits_nil, Or.inr ⟨rfl, rfl⟩, Or.inl hne, by simp,
      rfl⟩

theorem filter_commas {commas : List Char} (h : ∀ c ∈ commas, c = ',') :
    commas.filter (· ≠ ',') = [] := by
  refine List.filter_eq_nil_iff.mpr fun c hc => ?_
  simp [h c hc]

theorem keeps_digits (c : Char) (h : isDigit c = true) : decide (c ≠ ',') = true := by
  rw [decide_eq_true_eq]
  rintro rfl
  exact absurd h (by decide)

theorem Grouped.isWhole {text digits : List Char} (h : Grouped ',' text digits) : IsWhole text :=
  fun _ hc => (h.mem hc).symm

/-- What is read of the match, where the complete numeral is one. -/
theorem munch_numeral {text whole fraction : List Char}
    (h : Numeral ',' (completeNumeral text) whole fraction) :
    fromDigit text ≠ [] ∧ IntakeClaims.parseDecimal ((munch (fromDigit text)).filter (· ≠ ',')) =
      some (false, number ((matchedParts whole fraction).1 ++ (matchedParts whole fraction).2),
        (matchedParts whole fraction).2.length) := by
  obtain ⟨tail, hsplit, htail⟩ := stretch_split (fromDigit text)
  have hhead : ∀ c ∈ (fromDigit text).head?, isDigit c = true := fun c hc => by
    simpa using head_dropWhile hc
  obtain ⟨wholeText, point, hparts, hgrouped, hpoint⟩ := h.parts
  have hfilter : wholeText.filter (· ≠ ',') = whole := hgrouped.filter keeps_digits (by decide)
  unfold completeNumeral at hparts
  by_cases hlead : (text.takeWhile fun c => !isDigit c).getLast? = some '.'
  · -- The numeral is a point and decimals, which are matched as a whole number.
    rw [if_pos hlead] at hparts
    have hnone : wholeText = [] := by
      cases wholeText with
      | nil => rfl
      | cons c rest =>
          obtain rfl : '.' = c := (List.cons.inj hparts).1
          exact absurd (hgrouped.mem List.mem_cons_self) (by decide)
    obtain rfl : whole = [] := by rw [← hfilter, hnone]; rfl
    have hfraction : fraction ≠ [] := h.nonempty.resolve_left (fun hne => hne rfl)
    have hstretch : stretch (fromDigit text) = fraction := by
      rcases hpoint with rfl | ⟨rfl, hnil⟩
      · rw [hnone] at hparts
        exact (List.cons.inj hparts).2
      · exact absurd hnil hfraction
    rw [hstretch] at hsplit
    have hwhole : IsWhole fraction := fun c hc => Or.inl (h.isDigits c hc)
    obtain ⟨commas, hcommas, hmunch⟩ := munch_ends hwhole htail
    refine ⟨fun hnil => ?_, ?_⟩
    · rw [hnil] at hsplit
      exact hfraction (List.append_eq_nil_iff.mp hsplit.symm).1
    · rw [hsplit, hmunch, List.filter_append, filter_commas hcommas, List.append_nil,
        filter_digits h.isDigits keeps_digits]
      exact parseDecimal_digits h.isDigits isDigits_nil hfraction (Or.inr ⟨rfl, rfl⟩)
  · rw [if_neg hlead, List.nil_append] at hparts
    have hfound : fromDigit text ≠ [] := by
      intro hnil
      obtain ⟨c, hc, _⟩ := exists_digit h
      unfold completeNumeral at hc
      rw [if_neg hlead, hnil] at hc
      exact absurd hc (by simp [stretch])
    -- The first digit is in the whole part.
    obtain ⟨first, later, hfirst⟩ := List.exists_cons_of_ne_nil hfound
    have hdigit : isDigit first = true := hhead first (by rw [hfirst]; rfl)
    rw [hparts] at hsplit
    have hne : whole ≠ [] := by
      rintro rfl
      have hnone : wholeText = [] := by
        cases wholeText with
        | nil => rfl
        | cons c rest =>
            rw [hfirst] at hsplit
            obtain rfl : first = c := (List.cons.inj hsplit).1
            have hkept : first ∈ (first :: rest).filter (· ≠ ',') :=
              List.mem_filter.mpr ⟨List.mem_cons_self, keeps_digits first hdigit⟩
            rw [hfilter] at hkept
            exact absurd hkept List.not_mem_nil
      rw [hnone, List.nil_append, hfirst] at hsplit
      rcases hpoint with rfl | ⟨rfl, rfl⟩
      · obtain rfl : first = '.' := (List.cons.inj hsplit).1
        exact absurd hdigit (by decide)
      · have hhead' : first ∈ tail.head? := by
          rw [show tail = first :: later from hsplit.symm]
          rfl
        exact absurd (htail.head first hhead') (by simp [hdigit])
    refine ⟨hfound, ?_⟩
    have hwhole : IsWhole wholeText := Grouped.isWhole hgrouped
    unfold matchedParts
    rw [if_neg hne]
    rcases hpoint with rfl | ⟨rfl, rfl⟩
    · have hmunch := munch_point hwhole h.isDigits htail.head
      have htext : fromDigit text = wholeText ++ '.' :: (fraction ++ tail) := by
        rw [hsplit]
        simp
      have hsome : 1 ≤ fraction.length := by
        cases fraction with
        | cons c rest => simp
        | nil =>
            have hlast : '.' ∈ (stretch (fromDigit text)).getLast? := by
              rw [hparts]
              simp
            exact absurd (stretch_last hlast) (by decide)
      rw [htext, hmunch]
      by_cases htwo : fraction.length ≤ 2
      · rw [if_pos ⟨hsome, htwo⟩, if_pos htwo, List.filter_append, hfilter]
        have hpoint : ('.' :: fraction).filter (· ≠ ',') = '.' :: fraction := by
          rw [List.filter_cons_of_pos (by decide), filter_digits h.isDigits keeps_digits]
        rw [hpoint]
        exact parseDecimal_digits hgrouped.isDigits h.isDigits hne (Or.inl rfl)
      · rw [if_neg (fun hboth => htwo hboth.2), if_neg htwo, hfilter]
        exact parseDecimal_digits hgrouped.isDigits isDigits_nil hne (Or.inr ⟨rfl, rfl⟩)
    · obtain ⟨commas, hcommas, hmunch⟩ := munch_ends hwhole htail
      rw [List.append_nil, List.append_nil] at hsplit
      rw [hsplit, hmunch, List.filter_append, filter_commas hcommas, List.append_nil, hfilter]
      exact parseDecimal_digits hgrouped.isDigits isDigits_nil hne (Or.inr ⟨rfl, rfl⟩)

/-! ## Decimal digits of other scripts -/

section Scripts

variable [PatternTables]

omit [PatternTables] in
theorem ascii_digits : ∀ v < 10, isDigit (Char.ofNat (48 + v)) = true ∧
    Char.ofNat (48 + v) ≠ ',' ∧ Char.ofNat (48 + v) ≠ '.' := by
  decide

theorem isDecimal_of_isDigit {c : Char} (h : isDigit c = true) : isDecimal c = true := by
  have hsmall : c.toNat < 128 := by
    have hbounds := Bool.and_eq_true_iff.mp h
    have hle := of_decide_eq_true hbounds.2
    omega
  rw [isDecimal_ascii c hsmall, h]

theorem isDigit_asciiDigit (c : Char) : isDigit (asciiDigit c) = isDecimal c := by
  unfold asciiDigit
  cases hdecimal : isDecimal c with
  | true => exact (ascii_digits _ (digitValue_lt c hdecimal)).1
  | false =>
      rw [if_neg (by simp)]
      cases hdigit : isDigit c with
      | true => rw [isDecimal_of_isDigit hdigit] at hdecimal; exact absurd hdecimal (by simp)
      | false => rfl

theorem asciiDigit_eq_iff {c separator : Char} (h : separator = ',' ∨ separator = '.') :
    asciiDigit c = separator ↔ c = separator := by
  have hsmall : separator.toNat < 128 ∧ isDigit separator = false := by
    rcases h with rfl | rfl <;> decide
  unfold asciiDigit
  cases hdecimal : isDecimal c with
  | true =>
      refine iff_of_false ?_ ?_
      · have hdigits := ascii_digits _ (digitValue_lt c hdecimal)
        rcases h with rfl | rfl
        · exact hdigits.2.1
        · exact hdigits.2.2
      · rintro rfl
        rw [isDecimal_ascii c hsmall.1, hsmall.2] at hdecimal
        exact absurd hdecimal (by simp)
  | false => rfl

/-- The text with its decimal digits as those of ASCII. -/
def asciiText (text : List Char) : List Char := text.map asciiDigit

theorem takeWhile_ascii (text : List Char) :
    (asciiText text).takeWhile isDigit = asciiText (text.takeWhile isDecimal) := by
  unfold asciiText
  rw [List.takeWhile_map]
  congr 2
  funext c
  exact isDigit_asciiDigit c

/-- The match in the digits of ASCII. -/
theorem rateNumeral_eq (text : List Char) :
    (rateNumeral text).map asciiText =
      if fromDigit (asciiText text) = [] then none else some (munch (fromDigit (asciiText text))) := by
  have hfound : fromDigit (asciiText text) =
      asciiText (text.dropWhile fun c => !isDecimal c) := by
    unfold fromDigit asciiText
    rw [List.dropWhile_map]
    congr 2
    funext c
    exact congrArg not (isDigit_asciiDigit c)
  rw [hfound]
  unfold rateNumeral
  generalize text.dropWhile (fun c => !isDecimal c) = found
  have hwhole : (asciiText found).takeWhile (fun c => isDigit c || c = ',') =
      asciiText (found.takeWhile fun c => isDecimal c || c = ',') := by
    unfold asciiText
    rw [List.takeWhile_map]
    congr 2
    funext c
    have hcomma : decide (asciiDigit c = ',') = decide (c = ',') :=
      decide_eq_decide.mpr (asciiDigit_eq_iff (Or.inl rfl))
    rw [Function.comp_apply, isDigit_asciiDigit, hcomma]
  have hrest (n : Nat) : (asciiText found).drop n = asciiText (found.drop n) := List.map_drop.symm
  cases hempty : found with
  | nil => simp [asciiText]
  | cons first later =>
      have hlength (t : List Char) : (asciiText t).length = t.length := List.length_map asciiDigit
      have hascii : asciiText found ≠ [] := by simp [hempty, asciiText]
      rw [← hempty, if_neg (by simp [hempty]), if_neg hascii]
      unfold munch
      dsimp only
      rw [hwhole, hlength, hrest]
      cases hdrop : found.drop (found.takeWhile fun c => isDecimal c || c = ',').length with
      | nil => rfl
      | cons c rest =>
          by_cases hpoint : c = '.'
          · subst hpoint
            have hdot : asciiDigit '.' = '.' := (asciiDigit_eq_iff (Or.inr rfl)).mpr rfl
            have hdecimals := takeWhile_ascii rest
            unfold asciiText at hdecimals ⊢
            rw [List.map_cons, hdot]
            simp only [hdecimals, List.length_map]
            split
            · simp [hdot]
            · simp
          · have hother : asciiDigit c ≠ '.' :=
              fun heq => hpoint ((asciiDigit_eq_iff (Or.inr rfl)).mp heq)
            unfold asciiText
            rw [List.map_cons]
            split
            · rename_i heq
              exact absurd (List.cons.inj heq).1 hpoint
            · split
              · rename_i heq
                exact absurd (List.cons.inj heq).1 hother
              · rfl

theorem amountFromRateText_eq (text : String) :
    amountFromRateText text = if fromDigit (asciiText text.toList) = [] then none
      else (IntakeClaims.parseDecimal
        ((munch (fromDigit (asciiText text.toList))).filter (· ≠ ','))).map
          fun p => .finite p.1 p.2.1 (-p.2.2) := by
  have hfilter (numeral : List Char) : asciiText (numeral.filter (· ≠ ',')) =
      (asciiText numeral).filter (· ≠ ',') := by
    unfold asciiText
    rw [List.filter_map]
    congr 2
    funext c
    exact decide_eq_decide.mpr (not_congr (asciiDigit_eq_iff (Or.inl rfl)).symm)
  have hmatch := rateNumeral_eq text.toList
  unfold amountFromRateText
  cases hnumeral : rateNumeral text.toList with
  | none =>
      rw [hnumeral] at hmatch
      split at hmatch
      · rename_i hnil
        rw [if_pos hnil]
        rfl
      · exact absurd hmatch (by simp)
  | some numeral =>
      rw [hnumeral] at hmatch
      split at hmatch
      · exact absurd hmatch (by simp)
      · rename_i hne
        rw [if_neg hne, ← Option.some.inj hmatch, ← hfilter]
        rfl

/-! ## Eligible extractions -/

/-- The complete numeral of the rate text denotes the rate. -/
def Denotes (rateText : String) (rateAmount : Decimal) : Prop :=
  ∃ whole fraction, Numeral ',' (completeNumeral (asciiText rateText.toList)) whole fraction ∧
    rational (some rateAmount) = some (numeralValue whole fraction)

/-- The complete numeral of the rate text is one, with commas between its thousands only. It has
digits before its point and at most two decimals, or all its decimals are zeros. -/
def Plain (rateText : String) : Prop :=
  ∃ whole fraction, Numeral ',' (completeNumeral (asciiText rateText.toList)) whole fraction ∧
    (whole ≠ [] ∧ fraction.length ≤ 2 ∨ number fraction = 0)

omit [PatternTables] in
/-- What is read of a numeral is its value where it is plain. -/
theorem matched_value_iff {whole fraction : List Char} (hne : whole ≠ [] ∨ fraction ≠ []) :
    numeralValue (matchedParts whole fraction).1 (matchedParts whole fraction).2 =
      numeralValue whole fraction ↔
    (whole ≠ [] ∧ fraction.length ≤ 2 ∨ number fraction = 0) := by
  have hpow : (10 : ℚ) ^ fraction.length ≠ 0 := pow_ne_zero _ (by norm_num)
  have hplain : numeralValue whole [] = number whole := by simp [numeralValue]
  have hvalue : numeralValue whole fraction =
      number whole + number fraction / 10 ^ fraction.length := by
    unfold numeralValue
    rw [number_append]
    push_cast
    field_simp
  unfold matchedParts
  by_cases hwhole : whole = []
  · subst hwhole
    have hlength : 1 ≤ fraction.length := by
      rcases hne with hne | hne
      · exact absurd rfl hne
      · exact List.length_pos_of_ne_nil hne
    rw [if_pos rfl]
    have hread : numeralValue fraction [] = number fraction := by simp [numeralValue]
    rw [hread, hvalue]
    have hten : (10 : ℚ) ^ fraction.length ≠ 1 := by
      have hone : (1 : ℚ) < 10 ^ fraction.length := one_lt_pow₀ (by norm_num) (by omega)
      exact hone.ne'
    constructor
    · intro heq
      right
      by_contra hzero
      have hcast : (number fraction : ℚ) ≠ 0 := by exact_mod_cast hzero
      have hnil : (number [] : ℚ) = 0 := by simp [number]
      rw [hnil, zero_add, eq_div_iff hpow] at heq
      exact hten (mul_left_cancel₀ hcast (by rw [heq, mul_one]))
    · rintro (⟨hnil, _⟩ | hzero)
      · exact absurd rfl hnil
      · rw [hzero]
        simp [number]
  · rw [if_neg hwhole]
    by_cases htwo : fraction.length ≤ 2
    · rw [if_pos htwo]
      exact iff_of_true rfl (Or.inl ⟨hwhole, htwo⟩)
    · rw [if_neg htwo, hplain, hvalue]
      constructor
      · intro heq
        have hzero : (number fraction : ℚ) / 10 ^ fraction.length = 0 := by linarith
        right
        exact_mod_cast (div_eq_zero_iff.mp hzero).resolve_right hpow
      · rintro (⟨_, hle⟩ | hzero)
        · exact absurd hle htwo
        · rw [hzero]
          simp

section Eligible

variable [Sha256]

/-- An eligible rate is what is read of the match. -/
theorem amount_of_eligible {source : Bytes} {extraction : TariffExtraction}
    {verification : TariffVerification}
    (h : verifyTariffExtraction source extraction = .ok verification)
    (heligible : verification.eligible = true) :
    ∃ amount, amountFromRateText extraction.rateText = some amount ∧
      equal amount extraction.rateAmount = true := by
  unfold verifyTariffExtraction at h
  dsimp only at h
  split at h
  · obtain rfl := Except.ok.inj h
    exact absurd heligible (by simp)
  · rename_i sourceText _
    cases hmetadata : metadataReasons extraction with
    | error e =>
        rw [hmetadata] at h
        exact absurd h (by simp [bind, Except.bind])
    | ok metadata =>
        rw [hmetadata] at h
        obtain rfl := Except.ok.inj h
        have hreasons : textReasons sourceText extraction = [] := by
          have hall := List.isEmpty_iff.mp heligible
          exact (List.append_eq_nil_iff.mp (List.append_eq_nil_iff.mp hall).1).1
        have hamount := (List.append_eq_nil_iff.mp hreasons).2
        by_cases hany : (amountFromRateText extraction.rateText).any
            (equal · extraction.rateAmount) = true
        · exact (Option.any_eq_true _ _).mp hany
        · rw [if_neg hany] at hamount
          exact absurd hamount (by simp)

/-- For every extraction that is marked eligible, the complete numeral of its rate text denotes
the rate exactly when that numeral is plain.
SOURCE: core/receipt.py:118-180 -/
theorem denotes_iff {source : Bytes} {extraction : TariffExtraction}
    {verification : TariffVerification}
    (h : verifyTariffExtraction source extraction = .ok verification)
    (heligible : verification.eligible = true) :
    Denotes extraction.rateText extraction.rateAmount ↔ Plain extraction.rateText := by
  obtain ⟨amount, hamount, hequal⟩ := amount_of_eligible h heligible
  refine exists_congr fun whole => exists_congr fun fraction => and_congr_right fun hnumeral => ?_
  obtain ⟨hfound, hread⟩ := munch_numeral hnumeral
  rw [amountFromRateText_eq, if_neg hfound, hread] at hamount
  obtain rfl := Option.some.inj hamount
  rw [rational_of_equal hequal, ← matched_value_iff hnumeral.nonempty, Option.some.injEq]
  have hvalue : valueOf false
      (number ((matchedParts whole fraction).1 ++ (matchedParts whole fraction).2))
      (-((matchedParts whole fraction).2.length : Int)) =
        numeralValue (matchedParts whole fraction).1 (matchedParts whole fraction).2 := by
    unfold valueOf numeralValue
    rw [zpow_neg, zpow_natCast]
    simp [div_eq_mul_inv]
  rw [← hvalue]

end Eligible

end Scripts

/-! ## A third decimal -/

section Case

local instance casePatterns : PatternTables := asciiPatterns
local instance caseDigest : Sha256 := Sha256.standard

/-- The extraction of a rate text that is its own clause and source. -/
def extractionOf (rateText : String) (coefficient : Nat) (exponent : Int) : TariffExtraction :=
  { rateAmount := .finite false coefficient exponent
    rateCurrency := "USD"
    rateUnit := "per_day"
    rateText
    effectiveFrom := ⟨2026, 6, 1, by decide⟩
    effectiveTo := none
    clauseText := rateText
    sourceLocator := "p1"
    confidence := one }

/-- Whether the extraction is eligible against its own text. -/
def eligible (extraction : TariffExtraction) : Bool :=
  match verifyTariffExtraction (encode extraction.rateText) extraction with
  | .ok verification => verification.eligible
  | .error _ => false

theorem verified_of_eligible (extraction : TariffExtraction) (h : eligible extraction = true) :
    ∃ verification, verifyTariffExtraction (encode extraction.rateText) extraction =
      .ok verification ∧ verification.eligible = true := by
  unfold eligible at h
  split at h
  · rename_i verification hverified
    exact ⟨verification, hverified, h⟩
  · exact absurd h (by simp)

theorem denotes_iff_cents :
    Denotes (extractionOf "$1,095.50 per day" 109550 (-2)).rateText
      (extractionOf "$1,095.50 per day" 109550 (-2)).rateAmount ↔
    Plain (extractionOf "$1,095.50 per day" 109550 (-2)).rateText := by
  obtain ⟨verification, hverified, heligible⟩ :=
    verified_of_eligible (extractionOf "$1,095.50 per day" 109550 (-2)) (by decide +kernel)
  exact denotes_iff hverified heligible

/-- Of $95.125 per day the rate 95 is eligible. -/
theorem third_decimal_dropped : ∃ verification,
    verifyTariffExtraction (encode "$95.125 per day") (extractionOf "$95.125 per day" 95 0) =
      .ok verification ∧ verification.eligible = true ∧
      ¬Denotes "$95.125 per day" (.finite false 95 0) := by
  obtain ⟨verification, hverified, heligible⟩ :=
    verified_of_eligible (extractionOf "$95.125 per day" 95 0) (by decide +kernel)
  refine ⟨verification, hverified, heligible, ?_⟩
  rintro ⟨whole, fraction, hnumeral, hvalue⟩
  have hread : IntakeClaims.parseDecimal (kept (completeNumeral
      (asciiText "$95.125 per day".toList))) =
        some (false, number (whole ++ fraction), fraction.length) :=
    parseDecimal_eq_some.mpr ⟨_, rfl, kept_numeral hnumeral⟩
  have hexact : IntakeClaims.parseDecimal (kept (completeNumeral
      (asciiText "$95.125 per day".toList))) = some (false, 95125, 3) := by
    decide +kernel
  rw [hexact] at hread
  simp only [Option.some.injEq, Prod.mk.injEq, true_and] at hread
  rw [rational_finite, Option.some.injEq] at hvalue
  unfold valueOf numeralValue at hvalue
  rw [← hread.1, ← hread.2] at hvalue
  norm_num at hvalue

end Case

end Tally.Analysis.RateNumerals
