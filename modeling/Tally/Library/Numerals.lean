import Mathlib.Data.List.TakeWhile
import Mathlib.Tactic.Ring
import Tally.Library.Calendar

/-!
# Numerals

Texts of digits and the numbers they denote, whole numbers written plainly or with a separator
between their groups of three digits, and decimals with a point. The digits of a grouped number
are what is left of it without its separators.
-/

set_option autoImplicit false

namespace Library.Numerals
open Library.Calendar (isDigit)

/-! ## Digits -/

/-- All characters of the text are digits. -/
def IsDigits (text : List Char) : Prop := ∀ c ∈ text, isDigit c = true

/-- The number that digits denote. -/
def number (digits : List Char) : Nat :=
  digits.foldl (fun value c => value * 10 + (c.toNat - 48)) 0

theorem isDigits_nil : IsDigits [] := fun _ h => absurd h List.not_mem_nil

theorem isDigits_append {a b : List Char} : IsDigits (a ++ b) ↔ IsDigits a ∧ IsDigits b := by
  unfold IsDigits
  simp only [List.mem_append]
  exact ⟨fun h => ⟨fun c hc => h c (Or.inl hc), fun c hc => h c (Or.inr hc)⟩,
    fun h c hc => hc.elim (h.1 c) (h.2 c)⟩

theorem foldl_number (digits : List Char) (value : Nat) :
    digits.foldl (fun value c => value * 10 + (c.toNat - 48)) value =
      value * 10 ^ digits.length + number digits := by
  unfold number
  induction digits generalizing value with
  | nil => simp
  | cons c digits ih =>
      rw [List.foldl_cons, List.foldl_cons, ih, ih (0 * 10 + (c.toNat - 48)), List.length_cons]
      ring

/-- Digits followed by digits are read at their places. -/
theorem number_append (a b : List Char) : number (a ++ b) = number a * 10 ^ b.length + number b := by
  rw [number, List.foldl_append, foldl_number]
  rfl

/-- A character that is no digit ends a run of digits. -/
theorem takeWhile_digits {digits rest : List Char} (hdigits : IsDigits digits)
    (hrest : ∀ c ∈ rest.head?, isDigit c = false) :
    (digits ++ rest).takeWhile isDigit = digits := by
  rw [List.takeWhile_append_of_pos hdigits]
  cases rest with
  | nil => simp
  | cons c rest => simp [hrest c (by simp)]

theorem isDigits_takeWhile (text : List Char) : IsDigits (text.takeWhile isDigit) :=
  fun _ hc => List.mem_takeWhile_imp hc

/-- Digits are those of a filter that keeps them. -/
theorem filter_digits {digits : List Char} {keep : Char → Bool} (hdigits : IsDigits digits)
    (hkeep : ∀ c, isDigit c = true → keep c = true) : digits.filter keep = digits :=
  List.filter_eq_self.mpr fun c hc => hkeep c (hdigits c hc)

/-! ## Groups of three -/

/-- Digits that stand plainly, or in groups of three behind a first of one to three. -/
structure Grouped (separator : Char) (text digits : List Char) : Prop where
  isDigits : IsDigits digits
  groups : ∃ (first : List Char) (rest : List (List Char)),
    text = first ++ rest.flatMap (separator :: ·) ∧ digits = first ++ rest.flatten ∧
      (∀ group ∈ rest, group.length = 3) ∧
      (rest ≠ [] → 1 ≤ first.length ∧ first.length ≤ 3)

/-- The characters of a grouped number are digits and separators. -/
theorem Grouped.mem {separator : Char} {text digits : List Char} (h : Grouped separator text digits)
    {c : Char} (hc : c ∈ text) : c = separator ∨ isDigit c = true := by
  obtain ⟨first, rest, rfl, rfl, _, _⟩ := h.groups
  obtain ⟨hfirst, hrest⟩ := isDigits_append.mp h.isDigits
  rcases List.mem_append.mp hc with hc | hc
  · exact Or.inr (hfirst c hc)
  · obtain ⟨group, hgroup, hmem⟩ := List.mem_flatMap.mp hc
    rcases List.mem_cons.mp hmem with heq | hdigit
    · exact Or.inl heq
    · exact Or.inr (hrest c (List.mem_flatten.mpr ⟨group, hgroup, hdigit⟩))

/-- Without the separators the digits are left. -/
theorem Grouped.filter {separator : Char} {text digits : List Char} {keep : Char → Bool}
    (h : Grouped separator text digits) (hkeep : ∀ c, isDigit c = true → keep c = true)
    (hseparator : keep separator = false) : text.filter keep = digits := by
  obtain ⟨first, rest, rfl, rfl, hlength, hbounds⟩ := h.groups
  obtain ⟨hfirst, hrest⟩ := isDigits_append.mp h.isDigits
  rw [List.filter_append, filter_digits hfirst hkeep]
  congr 1
  clear h hlength hbounds
  induction rest with
  | nil => rfl
  | cons group rest ih =>
      rw [List.flatten_cons] at hrest
      obtain ⟨hgroup, hlater⟩ := isDigits_append.mp hrest
      rw [List.flatMap_cons, List.filter_append, ih hlater, List.flatten_cons,
        List.filter_cons_of_neg (by simp [hseparator]), filter_digits hgroup hkeep]

/-! ## Decimals -/

/-- A whole number with an optional point and digits after it. -/
structure Numeral (separator : Char) (text whole fraction : List Char) : Prop where
  isDigits : IsDigits fraction
  nonempty : whole ≠ [] ∨ fraction ≠ []
  parts : ∃ wholeText point, text = wholeText ++ point ++ fraction ∧
    Grouped separator wholeText whole ∧ (point = ['.'] ∨ point = [] ∧ fraction = [])

end Library.Numerals
