import Mathlib.Data.List.Basic
import Mathlib.Tactic.Common

/-!
# Quotes in a JSON text

Outside its strings a JSON text holds punctuation, numbers and a few names only. A part of it that
begins within a string sees strings and the text between them the other way round, so what it
takes for strings is punctuation, numbers and names.
-/

set_option autoImplicit false

namespace Library.Quoting

/-- Where a reader of a JSON text stands. -/
inductive Mode where
  | outside | inside | escaped
deriving DecidableEq

/-- The place behind one more character. -/
def step : Mode → Char → Mode
  | .outside, c => if c = '"' then .inside else .outside
  | .inside, c => if c = '"' then .outside else if c = '\\' then .escaped else .inside
  | .escaped, _ => .inside

def modeAfter (mode : Mode) (text : List Char) : Mode := text.foldl step mode

/-- The characters outside strings: white space, punctuation, the quote that opens a string, and
those of numbers and of `true`, `false`, `null`, `NaN` and `Infinity`. -/
def structural (c : Char) : Bool :=
  c ∈ " \t\n\r\"{}[]:,0123456789+-.eEtrufalsnNIiy".toList

/-- The strings are closed, and nothing else stands between them. -/
def wellQuoted : Mode → List Char → Bool
  | mode, [] => mode = .outside
  | .outside, c :: text => structural c && wellQuoted (step .outside c) text
  | mode, c :: text => wellQuoted (step mode c) text

/-- The characters of the strings, with the quotes that close them. -/
def quotedChars : Mode → List Char → List Char
  | _, [] => []
  | .outside, c :: text => quotedChars (step .outside c) text
  | mode, c :: text => c :: quotedChars (step mode c) text

theorem modeAfter_append (mode : Mode) (front back : List Char) :
    modeAfter mode (front ++ back) = modeAfter (modeAfter mode front) back :=
  List.foldl_append

theorem wellQuoted_outside {c : Char} {text : List Char}
    (h : wellQuoted .outside (c :: text) = true) :
    structural c = true ∧ wellQuoted (step .outside c) text = true := by
  rwa [wellQuoted, Bool.and_eq_true] at h

theorem wellQuoted_cons {mode : Mode} {c : Char} {text : List Char}
    (h : wellQuoted mode (c :: text) = true) : wellQuoted (step mode c) text = true := by
  cases mode with
  | outside => exact (wellQuoted_outside h).2
  | inside => exact h
  | escaped => exact h

/-- What is left of a well quoted text is well quoted from the place it begins at. -/
theorem wellQuoted_append {mode : Mode} {front back : List Char}
    (h : wellQuoted mode (front ++ back) = true) :
    wellQuoted (modeAfter mode front) back = true := by
  induction front generalizing mode with
  | nil => exact h
  | cons c front ih => exact ih (wellQuoted_cons h)

/-- A well quoted text ends outside its strings. -/
theorem modeAfter_of_wellQuoted {mode : Mode} {text : List Char}
    (h : wellQuoted mode text = true) : modeAfter mode text = .outside := by
  have hend : wellQuoted (modeAfter mode text) [] = true :=
    wellQuoted_append (by rwa [List.append_nil])
  exact of_decide_eq_true hend

/-- Another character than those stands within a string. -/
theorem inside_of_not_structural {front back : List Char} {c : Char}
    (h : wellQuoted .outside (front ++ c :: back) = true) (hc : structural c = false) :
    modeAfter .outside front ≠ .outside := by
  intro houtside
  have hrest := wellQuoted_append h
  rw [houtside] at hrest
  have hstructural := (wellQuoted_outside hrest).1
  rw [hc] at hstructural
  exact Bool.false_ne_true hstructural

/-- And what follows it, unless it is a quote or an escape, begins within the string. -/
theorem step_plain {mode : Mode} {c : Char} (hmode : mode ≠ .outside) (hquote : c ≠ '"')
    (hescape : c ≠ '\\') : step mode c = .inside := by
  cases mode with
  | outside => exact absurd rfl hmode
  | inside => rw [step, if_neg hquote, if_neg hescape]
  | escaped => rfl

theorem step_outside_quote : step .outside '"' = .inside := rfl

theorem step_inside_quote : step .inside '"' = .outside := rfl

theorem step_outside_plain {c : Char} (hquote : c ≠ '"') : step .outside c = .outside := by
  rw [step, if_neg hquote]

theorem quotedChars_outside (c : Char) (text : List Char) :
    quotedChars .outside (c :: text) = quotedChars (step .outside c) text := rfl

theorem quotedChars_inside (c : Char) (text : List Char) :
    quotedChars .inside (c :: text) = c :: quotedChars (step .inside c) text := rfl

theorem not_structural_escape : structural '\\' = false := by decide

/-- A text that is well quoted by itself and begins within a string of another has punctuation,
numbers and names in its strings. -/
theorem structural_of_shifted {text back : List Char} :
    (wellQuoted .outside text = true → wellQuoted .inside (text ++ back) = true →
      ∀ c ∈ quotedChars .outside text, structural c = true) ∧
    (wellQuoted .inside text = true → wellQuoted .outside (text ++ back) = true →
      ∀ c ∈ quotedChars .inside text, structural c = true) := by
  induction text with
  | nil => exact ⟨fun _ _ _ h => absurd h List.not_mem_nil, fun _ _ _ h => absurd h List.not_mem_nil⟩
  | cons c text ih =>
      have hplain (hc : structural c = true) : c ≠ '\\' := by
        rintro rfl
        rw [not_structural_escape] at hc
        exact Bool.false_ne_true hc
      constructor
      · intro hown hother d hd
        obtain ⟨hc, hown⟩ := wellQuoted_outside hown
        have hother := wellQuoted_cons hother
        rw [quotedChars_outside] at hd
        by_cases hquote : c = '"'
        · subst hquote
          rw [step_outside_quote] at hown hd
          rw [step_inside_quote] at hother
          exact ih.2 hown hother d hd
        · rw [step_outside_plain hquote] at hown hd
          rw [step_plain (by simp) hquote (hplain hc)] at hother
          exact ih.1 hown hother d hd
      · intro hown hother d hd
        obtain ⟨hc, hother⟩ := wellQuoted_outside hother
        have hown := wellQuoted_cons hown
        rw [quotedChars_inside] at hd
        rcases List.mem_cons.mp hd with rfl | hd
        · exact hc
        by_cases hquote : c = '"'
        · subst hquote
          rw [step_inside_quote] at hown hd
          rw [step_outside_quote] at hother
          exact ih.1 hown hother d hd
        · rw [step_outside_plain hquote] at hother
          rw [step_plain (by simp) hquote (hplain hc)] at hown hd
          exact ih.2 hown hother d hd

end Library.Quoting
