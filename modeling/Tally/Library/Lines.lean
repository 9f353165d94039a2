import Mathlib.Data.List.Basic
import Mathlib.Tactic.Common

/-!
# Lines of a text

A text is cut into lines behind the characters that end one; a carriage return and the line feed
behind it are one end, and nothing follows the last end. Two notions of a line end differ by the
cuts the wider one makes within the lines of the narrower.
-/

set_option autoImplicit false

namespace Library.Lines

/-- The lines of a text. -/
def linesOf (ends : Char → Bool) : List Char → List (List Char)
  | [] => []
  | '\r' :: '\n' :: text => [] :: linesOf ends text
  | c :: text =>
    if ends c then [] :: linesOf ends text
    else
      match linesOf ends text with
      | [] => [[c]]
      | line :: lines => (c :: line) :: lines

/-- The texts that are not empty. -/
def filled (texts : List (List Char)) : List (List Char) := texts.filter fun text => !text.isEmpty

theorem filled_append (xs ys : List (List Char)) : filled (xs ++ ys) = filled xs ++ filled ys :=
  List.filter_append xs ys

theorem filled_nil_cons (xs : List (List Char)) : filled ([] :: xs) = filled xs := rfl

theorem mem_filled {texts : List (List Char)} {text : List Char} :
    text ∈ filled texts ↔ text ∈ texts ∧ text ≠ [] := by
  unfold filled
  rw [List.mem_filter]
  simp

theorem filled_flatMap {α : Type} (xs : List α) (f : α → List (List Char)) :
    filled (xs.flatMap f) = xs.flatMap fun x => filled (f x) := by
  unfold filled
  rw [List.filter_flatMap]

/-- Empty texts are cut into nothing that is filled. -/
theorem flatMap_filled (texts : List (List Char)) (f : List Char → List (List Char))
    (hf : f [] = []) : (filled texts).flatMap f = texts.flatMap f := by
  induction texts with
  | nil => rfl
  | cons text texts ih =>
      cases text with
      | nil => rw [filled_nil_cons, ih, List.flatMap_cons, hf, List.nil_append]
      | cons c text =>
          have hfilled : filled ((c :: text) :: texts) = (c :: text) :: filled texts := rfl
          rw [hfilled, List.flatMap_cons, List.flatMap_cons, ih]

variable {ends : Char → Bool}

/-- The first line is the first piece between ends, and the others are filled as the pieces. -/
theorem linesOf_pieces (hreturn : ends '\r' = true) (hfeed : ends '\n' = true) (text : List Char) :
    text = [] ∨ ∃ line lines pieces, linesOf ends text = line :: lines ∧
      text.splitOnP ends = line :: pieces ∧ filled lines = filled pieces := by
  have hrest {text : List Char} (h : text = [] ∨ ∃ line lines pieces,
      linesOf ends text = line :: lines ∧ text.splitOnP ends = line :: pieces ∧
        filled lines = filled pieces) :
      filled (linesOf ends text) = filled (text.splitOnP ends) := by
    rcases h with rfl | ⟨line, lines, pieces, hlines, hpieces, heq⟩
    · rfl
    · rw [hlines, hpieces]
      cases line with
      | nil => exact heq
      | cons c line => exact congrArg ((c :: line) :: ·) heq
  fun_induction linesOf ends text with
  | case1 => exact Or.inl rfl
  | case2 text ih =>
      right
      refine ⟨[], _, [] :: text.splitOnP ends, rfl, ?_, hrest ih⟩
      rw [List.splitOnP_cons_eq_if_modifyHead, if_pos hreturn,
        List.splitOnP_cons_eq_if_modifyHead, if_pos hfeed]
  | case3 c text _ hc ih =>
      right
      refine ⟨[], _, text.splitOnP ends, rfl, ?_, hrest ih⟩
      rw [List.splitOnP_cons_eq_if_modifyHead, if_pos hc]
  | case4 c text _ hc hnone ih =>
      right
      rcases ih with rfl | ⟨line, lines, _, hlines, _, _⟩
      · refine ⟨[c], [], [], rfl, ?_, rfl⟩
        rw [List.splitOnP_cons_eq_if_modifyHead, if_neg hc]
        rfl
      · rw [hnone] at hlines
        exact absurd hlines (by simp)
  | case5 c text _ hc line lines hlines ih =>
      right
      rcases ih with rfl | ⟨line', lines', pieces, hlines', hpieces, heq⟩
      · exact absurd hlines (by simp [linesOf])
      · rw [hlines] at hlines'
        obtain ⟨rfl, rfl⟩ := List.cons.inj hlines'
        refine ⟨c :: line, lines, pieces, rfl, ?_, heq⟩
        rw [List.splitOnP_cons_eq_if_modifyHead, if_neg hc, hpieces]
        rfl

/-- The filled lines are the filled pieces between ends. -/
theorem filled_linesOf (hreturn : ends '\r' = true) (hfeed : ends '\n' = true) (text : List Char) :
    filled (linesOf ends text) = filled (text.splitOnP ends) := by
  rcases linesOf_pieces hreturn hfeed text with rfl | ⟨line, lines, pieces, hlines, hpieces, heq⟩
  · rfl
  · rw [hlines, hpieces]
    cases line with
    | nil => exact heq
    | cons c line => exact congrArg ((c :: line) :: ·) heq

/-- Pieces between more separators are the pieces of the pieces between fewer. -/
theorem splitOnP_flatMap {narrow wide : Char → Bool} (h : ∀ c, narrow c = true → wide c = true)
    (text : List Char) :
    text.splitOnP wide = (text.splitOnP narrow).flatMap (List.splitOnP wide) := by
  induction text with
  | nil => rfl
  | cons c text ih =>
      obtain ⟨first, others, hcut⟩ := List.exists_cons_of_ne_nil (List.splitOnP_ne_nil narrow text)
      rw [hcut, List.flatMap_cons] at ih
      rw [List.splitOnP_cons_eq_if_modifyHead, List.splitOnP_cons_eq_if_modifyHead]
      by_cases hnarrow : narrow c = true
      · rw [if_pos hnarrow, if_pos (h c hnarrow), hcut, List.flatMap_cons, List.flatMap_cons, ← ih]
        rfl
      · rw [if_neg hnarrow, hcut, List.modifyHead_cons, List.flatMap_cons,
          List.splitOnP_cons_eq_if_modifyHead]
        by_cases hwide : wide c = true
        · rw [if_pos hwide, if_pos hwide, ih]
          rfl
        · obtain ⟨piece, pieces, hpieces⟩ := List.exists_cons_of_ne_nil
            (List.splitOnP_ne_nil wide first)
          rw [if_neg hwide, if_neg hwide, ih, hpieces]
          rfl

/-- The filled lines of a wider notion are those of the lines of a narrower one. -/
theorem filled_linesOf_flatMap {narrow wide : Char → Bool}
    (h : ∀ c, narrow c = true → wide c = true) (hreturn : narrow '\r' = true)
    (hfeed : narrow '\n' = true) (text : List Char) :
    filled (linesOf wide text) =
      (linesOf narrow text).flatMap fun line => filled (linesOf wide line) := by
  have hline (line : List Char) : filled (linesOf wide line) = filled (line.splitOnP wide) :=
    filled_linesOf (h _ hreturn) (h _ hfeed) line
  have hnil : filled (List.splitOnP wide []) = [] := rfl
  simp only [hline]
  rw [splitOnP_flatMap h, filled_flatMap, ← flatMap_filled _ _ hnil,
    ← filled_linesOf hreturn hfeed, flatMap_filled _ _ hnil]

/-- A piece has no separator. -/
theorem clean_of_mem_splitOnP {α : Type} {separates : α → Bool} {text piece : List α}
    (h : piece ∈ text.splitOnP separates) : ∀ c ∈ piece, separates c = false := by
  induction text generalizing piece with
  | nil =>
      obtain rfl := List.mem_singleton.mp h
      exact fun _ hc => absurd hc List.not_mem_nil
  | cons c text ih =>
      obtain ⟨first, others, hcut⟩ := List.exists_cons_of_ne_nil
        (List.splitOnP_ne_nil separates text)
      rw [List.splitOnP_cons_eq_if_modifyHead] at h
      rw [hcut] at ih h
      split at h
      · rcases List.mem_cons.mp h with rfl | hpiece
        · exact fun _ hd => absurd hd List.not_mem_nil
        · exact ih hpiece
      · rename_i hc
        rcases List.mem_cons.mp h with rfl | hother
        · intro d hd
          rcases List.mem_cons.mp hd with rfl | hd
          · exact Bool.not_eq_true _ ▸ hc
          · exact ih List.mem_cons_self d hd
        · exact ih (List.mem_cons_of_mem _ hother)

/-- The text ends here, or a separator follows. -/
def Stops (ends : Char → Bool) (back : List Char) : Prop :=
  back = [] ∨ ∃ c rest, back = c :: rest ∧ ends c = true

/-- The first piece begins the text, and every other one stands behind a separator. -/
theorem splitOnP_pieces {text first : List Char} {others : List (List Char)}
    (h : text.splitOnP ends = first :: others) :
    (∃ back, text = first ++ back ∧ Stops ends back) ∧
      ∀ piece ∈ others, ∃ front c back, text = front ++ c :: (piece ++ back) ∧ ends c = true := by
  induction text generalizing first others with
  | nil =>
      obtain ⟨rfl, rfl⟩ := List.cons.inj h
      exact ⟨⟨[], rfl, Or.inl rfl⟩, fun _ hpiece => absurd hpiece List.not_mem_nil⟩
  | cons c text ih =>
      obtain ⟨next, rest, hcut⟩ := List.exists_cons_of_ne_nil (List.splitOnP_ne_nil ends text)
      obtain ⟨⟨back, htext, hback⟩, hrest⟩ := ih hcut
      have hlater (piece : List Char) (hpiece : piece ∈ rest) : ∃ front d back,
          c :: text = front ++ d :: (piece ++ back) ∧ ends d = true := by
        obtain ⟨front, d, back, htext, hd⟩ := hrest piece hpiece
        exact ⟨c :: front, d, back, by rw [htext]; rfl, hd⟩
      rw [List.splitOnP_cons_eq_if_modifyHead] at h
      split at h
      · rename_i hc
        obtain ⟨rfl, rfl⟩ := List.cons.inj h
        refine ⟨⟨c :: text, rfl, Or.inr ⟨c, text, rfl, hc⟩⟩, fun piece hpiece => ?_⟩
        rw [hcut] at hpiece
        rcases List.mem_cons.mp hpiece with rfl | hpiece
        · exact ⟨[], c, back, by rw [htext]; rfl, hc⟩
        · exact hlater piece hpiece
      · rw [hcut] at h
        obtain ⟨rfl, rfl⟩ := List.cons.inj h
        exact ⟨⟨back, by rw [htext]; rfl, hback⟩, hlater⟩

end Library.Lines
