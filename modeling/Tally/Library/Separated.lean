import Mathlib.Data.List.Basic

/-!
# Separated fields

Fields joined by separators of their own, without escapes. Every separator begins with a mark that
does not come back in it, so two separators cannot overlap, and two lists of fields make one text
only if they are the same or if a field of one goes on, behind the whole field of the other, with
the separator of the next.
-/

set_option autoImplicit false

namespace Library.Separated

variable {α : Type}

/-- The first item of the separator occurs in it only once. -/
structure Marked (separator : List α) : Prop where
  marked : ∃ mark rest, separator = mark :: rest ∧ mark ∉ rest

/-- A first field, and behind each separator the next one. -/
def joined : List α → List (List α) → List (List α) → List α
  | field, separator :: separators, next :: fields =>
    field ++ (separator ++ joined next separators fields)
  | field, _, _ => field

/-- From some field on, the fields of the second list go on behind those of the first: its field
contains the separator too, and the rest of both makes one text. -/
inductive Shift : List α → List (List α) → List (List α) → List α → List (List α) → Prop
  | here {field rest next next' separator : List α} {separators fields fields' : List (List α)}
      (h : joined next separators fields = rest ++ (separator ++ joined next' separators fields')) :
      Shift field (separator :: separators) (next :: fields) (field ++ (separator ++ rest))
        (next' :: fields')
  | later {field next next' separator : List α} {separators fields fields' : List (List α)}
      (h : Shift next separators fields next' fields') :
      Shift field (separator :: separators) (next :: fields) field (next' :: fields')

/-- A shift does not show in the text. -/
theorem Shift.joined_eq {field field' : List α} {separators fields fields' : List (List α)}
    (h : Shift field separators fields field' fields') :
    joined field separators fields = joined field' separators fields' := by
  induction h with
  | here h =>
      rw [joined, joined, h]
      simp only [List.append_assoc]
  | later _ ih => rw [joined, joined, ih]

/-- Behind a separator another one begins only where the first has ended. -/
theorem Marked.prefix_of_overlap {separator front left right : List α} (h : Marked separator)
    (hne : front ≠ []) (heq : separator ++ left = front ++ (separator ++ right)) :
    ∃ rest, front = separator ++ rest ∧ left = rest ++ (separator ++ right) := by
  obtain ⟨mark, tail, rfl, hmark⟩ := h.marked
  rcases List.append_eq_append_iff.mp heq with ⟨rest, hover, hleft⟩ | ⟨rest, hseparator, hright⟩
  · exact ⟨rest, hover, hleft⟩
  · cases front with
    | nil => exact absurd rfl hne
    | cons c front =>
        cases rest with
        | nil =>
            rw [List.append_nil] at hseparator
            exact ⟨[], by rw [List.append_nil, hseparator], by simpa using hright.symm⟩
        | cons d rest =>
            -- The second separator would begin within the first.
            obtain rfl : mark = d := (List.cons.inj hright).1
            have hwithin : tail = front ++ mark :: rest := (List.cons.inj hseparator).2
            exact absurd (by rw [hwithin]; simp) hmark

/-- Two lists of fields make one text exactly if they are the same or shifted. -/
theorem joined_eq_iff {separators : List (List α)} (hmarked : ∀ s ∈ separators, Marked s)
    {field field' : List α} {fields fields' : List (List α)}
    (hlength : fields.length = separators.length) (hlength' : fields'.length = separators.length) :
    joined field separators fields = joined field' separators fields' ↔
      (field = field' ∧ fields = fields') ∨ Shift field separators fields field' fields' ∨
        Shift field' separators fields' field fields := by
  constructor
  · intro h
    induction separators generalizing field field' fields fields' with
    | nil =>
        obtain rfl := List.length_eq_zero_iff.mp hlength
        obtain rfl := List.length_eq_zero_iff.mp hlength'
        exact Or.inl ⟨h, rfl⟩
    | cons separator separators ih =>
        obtain ⟨next, fields, rfl⟩ := List.exists_cons_of_length_eq_add_one hlength
        obtain ⟨next', fields', rfl⟩ := List.exists_cons_of_length_eq_add_one hlength'
        have hseparator := hmarked separator List.mem_cons_self
        rw [joined, joined] at h
        rcases List.append_eq_append_iff.mp h with ⟨front, rfl, hrest⟩ | ⟨front, rfl, hrest⟩
        · by_cases hnil : front = []
          · subst hnil
            rw [List.nil_append] at hrest
            rw [List.append_nil]
            rcases ih (fun s hs => hmarked s (List.mem_cons_of_mem _ hs)) (by simpa using hlength)
              (by simpa using hlength') (List.append_cancel_left hrest) with ⟨rfl, rfl⟩ | hs | hs
            · exact Or.inl ⟨rfl, rfl⟩
            · exact Or.inr (Or.inl (.later hs))
            · exact Or.inr (Or.inr (.later hs))
          · obtain ⟨rest, rfl, hjoined⟩ := hseparator.prefix_of_overlap hnil hrest
            exact Or.inr (Or.inl (.here hjoined))
        · by_cases hnil : front = []
          · subst hnil
            rw [List.nil_append] at hrest
            rw [List.append_nil]
            rcases ih (fun s hs => hmarked s (List.mem_cons_of_mem _ hs)) (by simpa using hlength)
              (by simpa using hlength') (List.append_cancel_left hrest).symm with
              ⟨rfl, rfl⟩ | hs | hs
            · exact Or.inl ⟨rfl, rfl⟩
            · exact Or.inr (Or.inl (.later hs))
            · exact Or.inr (Or.inr (.later hs))
          · obtain ⟨rest, rfl, hjoined⟩ := hseparator.prefix_of_overlap hnil hrest
            exact Or.inr (Or.inr (.here hjoined))
  · rintro (⟨rfl, rfl⟩ | h | h)
    · rfl
    · exact h.joined_eq
    · exact h.joined_eq.symm

/-- Some field of the second list is longer than that of the first, by a separator at least. -/
theorem Shift.longer {field field' : List α} {separators fields fields' : List (List α)}
    (h : Shift field separators fields field' fields') :
    ∃ (i : Nat) (z z' : List α), (field :: fields)[i]? = some z ∧
      (field' :: fields')[i]? = some z' ∧
      ∃ separator ∈ separators, z.length + separator.length ≤ z'.length := by
  induction h with
  | here h => exact ⟨0, _, _, rfl, rfl, _, List.mem_cons_self, by simp⟩
  | later _ ih =>
      obtain ⟨i, z, z', hz, hz', separator, hmem, hle⟩ := ih
      exact ⟨i + 1, z, z', hz, hz', separator, List.mem_cons_of_mem _ hmem, hle⟩

end Library.Separated
