import Mathlib.Algebra.Group.Nat.Defs
import Mathlib.Data.List.Infix

/-!
# Words in a separated text

A word occurs in a text when it is a contiguous part of it. A text that is
assembled from pieces with separators in between contains a word without
separator characters only inside one of the pieces.
-/

set_option autoImplicit false

namespace Library.Words

/-! ## Hexadecimal digits -/

def hexDigit (n : Nat) : Char := if n < 10 then Char.ofNat (48 + n) else Char.ofNat (87 + n)

theorem hexDigit_injective : ∀ m < 16, ∀ n < 16, hexDigit m = hexDigit n → m = n := by
  decide

/-- The last `width` hexadecimal digits of a number, zero padded. -/
def hexPad : Nat → Nat → List Char
  | 0, _ => []
  | width + 1, n => hexPad width (n / 16) ++ [hexDigit (n % 16)]

theorem mem_hexPad {width n : Nat} {c : Char} (hc : c ∈ hexPad width n) :
    ∃ d < 16, c = hexDigit d := by
  induction width generalizing n with
  | zero => simp [hexPad] at hc
  | succ width ih =>
      rw [hexPad, List.mem_append, List.mem_singleton] at hc
      rcases hc with hc | rfl
      · exact ih hc
      · exact ⟨n % 16, Nat.mod_lt _ (by decide), rfl⟩

theorem length_hexPad (width n : Nat) : (hexPad width n).length = width := by
  induction width generalizing n with
  | zero => rfl
  | succ width ih => rw [hexPad, List.length_append, ih, List.length_singleton]

/-- The padded digits are those of the number modulo their range. -/
theorem hexPad_inj {width m n : Nat} (h : hexPad width m = hexPad width n) :
    m % 16 ^ width = n % 16 ^ width := by
  induction width generalizing m n with
  | zero => rw [Nat.pow_zero, Nat.mod_one, Nat.mod_one]
  | succ width ih =>
      rw [hexPad, hexPad] at h
      obtain ⟨hhigh, hlow⟩ := List.append_inj h (by rw [length_hexPad, length_hexPad])
      have hdigit := hexDigit_injective _ (Nat.mod_lt m (by decide)) _ (Nat.mod_lt n (by decide))
        (List.singleton_inj.mp hlow)
      rw [Nat.pow_succ', Nat.mod_mul, Nat.mod_mul, hdigit, ih hhigh]

/-! ## Occurrences of a word -/

variable {α : Type}

/-- The word does not occur in the text. -/
def Avoids (word text : List α) : Prop := ¬ word <:+: text

instance [DecidableEq α] (word text : List α) : Decidable (Avoids word text) :=
  inferInstanceAs (Decidable (¬ word <:+: text))

/-- A word that does not use the separator occurs on one side of it. -/
theorem infix_append_separator {word left right : List α} {separator : α}
    (hsep : separator ∉ word) (h : word <:+: left ++ separator :: right) :
    word <:+: left ∨ word <:+: right := by
  induction left with
  | nil =>
      rcases List.infix_cons_iff.mp h with hprefix | hwithin
      · cases word with
        | nil => exact Or.inl (List.infix_refl _)
        | cons c word =>
            have hhead : c = separator := (List.cons_prefix_cons.mp hprefix).1
            exact absurd (by simp [hhead]) hsep
      · exact Or.inr hwithin
  | cons c left ih =>
      rcases List.infix_cons_iff.mp h with hprefix | hwithin
      · left
        rw [List.prefix_cons_iff] at hprefix
        rcases hprefix with rfl | ⟨rest, rfl, hrest⟩
        · exact List.nil_infix
        · have hmem : separator ∉ rest := fun hm => hsep (List.mem_cons_of_mem _ hm)
          have hle : rest <+: left := by
            obtain ⟨tail, htail⟩ := hrest
            rcases Nat.lt_or_ge left.length rest.length with hlt | hge
            · exfalso
              apply hmem
              have hget : (rest ++ tail)[left.length]? = some separator := by
                rw [htail]
                simp
              rw [List.getElem?_append_left hlt] at hget
              exact List.mem_of_getElem? hget
            · exact List.prefix_of_prefix_length_le ⟨tail, htail⟩ ⟨separator :: right, rfl⟩ hge
          exact (List.cons_prefix_cons.mpr ⟨rfl, hle⟩).isInfix
      · rcases ih hwithin with hl | hr
        · exact Or.inl (hl.trans (List.suffix_cons c left).isInfix)
        · exact Or.inr hr

/-- Texts joined by a separator avoid a word that both sides avoid. -/
theorem avoids_append_separator {word left right : List α} {separator : α}
    (hsep : separator ∉ word) (hleft : Avoids word left) (hright : Avoids word right) :
    Avoids word (left ++ separator :: right) := by
  intro h
  rcases infix_append_separator hsep h with hl | hr
  · exact hleft hl
  · exact hright hr

/-- A separator in front of a text adds no word. -/
theorem avoids_cons_separator {word text : List α} {separator : α}
    (hsep : separator ∉ word) (htext : Avoids word text) : Avoids word (separator :: text) := by
  have hne : Avoids word [] := by
    intro h
    rw [List.infix_nil] at h
    exact htext (by rw [h]; exact List.nil_infix)
  exact avoids_append_separator hsep hne htext

/-- A text without one of the letters of a word avoids the word. -/
theorem avoids_of_not_mem {word text : List α} {letter : α} (hword : letter ∈ word)
    (htext : letter ∉ text) : Avoids word text :=
  fun h => htext (h.subset hword)

end Library.Words
