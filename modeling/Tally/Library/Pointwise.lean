import Mathlib.Data.List.Forall2
import Mathlib.Data.List.Sort

/-!
# Pointwise related lists

Two lists whose items are related one by one stay so when they are filtered, searched or sorted
by tests that the related items answer alike.
-/

set_option autoImplicit false

namespace Library.Pointwise
open List (Forall₂)

variable {α β : Type} {R : α → β → Prop}

/-- Related item by item, by position. -/
theorem forall₂_iff_getElem? {as : List α} {bs : List β} :
    Forall₂ R as bs ↔ as.length = bs.length ∧
      ∀ (i : Nat) a b, as[i]? = some a → bs[i]? = some b → R a b := by
  constructor
  · intro h
    refine ⟨h.length_eq, ?_⟩
    induction h with
    | nil =>
        intro i a b ha
        exact absurd ha (by simp)
    | cons hab _ ih =>
        intro i a b ha hb
        cases i with
        | zero =>
            obtain rfl := Option.some.inj ha
            obtain rfl := Option.some.inj hb
            exact hab
        | succ i => exact ih i a b ha hb
  · rintro ⟨hlength, h⟩
    induction as generalizing bs with
    | nil =>
        cases bs with
        | nil => exact .nil
        | cons b bs => exact absurd hlength (by simp)
    | cons a as ih =>
        cases bs with
        | nil => exact absurd hlength (by simp)
        | cons b bs =>
            refine .cons (h 0 a b rfl rfl) (ih (by simpa using hlength) fun i x y hx hy => ?_)
            exact h (i + 1) x y hx hy

/-- Every item of the first list is related to one of the second. -/
theorem exists_of_mem {as : List α} {bs : List β} (h : Forall₂ R as bs) {a : α} (ha : a ∈ as) :
    ∃ b ∈ bs, R a b := by
  induction h with
  | nil => exact absurd ha List.not_mem_nil
  | @cons a₀ b₀ as bs hab _ ih =>
      rcases List.mem_cons.mp ha with rfl | hlater
      · exact ⟨b₀, List.mem_cons_self, hab⟩
      · obtain ⟨b, hb, hrel⟩ := ih hlater
        exact ⟨b, List.mem_cons_of_mem _ hb, hrel⟩

/-- Every item of the second list is related to one of the first. -/
theorem exists_of_mem_right {as : List α} {bs : List β} (h : Forall₂ R as bs) {b : β}
    (hb : b ∈ bs) : ∃ a ∈ as, R a b :=
  exists_of_mem (R := fun b a => R a b) h.flip hb

/-- Items and the rows made of them are related where every item is to its row, at whatever
index. -/
theorem forall₂_zipIdx {γ : Type} {S : α → γ → Prop} {Q : α → Prop} (f : α → β)
    (row : Nat → β → γ) (hrow : ∀ a i, S a (row i (f a)) ↔ Q a) (as : List α) (k : Nat) :
    Forall₂ S as (((as.map f).zipIdx k).map fun p => row p.2 p.1) ↔ ∀ a ∈ as, Q a := by
  induction as generalizing k with
  | nil => simp
  | cons a as ih =>
      rw [List.map_cons, List.zipIdx_cons, List.map_cons, List.forall₂_cons, hrow, ih]
      simp

theorem forall₂_filter {p : α → Bool} {q : β → Bool} (hpq : ∀ a b, R a b → p a = q b)
    {as : List α} {bs : List β} (h : Forall₂ R as bs) : Forall₂ R (as.filter p) (bs.filter q) := by
  induction h with
  | nil => exact .nil
  | @cons a b as bs hab _ ih =>
      by_cases hp : p a = true
      · rw [List.filter_cons_of_pos hp, List.filter_cons_of_pos (hpq a b hab ▸ hp)]
        exact .cons hab ih
      · rw [List.filter_cons_of_neg hp, List.filter_cons_of_neg (hpq a b hab ▸ hp)]
        exact ih

theorem rel_find? {p : α → Bool} {q : β → Bool} (hpq : ∀ a b, R a b → p a = q b) {as : List α}
    {bs : List β} (h : Forall₂ R as bs) : Option.Rel R (as.find? p) (bs.find? q) := by
  induction h with
  | nil => exact .none
  | @cons a b as bs hab _ ih =>
      by_cases hp : p a = true
      · rw [List.find?_cons_of_pos hp, List.find?_cons_of_pos (hpq a b hab ▸ hp)]
        exact .some hab
      · rw [List.find?_cons_of_neg hp, List.find?_cons_of_neg (hpq a b hab ▸ hp)]
        exact ih

theorem map_eq_of_forall₂ {γ : Type} {f : α → γ} {g : β → γ} (hfg : ∀ a b, R a b → f a = g b)
    {as : List α} {bs : List β} (h : Forall₂ R as bs) : as.map f = bs.map g := by
  induction h with
  | nil => rfl
  | cons hab _ ih => rw [List.map_cons, List.map_cons, ih, hfg _ _ hab]

section Sorting

variable {r : α → α → Prop} {s : β → β → Prop} [DecidableRel r] [DecidableRel s]

theorem forall₂_orderedInsert (hrs : ∀ a a' b b', R a b → R a' b' → (r a a' ↔ s b b')) {a : α}
    {b : β} (hab : R a b) {as : List α} {bs : List β} (h : Forall₂ R as bs) :
    Forall₂ R (as.orderedInsert r a) (bs.orderedInsert s b) := by
  induction h with
  | nil => exact .cons hab .nil
  | @cons a' b' as bs hab' htail ih =>
      by_cases hr : r a a'
      · rw [List.orderedInsert_cons_of_le r as hr,
          List.orderedInsert_cons_of_le s bs ((hrs a a' b b' hab hab').mp hr)]
        exact .cons hab (.cons hab' htail)
      · have hs : ¬s b b' := mt (hrs a a' b b' hab hab').mpr hr
        rw [List.orderedInsert, List.orderedInsert, if_neg hr, if_neg hs]
        exact .cons hab' ih

/-- Sorting takes related lists to related lists. -/
theorem forall₂_insertionSort (hrs : ∀ a a' b b', R a b → R a' b' → (r a a' ↔ s b b'))
    {as : List α} {bs : List β} (h : Forall₂ R as bs) :
    Forall₂ R (as.insertionSort r) (bs.insertionSort s) := by
  induction h with
  | nil => exact .nil
  | cons hab _ ih =>
      rw [List.insertionSort_cons, List.insertionSort_cons]
      exact forall₂_orderedInsert hrs hab ih

end Sorting

/-- The first item of a sorted list with a property comes before every other one with it. -/
theorem find?_sorted {r : α → α → Prop} (hrefl : ∀ a, r a a) {p : α → Bool} {as : List α}
    (hsorted : as.Pairwise r) {a : α} (h : as.find? p = some a) : ∀ b ∈ as, p b = true → r a b := by
  induction as with
  | nil => exact absurd h (by simp)
  | cons x xs ih =>
      obtain ⟨hhead, htail⟩ := List.pairwise_cons.mp hsorted
      intro b hb hp
      by_cases hx : p x = true
      · rw [List.find?_cons_of_pos hx] at h
        obtain rfl := Option.some.inj h
        rcases List.mem_cons.mp hb with rfl | hb
        · exact hrefl b
        · exact hhead b hb
      · rw [List.find?_cons_of_neg hx] at h
        rcases List.mem_cons.mp hb with rfl | hb
        · exact absurd hp hx
        · exact ih htail h b hb hp

end Library.Pointwise
