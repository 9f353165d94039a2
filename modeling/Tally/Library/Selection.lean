import Mathlib.Data.List.Sort

/-!
# Selecting from sorted rows

`ORDER BY .. LIMIT 1` as the head of an insertion sort: the row is one of the
rows, and it comes before every other one. A maximal key that two rows share
selects nothing more than one of them; distinct keys tell the rows apart. A filter of the sorted
rows sorts the rows that it keeps.
-/

set_option autoImplicit false

namespace Library

variable {α : Type}

section Head

variable {r : α → α → Prop} [DecidableRel r]

theorem mem_of_head?_insertionSort {rows : List α} {a : α}
    (h : (rows.insertionSort r).head? = some a) : a ∈ rows :=
  (List.mem_insertionSort r).mp (List.mem_of_mem_head? (Option.mem_def.mpr h))

theorem head?_insertionSort_le [Std.Total r] [IsTrans α r] {rows : List α} {a : α}
    (h : (rows.insertionSort r).head? = some a) : ∀ b ∈ rows, b = a ∨ r a b := by
  intro b hb
  have hsorted := List.pairwise_insertionSort r rows
  have hmem : b ∈ rows.insertionSort r := (List.mem_insertionSort r).mpr hb
  cases hrows : rows.insertionSort r with
  | nil =>
      rw [hrows] at hmem
      exact absurd hmem List.not_mem_nil
  | cons x xs =>
      rw [hrows] at h hsorted hmem
      obtain rfl : x = a := Option.some.inj h
      rcases List.mem_cons.mp hmem with heq | hxs
      · exact Or.inl heq
      · exact Or.inr ((List.pairwise_cons.mp hsorted).1 b hxs)

theorem head?_insertionSort_isSome {rows : List α} (h : rows ≠ []) :
    ((rows.insertionSort r).head?).isSome = true := by
  cases hrows : rows.insertionSort r with
  | nil =>
      have hlength := List.length_insertionSort r rows
      rw [hrows] at hlength
      exact absurd (List.length_eq_zero_iff.mp hlength.symm) h
  | cons x xs => rfl

theorem filter_orderedInsert [Std.Total r] [IsTrans α r] {p : α → Bool} (a : α) {rows : List α}
    (hsorted : rows.Pairwise r) :
    (rows.orderedInsert r a).filter p =
      if p a then (rows.filter p).orderedInsert r a else rows.filter p := by
  induction rows with
  | nil => cases hp : p a <;> simp [hp]
  | cons b rows ih =>
      obtain ⟨hle, hrest⟩ := List.pairwise_cons.mp hsorted
      rw [List.orderedInsert_cons]
      by_cases hab : r a b
      · rw [if_pos hab, List.filter_cons]
        split
        · have hfirst : ∀ c ∈ (b :: rows).filter p, r a c := by
            intro c hc
            rcases List.mem_cons.mp (List.mem_of_mem_filter hc) with rfl | hmem
            · exact hab
            · exact IsTrans.trans a b c hab (hle c hmem)
          cases hkept : (b :: rows).filter p with
          | nil => rfl
          | cons c kept =>
              rw [hkept] at hfirst
              rw [List.orderedInsert_cons, if_pos (hfirst c List.mem_cons_self)]
        · rfl
      · rw [if_neg hab, List.filter_cons, ih hrest, List.filter_cons]
        cases hpa : p a <;> cases hpb : p b <;> simp [hab]

/-- Sorting and filtering commute. -/
theorem filter_insertionSort [Std.Total r] [IsTrans α r] {p : α → Bool} (rows : List α) :
    (rows.insertionSort r).filter p = (rows.filter p).insertionSort r := by
  induction rows with
  | nil => rfl
  | cons a rows ih =>
      rw [List.insertionSort_cons, filter_orderedInsert a (List.pairwise_insertionSort r rows), ih,
        List.filter_cons]
      split
      · rw [List.insertionSort_cons]
      · rfl

end Head

/-! ## By a numeric key -/

section Key

variable {β : Type} [LinearOrder β] (key : α → β)

instance total_key : Std.Total fun a b : α => key b ≤ key a := ⟨fun a b => le_total (key b) (key a)⟩

instance trans_key : IsTrans α fun a b => key b ≤ key a := ⟨fun _ _ _ hab hbc => le_trans hbc hab⟩

/-- `WHERE p ORDER BY key DESC LIMIT 1`: the row has a maximal key. -/
theorem latest_max {p : α → Bool} {rows : List α} {a : α}
    (h : ((rows.filter p).insertionSort fun a b => key b ≤ key a).head? = some a) :
    a ∈ rows ∧ p a = true ∧ ∀ b ∈ rows, p b = true → key b ≤ key a := by
  obtain ⟨hmem, hp⟩ := List.mem_filter.mp (mem_of_head?_insertionSort h)
  refine ⟨hmem, hp, fun b hb hpb => ?_⟩
  rcases head?_insertionSort_le h b (List.mem_filter.mpr ⟨hb, hpb⟩) with rfl | hle
  · exact le_refl _
  · exact hle

end Key

/-! ## Distinct keys -/

/-- Rows with distinct keys are told apart by them. -/
theorem eq_of_key {β : Type} {f : α → β} {rows : List α}
    (h : rows.Pairwise fun a b => f a ≠ f b) {a b : α} (ha : a ∈ rows) (hb : b ∈ rows)
    (heq : f a = f b) : a = b :=
  List.inj_on_of_nodup_map (List.pairwise_map.mpr h) ha hb heq

/-- A lookup by a distinct key finds the row that has it. -/
theorem find?_of_key {β : Type} [DecidableEq β] {f : α → β} {rows : List α}
    (h : rows.Pairwise fun a b => f a ≠ f b) {a : α} (ha : a ∈ rows) {key : β} (hkey : f a = key) :
    rows.find? (fun b => f b = key) = some a := by
  have hsome : (rows.find? fun b => f b = key).isSome :=
    List.find?_isSome.mpr ⟨a, ha, decide_eq_true hkey⟩
  obtain ⟨b, hb⟩ := Option.isSome_iff_exists.mp hsome
  have hfound : f b = key := by simpa using List.find?_some hb
  rw [hb, eq_of_key h (List.mem_of_find?_eq_some hb) ha (hfound.trans hkey.symm)]

end Library
