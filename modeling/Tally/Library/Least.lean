import Mathlib.Data.List.Dedup
import Mathlib.Data.List.MinMax

/-!
# Least items

The first item of least key of a list, and whether the items of a list have one key: along a map,
and in another order of the list.
-/

set_option autoImplicit false

namespace Library.Least

variable {α β κ : Type}

/-- The first item of least key is found along a map. -/
theorem argmin_map [Preorder κ] [DecidableLT κ] (g : α → β) (key : β → κ) (l : List α) :
    (l.map g).argmin key = (l.argmin fun a => key (g a)).map g := by
  induction l using List.reverseRecOn with
  | nil => rfl
  | append_singleton l a ih =>
      rw [List.map_append, List.map_cons, List.map_nil, List.argmin_concat, List.argmin_concat, ih]
      cases l.argmin fun a => key (g a) with
      | none => rfl
      | some least =>
          show (if key (g a) < key (g least) then some (g a) else some (g least)) =
            Option.map g (if key (g a) < key (g least) then some a else some least)
          rw [apply_ite (Option.map g)]
          rfl

/-- With distinct keys the item of least key does not depend on the order. -/
theorem argmin_perm [LinearOrder κ] {key : α → κ} {l l' : List α} (hperm : l.Perm l')
    (hdistinct : (l.map key).Nodup) : l.argmin key = l'.argmin key := by
  cases hleast : l.argmin key with
  | none =>
      have hnil := List.argmin_eq_none.mp hleast
      rw [hnil] at hperm
      rw [← hperm.nil_eq, List.argmin_nil]
  | some least =>
      have hmem : least ∈ l := List.argmin_mem hleast
      cases hleast' : l'.argmin key with
      | none =>
          have hnil := List.argmin_eq_none.mp hleast'
          have hbad := hperm.mem_iff.mp hmem
          simp [hnil] at hbad
      | some least' =>
          have hmem' : least' ∈ l := hperm.mem_iff.mpr (List.argmin_mem hleast')
          have hle : key least ≤ key least' := List.le_of_mem_argmin hmem' hleast
          have hge : key least' ≤ key least :=
            List.le_of_mem_argmin (hperm.mem_iff.mp hmem) hleast'
          have hkey : key least = key least' := le_antisymm hle hge
          rw [List.inj_on_of_nodup_map hdistinct hmem hmem' hkey]

/-- At most one item is left without repetitions exactly when all items are the same. -/
theorem length_dedup_le_one [DecidableEq α] {l : List α} :
    ¬1 < l.dedup.length ↔ ∀ a ∈ l, ∀ b ∈ l, a = b := by
  constructor
  · intro h a ha b hb
    have ha' := List.mem_dedup.mpr ha
    have hb' := List.mem_dedup.mpr hb
    match hdedup : l.dedup with
    | [] => simp [hdedup] at ha'
    | [c] =>
        rw [hdedup, List.mem_singleton] at ha' hb'
        rw [ha', hb']
    | c :: d :: rest => exact absurd (by simp [hdedup]) h
  · intro h hlong
    match hdedup : l.dedup with
    | [] => simp [hdedup] at hlong
    | [c] => simp [hdedup] at hlong
    | c :: d :: rest =>
        have hnodup : (c :: d :: rest).Nodup := hdedup ▸ l.nodup_dedup
        have hc : c ∈ l := List.mem_dedup.mp (by simp [hdedup])
        have hd : d ∈ l := List.mem_dedup.mp (by simp [hdedup])
        rw [h c hc d hd] at hnodup
        simp at hnodup

end Library.Least
