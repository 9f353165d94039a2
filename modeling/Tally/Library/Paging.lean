import Mathlib.Data.List.Sort

/-!
# Paging through sorted rows

`WHERE key > cursor ORDER BY key LIMIT n`, taken page after page: the rows of a page are in
the strict order of their keys when no two rows share one, and a page that begins after the
last row sent continues the order.
-/

set_option autoImplicit false

namespace Library

variable {α β : Type} [LinearOrder β] {key : α → β}

/-- Rows with distinct keys, sorted by them, are in the strict order of their keys. -/
theorem pairwise_lt_insertionSort {r : α → α → Prop} [DecidableRel r]
    (hr : ∀ a b, r a b ↔ key a ≤ key b) {rows : List α} (hdistinct : (rows.map key).Nodup) :
    (rows.insertionSort r).Pairwise fun a b => key a < key b := by
  have : Std.Total r := ⟨fun a b => by
    rw [hr, hr]
    exact le_total (key a) (key b)⟩
  have : IsTrans α r := ⟨fun a b c hab hbc => by
    rw [hr] at hab hbc ⊢
    exact le_trans hab hbc⟩
  have hsorted := List.pairwise_insertionSort r rows
  have hkeys : ((rows.insertionSort r).map key).Nodup :=
    (((List.perm_insertionSort r rows).map key).nodup_iff).mpr hdistinct
  refine (hsorted.and (List.pairwise_map.mp hkeys)).imp ?_
  intro a b hab
  exact lt_of_le_of_ne ((hr a b).mp hab.1) hab.2

/-- A page that begins after the last row sent continues the order. -/
theorem pairwise_append_page {sent page : List α}
    (hsent : sent.Pairwise fun a b => key a < key b)
    (hpage : page.Pairwise fun a b => key a < key b)
    (hafter : ∀ last ∈ sent.getLast?, ∀ b ∈ page, key last < key b) :
    (sent ++ page).Pairwise fun a b => key a < key b := by
  refine List.pairwise_append.mpr ⟨hsent, hpage, ?_⟩
  intro a ha b hb
  obtain ⟨earlier, last, hsplit⟩ :=
    (List.eq_nil_or_concat sent).resolve_left (List.ne_nil_of_mem ha)
  rw [List.concat_eq_append] at hsplit
  have hlast : key last < key b := by
    refine hafter last ?_ b hb
    rw [hsplit, List.getLast?_concat]
    rfl
  rw [hsplit, List.mem_append] at ha
  rcases ha with hearlier | hat
  · rw [hsplit, List.pairwise_append] at hsent
    exact lt_trans (hsent.2.2 a hearlier last (List.mem_singleton_self _)) hlast
  · rwa [List.mem_singleton.mp hat]

/-- Rows in the strict order of their keys are distinct. -/
theorem nodup_of_pairwise_lt {rows : List α} (h : rows.Pairwise fun a b => key a < key b) :
    rows.Nodup := by
  refine h.imp ?_
  rintro a b hlt rfl
  exact lt_irrefl _ hlt

end Library
