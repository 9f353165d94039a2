import Mathlib.Data.List.Perm.Subperm
import Mathlib.Data.List.Sort
import Tally.Library.Json

/-!
# Values up to the order of keys

A mapping has each key once, and two mappings are equal when they have the same keys with equal
values, whatever the order of their members. The sorted form of a value is the same for exactly
the values that are equal in this sense, so the compact text of the sorted form is canonical.
-/

set_option autoImplicit false

namespace Library.Json

/-! ## Equal values -/

mutual
/-- The objects of a value have each key once, at every depth. -/
def DistinctKeys : Json → Prop
  | .arr items => DistinctKeysItems items
  | .obj members => (members.map Prod.fst).Nodup ∧ DistinctKeysMembers members
  | .null => True
  | .bool _ => True
  | .int _ => True
  | .str _ => True
def DistinctKeysItems : List Json → Prop
  | [] => True
  | item :: items => DistinctKeys item ∧ DistinctKeysItems items
def DistinctKeysMembers : List (String × Json) → Prop
  | [] => True
  | (_, value) :: members => DistinctKeys value ∧ DistinctKeysMembers members
end

mutual
/-- Equal up to the order of the members of objects: lists are equal item by item, and objects
have equally many members with equal values under the same keys. -/
def Same : Json → Json → Prop
  | .null, .null => True
  | .bool value, .bool value' => value = value'
  | .int value, .int value' => value = value'
  | .str value, .str value' => value = value'
  | .arr items, .arr items' => SameItems items items'
  | .obj members, .obj members' =>
    members.length = members'.length ∧ SameMembers members members'
  | _, _ => False
def SameItems : List Json → List Json → Prop
  | [], [] => True
  | item :: items, item' :: items' => Same item item' ∧ SameItems items items'
  | _, _ => False
/-- The members of the first object are among those of the second. -/
def SameMembers : List (String × Json) → List (String × Json) → Prop
  | [], _ => True
  | (key, value) :: members, members' =>
    (∃ value', (key, value') ∈ members' ∧ Same value value') ∧ SameMembers members members'
end

@[simp] theorem distinctKeys_null : DistinctKeys .null := trivial

@[simp] theorem distinctKeys_int (value : Int) : DistinctKeys (.int value) := trivial

@[simp] theorem distinctKeys_str (value : String) : DistinctKeys (.str value) := trivial

theorem distinctKeys_of_mem {key : String} {value : Json} {members : List (String × Json)}
    (h : DistinctKeysMembers members) (hmem : (key, value) ∈ members) : DistinctKeys value := by
  induction members with
  | nil => exact absurd hmem List.not_mem_nil
  | cons member members ih =>
      obtain ⟨key', value'⟩ := member
      rw [DistinctKeysMembers] at h
      rcases List.mem_cons.mp hmem with heq | hlater
      · rw [(Prod.mk.inj heq).2]
        exact h.1
      · exact ih h.2 hlater

/-! ## Sorted members -/

theorem mem_sortMembers {key : String} {value : Json} {members : List (String × Json)} :
    (key, value) ∈ sortMembers members ↔
      ∃ found, (key, found) ∈ members ∧ value = sortKeys found := by
  induction members with
  | nil => simp [sortMembers]
  | cons member members ih =>
      obtain ⟨key', value'⟩ := member
      rw [sortMembers, List.mem_cons, ih, Prod.mk.injEq]
      constructor
      · rintro (⟨rfl, rfl⟩ | ⟨found, hfound, rfl⟩)
        · exact ⟨value', List.mem_cons_self, rfl⟩
        · exact ⟨found, List.mem_cons_of_mem _ hfound, rfl⟩
      · rintro ⟨found, hfound, rfl⟩
        rcases List.mem_cons.mp hfound with heq | hlater
        · obtain ⟨rfl, rfl⟩ := Prod.mk.injEq .. ▸ heq
          exact Or.inl ⟨rfl, rfl⟩
        · exact Or.inr ⟨found, hlater, rfl⟩

theorem keys_sortMembers (members : List (String × Json)) :
    (sortMembers members).map Prod.fst = members.map Prod.fst := by
  induction members with
  | nil => rfl
  | cons member members ih =>
      obtain ⟨key, value⟩ := member
      rw [sortMembers, List.map_cons, List.map_cons, ih]

theorem length_sortMembers (members : List (String × Json)) :
    (sortMembers members).length = members.length := by
  have h := congrArg List.length (keys_sortMembers members)
  simpa using h

/-- Lists with distinct keys sort alike when they have the same members. -/
theorem insertionSort_eq_iff {β : Type} {xs ys : List (String × β)}
    (hx : (xs.map Prod.fst).Nodup) :
    xs.insertionSort (fun a b => a.1 ≤ b.1) = ys.insertionSort (fun a b => a.1 ≤ b.1) ↔
      xs.length = ys.length ∧ ∀ p ∈ xs, p ∈ ys := by
  have hsort (zs : List (String × β)) := List.perm_insertionSort (fun a b => a.1 ≤ b.1) zs
  constructor
  · intro h
    have hperm : xs.Perm ys := (hsort xs).symm.trans (h ▸ hsort ys)
    exact ⟨hperm.length_eq, fun p hp => hperm.mem_iff.mp hp⟩
  · rintro ⟨hlength, hmem⟩
    have hperm : xs.Perm ys :=
      ((List.Nodup.of_map _ hx).subperm hmem).perm_of_length_le hlength.symm.le
    have hsorted : (xs.insertionSort fun a b => a.1 ≤ b.1).Perm
        (ys.insertionSort fun a b => a.1 ≤ b.1) :=
      (hsort xs).trans (hperm.trans (hsort ys).symm)
    refine hsorted.eq_of_pairwise ?_ (List.pairwise_insertionSort _ xs)
      (List.pairwise_insertionSort _ ys)
    intro a b ha hb hab hba
    have hxa : a ∈ xs := (hsort xs).mem_iff.mp ha
    have hxb : b ∈ xs := hperm.mem_iff.mpr ((hsort ys).mem_iff.mp hb)
    exact List.inj_on_of_nodup_map hx hxa hxb (le_antisymm hab hba)

/-! ## The sorted form -/

mutual
theorem sortKeys_eq_iff : ∀ {a b : Json}, DistinctKeys a → DistinctKeys b →
    (sortKeys a = sortKeys b ↔ Same a b)
  | .null, b, _, _ => by cases b <;> simp [sortKeys, Same]
  | .bool _, b, _, _ => by cases b <;> simp [sortKeys, Same]
  | .int _, b, _, _ => by cases b <;> simp [sortKeys, Same]
  | .str _, b, _, _ => by cases b <;> simp [sortKeys, Same]
  | .arr items, b, ha, hb => by
    cases b with
    | arr items' =>
        rw [sortKeys, sortKeys, Json.arr.injEq, Same]
        rw [DistinctKeys] at ha hb
        exact sortItems_eq_iff ha hb
    | _ => simp [sortKeys, Same]
  | .obj members, b, ha, hb => by
    cases b with
    | obj members' =>
        rw [DistinctKeys] at ha hb
        have hkeys : ((sortMembers members).map Prod.fst).Nodup := by
          rw [keys_sortMembers]
          exact ha.1
        rw [sortKeys, sortKeys, Json.obj.injEq, Same, insertionSort_eq_iff hkeys,
          length_sortMembers, length_sortMembers, sortMembers_subset_iff ha.2 hb.2]
    | _ => simp [sortKeys, Same]
theorem sortItems_eq_iff : ∀ {items items' : List Json}, DistinctKeysItems items →
    DistinctKeysItems items' → (sortItems items = sortItems items' ↔ SameItems items items')
  | [], items', _, _ => by cases items' <;> simp [sortItems, SameItems]
  | item :: items, items', h, h' => by
    cases items' with
    | nil => simp [sortItems, SameItems]
    | cons item' items' =>
        rw [DistinctKeysItems] at h h'
        rw [sortItems, sortItems, SameItems, List.cons.injEq, sortKeys_eq_iff h.1 h'.1,
          sortItems_eq_iff h.2 h'.2]
theorem sortMembers_subset_iff : ∀ {members members' : List (String × Json)},
    DistinctKeysMembers members → DistinctKeysMembers members' →
      ((∀ p ∈ sortMembers members, p ∈ sortMembers members') ↔ SameMembers members members')
  | [], members', _, _ => by simp [sortMembers, SameMembers]
  | (key, value) :: members, members', h, h' => by
    rw [DistinctKeysMembers] at h
    have hvalues : ∀ found, (key, found) ∈ members' →
        (sortKeys value = sortKeys found ↔ Same value found) :=
      fun found hfound => sortKeys_eq_iff h.1 (distinctKeys_of_mem h' hfound)
    rw [sortMembers, SameMembers, List.forall_mem_cons, mem_sortMembers,
      sortMembers_subset_iff h.2 h']
    refine and_congr_left fun _ => exists_congr fun found => and_congr_right fun hfound => ?_
    exact hvalues found hfound
end

end Library.Json
