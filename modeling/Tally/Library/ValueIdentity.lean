import Tally.Library.KeyOrder
import Tally.Library.ValueText

/-!
# Values with one canonical text

A dynamic value without floating point numbers is a JSON value, and its canonical text is that of
its sorted form. Two such values with one canonical text are the same value up to the order of
the members of their dicts: they agree under every key.
-/

set_option autoImplicit false

namespace Library.Value

/-! ## As JSON values -/

mutual
/-- The value as a JSON value; a floating point number stands as null. -/
def toJson : Value → Json
  | .null => .null
  | .bool value => .bool value
  | .int value => .int value
  | .float _ => .null
  | .str value => .str value
  | .list items => .arr (toJsonItems items)
  | .dict members => .obj (toJsonMembers members)
def toJsonItems : List Value → List Json
  | [] => []
  | item :: items => toJson item :: toJsonItems items
def toJsonMembers : List (String × Value) → List (String × Json)
  | [] => []
  | (key, value) :: members => (key, toJson value) :: toJsonMembers members
end

mutual
/-- No number of the value is a floating point number. -/
def floatless : Value → Bool
  | .null => true
  | .bool _ => true
  | .int _ => true
  | .float _ => false
  | .str _ => true
  | .list items => floatlessItems items
  | .dict members => floatlessMembers members
def floatlessItems : List Value → Bool
  | [] => true
  | item :: items => floatless item && floatlessItems items
def floatlessMembers : List (String × Value) → Bool
  | [] => true
  | (_, value) :: members => floatless value && floatlessMembers members
end

mutual
/-- No dict of the value has a key twice. -/
def distinctKeys : Value → Bool
  | .null => true
  | .bool _ => true
  | .int _ => true
  | .float _ => true
  | .str _ => true
  | .list items => distinctKeysItems items
  | .dict members => decide (members.map Prod.fst).Nodup && distinctKeysMembers members
def distinctKeysItems : List Value → Bool
  | [] => true
  | item :: items => distinctKeys item && distinctKeysItems items
def distinctKeysMembers : List (String × Value) → Bool
  | [] => true
  | (_, value) :: members => distinctKeys value && distinctKeysMembers members
end

/-- A value that is a JSON value, with one value under each key. -/
def plain (value : Value) : Bool := floatless value && distinctKeys value

theorem toJsonMembers_eq_map (members : List (String × Value)) :
    toJsonMembers members = members.map fun member => (member.1, toJson member.2) := by
  induction members with
  | nil => rfl
  | cons member members ih =>
      obtain ⟨key, value⟩ := member
      rw [toJsonMembers, ih, List.map_cons]

theorem floatlessMembers_iff {members : List (String × Value)} :
    floatlessMembers members = true ↔ ∀ member ∈ members, floatless member.2 = true := by
  induction members with
  | nil => simp [floatlessMembers]
  | cons member members ih =>
      obtain ⟨key, value⟩ := member
      rw [floatlessMembers, Bool.and_eq_true, ih, List.forall_mem_cons]

theorem floatlessItems_iff {items : List Value} :
    floatlessItems items = true ↔ ∀ item ∈ items, floatless item = true := by
  induction items with
  | nil => simp [floatlessItems]
  | cons item items ih => rw [floatlessItems, Bool.and_eq_true, ih, List.forall_mem_cons]

theorem distinctKeysMembers_iff {members : List (String × Value)} :
    distinctKeysMembers members = true ↔ ∀ member ∈ members, distinctKeys member.2 = true := by
  induction members with
  | nil => simp [distinctKeysMembers]
  | cons member members ih =>
      obtain ⟨key, value⟩ := member
      rw [distinctKeysMembers, Bool.and_eq_true, ih, List.forall_mem_cons]

theorem distinctKeysItems_iff {items : List Value} :
    distinctKeysItems items = true ↔ ∀ item ∈ items, distinctKeys item = true := by
  induction items with
  | nil => simp [distinctKeysItems]
  | cons item items ih => rw [distinctKeysItems, Bool.and_eq_true, ih, List.forall_mem_cons]

theorem plain_dict {members : List (String × Value)} (h : plain (.dict members) = true) :
    (members.map Prod.fst).Nodup ∧ ∀ member ∈ members, plain member.2 = true := by
  obtain ⟨hfloatless, hkeys⟩ := Bool.and_eq_true_iff.mp h
  obtain ⟨hnodup, hmembers⟩ := Bool.and_eq_true_iff.mp hkeys
  exact ⟨of_decide_eq_true hnodup, fun member hmember => Bool.and_eq_true_iff.mpr
    ⟨floatlessMembers_iff.mp hfloatless member hmember,
      distinctKeysMembers_iff.mp hmembers member hmember⟩⟩

theorem plain_list {items : List Value} (h : plain (.list items) = true) :
    ∀ item ∈ items, plain item = true := by
  obtain ⟨hfloatless, hkeys⟩ := Bool.and_eq_true_iff.mp h
  exact fun item hitem => Bool.and_eq_true_iff.mpr
    ⟨floatlessItems_iff.mp hfloatless item hitem, distinctKeysItems_iff.mp hkeys item hitem⟩

/-! ## Sorting -/

theorem toJson_insertionSort (members : List (String × Value)) :
    toJsonMembers (members.insertionSort fun a b => a.1 ≤ b.1) =
      (toJsonMembers members).insertionSort fun a b => a.1 ≤ b.1 := by
  rw [toJsonMembers_eq_map, toJsonMembers_eq_map]
  exact List.map_insertionSort _ _ _ _ fun _ _ _ _ => Iff.rfl

mutual
theorem toJson_sortKeys : ∀ value : Value, toJson (sortKeys value) = (toJson value).sortKeys
  | .null => rfl
  | .bool _ => rfl
  | .int _ => rfl
  | .float _ => rfl
  | .str _ => rfl
  | .list items => by
      rw [sortKeys, toJson, toJson, Json.sortKeys, toJson_sortItems items]
  | .dict members => by
      rw [sortKeys, toJson, toJson, Json.sortKeys, toJson_insertionSort, toJson_sortMembers members]
theorem toJson_sortItems : ∀ items : List Value,
    toJsonItems (sortItems items) = Json.sortItems (toJsonItems items)
  | [] => rfl
  | item :: items => by
      rw [sortItems, toJsonItems, toJsonItems, Json.sortItems, toJson_sortKeys item,
        toJson_sortItems items]
theorem toJson_sortMembers : ∀ members : List (String × Value),
    toJsonMembers (sortMembers members) = Json.sortMembers (toJsonMembers members)
  | [] => rfl
  | (key, value) :: members => by
      rw [sortMembers, toJsonMembers, toJsonMembers, Json.sortMembers, toJson_sortKeys value,
        toJson_sortMembers members]
end

mutual
theorem floatless_sortKeys : ∀ {value : Value}, floatless value = true →
    floatless (sortKeys value) = true
  | .null, h => h
  | .bool _, h => h
  | .int _, h => h
  | .float _, h => h
  | .str _, h => h
  | .list items, h => by
      rw [sortKeys, floatless]
      exact floatless_sortItems h
  | .dict members, h => by
      rw [sortKeys, floatless, floatlessMembers_iff]
      intro member hmember
      have hmembers : floatlessMembers (sortMembers members) = true := floatless_sortMembers h
      exact floatlessMembers_iff.mp hmembers member ((List.mem_insertionSort _).mp hmember)
theorem floatless_sortItems : ∀ {items : List Value}, floatlessItems items = true →
    floatlessItems (sortItems items) = true
  | [], h => h
  | item :: items, h => by
      rw [floatlessItems, Bool.and_eq_true] at h
      rw [sortItems, floatlessItems, floatless_sortKeys h.1, floatless_sortItems h.2]
      rfl
theorem floatless_sortMembers : ∀ {members : List (String × Value)},
    floatlessMembers members = true → floatlessMembers (sortMembers members) = true
  | [], h => h
  | (key, value) :: members, h => by
      rw [floatlessMembers, Bool.and_eq_true] at h
      rw [sortMembers, floatlessMembers, floatless_sortKeys h.1, floatless_sortMembers h.2]
      rfl
end

/-! ## Rendering -/

mutual
theorem render_toJson : ∀ {value : Value}, floatless value = true →
    render value = (toJson value).render .compact
  | .null, _ => rfl
  | .bool true, _ => rfl
  | .bool false, _ => rfl
  | .int _, _ => rfl
  | .float _, h => absurd h (by simp [floatless])
  | .str _, _ => rfl
  | .list [], _ => rfl
  | .list (item :: items), h => by
      obtain ⟨hitem, hitems⟩ := Bool.and_eq_true_iff.mp h
      rw [render, renderItems, toJson, toJsonItems, Json.render, render_toJson hitem,
        render_toJsonItems hitems]
      rfl
  | .dict [], _ => rfl
  | .dict ((key, value) :: members), h => by
      obtain ⟨hvalue, hmembers⟩ := Bool.and_eq_true_iff.mp h
      rw [render, renderMembers, toJson, toJsonMembers, Json.render, render_toJson hvalue,
        render_toJsonMembers hmembers]
      rfl
theorem render_toJsonItems : ∀ {items : List Value}, floatlessItems items = true →
    renderItems false items = Json.renderItems .compact (toJsonItems items)
  | [], _ => rfl
  | item :: items, h => by
      obtain ⟨hitem, hitems⟩ := Bool.and_eq_true_iff.mp h
      rw [renderItems, toJsonItems, Json.renderItems, render_toJson hitem,
        render_toJsonItems hitems]
      rfl
theorem render_toJsonMembers : ∀ {members : List (String × Value)},
    floatlessMembers members = true →
      renderMembers false members = Json.renderMembers .compact (toJsonMembers members)
  | [], _ => rfl
  | (key, value) :: members, h => by
      obtain ⟨hvalue, hmembers⟩ := Bool.and_eq_true_iff.mp h
      rw [renderMembers, toJsonMembers, Json.renderMembers, render_toJson hvalue,
        render_toJsonMembers hmembers]
      rfl
end

mutual
theorem toJson_inj : ∀ {a b : Value}, floatless a = true → floatless b = true →
    toJson a = toJson b → a = b
  | .null, b, _, hb, h => by cases b <;> simp_all [toJson, floatless]
  | .bool _, b, _, hb, h => by cases b <;> simp_all [toJson]
  | .int _, b, _, hb, h => by cases b <;> simp_all [toJson]
  | .float _, _, ha, _, _ => absurd ha (by simp [floatless])
  | .str _, b, _, hb, h => by cases b <;> simp_all [toJson]
  | .list items, b, ha, hb, h => by
      cases b with
      | list items' => rw [toJsonItems_inj ha hb (Json.arr.inj h)]
      | _ => simp [toJson] at h
  | .dict members, b, ha, hb, h => by
      cases b with
      | dict members' => rw [toJsonMembers_inj ha hb (Json.obj.inj h)]
      | _ => simp [toJson] at h
theorem toJsonItems_inj : ∀ {xs ys : List Value}, floatlessItems xs = true →
    floatlessItems ys = true → toJsonItems xs = toJsonItems ys → xs = ys
  | [], [], _, _, _ => rfl
  | [], _ :: _, _, _, h => absurd h (by simp [toJsonItems])
  | _ :: _, [], _, _, h => absurd h (by simp [toJsonItems])
  | x :: xs, y :: ys, hx, hy, h => by
      rw [floatlessItems, Bool.and_eq_true] at hx hy
      rw [toJsonItems, toJsonItems] at h
      obtain ⟨hhead, htail⟩ := List.cons.inj h
      rw [toJson_inj hx.1 hy.1 hhead, toJsonItems_inj hx.2 hy.2 htail]
theorem toJsonMembers_inj : ∀ {xs ys : List (String × Value)}, floatlessMembers xs = true →
    floatlessMembers ys = true → toJsonMembers xs = toJsonMembers ys → xs = ys
  | [], [], _, _, _ => rfl
  | [], _ :: _, _, _, h => absurd h (by simp [toJsonMembers])
  | _ :: _, [], _, _, h => absurd h (by simp [toJsonMembers])
  | (key, x) :: xs, (key', y) :: ys, hx, hy, h => by
      rw [floatlessMembers, Bool.and_eq_true] at hx hy
      rw [toJsonMembers, toJsonMembers] at h
      obtain ⟨hhead, htail⟩ := List.cons.inj h
      obtain ⟨rfl, hvalue⟩ := Prod.mk.inj hhead
      rw [toJson_inj hx.1 hy.1 hvalue, toJsonMembers_inj hx.2 hy.2 htail]
end

/-- Plain values with one canonical text have one sorted form. -/
theorem sortKeys_eq_of_canonicalText {a b : Value} (ha : plain a = true) (hb : plain b = true)
    (h : canonicalText a = canonicalText b) : sortKeys a = sortKeys b := by
  have hsorted (value : Value) (hplain : plain value = true) :
      floatless (sortKeys value) = true :=
    floatless_sortKeys (Bool.and_eq_true_iff.mp hplain).1
  refine toJson_inj (hsorted a ha) (hsorted b hb) (Json.dumps_compact_injective ?_)
  unfold Json.dumps
  rw [← render_toJson (hsorted a ha), ← render_toJson (hsorted b hb)]
  exact h

/-! ## Members of the sorted form -/

theorem getMember_sortMembers (members : List (String × Value)) (key : String) :
    getMember (sortMembers members) key = (getMember members key).map sortKeys := by
  induction members with
  | nil => rfl
  | cons member members ih =>
      obtain ⟨name, value⟩ := member
      unfold getMember at ih ⊢
      rw [sortMembers, List.find?_cons, List.find?_cons]
      by_cases hname : name = key
      · simp [hname]
      · simp only [hname, decide_false]
        exact ih

theorem getMember_iff {members : List (String × Value)} (hnodup : (members.map Prod.fst).Nodup)
    {key : String} {value : Value} :
    getMember members key = some value ↔ (key, value) ∈ members := by
  induction members with
  | nil => simp [getMember]
  | cons member members ih =>
      obtain ⟨name, found⟩ := member
      obtain ⟨hnew, hrest⟩ := List.nodup_cons.mp hnodup
      unfold getMember at ih ⊢
      rw [List.find?_cons]
      by_cases hname : name = key
      · subst hname
        simp only [decide_true, Option.map_some, Option.some.injEq, List.mem_cons, Prod.mk.injEq,
          true_and]
        refine ⟨fun h => Or.inl h.symm, fun h => ?_⟩
        rcases h with h | h
        · exact h.symm
        · exact absurd (List.mem_map_of_mem h) hnew
      · simp only [hname, decide_false, List.mem_cons, Prod.mk.injEq]
        rw [ih hrest]
        refine ⟨fun h => Or.inr h, fun h => ?_⟩
        rcases h with ⟨heq, _⟩ | h
        · exact absurd heq.symm hname
        · exact h

/-- The order of the members does not matter. -/
theorem getMember_perm {xs ys : List (String × Value)} (h : xs.Perm ys)
    (hnodup : (xs.map Prod.fst).Nodup) (key : String) : getMember xs key = getMember ys key := by
  refine Option.ext fun value => ?_
  rw [getMember_iff hnodup, getMember_iff ((h.map Prod.fst).nodup_iff.mp hnodup), h.mem_iff]

/-- Dicts with one sorted form have one sorted form under each key. -/
theorem getMember_of_sortKeys {xs ys : List (String × Value)}
    (hx : (xs.map Prod.fst).Nodup)
    (h : sortKeys (.dict xs) = sortKeys (.dict ys)) (key : String) :
    (getMember xs key).map sortKeys = (getMember ys key).map sortKeys := by
  rw [sortKeys, sortKeys] at h
  have hsorted := Value.dict.inj h
  have hxs := List.perm_insertionSort (fun a b : String × Value => a.1 ≤ b.1) (sortMembers xs)
  have hys := List.perm_insertionSort (fun a b : String × Value => a.1 ≤ b.1) (sortMembers ys)
  have hperm : (sortMembers xs).Perm (sortMembers ys) := hxs.symm.trans (hsorted ▸ hys)
  rw [← getMember_sortMembers, ← getMember_sortMembers]
  exact getMember_perm hperm (by rw [keys_sortMembers]; exact hx) key

theorem sortItems_eq_map (items : List Value) : sortItems items = items.map sortKeys := by
  induction items with
  | nil => rfl
  | cons item items ih => rw [sortItems, ih, List.map_cons]

theorem eq_str_of_sortKeys {value : Value} {text : String} (h : sortKeys value = .str text) :
    value = .str text := by
  cases value with
  | str value => exact h
  | null => exact absurd h (by simp [sortKeys])
  | bool value => exact absurd h (by simp [sortKeys])
  | int value => exact absurd h (by simp [sortKeys])
  | float value => exact absurd h (by simp [sortKeys])
  | list items => exact absurd h (by simp [sortKeys])
  | dict members => exact absurd h (by simp [sortKeys])

end Library.Value
