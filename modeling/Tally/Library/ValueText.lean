import Mathlib.Data.List.Sort
import Tally.Library.Json
import Tally.Library.Value

/-!
# The canonical text of a dynamic value

The text an encoder gives a value: keys sorted at every depth, separators without blanks,
non-ASCII characters as they are, a number in floating point as it is printed. A dict whose text
member changes has another canonical text.
-/

set_option autoImplicit false

namespace Library.Value

/-! ## Sorting of keys -/

mutual
/-- The value with the members of its dicts sorted by key. -/
def sortKeys : Value → Value
  | .list items => .list (sortItems items)
  | .dict members => .dict ((sortMembers members).insertionSort fun a b => a.1 ≤ b.1)
  | .null => .null
  | .bool value => .bool value
  | .int value => .int value
  | .float value => .float value
  | .str value => .str value
def sortItems : List Value → List Value
  | [] => []
  | item :: items => sortKeys item :: sortItems items
def sortMembers : List (String × Value) → List (String × Value)
  | [] => []
  | (key, value) :: members => (key, sortKeys value) :: sortMembers members
end

/-! ## Rendering -/

/-- The text of a floating point number; the numbers that are none have names. -/
def floatText (value : FloatValue) : List Char :=
  match value.number with
  | .nan => "NaN".toList
  | .infinity true => "-Infinity".toList
  | .infinity false => "Infinity".toList
  | .finite _ => value.text.toList

/-- What stands in front of an item. -/
def separator (first : Bool) : List Char := if first then [] else [',']

mutual
def render : Value → List Char
  | .null => "null".toList
  | .bool true => "true".toList
  | .bool false => "false".toList
  | .int value => Json.renderInt value
  | .float value => floatText value
  | .str value => Json.renderString false value
  | .list items => '[' :: renderItems true items
  | .dict members => '{' :: renderMembers true members
/-- The items and the closing bracket. -/
def renderItems (first : Bool) : List Value → List Char
  | [] => [']']
  | item :: items => separator first ++ render item ++ renderItems false items
/-- The members and the closing brace. -/
def renderMembers (first : Bool) : List (String × Value) → List Char
  | [] => ['}']
  | (key, value) :: members =>
    separator first ++ Json.renderString false key ++ [':'] ++ render value ++
      renderMembers false members
end

/-- The text of the sorted value. -/
def canonicalText (value : Value) : String := String.ofList (render (sortKeys value))

/-! ## Numbers -/

mutual
/-- No number of the value is an infinity or none. -/
def finiteNumbers : Value → Bool
  | .float value =>
    match value.number with
    | .finite _ => true
    | _ => false
  | .list items => finiteItems items
  | .dict members => finiteMembers members
  | .null => true
  | .bool _ => true
  | .int _ => true
  | .str _ => true
def finiteItems : List Value → Bool
  | [] => true
  | item :: items => finiteNumbers item && finiteItems items
def finiteMembers : List (String × Value) → Bool
  | [] => true
  | (_, value) :: members => finiteNumbers value && finiteMembers members
end

/-! ## A member that changes -/

/-- `members[key] = value` of a key that is there. -/
def setMember (key : String) (value : Value) (members : List (String × Value)) :
    List (String × Value) :=
  members.map fun member => if member.1 = key then (key, value) else member

theorem fst_setMember (key : String) (value : Value) (member : String × Value) :
    (if member.1 = key then (key, value) else member).1 = member.1 := by
  split
  · rename_i hkey
    exact hkey.symm
  · rfl

theorem keys_setMember (key : String) (value : Value) (members : List (String × Value)) :
    (setMember key value members).map Prod.fst = members.map Prod.fst := by
  unfold setMember
  rw [List.map_map]
  exact List.map_congr_left fun member _ => fst_setMember key value member

theorem keys_sortMembers (members : List (String × Value)) :
    (sortMembers members).map Prod.fst = members.map Prod.fst := by
  induction members with
  | nil => rfl
  | cons member members ih =>
      obtain ⟨key, value⟩ := member
      rw [sortMembers, List.map_cons, List.map_cons, ih]

/-- A text is sorted already. -/
theorem sortMembers_setMember (key text : String) (members : List (String × Value)) :
    sortMembers (setMember key (.str text) members) =
      setMember key (.str text) (sortMembers members) := by
  induction members with
  | nil => rfl
  | cons member members ih =>
      obtain ⟨name, value⟩ := member
      unfold setMember at ih ⊢
      simp only [List.map_cons, sortMembers]
      rw [ih]
      by_cases hname : name = key
      · rw [if_pos hname, if_pos hname, sortKeys]
      · rw [if_neg hname, if_neg hname]

/-- The place of a member depends on its key only. -/
theorem insertionSort_setMember (key : String) (value : Value) (members : List (String × Value)) :
    (setMember key value members).insertionSort (fun a b => a.1 ≤ b.1) =
      setMember key value (members.insertionSort fun a b => a.1 ≤ b.1) := by
  unfold setMember
  refine (List.map_insertionSort _ _ _ _ ?_).symm
  intro a _ b _
  rw [fst_setMember, fst_setMember]

/-- Two texts of one member that render alike are one text. -/
theorem renderMembers_setMember_inj {key a b : String} {members : List (String × Value)}
    (hkey : key ∈ members.map Prod.fst) (first : Bool)
    (h : renderMembers first (setMember key (.str a) members) =
      renderMembers first (setMember key (.str b) members)) : a = b := by
  induction members generalizing first with
  | nil => exact absurd hkey List.not_mem_nil
  | cons member members ih =>
      obtain ⟨name, value⟩ := member
      unfold setMember at h
      rw [List.map_cons, List.map_cons] at h
      by_cases hname : name = key
      · rw [if_pos hname, if_pos hname, renderMembers, renderMembers] at h
        simp only [List.append_assoc] at h
        have hvalue := List.append_cancel_left (List.append_cancel_left h)
        exact (Json.renderString_append_inj _ _ _ _ _ (List.append_cancel_left hvalue)).1
      · rw [if_neg hname, if_neg hname, renderMembers, renderMembers] at h
        refine ih ?_ false (List.append_cancel_left h)
        rcases List.mem_cons.mp hkey with heq | hlater
        · exact absurd heq.symm hname
        · exact hlater

/-- The canonical text of a dict determines the text under each of its keys. -/
theorem canonicalText_setMember_inj {key a b : String} {members : List (String × Value)}
    (hkey : key ∈ members.map Prod.fst)
    (h : canonicalText (.dict (setMember key (.str a) members)) =
      canonicalText (.dict (setMember key (.str b) members))) : a = b := by
  have hrender := String.ofList_injective h
  rw [sortKeys, sortKeys, render, render, sortMembers_setMember, sortMembers_setMember,
    insertionSort_setMember, insertionSort_setMember] at hrender
  refine renderMembers_setMember_inj ?_ true (List.cons.inj hrender).2
  have hperm := (List.perm_insertionSort (fun a b : String × Value => a.1 ≤ b.1)
    (sortMembers members)).map Prod.fst
  rw [hperm.mem_iff, keys_sortMembers]
  exact hkey

end Library.Value
