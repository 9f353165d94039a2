import Tally.Library.Transaction

/-!
# Rows added and deleted

The statement `DELETE`, and how many rows a transaction adds to one table. The count of a
sequence is the sum of the counts of its parts, so the count of a long transaction follows
from its statements without a look at what they read.
-/

set_option autoImplicit false

namespace Library
namespace Schema

variable {ι : Type} [DecidableEq ι] {Row : ι → Type} {ε α β : Type}

/-! ## Deletion -/

/-- `DELETE ... WHERE`: refused when a row of a listed table loses a row it refers to. -/
def delete (schema : Schema Row) (violated : Violation → ε) (children : List ι) (t : ι)
    (selects : Row t → Bool) : Txn (Store Row) ε Unit := fun db =>
  let db' := db.modify t (·.filter fun row => !selects row)
  if children.all fun u => (db' u).all fun row =>
      !schema.references u db row || schema.references u db' row then .ok ((), db')
  else .error (violated .foreignKey)

variable {schema : Schema Row} {violated : Violation → ε} {children : List ι} {t u : ι}

/-- A deletion that is not refused leaves the rows it does not select. -/
theorem delete_ok {selects : Row t → Bool} {a : Unit} {db db' : Store Row}
    (h : schema.delete violated children t selects db = .ok (a, db')) :
    db' = db.modify t (·.filter fun row => !selects row) := by
  unfold delete at h
  simp only at h
  split at h
  · cases h
    rfl
  · cases h

theorem writes_delete {selects : Row t → Bool} {tables : List ι} (ht : t ∈ tables) :
    Writes tables (schema.delete violated children t selects) := by
  intro db a db' h
  rw [delete_ok h]
  exact sameExcept_modify db ht _

/-! ## Added rows -/

/-- A successful run of the transaction leaves the table that many rows longer. -/
def Adds (t : ι) (n : Nat) (m : Txn (Store Row) ε α) : Prop :=
  ∀ db a db', m db = .ok (a, db') → (db' t).length = (db t).length + n

omit [DecidableEq ι] in
theorem adds_bind {n k : Nat} {m : Txn (Store Row) ε α} {f : α → Txn (Store Row) ε β}
    (hm : Adds t n m) (hf : ∀ a, Adds t k (f a)) : Adds t (n + k) (m >>= f) := by
  intro db b db' h
  obtain ⟨a, db₁, hfirst, hrest⟩ := Txn.bind_ok.mp h
  have h₁ := hm db a db₁ hfirst
  have h₂ := hf a db₁ b db' hrest
  omega

omit [DecidableEq ι] in
/-- A first part that adds nothing leaves the count to the rest. -/
theorem adds_skip {n : Nat} {m : Txn (Store Row) ε α} {f : α → Txn (Store Row) ε β}
    (hm : Adds t 0 m) (hf : ∀ a, Adds t n (f a)) : Adds t n (m >>= f) := by
  have h := adds_bind hm hf
  rwa [Nat.zero_add] at h

omit [DecidableEq ι] in
/-- Behind the part that adds the rows, the rest adds nothing. -/
theorem adds_settled {n : Nat} {m : Txn (Store Row) ε α} {f : α → Txn (Store Row) ε β}
    (hm : Adds t n m) (hf : ∀ a, Adds t 0 (f a)) : Adds t n (m >>= f) :=
  adds_bind hm hf

omit [DecidableEq ι] in
/-- A transaction that leaves a table alone adds nothing to it. -/
theorem Writes.adds {tables : List ι} {m : Txn (Store Row) ε α} (h : Writes tables m)
    (ht : t ∉ tables) : Adds t 0 m := by
  intro db a db' hm
  rw [h db a db' hm t ht, Nat.add_zero]

omit [DecidableEq ι] in
theorem writes_read {tables : List ι} (f : Store Row → α) :
    Writes tables (Txn.read f : Txn (Store Row) ε α) :=
  Txn.keeps_read sameExcept_refl f

theorem adds_insert {row : Row t} : Adds t 1 (schema.insert violated t row) := by
  intro db a db' h
  obtain ⟨-, -, rfl⟩ := insert_ok.mp h
  rw [Store.modify_same, List.length_append, List.length_singleton]

theorem adds_update {selects : Row u → Bool} {change : Row u → Row u} :
    Adds t 0 (update u selects change : Txn (Store Row) ε Unit) := by
  intro db a db' h
  rw [← update_ok.mp h]
  by_cases htu : t = u
  · subst htu
    rw [Store.modify_same, List.length_map, Nat.add_zero]
  · rw [Store.modify_of_ne _ _ htu, Nat.add_zero]

omit [DecidableEq ι] in
/-- A loop adds its body's count for every item. -/
theorem adds_forEach {γ : Type} {n : Nat} {body : Nat → γ → Txn (Store Row) ε Unit}
    (hbody : ∀ i x, Adds t n (body i x)) (i : Nat) (xs : List γ) :
    Adds t (n * xs.length) (Txn.forEach body i xs) := by
  induction xs generalizing i with
  | nil =>
      intro db a db' h
      obtain ⟨-, rfl⟩ := Txn.pure_ok.mp h
      rw [List.length_nil, Nat.mul_zero, Nat.add_zero]
  | cons x xs ih =>
      have hstep := adds_bind (hbody i x) fun _ => ih (i + 1)
      rw [Nat.add_comm, ← Nat.mul_succ] at hstep
      exact hstep

end Schema
end Library
