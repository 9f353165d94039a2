import Mathlib.Data.List.Pairwise
import Mathlib.Tactic.Common

/-!
# Transactions over tables

A store gives every table its rows in the order of their insertion. A
transaction reads and writes a store and either commits a result with a new
store or raises, and then the store it started from stands. Inserts check the
unique indexes and the foreign keys of a schema.

The rules: what a successful run of each construct did (`bind_ok` and the
lemmas beside the primitives), which relation between the states before and
after every run keeps (`Keeps`), and which tables a run can write (`Writes`).
-/

set_option autoImplicit false

namespace Library

/-! ## Stores -/

/-- The rows of every table, oldest first. -/
abbrev Store {ι : Type} (Row : ι → Type) : Type := (t : ι) → List (Row t)

namespace Store

variable {ι : Type} [DecidableEq ι] {Row : ι → Type}

/-- The store with the rows of one table replaced. -/
def modify (db : Store Row) (t : ι) (f : List (Row t) → List (Row t)) : Store Row := fun u =>
  if h : t = u then h ▸ f (db t) else db u

@[simp] theorem modify_same (db : Store Row) (t : ι) (f : List (Row t) → List (Row t)) :
    db.modify t f t = f (db t) := by
  simp [modify]

@[simp] theorem modify_of_ne (db : Store Row) {t u : ι} (f : List (Row t) → List (Row t))
    (h : u ≠ t) : db.modify t f u = db u := by
  simp [modify, Ne.symm h]

end Store

/-! ## Transactions -/

/-- A computation over a state that commits a result and a new state or raises. -/
def Txn (σ ε α : Type) : Type := σ → Except ε (α × σ)

namespace Txn

variable {σ ε α β : Type}

instance : Monad (Txn σ ε) where
  pure a := fun s => .ok (a, s)
  bind m f := fun s => match m s with
    | .ok (a, s') => f a s'
    | .error e => .error e

def read (f : σ → α) : Txn σ ε α := fun s => .ok (f s, s)

def raise (e : ε) : Txn σ ε α := fun _ => .error e

def write (f : σ → σ) : Txn σ ε Unit := fun s => .ok ((), f s)

/-- The value of an optional result, or the error for an absent one. -/
def orRaise (e : ε) : Option α → Txn σ ε α
  | some a => pure a
  | none => raise e

/-- The transaction when a condition holds, else nothing. -/
def onlyIf (p : Prop) [Decidable p] (m : Txn σ ε Unit) : Txn σ ε Unit := if p then m else pure ()

/-- The state after the transaction: its writes when it commits, none of them
when it raises. -/
def commit (m : Txn σ ε α) (s : σ) : σ :=
  match m s with
  | .ok (_, s') => s'
  | .error _ => s

/-! ### What a successful run did -/

@[simp] theorem pure_ok {a b : α} {s s' : σ} :
    (pure a : Txn σ ε α) s = .ok (b, s') ↔ a = b ∧ s = s' := by
  show Except.ok (a, s) = Except.ok (b, s') ↔ _
  simp

@[simp] theorem bind_ok {m : Txn σ ε α} {f : α → Txn σ ε β} {b : β} {s s' : σ} :
    (m >>= f) s = .ok (b, s') ↔ ∃ a s₁, m s = .ok (a, s₁) ∧ f a s₁ = .ok (b, s') := by
  show (match m s with | .ok (a, s₁) => f a s₁ | .error e => .error e) = _ ↔ _
  cases m s with
  | error e => simp
  | ok p =>
      obtain ⟨a, s₁⟩ := p
      constructor
      · intro h
        exact ⟨a, s₁, rfl, h⟩
      · rintro ⟨a', s₂, heq, h⟩
        simp only [Except.ok.injEq, Prod.mk.injEq] at heq
        obtain ⟨rfl, rfl⟩ := heq
        exact h

/-- An error ends the transaction. -/
theorem bind_error {m : Txn σ ε α} {f : α → Txn σ ε β} {s : σ} {e : ε} (h : m s = .error e) :
    (m >>= f) s = .error e := by
  show (match m s with | .ok (a, s₁) => f a s₁ | .error e => .error e) = _
  rw [h]

/-- A first part that succeeds goes on from the state it left. -/
theorem bind_of_ok {m : Txn σ ε α} {f : α → Txn σ ε β} {s s' : σ} {a : α}
    (h : m s = .ok (a, s')) : (m >>= f) s = f a s' := by
  show (match m s with | .ok (a, s₁) => f a s₁ | .error e => .error e) = _
  rw [h]

/-- An error of a sequence is one of its first part or of the rest. -/
theorem bind_eq_error {m : Txn σ ε α} {f : α → Txn σ ε β} {s : σ} {e : ε} :
    (m >>= f) s = .error e ↔ m s = .error e ∨ ∃ a s₁, m s = .ok (a, s₁) ∧ f a s₁ = .error e := by
  show (match m s with | .ok (a, s₁) => f a s₁ | .error e => .error e) = _ ↔ _
  cases m s with
  | error e => simp
  | ok p =>
      obtain ⟨a, s₁⟩ := p
      simp

@[simp] theorem read_ok {f : σ → α} {a : α} {s s' : σ} :
    (read f : Txn σ ε α) s = .ok (a, s') ↔ f s = a ∧ s = s' := by
  simp [read]

@[simp] theorem write_ok {f : σ → σ} {a : Unit} {s s' : σ} :
    (write f : Txn σ ε Unit) s = .ok (a, s') ↔ f s = s' := by
  simp [write]

@[simp] theorem raise_ok {e : ε} {a : α} {s s' : σ} :
    (raise e : Txn σ ε α) s = .ok (a, s') ↔ False := by
  simp [raise]

@[simp] theorem orRaise_ok {e : ε} {o : Option α} {a : α} {s s' : σ} :
    (orRaise e o : Txn σ ε α) s = .ok (a, s') ↔ o = some a ∧ s = s' := by
  cases o <;> simp [orRaise]

theorem ite_ok {p : Prop} [Decidable p] {m n : Txn σ ε α} {a : α} {s s' : σ} :
    (if p then m else n) s = .ok (a, s') ↔
      (p ∧ m s = .ok (a, s')) ∨ (¬p ∧ n s = .ok (a, s')) := by
  by_cases h : p <;> simp [h]

theorem onlyIf_ok {p : Prop} [Decidable p] {m : Txn σ ε Unit} {a : Unit} {s s' : σ} :
    onlyIf p m s = .ok (a, s') ↔ (p ∧ m s = .ok (a, s')) ∨ (¬p ∧ s = s') := by
  unfold onlyIf
  rw [ite_ok, pure_ok]
  simp

theorem commit_of_ok {m : Txn σ ε α} {a : α} {s s' : σ} (h : m s = .ok (a, s')) :
    m.commit s = s' := by
  simp [commit, h]

theorem commit_of_error {m : Txn σ ε α} {e : ε} {s : σ} (h : m s = .error e) :
    m.commit s = s := by
  simp [commit, h]

/-- A committed transaction either left the state alone or succeeded. -/
theorem commit_cases (m : Txn σ ε α) (s : σ) :
    m.commit s = s ∨ ∃ a, m s = .ok (a, m.commit s) := by
  cases h : m s with
  | error e => exact Or.inl (commit_of_error h)
  | ok p =>
      obtain ⟨a, s'⟩ := p
      exact Or.inr ⟨a, by rw [commit_of_ok h]⟩

/-! ### Relations every run keeps -/

/-- Whenever the transaction succeeds, the states before and after are related. -/
def Keeps (R : σ → σ → Prop) (m : Txn σ ε α) : Prop :=
  ∀ s a s', m s = .ok (a, s') → R s s'

variable {R : σ → σ → Prop}

theorem keeps_pure (hrefl : ∀ s, R s s) (a : α) : Keeps R (pure a : Txn σ ε α) := by
  intro s b s' h
  rw [pure_ok] at h
  rw [← h.2]
  exact hrefl s

theorem keeps_bind (htrans : ∀ a b c, R a b → R b c → R a c) {m : Txn σ ε α}
    {f : α → Txn σ ε β} (hm : Keeps R m) (hf : ∀ a, Keeps R (f a)) : Keeps R (m >>= f) := by
  intro s b s' h
  obtain ⟨a, s₁, h₁, h₂⟩ := bind_ok.mp h
  exact htrans _ _ _ (hm _ _ _ h₁) (hf a _ _ _ h₂)

theorem keeps_read (hrefl : ∀ s, R s s) (f : σ → α) : Keeps R (read f : Txn σ ε α) := by
  intro s b s' h
  rw [read_ok] at h
  rw [← h.2]
  exact hrefl s

theorem keeps_raise (e : ε) : Keeps R (raise e : Txn σ ε α) := by
  intro s b s' h
  exact (raise_ok.mp h).elim

theorem keeps_orRaise (hrefl : ∀ s, R s s) (e : ε) (o : Option α) :
    Keeps R (orRaise e o : Txn σ ε α) := by
  cases o with
  | none => exact keeps_raise e
  | some a => exact keeps_pure hrefl a

/-- A related pair of states survives a commit, whether it succeeds or raises. -/
theorem Keeps.commit (hrefl : ∀ s, R s s) {m : Txn σ ε α} (hm : Keeps R m) (s : σ) :
    R s (m.commit s) := by
  rcases commit_cases m s with heq | ⟨a, ha⟩
  · rw [heq]
    exact hrefl s
  · exact hm _ _ _ ha

/-! ### Loops -/

/-- Runs the body for every item with its position. -/
def forEach {γ : Type} (body : Nat → γ → Txn σ ε Unit) : Nat → List γ → Txn σ ε Unit
  | _, [] => pure ()
  | i, x :: xs => do
    body i x
    forEach body (i + 1) xs

theorem keeps_forEach {γ : Type} (hrefl : ∀ s, R s s) (htrans : ∀ a b c, R a b → R b c → R a c)
    {body : Nat → γ → Txn σ ε Unit} (i : Nat) (xs : List γ)
    (hbody : ∀ i, ∀ x ∈ xs, Keeps R (body i x)) : Keeps R (forEach body i xs) := by
  induction xs generalizing i with
  | nil => exact keeps_pure hrefl ()
  | cons x xs ih =>
      refine keeps_bind htrans (hbody i x List.mem_cons_self) fun _ => ih (i + 1) ?_
      intro j y hy
      exact hbody j y (List.mem_cons_of_mem x hy)

end Txn

/-! ## Schemas -/

/-- The unique indexes and the foreign keys of a set of tables. -/
structure Schema {ι : Type} (Row : ι → Type) where
  /-- Some unique index gives the two rows one key. -/
  conflicts : (t : ι) → Row t → Row t → Bool
  /-- Every row that the row refers to exists. -/
  references : (t : ι) → Store Row → Row t → Bool

/-- The errors of a rejected insert. -/
inductive Violation where
  | unique
  | foreignKey
  | notNull
deriving DecidableEq

namespace Schema

variable {ι : Type} [DecidableEq ι] {Row : ι → Type} {ε : Type}

/-- `INSERT`: checks the unique indexes and the foreign keys, then appends. -/
def insert (schema : Schema Row) (violated : Violation → ε) (t : ι) (row : Row t) :
    Txn (Store Row) ε Unit := fun db =>
  if (db t).any (schema.conflicts t row) then .error (violated .unique)
  else if schema.references t db row then .ok ((), db.modify t (· ++ [row]))
  else .error (violated .foreignKey)

/-- `INSERT ... ON CONFLICT .. DO NOTHING`: no insert when the target index
already holds the row's key, else a plain insert. -/
def insertOrIgnore (schema : Schema Row) (violated : Violation → ε) (t : ι)
    (target : Row t → Row t → Bool) (row : Row t) : Txn (Store Row) ε Unit := fun db =>
  if (db t).any (target row) then .ok ((), db) else schema.insert violated t row db

/-- `UPDATE ... WHERE`. -/
def update (t : ι) (selects : Row t → Bool) (change : Row t → Row t) :
    Txn (Store Row) ε Unit :=
  .write fun db => db.modify t (·.map fun row => if selects row then change row else row)

variable {schema : Schema Row} {violated : Violation → ε} {t : ι} {row : Row t}

/-- No row of the table shares a unique key with the new one. -/
def Fresh (schema : Schema Row) (db : Store Row) (t : ι) (row : Row t) : Prop :=
  ∀ r ∈ db t, schema.conflicts t row r = false

omit [DecidableEq ι] in
theorem not_any_conflicts {db : Store Row} :
    (db t).any (schema.conflicts t row) = false ↔ schema.Fresh db t row := by
  simp [Fresh]

@[simp] theorem insert_ok {a : Unit} {db db' : Store Row} :
    schema.insert violated t row db = .ok (a, db') ↔
      schema.Fresh db t row ∧ schema.references t db row = true ∧
        db.modify t (· ++ [row]) = db' := by
  unfold insert
  rw [← not_any_conflicts]
  cases (db t).any (schema.conflicts t row) <;> cases schema.references t db row <;> simp

/-- An insert that violates a unique index found a row with the key. -/
theorem conflict_of_insert {db : Store Row} (hviolated : violated .unique ≠ violated .foreignKey)
    (h : schema.insert violated t row db = .error (violated .unique)) :
    ∃ r ∈ db t, schema.conflicts t row r = true := by
  unfold insert at h
  split at h
  · rename_i hany
    exact List.any_eq_true.mp hany
  · split at h
    · exact absurd h (by simp)
    · exact absurd (Except.error.inj h) hviolated.symm

@[simp] theorem insertOrIgnore_ok {target : Row t → Row t → Bool} {a : Unit}
    {db db' : Store Row} :
    schema.insertOrIgnore violated t target row db = .ok (a, db') ↔
      ((db t).any (target row) = true ∧ db = db') ∨
      ((db t).any (target row) = false ∧ schema.Fresh db t row ∧
        schema.references t db row = true ∧ db.modify t (· ++ [row]) = db') := by
  unfold insertOrIgnore
  cases hany : (db t).any (target row) with
  | true => simp
  | false =>
      rw [if_neg (by decide), insert_ok]
      simp

@[simp] theorem update_ok {selects : Row t → Bool} {change : Row t → Row t} {a : Unit}
    {db db' : Store Row} :
    (update t selects change : Txn (Store Row) ε Unit) db = .ok (a, db') ↔
      db.modify t (·.map fun row => if selects row then change row else row) = db' := by
  simp [update]

/-! ## Updated rows -/

section Updates

variable {α : Type}

/-- The rows an update selects are changed, and stay selected. -/
theorem filter_update (selects : α → Bool) (change : α → α)
    (hchange : ∀ x, selects x = true → selects (change x) = true) (rows : List α) :
    (rows.map fun x => if selects x = true then change x else x).filter selects =
      (rows.filter selects).map change := by
  induction rows with
  | nil => rfl
  | cons x rows ih =>
      rw [List.map_cons]
      cases hx : selects x with
      | true =>
          rw [if_pos rfl, List.filter_cons_of_pos (hchange x hx), List.filter_cons_of_pos hx, ih,
            List.map_cons]
      | false =>
          have hnot : ¬selects x = true := by rw [hx]; decide
          rw [if_neg (by decide), List.filter_cons_of_neg hnot, List.filter_cons_of_neg hnot, ih]

/-- An update of other rows does not change the selection. -/
theorem filter_update_other {selects others : α → Bool} {change : α → α}
    (hother : ∀ x, selects x = true → others x = false)
    (hchange : ∀ x, selects x = true → others (change x) = false) (rows : List α) :
    (rows.map fun x => if selects x = true then change x else x).filter others =
      rows.filter others := by
  induction rows with
  | nil => rfl
  | cons x rows ih =>
      rw [List.map_cons, List.filter_cons, List.filter_cons, ih]
      cases hx : selects x with
      | true =>
          rw [if_pos rfl, hchange x hx, hother x hx]
          rfl
      | false => rfl

end Updates

/-! ## Footprints -/

/-- Only the listed tables differ. -/
def SameExcept (tables : List ι) (db db' : Store Row) : Prop :=
  ∀ t, t ∉ tables → db' t = db t

/-- A successful run of the transaction writes the listed tables only. -/
abbrev Writes {α : Type} (tables : List ι) (m : Txn (Store Row) ε α) : Prop :=
  m.Keeps (SameExcept tables)

variable {tables : List ι}

omit [DecidableEq ι] in
theorem sameExcept_refl (db : Store Row) : SameExcept tables db db := fun _ _ => rfl

omit [DecidableEq ι] in
theorem sameExcept_trans (a b c : Store Row) (hab : SameExcept tables a b)
    (hbc : SameExcept tables b c) : SameExcept tables a c :=
  fun t ht => (hbc t ht).trans (hab t ht)

theorem sameExcept_modify (db : Store Row) (ht : t ∈ tables)
    (f : List (Row t) → List (Row t)) : SameExcept tables db (db.modify t f) := by
  intro u hu
  have hne : u ≠ t := by
    rintro rfl
    exact hu ht
  exact Store.modify_of_ne db f hne

theorem writes_insert (ht : t ∈ tables) : Writes tables (schema.insert violated t row) := by
  intro db a db' h
  obtain ⟨_, _, rfl⟩ := insert_ok.mp h
  exact sameExcept_modify db ht _

theorem writes_insertOrIgnore {target : Row t → Row t → Bool} (ht : t ∈ tables) :
    Writes tables (schema.insertOrIgnore violated t target row) := by
  intro db a db' h
  rcases insertOrIgnore_ok.mp h with ⟨_, rfl⟩ | ⟨_, _, _, rfl⟩
  · exact sameExcept_refl db
  · exact sameExcept_modify db ht _

theorem writes_update {selects : Row t → Bool} {change : Row t → Row t} (ht : t ∈ tables) :
    Writes tables (update t selects change : Txn (Store Row) ε Unit) := by
  intro db a db' h
  rw [← update_ok.mp h]
  exact sameExcept_modify db ht _

/-! ## Appended rows -/

/-- A table grew by rows of the given kind. -/
def Appends (t : ι) (P : Row t → Prop) (db db' : Store Row) : Prop :=
  ∃ rows, db' t = db t ++ rows ∧ ∀ r ∈ rows, P r

variable {P : Row t → Prop}

omit [DecidableEq ι] in
theorem appends_of_same {db db' : Store Row} (h : db' t = db t) : Appends t P db db' :=
  ⟨[], by rw [h, List.append_nil], by simp⟩

omit [DecidableEq ι] in
theorem appends_refl (db : Store Row) : Appends t P db db := appends_of_same rfl

omit [DecidableEq ι] in
theorem appends_trans (a b c : Store Row) (hab : Appends t P a b) (hbc : Appends t P b c) :
    Appends t P a c := by
  obtain ⟨xs, hxs, hP⟩ := hab
  obtain ⟨ys, hys, hP'⟩ := hbc
  refine ⟨xs ++ ys, by rw [hys, hxs, List.append_assoc], ?_⟩
  intro r hr
  rcases List.mem_append.mp hr with hr | hr
  · exact hP r hr
  · exact hP' r hr

theorem appends_insert (hrow : P row) :
    Txn.Keeps (Appends t P) (schema.insert violated t row) := by
  intro db a db' h
  obtain ⟨_, _, rfl⟩ := insert_ok.mp h
  refine ⟨[row], Store.modify_same _ _ _, ?_⟩
  intro r hr
  rwa [List.mem_singleton.mp hr]

omit [DecidableEq ι] in
/-- A transaction that leaves a table alone appends nothing to it. -/
theorem Writes.appends {α : Type} {m : Txn (Store Row) ε α} (h : Writes tables m)
    (ht : t ∉ tables) : Txn.Keeps (Appends t P) m := fun _ _ _ hm =>
  appends_of_same (h _ _ _ hm t ht)

end Schema
end Library
