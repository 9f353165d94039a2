import Mathlib.Data.List.Forall2

/-!
# Traversals that may raise

A list is traversed by a function that returns or raises: what the traversal returns when it
does, when it does, and which element it raises on.
-/

set_option autoImplicit false

namespace Library.Traversal

variable {A B ε : Type}

/-- A traversal that raises nothing has a result for every element. -/
theorem mapM_ok {f : A → Except ε B} {xs : List A} {ys : List B}
    (h : xs.mapM f = .ok ys) : List.Forall₂ (fun x y => f x = .ok y) xs ys := by
  induction xs generalizing ys with
  | nil =>
      obtain rfl := Except.ok.inj h
      exact .nil
  | cons x xs ih =>
      rw [List.mapM_cons] at h
      cases hx : f x with
      | error e =>
          rw [hx] at h
          exact absurd h (by simp [bind, Except.bind])
      | ok y =>
          rw [hx] at h
          cases hxs : xs.mapM f with
          | error e =>
              rw [hxs] at h
              exact absurd h (by simp [bind, Except.bind])
          | ok rest =>
              rw [hxs] at h
              obtain rfl := Except.ok.inj h
              exact .cons hx (ih hxs)

/-- A traversal returns exactly when every element has a result. -/
theorem mapM_returns {f : A → Except ε B} {xs : List A} :
    (∃ ys, xs.mapM f = .ok ys) ↔ ∀ x ∈ xs, ∃ y, f x = .ok y := by
  induction xs with
  | nil => exact ⟨fun _ x hx => absurd hx (by simp), fun _ => ⟨[], rfl⟩⟩
  | cons x xs ih =>
      rw [List.mapM_cons]
      constructor
      · rintro ⟨ys, hys⟩
        cases hx : f x with
        | error e =>
            rw [hx] at hys
            exact absurd hys (by simp [bind, Except.bind])
        | ok y =>
            cases hxs : xs.mapM f with
            | error e =>
                rw [hx, hxs] at hys
                exact absurd hys (by simp [bind, Except.bind])
            | ok rest =>
                intro z hz
                rcases List.mem_cons.mp hz with rfl | hlater
                · exact ⟨y, hx⟩
                · exact ih.mp ⟨rest, hxs⟩ z hlater
      · intro hall
        obtain ⟨y, hy⟩ := hall x List.mem_cons_self
        obtain ⟨rest, hrest⟩ := ih.mpr fun z hz => hall z (List.mem_cons_of_mem _ hz)
        refine ⟨y :: rest, ?_⟩
        rw [hy, hrest]
        rfl

/-- A traversal raises what the function raises on one of the elements. -/
theorem mapM_error {f : A → Except ε B} {xs : List A} {e : ε}
    (h : xs.mapM f = .error e) : ∃ x ∈ xs, f x = .error e := by
  induction xs with
  | nil => exact absurd h (by simp [pure, Except.pure])
  | cons x xs ih =>
      rw [List.mapM_cons] at h
      cases hx : f x with
      | error e' =>
          rw [hx] at h
          obtain rfl := Except.error.inj h
          exact ⟨x, List.mem_cons_self, hx⟩
      | ok y =>
          cases hxs : xs.mapM f with
          | error e' =>
              rw [hx, hxs] at h
              obtain rfl := Except.error.inj h
              obtain ⟨z, hz, herror⟩ := ih hxs
              exact ⟨z, List.mem_cons_of_mem _ hz, herror⟩
          | ok rest =>
              rw [hx, hxs] at h
              exact absurd h (by simp [bind, Except.bind, pure, Except.pure])

theorem toOption_eq_some {a : A} {result : Except ε A} :
    result.toOption = some a ↔ result = .ok a := by
  cases result with
  | error e => simp [Except.toOption]
  | ok b => simp [Except.toOption]

/-- The results that are kept are the kept results of the elements. -/
theorem filterMap_of_forall₂ {C : Type} {f : A → Except ε B} {keep : B → Option C} {xs : List A}
    {ys : List B} (h : List.Forall₂ (fun x y => f x = .ok y) xs ys) :
    ys.filterMap keep = xs.filterMap fun x => (f x).toOption.bind keep := by
  induction h with
  | nil => rfl
  | cons hx _ ih => simp only [List.filterMap_cons, hx, Except.toOption, Option.bind_some, ih]

end Library.Traversal
