import Mathlib.Data.List.Basic
import Mathlib.Data.List.Nodup

/-!
# Screening a list

A loop that checks every row on its own and then drops the rows whose key an earlier row
has. It gives one verdict for each row. A verdict depends on the rows before it only
through the keys of those that passed the check, so it can be told from the prefix.
-/

set_option autoImplicit false

namespace Library.Screening

section Verdicts

variable {ρ ε α κ : Type} [DecidableEq κ] (check : ρ → Except ε α) (key : α → κ) (repeated : ε)

/-- The verdict on a row after rows with the given keys. -/
def judge (earlier : List κ) (row : ρ) : Except ε α :=
  match check row with
  | .error e => .error e
  | .ok a => if key a ∈ earlier then .error repeated else .ok a

/-- The verdicts of a loop that has seen some keys. -/
def screen (seen : List κ) : List ρ → List (Except ε α)
  | [] => []
  | row :: rows => match check row with
    | .error e => .error e :: screen seen rows
    | .ok a =>
      if key a ∈ seen then .error repeated :: screen seen rows
      else .ok a :: screen (key a :: seen) rows

/-- What the verdicts keep. -/
def kept (verdicts : List (Except ε α)) : List α := verdicts.filterMap Except.toOption

/-- The keys of the rows that pass the check. -/
def passedKeys (rows : List ρ) : List κ := rows.filterMap fun row => (check row).toOption.map key

variable {check key repeated}

@[simp] theorem length_screen (seen : List κ) (rows : List ρ) :
    (screen check key repeated seen rows).length = rows.length := by
  induction rows generalizing seen with
  | nil => rfl
  | cons row rows ih =>
      unfold screen
      split
      · rw [List.length_cons, ih, List.length_cons]
      · split
        · rw [List.length_cons, ih, List.length_cons]
        · rw [List.length_cons, ih, List.length_cons]

omit [DecidableEq κ] in
theorem mem_passedKeys {rows : List ρ} {k : κ} :
    k ∈ passedKeys check key rows ↔ ∃ row ∈ rows, ∃ a, check row = .ok a ∧ key a = k := by
  unfold passedKeys
  rw [List.mem_filterMap]
  refine exists_congr fun row => and_congr_right fun _ => ?_
  cases check row with
  | error e => simp [Except.toOption]
  | ok a => simp [Except.toOption]

/-- Only the set of the earlier keys counts. -/
theorem judge_congr {earlier earlier' : List κ} (h : ∀ k, k ∈ earlier ↔ k ∈ earlier') (row : ρ) :
    judge check key repeated earlier row = judge check key repeated earlier' row := by
  unfold judge
  cases check row with
  | error e => rfl
  | ok a =>
      dsimp only
      by_cases hmem : key a ∈ earlier
      · rw [if_pos hmem, if_pos ((h _).mp hmem)]
      · rw [if_neg hmem, if_neg (mt (h _).mpr hmem)]

theorem judge_eq_ok {earlier : List κ} {row : ρ} {a : α} :
    judge check key repeated earlier row = .ok a ↔ check row = .ok a ∧ key a ∉ earlier := by
  unfold judge
  cases check row with
  | error e => simp
  | ok b =>
      dsimp only
      by_cases hmem : key b ∈ earlier
      · rw [if_pos hmem]
        refine iff_of_false (by simp) ?_
        rintro ⟨heq, hnew⟩
        obtain rfl := Except.ok.inj heq
        exact hnew hmem
      · rw [if_neg hmem]
        constructor
        · intro heq
          obtain rfl := Except.ok.inj heq
          exact ⟨rfl, hmem⟩
        · exact And.left

/-- The verdict on a row is the one its prefix gives. -/
theorem getElem?_screen (seen : List κ) (rows : List ρ) (i : Nat) :
    (screen check key repeated seen rows)[i]? =
      rows[i]?.map (judge check key repeated (passedKeys check key (rows.take i) ++ seen)) := by
  induction rows generalizing seen i with
  | nil => simp [screen]
  | cons row rows ih =>
      cases i with
      | zero =>
          have hnone : passedKeys check key ((row :: rows).take 0) ++ seen = seen := rfl
          rw [hnone, List.getElem?_cons_zero, Option.map_some]
          unfold screen judge
          split
          · rfl
          · split
            · rfl
            · rfl
      | succ i =>
          rw [List.getElem?_cons_succ, List.take_succ_cons]
          unfold screen
          cases hcheck : check row with
          | error e =>
              have hskip : passedKeys check key (row :: rows.take i) =
                  passedKeys check key (rows.take i) := by
                unfold passedKeys
                rw [List.filterMap_cons_none (by rw [hcheck]; rfl)]
              rw [hskip]
              exact ih seen i
          | ok a =>
              have hadd : passedKeys check key (row :: rows.take i) =
                  key a :: passedKeys check key (rows.take i) := by
                unfold passedKeys
                rw [List.filterMap_cons_some (by rw [hcheck]; rfl)]
              rw [hadd]
              dsimp only
              by_cases hseen : key a ∈ seen
              · rw [if_pos hseen, List.getElem?_cons_succ, ih]
                refine Option.map_congr fun r _ => judge_congr (fun k => ?_) r
                simp only [List.cons_append, List.mem_cons, List.mem_append]
                constructor
                · exact Or.inr
                · rintro (rfl | h)
                  · exact Or.inr hseen
                  · exact h
              · rw [if_neg hseen, List.getElem?_cons_succ, ih]
                refine Option.map_congr fun r _ => judge_congr (fun k => ?_) r
                simp only [List.cons_append, List.mem_cons, List.mem_append]
                tauto

theorem kept_cons_ok (a : α) (verdicts : List (Except ε α)) :
    kept (.ok a :: verdicts) = a :: kept verdicts :=
  List.filterMap_cons_some rfl

theorem kept_cons_error (e : ε) (verdicts : List (Except ε α)) :
    kept (.error e :: verdicts) = kept verdicts :=
  List.filterMap_cons_none rfl

theorem mem_kept {verdicts : List (Except ε α)} {a : α} :
    a ∈ kept verdicts ↔ .ok a ∈ verdicts := by
  unfold kept
  rw [List.mem_filterMap]
  constructor
  · rintro ⟨verdict, hmem, hok⟩
    cases verdict with
    | error e => exact absurd hok (by simp [Except.toOption])
    | ok b =>
        obtain rfl : b = a := Option.some.inj hok
        exact hmem
  · intro h
    exact ⟨_, h, rfl⟩

/-- The rows kept have distinct keys, none of them seen before. -/
theorem kept_screen_keys (seen : List κ) (rows : List ρ) :
    ((kept (screen check key repeated seen rows)).map key).Nodup ∧
      ∀ a ∈ kept (screen check key repeated seen rows), key a ∉ seen := by
  induction rows generalizing seen with
  | nil => exact ⟨List.nodup_nil, fun a ha => absurd ha List.not_mem_nil⟩
  | cons row rows ih =>
      unfold screen
      cases check row with
      | error e =>
          rw [kept_cons_error]
          exact ih seen
      | ok a =>
          dsimp only
          by_cases hseen : key a ∈ seen
          · rw [if_pos hseen, kept_cons_error]
            exact ih seen
          · rw [if_neg hseen, kept_cons_ok, List.map_cons, List.nodup_cons]
            obtain ⟨hnodup, hnew⟩ := ih (key a :: seen)
            refine ⟨⟨?_, hnodup⟩, ?_⟩
            · intro hmem
              obtain ⟨b, hb, heq⟩ := List.mem_map.mp hmem
              exact hnew b hb (heq ▸ List.mem_cons_self)
            · intro b hb
              rcases List.mem_cons.mp hb with rfl | hb
              · exact hseen
              · exact fun hbad => hnew b hb (List.mem_cons_of_mem _ hbad)

/-- A key is among those of the rows kept when some row with it passes and it is new. -/
theorem mem_kept_screen_keys (seen : List κ) (rows : List ρ) (k : κ) :
    k ∈ (kept (screen check key repeated seen rows)).map key ∨ k ∈ seen ↔
      k ∈ passedKeys check key rows ∨ k ∈ seen := by
  induction rows generalizing seen with
  | nil => exact Iff.rfl
  | cons row rows ih =>
      unfold screen
      cases hcheck : check row with
      | error e =>
          have hskip : passedKeys check key (row :: rows) = passedKeys check key rows :=
            List.filterMap_cons_none (by rw [hcheck]; rfl)
          rw [kept_cons_error, hskip]
          exact ih seen
      | ok a =>
          have hadd : passedKeys check key (row :: rows) = key a :: passedKeys check key rows :=
            List.filterMap_cons_some (by rw [hcheck]; rfl)
          rw [hadd]
          dsimp only
          by_cases hseen : key a ∈ seen
          · rw [if_pos hseen, kept_cons_error, ih seen, List.mem_cons]
            constructor
            · rintro (h | h)
              · exact Or.inl (Or.inr h)
              · exact Or.inr h
            · rintro ((rfl | h) | h)
              · exact Or.inr hseen
              · exact Or.inl h
              · exact Or.inr h
          · have hrest := ih (key a :: seen)
            rw [if_neg hseen, kept_cons_ok, List.map_cons, List.mem_cons, List.mem_cons]
            rw [List.mem_cons] at hrest
            tauto

end Verdicts

/-! ## First broken rules -/

section Rules

variable {ρ ε : Type}

/-- The first rule of a list that a row breaks, by its code. -/
def FirstBroken (rules : List (ε × (ρ → Prop))) (code : ε) (row : ρ) : Prop :=
  ∃ before rule after, rules = before ++ (code, rule) :: after ∧
    (∀ r ∈ before, r.2 row) ∧ ¬rule row

theorem firstBroken_nil (code : ε) (row : ρ) : ¬FirstBroken [] code row := by
  rintro ⟨before, rule, after, heq, _⟩
  exact absurd heq (by simp)

/-- The first rule of all is broken, or it holds and a later one is the first. -/
theorem firstBroken_cons {code : ε} {rule : ρ → Prop} {rules : List (ε × (ρ → Prop))} {code' : ε}
    {row : ρ} :
    FirstBroken ((code, rule) :: rules) code' row ↔
      (code = code' ∧ ¬rule row) ∨ (rule row ∧ FirstBroken rules code' row) := by
  constructor
  · rintro ⟨before, rule', after, heq, hholds, hbroken⟩
    cases before with
    | nil =>
        rw [List.nil_append, List.cons.injEq, Prod.mk.injEq] at heq
        obtain ⟨⟨rfl, rfl⟩, _⟩ := heq
        exact Or.inl ⟨rfl, hbroken⟩
    | cons first before =>
        rw [List.cons_append, List.cons.injEq] at heq
        obtain ⟨rfl, rfl⟩ := heq
        exact Or.inr ⟨hholds _ List.mem_cons_self, before, rule', after, rfl,
          fun r hr => hholds r (List.mem_cons_of_mem _ hr), hbroken⟩
  · rintro (⟨rfl, hbroken⟩ | ⟨hrule, before, rule', after, rfl, hholds, hbroken⟩)
    · exact ⟨[], rule, rules, rfl, fun r hr => absurd hr List.not_mem_nil, hbroken⟩
    · refine ⟨(code, rule) :: before, rule', after, rfl, ?_, hbroken⟩
      intro r hr
      rcases List.mem_cons.mp hr with rfl | hr
      · exact hrule
      · exact hholds r hr

/-- Two rows that keep the same rules break the same one first. -/
theorem firstBroken_congr {rules : List (ε × (ρ → Prop))} {row row' : ρ}
    (h : ∀ rule ∈ rules, rule.2 row ↔ rule.2 row') (code : ε) :
    FirstBroken rules code row ↔ FirstBroken rules code row' := by
  unfold FirstBroken
  refine exists_congr fun before => exists_congr fun rule => exists_congr fun after => ?_
  refine and_congr_right fun heq => and_congr ?_ ?_
  · refine forall_congr' fun r => imp_congr_right fun hr => h r ?_
    rw [heq]
    exact List.mem_append_left _ hr
  · refine not_congr (h (code, rule) ?_)
    rw [heq]
    exact List.mem_append_right _ List.mem_cons_self

end Rules

end Library.Screening
