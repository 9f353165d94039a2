import Tally.Library.Interleaving

/-!
# What a program exchanges

The trace of a program is the list of the effects it performs, each with its reply. A program
against any partner may have many traces. What holds of every trace is told by the weakest
precondition of the program over the log so far, and that is computed along its sequences. A
stateful program that may raise keeps its state when it does.
-/

set_option autoImplicit false

namespace Library

variable {E : Type} {R : E → Type} {α β ε σ : Type}

/-- Effects with their replies, in order. -/
abbrev Log (E : Type) (R : E → Type) : Type := List ((e : E) × R e)

/-- A program performs the effects of a log, with these replies, and ends with a value. -/
inductive Traced : Prog E R α → Log E R → α → Prop
  | done (value : α) : Traced (.done value) [] value
  | perform {e : E} {next : R e → Prog E R α} {reply : R e} {log : Log E R} {value : α}
      (h : Traced (next reply) log value) : Traced (.perform e next) (⟨e, reply⟩ :: log) value

namespace Prog

/-- A run of a program against a list of replies, when there are enough. -/
def replay {Q : Type} : List Q → Prog E (fun _ => Q) α → Option (Log E (fun _ => Q) × α)
  | _, .done value => some ([], value)
  | [], .perform _ _ => none
  | reply :: replies, .perform e next =>
    (replay replies (next reply)).map fun run => (⟨e, reply⟩ :: run.1, run.2)

theorem traced_of_replay {Q : Type} {replies : List Q} {p : Prog E (fun _ => Q) α}
    {log : Log E fun _ => Q} {value : α} (h : replay replies p = some (log, value)) :
    Traced p log value := by
  induction p generalizing replies log with
  | done value' =>
      have hdone : some ([], value') = some (log, value) := by
        cases replies <;> exact h
      obtain ⟨rfl, rfl⟩ := Prod.mk.inj (Option.some.inj hdone)
      exact .done value'
  | perform e next ih =>
      cases replies with
      | nil => cases h
      | cons reply replies =>
          obtain ⟨⟨rest, found⟩, hrest, hrun⟩ := Option.map_eq_some_iff.mp h
          obtain ⟨rfl, rfl⟩ := Prod.mk.inj hrun
          exact .perform (ih reply hrest)

/-- What a log and the value must satisfy once a program has gone on from a log. -/
def wp : Prog E R α → Log E R → (α → Log E R → Prop) → Prop
  | .done value, log, Q => Q value log
  | .perform e next, log, Q => ∀ reply, (next reply).wp (log ++ [⟨e, reply⟩]) Q

variable {p : Prog E R α} {log : Log E R}

/-- The weakest precondition is about every trace. -/
theorem wp_iff {Q : α → Log E R → Prop} :
    p.wp log Q ↔ ∀ new value, Traced p new value → Q value (log ++ new) := by
  induction p generalizing log with
  | done value =>
      refine ⟨fun h new value' htraced => ?_, fun h => ?_⟩
      · cases htraced
        rwa [List.append_nil]
      · exact List.append_nil log ▸ h [] value (.done value)
  | perform e next ih =>
      refine ⟨fun h new value htraced => ?_, fun h reply => ?_⟩
      · cases htraced with
        | perform hnext =>
            rw [List.append_cons]
            exact (ih _).mp (h _) _ value hnext
      · refine (ih reply).mpr fun new value hnext => ?_
        rw [← List.append_cons]
        exact h _ value (.perform hnext)

theorem wp_bind {f : α → Prog E R β} {Q : β → Log E R → Prop} :
    (p >>= f).wp log Q ↔ p.wp log fun value log => (f value).wp log Q := by
  induction p generalizing log with
  | done value => exact Iff.rfl
  | perform e next ih => exact forall_congr' fun reply => ih reply

theorem wp_mono {Q Q' : α → Log E R → Prop} (h : p.wp log Q)
    (himp : ∀ value log, Q value log → Q' value log) : p.wp log Q' :=
  wp_iff.mpr fun new value htraced => himp _ _ (wp_iff.mp h new value htraced)

end Prog

/-! ## Stateful programs that may raise -/

/-- A program over a state of its own, which it keeps when it raises. -/
abbrev Routine (E : Type) (R : E → Type) (σ ε α : Type) : Type :=
  ExceptT ε (StateT σ (Prog E R)) α

namespace Routine

/-- What must hold of the outcome, the state and the log after a routine. -/
def Ensures (c : Routine E R σ ε α) (s : σ) (log : Log E R)
    (Q : Except ε α → σ → Log E R → Prop) : Prop :=
  (c.run.run s).wp log fun result log => Q result.1 result.2 log

variable {c : Routine E R σ ε α} {s : σ} {log : Log E R} {Q Q' : Except ε α → σ → Log E R → Prop}

theorem ensures_iff : c.Ensures s log Q ↔
    ∀ new outcome s', Traced (c.run.run s) new (outcome, s') → Q outcome s' (log ++ new) := by
  refine Prog.wp_iff.trans ⟨fun h new outcome s' => h new (outcome, s'), fun h new result => ?_⟩
  exact h new result.1 result.2

theorem Ensures.mono (h : c.Ensures s log Q)
    (himp : ∀ outcome s log, Q outcome s log → Q' outcome s log) : c.Ensures s log Q' :=
  Prog.wp_mono h fun _ _ => himp _ _ _

theorem ensures_pure {value : α} :
    (pure value : Routine E R σ ε α).Ensures s log Q ↔ Q (.ok value) s log := Iff.rfl

theorem ensures_throw {e : ε} :
    (throw e : Routine E R σ ε α).Ensures s log Q ↔ Q (.error e) s log := Iff.rfl

theorem ensures_get {Q : Except ε σ → σ → Log E R → Prop} :
    (get : Routine E R σ ε σ).Ensures s log Q ↔ Q (.ok s) s log := Iff.rfl

theorem ensures_modify {f : σ → σ} {Q : Except ε PUnit → σ → Log E R → Prop} :
    (modify f : Routine E R σ ε PUnit).Ensures s log Q ↔ Q (.ok ⟨⟩) (f s) log := Iff.rfl

theorem ensures_bind {f : α → Routine E R σ ε β} {Q : Except ε β → σ → Log E R → Prop} :
    (c >>= f).Ensures s log Q ↔ c.Ensures s log fun outcome s log =>
      match outcome with
      | .ok value => (f value).Ensures s log Q
      | .error e => Q (.error e) s log := by
  unfold Ensures
  refine Prog.wp_bind.trans (iff_of_eq (congrArg _ ?_))
  funext result log
  rcases result with ⟨value | e, s⟩ <;> rfl

theorem ensures_tryCatch {f : ε → Routine E R σ ε α} :
    (tryCatch c f).Ensures s log Q ↔ c.Ensures s log fun outcome s log =>
      match outcome with
      | .ok value => Q (.ok value) s log
      | .error e => (f e).Ensures s log Q := by
  unfold Ensures
  refine Prog.wp_bind.trans (iff_of_eq (congrArg _ ?_))
  funext result log
  rcases result with ⟨value | e, s⟩ <;> rfl

/-- One effect. -/
def perform (e : E) : Routine E R σ ε (R e) := fun s => .perform e fun reply => .done (.ok reply, s)

theorem ensures_perform {e : E} {Q : Except ε (R e) → σ → Log E R → Prop} :
    (perform e : Routine E R σ ε (R e)).Ensures s log Q ↔
      ∀ reply, Q (.ok reply) s (log ++ [⟨e, reply⟩]) := Iff.rfl

/-- A result that is there already. -/
def ofExcept (outcome : Except ε α) : Routine E R σ ε α := fun s => .done (outcome, s)

theorem ensures_ofExcept {outcome : Except ε α} :
    (ofExcept outcome : Routine E R σ ε α).Ensures s log Q ↔ Q outcome s log := Iff.rfl

end Routine

end Library
