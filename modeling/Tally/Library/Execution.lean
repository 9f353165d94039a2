import Tally.Library.Interleaving

/-!
# Executed programs

A program run alone, where a world answers every effect: what it ends with and the world it
leaves. A sequence of programs runs one behind the other; a program that may raise goes on with
its value or ends with its error.
-/

set_option autoImplicit false

namespace Library.Prog

variable {E : Type} {R : E → Type} {α β σ ε : Type}

/-- What a program ends with and the state it leaves. -/
def exec (answer : (e : E) → σ → R e × σ) : Prog E R α → σ → α × σ
  | done value, s => (value, s)
  | perform effect next, s => exec answer (next (answer effect s).1) (answer effect s).2

variable (answer : (e : E) → σ → R e × σ)

theorem exec_bind (p : Prog E R α) (f : α → Prog E R β) (s : σ) :
    exec answer (p >>= f) s = exec answer (f (exec answer p s).1) (exec answer p s).2 := by
  induction p generalizing s with
  | done value => rfl
  | perform effect next ih => exact ih (answer effect s).1 (answer effect s).2

/-! ## Programs that may raise -/

/-- A value goes on. -/
theorem exec_except_bind_ok {p : ExceptT ε (Prog E R) α} {f : α → ExceptT ε (Prog E R) β}
    {s s' : σ} {value : α} (h : exec answer p.run s = (.ok value, s')) :
    exec answer (p >>= f).run s = exec answer (f value).run s' := by
  show exec answer (p.run >>= _) s = _
  rw [exec_bind, h]
  rfl

/-- An error ends the sequence. -/
theorem exec_except_bind_error {p : ExceptT ε (Prog E R) α} {f : α → ExceptT ε (Prog E R) β}
    {s s' : σ} {e : ε} (h : exec answer p.run s = (.error e, s')) :
    exec answer (p >>= f).run s = (.error e, s') := by
  show exec answer (p.run >>= _) s = _
  rw [exec_bind, h]
  rfl

/-- A value needs no handler. -/
theorem exec_tryCatch_ok {p : ExceptT ε (Prog E R) α} {f : ε → ExceptT ε (Prog E R) α}
    {s s' : σ} {value : α} (h : exec answer p.run s = (.ok value, s')) :
    exec answer (tryCatch p f).run s = (.ok value, s') := by
  show exec answer (p.run >>= _) s = _
  rw [exec_bind, h]
  rfl

/-- An error goes to its handler. -/
theorem exec_tryCatch_error {p : ExceptT ε (Prog E R) α} {f : ε → ExceptT ε (Prog E R) α}
    {s s' : σ} {e : ε} (h : exec answer p.run s = (.error e, s')) :
    exec answer (tryCatch p f).run s = exec answer (f e).run s' := by
  show exec answer (p.run >>= _) s = _
  rw [exec_bind, h]
  rfl

end Library.Prog
