import Tally.Library.Interleaving

/-!
# What a program performs

A property of every effect that a program performs, whatever the replies. Sequences and handlers
of errors keep it, and where the contract of an effect asks for no more than such a property, a
program that has it is sound.
-/

set_option autoImplicit false

namespace Library.Prog

variable {E : Type} {R : E → Type} {α β ε : Type}

/-- Every effect of the program has a property. -/
inductive Within (P : E → Prop) : Prog E R α → Prop
  | done (value : α) : Within P (.done value)
  | perform {e : E} {next : R e → Prog E R α} (h : P e) (hnext : ∀ reply, Within P (next reply)) :
      Within P (.perform e next)

variable {P : E → Prop}

theorem Within.bind {p : Prog E R α} {f : α → Prog E R β} (h : Within P p)
    (hf : ∀ value, Within P (f value)) : Within P (p >>= f) := by
  induction h with
  | done value => exact hf value
  | perform h _ ih => exact .perform h ih

/-! ## Programs that may raise -/

theorem Within.pure (value : α) : Within P (Pure.pure value : ExceptT ε (Prog E R) α).run :=
  .done (Except.ok value)

theorem Within.throw (e : ε) : Within P (MonadExcept.throw e : ExceptT ε (Prog E R) α).run :=
  .done (Except.error e)

theorem Within.except_bind {p : ExceptT ε (Prog E R) α} {f : α → ExceptT ε (Prog E R) β}
    (h : Within P p.run) (hf : ∀ value, Within P (f value).run) : Within P (p >>= f).run := by
  refine Within.bind h fun r => ?_
  cases r with
  | ok value => exact hf value
  | error e => exact .done (Except.error e)

theorem Within.tryCatch {p : ExceptT ε (Prog E R) α} {f : ε → ExceptT ε (Prog E R) α}
    (h : Within P p.run) (hf : ∀ e, Within P (f e).run) :
    Within P (MonadExcept.tryCatch p f).run := by
  refine Within.bind h fun r => ?_
  cases r with
  | ok value => exact .done (Except.ok value)
  | error e => exact hf e

theorem Within.lift {e : E} (h : P e) :
    Within P (ExceptT.lift (Prog.call e) : ExceptT ε (Prog E R) (R e)).run :=
  .perform h fun reply => .done (Except.ok reply)

/-! ## Soundness -/

/-- What an effect promises by itself is what its contract asks. -/
theorem Within.sound {σ : Type} {inv : σ → Prop} {handle : (e : E) → σ → R e → σ → Prop}
    {rely : σ → σ → Prop} {contract : (e : E) → σ → R e → σ → Prop} {p : Prog E R α} {s : σ}
    (h : Within P p)
    (hcontract : ∀ e s r s', P e → handle e s r s' → contract e s r s') :
    Sound inv handle rely contract (fun _ _ => True) p s := by
  induction h generalizing s with
  | done value => exact .done trivial fun _ _ _ _ => trivial
  | perform h _ ih =>
      exact .perform (fun _ => True) trivial (fun _ _ _ _ => trivial)
        (fun s r s' _ _ hhandle => hcontract _ s r s' h hhandle) fun _ r _ _ _ _ => ih r

/-- What the others leave alone lasts over a program whose own effects the others may rely on. -/
theorem frame {σ : Type} {inv : σ → Prop} {handle : (e : E) → σ → R e → σ → Prop}
    {rely : σ → σ → Prop} {contract : (e : E) → σ → R e → σ → Prop} {Q : α → σ → Prop}
    {F : σ → Prop} {p : Prog E R α} {s : σ} (h : Sound inv handle rely contract Q p s)
    (hF : Stable rely F) (hown : ∀ e s r s', contract e s r s' → rely s s') (hs : F s) :
    Sound inv handle rely contract (fun value s => Q value s ∧ F s) p s := by
  induction h with
  | done h hstable => exact .done ⟨h, hs⟩ (hstable.and hF)
  | perform P h hstable hcontract _ ih =>
      refine .perform (fun s => P s ∧ F s) ⟨h, hs⟩ (hstable.and hF)
        (fun s r s' hinv hs hhandle => hcontract s r s' hinv hs.1 hhandle) ?_
      intro s r s' hinv hs hhandle
      have hrely := hown _ s r s' (hcontract s r s' hinv hs.1 hhandle)
      exact ih s r s' hinv hs.1 hhandle (hF s s' hs.2 hrely)

end Library.Prog
