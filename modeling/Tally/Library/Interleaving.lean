import Mathlib.Logic.Function.Basic
import Mathlib.Logic.Relation

/-!
# Interleaved programs

A program performs effects on a shared state and goes on with their replies. A pool runs
one program a thread, one effect at a time and in any order. A program is sound when every
effect it performs is within its contract, as long as the others keep to theirs. A pool of
sound programs keeps the shared invariant, and everything it performs is within contract.
-/

set_option autoImplicit false

namespace Library

/-- A program that has ended with a value, or that performs an effect and goes on with the
reply. -/
inductive Prog (E : Type) (R : E → Type) (α : Type) where
  | done (value : α)
  | perform (effect : E) (next : R effect → Prog E R α)

namespace Prog

variable {E : Type} {R : E → Type} {α β : Type}

def bind : Prog E R α → (α → Prog E R β) → Prog E R β
  | done value, f => f value
  | perform effect next, f => perform effect fun reply => (next reply).bind f

instance : Monad (Prog E R) where
  pure := done
  bind := bind

/-- One effect and its reply. -/
def call (effect : E) : Prog E R (R effect) := perform effect done

@[simp] theorem pure_eq (value : α) : (pure value : Prog E R α) = done value := rfl

@[simp] theorem done_bind (value : α) (f : α → Prog E R β) : done value >>= f = f value := rfl

@[simp] theorem perform_bind (effect : E) (next : R effect → Prog E R α) (f : α → Prog E R β) :
    perform effect next >>= f = perform effect fun reply => next reply >>= f := rfl

@[simp] theorem call_bind (effect : E) (f : R effect → Prog E R β) :
    call effect >>= f = perform effect f := rfl

end Prog

/-! ## Pools -/

/-- A shared state and the programs that run on it. -/
structure Pool (ι E : Type) (R : E → Type) (α σ : Type) where
  shared : σ
  threads : ι → Option (Prog E R α)

section Pools

variable {ι E : Type} {R : E → Type} {α σ : Type} [DecidableEq ι]

/-- A thread starts a program, performs the next effect of its program, or stops. -/
inductive Pool.Step (handle : ι → (e : E) → σ → R e → σ → Prop)
    (starts : ι → Prog E R α → σ → σ → Prop)
    (stops : ι → Prog E R α → σ → σ → Prop) (pool : Pool ι E R α σ) : Pool ι E R α σ → Prop
  | start (i : ι) (p : Prog E R α) (shared : σ) (hidle : pool.threads i = none)
      (hstarts : starts i p pool.shared shared) :
      Pool.Step handle starts stops pool ⟨shared, Function.update pool.threads i (some p)⟩
  | perform (i : ι) (e : E) (next : R e → Prog E R α) (reply : R e) (shared : σ)
      (hthread : pool.threads i = some (.perform e next))
      (hhandle : handle i e pool.shared reply shared) :
      Pool.Step handle starts stops pool
        ⟨shared, Function.update pool.threads i (some (next reply))⟩
  | stop (i : ι) (p : Prog E R α) (shared : σ) (hthread : pool.threads i = some p)
      (hstops : stops i p pool.shared shared) :
      Pool.Step handle starts stops pool ⟨shared, Function.update pool.threads i none⟩

/-- The pools that steps lead to from one in which nothing runs. -/
def Pool.Reaches (handle : ι → (e : E) → σ → R e → σ → Prop)
    (starts : ι → Prog E R α → σ → σ → Prop)
    (stops : ι → Prog E R α → σ → σ → Prop) (initial : σ) (pool : Pool ι E R α σ) : Prop :=
  Relation.ReflTransGen (Pool.Step handle starts stops) ⟨initial, fun _ => none⟩ pool

variable {handle : ι → (e : E) → σ → R e → σ → Prop} {starts : ι → Prog E R α → σ → σ → Prop}
  {stops : ι → Prog E R α → σ → σ → Prop} {initial : σ} {pool : Pool ι E R α σ}

theorem Pool.Reaches.start (h : Pool.Reaches handle starts stops initial pool) (i : ι)
    {p : Prog E R α} {shared : σ} (hidle : pool.threads i = none)
    (hstarts : starts i p pool.shared shared) :
    Pool.Reaches handle starts stops initial
      ⟨shared, Function.update pool.threads i (some p)⟩ :=
  h.tail (.start i p shared hidle hstarts)

theorem Pool.Reaches.perform (h : Pool.Reaches handle starts stops initial pool) (i : ι) (e : E)
    (reply : R e) (shared : σ) {next : R e → Prog E R α}
    (hthread : pool.threads i = some (.perform e next))
    (hhandle : handle i e pool.shared reply shared) :
    Pool.Reaches handle starts stops initial
      ⟨shared, Function.update pool.threads i (some (next reply))⟩ :=
  h.tail (.perform i e next reply shared hthread hhandle)

end Pools

/-! ## Soundness -/

/-- What holds stays while the others step. -/
def Stable {σ : Type} (rely : σ → σ → Prop) (P : σ → Prop) : Prop := ∀ s s', P s → rely s s' → P s'

section Sound

variable {E : Type} {R : E → Type} {α β σ : Type} {inv : σ → Prop}
  {handle : (e : E) → σ → R e → σ → Prop} {rely : σ → σ → Prop}
  {contract : (e : E) → σ → R e → σ → Prop}

/-- A program that keeps its contract from a state on and ends in a postcondition, whatever the
others do within what it relies on. -/
inductive Sound (inv : σ → Prop) (handle : (e : E) → σ → R e → σ → Prop) (rely : σ → σ → Prop)
    (contract : (e : E) → σ → R e → σ → Prop) (Q : α → σ → Prop) : Prog E R α → σ → Prop
  | done {value : α} {s : σ} (h : Q value s) (hstable : Stable rely (Q value)) :
      Sound inv handle rely contract Q (.done value) s
  | perform {e : E} {next : R e → Prog E R α} {s : σ} (P : σ → Prop) (h : P s)
      (hstable : Stable rely P)
      (hcontract : ∀ s r s', inv s → P s → handle e s r s' → contract e s r s')
      (hnext : ∀ s r s', inv s → P s → handle e s r s' →
        Sound inv handle rely contract Q (next r) s') :
      Sound inv handle rely contract Q (.perform e next) s

variable {Q : α → σ → Prop}

theorem Sound.stable {p : Prog E R α} {s s' : σ} (h : Sound inv handle rely contract Q p s)
    (hrely : rely s s') : Sound inv handle rely contract Q p s' := by
  cases h with
  | done h hstable => exact .done (hstable s s' h hrely) hstable
  | perform P h hstable hcontract hnext =>
      exact .perform P (hstable s s' h hrely) hstable hcontract hnext

theorem Sound.weaken {p : Prog E R α} {Q' : α → σ → Prop} {s : σ}
    (h : Sound inv handle rely contract Q p s)
    (hQ : ∀ value s, Q value s → Q' value s ∧ Stable rely (Q' value)) :
    Sound inv handle rely contract Q' p s := by
  induction h with
  | done h _ => exact .done (hQ _ _ h).1 (hQ _ _ h).2
  | perform P h hstable hcontract _ ih =>
      exact .perform P h hstable hcontract fun s r s' hinv hP hhandle => ih s r s' hinv hP hhandle

theorem Sound.bind {p : Prog E R α} {f : α → Prog E R β} {Q' : β → σ → Prop} {s : σ}
    (h : Sound inv handle rely contract Q p s)
    (hf : ∀ value s, Q value s → Sound inv handle rely contract Q' (f value) s) :
    Sound inv handle rely contract Q' (p >>= f) s := by
  induction h with
  | done h _ => exact hf _ _ h
  | perform P h hstable hcontract _ ih =>
      exact .perform P h hstable hcontract fun s r s' hinv hP hhandle => ih s r s' hinv hP hhandle

/-- A raised error ends in the postcondition, a value goes on. -/
theorem Sound.except_bind {ε : Type} {p : ExceptT ε (Prog E R) α} {f : α → ExceptT ε (Prog E R) β}
    {Q : Except ε α → σ → Prop} {Q' : Except ε β → σ → Prop} {s : σ}
    (h : Sound inv handle rely contract Q p.run s)
    (hok : ∀ value s, Q (.ok value) s → Sound inv handle rely contract Q' (f value).run s)
    (herror : ∀ e s, Q (.error e) s → Q' (.error e) s)
    (hstable : ∀ e, Stable rely (Q' (.error e))) :
    Sound inv handle rely contract Q' (p >>= f).run s := by
  refine Sound.bind h fun value s hvalue => ?_
  cases value with
  | ok value => exact hok value s hvalue
  | error e => exact .done (herror e s hvalue) (hstable e)

/-! Programs that may raise -/

/-- What holds after a program that may raise, and what holds of its value besides. -/
def Ends {ε : Type} (A : σ → Prop) (Q : α → σ → Prop) : Except ε α → σ → Prop
  | .ok value, s => A s ∧ Q value s
  | .error _, s => A s

theorem Stable.and {P P' : σ → Prop} (h : Stable rely P) (h' : Stable rely P') :
    Stable rely fun s => P s ∧ P' s :=
  fun s s' hs hrely => ⟨h s s' hs.1 hrely, h' s s' hs.2 hrely⟩

theorem Stable.ends {ε : Type} {A : σ → Prop} {Q : α → σ → Prop} (hA : Stable rely A)
    (hQ : ∀ value, Stable rely fun s => A s ∧ Q value s) (r : Except ε α) :
    Stable rely (Ends A Q r) := by
  cases r with
  | ok value => exact hQ value
  | error e => exact hA

section Raising

variable {ε : Type} {A : σ → Prop} {Q : α → σ → Prop} {Q' : β → σ → Prop} {s : σ}

theorem Sound.ends_bind {p : ExceptT ε (Prog E R) α} {f : α → ExceptT ε (Prog E R) β}
    (h : Sound inv handle rely contract (Ends A Q) p.run s) (hA : Stable rely A)
    (hf : ∀ value s, A s → Q value s → Sound inv handle rely contract (Ends A Q') (f value).run s) :
    Sound inv handle rely contract (Ends A Q') (p >>= f).run s :=
  Sound.except_bind h (fun value s hvalue => hf value s hvalue.1 hvalue.2) (fun _ _ hs => hs)
    fun _ => hA

theorem Sound.ended {r : Except ε α} (h : Ends A Q r s) (hA : Stable rely A)
    (hQ : ∀ value, Stable rely fun s => A s ∧ Q value s) :
    Sound inv handle rely contract (Ends A Q) (.done r : Prog E R (Except ε α)) s :=
  .done h (hA.ends hQ r)

theorem Sound.thrown {e : ε} (h : A s) (hA : Stable rely A) :
    Sound inv handle rely contract (Ends A Q) (throw e : ExceptT ε (Prog E R) α).run s :=
  .done h hA

theorem Sound.pure {value : α} (h : A s) (hQ : Q value s)
    (hstable : Stable rely fun s => A s ∧ Q value s) :
    Sound inv handle rely contract (Ends A Q) (Pure.pure value : ExceptT ε (Prog E R) α).run s :=
  .done ⟨h, hQ⟩ hstable

/-- An error goes to its handler. -/
theorem Sound.caught {p : ExceptT ε (Prog E R) α} {f : ε → ExceptT ε (Prog E R) α}
    (h : Sound inv handle rely contract (Ends A Q) p.run s)
    (hQ : ∀ value, Stable rely fun s => A s ∧ Q value s)
    (hf : ∀ e s, A s → Sound inv handle rely contract (Ends A Q) (f e).run s) :
    Sound inv handle rely contract (Ends A Q) (tryCatch p f).run s := by
  refine Sound.bind h fun r s hr => ?_
  cases r with
  | ok value => exact .done hr (hQ value)
  | error e => exact hf e s hr

/-- One effect that returns. -/
theorem Sound.effect {e : E} {Q : R e → σ → Prop} (P : σ → Prop) (h : P s) (hP : Stable rely P)
    (hcontract : ∀ s r s', inv s → P s → handle e s r s' → contract e s r s')
    (hpost : ∀ s r s', inv s → P s → handle e s r s' → A s' ∧ Q r s')
    (hQ : ∀ r, Stable rely fun s => A s ∧ Q r s) :
    Sound inv handle rely contract (Ends A Q)
      (ExceptT.lift (Prog.call e) : ExceptT ε (Prog E R) (R e)).run s :=
  .perform P h hP hcontract fun s r s' hinv hs hhandle =>
    .done (hpost s r s' hinv hs hhandle) (hQ r)

end Raising

/-- The next effect of a sound program is within its contract, and what follows is sound. -/
theorem Sound.next {e : E} {next : R e → Prog E R α} {s s' : σ} {r : R e}
    (h : Sound inv handle rely contract Q (.perform e next) s) (hinv : inv s)
    (hhandle : handle e s r s') :
    contract e s r s' ∧ Sound inv handle rely contract Q (next r) s' := by
  cases h with
  | perform P h _ hcontract hnext =>
      exact ⟨hcontract s r s' hinv h hhandle, hnext s r s' hinv h hhandle⟩

end Sound

/-! ## Pools of sound programs -/

section Discipline

variable {ι E : Type} {R : E → Type} {α σ : Type} [DecidableEq ι]

/-- What the threads of a pool keep to: an invariant of the shared state, what holds of a
thread that runs nothing, what a thread relies on and the contract of its effects. -/
structure Discipline (handle : ι → (e : E) → σ → R e → σ → Prop)
    (starts : ι → Prog E R α → σ → σ → Prop)
    (stops : ι → Prog E R α → σ → σ → Prop) where
  inv : σ → Prop
  idle : ι → σ → Prop
  rely : ι → σ → σ → Prop
  contract : ι → (e : E) → σ → R e → σ → Prop
  idle_stable : ∀ i, Stable (rely i) (idle i)
  others : ∀ i e s r s', inv s → contract i e s r s' → ∀ j, j ≠ i → rely j s s'
  kept : ∀ i e s r s', inv s → contract i e s r s' → inv s'
  started : ∀ i p s s', starts i p s s' → inv s → idle i s →
    inv s' ∧ Sound inv (handle i) (rely i) (contract i) (fun _ => idle i) p s' ∧
      ∀ j, j ≠ i → rely j s s'
  stopped : ∀ i p s s', stops i p s s' → inv s →
    Sound inv (handle i) (rely i) (contract i) (fun _ => idle i) p s →
      inv s' ∧ idle i s' ∧ ∀ j, j ≠ i → rely j s s'

variable {handle : ι → (e : E) → σ → R e → σ → Prop} {starts : ι → Prog E R α → σ → σ → Prop}
  {stops : ι → Prog E R α → σ → σ → Prop}

/-- A pool in which every thread is idle or runs a sound program. -/
structure Discipline.Governs (d : Discipline handle starts stops) (pool : Pool ι E R α σ) :
    Prop where
  inv : d.inv pool.shared
  idle : ∀ i, pool.threads i = none → d.idle i pool.shared
  sound : ∀ i p, pool.threads i = some p →
    Sound d.inv (handle i) (d.rely i) (d.contract i) (fun _ => d.idle i) p pool.shared

/-- A thread may change what it runs, and the state within what the others rely on. -/
theorem Discipline.Governs.update {d : Discipline handle starts stops} {pool : Pool ι E R α σ}
    (h : d.Governs pool) {i : ι} {thread : Option (Prog E R α)} {shared : σ} (hinv : d.inv shared)
    (hothers : ∀ j, j ≠ i → d.rely j pool.shared shared)
    (hidle : thread = none → d.idle i shared)
    (hsound : ∀ p, thread = some p →
      Sound d.inv (handle i) (d.rely i) (d.contract i) (fun _ => d.idle i) p shared) :
    d.Governs ⟨shared, Function.update pool.threads i thread⟩ := by
  refine ⟨hinv, fun j hj => ?_, fun j q hj => ?_⟩
  · by_cases hji : j = i
    · subst hji
      exact hidle ((Function.update_self j thread pool.threads).symm.trans hj)
    · have hold := h.idle j ((Function.update_of_ne hji thread pool.threads).symm.trans hj)
      exact d.idle_stable j _ _ hold (hothers j hji)
  · by_cases hji : j = i
    · subst hji
      exact hsound q ((Function.update_self j thread pool.threads).symm.trans hj)
    · have hold := h.sound j q ((Function.update_of_ne hji thread pool.threads).symm.trans hj)
      exact hold.stable (hothers j hji)

theorem Discipline.Governs.step {d : Discipline handle starts stops} {pool pool' : Pool ι E R α σ}
    (h : d.Governs pool) (hstep : pool.Step handle starts stops pool') : d.Governs pool' := by
  cases hstep with
  | start i p shared hidle hstarts =>
      obtain ⟨hinv, hsound, hothers⟩ := d.started i p _ _ hstarts h.inv (h.idle i hidle)
      refine h.update hinv hothers (fun hnone => nomatch hnone) ?_
      intro q hq
      obtain rfl := Option.some.inj hq
      exact hsound
  | perform i e next reply shared hthread hhandle =>
      obtain ⟨hcontract, hnext⟩ := (h.sound i _ hthread).next h.inv hhandle
      refine h.update (d.kept i e _ _ _ h.inv hcontract)
        (fun j hji => d.others i e _ _ _ h.inv hcontract j hji)
        (fun hnone => nomatch hnone) ?_
      intro q hq
      obtain rfl := Option.some.inj hq
      exact hnext
  | stop i p shared hthread hstops =>
      obtain ⟨hinv, hidle, hothers⟩ := d.stopped i p _ _ hstops h.inv (h.sound i p hthread)
      exact h.update hinv hothers (fun _ => hidle) (fun _ hq => nomatch hq)

/-- Whatever runs from an idle start is governed. -/
theorem Discipline.governs_of_reaches (d : Discipline handle starts stops) {initial : σ}
    (hinv : d.inv initial) (hidle : ∀ i, d.idle i initial) {pool : Pool ι E R α σ}
    (h : Pool.Reaches handle starts stops initial pool) : d.Governs pool := by
  induction h with
  | refl => exact ⟨hinv, fun i _ => hidle i, fun _ _ h => nomatch h⟩
  | tail _ hstep ih => exact ih.step hstep

omit [DecidableEq ι] in
/-- And whatever it performs next is within its contract. -/
theorem Discipline.Governs.contract {d : Discipline handle starts stops} {pool : Pool ι E R α σ}
    (h : d.Governs pool) {i : ι} {e : E} {next : R e → Prog E R α}
    (hthread : pool.threads i = some (.perform e next)) {reply : R e} {shared : σ}
    (hhandle : handle i e pool.shared reply shared) : d.contract i e pool.shared reply shared :=
  ((h.sound i _ hthread).next h.inv hhandle).1

end Discipline

/-! ## Pools with postconditions -/

section Conduct

variable {ι E : Type} {R : E → Type} {α σ : Type} [DecidableEq ι]

/-- What the threads of a pool keep to when the state does not tell them apart and each of them
has a postcondition: every step is one that all threads rely on. -/
structure Conduct (handle : ι → (e : E) → σ → R e → σ → Prop)
    (starts : ι → Prog E R α → σ → σ → Prop) (stops : ι → Prog E R α → σ → σ → Prop) where
  inv : σ → Prop
  rely : σ → σ → Prop
  contract : (e : E) → σ → R e → σ → Prop
  post : ι → α → σ → Prop
  rely_refl : ∀ s, rely s s
  rely_trans : ∀ a b c, rely a b → rely b c → rely a c
  others : ∀ e s r s', inv s → contract e s r s' → rely s s'
  kept : ∀ e s r s', inv s → contract e s r s' → inv s'
  started : ∀ i p s s', starts i p s s' →
    s' = s ∧ Sound inv (handle i) rely contract (post i) p s
  stopped : ∀ i p s s', stops i p s s' → s' = s

variable {handle : ι → (e : E) → σ → R e → σ → Prop} {starts : ι → Prog E R α → σ → σ → Prop}
  {stops : ι → Prog E R α → σ → σ → Prop}

/-- A pool in which every thread that runs is sound. -/
structure Conduct.Governs (c : Conduct handle starts stops) (pool : Pool ι E R α σ) : Prop where
  inv : c.inv pool.shared
  sound : ∀ i p, pool.threads i = some p →
    Sound c.inv (handle i) c.rely c.contract (c.post i) p pool.shared

theorem Conduct.Governs.update {c : Conduct handle starts stops} {pool : Pool ι E R α σ}
    (h : c.Governs pool) {i : ι} {thread : Option (Prog E R α)} {shared : σ}
    (hinv : c.inv shared) (hrely : c.rely pool.shared shared)
    (hsound : ∀ p, thread = some p →
      Sound c.inv (handle i) c.rely c.contract (c.post i) p shared) :
    c.Governs ⟨shared, Function.update pool.threads i thread⟩ := by
  refine ⟨hinv, fun j q hj => ?_⟩
  by_cases hji : j = i
  · subst hji
    exact hsound q ((Function.update_self j thread pool.threads).symm.trans hj)
  · have hold := h.sound j q ((Function.update_of_ne hji thread pool.threads).symm.trans hj)
    exact hold.stable hrely

/-- A step leaves the pool governed, and is one the threads rely on. -/
theorem Conduct.Governs.step {c : Conduct handle starts stops} {pool pool' : Pool ι E R α σ}
    (h : c.Governs pool) (hstep : pool.Step handle starts stops pool') :
    c.Governs pool' ∧ c.rely pool.shared pool'.shared := by
  cases hstep with
  | start i p shared hidle hstarts =>
      obtain ⟨rfl, hsound⟩ := c.started i p _ _ hstarts
      refine ⟨h.update h.inv (c.rely_refl _) ?_, c.rely_refl _⟩
      intro q hq
      obtain rfl := Option.some.inj hq
      exact hsound
  | perform i e next reply shared hthread hhandle =>
      obtain ⟨hcontract, hnext⟩ := (h.sound i _ hthread).next h.inv hhandle
      have hrely := c.others e _ _ _ h.inv hcontract
      refine ⟨h.update (c.kept e _ _ _ h.inv hcontract) hrely ?_, hrely⟩
      intro q hq
      obtain rfl := Option.some.inj hq
      exact hnext
  | stop i p shared hthread hstops =>
      obtain rfl := c.stopped i p _ _ hstops
      refine ⟨h.update h.inv (c.rely_refl _) ?_, c.rely_refl _⟩
      intro q hq
      exact absurd hq (by simp)

/-- Steps from a governed pool lead to one, and are what the threads rely on. -/
theorem Conduct.Governs.steps {c : Conduct handle starts stops} {pool pool' : Pool ι E R α σ}
    (h : c.Governs pool)
    (hsteps : Relation.ReflTransGen (Pool.Step handle starts stops) pool pool') :
    c.Governs pool' ∧ c.rely pool.shared pool'.shared := by
  induction hsteps with
  | refl => exact ⟨h, c.rely_refl _⟩
  | tail _ hstep ih =>
      obtain ⟨hgoverns, hrely⟩ := ih.1.step hstep
      exact ⟨hgoverns, c.rely_trans _ _ _ ih.2 hrely⟩

omit [DecidableEq ι] in
/-- Whatever starts with nothing running is governed. -/
theorem Conduct.governs_initial (c : Conduct handle starts stops) {initial : σ}
    (hinv : c.inv initial) : c.Governs ⟨initial, fun _ => none⟩ :=
  ⟨hinv, fun _ _ h => absurd h (by simp)⟩

omit [DecidableEq ι] in
/-- A thread that has ended has its postcondition. -/
theorem Conduct.Governs.ended {c : Conduct handle starts stops} {pool : Pool ι E R α σ}
    (h : c.Governs pool) {i : ι} {value : α} (hthread : pool.threads i = some (.done value)) :
    c.post i value pool.shared := by
  cases h.sound i _ hthread with
  | done hpost _ => exact hpost

end Conduct

end Library
