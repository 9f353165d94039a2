import Mathlib.Data.List.Induction
import Mathlib.Data.List.Perm.Subperm

/-!
# Repeating a log of actions

An interrupted program starts over and repeats actions it has already performed. Where a
repeated action changes nothing, the state depends only on the first occurrences, so any
history that performs a log in order and to its end leads to the same state.
-/

set_option autoImplicit false

namespace Library.Replay

variable {σ α : Type} [DecidableEq α]

/-- The state after a history of actions. -/
def after (exec : α → σ → σ) (init : σ) (history : List α) : σ :=
  history.foldl (fun state action => exec action state) init

/-- Performing again what a history has performed changes nothing. -/
def Repeatable (exec : α → σ → σ) (init : σ) (p : α → Prop) : Prop :=
  ∀ history : List α, (∀ action ∈ history, p action) → ∀ action ∈ history,
    exec action (after exec init history) = after exec init history

variable {exec : α → σ → σ} {init : σ} {p : α → Prop}

omit [DecidableEq α] in
theorem after_append (first second : List α) :
    after exec init (first ++ second) = after exec (after exec init first) second :=
  List.foldl_append

omit [DecidableEq α] in
theorem after_snoc (history : List α) (action : α) :
    after exec init (history ++ [action]) = exec action (after exec init history) := by
  rw [after_append]
  rfl

theorem eraseDups_snoc_of_mem {history : List α} {action : α} (h : action ∈ history) :
    (history ++ [action]).eraseDups = history.eraseDups := by
  have hnone : [action].removeAll history = [] := by
    simp [List.removeAll, h]
  rw [List.eraseDups_append, hnone, List.eraseDups_nil, List.append_nil]

theorem eraseDups_snoc_of_not_mem {history : List α} {action : α} (h : action ∉ history) :
    (history ++ [action]).eraseDups = history.eraseDups ++ [action] := by
  have hone : [action].removeAll history = [action] := by
    simp [List.removeAll, h]
  rw [List.eraseDups_append, hone]
  simp [List.eraseDups_cons]

theorem nodup_eraseDups (history : List α) : history.eraseDups.Nodup := by
  induction history using List.reverseRecOn with
  | nil => exact List.nodup_nil
  | append_singleton history action ih =>
      by_cases hmem : action ∈ history
      · rw [eraseDups_snoc_of_mem hmem]
        exact ih
      · rw [eraseDups_snoc_of_not_mem hmem]
        refine List.nodup_append.mpr ⟨ih, by simp, ?_⟩
        intro a ha b hb hab
        rw [List.mem_singleton.mp hb] at hab
        rw [hab] at ha
        exact hmem (List.mem_eraseDups.mp ha)

/-- The state depends on the first occurrences only. -/
theorem after_eraseDups (hrepeat : Repeatable exec init p) {history : List α}
    (h : ∀ action ∈ history, p action) :
    after exec init history.eraseDups = after exec init history := by
  induction history using List.reverseRecOn with
  | nil => rfl
  | append_singleton history action ih =>
      have hhistory : ∀ a ∈ history, p a := fun a ha => h a (List.mem_append_left _ ha)
      rw [after_snoc]
      by_cases hmem : action ∈ history
      · rw [eraseDups_snoc_of_mem hmem, ih hhistory, hrepeat history hhistory action hmem]
      · rw [eraseDups_snoc_of_not_mem hmem, after_snoc, ih hhistory]

/-- The history performs the log in order, with repetitions, up to some point. -/
def InOrder (log history : List α) : Prop := history.eraseDups <+: log.eraseDups

theorem inOrder_nil (log : List α) : InOrder log [] := by
  unfold InOrder
  rw [List.eraseDups_nil]
  exact List.nil_prefix

/-- One more action keeps the order if the log has nothing unperformed before it. -/
theorem InOrder.snoc {log history before rest : List α} {action : α}
    (h : InOrder log history) (hlog : log = before ++ action :: rest)
    (hbefore : ∀ a ∈ before, a ∈ history) : InOrder log (history ++ [action]) := by
  by_cases hmem : action ∈ history
  · unfold InOrder
    rw [eraseDups_snoc_of_mem hmem]
    exact h
  · have hnew : action ∉ before := fun hin => hmem (hbefore action hin)
    have hsplit : log.eraseDups =
        (before.eraseDups ++ [action]) ++ (rest.removeAll (before ++ [action])).eraseDups := by
      rw [hlog, List.append_cons, List.eraseDups_append, eraseDups_snoc_of_not_mem hnew]
    have hprefix : before.eraseDups ++ [action] <+: log.eraseDups := by
      rw [hsplit]
      exact List.prefix_append _ _
    -- both are prefixes, and the history is not the longer one: it lacks the action
    have hle : history.eraseDups <+: before.eraseDups := by
      rcases List.prefix_or_prefix_of_prefix h hprefix with hshort | hlong
      · rcases List.prefix_concat_iff.mp hshort with heq | hshort
        · have hin : action ∈ history.eraseDups := by
            rw [heq]
            exact List.mem_append_right _ List.mem_cons_self
          exact absurd (List.mem_eraseDups.mp hin) hmem
        · exact hshort
      · have hin : action ∈ history.eraseDups :=
          hlong.subset (List.mem_append_right _ List.mem_cons_self)
        exact absurd (List.mem_eraseDups.mp hin) hmem
    have hsubset : before.eraseDups ⊆ history.eraseDups := by
      intro a ha
      exact List.mem_eraseDups.mpr (hbefore a (List.mem_eraseDups.mp ha))
    have heq : history.eraseDups = before.eraseDups := by
      refine hle.eq_of_length_le ?_
      exact (List.subperm_of_subset (nodup_eraseDups before) hsubset).length_le
    unfold InOrder
    rw [eraseDups_snoc_of_not_mem hmem, heq]
    exact hprefix

/-- A history that performed the whole log has its first occurrences. -/
theorem InOrder.complete {log history : List α} (h : InOrder log history)
    (hall : ∀ a ∈ log, a ∈ history) : history.eraseDups = log.eraseDups := by
  refine h.eq_of_length_le ?_
  refine (List.subperm_of_subset (nodup_eraseDups log) ?_).length_le
  intro a ha
  exact List.mem_eraseDups.mpr (hall a (List.mem_eraseDups.mp ha))

/-- Two histories that performed the whole log in order end in the same state. -/
theorem after_complete (hrepeat : Repeatable exec init p) {log first second : List α}
    (hp : ∀ a ∈ first, p a) (hp' : ∀ a ∈ second, p a) (h : InOrder log first)
    (h' : InOrder log second) (hall : ∀ a ∈ log, a ∈ first) (hall' : ∀ a ∈ log, a ∈ second) :
    after exec init first = after exec init second := by
  calc after exec init first = after exec init first.eraseDups :=
        (after_eraseDups hrepeat hp).symm
    _ = after exec init second.eraseDups := by rw [h.complete hall, h'.complete hall']
    _ = after exec init second := after_eraseDups hrepeat hp'

end Library.Replay
