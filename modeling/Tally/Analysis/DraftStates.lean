import Tally.Analysis.Frames

/-!
# Reported validation states

`draft_from_sealed` answers from two paths. A new draft is stored with the state its two
validations give it, and that state is returned; a seal that has a draft already is answered
VALIDATED, whatever state the draft was stored with. So along a sequence of calls on one seal the
answers are true exactly as long as no call finds a draft that was stored INVALID.
-/

set_option autoImplicit false

namespace Tally.Analysis.DraftStates
open Library Tally.Model CorrespondenceRepository Effects

/-! ## The table of drafts -/

/-- Drafts differ in their identifiers and in their seals. -/
def Distinct (db : Db) : Prop :=
  (db .correspondenceDrafts).Pairwise fun a b => a.id ≠ b.id ∧ a.decisionSealId ≠ b.decisionSealId

theorem distinct_initial : Distinct Db.empty := .nil

section Lookup

variable {db : Db} {a b : CorrespondenceDraft}

theorem Distinct.forall (h : Distinct db) (ha : a ∈ db .correspondenceDrafts)
    (hb : b ∈ db .correspondenceDrafts) (hne : a ≠ b) :
    a.id ≠ b.id ∧ a.decisionSealId ≠ b.decisionSealId := by
  have hsymm : Std.Symm fun a b : CorrespondenceDraft =>
      a.id ≠ b.id ∧ a.decisionSealId ≠ b.decisionSealId :=
    ⟨fun _ _ hxy => ⟨hxy.1.symm, hxy.2.symm⟩⟩
  exact List.Pairwise.forall h ha hb hne

theorem Distinct.eq_of_id (h : Distinct db) (ha : a ∈ db .correspondenceDrafts)
    (hb : b ∈ db .correspondenceDrafts) (heq : a.id = b.id) : a = b := by
  by_contra hne
  exact (h.forall ha hb hne).1 heq

theorem Distinct.eq_of_seal (h : Distinct db) (ha : a ∈ db .correspondenceDrafts)
    (hb : b ∈ db .correspondenceDrafts) (heq : a.decisionSealId = b.decisionSealId) : a = b := by
  by_contra hne
  exact (h.forall ha hb hne).2 heq

end Lookup

/-- What a call of `draft_from_sealed` did: it found the draft of its seal, or stored a new one in
the state it returns. -/
inductive Drafts (pack : SealedFactPack) (db : Db) : DraftResult → Db → Prop
  | replayed (d : CorrespondenceDraft) (hmem : d ∈ db .correspondenceDrafts)
      (hseal : d.decisionSealId = pack.decisionSealId) :
      Drafts pack db ⟨d.id, pack.sealDigest, .validated⟩ db
  | stored (d : CorrespondenceDraft) (hseal : d.decisionSealId = pack.decisionSealId)
      (hnew : ∀ d' ∈ db .correspondenceDrafts,
        d'.id ≠ d.id ∧ d'.decisionSealId ≠ d.decisionSealId) :
      Drafts pack db ⟨d.id, pack.sealDigest, d.validationState⟩
        (db.modify .correspondenceDrafts (· ++ [d]))

section Call

variable [CharacterTables] {env : TxnEnv} {pack : SealedFactPack} {bodyProse : String}
  {r : DraftResult} {db db' : Db}

omit [CharacterTables] in
/-- A row that goes in is the draft of its seal. -/
theorem drafts_of_insert (pack : SealedFactPack) {d : CorrespondenceDraft} {a : Unit}
    (hseal : d.decisionSealId = pack.decisionSealId)
    (h : insertRow .correspondenceDrafts d db = .ok (a, db')) :
    Drafts pack db ⟨d.id, pack.sealDigest, d.validationState⟩ db' := by
  obtain ⟨hfresh, _, rfl⟩ := insertRow_ok.mp h
  refine .stored d hseal ?_
  intro d' hd'
  have hconflict := hfresh d' hd'
  simp only [conflicts, decide_eq_false_iff_not, not_or] at hconflict
  exact ⟨fun heq => hconflict.1 heq.symm, fun heq => hconflict.2 heq.symm⟩

theorem drafts_of_call (h : draftFromSealed env pack bodyProse db = .ok (r, db')) :
    Drafts pack db r db' := by
  unfold draftFromSealed at h
  dsimp only at h
  rw [Txn.bind_ok] at h
  obtain ⟨existing, db₁, hselect, h⟩ := h
  obtain ⟨hfind, rfl⟩ := selectRow_ok.mp hselect
  cases existing with
  | some d =>
      obtain ⟨rfl, rfl⟩ := Txn.pure_ok.mp h
      exact .replayed d (List.mem_of_find?_eq_some hfind) (by simpa using List.find?_some hfind)
  | none =>
      dsimp only at h
      rw [Txn.bind_ok] at h
      obtain ⟨_, db₁, hinsert, h⟩ := h
      have hstored := drafts_of_insert pack rfl hinsert
      dsimp only at hstored
      obtain ⟨hr, rfl⟩ := Txn.pure_ok.mp h
      rw [← hr]
      exact hstored

omit [CharacterTables] in
theorem Distinct.drafts (h : Distinct db) (hdrafts : Drafts pack db r db') : Distinct db' := by
  cases hdrafts with
  | replayed d hmem hseal => exact h
  | stored d hseal hnew =>
      show ((db.modify .correspondenceDrafts (· ++ [d])) .correspondenceDrafts).Pairwise _
      rw [Store.modify_same]
      refine List.pairwise_append.mpr ⟨h, List.pairwise_singleton _ _, ?_⟩
      intro d' hd' e he
      obtain rfl := List.mem_singleton.mp he
      exact hnew d' hd'

end Call

/-- In every run the drafts are distinct. -/
theorem distinct_of_run [Sha256] [TzDatabase] [CharacterTables]
    {allowed : World → TxnEnv → Call → Prop} {w : World} (h : Run allowed w) : Distinct w.db := by
  refine h.invariant (fun w => Distinct w.db) distinct_initial ?_
  intro w env c w' hdistinct _ hstep
  cases c with
  | draftFromSealed pack bodyProse =>
      cases hstep with
      | refused => exact hdistinct
      | peripheral _ db hsame =>
          show ((db .correspondenceDrafts).Pairwise _)
          rw [hsame .correspondenceDrafts (by decide)]
          exact hdistinct
      | drafted _ _ r db hpack hok => exact hdistinct.drafts (drafts_of_call hok)
  | _ =>
      show ((w'.db .correspondenceDrafts).Pairwise _)
      rw [table_frame hstep rfl]
      exact hdistinct

/-! ## Sequences of calls -/

/-- One call of `draft_from_sealed`. -/
structure DraftCall where
  env : TxnEnv
  pack : SealedFactPack
  bodyProse : String

/-- What a call answers, with the databases before and after it. -/
structure Answer where
  before : Db
  result : DraftResult
  after : Db

/-- The answers along a sequence of calls; a call that raises answers nothing and is undone. -/
def answers [CharacterTables] (db : Db) : List DraftCall → List Answer
  | [] => []
  | call :: calls => match draftFromSealed call.env call.pack call.bodyProse db with
    | .error _ => answers db calls
    | .ok (result, after) => ⟨db, result, after⟩ :: answers after calls

/-- The answer returns the state of the stored draft it names, and never VALIDATED for a draft
that was stored INVALID before. -/
structure Truthful (a : Answer) : Prop where
  stored : ∃ d ∈ a.after .correspondenceDrafts, d.id = a.result.draftId
  state : ∀ d ∈ a.after .correspondenceDrafts, d.id = a.result.draftId →
    d.validationState = a.result.validationState
  invalid : ∀ d ∈ a.before .correspondenceDrafts, d.id = a.result.draftId →
    d.validationState = .invalid → a.result.validationState ≠ .validated

/-- The draft of the seal, if there is one, was stored VALIDATED. -/
def FoundValid (sealId : Uuid) (a : Answer) : Prop :=
  ∀ d ∈ a.before .correspondenceDrafts, d.decisionSealId = sealId → d.validationState = .validated

section Sequence

variable {pack : SealedFactPack} {r : DraftResult} {db db' : Db}

/-- One answer is true exactly when the draft it finds was stored VALIDATED. -/
theorem truthful_iff (hdistinct : Distinct db) (hdrafts : Drafts pack db r db') :
    Truthful ⟨db, r, db'⟩ ↔ FoundValid pack.decisionSealId ⟨db, r, db'⟩ := by
  have hafter := hdistinct.drafts hdrafts
  cases hdrafts with
  | replayed d hmem hseal =>
      constructor
      · intro htrue d' hd' hseal'
        obtain rfl := hdistinct.eq_of_seal hmem hd' (hseal.trans hseal'.symm)
        exact htrue.state d hmem rfl
      · intro hvalid
        have hstate : ∀ d' ∈ db .correspondenceDrafts, d'.id = d.id →
            d'.validationState = .validated := by
          intro d' hd' hid
          obtain rfl := hdistinct.eq_of_id hd' hmem hid
          exact hvalid d' hd' hseal
        refine ⟨⟨d, hmem, rfl⟩, hstate, ?_⟩
        intro d' hd' hid hinvalid
        rw [hstate d' hd' hid] at hinvalid
        exact absurd hinvalid (by decide)
  | stored d hseal hnew =>
      have hmem : d ∈ (db.modify .correspondenceDrafts (· ++ [d])) .correspondenceDrafts := by
        rw [Store.modify_same]
        exact List.mem_append_right _ (List.mem_singleton_self d)
      constructor
      · intro _ d' hd' hseal'
        exact absurd (hseal'.trans hseal.symm) (hnew d' hd').2
      · intro _
        refine ⟨⟨d, hmem, rfl⟩, ?_, ?_⟩
        · intro d' hd' hid
          rw [hafter.eq_of_id hd' hmem hid]
        · intro d' hd' hid
          exact absurd hid (hnew d' hd').1

/-- Along every sequence of calls on one seal the answers are true exactly when no call finds a
draft of the seal that was stored INVALID.
SOURCE: platform/correspondence_repository.py:136-217 -/
theorem answersTruthful_iff [CharacterTables] (hdistinct : Distinct db) {sealId : Uuid}
    {calls : List DraftCall} (hseal : ∀ call ∈ calls, call.pack.decisionSealId = sealId) :
    (∀ a ∈ answers db calls, Truthful a) ↔ ∀ a ∈ answers db calls, FoundValid sealId a := by
  induction calls generalizing db with
  | nil => simp [answers]
  | cons call calls ih =>
      have htail := fun call' hcall' => hseal call' (List.mem_cons_of_mem _ hcall')
      unfold answers
      cases hcall : draftFromSealed call.env call.pack call.bodyProse db with
      | error e => exact ih hdistinct htail
      | ok p =>
          obtain ⟨result, after⟩ := p
          have hdrafts := drafts_of_call hcall
          have hone := truthful_iff hdistinct hdrafts
          rw [hseal call List.mem_cons_self] at hone
          simp only [List.forall_mem_cons, hone, ih (hdistinct.drafts hdrafts) htail]

end Sequence

/-! ## A draft that is refused and asked for again -/

section Case

local instance caseCharacters : CharacterTables := Sample.ascii

/-- A sealed decision without a draft. -/
def sealedDb : Db := fun
  | .decisionSeals => [⟨2, 1, 3, 4, 1, none, 1, 5, "ann", 1, "sha256:00", "invoices/a.pdf@v1"⟩]
  | t => Db.empty t

/-- The facts of the seal. -/
def sealedPack : SealedFactPack :=
  { invoiceId := 1
    decisionSealId := 2
    sealDigest := "sha256:00"
    recommendationType := .dispute
    disputedAmountMinor := 5000
    supportedAmountMinor := 25000
    currency := "USD"
    chargedPeriodStart := "2026-06-10"
    chargedPeriodEnd := "2026-06-10"
    containerRef := "TLLU4829317"
    invoiceNo := "INV-1048"
    ruleRef := "4.2" }

/-- The request for the draft in the `n`-th second. -/
def drafting (n : Nat) (bodyProse : String) : DraftCall := ⟨Sample.env n, sealedPack, bodyProse⟩

theorem sealedDb_distinct : Distinct sealedDb := .nil

/-- A sound draft, asked for twice. -/
theorem answersTruthful_iff_sound :
    (∀ a ∈ answers sealedDb [drafting 1 "We dispute $50.00.", drafting 2 "We dispute $50.00."],
      Truthful a) ↔
    ∀ a ∈ answers sealedDb [drafting 1 "We dispute $50.00.", drafting 2 "We dispute $50.00."],
      FoundValid 2 a :=
  answersTruthful_iff sealedDb_distinct (by simp [drafting, sealedPack])

/-- A draft that names an amount of its own is stored INVALID and then answered VALIDATED. -/
theorem refused_then_validated :
    Distinct sealedDb ∧
      ¬∀ a ∈ answers sealedDb [drafting 1 "We dispute $99.00.", drafting 2 "We dispute $99.00."],
        Truthful a := by
  refine ⟨sealedDb_distinct, fun htrue => ?_⟩
  have hanswers : ∃ a ∈ answers sealedDb
      [drafting 1 "We dispute $99.00.", drafting 2 "We dispute $99.00."],
      ∃ d ∈ a.after .correspondenceDrafts, d.id = a.result.draftId ∧
        d.validationState = .invalid ∧ a.result.validationState = .validated := by
    decide +kernel
  obtain ⟨a, ha, d, hd, hid, hinvalid, hvalidated⟩ := hanswers
  have hstate := (htrue a ha).state d hd hid
  rw [hinvalid, hvalidated] at hstate
  exact absurd hstate (by decide)

end Case

end Tally.Analysis.DraftStates
