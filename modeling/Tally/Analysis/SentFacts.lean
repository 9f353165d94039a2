import Tally.Analysis.Deliveries
import Tally.Analysis.SealReadback

/-!
# What a delivered message says

A message the provider delivered is of a stored draft that passed its checks. A draft is made of
the facts of one seal, and the facts of a seal are those of the recommendation that was approved:
its type, its amounts, its currency and the dates of its days. So no run delivers an amount that
was not decided, approved and sealed, whatever was aborted, restarted or sent again.
-/

set_option autoImplicit false

namespace Tally.Analysis.SentFacts
open Library Library.Calendar Tally.Model AuthoritySealRepository CorrespondenceRepository Effects
  Pipeline Approvals Gates Deliveries SealReadback

/-! ## Packs and drafts -/

/-- A pack holds the facts of a seal and of the recommendation that was sealed. -/
structure FactsOf (db : Db) (pack : SealedFactPack) (s : DecisionSeal) (r : RecommendationRow) :
    Prop where
  seals : s ∈ db .decisionSeals
  recommendations : r ∈ db .recommendations
  decisionSealId : pack.decisionSealId = s.id
  recommendationId : s.recommendationId = r.id
  invoiceId : pack.invoiceId = s.invoiceId
  sealDigest : pack.sealDigest = s.sealDigest
  recommendationType : pack.recommendationType = r.recommendationType
  disputed : pack.disputedAmountMinor = r.disputedAmountMinor
  supported : pack.supportedAmountMinor = r.supportedAmountMinor
  currency : pack.currency = r.currency
  period : (pack.chargedPeriodStart, pack.chargedPeriodEnd) = chargePeriod db r.id

/-- A draft is made of a pack: what it is stored with, and when it is stored as validated. -/
structure MadeOf [CharacterTables] (pack : SealedFactPack) (d : CorrespondenceDraft) : Prop where
  invoiceId : d.invoiceId = pack.invoiceId
  decisionSealId : d.decisionSealId = pack.decisionSealId
  sealDigest : d.sealDigest = pack.sealDigest
  subject : d.subject = buildSubject pack
  validated : d.validationState = .validated ↔ (validateDraftProse pack d.bodyProse).ok = true

/-- The facts a pack is loaded with. -/
theorem loadSealedFactPack_facts {env : TxnEnv} {decisionSealId : Uuid} {pack : SealedFactPack}
    {db db' : Db} (h : loadSealedFactPack env decisionSealId db = .ok (pack, db')) :
    db' = db ∧ ∃ s r, FactsOf db pack s r := by
  unfold loadSealedFactPack at h
  dsimp only at h
  rw [Txn.bind_ok] at h
  obtain ⟨s, db₁, hselect, h⟩ := h
  obtain ⟨hseal, rfl⟩ := selectRow_ok.mp hselect
  cases s with
  | none => exact (Txn.raise_ok.mp h).elim
  | some s =>
      dsimp only at h
      rw [Txn.bind_ok] at h
      obtain ⟨r, db₁, hselect, h⟩ := h
      obtain ⟨hrec, rfl⟩ := selectRow_ok.mp hselect
      cases r with
      | none => exact (Txn.raise_ok.mp h).elim
      | some r =>
          have hsid : s.id = decisionSealId := by simpa using List.find?_some hseal
          have hrid : r.id = s.recommendationId := by simpa using List.find?_some hrec
          have hfacts (container invoiceNo ruleRef : String) : FactsOf db
              { invoiceId := s.invoiceId
                decisionSealId
                sealDigest := s.sealDigest
                recommendationType := r.recommendationType
                disputedAmountMinor := r.disputedAmountMinor
                supportedAmountMinor := r.supportedAmountMinor
                currency := r.currency
                chargedPeriodStart := (chargePeriod db s.recommendationId).1
                chargedPeriodEnd := (chargePeriod db s.recommendationId).2
                containerRef := container
                invoiceNo
                ruleRef } s r :=
            ⟨List.mem_of_find?_eq_some hseal, List.mem_of_find?_eq_some hrec, hsid.symm, hrid.symm,
              rfl, rfl, rfl, rfl, rfl, rfl, by rw [hrid]⟩
          dsimp only at h
          rw [Txn.bind_ok] at h
          obtain ⟨i, db₁, hinvoice, h⟩ := h
          obtain ⟨_, rfl⟩ := selectRow_ok.mp hinvoice
          cases i with
          | none => exact (Txn.raise_ok.mp h).elim
          | some i =>
              dsimp only at h
              rw [Txn.bind_ok] at h
              obtain ⟨rule, db₁, hrule, h⟩ := h
              obtain ⟨_, rfl⟩ := selectRow_ok.mp hrule
              rw [Txn.bind_ok] at h
              obtain ⟨rows, db₁, hrows, h⟩ := h
              obtain ⟨rfl, rfl⟩ := Txn.read_ok.mp hrows
              rw [Txn.bind_ok] at h
              obtain ⟨period, db₁, hperiod, h⟩ := h
              obtain ⟨rfl, rfl⟩ := Txn.read_ok.mp hperiod
              cases hrow : (fetchOne env (containerRows db s.invoiceId)).map fun c =>
                  containerText c.normalizedValue with
              | none =>
                  rw [hrow] at h
                  obtain ⟨rfl, rfl⟩ := Txn.pure_ok.mp h
                  exact ⟨rfl, s, r, hfacts _ _ _⟩
              | some container =>
                  rw [hrow] at h
                  cases container with
                  | error e => exact (Txn.raise_ok.mp h).elim
                  | ok text =>
                      obtain ⟨rfl, rfl⟩ := Txn.pure_ok.mp h
                      exact ⟨rfl, s, r, hfacts _ _ _⟩

/-- The locked fields of a pack do not drift from it. -/
theorem validateDraftLockedFields_self (pack : SealedFactPack) :
    (validateDraftLockedFields pack (lockedFields pack)).ok = true := by
  unfold validateDraftLockedFields
  dsimp only
  rw [if_neg (not_not.mpr rfl)]

section Steps

variable [Sha256] [TzDatabase] [CharacterTables] {w w' : World} {env : TxnEnv} {c : Call}

omit [Sha256] [TzDatabase] in
/-- A draft that is stored is made of its pack. -/
theorem draftFromSealed_made {pack : SealedFactPack} {bodyProse : String} {result : DraftResult}
    {db db' : Db} (h : draftFromSealed env pack bodyProse db = .ok (result, db')) :
    db' = db ∨ ∃ d, MadeOf pack d ∧ db' = db.modify .correspondenceDrafts (· ++ [d]) := by
  unfold draftFromSealed at h
  dsimp only at h
  rw [Txn.bind_ok] at h
  obtain ⟨existing, db₁, hselect, h⟩ := h
  obtain ⟨_, rfl⟩ := selectRow_ok.mp hselect
  cases existing with
  | some d =>
      obtain ⟨_, rfl⟩ := Txn.pure_ok.mp h
      exact Or.inl rfl
  | none =>
      dsimp only at h
      rw [Txn.bind_ok] at h
      obtain ⟨_, db₁, hinsert, h⟩ := h
      obtain ⟨_, rfl⟩ := Txn.pure_ok.mp h
      obtain ⟨_, _, rfl⟩ := insertRow_ok.mp hinsert
      refine Or.inr ⟨_, ⟨rfl, rfl, rfl, rfl, ?_⟩, rfl⟩
      dsimp only
      rw [validateDraftLockedFields_self]
      cases (validateDraftProse pack bodyProse).ok with
      | true => exact ⟨fun _ => rfl, fun _ => rfl⟩
      | false => exact ⟨fun hstate => absurd hstate (by decide), fun hok => absurd hok (by decide)⟩

/-- Only a draft of a loaded pack adds one. -/
theorem drafts_made (hstep : Transition w env c w') :
    w'.db .correspondenceDrafts = w.db .correspondenceDrafts ∨
      ∃ pack ∈ w.packs, ∃ d, MadeOf pack d ∧
        w'.db .correspondenceDrafts = w.db .correspondenceDrafts ++ [d] := by
  cases c with
  | draftFromSealed pack bodyProse =>
      cases hstep with
      | refused => exact Or.inl rfl
      | peripheral _ db hsame => exact Or.inl (hsame _ (by decide))
      | drafted _ _ r db hpack hok =>
          rcases draftFromSealed_made hok with rfl | ⟨d, hmade, rfl⟩
          · exact Or.inl rfl
          · refine Or.inr ⟨pack, hpack, d, hmade, ?_⟩
            show w.db.modify .correspondenceDrafts (· ++ [d]) .correspondenceDrafts = _
            rw [Store.modify_same]
  | _ => exact Or.inl (table_frame hstep rfl)

/-- The facts of a seal stay what they are. -/
theorem FactsOf.step {pack : SealedFactPack} {s : DecisionSeal} {r : RecommendationRow}
    (h : FactsOf w.db pack s r) (hstep : Transition w env c w') : FactsOf w'.db pack s r := by
  have hperiod : chargePeriod w'.db r.id = chargePeriod w.db r.id := by
    unfold chargePeriod
    rw [judgmentsOf_step h.recommendations hstep]
  exact ⟨seals_kept hstep s h.seals, recommendations_kept hstep r h.recommendations,
    h.decisionSealId, h.recommendationId, h.invoiceId, h.sealDigest, h.recommendationType,
    h.disputed, h.supported, h.currency, h.period.trans hperiod.symm⟩

/-- Packs and drafts hold the facts of seals. -/
structure Factual (w : World) : Prop where
  packs : ∀ pack ∈ w.packs, ∃ s r, FactsOf w.db pack s r
  drafts : ∀ d ∈ w.db .correspondenceDrafts, ∃ pack s r, MadeOf pack d ∧ FactsOf w.db pack s r

omit [Sha256] [TzDatabase] in
theorem factual_initial : Factual World.initial :=
  ⟨fun _ h => absurd h List.not_mem_nil, fun _ h => absurd h List.not_mem_nil⟩

theorem Factual.step (h : Factual w) (hstep : Transition w env c w') : Factual w' := by
  have hdrafts : ∀ d ∈ w.db .correspondenceDrafts, ∃ pack s r, MadeOf pack d ∧
      FactsOf w'.db pack s r := by
    intro d hd
    obtain ⟨pack, s, r, hmade, hfacts⟩ := h.drafts d hd
    exact ⟨pack, s, r, hmade, hfacts.step hstep⟩
  constructor
  · intro pack hpack
    rcases packs_step hstep pack hpack with hold | ⟨sealId, hok⟩
    · obtain ⟨s, r, hfacts⟩ := h.packs pack hold
      exact ⟨s, r, hfacts.step hstep⟩
    · obtain ⟨hdb, s, r, hfacts⟩ := loadSealedFactPack_facts hok
      rw [hdb]
      exact ⟨s, r, hfacts⟩
  · intro d hd
    rcases drafts_made hstep with hsame | ⟨pack, hpack, d', hmade, hrows⟩
    · rw [hsame] at hd
      exact hdrafts d hd
    · rw [hrows] at hd
      rcases List.mem_append.mp hd with hold | hnew
      · exact hdrafts d hold
      · obtain ⟨s, r, hfacts⟩ := h.packs pack hpack
        rw [List.mem_singleton.mp hnew]
        exact ⟨pack, s, r, hmade, hfacts.step hstep⟩

/-! ## Messages -/

/-- A delivered message is of a validated draft, under a key made of its seal. -/
def Sourced (db : Db) (m : SentMessage) : Prop :=
  ∃ d ∈ db .correspondenceDrafts, d.id = m.draftId ∧ d.validationState = .validated ∧
    ∃ attemptId, m.delivery.providerIdempotencyKey = providerKey attemptId d.sealDigest

omit [TzDatabase] [CharacterTables] in
theorem Sourced.kept {db db' : Db} {m : SentMessage} (h : Sourced db m)
    (hkept : ∀ d ∈ db .correspondenceDrafts, d ∈ db' .correspondenceDrafts) : Sourced db' m := by
  obtain ⟨d, hd, hrest⟩ := h
  exact ⟨d, hkept d hd, hrest⟩

omit [TzDatabase] [CharacterTables] in
/-- A run of a send closure delivers messages of validated drafts only, whether it commits or
not. -/
theorem sourced_send {request : SendRequest} {gateChecks : List (Gate × GateCheck)}
    (hfresh : FreshChecks gateChecks) (h : ∀ m ∈ w.sent, Sourced w.db m) (fail : Bool)
    (fate : Fate) : ∀ m ∈ (w.send env request gateChecks fail fate).1.sent,
      Sourced (w.send env request gateChecks fail fate).1.db m := by
  have hbefore : ∀ m ∈ sentMessages w env request gateChecks fail, Sourced w.db m := by
    intro m hm
    rcases sentMessages_cases w env request gateChecks fail with
      hnone | ⟨attemptId, invoiceId, handedOver, db', hready, d, hkey, hone⟩
    · rw [hnone] at hm
      exact h m hm
    · rw [hone] at hm
      rcases List.mem_append.mp hm with hold | hnew
      · exact h m hold
      · rw [List.mem_singleton.mp hnew]
        have hhands := handsOver_of_ready hready
        obtain ⟨draft, hdraft, hpermitted⟩ := hhands.reaches.permitted
        obtain ⟨draft', hdraft', _, hprovider⟩ := hhands.draft
        obtain rfl : draft = draft' := Option.some.inj (hdraft.symm.trans hdraft')
        have hid : draft.id = request.draftId := by simpa using List.find?_some hdraft
        exact ⟨draft, List.mem_of_find?_eq_some hdraft, hid,
          (permitted_computed hfresh hpermitted).2, env.uuid 0, hkey.trans hprovider⟩
  rcases send_cases w env request gateChecks fail fate with heq | ⟨r, db, _, _, hsends, heq⟩
  · rw [heq]
    exact hbefore
  · rw [heq]
    have hsame : db .correspondenceDrafts = w.db .correspondenceDrafts := by
      cases hsends with
      | replayed => rfl
      | blocked _ _ _ _ _ hsame => exact hsame _ (by decide)
      | replied _ _ _ _ _ _ hsame => exact hsame _ (by decide)
    intro m hm
    refine (hbefore m hm).kept fun d hd => ?_
    show d ∈ db .correspondenceDrafts
    rwa [hsame]

theorem sourced_step (h : ∀ m ∈ w.sent, Sourced w.db m) (hc : InjectsFresh w env c)
    (hstep : Transition w env c w') : ∀ m ∈ w'.sent, Sourced w'.db m := by
  have hkept := drafts_kept hstep
  have hsame (hsent : w'.sent = w.sent) : ∀ m ∈ w'.sent, Sourced w'.db m := by
    rw [hsent]
    exact fun m hm => (h m hm).kept hkept
  cases hstep with
  | sentSelected selection fail fate _ => exact sourced_send (freshChecks_build _ _ _) h fail fate
  | approvedAndSent request gateChecks fail fate => exact sourced_send hc h fail fate
  | _ => exact hsame rfl

end Steps

/-! ## In every run -/

/-- A message states the facts of a seal: its draft passed the checks of prose and gates, and was
made of the facts of an approved recommendation. -/
structure Supported [Sha256] [CharacterTables] (db : Db) (m : SentMessage)
    (d : CorrespondenceDraft) (pack : SealedFactPack) (s : DecisionSeal) (r : RecommendationRow)
    (a : Approval) : Prop where
  draft : d ∈ db .correspondenceDrafts ∧ d.id = m.draftId
  made : MadeOf pack d
  prose : (validateDraftProse pack d.bodyProse).ok = true
  facts : FactsOf db pack s r
  approved : a ∈ db .approvals ∧ SealedBy a s ∧ a.recommendationId = r.id
  key : ∃ attemptId, m.delivery.providerIdempotencyKey = providerKey attemptId s.sealDigest

section Runs

variable [Sha256] [TzDatabase] [CharacterTables] {allowed : World → TxnEnv → Call → Prop}
  {w : World}

theorem factual_of_run (h : Run allowed w) : Factual w :=
  h.invariant Factual factual_initial fun _ _ _ _ hinv _ hstep => hinv.step hstep

theorem sourced_of_run (h : Run InjectsFresh w) : ∀ m ∈ w.sent, Sourced w.db m :=
  h.invariant (fun w => ∀ m ∈ w.sent, Sourced w.db m) (fun _ hm => absurd hm List.not_mem_nil)
    fun _ _ _ _ hinv hc hstep => sourced_step hinv hc hstep

end Runs

section Case
open Sample

local instance : Sha256 := Sha256.standard
local instance : TzDatabase := zone
local instance : CharacterTables := ascii

theorem resent_selected : Makes (fun c => ∀ w env, SendsSelected w env c) resent := by
  have hunsent {script : Script} (h : Unsent script) :
      Makes (fun c => ∀ w env, SendsSelected w env c) script := by
    refine h.mono fun c hc w env => ?_
    cases c
    case approveAndSend => exact absurd (show true = false from hc) (by decide)
    all_goals trivial
  have hsent (fate : Fate) : Makes (fun c => ∀ w env, SendsSelected w env c) (sent fate) :=
    makes_cons (last_makes fun _ _ _ => trivial) makes_nil
  exact makes_append (makes_append (makes_append (makes_append (makes_append (makes_append
    (makes_append (hunsent withheld_unsent) (hunsent (approved_unsent _ _)))
      (hunsent (drafted_unsent _))) (hunsent (bound_unsent _)))
        (hunsent (reconstructed_unsent _ _))) (hunsent (selected_unsent _ _))) (hsent .aborted))
          (hsent .committed)

end Case

end Tally.Analysis.SentFacts
