import Tally.Analysis.Effects
import Tally.Model.CorrespondenceRepository
import Tally.Model.IntakeEvents

/-!
# What a seal, a draft, a send and a relay do

One lemma per operation of `authority_seal_repository.py` and
`correspondence_repository.py`, and the one statement of the outbox relay.
-/

set_option autoImplicit false

namespace Tally.Analysis.Effects
open Library Library.Calendar Tally.Model AuthoritySealRepository CorrespondenceRepository
  IntakeEvents
open Library.Schema (SameExcept sameExcept_refl sameExcept_trans sameExcept_modify)

/-! ## Approval and seal -/

/-- The response a fresh approval stores. -/
def sealedSnapshot [Sha256] (env : TxnEnv) (db : Db) (rec : RecommendationRow)
    (request : ApprovalRequest) : ApprovalSnapshot :=
  { sealId := env.uuid 1
    revision := nextRevision db rec.invoiceId
    sealDigest := sealDigest (buildSealManifest (sealInputs env db rec request)
      (nextRevision db rec.invoiceId))
    recommendationType := rec.recommendationType }

/-- The event row of a seal. -/
abbrev sealEvent (env : TxnEnv) (fields : EventFields) : InvoiceEvent :=
  fields.toRow env 2 "DECISION_ENGINE" "SEAL_DECISION" (some "CockroachDB transaction")

/-- The result of a call from the approval it stored or found. -/
def sealResult (approval : Approval) (alreadySealed : Bool) : SealResult :=
  let s := approval.responseSnapshot
  ⟨approval.id, s.sealId, s.revision, s.sealDigest, s.recommendationType, alreadySealed⟩

/-- A fresh approval with its seal, unless the recommendation has one already. -/
structure Seals [Sha256] (env : TxnEnv) (rec : RecommendationRow) (request : ApprovalRequest)
    (approval : Approval) (db db' : Db) : Prop where
  made : approval = approvalRow rec request (env.uuid 0) (sealedSnapshot env db rec request)
  approvals : db' .approvals = db .approvals ++ [approval]
  newApproval : ∀ a ∈ db .approvals, conflicts .approvals approval a = false
  seals : ((∃ s ∈ db .decisionSeals, s.recommendationId = rec.id) ∧
      db' .decisionSeals = db .decisionSeals) ∨
    (let s := sealRow rec request approval.id (sealInputs env db rec request)
      approval.responseSnapshot
    db' .decisionSeals = db .decisionSeals ++ [s] ∧
      ∀ s' ∈ db .decisionSeals, conflicts .decisionSeals s s' = false)
  emits : ∃ sequence, Emits env rec.invoiceId ⟨.readyForReconstruction, none, 1⟩
    [sealEvent env (decisionSealed rec
    approval.responseSnapshot.sealId approval.responseSnapshot.revision sequence)] db db'

def sealTables : List Table := [.approvals, .decisionSeals] ++ emitTables

theorem sealRecommendation_ok [Sha256] {env : TxnEnv} {rec : RecommendationRow}
    {request : ApprovalRequest} {r : SealResult} {db db' : Db}
    (h : sealRecommendation env rec request db = .ok (r, db')) :
    SameExcept sealTables db db' ∧
      ∃ approval, Seals env rec request approval db db' ∧ r = sealResult approval false := by
  unfold sealRecommendation at h
  rw [Txn.bind_ok] at h
  obtain ⟨inputs, db₁, hinputs, h⟩ := h
  obtain ⟨rfl, rfl⟩ := Txn.read_ok.mp hinputs
  rw [Txn.bind_ok] at h
  obtain ⟨revision, db₁, hrevision, h⟩ := h
  obtain ⟨rfl, rfl⟩ := Txn.read_ok.mp hrevision
  rw [Txn.bind_ok] at h
  obtain ⟨_, db₁, happroval, h⟩ := h
  rw [Txn.bind_ok] at h
  obtain ⟨_, db₂, hseal, h⟩ := h
  rw [Txn.bind_ok] at h
  obtain ⟨_, db₃, hadvance, h⟩ := h
  obtain ⟨rfl, rfl⟩ := Txn.pure_ok.mp h
  unfold advanceAndEmit at hadvance
  rw [Txn.bind_ok] at hadvance
  obtain ⟨sequence, db₄, hlock, hinsert⟩ := hadvance
  obtain ⟨hemits, hsame₃⟩ := emits_one env hlock hinsert ⟨rfl, rfl, rfl, rfl⟩
  have hsame₁ : SameExcept [.approvals] db db₁ := Schema.writes_insert (by simp) _ _ _ happroval
  have hsame₂ : SameExcept [.decisionSeals] db₁ db₂ :=
    Schema.writes_insertOrIgnore (by simp) _ _ _ hseal
  have hbefore : SameExcept [.approvals, .decisionSeals] db db₂ := by
    intro t ht
    simp only [List.mem_cons, List.not_mem_nil, or_false, not_or] at ht
    rw [hsame₂ t (by simp [ht]), hsame₁ t (by simp [ht])]
  obtain ⟨hfresh, _, hrows⟩ := insertRow_ok.mp happroval
  have hseals := hsame₁ .decisionSeals (by decide)
  refine ⟨?_, approvalRow rec request (env.uuid 0) (sealedSnapshot env db rec request),
    ⟨rfl, ?_, hfresh, ?_, sequence, ?_⟩, rfl⟩
  · intro t ht
    simp only [sealTables, List.mem_append, not_or] at ht
    rw [hsame₃ t ht.2, hbefore t ht.1]
  · rw [hsame₃ .approvals (by decide), hsame₂ .approvals (by decide), ← hrows, Store.modify_same]
    rfl
  · rcases insertOrIgnoreRow_ok.mp hseal with ⟨hany, rfl⟩ | ⟨_, hnew, _, hrows⟩
    · obtain ⟨s, hs, heq⟩ := List.any_eq_true.mp hany
      rw [hseals] at hs
      refine Or.inl ⟨⟨s, hs, (of_decide_eq_true heq).symm⟩, ?_⟩
      rw [hsame₃ .decisionSeals (by decide), hseals]
    · refine Or.inr ⟨?_, ?_⟩
      · rw [hsame₃ .decisionSeals (by decide), ← hrows, Store.modify_same, hseals]
        rfl
      · intro s' hs'
        exact hnew s' (by rwa [hseals])
  · exact hemits.within hbefore (untouched _) (by decide) (by decide)

/-- The approval under a key. -/
def approvalOf (db : Db) (idempotencyKey : String) : Option Approval :=
  (db .approvals).find? fun a => a.idempotencyKey = idempotencyKey

/-- A replayed approval, or a fresh one that passed the checks. -/
theorem approveAndSeal_ok [Sha256] {env : TxnEnv} {request : ApprovalRequest} {r : SealResult}
    {db db' : Db} (h : approveAndSeal env request db = .ok (r, db')) :
    SameExcept sealTables db db' ∧ ∃ rec approval,
      (db .recommendations).find? (fun x => x.id = request.recommendationId) = some rec ∧
      ((db' = db ∧ approvalOf db request.idempotencyKey = some approval ∧
          approval.requestHash = request.hash ∧ r = sealResult approval true) ∨
        ((∀ a ∈ db .approvals, a.idempotencyKey ≠ request.idempotencyKey) ∧
          isStale request.expectedVersion rec.version request.expectedDigest rec.digest = false ∧
          rec.state = "FROZEN" ∧ Seals env rec request approval db db' ∧
          r = sealResult approval false)) := by
  unfold approveAndSeal at h
  rw [Txn.bind_ok] at h
  obtain ⟨found, db₁, hselect, h⟩ := h
  obtain ⟨hfind, rfl⟩ := selectRow_ok.mp hselect
  cases found with
  | none => exact (Txn.raise_ok.mp h).elim
  | some rec =>
      dsimp only at h
      rw [Txn.bind_ok] at h
      obtain ⟨existing, db₁, hexisting, h⟩ := h
      obtain ⟨hkey, rfl⟩ := selectRow_ok.mp hexisting
      cases existing with
      | some approval =>
          rcases Txn.ite_ok.mp h with ⟨_, h⟩ | ⟨hhash, h⟩
          · exact (Txn.raise_ok.mp h).elim
          · obtain ⟨rfl, rfl⟩ := Txn.pure_ok.mp h
            exact ⟨sameExcept_refl _, rec, approval, hfind,
              Or.inl ⟨rfl, hkey, not_not.mp hhash, rfl⟩⟩
      | none =>
          rcases Txn.ite_ok.mp h with ⟨_, h⟩ | ⟨hstale, h⟩
          · exact (Txn.raise_ok.mp h).elim
          rcases Txn.ite_ok.mp h with ⟨_, h⟩ | ⟨hfrozen, h⟩
          · exact (Txn.raise_ok.mp h).elim
          obtain ⟨hsame, approval, hseals, hr⟩ := sealRecommendation_ok h
          refine ⟨hsame, rec, approval, hfind, Or.inr ⟨?_, by simpa using hstale,
            not_not.mp hfrozen, hseals, hr⟩⟩
          intro a ha
          simpa using List.find?_eq_none.mp hkey a ha

/-! ## Drafts -/

/-- A loaded pack is of a seal, and its container text, when one is read, is a
container claim of the seal's invoice. -/
theorem loadSealedFactPack_ok {env : TxnEnv} {decisionSealId : Uuid} {pack : SealedFactPack}
    {db db' : Db} (h : loadSealedFactPack env decisionSealId db = .ok (pack, db')) :
    db' = db ∧ pack.decisionSealId = decisionSealId ∧
      ∃ s ∈ db .decisionSeals, s.id = decisionSealId ∧ pack.invoiceId = s.invoiceId ∧
        pack.sealDigest = s.sealDigest ∧
        ((containerRows db s.invoiceId = [] ∧ pack.containerRef = "UNKNOWN") ∨
          ∃ c ∈ containerRows db s.invoiceId,
            containerText c.normalizedValue = .ok pack.containerRef) := by
  unfold loadSealedFactPack at h
  dsimp only at h
  rw [Txn.bind_ok] at h
  obtain ⟨s, db₁, hseal, h⟩ := h
  obtain ⟨hfind, rfl⟩ := selectRow_ok.mp hseal
  cases s with
  | none => exact (Txn.raise_ok.mp h).elim
  | some s =>
      dsimp only at h
      rw [Txn.bind_ok] at h
      obtain ⟨r, db₁, hrec, h⟩ := h
      obtain ⟨_, rfl⟩ := selectRow_ok.mp hrec
      cases r with
      | none => exact (Txn.raise_ok.mp h).elim
      | some r =>
          dsimp only at h
          rw [Txn.bind_ok] at h
          obtain ⟨i, db₁, hinvoice, h⟩ := h
          obtain ⟨_, rfl⟩ := selectRow_ok.mp hinvoice
          cases i with
          | none => exact (Txn.raise_ok.mp h).elim
          | some i =>
              dsimp only at h
              rw [Txn.bind_ok] at h
              obtain ⟨rule, db₁, hrule, h⟩ := h
              obtain ⟨_, rfl⟩ := selectRow_ok.mp hrule
              rw [Txn.bind_ok] at h
              obtain ⟨rows, db₁, hrows, h⟩ := h
              obtain ⟨rfl, rfl⟩ := Txn.read_ok.mp hrows
              rw [Txn.bind_ok] at h
              obtain ⟨period, db₁, hperiod, h⟩ := h
              obtain ⟨_, rfl⟩ := Txn.read_ok.mp hperiod
              have hmem := List.mem_of_find?_eq_some hfind
              have hid : s.id = decisionSealId := by simpa using List.find?_some hfind
              cases hrow : fetchOne env (containerRows db s.invoiceId) with
              | none =>
                  rw [hrow] at h
                  obtain ⟨rfl, rfl⟩ := Txn.pure_ok.mp h
                  refine ⟨rfl, rfl, s, hmem, hid, rfl, rfl, Or.inl ⟨?_, rfl⟩⟩
                  unfold fetchOne at hrow
                  rw [List.getElem?_eq_none_iff] at hrow
                  by_contra hne
                  exact absurd (Nat.mod_lt env.choice (List.length_pos_of_ne_nil hne)) (by omega)
              | some c =>
                  rw [hrow] at h
                  simp only [Option.map_some] at h
                  cases htext : containerText c.normalizedValue with
                  | error e =>
                      rw [htext] at h
                      exact (Txn.raise_ok.mp h).elim
                  | ok text =>
                      rw [htext] at h
                      obtain ⟨rfl, rfl⟩ := Txn.pure_ok.mp h
                      exact ⟨rfl, rfl, s, hmem, hid, rfl, rfl,
                        Or.inr ⟨c, List.mem_of_getElem? hrow, htext⟩⟩

/-- A draft of the seal exists already, or one is appended. -/
theorem draftFromSealed_ok [CharacterTables] {env : TxnEnv} {pack : SealedFactPack}
    {bodyProse : String} {r : DraftResult} {db db' : Db}
    (h : draftFromSealed env pack bodyProse db = .ok (r, db')) :
    (db' = db ∧ ∃ d ∈ db .correspondenceDrafts, d.decisionSealId = pack.decisionSealId) ∨
      ∃ d, d.invoiceId = pack.invoiceId ∧ d.decisionSealId = pack.decisionSealId ∧
        d.createdAt = env.now ∧ (∀ d' ∈ db .correspondenceDrafts, d'.id ≠ d.id ∧
          d'.decisionSealId ≠ pack.decisionSealId) ∧
        db' = db.modify .correspondenceDrafts (· ++ [d]) := by
  unfold draftFromSealed at h
  dsimp only at h
  rw [Txn.bind_ok] at h
  obtain ⟨existing, db₁, hselect, h⟩ := h
  obtain ⟨hfind, rfl⟩ := selectRow_ok.mp hselect
  cases existing with
  | some d =>
      obtain ⟨_, rfl⟩ := Txn.pure_ok.mp h
      exact Or.inl ⟨rfl, d, List.mem_of_find?_eq_some hfind, by simpa using List.find?_some hfind⟩
  | none =>
      dsimp only at h
      rw [Txn.bind_ok] at h
      obtain ⟨_, db₁, hinsert, h⟩ := h
      obtain ⟨_, rfl⟩ := Txn.pure_ok.mp h
      obtain ⟨hfresh, _, rfl⟩ := insertRow_ok.mp hinsert
      refine Or.inr ⟨_, rfl, rfl, rfl, ?_, rfl⟩
      intro d' hd'
      have hconflict := hfresh d' hd'
      simp only [conflicts, decide_eq_false_iff_not, not_or] at hconflict
      exact ⟨fun heq => hconflict.1 heq.symm, fun heq => hconflict.2 heq.symm⟩

/-! ## Sends -/

/-- The event row of a send. -/
abbrev sendEventRow (env : TxnEnv) (fields : EventFields) : InvoiceEvent :=
  fields.toRow env 1 "CORRESPONDENCE_AGENT" "SEND_CORRESPONDENCE" (some "Controlled mail provider")

theorem emitSendEvent_ok {env : TxnEnv} {invoiceId : Uuid} {outcome : SendState}
    {publicError messageId : Option String} {a : Unit} {db db' : Db}
    (h : emitSendEvent env 1 invoiceId outcome publicError messageId db = .ok (a, db')) :
    SameExcept emitTables db db' ∧ ∃ status sequence, Emits env invoiceId ⟨.readyForReconstruction, none, 1⟩
      [sendEventRow env (sendRecorded invoiceId outcome status publicError messageId sequence)]
      db db' := by
  unfold emitSendEvent at h
  rw [Txn.bind_ok] at h
  obtain ⟨current, db₁, hselect, h⟩ := h
  obtain ⟨_, rfl⟩ := selectRow_ok.mp hselect
  rw [Txn.bind_ok] at h
  obtain ⟨sequence, db₁, hlock, hinsert⟩ := h
  obtain ⟨hemits, hsame⟩ := emits_one env hlock hinsert ⟨rfl, rfl, rfl, rfl⟩
  exact ⟨hsame, _, sequence, hemits⟩

/-- The gate run of a result. -/
def gateRunRow (env : TxnEnv) (attemptId : Uuid) (index : Nat) (result : GateResult) : SendGateRun :=
  { id := env.uuid (3 + index)
    sendAttemptId := attemptId
    gateCode := result.gateCode
    gateState := result.state
    detail := result.detail }

/-- The decision a send makes on what its gates see. -/
def sendDecision (db : Db) (draft : CorrespondenceDraft) (request : SendRequest)
    (gateChecks : List (Gate × GateCheck)) : SendDecision :=
  evaluateSendGates (gateResults db draft request.secondApproverDisplay gateChecks)

/-- A new attempt of a draft with the gate runs of its decision. -/
structure Attempts [Sha256] (env : TxnEnv) (request : SendRequest)
    (gateChecks : List (Gate × GateCheck)) (draft : CorrespondenceDraft) (row : SendAttempt)
    (db db' : Db) : Prop where
  found : (db .correspondenceDrafts).find? (fun d => d.id = request.draftId) = some draft
  newKey : ∀ a ∈ db .sendAttempts, a.idempotencyKey ≠ request.idempotencyKey
  newId : ∀ a ∈ db .sendAttempts, a.id ≠ env.uuid 0
  attempts : db' .sendAttempts = db .sendAttempts ++ [row]
  runs : db' .sendGateRuns = db .sendGateRuns ++
    (sendDecision db draft request gateChecks).gateResults.zipIdx.map fun p =>
      gateRunRow env (env.uuid 0) p.2 p.1

def attemptTables : List Table := [.sendAttempts, .sendGateRuns]

def sendTables : List Table := attemptTables ++ emitTables

theorem insertAttempt_ok {env : TxnEnv} {attempt : SendAttempt} {runs : List GateResult} {a : Unit}
    {db db' : Db} (h : insertAttempt env attempt runs db = .ok (a, db')) :
    (∀ a ∈ db .sendAttempts, a.id ≠ attempt.id) ∧
      db' .sendAttempts = db .sendAttempts ++ [attempt] ∧
      (db' .sendGateRuns = db .sendGateRuns ++ runs.zipIdx.map fun p =>
        gateRunRow env attempt.id p.2 p.1) ∧
      SameExcept attemptTables db db' := by
  unfold insertAttempt at h
  rw [Txn.bind_ok] at h
  obtain ⟨_, db₁, hinsert, hruns⟩ := h
  obtain ⟨hfresh, _, rfl⟩ := insertRow_ok.mp hinsert
  obtain ⟨hrows, hsame⟩ := forEach_insertRow_ok hruns
  refine ⟨?_, ?_, ?_, ?_⟩
  · intro a ha
    have hconflict := hfresh a ha
    simp only [conflicts, decide_eq_false_iff_not, not_or] at hconflict
    exact fun heq => hconflict.2.1 heq.symm
  · rw [hsame .sendAttempts (by decide), Store.modify_same]
  · rw [hrows, Store.modify_of_ne _ _ (by decide)]
    rfl
  · intro t ht
    simp only [attemptTables, List.mem_cons, List.not_mem_nil, or_false, not_or] at ht
    rw [hsame t (by simp [ht]), Store.modify_of_ne _ _ (by simp [ht])]

/-- The result of a send the key already answered. -/
def replayedSend (a : SendAttempt) : SendResult :=
  ⟨a.id, a.sendState, a.gateState, a.providerMessageId, a.blockedReason, true⟩

/-- What the closure did up to the provider: found the attempt of the key,
recorded a blocked attempt, or got ready to hand over. -/
inductive Prepares [Sha256] (env : TxnEnv) (request : SendRequest)
    (gateChecks : List (Gate × GateCheck)) (db : Db) : Prepared → Db → Prop
  | replayed (draft : CorrespondenceDraft) (a : SendAttempt)
      (hdraft : (db .correspondenceDrafts).find? (fun d => d.id = request.draftId) = some draft)
      (hmem : a ∈ db .sendAttempts) (hkey : a.idempotencyKey = request.idempotencyKey)
      (hhash : a.requestHash = sendRequestHash draft.id draft.sealDigest) :
      Prepares env request gateChecks db (.finished (replayedSend a)) db
  | blocked (draft : CorrespondenceDraft) (db' : Db)
      (hpermitted : (sendDecision db draft request gateChecks).permitted = false)
      (hattempts : Attempts env request gateChecks draft (attemptRow (env.uuid 0) request draft
        (sendDecision db draft request gateChecks)) db db')
      (hsame : SameExcept sendTables db db')
      (hemits : ∃ status sequence, Emits env draft.invoiceId ⟨.readyForReconstruction, none, 1⟩
        [sendEventRow env (sendRecorded
        draft.invoiceId .sendBlocked status (sendDecision db draft request gateChecks).blockedReason
        none sequence)] db db') :
      Prepares env request gateChecks db (.finished ⟨env.uuid 0, .sendBlocked, .blocked, none,
        (sendDecision db draft request gateChecks).blockedReason, false⟩) db'
  | ready (draft : CorrespondenceDraft) (db' : Db)
      (hpermitted : (sendDecision db draft request gateChecks).permitted = true)
      (hattempts : Attempts env request gateChecks draft (attemptRow (env.uuid 0) request draft
        (sendDecision db draft request gateChecks)) db db')
      (hsame : SameExcept attemptTables db db') :
      Prepares env request gateChecks db (.ready (env.uuid 0) draft.invoiceId
        { providerIdempotencyKey := providerKey (env.uuid 0) draft.sealDigest
          subject := draft.subject
          body := draft.bodyProse
          recipientClass }) db'

theorem prepareSend_ok [Sha256] {env : TxnEnv} {request : SendRequest}
    {gateChecks : List (Gate × GateCheck)} {p : Prepared} {db db' : Db}
    (h : prepareSend env request gateChecks db = .ok (p, db')) :
    Prepares env request gateChecks db p db' := by
  unfold prepareSend at h
  rw [Txn.bind_ok] at h
  obtain ⟨found, db₁, hselect, h⟩ := h
  obtain ⟨hfind, rfl⟩ := selectRow_ok.mp hselect
  cases found with
  | none => exact (Txn.raise_ok.mp h).elim
  | some draft =>
      dsimp only at h
      rw [Txn.bind_ok] at h
      obtain ⟨existing, db₁, hexisting, h⟩ := h
      obtain ⟨hkey, rfl⟩ := selectRow_ok.mp hexisting
      cases existing with
      | some a =>
          rcases Txn.ite_ok.mp h with ⟨_, h⟩ | ⟨hhash, h⟩
          · exact (Txn.raise_ok.mp h).elim
          · obtain ⟨rfl, rfl⟩ := Txn.pure_ok.mp h
            exact .replayed draft a hfind (List.mem_of_find?_eq_some hkey)
              (by simpa using List.find?_some hkey) (not_not.mp hhash)
      | none =>
          unfold prepareAttempt at h
          dsimp only at h
          rw [Txn.bind_ok] at h
          obtain ⟨decision, db₁, hdecision, h⟩ := h
          obtain ⟨rfl, rfl⟩ := Txn.read_ok.mp hdecision
          rw [Txn.bind_ok] at h
          obtain ⟨_, db₁, hattempt, h⟩ := h
          obtain ⟨hnew, hrows, hruns, hsame⟩ := insertAttempt_ok hattempt
          have hnewKey : ∀ a ∈ db .sendAttempts, a.idempotencyKey ≠ request.idempotencyKey := by
            intro a ha
            simpa using List.find?_eq_none.mp hkey a ha
          rcases Txn.ite_ok.mp h with ⟨hpermitted, h⟩ | ⟨hpermitted, h⟩
          · obtain ⟨rfl, rfl⟩ := Txn.pure_ok.mp h
            exact .ready draft _ hpermitted ⟨hfind, hnewKey, hnew, hrows, hruns⟩ hsame
          · rw [Txn.bind_ok] at h
            obtain ⟨_, db₂, hevent, h⟩ := h
            obtain ⟨rfl, rfl⟩ := Txn.pure_ok.mp h
            obtain ⟨hsame₂, status, sequence, hemits⟩ := emitSendEvent_ok hevent
            refine .blocked draft _ (Bool.not_eq_true _ ▸ hpermitted) ⟨hfind, hnewKey, hnew, ?_, ?_⟩ ?_
              ⟨status, sequence, hemits.within hsame (untouched _) (by decide)
                (by decide)⟩
            · rw [hsame₂ .sendAttempts (by decide), hrows]
              rfl
            · rw [hsame₂ .sendGateRuns (by decide), hruns]
              rfl
            · intro t ht
              simp only [sendTables, List.mem_append, not_or] at ht
              rw [hsame₂ t ht.2, hsame t ht.1]

/-- An attempt row with the provider's reply. -/
def repliedAttempt (reply : Except ControlledSendError ControlledSendReceipt) (a : SendAttempt) :
    SendAttempt :=
  match reply with
  | .error e => { a with sendState := .sendFailedRetryable, blockedReason := some e.text }
  | .ok receipt => { a with sendState := .sent, providerMessageId := some receipt.providerMessageId }

section Replied

variable (reply : Except ControlledSendError ControlledSendReceipt) (a : SendAttempt)

@[simp] theorem repliedAttempt_id : (repliedAttempt reply a).id = a.id := by
  cases reply <;> rfl

@[simp] theorem repliedAttempt_draftId : (repliedAttempt reply a).draftId = a.draftId := by
  cases reply <;> rfl

@[simp] theorem repliedAttempt_invoiceId : (repliedAttempt reply a).invoiceId = a.invoiceId := by
  cases reply <;> rfl

@[simp] theorem repliedAttempt_idempotencyKey :
    (repliedAttempt reply a).idempotencyKey = a.idempotencyKey := by
  cases reply <;> rfl

@[simp] theorem repliedAttempt_requestHash :
    (repliedAttempt reply a).requestHash = a.requestHash := by
  cases reply <;> rfl

@[simp] theorem repliedAttempt_providerIdempotencyKey :
    (repliedAttempt reply a).providerIdempotencyKey = a.providerIdempotencyKey := by
  cases reply <;> rfl

@[simp] theorem repliedAttempt_secondApproverDisplay :
    (repliedAttempt reply a).secondApproverDisplay = a.secondApproverDisplay := by
  cases reply <;> rfl

end Replied

/-- The result of a send whose attempt was blocked. -/
def blockedResult (attemptId : Uuid) (decision : SendDecision) : SendResult :=
  ⟨attemptId, .sendBlocked, .blocked, none, decision.blockedReason, false⟩

/-- The result of a send the provider replied to. -/
def repliedResult (attemptId : Uuid) (reply : Except ControlledSendError ControlledSendReceipt) :
    SendResult :=
  match reply with
  | .error e => ⟨attemptId, .sendFailedRetryable, .passed, none, some e.text, false⟩
  | .ok receipt =>
    ⟨attemptId, .sent, .passed, some receipt.providerMessageId, none, receipt.duplicate⟩

/-- The fields of the event of a reply. -/
def replyRecorded (invoiceId : Uuid) (reply : Except ControlledSendError ControlledSendReceipt)
    (status : InvoiceStatus) (sequence : Nat) : EventFields :=
  match reply with
  | .error e => sendRecorded invoiceId .sendFailedRetryable status (some e.text) none sequence
  | .ok receipt =>
    sendRecorded invoiceId .sent status none (some receipt.providerMessageId) sequence

theorem recordSend_ok {env : TxnEnv} {attemptId invoiceId : Uuid}
    {reply : Except ControlledSendError ControlledSendReceipt} {r : SendResult} {db db' : Db}
    (h : recordSend env attemptId invoiceId reply db = .ok (r, db')) :
    db' .sendAttempts = (db .sendAttempts).map (fun a =>
        if a.id = attemptId then repliedAttempt reply a else a) ∧
      SameExcept (.sendAttempts :: emitTables) db db' ∧ r = repliedResult attemptId reply ∧
      ∃ status sequence, Emits env invoiceId ⟨.readyForReconstruction, none, 1⟩
        [sendEventRow env (replyRecorded invoiceId reply status sequence)] db db' := by
  unfold recordSend at h
  cases reply with
  | error e =>
      dsimp only at h
      rw [Txn.bind_ok] at h
      obtain ⟨_, db₁, hupdate, h⟩ := h
      rw [Txn.bind_ok] at h
      obtain ⟨_, db₂, hevent, h⟩ := h
      obtain ⟨rfl, rfl⟩ := Txn.pure_ok.mp h
      obtain ⟨hsame₂, status, sequence, hemits⟩ := emitSendEvent_ok hevent
      have hsame₁ : SameExcept [.sendAttempts] db db₁ := Schema.writes_update (by simp) _ _ _ hupdate
      refine ⟨?_, ?_, rfl, status, sequence,
        hemits.within hsame₁ (untouched _) (by decide) (by decide)⟩
      · rw [hsame₂ .sendAttempts (by decide), ← updateRows_ok.mp hupdate, Store.modify_same]
        simp only [decide_eq_true_eq]
        rfl
      · intro t ht
        simp only [List.mem_cons, not_or] at ht
        rw [hsame₂ t ht.2, hsame₁ t (by simp [ht])]
  | ok receipt =>
      dsimp only at h
      rw [Txn.bind_ok] at h
      obtain ⟨_, db₁, hupdate, h⟩ := h
      rw [Txn.bind_ok] at h
      obtain ⟨_, db₂, hevent, h⟩ := h
      obtain ⟨rfl, rfl⟩ := Txn.pure_ok.mp h
      obtain ⟨hsame₂, status, sequence, hemits⟩ := emitSendEvent_ok hevent
      have hsame₁ : SameExcept [.sendAttempts] db db₁ := Schema.writes_update (by simp) _ _ _ hupdate
      refine ⟨?_, ?_, rfl, status, sequence,
        hemits.within hsame₁ (untouched _) (by decide) (by decide)⟩
      · rw [hsame₂ .sendAttempts (by decide), ← updateRows_ok.mp hupdate, Store.modify_same]
        simp only [decide_eq_true_eq]
        rfl
      · intro t ht
        simp only [List.mem_cons, not_or] at ht
        rw [hsame₂ t ht.2, hsame₁ t (by simp [ht])]

/-- What a committed run of a send closure did to the tables. -/
inductive Sends [Sha256] (env : TxnEnv) (request : SendRequest)
    (gateChecks : List (Gate × GateCheck)) (db : Db) : SendResult → Db → Prop
  | replayed (draft : CorrespondenceDraft) (a : SendAttempt)
      (hdraft : (db .correspondenceDrafts).find? (fun d => d.id = request.draftId) = some draft)
      (hmem : a ∈ db .sendAttempts) (hkey : a.idempotencyKey = request.idempotencyKey)
      (hhash : a.requestHash = sendRequestHash draft.id draft.sealDigest) :
      Sends env request gateChecks db (replayedSend a) db
  | blocked (r : SendResult) (draft : CorrespondenceDraft) (db' : Db)
      (hpermitted : (sendDecision db draft request gateChecks).permitted = false)
      (hattempts : Attempts env request gateChecks draft (attemptRow (env.uuid 0) request draft
        (sendDecision db draft request gateChecks)) db db')
      (hsame : SameExcept sendTables db db')
      (hemits : ∃ status sequence, Emits env draft.invoiceId ⟨.readyForReconstruction, none, 1⟩
        [sendEventRow env (sendRecorded
        draft.invoiceId .sendBlocked status (sendDecision db draft request gateChecks).blockedReason
        none sequence)] db db')
      (hresult : r = blockedResult (env.uuid 0) (sendDecision db draft request gateChecks)) :
      Sends env request gateChecks db r db'
  | replied (r : SendResult) (draft : CorrespondenceDraft)
      (reply : Except ControlledSendError ControlledSendReceipt) (db' : Db)
      (hpermitted : (sendDecision db draft request gateChecks).permitted = true)
      (hattempts : Attempts env request gateChecks draft (repliedAttempt reply (attemptRow
        (env.uuid 0) request draft (sendDecision db draft request gateChecks))) db db')
      (hsame : SameExcept sendTables db db')
      (hemits : ∃ status sequence, Emits env draft.invoiceId ⟨.readyForReconstruction, none, 1⟩
        [sendEventRow env (replyRecorded
        draft.invoiceId reply status sequence)] db db')
      (hresult : r = repliedResult (env.uuid 0) reply) :
      Sends env request gateChecks db r db'

theorem runSend_ok [Sha256] {env : TxnEnv} {request : SendRequest}
    {gateChecks : List (Gate × GateCheck)} {fail : Bool} {delivered : List Delivery}
    {r : SendResult} {db db' : Db}
    (h : (runSend env request gateChecks fail db delivered).1 = .ok (r, db')) :
    Sends env request gateChecks db r db' := by
  unfold runSend at h
  cases hprepare : prepareSend env request gateChecks db with
  | error e =>
      rw [hprepare] at h
      exact nomatch h
  | ok p =>
      obtain ⟨p, db₁⟩ := p
      have hprepares := prepareSend_ok hprepare
      rw [hprepare] at h
      cases hprepares with
      | replayed draft a hdraft hmem hkey hhash =>
          simp only [Except.ok.injEq, Prod.mk.injEq] at h
          obtain ⟨rfl, rfl⟩ := h
          exact .replayed draft a hdraft hmem hkey hhash
      | blocked draft db' hpermitted hattempts hsame hemits =>
          simp only [Except.ok.injEq, Prod.mk.injEq] at h
          obtain ⟨rfl, rfl⟩ := h
          exact .blocked _ draft _ hpermitted hattempts hsame hemits rfl
      | ready draft db' hpermitted hattempts hsame =>
          obtain ⟨hrows, hsame₂, hresult, status, sequence, hemits⟩ := recordSend_ok h
          refine .replied r draft _ _ hpermitted ⟨hattempts.found, hattempts.newKey,
            hattempts.newId, ?_, ?_⟩ ?_ ⟨status, sequence, hemits.within hsame
              (untouched _) (by decide) (by decide)⟩ hresult
          · rw [hrows, hattempts.attempts, List.map_append, List.map_singleton]
            congr 1
            · refine (List.map_congr_left fun a ha => ?_).trans (List.map_id _)
              exact if_neg (hattempts.newId a ha)
            · exact congrArg (fun a => [a]) (if_pos rfl)
          · rw [hsame₂ .sendGateRuns (by decide), hattempts.runs]
          · intro t ht
            simp only [sendTables, List.mem_append, not_or] at ht
            rw [hsame₂ t (by simp_all [attemptTables]), hsame t ht.1]

/-! ## The relay -/

theorem relayOutboxBatch_ok {env : TxnEnv} {limit n : Nat} {db db' : Db}
    (h : relayOutboxBatch env limit db = .ok (n, db')) :
    (db' .eventOutbox = (db .eventOutbox).map fun o =>
        if o.id ∈ (relayBatch env limit (db .eventOutbox)).map EventOutbox.id ∧ o.state = .pending
        then { o with state := .delivered, deliveryCount := o.deliveryCount + 1 } else o) ∧
      SameExcept [.eventOutbox] db db' := by
  unfold relayOutboxBatch at h
  rw [Txn.bind_ok] at h
  obtain ⟨batch, db₁, hread, h⟩ := h
  obtain ⟨rfl, rfl⟩ := Txn.read_ok.mp hread
  rw [Txn.bind_ok] at h
  obtain ⟨_, db₁, hupdate, h⟩ := h
  obtain ⟨_, rfl⟩ := Txn.pure_ok.mp h
  refine ⟨?_, Schema.writes_update (by simp) _ _ _ hupdate⟩
  rw [← updateRows_ok.mp hupdate, Store.modify_same]
  simp only [decide_eq_true_eq]

end Tally.Analysis.Effects
