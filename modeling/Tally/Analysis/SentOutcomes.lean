import Tally.Analysis.Gates

/-!
# Sent cases

The seal sets the status its decision prescribes. A blocked or failed send sets SEND_FAILED, and
a successful one keeps the status it finds, so an attempt that is sent after another was blocked
leaves the case in SEND_FAILED. A case keeps its sealed outcome along every history of sends in
which each new attempt of the case passes its gates and is acknowledged.
-/

set_option autoImplicit false

namespace Tally.Analysis.SentOutcomes
open Library Library.Calendar Tally.Model AuthoritySealRepository CorrespondenceRepository Effects
  Gates
open Library.Schema (SameExcept)

/-! ## The status of an invoice -/

/-- The invoice is known, and its rows have the status. -/
structure HasStatus (db : Db) (invoiceId : Uuid) (status : InvoiceStatus) : Prop where
  known : ∃ i ∈ db .invoices, i.id = invoiceId
  rows : ∀ i ∈ db .invoices, i.id = invoiceId → i.status = status ∧ i.aggregateStatus = status

section Status

variable {env : TxnEnv} {invoiceId other : Uuid} {status : InvoiceStatus} {db db' : Db}

theorem HasStatus.of_same (h : HasStatus db invoiceId status)
    (hsame : db' .invoices = db .invoices) : HasStatus db' invoiceId status :=
  ⟨hsame ▸ h.known, hsame ▸ h.rows⟩

theorem HasStatus.unique {status' : InvoiceStatus} (h : HasStatus db invoiceId status)
    (h' : HasStatus db invoiceId status') : status = status' := by
  obtain ⟨i, hi, hid⟩ := h.known
  exact (h.rows i hi hid).1.symm.trans (h'.rows i hi hid).1

/-- Events of an invoice leave it in the status of the last of them. -/
theorem hasStatus_of_emits {advance : Advance} {event : InvoiceEvent}
    (h : Emits env invoiceId advance [event] db db') :
    HasStatus db' invoiceId event.aggregateStatus := by
  obtain ⟨⟨i, hfind, _⟩, hinvoices⟩ := And.intro h.numbers h.invoices
  have hid : i.id = invoiceId := by simpa [findInvoice] using List.find?_some hfind
  refine ⟨⟨advanceInvoice invoiceId advance [event] i, ?_, ?_⟩, ?_⟩
  · rw [hinvoices]
    exact List.mem_map_of_mem (List.mem_of_find?_eq_some hfind)
  · rw [advanceInvoice_id]
    exact hid
  · rw [hinvoices]
    intro j hj hjid
    obtain ⟨k, hk, rfl⟩ := List.mem_map.mp hj
    rw [advanceInvoice_id] at hjid
    simp only [advanceInvoice, hjid, if_true, statusAfter]
    exact ⟨rfl, rfl⟩

/-- Events of another invoice leave the status alone. -/
theorem HasStatus.emits_other {advance : Advance} {events : List InvoiceEvent}
    (h : HasStatus db invoiceId status) (hother : other ≠ invoiceId)
    (hemits : Emits env other advance events db db') : HasStatus db' invoiceId status := by
  have hkeep (i : Invoice) (hid : i.id = invoiceId) : advanceInvoice other advance events i = i := by
    have hne : i.id ≠ other := fun heq => hother (heq.symm.trans hid)
    rw [advanceInvoice, if_neg hne]
  obtain ⟨i, hi, hid⟩ := h.known
  constructor
  · rw [hemits.invoices]
    exact ⟨i, List.mem_map.mpr ⟨i, hi, hkeep i hid⟩, hid⟩
  rw [hemits.invoices]
  intro j hj hjid
  obtain ⟨k, hk, rfl⟩ := List.mem_map.mp hj
  rw [advanceInvoice_id] at hjid
  rw [hkeep k hjid]
  exact h.rows k hk hjid

/-- The event of a send leaves the invoice in the status of the send. -/
theorem emitSendEvent_status {k : Nat} {outcome : SendState} {publicError messageId : Option String}
    {a : Unit} (h : emitSendEvent env k invoiceId outcome publicError messageId db = .ok (a, db')) :
    HasStatus db' invoiceId
      (sendStatus outcome ((db .invoices).find? fun i => i.id = invoiceId)) := by
  unfold emitSendEvent at h
  rw [Txn.bind_ok] at h
  obtain ⟨current, db₁, hselect, h⟩ := h
  obtain ⟨rfl, rfl⟩ := selectRow_ok.mp hselect
  rw [Txn.bind_ok] at h
  obtain ⟨sequence, db₁, hlock, hinsert⟩ := h
  exact hasStatus_of_emits (emits_one env hlock hinsert ⟨rfl, rfl, rfl, rfl⟩).1

/-- A successful send keeps the status it finds. -/
theorem HasStatus.sent (h : HasStatus db invoiceId status) :
    sendStatus .sent ((db .invoices).find? fun i => i.id = invoiceId) = status := by
  obtain ⟨i, hi, hid⟩ := h.known
  obtain ⟨j, hfind⟩ : ∃ j, (db .invoices).find? (fun i => i.id = invoiceId) = some j :=
    Option.isSome_iff_exists.mp (List.find?_isSome.mpr ⟨i, hi, decide_eq_true hid⟩)
  have hj : j.id = invoiceId := by simpa using List.find?_some hfind
  rw [hfind]
  exact (h.rows j (List.mem_of_find?_eq_some hfind) hj).1

/-- Recording an acknowledged send keeps the status. -/
theorem HasStatus.recorded {attemptId : Uuid} {receipt : ControlledSendReceipt} {r : SendResult}
    (h : HasStatus db invoiceId status)
    (hrecord : recordSend env attemptId invoiceId (.ok receipt) db = .ok (r, db')) :
    HasStatus db' invoiceId status := by
  unfold recordSend at hrecord
  dsimp only at hrecord
  rw [Txn.bind_ok] at hrecord
  obtain ⟨_, db₁, hupdate, hrecord⟩ := hrecord
  rw [Txn.bind_ok] at hrecord
  obtain ⟨_, db₂, hevent, hrecord⟩ := hrecord
  obtain ⟨_, rfl⟩ := Txn.pure_ok.mp hrecord
  have hsame : SameExcept [.sendAttempts] db db₁ := Schema.writes_update (by simp) _ _ _ hupdate
  have hfound := h.of_same (hsame .invoices (by decide))
  have hstatus := emitSendEvent_status hevent
  rw [hfound.sent] at hstatus
  exact hstatus

end Status

/-! ## Approved cases -/

/-- A case is approved with a status: the sealed recommendation prescribes it, and the invoice
has it. -/
structure Approved (db : Db) (invoiceId : Uuid) (status : InvoiceStatus) : Prop where
  decision : ∃ s ∈ db .decisionSeals, ∃ r ∈ db .recommendations, r.id = s.recommendationId ∧
    r.invoiceId = invoiceId ∧ status = outcomeStatus r.recommendationType
  current : HasStatus db invoiceId status

/-- No decision prescribes SEND_FAILED. -/
theorem Approved.ne_sendFailed {db : Db} {invoiceId : Uuid} {status : InvoiceStatus}
    (h : Approved db invoiceId status) : status ≠ .sendFailed := by
  obtain ⟨_, _, r, _, _, _, rfl⟩ := h.decision
  cases r.recommendationType <;> decide

/-- A fresh approval leaves its case approved. -/
theorem approved_of_approval [Sha256] {env : TxnEnv} {request : ApprovalRequest} {r : SealResult}
    {db db' : Db} (h : approveAndSeal env request db = .ok (r, db'))
    (hfresh : r.alreadySealed = false) :
    ∃ rec ∈ db .recommendations, rec.id = request.recommendationId ∧
      Approved db' rec.invoiceId (outcomeStatus rec.recommendationType) := by
  obtain ⟨hsame, rec, approval, hfind, ⟨_, _, _, rfl⟩ | ⟨_, _, _, hseals, _⟩⟩ := approveAndSeal_ok h
  · exact absurd hfresh (by simp [sealResult])
  · have hmem := List.mem_of_find?_eq_some hfind
    have hrec : rec ∈ db' .recommendations := by
      rw [hsame .recommendations (by decide)]
      exact hmem
    refine ⟨rec, hmem, by simpa using List.find?_some hfind, ?_, ?_⟩
    · rcases hseals.seals with ⟨⟨s, hs, hid⟩, hkept⟩ | ⟨hadded, _⟩
      · exact ⟨s, hkept ▸ hs, rec, hrec, hid.symm, rfl, rfl⟩
      · have hnew := List.mem_append_right (db .decisionSeals) (List.mem_singleton_self
          (sealRow rec request approval.id (sealInputs env db rec request)
            approval.responseSnapshot))
        rw [← hadded] at hnew
        exact ⟨_, hnew, rec, hrec, rfl, rfl, rfl⟩
    · obtain ⟨sequence, hemits⟩ := hseals.emits
      exact hasStatus_of_emits hemits

/-! ## Histories of sends -/

/-- The calls of a history: packs, drafts, sends, the relay and the streams. -/
def corresponds : Call → Bool
  | .loadSealedFactPack _ | .draftFromSealed _ _ | .selectSend _ _ _ | .sendSelected _ _ _
  | .approveAndSend _ _ _ _ | .relayOutboxBatch _ | .connect _ | .reconnect _ | .poll _ _ => true
  | _ => false

section Histories

variable [Sha256]

/-- A new attempt of the case under the request passes its gates and is acknowledged. -/
def Passes (db : Db) (invoiceId : Uuid) (request : SendRequest)
    (gateChecks : List (Gate × GateCheck)) (fail : Bool) : Prop :=
  ∀ draft, draftOf db request.draftId = some draft → draft.invoiceId = invoiceId →
    attemptOf db request.idempotencyKey = none →
      (sendDecision db draft request gateChecks).permitted = true ∧ fail = false

/-- A call of a history whose committed sends of the case pass. -/
def Acknowledged (invoiceId : Uuid) (w : World) (env : TxnEnv) (c : Call) : Prop :=
  corresponds c = true ∧ match c with
    | .sendSelected selection fail fate => fate = .committed →
        Passes w.db invoiceId selection.request
          (buildFreshGateChecks env selection.invoiceId selection.decisionSealId) fail
    | .approveAndSend request gateChecks fail fate => fate = .committed →
        Passes w.db invoiceId request gateChecks fail
    | _ => True

variable {invoiceId : Uuid} {status : InvoiceStatus} {env : TxnEnv} {request : SendRequest}
  {gateChecks : List (Gate × GateCheck)} {fail : Bool}

omit [Sha256] in
/-- The controlled inbox acknowledges a request when it does not fail. -/
theorem providerSend_acknowledges (delivered : List Delivery) (handedOver : ProviderRequest)
    (h : handedOver.recipientClass = recipientClass) :
    ∃ receipt, (providerSend false delivered handedOver).1 = .ok receipt := by
  unfold providerSend
  rw [if_neg (not_not.mpr h), if_neg (by decide)]
  cases delivered.find? fun d => d.providerIdempotencyKey = handedOver.providerIdempotencyKey with
  | none => exact ⟨_, rfl⟩
  | some d => exact ⟨_, rfl⟩

/-- A committed run that passes keeps the status of the case, and so does every run for another
case. -/
theorem HasStatus.runSend {delivered : List Delivery} {r : SendResult} {db db' : Db}
    (h : HasStatus db invoiceId status) (hpasses : Passes db invoiceId request gateChecks fail)
    (hrun : (runSend env request gateChecks fail db delivered).1 = .ok (r, db')) :
    HasStatus db' invoiceId status := by
  have hunused (hattempt : ∀ a ∈ db .sendAttempts, a.idempotencyKey ≠ request.idempotencyKey) :
      attemptOf db request.idempotencyKey = none :=
    List.find?_eq_none.mpr fun a ha => by simpa using hattempt a ha
  unfold CorrespondenceRepository.runSend at hrun
  cases hprepare : prepareSend env request gateChecks db with
  | error e =>
      rw [hprepare] at hrun
      simp at hrun
  | ok p =>
      obtain ⟨p, db₁⟩ := p
      have hprepares := prepareSend_ok hprepare
      rw [hprepare] at hrun
      cases hprepares with
      | replayed draft a =>
          simp only [Except.ok.injEq, Prod.mk.injEq] at hrun
          obtain ⟨_, rfl⟩ := hrun
          exact h
      | blocked draft _ hblocked hattempts _ hemits =>
          simp only [Except.ok.injEq, Prod.mk.injEq] at hrun
          obtain ⟨_, rfl⟩ := hrun
          obtain ⟨_, _, hemits⟩ := hemits
          by_cases hcase : draft.invoiceId = invoiceId
          · have hpermitted := (hpasses draft hattempts.found hcase (hunused hattempts.newKey)).1
            exact absurd (hpermitted.symm.trans hblocked) (by decide)
          · exact h.emits_other hcase hemits
      | ready draft _ _ hattempts hsame =>
          have hready := h.of_same (hsame .invoices (by decide))
          by_cases hcase : draft.invoiceId = invoiceId
          · obtain rfl := (hpasses draft hattempts.found hcase (hunused hattempts.newKey)).2
            obtain ⟨receipt, hreply⟩ := providerSend_acknowledges delivered
              ⟨providerKey (env.uuid 0) draft.sealDigest, draft.subject, draft.bodyProse,
                recipientClass⟩ rfl
            subst hcase
            dsimp only at hrun
            rw [hreply] at hrun
            exact hready.recorded hrun
          · obtain ⟨_, _, _, _, _, hemits⟩ := recordSend_ok hrun
            exact hready.emits_other hcase hemits

/-- So does a send, committed or not. -/
theorem HasStatus.send {w : World} {fate : Fate} (h : HasStatus w.db invoiceId status)
    (hpasses : fate = .committed → Passes w.db invoiceId request gateChecks fail) :
    HasStatus (w.send env request gateChecks fail fate).1.db invoiceId status := by
  rcases send_cases w env request gateChecks fail fate with heq | ⟨r, db, hfate, hrun, _, heq⟩
  · rw [heq]
    exact h
  · rw [heq]
    exact h.runSend (hpasses hfate) hrun

variable [TzDatabase] [CharacterTables] {w w₀ w' : World} {c : Call}

omit [Sha256] [TzDatabase] [CharacterTables] in
/-- No call of a history writes seals or recommendations, and only sends write invoices. -/
theorem writes_of_corresponds (hc : corresponds c = true) :
    mayWrite c .decisionSeals = false ∧ mayWrite c .recommendations = false ∧
      (Sample.sends c = false → mayWrite c .invoices = false) := by
  cases c with
  | loadSealedFactPack | draftFromSealed | selectSend | relayOutboxBatch | connect | reconnect
  | poll => exact ⟨rfl, rfl, fun _ => rfl⟩
  | sendSelected | approveAndSend => exact ⟨rfl, rfl, fun h => absurd h.symm Bool.false_ne_true⟩
  | _ => exact absurd hc Bool.false_ne_true

/-- A call of a history whose sends of the case pass leaves the case approved. -/
theorem Approved.step (h : Approved w.db invoiceId status) (hc : Acknowledged invoiceId w env c)
    (hstep : Transition w env c w') : Approved w'.db invoiceId status := by
  obtain ⟨hcorresponds, hpasses⟩ := hc
  obtain ⟨hseals, hrecommendations, hinvoices⟩ := writes_of_corresponds hcorresponds
  constructor
  · rw [table_frame hstep hseals, table_frame hstep hrecommendations]
    exact h.decision
  · cases hsends : Sample.sends c with
    | false => exact h.current.of_same (table_frame hstep (hinvoices hsends))
    | true =>
        cases hstep with
        | refused => exact h.current
        | peripheral _ db hsame => exact h.current.of_same (hsame .invoices (by decide))
        | sentSelected selection fail fate => exact h.current.send hpasses
        | approvedAndSent request gateChecks fail fate => exact h.current.send hpasses
        | _ => exact absurd hsends Bool.false_ne_true

/-- After every history of sends on an approved case in which each new attempt of the case passes
its gates and is acknowledged, an attempt recorded SENT leaves the invoice in the status its
sealed decision prescribes.
SOURCE: platform/correspondence_repository.py:319-384,
platform/authority_seal_repository.py:292-306 -/
theorem sent_keeps_outcome (happroved : Approved w₀.db invoiceId status)
    (hrun : RunFrom (Acknowledged invoiceId) w₀ w) {a : SendAttempt}
    (_hmem : a ∈ w.db .sendAttempts) (_hcase : a.invoiceId = invoiceId)
    (_hsent : a.sendState = .sent) : Approved w.db invoiceId status ∧ status ≠ .sendFailed := by
  have hkept := hrun.invariant (fun w => Approved w.db invoiceId status) happroved
    fun _ _ _ _ h hc hstep => h.step hc hstep
  exact ⟨hkept, hkept.ne_sendFailed⟩

end Histories

/-! ## A send that is repeated after the provider failed -/

section Case

local instance caseHash : Sha256 := Sha256.standard
local instance caseZone : TzDatabase := Sample.zone
local instance caseCharacters : CharacterTables := Sample.ascii

/-- A sealed dispute with its draft. -/
def disputedDb : Db := fun
  | .invoices => [⟨1, 7, none, 0, "00ff", "a.pdf", .disputed, .readyForReconstruction, .disputed,
      9, 9, some 1⟩]
  | .recommendations => [⟨4, 1, 3, none, 1, "f", .dispute, 5000, 25000, 30000, "USD", 1, 1,
      "FROZEN", "sha256:01", []⟩]
  | .decisionSeals => [⟨2, 1, 3, 4, 1, none, 1, 5, "ann", 1, "sha256:00", "invoices/a.pdf@v1"⟩]
  | .correspondenceDrafts => [⟨6, 1, 2, "sha256:00", "Adjustment request", "", .validated, 0⟩]
  | t => Db.empty t

def disputedWorld : World := { db := disputedDb }

/-- The injected gates, all verified. -/
def verifiedChecks : List (Gate × GateCheck) :=
  [.approvedMemoryMcp, .vectorClauseBinding, .exactS3Source, .noFallback].map fun gate =>
    (gate, fun _ => ⟨gate, .verified, none⟩)

/-- A committed send of the draft under a key. -/
def sending (idempotencyKey : String) (fail : Bool) : Call :=
  .approveAndSend ⟨6, idempotencyKey, "bob"⟩ verifiedChecks fail .committed

/-- The case after an acknowledged send. -/
def sentWorld : World := disputedWorld.step (Sample.env 1) (sending "s1" false)

/-- The case after a failed send and an acknowledged one. -/
def resentWorld : World :=
  (disputedWorld.step (Sample.env 1) (sending "s1" true)).step (Sample.env 2) (sending "s2" false)

theorem disputedDb_approved : Approved disputedWorld.db 1 .disputed := by
  refine ⟨⟨_, List.mem_singleton_self _, _, List.mem_singleton_self _, rfl, rfl, rfl⟩,
    ⟨_, List.mem_singleton_self _, rfl⟩, ?_⟩
  intro i hi _
  obtain rfl := List.mem_singleton.mp hi
  exact ⟨rfl, rfl⟩

theorem sending_acknowledged :
    Acknowledged 1 disputedWorld (Sample.env 1) (sending "s1" false) := by
  refine ⟨rfl, fun _ draft hdraft _ _ => ⟨?_, rfl⟩⟩
  obtain rfl := Option.some.inj hdraft
  decide +kernel

theorem sent_keeps_outcome_disputed :
    ∃ a ∈ sentWorld.db .sendAttempts, a.invoiceId = 1 ∧ a.sendState = .sent ∧
      Approved sentWorld.db 1 .disputed ∧ InvoiceStatus.disputed ≠ .sendFailed := by
  have hattempt : ∃ a ∈ sentWorld.db .sendAttempts, a.invoiceId = 1 ∧ a.sendState = .sent := by
    decide +kernel
  obtain ⟨a, ha, hcase, hsent⟩ := hattempt
  exact ⟨a, ha, hcase, hsent, sent_keeps_outcome disputedDb_approved
    (.step _ _ .start sending_acknowledged) ha hcase hsent⟩

/-- The acknowledged attempt keeps the SEND_FAILED of the one before it. -/
theorem sent_after_failure :
    Approved disputedWorld.db 1 .disputed ∧
      RunFrom (fun _ _ c => corresponds c = true) disputedWorld resentWorld ∧
      (∃ a ∈ resentWorld.db .sendAttempts, a.invoiceId = 1 ∧ a.sendState = .sent) ∧
      ¬HasStatus resentWorld.db 1 .disputed := by
  refine ⟨disputedDb_approved, .step _ _ (.step _ _ .start rfl) rfl, by decide +kernel, ?_⟩
  intro hstatus
  have hfailed : ∃ i ∈ resentWorld.db .invoices, i.id = 1 ∧ i.status = .sendFailed := by
    decide +kernel
  obtain ⟨i, hi, hid, hfailed⟩ := hfailed
  exact absurd ((hstatus.rows i hi hid).1.symm.trans hfailed) (by decide)

end Case

end Tally.Analysis.SentOutcomes
