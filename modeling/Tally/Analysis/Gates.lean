import Tally.Analysis.Lineage

/-!
# Send gates

A send reaches the provider only when every gate of its decision is VERIFIED, and the
transaction that records the attempt records its gate runs with it. Attempts are appended
with their outcome, so what a gate said of a sent attempt is there to read for as long as
the attempt is. The attempt under a key answers every later call with that key.
-/

set_option autoImplicit false

namespace Tally.Analysis.Gates
open Library Library.Calendar Tally.Model AuthoritySealRepository CorrespondenceRepository Effects
  Pipeline
open Library.Schema (SameExcept)

/-! ## The decision -/

/-- Gate checks of the four fresh gates, each answering for its own gate. -/
def FreshChecks (gateChecks : List (Gate × GateCheck)) : Prop :=
  ∀ p ∈ gateChecks, p.1 ∈ [Gate.approvedMemoryMcp, .vectorClauseBinding, .exactS3Source, .noFallback] ∧
    ∀ db, (p.2 db).gateCode = p.1

theorem freshChecks_build (env : TxnEnv) (invoiceId : Uuid) (decisionSealId : Option Uuid) :
    FreshChecks (buildFreshGateChecks env invoiceId decisionSealId) := by
  intro p hp
  simp only [buildFreshGateChecks, List.mem_cons, List.not_mem_nil, or_false] at hp
  rcases hp with rfl | rfl | rfl | rfl
  all_goals exact ⟨by simp, fun _ => rfl⟩

section Decision

variable {db : Db} {draft : CorrespondenceDraft} {request : SendRequest}
  {gateChecks : List (Gate × GateCheck)}

theorem resultOf_gateCode {results : List (Gate × GateResult)}
    (h : ∀ p ∈ results, p.2.gateCode = p.1) (code : Gate) :
    (resultOf results code).gateCode = code := by
  unfold resultOf
  cases hlookup : results.reverse.lookup code with
  | none => rfl
  | some result =>
      obtain ⟨left, right, hsplit, _⟩ := List.lookup_eq_some_iff.mp hlookup
      have hmem : (code, result) ∈ results := by
        rw [← List.mem_reverse, hsplit]
        exact List.mem_append_right _ List.mem_cons_self
      exact h (code, result) hmem

/-- The results of a send answer for their own gates. -/
theorem gateResults_gateCode (hfresh : FreshChecks gateChecks) :
    ∀ p ∈ gateResults db draft request.secondApproverDisplay gateChecks, p.2.gateCode = p.1 := by
  intro p hp
  unfold gateResults at hp
  rcases List.mem_append.mp hp with hcomputed | hinjected
  · simp only [List.mem_cons, List.not_mem_nil, or_false] at hcomputed
    rcases hcomputed with rfl | rfl
    · rfl
    · rfl
  · obtain ⟨q, hq, rfl⟩ := List.mem_map.mp hinjected
    exact (hfresh q hq).2 db

/-- A send decision has one result for every gate, in their order. -/
theorem sendDecision_gates (hfresh : FreshChecks gateChecks) :
    (sendDecision db draft request gateChecks).gateResults.map GateResult.gateCode = sendGates := by
  unfold sendDecision evaluateSendGates
  dsimp only
  rw [List.map_map, List.map_map]
  refine (List.map_congr_left fun code _ => ?_).trans (List.map_id _)
  exact resultOf_gateCode (gateResults_gateCode hfresh) code

/-- A permitted send has every gate verified. -/
theorem permitted_verified {results : List (Gate × GateResult)}
    (h : (evaluateSendGates results).permitted = true) :
    ∀ code ∈ sendGates, (resultOf results code).state = .verified := by
  unfold evaluateSendGates SendDecision.permitted at h
  rw [Option.isNone_iff_eq_none, Option.map_eq_none_iff, List.find?_eq_none] at h
  intro code hcode
  simpa using h _ (List.mem_map_of_mem hcode)

/-- The injected checks leave the two computed gates alone. -/
theorem resultOf_computed (hfresh : FreshChecks gateChecks) {code : Gate}
    (hcode : code = .secondAuthorization ∨ code = .lockedFields) :
    (resultOf (gateResults db draft request.secondApproverDisplay gateChecks) code).state =
      match code with
      | .secondAuthorization => verifiedIf (request.secondApproverDisplay ≠ "")
      | _ => verifiedIf (draft.validationState = .validated) := by
  have hnone : (gateChecks.map fun p => (p.1, p.2 db)).reverse.lookup code = none := by
    rw [List.lookup_eq_none_iff]
    intro p hp
    rw [List.mem_reverse] at hp
    obtain ⟨q, hq, rfl⟩ := List.mem_map.mp hp
    have hmem := (hfresh q hq).1
    simp only [List.mem_cons, List.not_mem_nil, or_false] at hmem
    rw [bne_iff_ne]
    intro heq
    dsimp only at heq
    rw [← heq] at hmem
    rcases hcode with rfl | rfl
    · exact absurd hmem (by decide)
    · exact absurd hmem (by decide)
  unfold resultOf gateResults
  rw [List.reverse_append, List.lookup_append, hnone, Option.none_or]
  rcases hcode with rfl | rfl
  · rfl
  · rfl

theorem verifiedIf_verified {ok : Bool} (h : verifiedIf ok = .verified) : ok = true := by
  unfold verifiedIf at h
  cases ok with
  | true => rfl
  | false => exact nomatch h

/-- A permitted send has a second approver and a validated draft. -/
theorem permitted_computed (hfresh : FreshChecks gateChecks)
    (h : (sendDecision db draft request gateChecks).permitted = true) :
    request.secondApproverDisplay ≠ "" ∧ draft.validationState = .validated := by
  have happrover := permitted_verified h .secondAuthorization (by decide)
  have hlocked := permitted_verified h .lockedFields (by decide)
  rw [resultOf_computed hfresh (Or.inl rfl)] at happrover
  rw [resultOf_computed hfresh (Or.inr rfl)] at hlocked
  exact ⟨of_decide_eq_true (verifiedIf_verified happrover),
    of_decide_eq_true (verifiedIf_verified hlocked)⟩

end Decision

/-! ## Attempts and their gate runs -/

def runsOf (db : Db) (attemptId : Uuid) : List SendGateRun :=
  (db .sendGateRuns).filter fun r => r.sendAttemptId = attemptId

/-- An attempt with one verified run for every gate, a validated draft and a second
approver. -/
structure Gated (db : Db) (a : SendAttempt) : Prop where
  gates : (runsOf db a.id).map SendGateRun.gateCode = sendGates
  verified : ∀ run ∈ runsOf db a.id, run.gateState = .verified
  draft : ∃ d ∈ db .correspondenceDrafts, d.id = a.draftId ∧ d.validationState = .validated
  approver : a.secondApproverDisplay ≠ ""

/-- The attempts of a database and their gate runs. -/
structure Recorded (db : Db) : Prop where
  keys : (db .sendAttempts).Pairwise fun a b => a.idempotencyKey ≠ b.idempotencyKey
  runs : ∀ run ∈ db .sendGateRuns, ∃ a ∈ db .sendAttempts, a.id = run.sendAttemptId
  sent : ∀ a ∈ db .sendAttempts, a.sendState = .sent → Gated db a

theorem recorded_initial : Recorded Db.empty :=
  ⟨.nil, fun _ h => absurd h List.not_mem_nil, fun _ h => absurd h List.not_mem_nil⟩

/-- A gated attempt stays gated while drafts stay and its runs do not change. -/
theorem Gated.kept {db db' : Db} {a : SendAttempt} (h : Gated db a)
    (hdrafts : ∀ d ∈ db .correspondenceDrafts, d ∈ db' .correspondenceDrafts)
    (hruns : runsOf db' a.id = runsOf db a.id) : Gated db' a := by
  obtain ⟨d, hd, hrest⟩ := h.draft
  refine ⟨?_, ?_, ⟨d, hdrafts d hd, hrest⟩, h.approver⟩
  · rw [hruns]
    exact h.gates
  · rw [hruns]
    exact h.verified

section Attempt

variable [Sha256] {env : TxnEnv} {request : SendRequest} {gateChecks : List (Gate × GateCheck)}
  {draft : CorrespondenceDraft} {row : SendAttempt} {db db' : Db}

/-- The runs of a new attempt. -/
theorem runsOf_new (h : Recorded db) (hattempts : Attempts env request gateChecks draft row db db') :
    runsOf db' (env.uuid 0) =
      (sendDecision db draft request gateChecks).gateResults.zipIdx.map fun p =>
        gateRunRow env (env.uuid 0) p.2 p.1 := by
  unfold runsOf
  rw [hattempts.runs, List.filter_append]
  have hold : (db .sendGateRuns).filter (fun r => r.sendAttemptId = env.uuid 0) = [] := by
    rw [List.filter_eq_nil_iff]
    intro run hrun heq
    obtain ⟨a, ha, hid⟩ := h.runs run hrun
    exact hattempts.newId a ha (hid.trans (of_decide_eq_true heq))
  rw [hold, List.nil_append, List.filter_eq_self]
  intro run hrun
  obtain ⟨p, _, rfl⟩ := List.mem_map.mp hrun
  exact decide_eq_true rfl

/-- The runs of an attempt there was. -/
theorem runsOf_old (hattempts : Attempts env request gateChecks draft row db db') {a : SendAttempt}
    (ha : a ∈ db .sendAttempts) : runsOf db' a.id = runsOf db a.id := by
  unfold runsOf
  rw [hattempts.runs, List.filter_append]
  have hnew : ((sendDecision db draft request gateChecks).gateResults.zipIdx.map fun p =>
      gateRunRow env (env.uuid 0) p.2 p.1).filter (fun r => r.sendAttemptId = a.id) = [] := by
    rw [List.filter_eq_nil_iff]
    intro run hrun heq
    obtain ⟨p, _, rfl⟩ := List.mem_map.mp hrun
    exact hattempts.newId a ha (of_decide_eq_true heq).symm
  rw [hnew, List.append_nil]

/-- A new attempt of a permitted send is gated. -/
theorem gated_new (h : Recorded db) (hfresh : FreshChecks gateChecks)
    (hattempts : Attempts env request gateChecks draft row db db')
    (hdrafts : ∀ d ∈ db .correspondenceDrafts, d ∈ db' .correspondenceDrafts)
    (hpermitted : (sendDecision db draft request gateChecks).permitted = true)
    (hrow : row.id = env.uuid 0 ∧ row.draftId = draft.id ∧
      row.secondApproverDisplay = request.secondApproverDisplay) : Gated db' row := by
  obtain ⟨hid, hdraft, happrover⟩ := hrow
  obtain ⟨hsecond, hlocked⟩ := permitted_computed hfresh hpermitted
  have hruns := runsOf_new h hattempts
  rw [← hid] at hruns
  refine ⟨?_, ?_, ⟨draft, hdrafts _ (List.mem_of_find?_eq_some hattempts.found), hdraft.symm,
    hlocked⟩, ?_⟩
  · rw [hruns, List.map_map, ← sendDecision_gates hfresh]
    have hcode : SendGateRun.gateCode ∘ (fun p : GateResult × Nat =>
        gateRunRow env row.id p.2 p.1) = GateResult.gateCode ∘ Prod.fst := rfl
    rw [hcode, ← List.map_map, List.zipIdx_map_fst]
  · intro run hrun
    rw [hruns] at hrun
    obtain ⟨p, hp, rfl⟩ := List.mem_map.mp hrun
    have hresult : p.1 ∈ (sendDecision db draft request gateChecks).gateResults :=
      List.fst_mem_of_mem_zipIdx hp
    unfold sendDecision evaluateSendGates at hresult
    dsimp only at hresult
    rw [List.map_map] at hresult
    obtain ⟨code, hcode, heq⟩ := List.mem_map.mp hresult
    show p.1.state = .verified
    rw [← heq]
    exact permitted_verified hpermitted code hcode
  · rw [happrover]
    exact hsecond

theorem Recorded.attempted (h : Recorded db) (hattempts : Attempts env request gateChecks draft row db db')
    (hdrafts : ∀ d ∈ db .correspondenceDrafts, d ∈ db' .correspondenceDrafts)
    (hrow : row.id = env.uuid 0 ∧ row.idempotencyKey = request.idempotencyKey)
    (hsent : row.sendState = .sent → Gated db' row) : Recorded db' := by
  refine ⟨?_, ?_, ?_⟩
  · rw [hattempts.attempts, List.pairwise_append]
    refine ⟨h.keys, List.pairwise_singleton _ _, fun a ha b hb => ?_⟩
    rw [List.mem_singleton.mp hb, hrow.2]
    exact hattempts.newKey a ha
  · intro run hrun
    rw [hattempts.runs] at hrun
    rw [hattempts.attempts]
    rcases List.mem_append.mp hrun with hold | hnew
    · obtain ⟨a, ha, hid⟩ := h.runs run hold
      exact ⟨a, List.mem_append_left _ ha, hid⟩
    · obtain ⟨p, _, rfl⟩ := List.mem_map.mp hnew
      exact ⟨row, List.mem_append_right _ (List.mem_singleton_self _), hrow.1⟩
  · intro a ha hstate
    rw [hattempts.attempts] at ha
    rcases List.mem_append.mp ha with hold | hnew
    · exact (h.sent a hold hstate).kept hdrafts (runsOf_old hattempts hold)
    · rw [List.mem_singleton.mp hnew] at hstate ⊢
      exact hsent hstate

end Attempt

/-! ## Calls -/

/-- Injected gate checks are those of the four fresh gates. -/
def InjectsFresh (_ : World) (_ : TxnEnv) : Call → Prop
  | .approveAndSend _ gateChecks _ _ => FreshChecks gateChecks
  | _ => True

/-- The bytes a send request is known by. -/
def payload (draft : CorrespondenceDraft) : Bytes :=
  canonicalJsonBytes (sendRequestJson draft.id draft.sealDigest)

theorem sortKeys_sendRequestJson (id : Uuid) (digest : String) :
    (sendRequestJson id digest).sortKeys =
      .obj [("draft", .str (uuidText id)), ("seal_digest", .str digest)] := by
  simp [sendRequestJson, Json.sortKeys, Json.sortMembers, List.insertionSort]

theorem id_of_payload {draft draft' : CorrespondenceDraft} (h : payload draft' = payload draft) :
    draft'.id = draft.id := by
  have hjson := Json.dumps_compact_injective (encode_injective h)
  rw [sortKeys_sendRequestJson, sortKeys_sendRequestJson] at hjson
  simp only [Json.obj.injEq, List.cons.injEq, Prod.mk.injEq, Json.str.injEq, true_and,
    and_true] at hjson
  exact uuidText_injective hjson.1

section Calls

variable [Sha256]

def draftOf (db : Db) (draftId : Uuid) : Option CorrespondenceDraft :=
  (db .correspondenceDrafts).find? fun d => d.id = draftId

def attemptOf (db : Db) (idempotencyKey : String) : Option SendAttempt :=
  (db .sendAttempts).find? fun a => a.idempotencyKey = idempotencyKey

/-- A call with the key of an attempt never reaches the provider: it finds the attempt, or
a conflict when the attempt is of another request. -/
theorem runSend_found {env : TxnEnv} {request : SendRequest}
    {gateChecks : List (Gate × GateCheck)} {fail : Bool} {db : Db} {delivered : List Delivery}
    {draft : CorrespondenceDraft} {a : SendAttempt} (hdraft : draftOf db request.draftId = some draft)
    (hkey : attemptOf db request.idempotencyKey = some a) :
    runSend env request gateChecks fail db delivered =
      (if a.requestHash ≠ sendRequestHash draft.id draft.sealDigest then .error .sendConflict
        else .ok (replayedSend a, db), delivered) := by
  unfold runSend prepareSend
  rw [selectRow_run, show (db .correspondenceDrafts).find? _ = some draft from hdraft]
  dsimp only
  rw [selectRow_run, show (db .sendAttempts).find? _ = some a from hkey]
  dsimp only
  by_cases hhash : a.requestHash ≠ sendRequestHash draft.id draft.sealDigest
  · rw [if_pos hhash, if_pos hhash]
    rfl
  · rw [if_neg hhash, if_neg hhash]
    rfl

/-- A world in which the closure delivers nothing and raises stays as it is. -/
theorem send_of_error {w : World} {env : TxnEnv} {request : SendRequest}
    {gateChecks : List (Gate × GateCheck)} {fail : Bool} {e : Raised}
    (h : runSend env request gateChecks fail w.db (w.sent.map SentMessage.delivery) =
      (.error e, w.sent.map SentMessage.delivery)) (fate : Fate) :
    w.send env request gateChecks fail fate = (w, some e) := by
  unfold World.send
  dsimp only
  rw [h]
  dsimp only
  rw [List.drop_length, List.map_nil, List.append_nil]

theorem hash_of_other {draft draft' : CorrespondenceDraft} (h : draft'.id ≠ draft.id) :
    sendRequestHash draft'.id draft'.sealDigest ≠ sendRequestHash draft.id draft.sealDigest ∨
      Sha256.Collision (payload draft') (payload draft) := by
  by_cases heq : sendRequestHash draft'.id draft'.sealDigest =
      sendRequestHash draft.id draft.sealDigest
  · have hdigest : Sha256.hexdigest (payload draft') = Sha256.hexdigest (payload draft) :=
      String.append_right_inj "sha256:" |>.mp heq
    rcases Sha256.eq_or_collision hdigest with hsame | hcollision
    · exact absurd (id_of_payload hsame) h
    · exact Or.inr hcollision
  · exact Or.inl heq

/-- The draft of a request and the attempt under its key, which answered with the result. -/
structure Answered (db : Db) (request : SendRequest) (draft : CorrespondenceDraft) (r : SendResult) :
    Prop where
  found : draftOf db request.draftId = some draft
  attempt : ∃ a, attemptOf db request.idempotencyKey = some a ∧
    a.requestHash = sendRequestHash draft.id draft.sealDigest ∧
    replayedSend a = { r with duplicate := true }

theorem attemptOf_new {env : TxnEnv} {request : SendRequest} {gateChecks : List (Gate × GateCheck)}
    {draft : CorrespondenceDraft} {row : SendAttempt} {db db' : Db}
    (h : Attempts env request gateChecks draft row db db')
    (hkey : row.idempotencyKey = request.idempotencyKey) :
    attemptOf db' request.idempotencyKey = some row := by
  unfold attemptOf
  rw [h.attempts, List.find?_append, List.find?_eq_none.mpr fun a ha heq =>
    h.newKey a ha (of_decide_eq_true heq), Option.none_or]
  exact List.find?_cons_of_pos (decide_eq_true hkey)

/-- A blocked attempt replays the result of its call. -/
theorem replayed_blocked (attemptId : Uuid) (request : SendRequest) (draft : CorrespondenceDraft)
    {decision : SendDecision} (h : decision.permitted = false) :
    replayedSend (attemptRow attemptId request draft decision) =
      { blockedResult attemptId decision with duplicate := true } := by
  unfold replayedSend attemptRow blockedResult
  rw [h]
  rfl

/-- So does one the provider replied to. -/
theorem replayed_replied (attemptId : Uuid) (request : SendRequest) (draft : CorrespondenceDraft)
    (reply : Except ControlledSendError ControlledSendReceipt) {decision : SendDecision}
    (h : decision.permitted = true) :
    replayedSend (repliedAttempt reply (attemptRow attemptId request draft decision)) =
      { repliedResult attemptId reply with duplicate := true } := by
  have hreason : decision.blockedReason = none := Option.isNone_iff_eq_none.mp h
  unfold replayedSend attemptRow repliedResult repliedAttempt
  rw [h, hreason]
  cases reply with
  | error e => rfl
  | ok receipt => rfl

/-- A send that commits leaves its answer under its key. -/
theorem answered_of_sends {env : TxnEnv} {request : SendRequest}
    {gateChecks : List (Gate × GateCheck)} {r : SendResult} {db db' : Db} (h : Recorded db)
    (hsends : Sends env request gateChecks db r db') : ∃ draft, Answered db' request draft r := by
  have hfound {draft : CorrespondenceDraft} {row : SendAttempt}
      (hattempts : Attempts env request gateChecks draft row db db')
      (hsame : SameExcept sendTables db db') : draftOf db' request.draftId = some draft := by
    unfold draftOf
    rw [hsame .correspondenceDrafts (by decide)]
    exact hattempts.found
  cases hsends with
  | replayed draft a hdraft hmem hkey hhash =>
      exact ⟨draft, hdraft, a, find?_of_key h.keys hmem hkey, hhash, rfl⟩
  | blocked _ draft _ hpermitted hattempts hsame _ hresult =>
      refine ⟨draft, hfound hattempts hsame, _, attemptOf_new hattempts rfl, rfl, ?_⟩
      rw [hresult]
      exact replayed_blocked _ _ _ hpermitted
  | replied _ draft reply _ hpermitted hattempts hsame _ hresult =>
      refine ⟨draft, hfound hattempts hsame, _,
        attemptOf_new hattempts (repliedAttempt_idempotencyKey _ _),
        repliedAttempt_requestHash _ _, ?_⟩
      rw [hresult]
      exact replayed_replied _ _ _ _ hpermitted

/-- Not permitted, a send hands nothing over and what it commits is a blocked attempt. -/
theorem sends_blocked {env : TxnEnv} {request : SendRequest}
    {gateChecks : List (Gate × GateCheck)} {draft : CorrespondenceDraft} {r : SendResult}
    {db db' : Db} (hdraft : draftOf db request.draftId = some draft)
    (hunused : attemptOf db request.idempotencyKey = none)
    (hpermitted : (sendDecision db draft request gateChecks).permitted = false)
    (hsends : Sends env request gateChecks db r db') :
    r.sendState = .sendBlocked ∧ ∃ row, db' .sendAttempts = db .sendAttempts ++ [row] ∧
      row.idempotencyKey = request.idempotencyKey ∧ row.sendState = .sendBlocked := by
  cases hsends with
  | replayed draft' a _ hmem hkey =>
      exact absurd (decide_eq_true hkey) (List.find?_eq_none.mp hunused a hmem)
  | blocked _ draft' _ hblocked hattempts _ _ hresult =>
      rw [hresult]
      refine ⟨rfl, _, hattempts.attempts, rfl, ?_⟩
      unfold attemptRow
      rw [hblocked]
      rfl
  | replied _ draft' _ _ hpermitted' hattempts =>
      obtain rfl : draft = draft' := Option.some.inj (hdraft.symm.trans hattempts.found)
      exact nomatch hpermitted.symm.trans hpermitted'

theorem prepare_blocked {env : TxnEnv} {request : SendRequest}
    {gateChecks : List (Gate × GateCheck)} {draft : CorrespondenceDraft} {db : Db}
    (hdraft : draftOf db request.draftId = some draft)
    (hpermitted : (sendDecision db draft request gateChecks).permitted = false)
    (attemptId invoiceId : Uuid) (handedOver : ProviderRequest) (db' : Db) :
    prepareSend env request gateChecks db ≠ .ok (.ready attemptId invoiceId handedOver, db') := by
  intro hok
  cases prepareSend_ok hok with
  | ready draft' _ hpermitted' hattempts =>
      obtain rfl : draft = draft' := Option.some.inj (hdraft.symm.trans hattempts.found)
      exact nomatch hpermitted.symm.trans hpermitted'

/-- The attempt under a key stays the attempt under it. -/
theorem attemptOf_kept {env : TxnEnv} {request : SendRequest} {gateChecks : List (Gate × GateCheck)}
    {r : SendResult} {db db' : Db} (hsends : Sends env request gateChecks db r db') {key : String}
    {a : SendAttempt} (hkey : attemptOf db key = some a) : attemptOf db' key = some a := by
  have hkept {row : SendAttempt} (hrows : db' .sendAttempts = db .sendAttempts ++ [row]) :
      attemptOf db' key = some a := by
    unfold attemptOf at hkey ⊢
    rw [hrows, List.find?_append, hkey, Option.some_or]
  cases hsends with
  | replayed => exact hkey
  | blocked _ _ _ _ hattempts => exact hkept hattempts.attempts
  | replied _ _ _ _ _ hattempts => exact hkept hattempts.attempts

theorem Recorded.sends {env : TxnEnv} {request : SendRequest} {gateChecks : List (Gate × GateCheck)}
    {r : SendResult} {db db' : Db} (h : Recorded db) (hfresh : FreshChecks gateChecks)
    (hdrafts : ∀ d ∈ db .correspondenceDrafts, d ∈ db' .correspondenceDrafts)
    (hsends : Sends env request gateChecks db r db') : Recorded db' := by
  cases hsends with
  | replayed => exact h
  | blocked _ draft _ hpermitted hattempts =>
      refine h.attempted hattempts hdrafts ⟨rfl, rfl⟩ fun hstate => ?_
      unfold attemptRow at hstate
      rw [hpermitted] at hstate
      exact nomatch hstate
  | replied _ draft reply _ hpermitted hattempts =>
      refine h.attempted hattempts hdrafts ⟨repliedAttempt_id _ _, repliedAttempt_idempotencyKey _ _⟩
        fun _ => gated_new h hfresh hattempts hdrafts hpermitted ⟨repliedAttempt_id _ _,
          repliedAttempt_draftId _ _, repliedAttempt_secondApproverDisplay _ _⟩

variable [TzDatabase] [CharacterTables] {w w' : World}

theorem Answered.step {request : SendRequest} {draft : CorrespondenceDraft} {r : SendResult}
    {env : TxnEnv} {c : Call} (h : Answered w.db request draft r) (hstep : Transition w env c w') :
    Answered w'.db request draft r := by
  obtain ⟨hdraft, a, hkey, hanswer⟩ := h
  refine ⟨?_, a, ?_, hanswer⟩
  · unfold draftOf at hdraft ⊢
    rcases drafts_step hstep with hsame | ⟨_, _, _, _, _, _, _, _, _, hrows⟩
    · rw [hsame]
      exact hdraft
    · rw [hrows, List.find?_append, hdraft, Option.some_or]
  · rcases attempts_step hstep with ⟨hsame, _⟩ | ⟨request', gateChecks, r', _, hsends⟩
    · unfold attemptOf at hkey ⊢
      rw [hsame]
      exact hkey
    · exact attemptOf_kept hsends hkey

theorem Recorded.step {env : TxnEnv} {c : Call} (h : Recorded w.db) (hc : InjectsFresh w env c)
    (hstep : Transition w env c w') : Recorded w'.db := by
  have hdrafts := drafts_kept hstep
  rcases attempts_step hstep with ⟨hattempts, hruns⟩ | ⟨request, gateChecks, r, hsending, hsends⟩
  · refine ⟨?_, ?_, ?_⟩
    · rw [hattempts]
      exact h.keys
    · rw [hattempts, hruns]
      exact h.runs
    · rw [hattempts]
      refine fun a ha hstate => (h.sent a ha hstate).kept hdrafts ?_
      unfold runsOf
      rw [hruns]
  · have hfresh : FreshChecks gateChecks := by
      cases hsending with
      | selected selection fail => exact freshChecks_build _ _ _
      | injected _ _ fail => exact hc
    exact h.sends hfresh hdrafts hsends

theorem recorded_of_run (h : Run InjectsFresh w) : Recorded w.db :=
  h.invariant (fun w => Recorded w.db) recorded_initial fun _ _ _ _ hinv hc hstep =>
    hinv.step hc hstep

end Calls

/-- Sends go through the route, which selects the draft and builds the checks. -/
def SendsSelected (_ : World) (_ : TxnEnv) : Call → Prop
  | .approveAndSend .. => False
  | _ => True

instance decidableSendsSelected (w : World) (env : TxnEnv) (c : Call) :
    Decidable (SendsSelected w env c) := by
  unfold SendsSelected
  split
  · exact .isFalse id
  · exact .isTrue trivial

theorem injectsFresh_of_sendsSelected {w : World} {env : TxnEnv} {c : Call}
    (h : SendsSelected w env c) : InjectsFresh w env c := by
  cases c
  case approveAndSend => exact h.elim
  all_goals trivial

/-! ## Every run -/

section Runs

variable [Sha256] [TzDatabase] [CharacterTables]

/-- What a send of a draft does in a world, and what a call under its key does after any
further calls. -/
structure SendContract (w : World) (env : TxnEnv) (request : SendRequest)
    (gateChecks : List (Gate × GateCheck)) : Prop where
  /-- a send that is not permitted hands nothing to the provider and records SEND_BLOCKED -/
  blocked : ∀ draft, draftOf w.db request.draftId = some draft →
    attemptOf w.db request.idempotencyKey = none →
    (sendDecision w.db draft request gateChecks).permitted = false →
      (∀ attemptId invoiceId handedOver db,
        prepareSend env request gateChecks w.db ≠ .ok (.ready attemptId invoiceId handedOver, db)) ∧
      ∀ fail delivered r db, (runSend env request gateChecks fail w.db delivered).1 = .ok (r, db) →
        r.sendState = .sendBlocked ∧ ∃ row, db .sendAttempts = w.db .sendAttempts ++ [row] ∧
          row.idempotencyKey = request.idempotencyKey ∧ row.sendState = .sendBlocked
  /-- the same draft under the key returns the recorded attempt -/
  repeated : ∀ fail r db, (runSend env request gateChecks fail w.db
    (w.sent.map SentMessage.delivery)).1 = .ok (r, db) →
      ∀ calls env' request' gateChecks' fail' delivered,
        request'.idempotencyKey = request.idempotencyKey → request'.draftId = request.draftId →
          let w' := (w.send env request gateChecks fail .committed).1.run calls
          runSend env' request' gateChecks' fail' w'.db delivered =
            (.ok ({ r with duplicate := true }, w'.db), delivered)
  /-- another draft under the key is a conflict that changes nothing, unless the bytes of the
  two requests collide -/
  conflicting : ∀ fail r db, (runSend env request gateChecks fail w.db
    (w.sent.map SentMessage.delivery)).1 = .ok (r, db) →
      ∀ calls env' request' gateChecks' fail' fate draft',
        request'.idempotencyKey = request.idempotencyKey → request'.draftId ≠ request.draftId →
          let w' := (w.send env request gateChecks fail .committed).1.run calls
          draftOf w'.db request'.draftId = some draft' →
            w'.send env' request' gateChecks' fail' fate = (w', some .sendConflict) ∨
              ∃ draft, draftOf w'.db request.draftId = some draft ∧
                Sha256.Collision (payload draft') (payload draft)

theorem sendContract {w : World} (h : Run InjectsFresh w) (env : TxnEnv) (request : SendRequest)
    (gateChecks : List (Gate × GateCheck)) : SendContract w env request gateChecks := by
  have hrecorded := recorded_of_run h
  have hanswered : ∀ fail r db, (runSend env request gateChecks fail w.db
      (w.sent.map SentMessage.delivery)).1 = .ok (r, db) → ∀ calls, ∃ draft,
        Answered ((w.send env request gateChecks fail .committed).1.run calls).db request draft r := by
    intro fail r db hok calls
    obtain ⟨draft, hfirst⟩ := answered_of_sends hrecorded (runSend_ok hok)
    have hdb : (w.send env request gateChecks fail .committed).1.db = db := by
      unfold World.send
      dsimp only
      rw [hok]
    rw [← hdb] at hfirst
    exact ⟨draft, (runFrom_run _ calls).invariant (fun w => Answered w.db request draft r) hfirst
      fun _ _ _ _ hinv _ hstep => hinv.step hstep⟩
  refine ⟨?_, ?_, ?_⟩
  · intro draft hdraft hunused hpermitted
    exact ⟨prepare_blocked hdraft hpermitted, fun fail delivered r db hok =>
      sends_blocked hdraft hunused hpermitted (runSend_ok hok)⟩
  · intro fail r db hok calls env' request' gateChecks' fail' delivered hkey hid w'
    obtain ⟨draft, hdraft, a, hfound, hhash, hresult⟩ := hanswered fail r db hok calls
    rw [runSend_found (hid ▸ hdraft) (hkey ▸ hfound), if_neg (not_not.mpr hhash), hresult]
  · intro fail r db hok calls env' request' gateChecks' fail' fate draft' hkey hid w' hdraft'
    obtain ⟨draft, hdraft, a, hfound, hhash, hresult⟩ := hanswered fail r db hok calls
    have hids : draft'.id ≠ draft.id := by
      have hleft : draft'.id = request'.draftId := by simpa using List.find?_some hdraft'
      have hright : draft.id = request.draftId := by simpa using List.find?_some hdraft
      rw [hleft, hright]
      exact hid
    rcases hash_of_other hids with hne | hcollision
    · refine Or.inl (send_of_error ?_ fate)
      rw [runSend_found hdraft' (hkey ▸ hfound), hhash, if_pos hne.symm]
    · exact Or.inr ⟨draft, hdraft, hcollision⟩

/-- In every run whose injected checks are those of the fresh gates, every sent attempt has
six gate runs, one for each gate and all verified, a validated draft and a second approver;
a key has one attempt; and every send keeps the contract. -/
theorem sends_gated {w : World} (h : Run InjectsFresh w) :
    (∀ a ∈ w.db .sendAttempts, a.sendState = .sent → Gated w.db a) ∧
    (w.db .sendAttempts).Pairwise (fun a b => a.idempotencyKey ≠ b.idempotencyKey) ∧
    ∀ env request gateChecks, SendContract w env request gateChecks :=
  ⟨(recorded_of_run h).sent, (recorded_of_run h).keys, sendContract h⟩

end Runs

section Case
open Sample

local instance : Sha256 := Sha256.standard
local instance : TzDatabase := zone
local instance : CharacterTables := ascii

/-- An invoice disputed, sealed and sent. -/
def disputed : Script :=
  received ++ extracted ++ reconstructed "w2" sourcedRows ++ ruled "w3" ++ judged "w4" ++
    approved "k1" "ann" ++ drafted "Please adjust." ++ selected "s1" "bob" ++ sent .committed

theorem disputed_selected : Makes (fun c => ∀ w env, SendsSelected w env c) disputed := by
  have hunsent {script : Script} (h : Unsent script) :
      Makes (fun c => ∀ w env, SendsSelected w env c) script := by
    refine h.mono fun c hc w env => ?_
    cases c
    case approveAndSend => exact nomatch hc
    all_goals trivial
  exact makes_append (makes_append (makes_append (makes_append (makes_append (makes_append
    (makes_append (makes_append (hunsent received_unsent) (hunsent extracted_unsent))
      (hunsent (reconstructed_unsent _ _))) (hunsent (ruled_unsent _))) (hunsent (judged_unsent _)))
        (hunsent (approved_unsent _ _))) (hunsent (drafted_unsent _))) (hunsent (selected_unsent _ _)))
          (makes_cons (last_makes fun _ _ _ => trivial) makes_nil)

theorem disputed_run : Run SendsSelected (play World.initial 1 disputed) :=
  run_of_plays _ .start (disputed_selected.plays (fun w env _ hc => hc w env) _ _)

theorem sends_gated_disputed :
    (∀ a ∈ (play World.initial 1 disputed).db .sendAttempts, a.sendState = .sent →
      Gated (play World.initial 1 disputed).db a) ∧
    ((play World.initial 1 disputed).db .sendAttempts).Pairwise
      (fun a b => a.idempotencyKey ≠ b.idempotencyKey) ∧
    ∀ env request gateChecks,
      SendContract (play World.initial 1 disputed) env request gateChecks :=
  sends_gated (disputed_run.mono fun _ _ _ => injectsFresh_of_sendsSelected)

end Case

end Tally.Analysis.Gates
