import Tally.Analysis.Lineage

/-!
# Approvals and seals

Every approval has its seal, in the order they were committed. A recommendation is
approved and sealed once, the seals of an invoice are numbered from one, and what an
approval answered under its key stays its answer.
-/

set_option autoImplicit false

namespace Tally.Analysis.Approvals
open Library Library.Calendar Tally.Model AuthoritySealRepository Effects Pipeline

/-! ## Approvals with their seals -/

/-- The seal an approval answered with. -/
structure SealedBy (a : Approval) (s : DecisionSeal) : Prop where
  id : a.responseSnapshot.sealId = s.id
  revision : a.responseSnapshot.revision = s.revision
  digest : a.responseSnapshot.sealDigest = s.sealDigest
  recommendation : a.recommendationId = s.recommendationId
  approval : s.approvalId = a.id

def sealsOf (db : Db) (invoiceId : Uuid) : List DecisionSeal :=
  (db .decisionSeals).filter fun s => s.invoiceId = invoiceId

theorem sealsOf_append {db db' : Db} {s : DecisionSeal}
    (h : db' .decisionSeals = db .decisionSeals ++ [s]) (invoiceId : Uuid) :
    sealsOf db' invoiceId = sealsOf db invoiceId ++ if s.invoiceId = invoiceId then [s] else [] := by
  unfold sealsOf
  rw [h, List.filter_append]
  congr 1
  by_cases hinvoice : s.invoiceId = invoiceId
  · rw [if_pos hinvoice]
    exact List.filter_eq_self.mpr (List.forall_mem_singleton.mpr (decide_eq_true hinvoice))
  · rw [if_neg hinvoice]
    exact List.filter_eq_nil_iff.mpr (List.forall_mem_singleton.mpr fun heq =>
      hinvoice (of_decide_eq_true heq))

/-- What the approvals and the seals of a database are to each other. -/
structure Paired (db : Db) : Prop where
  pairs : List.Forall₂ SealedBy (db .approvals) (db .decisionSeals)
  approved : ∀ a ∈ db .approvals, a.state = "APPROVED"
  approvals : (db .approvals).Pairwise fun a b => a.recommendationId ≠ b.recommendationId
  keys : (db .approvals).Pairwise fun a b => a.idempotencyKey ≠ b.idempotencyKey
  ids : (db .decisionSeals).Pairwise fun a b => a.id ≠ b.id
  seals : (db .decisionSeals).Pairwise fun a b => a.recommendationId ≠ b.recommendationId
  revisions : ∀ invoiceId, (sealsOf db invoiceId).map DecisionSeal.revision =
    List.range' 1 (sealsOf db invoiceId).length

theorem paired_initial : Paired Db.empty :=
  ⟨.nil, fun _ h => absurd h List.not_mem_nil, .nil, .nil, .nil, .nil, fun _ => rfl⟩

theorem Paired.of_same {db db' : Db} (h : Paired db) (happrovals : db' .approvals = db .approvals)
    (hseals : db' .decisionSeals = db .decisionSeals) : Paired db' := by
  have hof : ∀ invoiceId, sealsOf db' invoiceId = sealsOf db invoiceId := by
    intro invoiceId
    unfold sealsOf
    rw [hseals]
  refine ⟨?_, ?_, ?_, ?_, ?_, ?_, ?_⟩
  · rw [happrovals, hseals]
    exact h.pairs
  · rw [happrovals]
    exact h.approved
  · rw [happrovals]
    exact h.approvals
  · rw [happrovals]
    exact h.keys
  · rw [hseals]
    exact h.ids
  · rw [hseals]
    exact h.seals
  · intro invoiceId
    rw [hof]
    exact h.revisions invoiceId

/-- A sealed recommendation is an approved one. -/
theorem Paired.approval_of_seal {db : Db} (h : Paired db) {s : DecisionSeal}
    (hs : s ∈ db .decisionSeals) : ∃ a ∈ db .approvals, SealedBy a s := by
  obtain ⟨i, hi, rfl⟩ := List.mem_iff_getElem.mp hs
  have hlength := h.pairs.length_eq
  exact ⟨(db .approvals)[i], List.getElem_mem _, h.pairs.get (by omega) hi⟩

theorem Paired.seal_of_approval {db : Db} (h : Paired db) {a : Approval}
    (ha : a ∈ db .approvals) : ∃ s ∈ db .decisionSeals, SealedBy a s := by
  obtain ⟨i, hi, rfl⟩ := List.mem_iff_getElem.mp ha
  have hlength := h.pairs.length_eq
  exact ⟨(db .decisionSeals)[i], List.getElem_mem _, h.pairs.get hi (by omega)⟩

/-! ## A fresh approval -/

/-- The maximum of one to `n` is `n`. -/
theorem nextNumber_range' (n : Nat) : nextNumber (List.range' 1 n) = n + 1 := by
  induction n with
  | zero => rfl
  | succ n ih =>
      unfold nextNumber at ih ⊢
      rw [List.range'_1_concat, List.foldl_append, List.foldl_cons, List.foldl_nil]
      omega

section Fresh

variable [Sha256] {env : TxnEnv} {request : ApprovalRequest} {rec : RecommendationRow}
  {approval : Approval} {db db' : Db}

/-- The recommendation of a fresh approval has no approval, so it has no seal and its seal
is inserted. -/
theorem Paired.unsealed (h : Paired db) (hseals : Seals env rec request approval db db') :
    (∀ a ∈ db .approvals, a.recommendationId ≠ rec.id) ∧
      ∀ s ∈ db .decisionSeals, s.recommendationId ≠ rec.id := by
  have hnone : ∀ a ∈ db .approvals, a.recommendationId ≠ rec.id := by
    intro a ha heq
    have hconflict := hseals.newApproval a ha
    rw [hseals.made] at hconflict
    simp only [conflicts, decide_eq_false_iff_not, not_or, not_and] at hconflict
    exact hconflict.2.2 heq.symm rfl (h.approved a ha)
  refine ⟨hnone, fun s hs heq => ?_⟩
  obtain ⟨a, ha, hpair⟩ := h.approval_of_seal hs
  exact hnone a ha (hpair.recommendation.trans heq)

theorem Paired.inserted (h : Paired db) (hseals : Seals env rec request approval db db') :
    let s := sealRow rec request approval.id (sealInputs env db rec request)
      approval.responseSnapshot
    db' .decisionSeals = db .decisionSeals ++ [s] ∧
      ∀ s' ∈ db .decisionSeals, conflicts .decisionSeals s s' = false := by
  rcases hseals.seals with ⟨⟨s, hs, heq⟩, _⟩ | hnew
  · exact absurd heq ((h.unsealed hseals).2 s hs)
  · exact hnew

theorem Paired.fresh (h : Paired db)
    (hunused : ∀ a ∈ db .approvals, a.idempotencyKey ≠ request.idempotencyKey)
    (hseals : Seals env rec request approval db db') : Paired db' := by
  obtain ⟨happroved, hsealed⟩ := h.unsealed hseals
  obtain ⟨hrows, hfresh⟩ := h.inserted hseals
  have hmade := hseals.made
  have hsnapshot : approval.responseSnapshot = sealedSnapshot env db rec request := by
    rw [hmade]
    rfl
  refine ⟨?_, ?_, ?_, ?_, ?_, ?_, ?_⟩
  · rw [hseals.approvals, hrows]
    refine List.rel_append h.pairs (.cons ⟨rfl, rfl, rfl, ?_, rfl⟩ .nil)
    rw [hmade]
    rfl
  · intro a ha
    rw [hseals.approvals] at ha
    rcases List.mem_append.mp ha with hold | hnew
    · exact h.approved a hold
    · rw [List.mem_singleton.mp hnew, hmade]
      rfl
  · rw [hseals.approvals, List.pairwise_append]
    refine ⟨h.approvals, List.pairwise_singleton _ _, fun a ha b hb => ?_⟩
    rw [List.mem_singleton.mp hb, hmade]
    exact happroved a ha
  · rw [hseals.approvals, List.pairwise_append]
    refine ⟨h.keys, List.pairwise_singleton _ _, fun a ha b hb => ?_⟩
    rw [List.mem_singleton.mp hb, hmade]
    exact hunused a ha
  · rw [hrows, List.pairwise_append]
    refine ⟨h.ids, List.pairwise_singleton _ _, fun s hs s' hs' => ?_⟩
    have hconflict := hfresh s hs
    simp only [conflicts, decide_eq_false_iff_not, not_or] at hconflict
    rw [List.mem_singleton.mp hs']
    exact fun heq => hconflict.1 heq.symm
  · rw [hrows, List.pairwise_append]
    refine ⟨h.seals, List.pairwise_singleton _ _, fun s hs s' hs' => ?_⟩
    rw [List.mem_singleton.mp hs']
    exact hsealed s hs
  · intro invoiceId
    have hold := h.revisions invoiceId
    rw [sealsOf_append hrows]
    split
    · -- the revision of the new seal is the number of seals the invoice has, and one
      rename_i hinvoice
      have hrevision : (sealRow rec request approval.id (sealInputs env db rec request)
          approval.responseSnapshot).revision = (sealsOf db invoiceId).length + 1 := by
        show approval.responseSnapshot.revision = _
        rw [hsnapshot, ← nextNumber_range', ← hold, ← hinvoice]
        rfl
      rw [List.map_append, hold, List.length_append, List.map_singleton, List.length_singleton,
        hrevision, List.range'_1_concat, Nat.add_comm 1]
    · rw [List.append_nil]
      exact hold

end Fresh

section Runs

variable [Sha256] [TzDatabase] [CharacterTables] {allowed : World → TxnEnv → Call → Prop}
  {w w' : World} {env : TxnEnv} {c : Call}

theorem Paired.step (h : Paired w.db) (hstep : Transition w env c w') : Paired w'.db := by
  rcases seals_step hstep with ⟨happrovals, hseals⟩ | ⟨request, rec, approval, _, hfresh⟩
  · exact h.of_same happrovals hseals
  · exact h.fresh hfresh.unused hfresh.seals

theorem paired_of_run (h : Run allowed w) : Paired w.db :=
  h.invariant (fun w => Paired w.db) paired_initial fun _ _ _ _ hinv _ hstep => hinv.step hstep

end Runs

/-! ## Requests and their answers -/

/-- The bytes a request is known by. -/
def payload (request : ApprovalRequest) : Bytes :=
  canonicalJsonBytes (approvalRequest request.recommendationId request.expectedVersion
    request.expectedDigest request.decision)

/-- Two calls ask for the same: the approver is no part of a request. -/
structure SameRequest (request request' : ApprovalRequest) : Prop where
  recommendation : request'.recommendationId = request.recommendationId
  version : request'.expectedVersion = request.expectedVersion
  digest : request'.expectedDigest = request.expectedDigest
  decision : request'.decision = request.decision

theorem sortKeys_approvalRequest (id : Uuid) (version : Int) (digest decision : String) :
    (approvalRequest id version digest decision).sortKeys =
      .obj [("decision", .str decision), ("digest", .str digest), ("rec", .str (uuidText id)),
        ("v", .int version)] := by
  simp [approvalRequest, Json.sortKeys, Json.sortMembers, List.insertionSort, List.orderedInsert]

theorem sameRequest_of_payload {request request' : ApprovalRequest}
    (h : payload request' = payload request) : SameRequest request request' := by
  have hjson := Json.dumps_compact_injective (encode_injective h)
  rw [sortKeys_approvalRequest, sortKeys_approvalRequest] at hjson
  simp only [Json.obj.injEq, List.cons.injEq, Prod.mk.injEq, Json.str.injEq, Json.int.injEq,
    true_and, and_true] at hjson
  obtain ⟨hdecision, hdigest, hid, hversion⟩ := hjson
  exact ⟨uuidText_injective hid, hversion, hdigest, hdecision⟩

section Requests

variable [Sha256]

theorem hash_of_same {request request' : ApprovalRequest} (h : SameRequest request request') :
    request'.hash = request.hash := by
  unfold ApprovalRequest.hash
  rw [h.recommendation, h.version, h.digest, h.decision]

/-- Different requests have different hashes, unless their bytes collide. -/
theorem hash_of_other {request request' : ApprovalRequest} (h : ¬ SameRequest request request') :
    request'.hash ≠ request.hash ∨ Sha256.Collision (payload request') (payload request) := by
  by_cases heq : request'.hash = request.hash
  · rcases Sha256.eq_or_collision heq with hsame | hcollision
    · exact absurd (sameRequest_of_payload hsame) h
    · exact Or.inr hcollision
  · exact Or.inl heq

/-- The approval under a key, made for the request, that answered with the result. -/
structure Answered (db : Db) (request : ApprovalRequest) (r : SealResult) : Prop where
  approval : ∃ a, approvalOf db request.idempotencyKey = some a ∧ a.requestHash = request.hash ∧
    sealResult a true = { r with alreadySealed := true }
  recommendation : ∃ rec ∈ db .recommendations, rec.id = request.recommendationId

theorem answered_of_approve {env : TxnEnv} {request : ApprovalRequest} {r : SealResult} {db db' : Db}
    (h : approveAndSeal env request db = .ok (r, db')) : Answered db' request r := by
  obtain ⟨hsame, rec, approval, hfind, hcases⟩ := approveAndSeal_ok h
  have hrec : ∃ rec ∈ db' .recommendations, rec.id = request.recommendationId := by
    rw [hsame .recommendations (by decide)]
    exact ⟨rec, List.mem_of_find?_eq_some hfind, by simpa using List.find?_some hfind⟩
  rcases hcases with ⟨rfl, hkey, hhash, rfl⟩ | ⟨hunused, _, _, hseals, rfl⟩
  · exact ⟨⟨approval, hkey, hhash, rfl⟩, hrec⟩
  · refine ⟨⟨approval, ?_, ?_, rfl⟩, hrec⟩
    · unfold approvalOf
      rw [hseals.approvals, List.find?_append, List.find?_eq_none.mpr fun a ha heq =>
        hunused a ha (of_decide_eq_true heq), Option.none_or, hseals.made]
      exact List.find?_cons_of_pos (decide_eq_true rfl)
    · rw [hseals.made]
      rfl

/-- A call with the key of an approval finds that approval once its recommendation exists. -/
theorem approve_found {env : TxnEnv} {request : ApprovalRequest} {db : Db} {a : Approval}
    (hkey : approvalOf db request.idempotencyKey = some a)
    (hrec : ∃ rec ∈ db .recommendations, rec.id = request.recommendationId) :
    approveAndSeal env request db = if a.requestHash ≠ request.hash
      then .error .approvalConflict else .ok (sealResult a true, db) := by
  obtain ⟨rec, hmem, hid⟩ := hrec
  have hsome : ((db .recommendations).find? fun r => r.id = request.recommendationId).isSome :=
    List.find?_isSome.mpr ⟨rec, hmem, decide_eq_true hid⟩
  obtain ⟨found, hfind⟩ := Option.isSome_iff_exists.mp hsome
  unfold approveAndSeal
  rw [selectRow_run, hfind]
  dsimp only
  rw [selectRow_run, show (db .approvals).find? _ = some a from hkey]
  dsimp only
  split
  · rfl
  · rfl

/-- A call for a recommendation that does not exist is refused before its key is looked up. -/
theorem approve_unknown {env : TxnEnv} {request : ApprovalRequest} {db : Db}
    (hrec : ∀ rec ∈ db .recommendations, rec.id ≠ request.recommendationId) :
    approveAndSeal env request db =
      .error (.recommendationNotApprovable "RECOMMENDATION_NOT_FOUND") := by
  have hnone : (db .recommendations).find? (fun r => r.id = request.recommendationId) = none :=
    List.find?_eq_none.mpr fun rec hmem heq => hrec rec hmem (of_decide_eq_true heq)
  unfold approveAndSeal
  rw [selectRow_run, hnone]
  rfl

variable [TzDatabase] [CharacterTables] {w w' : World}

theorem Answered.step {request : ApprovalRequest} {r : SealResult} {env : TxnEnv} {c : Call}
    (h : Answered w.db request r) (hstep : Transition w env c w') : Answered w'.db request r := by
  obtain ⟨⟨a, hkey, hanswer⟩, rec, hrec, hid⟩ := h
  refine ⟨⟨a, ?_, hanswer⟩, rec, recommendations_kept hstep rec hrec, hid⟩
  unfold approvalOf at hkey ⊢
  rcases seals_step hstep with ⟨hsame, _⟩ | ⟨_, _, _, _, hfresh⟩
  · rw [hsame]
    exact hkey
  · rw [hfresh.seals.approvals, List.find?_append, hkey, Option.some_or]

theorem Answered.run {request : ApprovalRequest} {r : SealResult}
    (h : Answered w.db request r) (calls : List (TxnEnv × Call)) :
    Answered (w.run calls).db request r :=
  (runFrom_run w calls).invariant (fun w => Answered w.db request r) h
    fun _ _ _ _ hinv _ hstep => hinv.step hstep

/-- What a call of an approver does in a world, and what a call under its key does after
any further calls. -/
structure ApprovalContract (w : World) (env : TxnEnv) (request : ApprovalRequest) : Prop where
  /-- the same request under the key returns the first response, marked as already sealed -/
  repeated : ∀ r db, approveAndSeal env request w.db = .ok (r, db) → ∀ calls env' request',
    request'.idempotencyKey = request.idempotencyKey → SameRequest request request' →
      let w' := World.run { w with db } calls
      approveAndSeal env' request' w'.db = .ok ({ r with alreadySealed := true }, w'.db)
  /-- another request under the key is a conflict, for a recommendation that exists and
  bytes that do not collide with those of the first -/
  conflicting : ∀ r db, approveAndSeal env request w.db = .ok (r, db) → ∀ calls env' request',
    request'.idempotencyKey = request.idempotencyKey → ¬ SameRequest request request' →
      let w' := World.run { w with db } calls
      approveAndSeal env' request' w'.db = .error .approvalConflict ∨
        ((∀ rec ∈ w'.db .recommendations, rec.id ≠ request'.recommendationId) ∧
          approveAndSeal env' request' w'.db =
            .error (.recommendationNotApprovable "RECOMMENDATION_NOT_FOUND")) ∨
        Sha256.Collision (payload request') (payload request)
  /-- a refused call leaves the world alone -/
  refused : ∀ e, (w.call env (.approveAndSeal request)).2 = some e →
    w.step env (.approveAndSeal request) = w

theorem approvalContract (w : World) (env : TxnEnv) (request : ApprovalRequest) :
    ApprovalContract w env request := by
  refine ⟨?_, ?_, fun e herror => commit_refused herror⟩
  · intro r db hok calls env' request' hkey hsame w'
    have hlater : Answered w'.db request r :=
      Answered.run (w := { w with db }) (answered_of_approve hok) calls
    obtain ⟨⟨a, hfound, hhash, hresult⟩, hrec⟩ := hlater
    rw [approve_found (hkey ▸ hfound) (hsame.recommendation ▸ hrec), hash_of_same hsame,
      if_neg (not_not.mpr hhash), hresult]
  · intro r db hok calls env' request' hkey hother w'
    have hlater : Answered w'.db request r :=
      Answered.run (w := { w with db }) (answered_of_approve hok) calls
    obtain ⟨⟨a, hfound, hhash, _⟩, _⟩ := hlater
    by_cases hrec : ∃ rec ∈ w'.db .recommendations, rec.id = request'.recommendationId
    · rcases hash_of_other hother with hne | hcollision
      · refine Or.inl ?_
        rw [approve_found (hkey ▸ hfound) hrec, if_pos]
        rw [hhash]
        exact hne.symm
      · exact Or.inr (Or.inr hcollision)
    · have hnone : ∀ rec ∈ w'.db .recommendations, rec.id ≠ request'.recommendationId :=
        fun rec hmem heq => hrec ⟨rec, hmem, heq⟩
      exact Or.inr (Or.inl ⟨hnone, approve_unknown hnone⟩)

end Requests

/-! ## Every run -/

section Case
open Sample

local instance : Sha256 := Sha256.standard
local instance : TzDatabase := zone
local instance : CharacterTables := ascii

/-- One invoice, judged and approved under `k1`. -/
def approvedOnce : Script :=
  received ++ extracted ++ reconstructed "w1" eventRows ++ searched "w1" ++ judged "w1" ++
    approved "k1" "first"

-- one block, so that the evaluations are made one after the other
mutual

theorem approvedOnce_run : Run (fun _ _ _ => True) (play World.initial 0 approvedOnce) :=
  run_play _ _ _

theorem approvedOnce_answers :
    let w := play World.initial 0 approvedOnce
    ∃ r ∈ w.db .recommendations, ∃ a ∈ w.db .approvals,
      a.recommendationId = r.id ∧ a.idempotencyKey = "k1" ∧ a.approverDisplay = "first" ∧
      (w.call (env 50) (.approveAndSeal (requestFor "k1" "second" r))).2 = none ∧
      (w.call (env 50) (.approveAndSeal
        { requestFor "k1" "first" r with recommendationId := 0 })).2 =
          some (.recommendationNotApprovable "RECOMMENDATION_NOT_FOUND") := by
  decide +kernel

end

end Case

end Tally.Analysis.Approvals
