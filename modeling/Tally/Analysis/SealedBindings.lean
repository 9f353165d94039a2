import Tally.Analysis.SealRuns
import Tally.Model.EvidenceBindings

/-!
# Sealers and readers

What a seal lets through is read by three readers that bind each row of evidence to its item of
the manifest. The sealer takes a content hash with or without the name of its algorithm in front,
and the manifest holds it without; one reader compares the two texts, so the readers agree with
the sealer just when no stored hash has the name in front, for a case that is sealed under its id.
-/

set_option autoImplicit false

namespace Tally.Analysis.SealedBindings
open Library Library.Sha256 Tally.Model CaseSeal EvidenceBindings Seals
open CockroachMcp (JsonDecoder LoadsError)
open ReceiptPipeline (Literals)

/-! ## Members of an item -/

theorem getMember_append_of_not_mem {content rest : Mapping} {key : String}
    (h : key ∉ content.map Prod.fst) :
    getMember (content ++ rest) key = getMember rest key := by
  have hnone : (content.find? fun member => member.1 = key) = none := by
    rw [List.find?_eq_none]
    intro member hmember hkey
    exact h (List.mem_map.mpr ⟨member, hmember, of_decide_eq_true hkey⟩)
  unfold getMember
  rw [List.find?_append, hnone, Option.none_or]

/-- A mapping has each key once. -/
def Keyed (content : Mapping) : Prop := content.Pairwise fun a b => a.1 ≠ b.1

theorem getMember_append_of_mem {content rest : Mapping} (hkeyed : Keyed content)
    {member : String × Value} (h : member ∈ content) :
    getMember (content ++ rest) member.1 = some member.2 := by
  have hfound : (content.find? fun other => other.1 = member.1) = some member :=
    find?_of_key hkeyed h rfl
  unfold getMember
  rw [List.find?_append, hfound]
  rfl

section Items

variable [Interpreter] [Sha256] [JsonDecoder]

omit [Interpreter] in
/-- What the sealer has checked of a content. -/
theorem validated_ok {content : Value} {hash : String} {parsed : Mapping}
    (h : validatedEvidenceContent content hash = .ok parsed) :
    contentMapping content = some parsed ∧
      (∀ key ∈ reservedManifestEvidenceKeys, key ∉ parsed.map Prod.fst) ∧
      storedContentHashMatches hash (contentHash parsed) = true := by
  unfold validatedEvidenceContent at h
  obtain ⟨value, hvalue, h⟩ := bind_eq_ok.mp h
  cases value with
  | dict members =>
      dsimp only at h
      split at h
      · cases h
      · rename_i hreserved
        split at h
        · rename_i hhash
          obtain rfl := Except.ok.inj h
          refine ⟨?_, ?_, hhash⟩
          · unfold contentMapping
            rw [hvalue]
          · intro key hkey hmem
            refine hreserved fun hnil => ?_
            have hin : key ∈ reservedManifestEvidenceKeys.filter
                fun key => key ∈ members.map Prod.fst :=
              List.mem_filter.mpr ⟨hkey, decide_eq_true hmem⟩
            rw [hnil] at hin
            exact absurd hin List.not_mem_nil
        · cases h
  | null => cases h
  | bool _ => cases h
  | int _ => cases h
  | float _ => cases h
  | str _ => cases h
  | list _ => cases h

omit [Interpreter] in
/-- The items of the manifest, row by row. -/
theorem items_of_gather {rows : List EvidenceRow} {before after : Gathered}
    (h : gather before rows = .ok after) : ∃ items, after.evidence = before.evidence ++ items ∧
      List.Forall₂ (fun row item => ∃ content,
        validatedEvidenceContent row.content row.contentSha256 = .ok content ∧
          item = Value.dict (flattened row content)) rows items := by
  induction rows generalizing before with
  | nil =>
      rw [gather] at h
      refine ⟨[], ?_, .nil⟩
      rw [← Except.ok.inj h, List.append_nil]
  | cons row rows ih =>
      rw [gather] at h
      obtain ⟨content, hcontent, h⟩ := bind_eq_ok.mp h
      obtain ⟨items, hitems, hrows⟩ := ih h
      refine ⟨.dict (flattened row content) :: items, ?_, .cons ⟨content, hcontent, rfl⟩ hrows⟩
      rw [hitems, List.append_assoc]
      rfl

section Flattened

variable {row : EvidenceRow} {content : Mapping}

omit [Interpreter] [JsonDecoder] in
/-- The members the sealer adds are the ones of the row. -/
theorem get_flattened (row : EvidenceRow)
    (hreserved : ∀ key ∈ reservedManifestEvidenceKeys, key ∉ content.map Prod.fst) :
    CaseSeal.get (flattened row content) "evidence_id" = .str row.id ∧
      CaseSeal.get (flattened row content) "kind" = .str row.kind ∧
      CaseSeal.get (flattened row content) "source_table" = .str row.sourceTable ∧
      CaseSeal.get (flattened row content) "source_id" = .str row.sourceId ∧
      CaseSeal.get (flattened row content) "content_sha256" = .str (contentHash content) ∧
      CaseSeal.get (flattened row content) "content" = .dict content := by
  unfold CaseSeal.get flattened
  refine ⟨?_, ?_, ?_, ?_, ?_, ?_⟩
  · rw [getMember_append_of_not_mem (hreserved _ (by decide))]
    rfl
  · rw [getMember_append_of_not_mem (hreserved _ (by decide))]
    rfl
  · rw [getMember_append_of_not_mem (hreserved _ (by decide))]
    rfl
  · rw [getMember_append_of_not_mem (hreserved _ (by decide))]
    rfl
  · rw [getMember_append_of_not_mem (hreserved _ (by decide))]
    rfl
  · rw [getMember_append_of_not_mem (hreserved _ (by decide))]
    rfl

omit [Interpreter] [JsonDecoder] in
theorem flattenedBinding_flattened (hkeyed : Keyed content) :
    flattenedBinding (flattened row content) content = true := by
  unfold flattenedBinding
  rw [List.all_eq_true]
  intro member hmember
  unfold hasMember CaseSeal.get flattened
  rw [getMember_append_of_mem hkeyed hmember]
  exact Bool.and_eq_true_iff.mpr ⟨rfl, decide_eq_true rfl⟩

end Flattened

omit [Interpreter] in
/-- The item of a row is found under the id of the row. -/
theorem find?_item {rows : List EvidenceRow} {items : List Value}
    (hitems : List.Forall₂ (fun row item => ∃ content,
      validatedEvidenceContent row.content row.contentSha256 = .ok content ∧
        item = Value.dict (flattened row content)) rows items)
    (hids : rows.Pairwise fun a b => a.id ≠ b.id) {row : EvidenceRow} (hrow : row ∈ rows) :
    ∃ content, validatedEvidenceContent row.content row.contentSha256 = .ok content ∧
      (items.find? fun item => evidenceIdOf item = some row.id) =
        some (.dict (flattened row content)) := by
  induction hitems with
  | nil => exact absurd hrow List.not_mem_nil
  | @cons head item rows items hhead htail ih =>
      obtain ⟨content, hcontent, rfl⟩ := hhead
      obtain ⟨hfirst, hrest⟩ := List.pairwise_cons.mp hids
      have hid : evidenceIdOf (.dict (flattened head content)) = some head.id := by
        have hget := (get_flattened head (validated_ok hcontent).2.1).1
        unfold evidenceIdOf
        dsimp only
        rw [hget]
      rcases List.mem_cons.mp hrow with rfl | hlater
      · exact ⟨content, hcontent, List.find?_cons_of_pos (decide_eq_true hid)⟩
      · obtain ⟨content', hcontent', hfound⟩ := ih hrest hlater
        refine ⟨content', hcontent', ?_⟩
        rw [List.find?_cons_of_neg, hfound]
        intro hsame
        rw [hid] at hsame
        exact hfirst row hlater (Option.some.inj (of_decide_eq_true hsame))

/-! ## What each reader finds -/

section Readers

variable {row : EvidenceRow} {content : Mapping}

/-- The readers of the sealed memory want the hash as the manifest has it. -/
theorem memoryBinding_sealed
    (h : validatedEvidenceContent row.content row.contentSha256 = .ok content)
    (hkeyed : Keyed content) :
    memoryBinding (sealRow row) (flattened row content) =
      decide (contentHash content = row.contentSha256) := by
  obtain ⟨hmapping, hreserved, hhash⟩ := validated_ok h
  obtain ⟨_, hkind, htable, hsource, hsha, hcontent⟩ := get_flattened row hreserved
  unfold memoryBinding
  dsimp only [sealRow]
  rw [hmapping, hkind, htable, hsource, hsha, hcontent]
  dsimp only
  rw [hhash, flattenedBinding_flattened hkeyed]
  simp only [sameJson, Value.text, decide_true, Bool.and_true, Bool.true_and]
  exact decide_eq_decide.mpr Iff.rfl

/-- The replay takes both forms of the hash. -/
theorem replayBinding_sealed
    (h : validatedEvidenceContent row.content row.contentSha256 = .ok content) :
    replayBinding (sealRow row) (flattened row content) = true := by
  obtain ⟨hmapping, hreserved, hhash⟩ := validated_ok h
  obtain ⟨_, hkind, htable, hsource, hsha, hcontent⟩ := get_flattened row hreserved
  unfold replayBinding
  dsimp only [sealRow]
  rw [hmapping, hkind, htable, hsource, hsha, hcontent]
  dsimp only
  rw [hhash]
  simp [sameJson, Value.text, storedContentHashMatches]

/-- The verifier of receipts wants the id of the case as the database gives it. -/
theorem receiptBinding_sealed {manifest : Mapping}
    (h : validatedEvidenceContent row.content row.contentSha256 = .ok content)
    (hkeyed : Keyed content) :
    receiptBinding manifest (sealRow row) (flattened row content) =
      decide ((CaseSeal.get manifest "case_id").text = row.caseId) := by
  obtain ⟨hmapping, hreserved, hhash⟩ := validated_ok h
  obtain ⟨hid, hkind, htable, hsource, hsha, hcontent⟩ := get_flattened row hreserved
  unfold receiptBinding
  dsimp only [sealRow]
  rw [hmapping, hid, hkind, htable, hsource, hsha, hcontent]
  dsimp only
  rw [hhash, flattenedBinding_flattened hkeyed]
  simp [sameJson, Value.text, isText, hashMatches, storedContentHashMatches]

end Readers

omit [Interpreter] [JsonDecoder] in
/-- No hexadecimal digest begins with the name of its algorithm. -/
theorem not_prefix_contentHash (content : Mapping) :
    ¬"sha256:".toList <+: (contentHash content).toList := by
  intro hprefix
  have hmem : 's' ∈ (contentHash content).toList :=
    hprefix.subset (by decide)
  unfold contentHash hexdigest at hmem
  rw [String.toList_ofList] at hmem
  obtain ⟨n, hn, hs⟩ := mem_hexChars hmem
  revert hs
  revert n
  decide

omit [Interpreter] [JsonDecoder] in
/-- A hash that matches is the one of the manifest if the name is not in front. -/
theorem contentHash_eq_iff {content : Mapping} {stored : String}
    (h : storedContentHashMatches stored (contentHash content) = true) :
    contentHash content = stored ↔ ¬"sha256:".toList <+: stored.toList := by
  constructor
  · rintro rfl
    exact not_prefix_contentHash content
  · intro hplain
    rcases Bool.or_eq_true_iff.mp h with hsame | hnamed
    · exact (of_decide_eq_true hsame).symm
    · rw [of_decide_eq_true hnamed, String.toList_append] at hplain
      exact absurd (List.prefix_append _ _) hplain

end Items

/-! ## Sealers and readers agree -/

section Agreement

variable [Interpreter] [Sha256] [JsonDecoder] [Literals]

/-- The contents of the rows have each key once. -/
def KeyedRows (db : SealDb) : Prop :=
  ∀ row ∈ db .caseEvidence, ∀ content, contentMapping row.content = some content → Keyed content

/-- For every case that a call seals: each row of its evidence is bound to its item of the
manifest, to all readers, just when the call spells the id of the case as the database does and
the stored hashes do not have the name of the algorithm in front.
SOURCE: core/sealed_memory.py:244-275; core/temporal_replay.py:196-208;
core/receipt_verifier.py:261-309 -/
theorem readers_agree_iff {txnTs caseId : String} {call : SealCall} {row : CaseRow}
    {db db' : SealDb} {result : SealResult} (hid : Literals.uuid call.caseId = some caseId)
    (hrow : caseOf db caseId = some row) (hstate : row.state = "ANALYZED")
    (hids : (db .caseEvidence).Pairwise fun a b => a.id ≠ b.id) (hkeyed : KeyedRows db)
    (hsealed : sealCase txnTs call db = .ok (result, db')) :
    (∀ e ∈ evidenceOf db' caseId, bound result.evidenceManifest e = true) ↔
      call.caseId = caseId ∧
        ∀ e ∈ evidenceOf db caseId, ¬"sha256:".toList <+: e.contentSha256.toList := by
  obtain ⟨approvedAt, _, hfresh⟩ := sealCase_fresh hid hrow hstate hsealed
  obtain ⟨gathered, sealedBy, time, hsealing, rfl⟩ := sealFresh_ok hfresh
  obtain ⟨items, hevidence, hitems⟩ := items_of_gather hsealing.gathers
  have hordered : (evidenceOf db caseId).Pairwise fun a b => a.id ≠ b.id := by
    unfold evidenceOf orderById
    rw [(List.perm_insertionSort _ _).pairwise_iff fun h => h.symm]
    exact hids.filter _
  have hbound : ∀ e ∈ evidenceOf db caseId,
      bound (buildManifest (headOf call row approvedAt) gathered) (sealRow e) = true ↔
        ¬"sha256:".toList <+: e.contentSha256.toList ∧ call.caseId = caseId := by
    intro e he
    obtain ⟨hmem, hcase⟩ := SealRuns.mem_evidenceOf.mp he
    obtain ⟨content, hcontent, hfound⟩ := find?_item hitems hordered he
    obtain ⟨hmapping, _, hhash⟩ := validated_ok hcontent
    have hkeys := hkeyed e hmem content hmapping
    have hitem : itemOf (buildManifest (headOf call row approvedAt) gathered) (sealRow e).id =
        some (flattened e content) := by
      unfold itemOf
      rw [show manifestItems (buildManifest (headOf call row approvedAt) gathered) = items from
        hevidence, show (sealRow e).id = e.id from rfl, hfound]
    unfold bound
    rw [hitem]
    dsimp only
    rw [memoryBinding_sealed hcontent hkeys, replayBinding_sealed hcontent,
      receiptBinding_sealed hcontent hkeys, Bool.and_true, Bool.and_eq_true_iff,
      decide_eq_true_eq, decide_eq_true_eq, contentHash_eq_iff hhash, hcase]
    rfl
  rw [hsealing.evidenceOf_eq]
  constructor
  · intro hall
    have hrows : ∀ e ∈ evidenceOf db caseId,
        ¬"sha256:".toList <+: e.contentSha256.toList ∧ call.caseId = caseId := fun e he =>
      (hbound e he).mp (hall _ (List.mem_map_of_mem he))
    obtain ⟨e, he⟩ := List.exists_mem_of_ne_nil _ hsealing.evidence
    exact ⟨(hrows e he).2, fun e he => (hrows e he).1⟩
  · rintro ⟨hspelled, hplain⟩ e he
    obtain ⟨e₀, he₀, rfl⟩ := List.mem_map.mp he
    exact (hbound e₀ he₀).mpr ⟨hplain e₀ he₀, hspelled⟩

end Agreement

/-! ## A hash with the name of its algorithm -/

section Case
open SealRuns (caseCommit lowerId openDb approval noTexts sealLiterals)

local instance bindingInterpreter : Interpreter := Claims.asciiInterpreter
local instance bindingSha : Sha256 := .standard
local instance bindingDecoder : JsonDecoder := noTexts
local instance bindingLiterals : Literals := sealLiterals

/-- The piece of evidence of the case. -/
def openRow : EvidenceRow where
  id := "00000000-0000-4000-8000-000000000006"
  caseId := lowerId
  kind := "tariff_invoice_receipt"
  sourceTable := "tariff_clauses"
  sourceId := "00000000-0000-4000-8000-000000000007"
  content := .dict [("recommendation", .str "DISPUTE")]
  contentSha256 := contentHash [("recommendation", .str "DISPUTE")]
  sealed := false

theorem openDb_evidence : openDb .caseEvidence = [openRow] := rfl

theorem openDb_evidenceOf : evidenceOf openDb lowerId = [openRow] := rfl

theorem openDb_keyed : KeyedRows openDb := by
  intro row hrow content hcontent
  rw [openDb_evidence] at hrow
  obtain rfl := List.mem_singleton.mp hrow
  obtain rfl := Option.some.inj hcontent
  exact List.pairwise_singleton _ _

/-- The evidence of the open case is bound to all readers once it is sealed. -/
theorem readers_agree_iff_open : ∃ result db',
    sealCase "1" (approval lowerId) openDb = .ok (result, db') ∧
      ∀ e ∈ evidenceOf db' lowerId, bound result.evidenceManifest e = true := by
  obtain ⟨result, db', _, hrun, _⟩ := SealRuns.openDb_seals
  have hids : (openDb .caseEvidence).Pairwise fun a b => a.id ≠ b.id := by
    rw [openDb_evidence]
    exact List.pairwise_singleton _ _
  have hrow : caseOf openDb lowerId = some (SealRuns.newCase caseCommit) := rfl
  refine ⟨result, db', hrun,
    (readers_agree_iff rfl hrow rfl hids openDb_keyed hrun).mpr ⟨rfl, ?_⟩⟩
  intro e he
  have hopen : e ∈ [openRow] := he
  rw [List.mem_singleton.mp hopen]
  exact not_prefix_contentHash _

/-- The tables with an open case whose evidence names the algorithm of its hash. -/
def namedDb : SealDb := fun t =>
  match t with
  | .caseEvidence =>
    [{ openRow with contentSha256 :=
        "sha256:" ++ contentHash [("recommendation", .str "DISPUTE")] }]
  | .cases => openDb .cases
  | .findings => openDb .findings
  | .ledgerEvents => []
  | .queryLog => []

/-- A seal with a row of evidence that some reader does not take. -/
def sealsUnbound : Except SealError (SealResult × SealDb) → Bool
  | .ok (result, db) =>
    (evidenceOf db lowerId).any fun e => !bound result.evidenceManifest e
  | .error _ => false

/-- A row whose hash names its algorithm is sealed and then refused. -/
theorem named_hash_refused : ∃ result db',
    sealCase "1" (approval lowerId) namedDb = .ok (result, db') ∧
      ∃ e ∈ evidenceOf db' lowerId, bound result.evidenceManifest e = false := by
  have hseals : sealsUnbound (sealCase "1" (approval lowerId) namedDb) = true := by
    decide +kernel
  cases hrun : sealCase "1" (approval lowerId) namedDb with
  | error error =>
      rw [hrun] at hseals
      cases hseals
  | ok sealed =>
      obtain ⟨result, db'⟩ := sealed
      rw [hrun] at hseals
      obtain ⟨e, he, hunbound⟩ := List.any_eq_true.mp hseals
      exact ⟨result, db', rfl, e, he, by simpa using hunbound⟩

end Case

end Tally.Analysis.SealedBindings
