import Tally.Analysis.SealRuns

/-!
# The spelling of a sealed case

The database reads the id of a case as a value, and the manifest of a seal holds the text the
caller gave. Two texts of one id find the same case with the same evidence, but the manifests
that are sealed under them have the same bytes only if the texts are the same, and a case that
was sealed under one of them is refused under the other.
-/

set_option autoImplicit false

namespace Tally.Analysis.SealSpellings
open Library Library.Sha256 Tally.Model CaseSeal Seals SealRuns
open CockroachMcp (JsonDecoder LoadsError)
open ReceiptPipeline (Literals)

/-! ## Two spellings -/

section Spellings

variable [Interpreter] [Sha256] [JsonDecoder] [Literals]

/-- The call with another text of the id of its case. -/
def under (call : SealCall) (caseId : String) : SealCall := { call with caseId }

/-- The bytes of the manifest that a call seals. -/
def sealedBytes (txnTs : String) (call : SealCall) (db : SealDb) : Except SealError Bytes :=
  (sealCase txnTs call db).map fun sealed => canonicalJsonBytes (.dict sealed.1.evidenceManifest)

/-- What a call answers. -/
def answer (txnTs : String) (call : SealCall) (db : SealDb) : Except SealError SealResult :=
  (sealCase txnTs call db).map Prod.fst

/-- The other spelling of the id does what the first one does: it seals the same bytes, a call
that approves the sealed case again gets the same answer, and the receipt of the sealed case
passes the check of its id alike. -/
structure SameUnder (txnTs : String) (call : SealCall) (other : String) (db : SealDb) : Prop where
  sealed : sealedBytes txnTs (under call other) db = sealedBytes txnTs call db
  again : ∀ result db', sealCase txnTs call db = .ok (result, db') → ∀ txnTs' again,
    answer txnTs' (under again other) db' = answer txnTs' (under again call.caseId) db'
  verified : ∀ result db', sealCase txnTs call db = .ok (result, db') →
    namesCase result.evidenceManifest other = namesCase result.evidenceManifest call.caseId

/-- For every case that is sealed, the other spelling of its id does what the first one does just
when the two are the same text. SOURCE: platform/seal.py:219-439 -/
theorem same_under_iff {txnTs caseId other : String} {call : SealCall} {row : CaseRow}
    {db db' : SealDb} {result : SealResult} (hid : Literals.uuid call.caseId = some caseId)
    (hother : Literals.uuid other = some caseId) (hrow : caseOf db caseId = some row)
    (hstate : row.state = "ANALYZED") (hsealed : sealCase txnTs call db = .ok (result, db')) :
    SameUnder txnTs call other db ↔ other = call.caseId := by
  constructor
  · intro hsame
    have hbytes := hsame.sealed
    unfold sealedBytes at hbytes
    rw [hsealed] at hbytes
    cases hrun : sealCase txnTs (under call other) db with
    | error error =>
        rw [hrun] at hbytes
        cases hbytes
    | ok sealed =>
        obtain ⟨result', db''⟩ := sealed
        rw [hrun] at hbytes
        obtain ⟨at', hat', hfresh'⟩ := sealCase_fresh hother hrow hstate hrun
        obtain ⟨approvedAt, hat, hfresh⟩ := sealCase_fresh hid hrow hstate hsealed
        obtain rfl : at' = approvedAt := Except.ok.inj (hat'.symm.trans hat)
        obtain ⟨gathered', _, _, hsealing', rfl⟩ := sealFresh_ok hfresh'
        obtain ⟨gathered, _, _, hsealing, rfl⟩ := sealFresh_ok hfresh
        obtain rfl : gathered' = gathered :=
          Except.ok.inj (hsealing'.gathers.symm.trans hsealing.gathers)
        exact caseId_of_bytes (headOf call row at') (Except.ok.inj hbytes)
  · rintro rfl
    exact ⟨rfl, fun _ _ _ _ _ => rfl, fun _ _ _ => rfl⟩

end Spellings

/-! ## A case under two spellings -/

section Case

local instance spellingInterpreter : Interpreter := Claims.asciiInterpreter
local instance spellingSha : Sha256 := .standard
local instance spellingDecoder : JsonDecoder := noTexts
local instance spellingLiterals : Literals := sealLiterals

theorem openDb_case : caseOf openDb lowerId = some (newCase caseCommit) := rfl

/-- Whether a call succeeds. -/
def succeeds {ε α : Type} : Except ε α → Bool
  | .ok _ => true
  | .error _ => false

/-- A case that was sealed under one spelling is approved again under it, and under the other one
its seal does not match the evidence that is stored. -/
theorem respelled_seal_refused : ∃ result db',
    sealCase "1" (approval lowerId) openDb = .ok (result, db') ∧
      succeeds (sealCase "2" (approval lowerId) db') = true ∧
      sealCase "2" (approval upperId) db' =
        .error (.sealedCaseIntegrity "sealed manifest does not match stored evidence") := by
  obtain ⟨result, db', _, hrun, _⟩ := openDb_seals
  obtain ⟨approvedAt, happroved, hfresh⟩ := sealCase_fresh rfl openDb_case rfl hrun
  obtain ⟨gathered, sealedBy, time, hsealing, _⟩ := sealFresh_ok hfresh
  have hback := readsBack_of_sealing timesReadBack approval_canonical happroved hsealing
  have hcase := hsealing.caseOf_eq openDb_case
  have hunder := hsealing.sealedUnder rfl hback
  have hlower := SealedUnder.sealCase_eq length_standardDigest "2" (approval lowerId) hunder
    rfl rfl hcase (approval_time _)
  have hupper := SealedUnder.sealCase_eq length_standardDigest "2" (approval upperId) hunder
    rfl rfl hcase (approval_time _)
  rw [if_pos rfl] at hlower
  rw [if_neg (by decide)] at hupper
  exact ⟨result, db', hrun, by rw [hlower]; rfl, hupper⟩

/-- The two spellings of the case are not alike. -/
theorem same_under_iff_respelled : ¬SameUnder "1" (approval lowerId) upperId openDb := by
  obtain ⟨result, db', _, hrun, _⟩ := openDb_seals
  have hiff : SameUnder "1" (approval lowerId) upperId openDb ↔ upperId = lowerId :=
    same_under_iff rfl rfl openDb_case rfl hrun
  intro hsame
  exact absurd (hiff.mp hsame) (by decide)

end Case

end Tally.Analysis.SealSpellings
