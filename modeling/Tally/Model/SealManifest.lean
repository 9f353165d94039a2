import Tally.Model.AuthoritySealRepository

/-!
# The seal manifest over texts

The embedding of `core/seal_manifest.py` as the pure module has it: ids are texts, versions
and amounts any integers, the recommendation type and the approver kind any text. The
repository builds its manifest from typed columns; both build the same one.
-/

set_option autoImplicit false

namespace Tally.Model.SealManifest
open Library Tally.Model AuthoritySealRepository

structure SealInputs where
  invoiceId : String
  reconstructionId : String
  reconstructionVersion : Int
  recommendationId : String
  recommendationVersion : Int
  recommendationType : String
  recommendationDigest : String
  disputedAmountMinor : Int
  supportedAmountMinor : Int
  claimedAmountMinor : Int
  currency : String
  applicableRuleId : Option String
  applicableRuleDigest : Option String
  claimSetVersion : Int
  invoiceSourceRef : String
  dayJudgmentDigests : List String
  approverDisplay : String
  approverKind : String
deriving DecidableEq

/-- `build_seal_manifest`. -/
def buildSealManifest [Sha256] (inputs : SealInputs) (revision : Int) : Json :=
  .obj [
    ("schema_version", .int 1),
    ("revision", .int revision),
    ("invoice_id", .str inputs.invoiceId),
    ("reconstruction", .obj [
      ("id", .str inputs.reconstructionId),
      ("version", .int inputs.reconstructionVersion)]),
    ("recommendation", .obj [
      ("id", .str inputs.recommendationId),
      ("version", .int inputs.recommendationVersion),
      ("type", .str inputs.recommendationType),
      ("digest", .str inputs.recommendationDigest),
      ("disputed_amount_minor", .int inputs.disputedAmountMinor),
      ("supported_amount_minor", .int inputs.supportedAmountMinor),
      ("claimed_amount_minor", .int inputs.claimedAmountMinor),
      ("currency", .str inputs.currency)]),
    ("applicable_rule", .obj [
      ("id", optionJson .str inputs.applicableRuleId),
      ("digest", optionJson .str inputs.applicableRuleDigest)]),
    ("claim_set_version", .int inputs.claimSetVersion),
    ("invoice_source_binding_sha256", .str (Sha256.hexdigest (encode inputs.invoiceSourceRef))),
    ("day_judgments", .arr (inputs.dayJudgmentDigests.map .str)),
    ("approver", .obj [
      ("display", .str inputs.approverDisplay), ("kind", .str inputs.approverKind)])]

/-- The texts of the columns a seal of the repository binds. -/
def ofColumns (inputs : AuthoritySealRepository.SealInputs) : SealInputs :=
  { invoiceId := uuidText inputs.invoiceId
    reconstructionId := uuidText inputs.reconstructionId
    reconstructionVersion := inputs.reconstructionVersion
    recommendationId := uuidText inputs.recommendationId
    recommendationVersion := inputs.recommendationVersion
    recommendationType := inputs.recommendationType.value
    recommendationDigest := inputs.recommendationDigest
    disputedAmountMinor := inputs.disputedAmountMinor
    supportedAmountMinor := inputs.supportedAmountMinor
    claimedAmountMinor := inputs.claimedAmountMinor
    currency := inputs.currency
    applicableRuleId := inputs.applicableRuleId.map uuidText
    applicableRuleDigest := inputs.applicableRuleDigest
    claimSetVersion := inputs.claimSetVersion
    invoiceSourceRef := inputs.invoiceSourceRef
    dayJudgmentDigests := inputs.dayJudgmentDigests
    approverDisplay := inputs.approverDisplay
    approverKind := inputs.approverKind }

/-- The repository builds the manifest of the texts of its columns. -/
theorem buildSealManifest_ofColumns [Sha256] (inputs : AuthoritySealRepository.SealInputs)
    (revision : Nat) :
    buildSealManifest (ofColumns inputs) revision =
      AuthoritySealRepository.buildSealManifest inputs revision := by
  unfold buildSealManifest AuthoritySealRepository.buildSealManifest ofColumns
  cases inputs.applicableRuleId with
  | none => rfl
  | some id => rfl

end Tally.Model.SealManifest
