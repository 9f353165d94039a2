import Tally.Model.CaseSeal

/-!
# Bindings of sealed evidence

The embedding of the checks that bind a row of evidence to its item of the sealed manifest: those
of `core/sealed_memory.py`, of `core/temporal_replay.py` and of `core/receipt_verifier.py`. A row
is what the readers select of `case_evidence`; the tenant is fixed.
-/

set_option autoImplicit false

namespace Tally.Model.EvidenceBindings
open Library Library.Sha256 Tally.Model CaseSeal
open Tally.Model.CockroachMcp (JsonDecoder)

/-! ## Items of a manifest -/

/-- The id of an item of the manifest. -/
def evidenceIdOf : Value → Option String
  | .dict item =>
    match CaseSeal.get item "evidence_id" with
    | .str text => some text
    | _ => none
  | _ => none

/-- The items of a manifest. -/
def manifestItems (manifest : Mapping) : List Value :=
  match CaseSeal.get manifest "evidence" with
  | .list items => items
  | _ => []

/-- `manifest_items.get(evidence_id)`. -/
def itemOf (manifest : Mapping) (evidenceId : String) : Option Mapping :=
  match (manifestItems manifest).find? fun item => evidenceIdOf item = some evidenceId with
  | some (.dict item) => some item
  | _ => none

def hasMember (members : Mapping) (key : String) : Bool := (getMember members key).isSome

/-- `_same_json`. -/
def sameJson (left right : Value) : Bool := canonicalJsonBytes left = canonicalJsonBytes right

/-- Every member of the content stands in the item as well. -/
def flattenedBinding (item content : Mapping) : Bool :=
  content.all fun member =>
    hasMember item member.1 && sameJson (CaseSeal.get item member.1) member.2

/-- `value == text`. -/
def isText (value : Value) (text : String) : Bool :=
  match value with
  | .str value => value = text
  | _ => false

section Checks

variable [Interpreter] [Sha256] [JsonDecoder]

/-- `_mapping` of a content. -/
def contentMapping (content : Value) : Option Mapping :=
  match jsonValue content with
  | .ok (.dict members) => some members
  | _ => none

/-- The checks of one row in `validate_sealed_case_memory`. -/
def memoryBinding (row : EvidenceRow) (item : Mapping) : Bool :=
  match contentMapping row.content with
  | none => false
  | some content =>
    row.sealed && storedContentHashMatches row.contentSha256 (contentHash content) &&
      sameJson (CaseSeal.get item "content") (.dict content) &&
      flattenedBinding item content &&
      (CaseSeal.get item "kind").text = row.kind &&
      (CaseSeal.get item "source_table").text = row.sourceTable &&
      (CaseSeal.get item "source_id").text = row.sourceId &&
      (CaseSeal.get item "content_sha256").text = row.contentSha256

/-- `row_binding_intact` of `validate_replay_rows`. -/
def replayBinding (row : EvidenceRow) (item : Mapping) : Bool :=
  match contentMapping row.content with
  | none => false
  | some content =>
    row.sealed && storedContentHashMatches row.contentSha256 (contentHash content) &&
      sameJson (CaseSeal.get item "content") (.dict content) &&
      storedContentHashMatches (CaseSeal.get item "content_sha256").text (contentHash content) &&
      (CaseSeal.get item "kind").text = row.kind &&
      (CaseSeal.get item "source_table").text = row.sourceTable &&
      (CaseSeal.get item "source_id").text = row.sourceId

/-- A stored hash that is a text and matches. -/
def hashMatches (stored : Value) (computed : String) : Bool :=
  match stored with
  | .str stored => storedContentHashMatches stored computed
  | _ => false

/-- The checks `row_identity`, `row_sealed`, `content`, `flattened_binding` and `content_hash` of
`verify_sealed_receipt`. -/
def receiptBinding (manifest : Mapping) (row : EvidenceRow) (item : Mapping) : Bool :=
  match contentMapping row.content, CaseSeal.get item "content" with
  | some stored, .dict content =>
    (CaseSeal.get item "evidence_id").text = row.id &&
      (CaseSeal.get manifest "case_id").text = row.caseId &&
      isText (CaseSeal.get item "kind") row.kind &&
      isText (CaseSeal.get item "source_table") row.sourceTable &&
      (CaseSeal.get item "source_id").text = row.sourceId &&
      row.sealed && sameJson (.dict stored) (.dict content) && flattenedBinding item content &&
      storedContentHashMatches row.contentSha256 (contentHash stored) &&
      hashMatches (CaseSeal.get item "content_sha256") (contentHash stored)
  | _, _ => false

/-- The row is bound to its item of the manifest, to each of the three readers. -/
def bound (manifest : Mapping) (row : EvidenceRow) : Bool :=
  match itemOf manifest row.id with
  | none => false
  | some item =>
    memoryBinding row item && replayBinding row item && receiptBinding manifest row item

end Checks

end Tally.Model.EvidenceBindings
