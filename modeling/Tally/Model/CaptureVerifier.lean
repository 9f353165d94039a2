import Tally.Model.Capture

/-!
# The verifier of captures

The embedding of `capture/verifier.py`: the manifest of each source read for a day, what is made
of it, the summary of the day and the value of its metric. The decoder of bytes that no capture
dumped is a parameter. Log lines and the call that puts the metric are left out.
-/

set_option autoImplicit false

namespace Tally.Model.CaptureVerifier
open Library Tally.Model.Capture

/-- `json.loads` of bytes that are not known to be the text of an object: the members of what
they decode to, when it is an object. -/
class ManifestDecoder where
  members : Bytes → Option Members

/-- The outcome of checking one source's manifest for one day. -/
structure SourceVerification where
  sourceKey : String
  manifestStatus : String

/-- The first day on which the member `invocation` is checked. -/
def invocationCheckStarts : String := "2026-07-06"

section Reading

variable [ManifestDecoder]

/-- What a stored manifest decodes to, empty when it does not. -/
def manifestOf : Object → Members
  | .bytes content => (ManifestDecoder.members content).getD []
  | .json members => members

/-- `_read_manifest`. -/
def readManifest (manifestKey : String) : CaptureM (Option Members) := do
  if ← manifestExists manifestKey then
    match ← (perform (.getObject manifestKey) : CaptureM (Except S3Error Object)) with
    | .ok object => pure (some (manifestOf object))
    | .error e => throw (.s3 e)
  else pure none

end Reading

/-- The first write of the manifest was by a scheduled invocation. -/
def isScheduled (manifest : Members) : Bool :=
  match manifest.lookup "invocation" with
  | some (.str invocation) => invocation == "scheduled"
  | _ => false

/-- `_resolve_manifest_status`. -/
def resolveManifestStatus (manifest : Option Members) (today : String) : String :=
  match manifest with
  | none => "missing"
  | some manifest =>
    match manifest.lookup "status" with
    | some (.str status) =>
      if status ≠ "ok" then status
      else if invocationCheckStarts ≤ today ∧ ¬ isScheduled manifest then "manual_only"
      else "ok"
    | _ => "failed"

/-! ## The day -/

/-- What `build_summary` returns. -/
structure Summary where
  checkedAt : String
  allOk : Bool
  missingOrFailed : List String
  results : List SourceVerification

/-- What the verifier returns, with the value of the metric it puts. -/
structure Verification where
  summary : Summary
  invocation : String
  recoveryGap : Nat

def SourceVerification.isOk (r : SourceVerification) : Bool := r.manifestStatus == "ok"

/-- `build_summary`. -/
def buildSummary (results : List SourceVerification) (allOk : Bool) (checkedAt : Moment) :
    Summary where
  checkedAt := checkedAt.isoformat
  allOk := allOk
  missingOrFailed := (results.filter fun r => !r.isOk).map SourceVerification.sourceKey
  results := results

section Verifying

variable [ManifestDecoder]

/-- The loop of `verify_sources`. -/
def verifyEach (today : String) : List Source → CaptureM (List SourceVerification)
  | [] => pure []
  | source :: sources => do
    let manifest ← readManifest (buildManifestKey source.key today)
    let results ← verifyEach today sources
    pure (⟨source.key, resolveManifestStatus manifest today⟩ :: results)

/-- `verify_sources`. -/
def verifySources (sources : List Source) (today : String) :
    CaptureM (List SourceVerification × Bool) := do
  let results ← verifyEach today sources
  pure (results, results.all SourceVerification.isOk)

/-- `lambda_handler`. -/
def lambdaHandler (sources : List Source) (now : Moment) (invocation : String) :
    CaptureM Verification := do
  let (results, allOk) ← verifySources sources now.date
  pure ⟨buildSummary results allOk now, invocation, if allOk then 0 else 1⟩

end Verifying

end Tally.Model.CaptureVerifier
