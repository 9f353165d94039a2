import Mathlib.Logic.Function.Basic
import Tally.Library.Execution
import Tally.Model.Capture

/-!
# Runs of captures

The embedding of the loop of `lambda_handler` of `capture/handler.py` over its sources, and the
world a capture meets: an object store in which any call may fail, a put with or without its
object, and a source that answers or does not. The commit to the database after the loop writes
no object and is left out.
-/

set_option autoImplicit false

namespace Tally.Model.Capture
open Library Library.Sha256 Tally.Model

/-! ## The world -/

abbrev Bucket := String → Option Object

/-- A call that raises; a put may have put its object all the same. -/
structure Fault where
  error : S3Error
  landed : Bool

/-- What a capture meets: the time that remains to the invocation before it, if there is a
deadline, the answer of the source and the calls to the object store that raise. -/
structure Occasion where
  remaining : Option Int
  fetch : Except String FetchResponse
  fault : Effect → Option Fault

def Bucket.put (bucket : Bucket) (key : String) (object : Object) : Bucket :=
  Function.update bucket key (some object)

def absentError : S3Error := .client "404" "Not Found"

def presentError : S3Error := .client "PreconditionFailed" "At least one of the pre-conditions failed"

/-- A put with its fault, if it has one. -/
def putReply (fault : Option Fault) (bucket : Bucket) (key : String) (object : Object) :
    Except S3Error Unit × Bucket :=
  match fault with
  | none => (.ok (), bucket.put key object)
  | some fault => (.error fault.error, if fault.landed then bucket.put key object else bucket)

/-- The fault of a read; that there is no object is an answer and no fault. -/
def readFault (occasion : Occasion) (e : Effect) : Option S3Error :=
  match occasion.fault e with
  | some fault => if fault.error.notFound then none else some fault.error
  | none => none

/-- What a call does and returns. -/
def answer (occasion : Occasion) : (e : Effect) → Bucket → Reply e × Bucket
  | .headObject key, bucket =>
    match readFault occasion (.headObject key) with
    | some e => ((.error e : Except S3Error Unit), bucket)
    | none =>
      match bucket key with
      | some _ => ((.ok () : Except S3Error Unit), bucket)
      | none => ((.error absentError : Except S3Error Unit), bucket)
  | .getObject key, bucket =>
    match readFault occasion (.getObject key) with
    | some e => ((.error e : Except S3Error Object), bucket)
    | none =>
      match bucket key with
      | some object => ((.ok object : Except S3Error Object), bucket)
      | none => ((.error absentError : Except S3Error Object), bucket)
  | .putObject key object, bucket =>
    putReply (occasion.fault (.putObject key object)) bucket key object
  | .putNew key object, bucket =>
    match bucket key with
    | some _ =>
      match occasion.fault (.putNew key object) with
      | some fault => ((.error fault.error : Except S3Error Unit), bucket)
      | none => ((.error presentError : Except S3Error Unit), bucket)
    | none => putReply (occasion.fault (.putNew key object)) bucket key object
  | .fetch _, bucket => (occasion.fetch, bucket)

/-! ## The loop over the sources -/

/-- The time a capture may take, in milliseconds, with the margin for its calls. -/
def requiredMs : Int := 20 * 1000 + 5000

/-- The text of an error of a capture. -/
def CaptureError.text (manifestKey : String) : CaptureError → String
  | .manifestAlreadyWritten => manifestKey
  | .s3 e => e.text

section Running

variable [Sha256] [CharacterTables] [PointerDecoder]

/-- The body of the loop of `lambda_handler`. -/
def handleSource (now : Moment) (invocation : String) (source : Source)
    (remaining : Option Int) : Prog Effect Reply CaptureResult :=
  if remaining.any (· < requiredMs) then
    .done
      ⟨source.key, "failed", buildManifest source now "failed" invocation {} ++
        [("error", .str "insufficient Lambda time remaining for this source")]⟩
  else do
    match ← (captureOneSource source now invocation).run with
    | .ok result => .done result
    | .error e =>
      .done
        ⟨source.key, "failed",
          [("error", .str (e.text (buildManifestKey source.key now.date)))]⟩

/-- `lambda_handler`: the results of the sources, and the objects it leaves. -/
def lambdaHandler (now : Moment) (invocation : String) :
    List (Source × Occasion) → Bucket → List CaptureResult × Bucket
  | [], bucket => ([], bucket)
  | (source, occasion) :: items, bucket =>
    let (result, bucket) :=
      Prog.exec (answer occasion) (handleSource now invocation source occasion.remaining) bucket
    let (results, bucket) := lambdaHandler now invocation items bucket
    (result :: results, bucket)

/-! ## The captures of a source -/

/-- The objects after captures of one source, one behind the other. -/
def captureDays (source : Source) (invocation : String) :
    List (Moment × Occasion) → Bucket → Bucket
  | [], bucket => bucket
  | (now, occasion) :: days, bucket =>
    captureDays source invocation days
      (Prog.exec (answer occasion) (captureOneSource source now invocation).run bucket).2

end Running

end Tally.Model.Capture
