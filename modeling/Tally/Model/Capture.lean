import Tally.Library.Interleaving
import Tally.Model.Correspondence

/-!
# Capture of a source

The embedding of `capture/handler.py` for one source: the keys of its objects, the manifest,
the check for one, the rolling pointer, and the capture itself as a program over the calls to
the object store and the source. A stored manifest or pointer stands for the JSON text it is
dumped to; how foreign bytes at a pointer's key decode is a parameter. Log lines are left out.
-/

set_option autoImplicit false

namespace Tally.Model.Capture
open Library Library.Sha256 Tally.Model

/-! ## Values -/

structure Source where
  key : String
  laneLabel : String
  url : String
  expectedContentType : String

/-- The server-set time of an invocation: its calendar date and its text. -/
structure Moment where
  date : String
  isoformat : String

/-- The members of a JSON object. -/
abbrev Members := List (String × Json)

/-- The outcome of one source. -/
structure CaptureResult where
  sourceKey : String
  status : String
  manifest : Members

/-- What is stored at a key: bytes, or the text of a JSON object. -/
inductive Object where
  | bytes (content : Bytes)
  | json (members : Members)

structure FetchResponse where
  statusCode : Int
  headers : String → Option String
  content : Bytes

/-- A client error with its code, or any other error, with its text. -/
inductive S3Error where
  | client (code text : String)
  | other (text : String)

def S3Error.text : S3Error → String
  | .client _ text => text
  | .other text => text

/-- A confirmed absence. -/
def S3Error.notFound : S3Error → Bool
  | .client code _ => code ∈ ["404", "NoSuchKey", "NotFound"]
  | .other _ => false

def S3Error.preconditionFailed : S3Error → Bool
  | .client code _ => code ∈ ["PreconditionFailed", "412"]
  | .other _ => false

inductive CaptureError where
  | manifestAlreadyWritten
  | s3 (e : S3Error)

/-- `json.loads` of bytes that are not known to be the text of an object: the member `sha256`
of what they decode to, when it is a text. -/
class PointerDecoder where
  sha256 : Bytes → Option String

/-! ## Keys -/

def contentTypeExtensions : List (String × String) :=
  [("text/html", "html"), ("application/pdf", "pdf"), ("text/plain", "txt"),
    ("application/json", "json")]

/-- `text.strip()`. -/
def strip [CharacterTables] (text : List Char) : List Char :=
  ((text.dropWhile CharacterTables.isSpace).reverse.dropWhile CharacterTables.isSpace).reverse

/-- `infer_extension`. -/
def inferExtension [CharacterTables] (contentType : String) : String :=
  let base := CharacterTables.lower (strip (contentType.toList.takeWhile (· ≠ ';')))
  (contentTypeExtensions.lookup (String.ofList base)).getD "bin"

/-- `build_object_prefix`. -/
def buildObjectPrefix (sourceKey captureDate : String) : String :=
  "raw/" ++ sourceKey ++ "/" ++ captureDate

/-- `build_body_key`. -/
def buildBodyKey (sourceKey captureDate ext : String) : String :=
  buildObjectPrefix sourceKey captureDate ++ "/body." ++ ext

/-- `build_manifest_key`. -/
def buildManifestKey (sourceKey captureDate : String) : String :=
  buildObjectPrefix sourceKey captureDate ++ "/manifest.json"

/-- `build_latest_key`. -/
def buildLatestKey (sourceKey : String) : String := "raw/" ++ sourceKey ++ "/latest.json"

/-! ## The manifest -/

def optional {α : Type} (value : Option α) (f : α → Json) : Json := (value.map f).getD .null

/-- `_headers_subset`. -/
def headersSubset (headers : String → Option String) : Members :=
  ["content-type", "content-length", "last-modified", "etag"].filterMap fun key =>
    (headers key).map fun value => (key, .str value)

/-- What a manifest says of a response. -/
structure Fetched where
  httpStatus : Option Int := none
  headers : Members := []
  sha256 : Option String := none
  byteCount : Option Nat := none

/-- `build_manifest`. -/
def buildManifest (source : Source) (capturedAt : Moment) (status invocation : String)
    (fetched : Fetched) : Members :=
  [("source_key", .str source.key),
   ("lane_label", .str source.laneLabel),
   ("url", .str source.url),
   ("status", .str status),
   ("invocation", .str invocation),
   ("http_status", optional fetched.httpStatus .int),
   ("headers", .obj fetched.headers),
   ("sha256", optional fetched.sha256 .str),
   ("byte_count", optional fetched.byteCount fun count => .int count),
   ("captured_at", .str capturedAt.isoformat)]

/-- `_already_captured_result`. -/
def alreadyCapturedResult (sourceKey invocation : String) : CaptureResult where
  sourceKey := sourceKey
  status := "skipped"
  manifest :=
    [("source_key", .str sourceKey), ("status", .str "skipped"), ("invocation", .str invocation),
      ("reason", .str "already captured today")]

/-! ## Calls -/

/-- The calls of a capture: the object store's, the conditional put being `putNew`, and the
fetch of the source. -/
inductive Effect where
  | headObject (key : String)
  | getObject (key : String)
  | putObject (key : String) (object : Object)
  | putNew (key : String) (object : Object)
  | fetch (url : String)

abbrev Reply : Effect → Type
  | .headObject _ => Except S3Error Unit
  | .getObject _ => Except S3Error Object
  | .putObject _ _ => Except S3Error Unit
  | .putNew _ _ => Except S3Error Unit
  | .fetch _ => Except String FetchResponse

abbrev CaptureM (α : Type) : Type := ExceptT CaptureError (Prog Effect Reply) α

def perform (e : Effect) : CaptureM (Reply e) := ExceptT.lift (Prog.call e)

/-- `manifest_exists`. -/
def manifestExists (manifestKey : String) : CaptureM Bool := do
  match ← (perform (.headObject manifestKey) : CaptureM (Except S3Error Unit)) with
  | .ok () => pure true
  | .error e => if e.notFound then pure false else throw (.s3 e)

/-- The member `sha256` of a stored pointer. -/
def pointerSha256 [PointerDecoder] : Object → Option String
  | .bytes content => PointerDecoder.sha256 content
  | .json members =>
    match members.lookup "sha256" with
    | some (.str value) => some value
    | _ => none

/-- `_read_latest_pointer_sha256`. -/
def readLatestPointerSha256 [PointerDecoder] (sourceKey : String) : CaptureM (Option String) := do
  match ← (perform (.getObject (buildLatestKey sourceKey)) : CaptureM (Except S3Error Object)) with
  | .ok object => pure (pointerSha256 object)
  | .error e => if e.notFound then pure none else throw (.s3 e)

/-- `_write_latest_pointer`. -/
def writeLatestPointer (sourceKey sha256Hex : String) (capturedAt : Moment) (manifestKey : String) :
    CaptureM Unit := do
  let pointer : Members :=
    [("sha256", .str sha256Hex), ("captured_at", .str capturedAt.isoformat),
      ("manifest_key", .str manifestKey)]
  match ← (perform (.putObject (buildLatestKey sourceKey) (.json pointer)) :
      CaptureM (Except S3Error Unit)) with
  | .ok () => pure ()
  | .error e => throw (.s3 e)

/-- `_write_manifest`. -/
def writeManifest (manifestKey : String) (manifest : Members) : CaptureM Unit := do
  match ← (perform (.putNew manifestKey (.json manifest)) : CaptureM (Except S3Error Unit)) with
  | .ok () => pure ()
  | .error e =>
    if e.preconditionFailed then throw .manifestAlreadyWritten else throw (.s3 e)

/-! ## The capture -/

section Capturing

variable [Sha256] [CharacterTables] [PointerDecoder]

/-- What a manifest says of a response that came. -/
def fetchedOf (response : FetchResponse) : Fetched where
  httpStatus := some response.statusCode
  headers := headersSubset response.headers
  sha256 := some (hexdigest response.content)
  byteCount := some response.content.length

/-- The manifest of a failure, unless there is a manifest already. -/
def recordFailure (source : Source) (now : Moment) (invocation : String) (manifest : Members) :
    CaptureM CaptureResult :=
  tryCatch
    (do
      writeManifest (buildManifestKey source.key now.date) manifest
      pure ⟨source.key, "failed", manifest⟩)
    fun e => match e with
      | .manifestAlreadyWritten => pure (alreadyCapturedResult source.key invocation)
      | .s3 e => throw (.s3 e)

/-- The manifest and the pointer of a body that was put. -/
def recordBody (source : Source) (now : Moment) (invocation : String) (response : FetchResponse)
    (bodyKey : String) : CaptureM CaptureResult := do
  let digest := hexdigest response.content
  let manifestKey := buildManifestKey source.key now.date
  let previous ← readLatestPointerSha256 source.key
  let manifest := buildManifest source now "ok" invocation (fetchedOf response) ++
    [("body_key", .str bodyKey),
     ("sha256_prev_delta", .str (if previous = some digest then "unchanged" else "changed"))]
  writeManifest manifestKey manifest
  writeLatestPointer source.key digest now manifestKey
  pure ⟨source.key, "ok", manifest⟩

/-- What follows an error of a call to the object store. -/
def recover (source : Source) (now : Moment) (invocation : String) (response : FetchResponse)
    (bodyKey : String) (bodyWritten : Bool) : CaptureError → CaptureM CaptureResult
  | .manifestAlreadyWritten => pure (alreadyCapturedResult source.key invocation)
  | .s3 e =>
    let manifest := buildManifest source now "failed" invocation (fetchedOf response) ++
      [("error", .str e.text)] ++ if bodyWritten then [("body_key", .str bodyKey)] else []
    tryCatch (recordFailure source now invocation manifest) fun _ =>
      pure ⟨source.key, "failed", manifest⟩

/-- `capture_one_source`. -/
def captureOneSource (source : Source) (now : Moment) (invocation : String) :
    CaptureM CaptureResult := do
  if ← manifestExists (buildManifestKey source.key now.date) then
    pure (alreadyCapturedResult source.key invocation)
  else
    match ← (perform (.fetch source.url) : CaptureM (Except String FetchResponse)) with
    | .error text =>
      recordFailure source now invocation
        (buildManifest source now "failed" invocation {} ++ [("error", .str text)])
    | .ok response =>
      if response.statusCode ≠ 200 then
        recordFailure source now invocation
          (buildManifest source now "failed" invocation (fetchedOf response))
      else
        let contentType := (response.headers "content-type").getD source.expectedContentType
        let bodyKey := buildBodyKey source.key now.date (inferExtension contentType)
        match ← (perform (.putObject bodyKey (.bytes response.content)) :
            CaptureM (Except S3Error Unit)) with
        | .error e => recover source now invocation response bodyKey false (.s3 e)
        | .ok () =>
          tryCatch (recordBody source now invocation response bodyKey)
            (recover source now invocation response bodyKey true)

end Capturing

end Tally.Model.Capture
