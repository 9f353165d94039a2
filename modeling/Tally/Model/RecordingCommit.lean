import Tally.Library.Calendar
import Tally.Model.Capture

/-!
# Committing recordings

The embedding of `recording/commit.py` and of the loop of `restore_live.py`: the manifests of
captures become rows of `tariff_snapshots` and `recordings`. A manifest holds the members the
commit reads, its `captured_at` as the moment it is parsed to. One tenant; the system times
and the texts that are always empty are left out.
-/

set_option autoImplicit false

namespace Tally.Model.RecordingCommit
open Library.Calendar Tally.Model

/-! ## Manifests and rows -/

structure Manifest where
  status : Option String
  capturedAt : AwareDatetime
  url : Option String
  bodyKey : Option String
  sha256 : Option String
  error : Option String
  invocation : Option String

structure TariffSnapshot where
  id : Nat
  carrierId : String
  lane : String
  versionLabel : String
  effectiveDate : Date
  capturedAt : Instant
  sourceUrl : String
  s3Key : String
  docSha256 : String
  recordingId : Option Nat
deriving DecidableEq

inductive RecordingStatus where
  | committed | failed | skipped
deriving DecidableEq

structure Recording where
  id : Nat
  runDate : Date
  target : String
  carrierId : Option String
  lane : Option String
  terminalCode : Option String
  status : RecordingStatus
  rowsWritten : Nat
  s3Key : String
  error : Option String
  startedAt : Instant
  invocation : String
deriving DecidableEq

/-- The two tables and the next row id. -/
structure Database where
  nextId : Nat
  recordings : List Recording
  tariffSnapshots : List TariffSnapshot
deriving DecidableEq

structure CommitResult where
  sourceKey : String
  recordingStatus : RecordingStatus
  rowsWritten : Nat
  recordingId : Option Nat
  tariffSnapshotId : Option Nat

/-- An unknown source, carrier or member, or a column that may not be null. -/
inductive CommitError where
  | keyError
  | notNullViolation
deriving DecidableEq

/-! ## Rows of a manifest -/

/-- `SOURCE_KEY_TO_SCAC`. -/
def sourceKeyToScac : List (String × String) :=
  [("northstar-ocean-demo-tariff", "NOLU"), ("bluehaven-maritime-demo-tariff", "BHMU"),
    ("harborview-terminal-demo-tariff", "HVTM")]

/-- `carrier_scac_for_source`. -/
def carrierScacForSource (sourceKey : String) : Option String := sourceKeyToScac.lookup sourceKey

def recordingTargetTariff : String := "tariff"

/-- `_MANIFEST_STATUS_TO_RECORDING_STATUS`, any other status being a failure. -/
def recordingStatus (manifestStatus : String) : RecordingStatus :=
  if manifestStatus = "ok" then .committed
  else if manifestStatus = "skipped" then .skipped
  else .failed

/-- `manifest.get("status", "failed")`. -/
def Manifest.statusText (manifest : Manifest) : String := manifest.status.getD "failed"

/-- `build_tariff_snapshot_row` and the checks of the columns it fills. -/
def buildTariffSnapshotRow (id : Nat) (carrierId : String) (source : Capture.Source)
    (manifest : Manifest) : Except CommitError TariffSnapshot :=
  match manifest.url, manifest.sha256 with
  | some url, some sha256 =>
    match manifest.bodyKey with
    | none => .error .notNullViolation
    | some bodyKey =>
      .ok
        { id
          carrierId
          lane := source.laneLabel
          versionLabel := "v" ++ manifest.capturedAt.date.isoformat
          effectiveDate := manifest.capturedAt.date
          capturedAt := manifest.capturedAt.instant
          sourceUrl := url
          s3Key := bodyKey
          docSha256 := sha256
          recordingId := none }
  | _, _ => .error .keyError

/-- `value or default` of an optional text. -/
def orText (value : Option String) (default : String) : String :=
  match value with
  | some text => if text = "" then default else text
  | none => default

/-- `build_recording_row`. -/
def buildRecordingRow (id : Nat) (runDate : Date) (carrierId lane : Option String)
    (manifest : Manifest) (manifestKey : String) (rowsWritten : Nat) : Recording where
  id := id
  runDate := runDate
  target := recordingTargetTariff
  carrierId := carrierId
  lane := lane
  terminalCode := none
  status := recordingStatus manifest.statusText
  rowsWritten := rowsWritten
  s3Key := orText manifest.bodyKey manifestKey
  error := manifest.error
  startedAt := manifest.capturedAt.instant
  invocation := manifest.invocation.getD "manual"

/-! ## Inserts -/

/-- `tariff_snap_day_idx`. -/
def sameSnapshot (first second : TariffSnapshot) : Bool :=
  decide (first.carrierId = second.carrierId ∧ first.lane = second.lane ∧
    first.capturedAt = second.capturedAt)

/-- `NULL` equals nothing, itself included. -/
def sqlEquals (first second : Option String) : Bool :=
  match first, second with
  | some first, some second => decide (first = second)
  | _, _ => false

/-- `recordings_day_idx`: the lane and the terminal are coalesced, the carrier is not. -/
def sameRecording (first second : Recording) : Bool :=
  decide (first.runDate = second.runDate) && decide (first.target = second.target) &&
    sqlEquals first.carrierId second.carrierId &&
    decide (first.lane.getD "" = second.lane.getD "") &&
    decide (first.terminalCode.getD "" = second.terminalCode.getD "")

/-- `INSERT ... ON CONFLICT DO NOTHING RETURNING id`. -/
def insertTariffSnapshot (row : TariffSnapshot) (db : Database) : Option Nat × Database :=
  if db.tariffSnapshots.any (sameSnapshot row) then (none, db)
  else (some row.id,
    { db with nextId := db.nextId + 1, tariffSnapshots := db.tariffSnapshots ++ [row] })

def insertRecording (row : Recording) (db : Database) : Option Nat × Database :=
  if db.recordings.any (sameRecording row) then (none, db)
  else (some row.id, { db with nextId := db.nextId + 1, recordings := db.recordings ++ [row] })

/-- `_LINK_SNAPSHOT_TO_RECORDING_SQL`. -/
def linkSnapshot (recordingId snapshotId : Nat) (db : Database) : Database :=
  { db with
    tariffSnapshots := db.tariffSnapshots.map fun row =>
      if row.id = snapshotId then { row with recordingId := some recordingId } else row }

/-! ## Commits -/

/-- A manifest to be committed for its source. -/
structure Commit where
  source : Capture.Source
  manifest : Manifest
  runDate : Option Date

/-- `run_date or captured_at.date()`. -/
def Commit.effectiveRunDate (commit : Commit) : Date :=
  commit.runDate.getD commit.manifest.capturedAt.date

section Commits

variable (carrierIdByScac : List (String × String))

/-- The carrier of a manifest with a body. -/
def carrierOf (commit : Commit) : Except CommitError String :=
  match carrierScacForSource commit.source.key with
  | none => .error .keyError
  | some scac =>
    match carrierIdByScac.lookup scac with
    | none => .error .keyError
    | some carrierId => .ok carrierId

omit carrierIdByScac in
/-- The recording of a commit, and the link from a snapshot just inserted. -/
def commitRecording (commit : Commit) (carrierId lane : Option String)
    (tariffSnapshotId : Option Nat) (db : Database) : CommitResult × Database :=
  let manifestKey :=
    Capture.buildManifestKey commit.source.key commit.effectiveRunDate.isoformat
  let rowsWritten := if tariffSnapshotId.isSome then 1 else 0
  let row := buildRecordingRow db.nextId commit.effectiveRunDate carrierId lane commit.manifest
    manifestKey rowsWritten
  let inserted := insertRecording row db
  let linked := match tariffSnapshotId, inserted.1 with
    | some snapshotId, some recordingId => linkSnapshot recordingId snapshotId inserted.2
    | _, _ => inserted.2
  (⟨commit.source.key, recordingStatus commit.manifest.statusText, rowsWritten, inserted.1,
    tariffSnapshotId⟩, linked)

/-- `commit_source_day`: one transaction. -/
def commitSourceDay (commit : Commit) (db : Database) :
    Except CommitError CommitResult × Database :=
  if commit.manifest.statusText = "ok" then
    match carrierOf carrierIdByScac commit with
    | .error e => (.error e, db)
    | .ok carrierId =>
      match buildTariffSnapshotRow db.nextId carrierId commit.source commit.manifest with
      | .error e => (.error e, db)
      | .ok row =>
        let inserted := insertTariffSnapshot row db
        let (result, db) := commitRecording commit (some carrierId)
          (some commit.source.laneLabel) inserted.1 inserted.2
        (.ok result, db)
  else
    let (result, db) := commitRecording commit none none none db
    (.ok result, db)

/-- `read_manifest` of a source and a day. -/
def readManifest (store : String → Option Manifest) (source : Capture.Source) (runDate : Date) :
    Option Manifest :=
  store (Capture.buildManifestKey source.key runDate.isoformat)

/-- `commit_day`: a source without a manifest is passed over. -/
def commitDay (store : String → Option Manifest) (runDate : Date) :
    List Capture.Source → Database → Except CommitError (List CommitResult) × Database
  | [], db => (.ok [], db)
  | source :: sources, db =>
    match readManifest store source runDate with
    | none => commitDay store runDate sources db
    | some manifest =>
      match commitSourceDay carrierIdByScac ⟨source, manifest, some runDate⟩ db with
      | (.error e, db) => (.error e, db)
      | (.ok result, db) =>
        match commitDay store runDate sources db with
        | (.error e, db) => (.error e, db)
        | (.ok results, db) => (.ok (result :: results), db)

omit carrierIdByScac in
/-- `daterange`. -/
def daterange (startDate endDate : Date) : List Date :=
  if endDate < startDate then []
  else (List.range (endDate.toOrdinal - startDate.toOrdinal + 1)).filterMap startDate.addDays

/-- The loop of `replay_range` over its days. -/
def replayDays (store : String → Option Manifest) (sources : List Capture.Source) :
    List Date → Database → Except CommitError (List CommitResult) × Database
  | [], db => (.ok [], db)
  | runDate :: days, db =>
    match commitDay carrierIdByScac store runDate sources db with
    | (.error e, db) => (.error e, db)
    | (.ok dayResults, db) =>
      match replayDays store sources days db with
      | (.error e, db) => (.error e, db)
      | (.ok results, db) => (.ok (dayResults ++ results), db)

/-- `replay_range`. -/
def replayRange (store : String → Option Manifest) (sources : List Capture.Source)
    (startDate endDate : Date) (db : Database) :
    Except CommitError (List CommitResult) × Database :=
  replayDays carrierIdByScac store sources (daterange startDate endDate) db

end Commits

end Tally.Model.RecordingCommit
