import Mathlib.Data.List.TakeWhile
import Tally.Library.Replay
import Tally.Model.RecordingCommit

/-!
# Repeated recording commits

Committing the same captures again, in any order and any number of times, leaves the rows
of one commit of each, as long as the captures succeeded: a recording without a carrier
conflicts with no other. Snapshots are linked to the recording of their own day if a
carrier's lane is captured at one moment a day.
-/

set_option autoImplicit false

namespace Tally.Analysis.Recordings
open Library Library.Calendar Library.Replay Model Model.RecordingCommit

deriving instance DecidableEq for Capture.Source
deriving instance DecidableEq for Manifest
deriving instance DecidableEq for Commit

section Commits

variable {carrierIdByScac : List (String × String)} {commit : Commit} {db : Database}

/-! ## What a commit writes -/

/-- The state a commit leaves. -/
def exec (carrierIdByScac : List (String × String)) (commit : Commit) (db : Database) :
    Database :=
  (commitSourceDay carrierIdByScac commit db).2

/-- The carrier and the snapshot row of a successful capture, with an id. -/
def captured (carrierIdByScac : List (String × String)) (commit : Commit) (id : Nat) :
    Except CommitError (String × TariffSnapshot) :=
  match carrierOf carrierIdByScac commit with
  | .error e => .error e
  | .ok carrierId =>
    match buildTariffSnapshotRow id carrierId commit.source commit.manifest with
    | .error e => .error e
    | .ok row => .ok (carrierId, row)

/-- The recording row of a commit. -/
def recordingOf (commit : Commit) (id : Nat) (carrierId lane : Option String)
    (rowsWritten : Nat) : Recording :=
  buildRecordingRow id commit.effectiveRunDate carrierId lane commit.manifest
    (Capture.buildManifestKey commit.source.key commit.effectiveRunDate.isoformat) rowsWritten

theorem sameRecording_null (row other : Recording) (h : row.carrierId = none) :
    sameRecording row other = false := by
  unfold sameRecording
  rw [h]
  simp [sqlEquals]

/-- A capture that did not succeed always inserts its recording. -/
theorem exec_unsuccessful (h : commit.manifest.statusText ≠ "ok") :
    exec carrierIdByScac commit db =
      { db with
        nextId := db.nextId + 1
        recordings := db.recordings ++ [recordingOf commit db.nextId none none 0] } := by
  have hnew : db.recordings.any (sameRecording (recordingOf commit db.nextId none none 0)) =
      false := by
    refine List.any_eq_false.mpr ?_
    intro row _
    rw [sameRecording_null _ _ rfl]
    exact Bool.false_ne_true
  unfold exec commitSourceDay
  rw [if_neg h]
  show (commitRecording commit none none none db).2 = _
  unfold recordingOf at hnew
  simp only [commitRecording, Option.isSome_none, Bool.false_eq_true, if_false, insertRecording,
    hnew]
  rfl

/-- A capture without a known carrier or body raises and writes nothing. -/
theorem exec_raised {e : CommitError} (h : commit.manifest.statusText = "ok")
    (hraised : captured carrierIdByScac commit db.nextId = .error e) :
    exec carrierIdByScac commit db = db := by
  unfold exec commitSourceDay
  rw [if_pos h]
  unfold captured at hraised
  split
  · rfl
  · rename_i carrierId hcarrier
    rw [hcarrier] at hraised
    dsimp only at hraised
    split
    · rfl
    · rename_i row hrow
      rw [hrow] at hraised
      exact absurd hraised (by simp)

/-- A successful capture inserts its snapshot, then its recording and their link. -/
theorem exec_captured {carrierId : String} {row : TariffSnapshot}
    (h : commit.manifest.statusText = "ok")
    (hcaptured : captured carrierIdByScac commit db.nextId = .ok (carrierId, row)) :
    exec carrierIdByScac commit db =
      (commitRecording commit (some carrierId) (some commit.source.laneLabel)
        (insertTariffSnapshot row db).1 (insertTariffSnapshot row db).2).2 := by
  unfold captured at hcaptured
  unfold exec commitSourceDay
  rw [if_pos h]
  split at hcaptured
  · exact absurd hcaptured (by simp)
  · rename_i carrierId' hcarrier
    split at hcaptured
    · exact absurd hcaptured (by simp)
    · rename_i row' hrow
      obtain ⟨rfl, rfl⟩ := Prod.mk.inj (Except.ok.inj hcaptured)
      simp only [hcarrier, hrow]

/-- The row of a successful capture. -/
theorem captured_ok {id : Nat} {carrierId : String} {row : TariffSnapshot}
    (h : captured carrierIdByScac commit id = .ok (carrierId, row)) :
    carrierOf carrierIdByScac commit = .ok carrierId ∧ row.id = id ∧
      row.carrierId = carrierId ∧ row.lane = commit.source.laneLabel ∧
      row.effectiveDate = commit.manifest.capturedAt.date ∧
      row.capturedAt = commit.manifest.capturedAt.instant := by
  unfold captured at h
  split at h
  · exact absurd h (by simp)
  · rename_i carrierId' hcarrier
    split at h
    · exact absurd h (by simp)
    · rename_i row' hrow
      obtain ⟨rfl, rfl⟩ := Prod.mk.inj (Except.ok.inj h)
      unfold buildTariffSnapshotRow at hrow
      split at hrow
      · split at hrow
        · exact absurd hrow (by simp)
        · obtain rfl := Except.ok.inj hrow
          exact ⟨hcarrier, rfl, rfl, rfl, rfl, rfl⟩
      · exact absurd hrow (by simp)

/-- Whether a capture raises does not depend on the id. -/
theorem captured_id {id : Nat} {carrierId : String} {row : TariffSnapshot} (other : Nat)
    (h : captured carrierIdByScac commit id = .ok (carrierId, row)) :
    captured carrierIdByScac commit other = .ok (carrierId, { row with id := other }) := by
  unfold captured at h ⊢
  split at h
  · exact absurd h (by simp)
  · rename_i carrierId' hcarrier
    split at h
    · exact absurd h (by simp)
    · rename_i row' hrow
      obtain ⟨rfl, rfl⟩ := Prod.mk.inj (Except.ok.inj h)
      unfold buildTariffSnapshotRow at hrow ⊢
      split at hrow
      · split at hrow
        · exact absurd hrow (by simp)
        · obtain rfl := Except.ok.inj hrow
          rfl
      · exact absurd hrow (by simp)

/-! ## Writes -/

/-- What an insert and a link keep: the recordings, and of a snapshot all but its link. -/
structure Grows (db db' : Database) : Prop where
  recordings : ∀ row ∈ db.recordings, row ∈ db'.recordings
  snapshots : ∀ row ∈ db.tariffSnapshots, ∃ row' ∈ db'.tariffSnapshots,
    row'.carrierId = row.carrierId ∧ row'.lane = row.lane ∧ row'.capturedAt = row.capturedAt

theorem Grows.refl (db : Database) : Grows db db :=
  ⟨fun _ h => h, fun row h => ⟨row, h, rfl, rfl, rfl⟩⟩

theorem Grows.trans {first second third : Database} (h : Grows first second)
    (h' : Grows second third) : Grows first third := by
  refine ⟨fun row hrow => h'.recordings row (h.recordings row hrow), ?_⟩
  intro row hrow
  obtain ⟨row', hrow', hcarrier, hlane, hat⟩ := h.snapshots row hrow
  obtain ⟨row'', hrow'', hcarrier', hlane', hat'⟩ := h'.snapshots row' hrow'
  exact ⟨row'', hrow'', hcarrier'.trans hcarrier, hlane'.trans hlane, hat'.trans hat⟩

theorem insertTariffSnapshot_grows (row : TariffSnapshot) (db : Database) :
    Grows db (insertTariffSnapshot row db).2 := by
  unfold insertTariffSnapshot
  split
  · exact Grows.refl db
  · exact ⟨fun _ h => h, fun other h => ⟨other, List.mem_append_left _ h, rfl, rfl, rfl⟩⟩

theorem insertRecording_grows (row : Recording) (db : Database) :
    Grows db (insertRecording row db).2 := by
  unfold insertRecording
  split
  · exact Grows.refl db
  · exact ⟨fun _ h => List.mem_append_left _ h, fun other h => ⟨other, h, rfl, rfl, rfl⟩⟩

theorem linkSnapshot_grows (recordingId snapshotId : Nat) (db : Database) :
    Grows db (linkSnapshot recordingId snapshotId db) := by
  refine ⟨fun _ h => h, ?_⟩
  intro row hrow
  refine ⟨_, List.mem_map_of_mem hrow, ?_⟩
  split
  · exact ⟨rfl, rfl, rfl⟩
  · exact ⟨rfl, rfl, rfl⟩

theorem commitRecording_grows (commit : Commit) (carrierId lane : Option String)
    (tariffSnapshotId : Option Nat) (db : Database) :
    Grows db (commitRecording commit carrierId lane tariffSnapshotId db).2 := by
  unfold commitRecording
  dsimp only
  split
  · exact (insertRecording_grows _ db).trans (linkSnapshot_grows _ _ _)
  · exact insertRecording_grows _ db

theorem exec_grows (carrierIdByScac : List (String × String)) (commit : Commit) (db : Database) :
    Grows db (exec carrierIdByScac commit db) := by
  by_cases hok : commit.manifest.statusText = "ok"
  · cases hcaptured : captured carrierIdByScac commit db.nextId with
    | error e =>
        rw [exec_raised hok hcaptured]
        exact Grows.refl db
    | ok result =>
        rw [exec_captured hok hcaptured]
        exact (insertTariffSnapshot_grows _ db).trans (commitRecording_grows _ _ _ _ _)
  · rw [exec_unsuccessful hok]
    exact ⟨fun _ h => List.mem_append_left _ h, fun row h => ⟨row, h, rfl, rfl, rfl⟩⟩

/-! ## Commits that are held -/

/-- The rows of a successful capture are there. -/
def Held (carrierIdByScac : List (String × String)) (commit : Commit) (db : Database) : Prop :=
  ∀ carrierId row, captured carrierIdByScac commit 0 = .ok (carrierId, row) →
    (∃ snapshot ∈ db.tariffSnapshots, snapshot.carrierId = carrierId ∧
      snapshot.lane = commit.source.laneLabel ∧
      snapshot.capturedAt = commit.manifest.capturedAt.instant) ∧
    ∃ recording ∈ db.recordings,
      sameRecording (recordingOf commit 0 (some carrierId) (some commit.source.laneLabel) 0)
        recording = true

theorem Held.mono {db' : Database} (h : Held carrierIdByScac commit db) (hgrows : Grows db db') :
    Held carrierIdByScac commit db' := by
  intro carrierId row hcaptured
  obtain ⟨⟨snapshot, hsnapshot, hcarrier, hlane, hat⟩, recording, hrecording, hsame⟩ :=
    h carrierId row hcaptured
  obtain ⟨snapshot', hsnapshot', hcarrier', hlane', hat'⟩ := hgrows.snapshots snapshot hsnapshot
  exact ⟨⟨snapshot', hsnapshot', hcarrier'.trans hcarrier, hlane'.trans hlane, hat'.trans hat⟩,
    recording, hgrows.recordings recording hrecording, hsame⟩

theorem sameRecording_self {carrierId lane : String} {id id' rows rows' : Nat} :
    sameRecording (recordingOf commit id (some carrierId) (some lane) rows)
      (recordingOf commit id' (some carrierId) (some lane) rows') = true := by
  simp [sameRecording, recordingOf, buildRecordingRow, sqlEquals]

/-- A commit leaves its rows. -/
theorem held_exec (hok : commit.manifest.statusText = "ok") :
    Held carrierIdByScac commit (exec carrierIdByScac commit db) := by
  intro carrierId row hcaptured
  have hcaptured' := captured_id db.nextId hcaptured
  obtain ⟨_, _, hcarrier, hlane, _, hat⟩ := captured_ok hcaptured'
  rw [exec_captured hok hcaptured']
  constructor
  · have hinserted : ∃ snapshot ∈ (insertTariffSnapshot { row with id := db.nextId } db).2.tariffSnapshots,
        snapshot.carrierId = carrierId ∧ snapshot.lane = commit.source.laneLabel ∧
          snapshot.capturedAt = commit.manifest.capturedAt.instant := by
      unfold insertTariffSnapshot
      split
      · rename_i hany
        obtain ⟨snapshot, hsnapshot, hsame⟩ := List.any_eq_true.mp hany
        obtain ⟨hcarrier', hlane', hat'⟩ := of_decide_eq_true hsame
        exact ⟨snapshot, hsnapshot, hcarrier'.symm.trans hcarrier, hlane'.symm.trans hlane,
          hat'.symm.trans hat⟩
      · exact ⟨_, List.mem_append_right _ List.mem_cons_self, hcarrier, hlane, hat⟩
    obtain ⟨snapshot, hsnapshot, hcarrier', hlane', hat'⟩ := hinserted
    obtain ⟨snapshot', hsnapshot', hcarrier'', hlane'', hat''⟩ :=
      (commitRecording_grows commit (some carrierId) (some commit.source.laneLabel) _ _).snapshots
        snapshot hsnapshot
    exact ⟨snapshot', hsnapshot', hcarrier''.trans hcarrier', hlane''.trans hlane',
      hat''.trans hat'⟩
  · unfold commitRecording
    dsimp only
    have hinserted : ∀ (row : Recording) (db : Database),
        sameRecording (recordingOf commit 0 (some carrierId) (some commit.source.laneLabel) 0)
          row = true →
        (∀ other, sameRecording row other = true →
          sameRecording (recordingOf commit 0 (some carrierId) (some commit.source.laneLabel) 0)
            other = true) →
        ∃ recording ∈ (insertRecording row db).2.recordings,
          sameRecording (recordingOf commit 0 (some carrierId) (some commit.source.laneLabel) 0)
            recording = true := by
      intro row db hrow hother
      unfold insertRecording
      split
      · rename_i hany
        obtain ⟨recording, hrecording, hsame⟩ := List.any_eq_true.mp hany
        exact ⟨recording, hrecording, hother recording hsame⟩
      · exact ⟨row, List.mem_append_right _ List.mem_cons_self, hrow⟩
    split
    · exact hinserted _ _ sameRecording_self fun other hsame => hsame
    · exact hinserted _ _ sameRecording_self fun other hsame => hsame

/-- A commit whose rows are there writes nothing. -/
theorem exec_of_held (hok : commit.manifest.statusText = "ok")
    (h : Held carrierIdByScac commit db) : exec carrierIdByScac commit db = db := by
  cases hcaptured : captured carrierIdByScac commit db.nextId with
  | error e => exact exec_raised hok hcaptured
  | ok result =>
      obtain ⟨carrierId, row⟩ := result
      obtain ⟨_, _, hcarrier, hlane, _, hat⟩ := captured_ok hcaptured
      obtain ⟨⟨snapshot, hsnapshot, hcarrier', hlane', hat'⟩, recording, hrecording, hsame⟩ :=
        h carrierId _ (captured_id 0 hcaptured)
      have hold : db.tariffSnapshots.any (sameSnapshot row) = true := by
        refine List.any_eq_true.mpr ⟨snapshot, hsnapshot, decide_eq_true ⟨?_, ?_, ?_⟩⟩
        · exact hcarrier.trans hcarrier'.symm
        · exact hlane.trans hlane'.symm
        · exact hat.trans hat'.symm
      have hsnapshots : insertTariffSnapshot row db = (none, db) := by
        unfold insertTariffSnapshot
        rw [if_pos hold]
      have hrecordings : db.recordings.any (sameRecording (recordingOf commit db.nextId
          (some carrierId) (some commit.source.laneLabel) 0)) = true :=
        List.any_eq_true.mpr ⟨recording, hrecording, hsame⟩
      rw [exec_captured hok hcaptured, hsnapshots]
      unfold recordingOf at hrecordings
      simp only [commitRecording, Option.isSome_none, Bool.false_eq_true, if_false,
        insertRecording, hrecordings, if_true]

/-- Committing twice is committing once exactly when the capture succeeded. -/
theorem exec_twice_iff :
    exec carrierIdByScac commit (exec carrierIdByScac commit db) =
        exec carrierIdByScac commit db ↔ commit.manifest.statusText = "ok" := by
  constructor
  · intro htwice
    by_contra hok
    have hnext := congrArg Database.nextId htwice
    rw [exec_unsuccessful hok, exec_unsuccessful hok] at hnext
    dsimp only at hnext
    omega
  · intro hok
    exact exec_of_held hok (held_exec hok)

/-! ## Links -/

/-- A successful capture of a carrier. -/
def CapturedBy (carrierIdByScac : List (String × String)) (commit : Commit)
    (carrierId : String) : Prop :=
  commit.manifest.statusText = "ok" ∧ ∃ row, captured carrierIdByScac commit 0 = .ok (carrierId, row)

/-- Captures are of their own day, and a carrier's lane is captured at one moment a day. -/
structure OneADay (carrierIdByScac : List (String × String)) (commits : List Commit) : Prop where
  dated : ∀ commit ∈ commits, ∀ carrierId, CapturedBy carrierIdByScac commit carrierId →
    commit.effectiveRunDate = commit.manifest.capturedAt.date
  single : ∀ first ∈ commits, ∀ second ∈ commits, ∀ carrierId,
    CapturedBy carrierIdByScac first carrierId → CapturedBy carrierIdByScac second carrierId →
    first.source.laneLabel = second.source.laneLabel →
    first.effectiveRunDate = second.effectiveRunDate →
    first.manifest.capturedAt.instant = second.manifest.capturedAt.instant

/-- A snapshot is linked to the recording of its carrier, lane and day. -/
def Linked (db : Database) (snapshot : TariffSnapshot) : Prop :=
  ∃ recording ∈ db.recordings, snapshot.recordingId = some recording.id ∧
    recording.carrierId = some snapshot.carrierId ∧ recording.lane = some snapshot.lane ∧
    recording.runDate = snapshot.effectiveDate

/-- What linked commits keep: fresh ids, links, and behind every recording of a carrier a
commit whose snapshot is there. -/
structure LinkedRows (carrierIdByScac : List (String × String)) (done : List Commit)
    (db : Database) : Prop where
  ids : ∀ snapshot ∈ db.tariffSnapshots, snapshot.id < db.nextId
  linked : ∀ snapshot ∈ db.tariffSnapshots, Linked db snapshot
  backed : ∀ recording ∈ db.recordings, ∀ carrierId, recording.carrierId = some carrierId →
    ∃ commit ∈ done, CapturedBy carrierIdByScac commit carrierId ∧
      recording.runDate = commit.effectiveRunDate ∧
      recording.lane = some commit.source.laneLabel ∧
      ∃ snapshot ∈ db.tariffSnapshots, snapshot.carrierId = carrierId ∧
        snapshot.lane = commit.source.laneLabel ∧
        snapshot.capturedAt = commit.manifest.capturedAt.instant

theorem Linked.mono {db' : Database} {snapshot : TariffSnapshot} (h : Linked db snapshot)
    (hrecordings : ∀ row ∈ db.recordings, row ∈ db'.recordings) : Linked db' snapshot := by
  obtain ⟨recording, hrecording, hrest⟩ := h
  exact ⟨recording, hrecordings recording hrecording, hrest⟩

/-- Recordings without a carrier need no snapshot. -/
theorem LinkedRows.unsuccessful {done : List Commit} (h : LinkedRows carrierIdByScac done db)
    (hok : commit.manifest.statusText ≠ "ok") :
    LinkedRows carrierIdByScac (done ++ [commit]) (exec carrierIdByScac commit db) := by
  rw [exec_unsuccessful hok]
  refine ⟨?_, ?_, ?_⟩
  · intro snapshot hsnapshot
    exact Nat.lt_succ_of_lt (h.ids snapshot hsnapshot)
  · intro snapshot hsnapshot
    exact (h.linked snapshot hsnapshot).mono fun _ hrow => List.mem_append_left _ hrow
  · intro recording hrecording carrierId hcarrier
    rcases List.mem_append.mp hrecording with hold | hnew
    · obtain ⟨other, hother, hrest⟩ := h.backed recording hold carrierId hcarrier
      exact ⟨other, List.mem_append_left _ hother, hrest⟩
    · rw [List.mem_singleton.mp hnew] at hcarrier
      exact absurd hcarrier (by simp [recordingOf, buildRecordingRow])

theorem LinkedRows.weaken {done : List Commit} (h : LinkedRows carrierIdByScac done db) :
    LinkedRows carrierIdByScac (done ++ [commit]) db := by
  refine ⟨h.ids, h.linked, ?_⟩
  intro recording hrecording carrierId hcarrier
  obtain ⟨other, hother, hrest⟩ := h.backed recording hrecording carrierId hcarrier
  exact ⟨other, List.mem_append_left _ hother, hrest⟩

/-- A recording of the carrier's lane and day that is already there comes from a capture at
the same moment. -/
theorem snapshot_of_conflict {done : List Commit} {carrierId : String} {id rows : Nat}
    (h : LinkedRows carrierIdByScac done db)
    (hone : OneADay carrierIdByScac (done ++ [commit]))
    (hcaptured : CapturedBy carrierIdByScac commit carrierId)
    (hconflict : db.recordings.any (sameRecording (recordingOf commit id (some carrierId)
      (some commit.source.laneLabel) rows)) = true) :
    ∃ snapshot ∈ db.tariffSnapshots, snapshot.carrierId = carrierId ∧
      snapshot.lane = commit.source.laneLabel ∧
      snapshot.capturedAt = commit.manifest.capturedAt.instant := by
  obtain ⟨recording, hrecording, hsame⟩ := List.any_eq_true.mp hconflict
  have hcarrier : recording.carrierId = some carrierId := by
    cases hc : recording.carrierId with
    | none => simp [sameRecording, recordingOf, buildRecordingRow, sqlEquals, hc] at hsame
    | some other =>
        simp only [sameRecording, recordingOf, buildRecordingRow, sqlEquals, hc,
          Bool.and_eq_true, decide_eq_true_eq] at hsame
        rw [hsame.1.1.2]
  obtain ⟨other, hother, hby, hdate, hlane, snapshot, hsnapshot, hsc, hsl, hsa⟩ :=
    h.backed recording hrecording carrierId hcarrier
  have hkeys : commit.effectiveRunDate = recording.runDate ∧
      commit.source.laneLabel = recording.lane.getD "" := by
    simp only [sameRecording, recordingOf, buildRecordingRow, Bool.and_eq_true,
      Option.getD_some] at hsame
    exact ⟨of_decide_eq_true hsame.1.1.1.1, of_decide_eq_true hsame.1.2⟩
  have hlanes : other.source.laneLabel = commit.source.laneLabel := by
    rw [hkeys.2, hlane, Option.getD_some]
  have hat := hone.single other (List.mem_append_left _ hother) commit
    (List.mem_append_right _ List.mem_cons_self) carrierId hby hcaptured hlanes
    (hdate.symm.trans hkeys.1.symm)
  exact ⟨snapshot, hsnapshot, hsc, hsl.trans hlanes, hsa.trans hat⟩

/-- A snapshot and a recording that are both new are linked. -/
theorem exec_new {carrierId : String} {row : TariffSnapshot}
    (hok : commit.manifest.statusText = "ok")
    (hcaptured : captured carrierIdByScac commit db.nextId = .ok (carrierId, row))
    (hsnapshots : db.tariffSnapshots.any (sameSnapshot row) = false)
    (hrecordings : db.recordings.any (sameRecording (recordingOf commit (db.nextId + 1)
      (some carrierId) (some commit.source.laneLabel) 1)) = false) :
    exec carrierIdByScac commit db =
      linkSnapshot (db.nextId + 1) db.nextId
        { nextId := db.nextId + 1 + 1
          recordings := db.recordings ++ [recordingOf commit (db.nextId + 1) (some carrierId)
            (some commit.source.laneLabel) 1]
          tariffSnapshots := db.tariffSnapshots ++ [row] } := by
  obtain ⟨_, hid, _⟩ := captured_ok hcaptured
  rw [exec_captured hok hcaptured]
  have hinserted : insertTariffSnapshot row db = (some db.nextId,
      { db with nextId := db.nextId + 1, tariffSnapshots := db.tariffSnapshots ++ [row] }) := by
    unfold insertTariffSnapshot
    rw [hsnapshots, hid]
    rfl
  rw [hinserted]
  unfold recordingOf at hrecordings ⊢
  simp only [commitRecording, Option.isSome_some, if_true, insertRecording, hrecordings,
    Bool.false_eq_true, if_false]
  rfl

/-- A snapshot that is there leaves only a recording to insert. -/
theorem exec_old {carrierId : String} {row : TariffSnapshot}
    (hok : commit.manifest.statusText = "ok")
    (hcaptured : captured carrierIdByScac commit db.nextId = .ok (carrierId, row))
    (hsnapshots : db.tariffSnapshots.any (sameSnapshot row) = true) :
    exec carrierIdByScac commit db =
      (insertRecording (recordingOf commit db.nextId (some carrierId)
        (some commit.source.laneLabel) 0) db).2 := by
  rw [exec_captured hok hcaptured]
  have hinserted : insertTariffSnapshot row db = (none, db) := by
    unfold insertTariffSnapshot
    rw [if_pos hsnapshots]
  rw [hinserted]
  rfl

theorem capturedBy_of {carrierId : String} {row : TariffSnapshot} {id : Nat}
    (hok : commit.manifest.statusText = "ok")
    (hcaptured : captured carrierIdByScac commit id = .ok (carrierId, row)) :
    CapturedBy carrierIdByScac commit carrierId :=
  ⟨hok, _, captured_id 0 hcaptured⟩

/-- A capture of a moment that is there already adds at most its recording. -/
theorem LinkedRows.old {done : List Commit} {carrierId : String} {row : TariffSnapshot}
    (h : LinkedRows carrierIdByScac done db) (hok : commit.manifest.statusText = "ok")
    (hcaptured : captured carrierIdByScac commit db.nextId = .ok (carrierId, row))
    (hsnapshots : db.tariffSnapshots.any (sameSnapshot row) = true) :
    LinkedRows carrierIdByScac (done ++ [commit]) (exec carrierIdByScac commit db) := by
  obtain ⟨_, _, hcarrier, hlane, _, hat⟩ := captured_ok hcaptured
  obtain ⟨snapshot, hsnapshot, hsame⟩ := List.any_eq_true.mp hsnapshots
  obtain ⟨hcarrier', hlane', hat'⟩ := of_decide_eq_true hsame
  rw [exec_old hok hcaptured hsnapshots]
  unfold insertRecording
  split
  · exact h.weaken
  · refine ⟨?_, ?_, ?_⟩
    · intro other hother
      exact Nat.lt_succ_of_lt (h.ids other hother)
    · intro other hother
      exact (h.linked other hother).mono fun _ hrow => List.mem_append_left _ hrow
    · intro recording hrecording other hother
      rcases List.mem_append.mp hrecording with hold | hnew
      · obtain ⟨earlier, hearlier, hrest⟩ := h.backed recording hold other hother
        exact ⟨earlier, List.mem_append_left _ hearlier, hrest⟩
      · rw [List.mem_singleton.mp hnew] at hother ⊢
        obtain rfl := Option.some.inj hother
        exact ⟨commit, List.mem_append_right _ List.mem_cons_self, capturedBy_of hok hcaptured,
          rfl, rfl, snapshot, hsnapshot, hcarrier'.symm.trans hcarrier, hlane'.symm.trans hlane,
          hat'.symm.trans hat⟩

/-- The snapshots after a new one is linked. -/
theorem mem_linkSnapshot {snapshots : List TariffSnapshot} {row other : TariffSnapshot}
    {recordingId : Nat} (hids : ∀ snapshot ∈ snapshots, snapshot.id < row.id)
    (h : other ∈ (snapshots ++ [row]).map fun snapshot =>
      if snapshot.id = row.id then { snapshot with recordingId := some recordingId }
      else snapshot) :
    other ∈ snapshots ∨ other = { row with recordingId := some recordingId } := by
  obtain ⟨snapshot, hsnapshot, rfl⟩ := List.mem_map.mp h
  rcases List.mem_append.mp hsnapshot with hold | hnew
  · have hlt := hids snapshot hold
    rw [if_neg (by omega)]
    exact Or.inl hold
  · rw [List.mem_singleton.mp hnew, if_pos rfl]
    exact Or.inr rfl

/-- A capture of a new moment inserts its snapshot, its recording and their link. -/
theorem LinkedRows.new {done : List Commit} {carrierId : String} {row : TariffSnapshot}
    (h : LinkedRows carrierIdByScac done db)
    (hone : OneADay carrierIdByScac (done ++ [commit])) (hok : commit.manifest.statusText = "ok")
    (hcaptured : captured carrierIdByScac commit db.nextId = .ok (carrierId, row))
    (hsnapshots : db.tariffSnapshots.any (sameSnapshot row) = false) :
    LinkedRows carrierIdByScac (done ++ [commit]) (exec carrierIdByScac commit db) := by
  obtain ⟨_, hid, hcarrier, hlane, hdate, hat⟩ := captured_ok hcaptured
  have hby := capturedBy_of hok hcaptured
  have hdated := hone.dated commit (List.mem_append_right _ List.mem_cons_self) carrierId hby
  have hrecordings : db.recordings.any (sameRecording (recordingOf commit (db.nextId + 1)
      (some carrierId) (some commit.source.laneLabel) 1)) = false := by
    by_contra hconflict
    rw [Bool.not_eq_false] at hconflict
    obtain ⟨snapshot, hsnapshot, hsc, hsl, hsa⟩ := snapshot_of_conflict h hone hby hconflict
    have hany : db.tariffSnapshots.any (sameSnapshot row) = true :=
      List.any_eq_true.mpr ⟨snapshot, hsnapshot, decide_eq_true
        ⟨hcarrier.trans hsc.symm, hlane.trans hsl.symm, hat.trans hsa.symm⟩⟩
    rw [hsnapshots] at hany
    exact absurd hany (by decide)
  have hgrows := linkSnapshot_grows (db.nextId + 1) db.nextId
    { nextId := db.nextId + 1 + 1
      recordings := db.recordings ++ [recordingOf commit (db.nextId + 1) (some carrierId)
        (some commit.source.laneLabel) 1]
      tariffSnapshots := db.tariffSnapshots ++ [row] }
  rw [exec_new hok hcaptured hsnapshots hrecordings]
  have hmem : ∀ other ∈ (linkSnapshot (db.nextId + 1) db.nextId
      { nextId := db.nextId + 1 + 1
        recordings := db.recordings ++ [recordingOf commit (db.nextId + 1) (some carrierId)
          (some commit.source.laneLabel) 1]
        tariffSnapshots := db.tariffSnapshots ++ [row] }).tariffSnapshots,
      other ∈ db.tariffSnapshots ∨ other = { row with recordingId := some (db.nextId + 1) } := by
    intro other hother
    unfold linkSnapshot at hother
    rw [← hid] at hother ⊢
    exact mem_linkSnapshot (fun snapshot hsnapshot => hid ▸ h.ids snapshot hsnapshot) hother
  refine ⟨?_, ?_, ?_⟩
  · intro other hother
    show other.id < db.nextId + 1 + 1
    rcases hmem other hother with hold | rfl
    · have hlt := h.ids other hold
      omega
    · show row.id < db.nextId + 1 + 1
      omega
  · intro other hother
    rcases hmem other hother with hold | rfl
    · exact (h.linked other hold).mono fun _ hrow => List.mem_append_left _ hrow
    · refine ⟨_, List.mem_append_right _ List.mem_cons_self, rfl, ?_, ?_, ?_⟩
      · exact congrArg some hcarrier.symm
      · exact congrArg some hlane.symm
      · exact hdated.trans hdate.symm
  · intro recording hrecording other hother
    rcases List.mem_append.mp hrecording with hold | hnew
    · obtain ⟨earlier, hearlier, hearlierBy, hrun, hrlane, snapshot, hsnapshot, hsc, hsl, hsa⟩ :=
        h.backed recording hold other hother
      obtain ⟨snapshot', hsnapshot', hsc', hsl', hsa'⟩ :=
        hgrows.snapshots snapshot (List.mem_append_left _ hsnapshot)
      exact ⟨earlier, List.mem_append_left _ hearlier, hearlierBy, hrun, hrlane, snapshot',
        hsnapshot', hsc'.trans hsc, hsl'.trans hsl, hsa'.trans hsa⟩
    · rw [List.mem_singleton.mp hnew] at hother ⊢
      obtain rfl := Option.some.inj hother
      obtain ⟨snapshot', hsnapshot', hsc', hsl', hsa'⟩ :=
        hgrows.snapshots row (List.mem_append_right _ List.mem_cons_self)
      exact ⟨commit, List.mem_append_right _ List.mem_cons_self, hby, rfl, rfl, snapshot',
        hsnapshot', hsc'.trans hcarrier, hsl'.trans hlane, hsa'.trans hat⟩

theorem LinkedRows.exec {done : List Commit} (h : LinkedRows carrierIdByScac done db)
    (hone : OneADay carrierIdByScac (done ++ [commit])) :
    LinkedRows carrierIdByScac (done ++ [commit]) (exec carrierIdByScac commit db) := by
  by_cases hok : commit.manifest.statusText = "ok"
  · cases hcaptured : captured carrierIdByScac commit db.nextId with
    | error e =>
        rw [exec_raised hok hcaptured]
        exact h.weaken
    | ok result =>
        obtain ⟨carrierId, row⟩ := result
        cases hsnapshots : db.tariffSnapshots.any (sameSnapshot row) with
        | true => exact h.old hok hcaptured hsnapshots
        | false => exact h.new hone hok hcaptured hsnapshots
  · exact h.unsuccessful hok

end Commits

/-! ## Operations -/

/-- The calls that commit captures. -/
inductive Operation where
  | commitSourceDay (commit : Commit)
  | commitDay (runDate : Date) (sources : List Capture.Source)
  | replayRange (sources : List Capture.Source) (startDate endDate : Date)
deriving DecidableEq

section Operations

variable (carrierIdByScac : List (String × String)) (store : String → Option Manifest)

def perform (operation : Operation) (db : Database) : Database :=
  match operation with
  | .commitSourceDay commit => (commitSourceDay carrierIdByScac commit db).2
  | .commitDay runDate sources => (commitDay carrierIdByScac store runDate sources db).2
  | .replayRange sources startDate endDate =>
    (replayRange carrierIdByScac store sources startDate endDate db).2

/-- Whether a commit returns. -/
def returns (commit : Commit) : Bool :=
  if commit.manifest.statusText = "ok" then
    match captured carrierIdByScac commit 0 with
    | .ok _ => true
    | .error _ => false
  else true

omit carrierIdByScac in
/-- The commits of a day. -/
def dayCommits (runDate : Date) (sources : List Capture.Source) : List Commit :=
  sources.filterMap fun source =>
    (readManifest store source runDate).map fun manifest => ⟨source, manifest, some runDate⟩

/-- The commits an operation gets to: those before the first that raises. -/
def commitsOf (operation : Operation) : List Commit :=
  (match operation with
  | .commitSourceDay commit => [commit]
  | .commitDay runDate sources => dayCommits store runDate sources
  | .replayRange sources startDate endDate =>
    (daterange startDate endDate).flatMap fun runDate => dayCommits store runDate sources).takeWhile
      (returns carrierIdByScac)

variable {carrierIdByScac} {store} {commit : Commit} {db : Database}

theorem commitSourceDay_returns (db : Database) (h : returns carrierIdByScac commit = true) :
    ∃ result, commitSourceDay carrierIdByScac commit db =
      (.ok result, exec carrierIdByScac commit db) := by
  unfold exec
  unfold returns at h
  unfold commitSourceDay
  split at h
  · rename_i hok
    rw [if_pos hok]
    split at h
    · rename_i result hcaptured
      obtain ⟨carrierId, row⟩ := result
      have hcaptured' := captured_id db.nextId hcaptured
      obtain ⟨hcarrier, _⟩ := captured_ok hcaptured'
      unfold captured at hcaptured'
      rw [hcarrier] at hcaptured'
      rw [hcarrier]
      dsimp only at hcaptured' ⊢
      cases hrow : buildTariffSnapshotRow db.nextId carrierId commit.source commit.manifest with
      | error e =>
          rw [hrow] at hcaptured'
          exact absurd hcaptured' (by simp)
      | ok row' => exact ⟨_, rfl⟩
    · exact absurd h (by simp)
  · rename_i hok
    rw [if_neg hok]
    exact ⟨_, rfl⟩

theorem commitSourceDay_raises (db : Database) (h : returns carrierIdByScac commit = false) :
    ∃ e, commitSourceDay carrierIdByScac commit db = (.error e, db) := by
  unfold returns at h
  split at h
  · rename_i hok
    split at h
    · exact absurd h (by simp)
    · rename_i e hraised
      cases hcaptured : captured carrierIdByScac commit db.nextId with
      | ok result =>
          obtain ⟨carrierId, row⟩ := result
          rw [captured_id 0 hcaptured] at hraised
          exact absurd hraised (by simp)
      | error e' =>
          unfold captured at hcaptured
          unfold commitSourceDay
          rw [if_pos hok]
          cases hcarrier : carrierOf carrierIdByScac commit with
          | error e'' => exact ⟨_, rfl⟩
          | ok carrierId =>
              rw [hcarrier] at hcaptured
              dsimp only at hcaptured ⊢
              cases hrow : buildTariffSnapshotRow db.nextId carrierId commit.source
                commit.manifest with
              | error e'' => exact ⟨_, rfl⟩
              | ok row =>
                  rw [hrow] at hcaptured
                  exact absurd hcaptured (by simp)
  · exact absurd h (by simp)

/-- A day commits its manifests up to the first that raises, and returns if none does. -/
theorem commitDay_spec (carrierIdByScac : List (String × String))
    (store : String → Option Manifest) (runDate : Date) (sources : List Capture.Source)
    (db : Database) :
    (commitDay carrierIdByScac store runDate sources db).2 =
      after (exec carrierIdByScac) db
        ((dayCommits store runDate sources).takeWhile (returns carrierIdByScac)) ∧
    ((∃ results, (commitDay carrierIdByScac store runDate sources db).1 = .ok results) ↔
      ∀ commit ∈ dayCommits store runDate sources, returns carrierIdByScac commit = true) := by
  induction sources generalizing db with
  | nil => exact ⟨rfl, fun _ _ h => absurd h (by simp [dayCommits]), fun _ => ⟨[], rfl⟩⟩
  | cons source sources ih =>
      unfold commitDay
      cases hmanifest : readManifest store source runDate with
      | none =>
          have hcommits : dayCommits store runDate (source :: sources) =
              dayCommits store runDate sources := by
            unfold dayCommits
            rw [List.filterMap_cons_none (by rw [hmanifest]; rfl)]
          rw [hcommits]
          exact ih db
      | some manifest =>
          have hcommits : dayCommits store runDate (source :: sources) =
              ⟨source, manifest, some runDate⟩ :: dayCommits store runDate sources := by
            unfold dayCommits
            rw [List.filterMap_cons_some (by rw [hmanifest]; rfl)]
          rw [hcommits]
          dsimp only
          cases hreturns : returns carrierIdByScac ⟨source, manifest, some runDate⟩ with
          | false =>
              obtain ⟨e, he⟩ := commitSourceDay_raises db hreturns
              rw [he, List.takeWhile_cons_of_neg (by rw [hreturns]; decide)]
              refine ⟨rfl, ?_, ?_⟩
              · rintro ⟨results, hresults⟩
                exact absurd hresults (by simp)
              · intro hall
                have hfirst := hall _ List.mem_cons_self
                rw [hreturns] at hfirst
                exact absurd hfirst (by decide)
          | true =>
              obtain ⟨result, hresult⟩ := commitSourceDay_returns db hreturns
              rw [hresult, List.takeWhile_cons_of_pos hreturns]
              obtain ⟨hstate, hok⟩ := ih (exec carrierIdByScac
                ⟨source, manifest, some runDate⟩ db)
              rw [List.forall_mem_cons, ← hok]
              dsimp only
              split
              · rename_i e db' heq
                rw [heq] at hstate ⊢
                refine ⟨hstate, ?_⟩
                simp
              · rename_i results db' heq
                rw [heq] at hstate ⊢
                refine ⟨hstate, ?_⟩
                simp [hreturns]

theorem takeWhile_append_stop {A : Type} {p : A → Bool} {first second : List A}
    (h : ¬ ∀ a ∈ first, p a = true) :
    (first ++ second).takeWhile p = first.takeWhile p := by
  induction first with
  | nil => exact absurd (fun a ha => absurd ha (by simp)) h
  | cons a first ih =>
      cases ha : p a with
      | false => simp [ha]
      | true =>
          rw [List.cons_append, List.takeWhile_cons_of_pos ha, List.takeWhile_cons_of_pos ha]
          refine congrArg (a :: ·) (ih fun hall => h ?_)
          rw [List.forall_mem_cons]
          exact ⟨ha, hall⟩

/-- The days of a range are committed up to the first commit that raises. -/
theorem replayDays_spec (sources : List Capture.Source) (days : List Date) :
    (replayDays carrierIdByScac store sources days db).2 =
      after (exec carrierIdByScac) db
        ((days.flatMap fun runDate => dayCommits store runDate sources).takeWhile
          (returns carrierIdByScac)) := by
  induction days generalizing db with
  | nil => rfl
  | cons runDate days ih =>
      obtain ⟨hstate, hok⟩ := commitDay_spec carrierIdByScac store runDate sources db
      rw [List.flatMap_cons]
      unfold replayDays
      by_cases hall : ∀ commit ∈ dayCommits store runDate sources,
          returns carrierIdByScac commit = true
      · obtain ⟨results, hresults⟩ := hok.mpr hall
        rw [List.takeWhile_append_of_pos hall, after_append]
        have hday : commitDay carrierIdByScac store runDate sources db = (.ok results,
            after (exec carrierIdByScac) db (dayCommits store runDate sources)) := by
          rw [List.takeWhile_eq_self_iff.mpr hall] at hstate
          exact Prod.ext hresults hstate
        rw [hday]
        dsimp only
        rw [← ih]
        split
        · rename_i heq
          rw [heq]
        · rename_i heq
          rw [heq]
      · rw [takeWhile_append_stop hall, ← hstate]
        split
        · rename_i heq
          rw [heq]
        · rename_i results db' heq
          exact absurd (hok.mp ⟨results, by rw [heq]⟩) hall

/-- An operation commits its captures, one after the other. -/
theorem perform_eq (operation : Operation) :
    perform carrierIdByScac store operation db =
      after (exec carrierIdByScac) db (commitsOf carrierIdByScac store operation) := by
  cases operation with
  | commitSourceDay commit =>
      show (commitSourceDay carrierIdByScac commit db).2 =
        after (exec carrierIdByScac) db ([commit].takeWhile (returns carrierIdByScac))
      cases hreturns : returns carrierIdByScac commit with
      | true =>
          rw [List.takeWhile_cons_of_pos hreturns]
          rfl
      | false =>
          obtain ⟨e, he⟩ := commitSourceDay_raises db hreturns
          rw [List.takeWhile_cons_of_neg (by rw [hreturns]; decide), he]
          rfl
  | commitDay runDate sources => exact (commitDay_spec carrierIdByScac store runDate sources db).1
  | replayRange sources startDate endDate => exact replayDays_spec sources _

/-! ## Runs of operations -/

variable {history : List Operation} {init : Database}

/-- The commits of a run of operations. -/
def commitsOfAll (carrierIdByScac : List (String × String)) (store : String → Option Manifest)
    (history : List Operation) : List Commit :=
  history.flatMap (commitsOf carrierIdByScac store)

theorem after_perform (history : List Operation) :
    after (perform carrierIdByScac store) init history =
      after (exec carrierIdByScac) init (commitsOfAll carrierIdByScac store history) := by
  induction history using List.reverseRecOn with
  | nil => rfl
  | append_singleton history operation ih =>
      rw [after_snoc, perform_eq, ih]
      unfold commitsOfAll
      rw [List.flatMap_append, after_append, List.flatMap_singleton]

theorem held_after {commits : List Commit} (hmem : commit ∈ commits)
    (hok : commit.manifest.statusText = "ok") :
    Held carrierIdByScac commit (after (exec carrierIdByScac) init commits) := by
  induction commits using List.reverseRecOn with
  | nil => exact absurd hmem (by simp)
  | append_singleton commits last ih =>
      rw [after_snoc]
      rcases List.mem_append.mp hmem with hold | hnew
      · exact (ih hold).mono (exec_grows carrierIdByScac last _)
      · rw [List.mem_singleton.mp hnew] at hok ⊢
        exact held_exec hok

theorem after_of_held {commits : List Commit}
    (h : ∀ commit ∈ commits, commit.manifest.statusText = "ok" ∧ Held carrierIdByScac commit db) :
    after (exec carrierIdByScac) db commits = db := by
  induction commits with
  | nil => rfl
  | cons first commits ih =>
      obtain ⟨hok, hheld⟩ := h first List.mem_cons_self
      show after (exec carrierIdByScac) (exec carrierIdByScac first db) commits = db
      rw [exec_of_held hok hheld]
      exact ih fun commit hcommit => h commit (List.mem_cons_of_mem _ hcommit)

/-- Operations on captures that succeeded may be repeated. -/
theorem perform_repeatable : Repeatable (perform carrierIdByScac store) init fun operation =>
    ∀ commit ∈ commitsOf carrierIdByScac store operation, commit.manifest.statusText = "ok" := by
  intro history hhistory operation hoperation
  rw [perform_eq, after_perform]
  refine after_of_held ?_
  intro commit hcommit
  have hok := hhistory operation hoperation commit hcommit
  exact ⟨hok, held_after (List.mem_flatMap.mpr ⟨operation, hoperation, hcommit⟩) hok⟩

theorem linkedRows_after {commits : List Commit} (hone : OneADay carrierIdByScac commits) :
    LinkedRows carrierIdByScac commits (after (exec carrierIdByScac) ⟨0, [], []⟩ commits) := by
  induction commits using List.reverseRecOn with
  | nil =>
      exact ⟨fun _ h => absurd h (by simp [after]), fun _ h => absurd h (by simp [after]),
        fun _ h => absurd h (by simp [after])⟩
  | append_singleton commits last ih =>
      rw [after_snoc]
      refine (ih ⟨?_, ?_⟩).exec hone
      · intro commit hcommit
        exact hone.dated commit (List.mem_append_left _ hcommit)
      · intro first hfirst second hsecond
        exact hone.single first (List.mem_append_left _ hfirst) second
          (List.mem_append_left _ hsecond)

/-- Runs over captures that succeeded, one a day for a carrier's lane, leave the rows of
each operation run once, and every snapshot linked to the recording of its day; and a
commit may be repeated exactly when its capture succeeded. -/
theorem recordings_once (carrierIdByScac : List (String × String))
    (store : String → Option Manifest) (history : List Operation)
    (hok : ∀ operation ∈ history, ∀ commit ∈ commitsOf carrierIdByScac store operation,
      commit.manifest.statusText = "ok")
    (hone : OneADay carrierIdByScac (commitsOfAll carrierIdByScac store history)) :
    (∀ init, after (perform carrierIdByScac store) init history =
      after (perform carrierIdByScac store) init history.eraseDups) ∧
    (∀ snapshot ∈ (after (perform carrierIdByScac store) ⟨0, [], []⟩ history).tariffSnapshots,
      Linked (after (perform carrierIdByScac store) ⟨0, [], []⟩ history) snapshot) ∧
    ∀ commit db, exec carrierIdByScac commit (exec carrierIdByScac commit db) =
      exec carrierIdByScac commit db ↔ commit.manifest.statusText = "ok" := by
  refine ⟨fun init => (after_eraseDups perform_repeatable hok).symm, ?_, fun commit db =>
    exec_twice_iff⟩
  intro snapshot hsnapshot
  rw [after_perform] at hsnapshot ⊢
  exact (linkedRows_after hone).linked snapshot hsnapshot

end Operations

/-! ## A failed capture committed twice -/

section Case

def northstar : Capture.Source :=
  ⟨"northstar-ocean-demo-tariff", "NP-SP", "https://fixtures.example.invalid/northstar/tariff.html",
    "text/html"⟩

def julyFourth : AwareDatetime := ⟨⟨2026, 7, 4, by decide⟩, 0, 0, by decide, by decide⟩

def failedManifest : Manifest :=
  ⟨some "failed", julyFourth, some northstar.url, none, none, some "timeout", none⟩

def okManifest : Manifest :=
  ⟨some "ok", julyFourth, some northstar.url, some "raw/body.html", some "00", none, none⟩

def carriers : List (String × String) := [("NOLU", "carrier-1")]

/-- A failed capture is recorded once more on every rerun. -/
theorem failed_repeats :
    after (perform carriers fun _ => none) ⟨0, [], []⟩
        (List.replicate 2 (.commitSourceDay ⟨northstar, failedManifest, none⟩)) ≠
      after (perform carriers fun _ => none) ⟨0, [], []⟩
        [.commitSourceDay ⟨northstar, failedManifest, none⟩] := by
  intro hsame
  have hlength := congrArg (fun db => db.recordings.length) hsame
  revert hlength
  decide +kernel

/-- A successful capture committed twice. -/
theorem recordings_once_twice :
    after (perform carriers fun _ => none) ⟨0, [], []⟩
        (List.replicate 2 (.commitSourceDay ⟨northstar, okManifest, none⟩)) =
      after (perform carriers fun _ => none) ⟨0, [], []⟩
        (List.replicate 2 (.commitSourceDay ⟨northstar, okManifest, none⟩)).eraseDups := by
  have hsame : ∀ commit ∈ commitsOfAll carriers (fun _ => none)
      (List.replicate 2 (.commitSourceDay ⟨northstar, okManifest, none⟩)),
      commit = ⟨northstar, okManifest, none⟩ := by decide +kernel
  refine (recordings_once carriers (fun _ => none) _ ?_ ⟨?_, ?_⟩).1 _
  · intro operation hoperation commit hcommit
    rw [hsame commit (List.mem_flatMap.mpr ⟨operation, hoperation, hcommit⟩)]
    rfl
  · intro commit hcommit _ _
    rw [hsame commit hcommit]
    rfl
  · intro first hfirst second hsecond _ _ _ _ _
    rw [hsame first hfirst, hsame second hsecond]

end Case

end Tally.Analysis.Recordings
