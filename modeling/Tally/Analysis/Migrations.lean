import Tally.Model.Migrate

/-!
# Interrupted migrations

A run of the migration runner may stop between any two steps, and the next one starts over.
Where a repeated statement changes nothing, reruns end in the schema of one uninterrupted
run and track only files they have executed, as long as no run starts with the marker
columns of an untracked file present and some of its statements not executed.
-/

set_option autoImplicit false

namespace Tally.Analysis.Migrations
open Library Library.Replay Model.Migrate

section Runs

variable {Schema : Type} [Engine Schema]

/-- The statements of all files, in order. -/
def log (directory : Directory) : List String :=
  (pendingMigrations directory).flatMap Migration.statements

/-- The tracked files have been executed. -/
def TrackedExecuted (directory : Directory) (db : Database Schema) (history : List String) :
    Prop :=
  ∀ migration ∈ pendingMigrations directory, migration.filename ∈ db.tracked →
    migration.statements ⊆ history

/-- The markers of the untracked files tell the truth: where they are all present, the file
has been executed. -/
def MarkersTell (directory : Directory) (db : Database Schema) (history : List String) : Prop :=
  ∀ migration ∈ pendingMigrations directory, migration.filename ∈ ensureTrackingTable db →
    migration.statements ⊆ history

/-- Runs from a blank database, each stopped after some number of steps, that start where
the markers tell the truth. The history holds every statement executed. -/
inductive Runs (directory : Directory) (init : Schema) : Database Schema → List String → Prop
  | blank : Runs directory init ⟨init, []⟩ []
  | run {db : Database Schema} {history : List String} (h : Runs directory init db history)
      (told : MarkersTell directory db history) (steps : Nat) :
      Runs directory init (performAll db ((applyAll directory db).take steps))
        (history ++ executed ((applyAll directory db).take steps))

variable {directory : Directory} {init : Schema}

/-! ## One step -/

/-- Every step of a run is in order: a statement follows all before it in the log, a file
is tracked once it has been executed. -/
def Ordered (directory : Directory) : List String → List Action → Prop
  | _, [] => True
  | history, .execute statement :: actions =>
    (∃ before rest, log directory = before ++ statement :: rest ∧ before ⊆ history) ∧
      Ordered directory (history ++ [statement]) actions
  | history, .track filename :: actions =>
    (∀ migration ∈ pendingMigrations directory, migration.filename = filename →
      migration.statements ⊆ history) ∧ Ordered directory history actions

/-- What the runs keep. -/
structure Kept (directory : Directory) (init : Schema) (db : Database Schema)
    (history : List String) : Prop where
  schema : db.schema = after Engine.execute init history
  inOrder : InOrder (log directory) history
  known : ∀ statement ∈ history, statement ∈ log directory
  tracked : TrackedExecuted directory db history

theorem kept_blank : Kept directory init ⟨init, []⟩ [] :=
  ⟨rfl, inOrder_nil _, fun _ h => absurd h (by simp), fun _ _ h => absurd h (by simp)⟩

theorem Kept.execute {db : Database Schema} {history before rest : List String}
    {statement : String} (h : Kept directory init db history)
    (hlog : log directory = before ++ statement :: rest) (hbefore : before ⊆ history) :
    Kept directory init (perform db (.execute statement)) (history ++ [statement]) where
  schema := by
    rw [after_snoc, ← h.schema]
    rfl
  inOrder := h.inOrder.snoc hlog hbefore
  known := by
    intro other hother
    rcases List.mem_append.mp hother with hold | hnew
    · exact h.known other hold
    · rw [List.mem_singleton.mp hnew, hlog]
      exact List.mem_append_right _ List.mem_cons_self
  tracked := fun migration hmigration hname =>
    List.Subset.trans (h.tracked migration hmigration hname) (List.subset_append_left _ _)

theorem mem_tracked_track {db : Database Schema} {filename name : String} :
    name ∈ (perform db (.track filename)).tracked ↔ name ∈ db.tracked ∨ name = filename := by
  simp only [perform]
  split
  · rename_i hmem
    constructor
    · exact Or.inl
    · rintro (hold | rfl)
      · exact hold
      · exact hmem
  · simp

theorem Kept.track {db : Database Schema} {history : List String} {filename : String}
    (h : Kept directory init db history)
    (hdone : ∀ migration ∈ pendingMigrations directory, migration.filename = filename →
      migration.statements ⊆ history) :
    Kept directory init (perform db (.track filename)) history where
  schema := by
    rw [← h.schema]
    simp only [perform]
    split <;> rfl
  inOrder := h.inOrder
  known := h.known
  tracked := by
    intro migration hmigration hname
    rcases mem_tracked_track.mp hname with hold | hnew
    · exact h.tracked migration hmigration hold
    · exact hdone migration hmigration hnew

/-- Steps in order keep what the runs keep. -/
theorem Kept.performAll {db : Database Schema} {history : List String} {actions : List Action}
    (h : Kept directory init db history) (hordered : Ordered directory history actions) :
    Kept directory init (performAll db actions) (history ++ executed actions) := by
  induction actions generalizing db history with
  | nil => simpa [Model.Migrate.performAll, executed] using h
  | cons action actions ih =>
      cases action with
      | execute statement =>
          obtain ⟨⟨before, rest, hlog, hbefore⟩, hactions⟩ := hordered
          have hrest := ih (h.execute hlog hbefore) hactions
          rw [List.append_assoc] at hrest
          exact hrest
      | track filename =>
          obtain ⟨hdone, hactions⟩ := hordered
          exact ih (h.track hdone) hactions

theorem Ordered.take {history : List String} {actions : List Action}
    (h : Ordered directory history actions) (steps : Nat) :
    Ordered directory history (actions.take steps) := by
  induction actions generalizing history steps with
  | nil => simpa using h
  | cons action actions ih =>
      cases steps with
      | zero => exact trivial
      | succ steps =>
          cases action with
          | execute statement => exact ⟨h.1, ih h.2 steps⟩
          | track filename => exact ⟨h.1, ih h.2 steps⟩

/-! ## The steps of a run -/

theorem filenames_distinct (directory : Directory) :
    ((pendingMigrations directory).map Migration.filename).Nodup := by
  have hnames : (pendingMigrations directory).map Migration.filename =
      ((directory.files.filter fun file => file.1.endsWith ".sql").insertionSort
        fun first second => first.1 ≤ second.1).map Prod.fst := by
    unfold pendingMigrations
    rw [List.map_map]
    rfl
  rw [hnames]
  have hfiltered : ((directory.files.filter fun file => file.1.endsWith ".sql").map
      Prod.fst).Nodup := directory.distinct.sublist (List.filter_sublist.map Prod.fst)
  exact ((List.perm_insertionSort _ _).map Prod.fst).nodup_iff.mpr hfiltered

theorem eq_of_filename {first second : Migration} (h : first ∈ pendingMigrations directory)
    (h' : second ∈ pendingMigrations directory) (hname : first.filename = second.filename) :
    first = second :=
  List.inj_on_of_nodup_map (filenames_distinct directory) h h' hname

/-- Recording names of executed files is in order. -/
theorem ordered_track {history : List String} {names : List String} {actions : List Action}
    (hnames : ∀ migration ∈ pendingMigrations directory, migration.filename ∈ names →
      migration.statements ⊆ history) (h : Ordered directory history actions) :
    Ordered directory history (names.map .track ++ actions) := by
  induction names with
  | nil => exact h
  | cons name names ih =>
      refine ⟨?_, ih fun migration hmigration hname =>
        hnames migration hmigration (List.mem_cons_of_mem _ hname)⟩
      intro migration hmigration hname
      exact hnames migration hmigration (hname ▸ List.mem_cons_self)

/-- Executing the next statements of the log is in order. -/
theorem ordered_execute {history statements rest : List String} {actions : List Action}
    (before : List String)
    (hlog : log directory = before ++ (statements ++ rest)) (hbefore : before ⊆ history)
    (h : Ordered directory (history ++ statements) actions) :
    Ordered directory history (statements.map .execute ++ actions) := by
  induction statements generalizing history before with
  | nil => simpa using h
  | cons statement statements ih =>
      refine ⟨⟨before, statements ++ rest, hlog, hbefore⟩, ?_⟩
      refine ih (before ++ [statement]) ?_ ?_ ?_
      · rw [hlog]
        simp
      · exact List.append_subset.mpr ⟨List.Subset.trans hbefore (List.subset_append_left _ _),
          List.subset_append_right _ _⟩
      · rw [List.append_assoc]
        exact h

/-- Executing and tracking the files that are left is in order. -/
theorem ordered_migrations {history already : List String} {done remaining : List Migration}
    (hpending : pendingMigrations directory = done ++ remaining)
    (hdone : ∀ migration ∈ done, migration.statements ⊆ history)
    (halready : ∀ migration ∈ pendingMigrations directory, migration.filename ∈ already →
      migration.statements ⊆ history) :
    Ordered directory history ((remaining.filter fun migration =>
      migration.filename ∉ already).flatMap migrationActions) := by
  induction remaining generalizing history done with
  | nil => exact trivial
  | cons migration remaining ih =>
      have hmem : migration ∈ pendingMigrations directory := by
        rw [hpending]
        exact List.mem_append_right _ List.mem_cons_self
      have hpending' : pendingMigrations directory = (done ++ [migration]) ++ remaining := by
        rw [hpending, List.append_cons]
      by_cases hname : migration.filename ∈ already
      · rw [List.filter_cons_of_neg (by simpa using hname)]
        refine ih hpending' ?_ halready
        intro other hother
        rcases List.mem_append.mp hother with hold | hnew
        · exact hdone other hold
        · rw [List.mem_singleton.mp hnew]
          exact halready migration hmem hname
      · rw [List.filter_cons_of_pos (by simpa using hname), List.flatMap_cons]
        unfold migrationActions
        rw [List.append_assoc]
        have hlog : log directory = done.flatMap Migration.statements ++
            (migration.statements ++ remaining.flatMap Migration.statements) := by
          unfold log
          rw [hpending, List.flatMap_append, List.flatMap_cons]
        refine ordered_execute _ hlog ?_ ?_
        · intro statement hstatement
          obtain ⟨other, hother, hin⟩ := List.mem_flatMap.mp hstatement
          exact hdone other hother hin
        · refine ⟨?_, ih hpending' ?_ ?_⟩
          · intro other hother hsame
            rw [eq_of_filename hother hmem hsame]
            exact List.subset_append_right _ _
          · intro other hother
            rcases List.mem_append.mp hother with hold | hnew
            · exact List.Subset.trans (hdone other hold) (List.subset_append_left _ _)
            · rw [List.mem_singleton.mp hnew]
              exact List.subset_append_right _ _
          · intro other hother hin
            exact List.Subset.trans (halready other hother hin) (List.subset_append_left _ _)

/-- A run that starts where the markers tell the truth is in order. -/
theorem ordered_applyAll {db : Database Schema} {history : List String}
    (htracked : TrackedExecuted directory db history)
    (htold : MarkersTell directory db history) :
    Ordered directory history (applyAll directory db) := by
  unfold applyAll
  refine ordered_track htold (ordered_migrations (List.nil_append _).symm
    (fun _ h => absurd h (by simp)) ?_)
  intro migration hmigration hname
  rcases List.mem_append.mp hname with hold | hensured
  · exact htracked migration hmigration hold
  · exact htold migration hmigration hensured

theorem executed_append (first second : List Action) :
    executed (first ++ second) = executed first ++ executed second :=
  List.filterMap_append

theorem executed_track (names : List String) : executed (names.map .track) = [] := by
  induction names with
  | nil => rfl
  | cons name names ih => exact ih

/-- A run that is not interrupted leaves no statement unexecuted. -/
theorem executed_applyAll {db : Database Schema} {history : List String}
    (htracked : TrackedExecuted directory db history)
    (htold : MarkersTell directory db history) :
    ∀ statement ∈ log directory,
      statement ∈ history ++ executed (applyAll directory db) := by
  intro statement hstatement
  obtain ⟨migration, hmigration, hin⟩ := List.mem_flatMap.mp hstatement
  by_cases hname : migration.filename ∈ db.tracked ++ ensureTrackingTable db
  · refine List.mem_append_left _ ?_
    rcases List.mem_append.mp hname with hold | hensured
    · exact htracked migration hmigration hold hin
    · exact htold migration hmigration hensured hin
  · refine List.mem_append_right _ ?_
    unfold applyAll
    rw [executed_append, executed_track, List.nil_append]
    refine List.mem_filterMap.mpr ⟨.execute statement, ?_, rfl⟩
    refine List.mem_flatMap.mpr ⟨migration, ?_, ?_⟩
    · exact List.mem_filter.mpr ⟨hmigration, by simpa using hname⟩
    · exact List.mem_append_left _ (List.mem_map_of_mem hin)

/-! ## All runs -/

theorem kept_of_runs {db : Database Schema} {history : List String}
    (h : Runs directory init db history) : Kept directory init db history := by
  induction h with
  | blank => exact kept_blank
  | run _ told steps ih => exact ih.performAll ((ordered_applyAll ih.tracked told).take steps)

/-- The first run started where the markers tell the truth. -/
theorem told_blank {db : Database Schema} {history : List String}
    (h : Runs directory init db history) (told : MarkersTell directory db history) :
    MarkersTell directory (⟨init, []⟩ : Database Schema) [] := by
  induction h with
  | blank => exact told
  | run _ told' _ ih => exact ih told'

theorem tracked_track (db : Database Schema) (names : List String) {name : String}
    (h : name ∈ names) : name ∈ (performAll db (names.map .track)).tracked := by
  have hkeep : ∀ (names : List String) (db : Database Schema), name ∈ db.tracked →
      name ∈ (performAll db (names.map .track)).tracked := by
    intro names
    induction names with
    | nil => exact fun db hdb => hdb
    | cons first names ih => exact fun db hdb => ih _ (mem_tracked_track.mpr (Or.inl hdb))
  induction names generalizing db with
  | nil => exact absurd h (by simp)
  | cons first names ih =>
      rcases List.mem_cons.mp h with rfl | hlater
      · exact hkeep names _ (mem_tracked_track.mpr (Or.inr rfl))
      · exact ih _ hlater

/-- The next run tracks executed files only, wherever it stops, exactly when the markers
tell the truth at its start. -/
theorem tracks_executed_iff {db : Database Schema} {history : List String}
    (h : Kept directory init db history) :
    (∀ steps, TrackedExecuted directory (performAll db ((applyAll directory db).take steps))
      (history ++ executed ((applyAll directory db).take steps))) ↔
      MarkersTell directory db history := by
  constructor
  · intro hall migration hmigration hensured
    have hafter := hall (ensureTrackingTable db).length
    have htake : (applyAll directory db).take (ensureTrackingTable db).length =
        (ensureTrackingTable db).map .track := by
      unfold applyAll
      exact List.take_left' (List.length_map _)
    rw [htake, executed_track, List.append_nil] at hafter
    exact hafter migration hmigration (tracked_track db _ hensured)
  · intro htold steps
    exact (h.performAll ((ordered_applyAll h.tracked htold).take steps)).tracked

/-- Runs whose starts find the markers telling the truth track executed files only, and a
last uninterrupted run ends in the schema of one uninterrupted run; and the next run keeps
to this exactly when the markers tell the truth at its start. -/
theorem runs_recover (directory : Directory) (init : Schema)
    (hrepeat : Repeatable Engine.execute init (· ∈ log directory)) (db : Database Schema)
    (history : List String) (h : Runs directory init db history) :
    TrackedExecuted directory db history ∧
    (MarkersTell directory db history →
      (performAll db (applyAll directory db)).schema =
        (performAll ⟨init, []⟩ (applyAll directory (⟨init, []⟩ : Database Schema))).schema) ∧
    ((∀ steps, TrackedExecuted directory (performAll db ((applyAll directory db).take steps))
      (history ++ executed ((applyAll directory db).take steps))) ↔
      MarkersTell directory db history) := by
  have hkept := kept_of_runs h
  refine ⟨hkept.tracked, ?_, tracks_executed_iff hkept⟩
  intro htold
  have hblank : Kept directory init ⟨init, []⟩ [] := kept_blank
  have htold' := told_blank h htold
  have hlast := hkept.performAll (ordered_applyAll hkept.tracked htold)
  have hone := hblank.performAll (ordered_applyAll hblank.tracked htold')
  rw [hlast.schema, hone.schema]
  exact after_complete hrepeat hlast.known hone.known hlast.inOrder hone.inOrder
    (executed_applyAll hkept.tracked htold) (executed_applyAll hblank.tracked htold')

end Runs

/-! ## A run that stops before the zones are configured -/

section Case

/-- What a schema holds: columns and configured zones. -/
inductive Element where
  | column (table name : String)
  | zone (table : String)
deriving DecidableEq

/-- What a statement adds to a schema. -/
def element (statement : String) : Option Element :=
  match (statement.toList.splitOnP (· = ' ')).map String.ofList with
  | ["CREATE", "TABLE", "IF", "NOT", "EXISTS", table, _] => some (.column table "id")
  | ["ALTER", "TABLE", table, "CONFIGURE", "ZONE", _, _] => some (.zone table)
  | _ => none

/-- A database that knows these statements; it adds what a schema does not have yet. -/
@[reducible] def additive : Engine (List Element) where
  execute statement schema :=
    match element statement with
    | some added => if added ∈ schema then schema else schema ++ [added]
    | none => schema
  columns schema := schema.filterMap fun
    | .column table name => some (table, name)
    | .zone _ => none

local instance caseEngine : Engine (List Element) := additive

theorem mem_execute {statement : String} {schema : List Element} {added : Element}
    (h : added ∈ schema ∨ element statement = some added) :
    added ∈ Engine.execute statement schema := by
  show added ∈ (match element statement with
    | some added => if added ∈ schema then schema else schema ++ [added]
    | none => schema)
  cases helement : element statement with
  | none =>
      rw [helement] at h
      rcases h with hold | hnew
      · exact hold
      · exact absurd hnew (by simp)
  | some other =>
      dsimp only
      rw [helement] at h
      split
      · rename_i hmem
        rcases h with hold | hnew
        · exact hold
        · rw [← Option.some.inj hnew]
          exact hmem
      · rcases h with hold | hnew
        · exact List.mem_append_left _ hold
        · rw [← Option.some.inj hnew]
          exact List.mem_append_right _ List.mem_cons_self

/-- A schema has what its statements add. -/
theorem mem_after {history : List String} {statement : String} {added : Element}
    (hstatement : statement ∈ history) (h : element statement = some added) :
    added ∈ after Engine.execute [] history := by
  induction history using List.reverseRecOn with
  | nil => exact absurd hstatement (by simp)
  | append_singleton history last ih =>
      rw [after_snoc]
      rcases List.mem_append.mp hstatement with hold | hnew
      · exact mem_execute (Or.inl (ih hold))
      · rw [List.mem_singleton.mp hnew] at h
        exact mem_execute (Or.inr h)

theorem additive_repeatable (p : String → Prop) :
    Repeatable Engine.execute ([] : List Element) p := by
  intro history _ statement hstatement
  generalize hschema : after Engine.execute ([] : List Element) history = schema
  show (match element statement with
    | some added => if added ∈ schema then schema else schema ++ [added]
    | none => schema) = schema
  cases helement : element statement with
  | none => rfl
  | some added =>
      have hmem := mem_after hstatement helement
      rw [hschema] at hmem
      exact if_pos hmem

/-- The statements of the first file, its tables reduced to their keys. -/
def tables : List String :=
  ["CREATE TABLE IF NOT EXISTS tenants (id);", "CREATE TABLE IF NOT EXISTS carriers (id);",
    "CREATE TABLE IF NOT EXISTS recordings (id);",
    "CREATE TABLE IF NOT EXISTS tariff_snapshots (id);",
    "CREATE TABLE IF NOT EXISTS terminal_snapshots (id);",
    "ALTER TABLE recordings CONFIGURE ZONE USING gc.ttlseconds=7776000;"]

def recordingTables : Directory where
  files := [("001a_recording_tables.sql", String.ofList (tables.flatMap String.toList))]
  distinct := by decide

theorem split_tables : splitSqlStatements (String.ofList (tables.flatMap String.toList)) =
    tables := by
  unfold splitSqlStatements
  rw [String.toList_ofList]
  decide +kernel

theorem pending_recordingTables :
    pendingMigrations recordingTables = [⟨"001a_recording_tables.sql", tables⟩] := by
  have hname : "001a_recording_tables.sql".endsWith ".sql" = true := by decide +kernel
  simp only [pendingMigrations, recordingTables, List.filter_cons_of_pos, hname, List.filter_nil,
    List.insertionSort_cons, List.insertionSort_nil, List.orderedInsert_nil, List.map_cons,
    List.map_nil, split_tables]

def blank : Database (List Element) := ⟨[], []⟩

/-- The database after a first run that stops after the given number of steps. -/
def stopped (steps : Nat) : Database (List Element) :=
  performAll blank ((applyAll recordingTables blank).take steps)

/-- A run that stops between the last table and the zone: the rerun records the file, never
configures the zone, and does not end in the schema of one uninterrupted run. -/
theorem zone_skipped :
    Repeatable Engine.execute ([] : List Element) (· ∈ log recordingTables) ∧
    ¬ TrackedExecuted recordingTables (performAll (stopped 5) (applyAll recordingTables (stopped 5)))
      (executed ((applyAll recordingTables blank).take 5) ++
        executed (applyAll recordingTables (stopped 5))) ∧
    (performAll (stopped 5) (applyAll recordingTables (stopped 5))).schema ≠
      (performAll blank (applyAll recordingTables blank)).schema := by
  refine ⟨additive_repeatable _, ?_⟩
  simp only [TrackedExecuted, stopped, applyAll, pending_recordingTables]
  decide +kernel

/-- A run that stops before the last table is repaired by the next one. -/
theorem runs_recover_stopped :
    TrackedExecuted recordingTables (stopped 3)
        ([] ++ executed ((applyAll recordingTables blank).take 3)) ∧
    (performAll (stopped 3) (applyAll recordingTables (stopped 3))).schema =
      (performAll blank (applyAll recordingTables blank)).schema := by
  have hblank : MarkersTell recordingTables blank [] := by
    simp only [MarkersTell, pending_recordingTables]
    decide +kernel
  have htold : MarkersTell recordingTables (stopped 3)
      ([] ++ executed ((applyAll recordingTables blank).take 3)) := by
    simp only [MarkersTell, stopped, applyAll, pending_recordingTables]
    decide +kernel
  obtain ⟨htracked, hschema, _⟩ := runs_recover recordingTables [] (additive_repeatable _) _ _
    (Runs.run .blank hblank 3)
  exact ⟨htracked, hschema htold⟩

end Case

end Tally.Analysis.Migrations
