import Tally.Library.Replay
import Mathlib.Data.List.Sort

/-!
# The migration runner

The embedding of `external/migrate.py`: the files of the migrations directory, their
statements, and the runner that executes them one by one and tracks the files it has
completed. What a statement does to a schema, and which columns a schema has, are the
database's.
-/

set_option autoImplicit false

namespace Tally.Model.Migrate
open Library

/-! ## Statements of a script -/

/-- The whitespace that `str.strip` removes. -/
def isSpace (c : Char) : Bool :=
  let n := c.toNat
  (9 ≤ n && n ≤ 13) || (28 ≤ n && n ≤ 32) || n = 0x85 || n = 0xA0 || n = 0x1680 ||
    (0x2000 ≤ n && n ≤ 0x200A) || n = 0x2028 || n = 0x2029 || n = 0x202F || n = 0x205F ||
    n = 0x3000

def strip (text : List Char) : List Char :=
  ((text.dropWhile isSpace).reverse.dropWhile isSpace).reverse

/-- What the scanner is inside of. -/
inductive Scan where
  | plain | single | double | lineComment | blockComment
deriving DecidableEq

def apostrophe : Char := Char.ofNat 39

def quotationMark : Char := Char.ofNat 34

def newline : Char := Char.ofNat 10

/-- A character that is read together with the one that follows it. -/
def Scan.pair (scan : Scan) (c following : Char) : Option Scan :=
  match scan with
  | .lineComment => none
  | .blockComment => if c = '*' ∧ following = '/' then some .plain else none
  | .single => if c = apostrophe ∧ following = apostrophe then some .single else none
  | .double => if c = quotationMark ∧ following = quotationMark then some .double else none
  | .plain =>
    if c = '-' ∧ following = '-' then some .lineComment
    else if c = '/' ∧ following = '*' then some .blockComment
    else none

/-- A character that is read alone. -/
def Scan.next (scan : Scan) (c : Char) : Scan :=
  match scan with
  | .lineComment => if c = newline then .plain else .lineComment
  | .blockComment => .blockComment
  | .single => if c = apostrophe then .plain else .single
  | .double => if c = quotationMark then .plain else .double
  | .plain => if c = apostrophe then .single else if c = quotationMark then .double else .plain

/-- The pieces of a script, cut behind every semicolon that is neither quoted nor in a
comment; `current` is the piece so far, its last character first. -/
def scanPieces : Scan → List Char → List Char → List (List Char)
  | _, current, [] => [current.reverse]
  | scan, current, [c] =>
    if scan = .plain ∧ c = ';' then [(c :: current).reverse, []] else [(c :: current).reverse]
  | scan, current, c :: following :: rest =>
    match scan.pair c following with
    | some scan => scanPieces scan (following :: c :: current) rest
    | none =>
      if scan = .plain ∧ c = ';' then
        (c :: current).reverse :: scanPieces .plain [] (following :: rest)
      else scanPieces (scan.next c) (c :: current) (following :: rest)

/-- `_split_sql_statements`. -/
def splitSqlStatements (script : String) : List String :=
  (((scanPieces .plain [] script.toList).map strip).filter fun piece => !piece.isEmpty).map
    String.ofList

/-- The pieces are the script: no character is lost or moved. -/
theorem scanPieces_flatten (scan : Scan) (current text : List Char) :
    (scanPieces scan current text).flatten = current.reverse ++ text := by
  fun_induction scanPieces scan current text with
  | case1 scan current => simp
  | case2 scan current c _ => simp
  | case3 scan current c _ => simp
  | case4 scan current c following rest scan' _ ih => simpa using ih
  | case5 scan current c following rest _ _ ih =>
      rw [List.flatten_cons, ih]
      simp
  | case6 scan current c following rest _ _ ih => simpa using ih

/-! ## The migrations directory -/

/-- The files of the directory by name. -/
structure Directory where
  files : List (String × String)
  distinct : (files.map Prod.fst).Nodup

structure Migration where
  filename : String
  statements : List String

/-- `pending_migrations`: the names that end in `.sql`, sorted, with the files' statements. -/
def pendingMigrations (directory : Directory) : List Migration :=
  ((directory.files.filter fun file => file.1.endsWith ".sql").insertionSort
      fun first second => first.1 ≤ second.1).map
    fun file => ⟨file.1, splitSqlStatements file.2⟩

/-! ## Tracking -/

def preRunnerMigrations : List String :=
  ["001a_recording_tables.sql", "001b_recordings_invocation.sql"]

/-- `_PRE_RUNNER_SCHEMA_MARKERS`. -/
def preRunnerSchemaMarkers (filename : String) : List (String × String) :=
  if filename = "001a_recording_tables.sql" then
    [("tenants", "id"), ("carriers", "id"), ("recordings", "id"), ("tariff_snapshots", "id"),
      ("terminal_snapshots", "id")]
  else [("recordings", "invocation")]

/-- What the database does with statements. -/
class Engine (Schema : Type) where
  execute : String → Schema → Schema
  columns : Schema → List (String × String)

/-- A database: its schema and the rows of `schema_migrations`. -/
structure Database (Schema : Type) where
  schema : Schema
  tracked : List String

/-- What the runner does with the database, one autocommitted step at a time. -/
inductive Action where
  | execute (statement : String)
  | track (filename : String)
deriving DecidableEq

section Runner

variable {Schema : Type} [Engine Schema]

def perform (db : Database Schema) : Action → Database Schema
  | .execute statement => { db with schema := Engine.execute statement db.schema }
  | .track filename =>
    if filename ∈ db.tracked then db else { db with tracked := db.tracked ++ [filename] }

def performAll (db : Database Schema) (actions : List Action) : Database Schema :=
  actions.foldl perform db

/-- Whether a pre-runner migration is untracked while its marker columns exist. -/
def markedUntracked (db : Database Schema) (filename : String) : Bool :=
  filename ∉ db.tracked && (preRunnerSchemaMarkers filename).all fun marker =>
    marker ∈ Engine.columns db.schema

/-- `_ensure_tracking_table`: what is recorded without being executed. -/
def ensureTrackingTable (db : Database Schema) : List String :=
  preRunnerMigrations.filter (markedUntracked db)

/-- The steps for one file. -/
def migrationActions (migration : Migration) : List Action :=
  migration.statements.map .execute ++ [.track migration.filename]

/-- `apply_all`: the steps of a run, which the state it starts from determines. -/
def applyAll (directory : Directory) (db : Database Schema) : List Action :=
  let ensured := ensureTrackingTable db
  ensured.map .track ++
    ((pendingMigrations directory).filter fun migration =>
      migration.filename ∉ db.tracked ++ ensured).flatMap migrationActions

/-- The statements among some steps. -/
def executed (actions : List Action) : List String :=
  actions.filterMap fun
    | .execute statement => some statement
    | .track _ => none

end Runner

end Tally.Model.Migrate
