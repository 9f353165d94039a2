import Tally.Library.Json
import Tally.Library.Value
import Tally.Model.DecimalColumns
import Tally.Model.Schema

/-!
# Later contests

The embedding of `platform/contest_workflow.py` and of what the program does to a case besides:
`platform/clerk_pipeline.py` inserts it, `platform/seal.py` files it. The tenant is fixed; columns
that are written and never read here are left out, and so are the findings, the evidence and the
ledger; whether the checks of a seal pass, and the values it writes, are inputs of its step.
-/

set_option autoImplicit false

namespace Tally.Model.ContestWorkflow
open Library Library.Calendar Tally.Model Tally.Model.Receipt Tally.Model.DecimalColumns
open Tally.Model.Applicability (Decimal)

/-! ## Errors -/

inductive ContestError where
  /-- `ContestWorkflowError`. -/
  | workflow (message : String)
  | overflow
  /-- The database refuses a value. -/
  | refused
deriving DecidableEq

section Texts

variable [Interpreter]

open Interpreter

/-! ## UUIDs -/

/-- A text without the occurrences of a pattern, `skip` characters of one being left. -/
def removeAll (pattern : List Char) : Nat → List Char → List Char
  | _, [] => []
  | skip + 1, _ :: text => removeAll pattern skip text
  | 0, c :: text =>
    if pattern.isPrefixOf (c :: text) then removeAll pattern (pattern.length - 1) text
    else c :: removeAll pattern 0 text

/-- The value of a hexadecimal digit. -/
def hexDigit (c : Char) : Option Nat :=
  match digitValue c with
  | some digit => some digit
  | none =>
    let lower := c.toLower
    if 'a' ≤ lower ∧ lower ≤ 'f' then some (lower.toNat - 'a'.toNat + 10) else none

/-- The number of hexadecimal digits; an underscore may stand between two digits. -/
def hexDigits : Bool → Nat → List Char → Option Nat
  | afterDigit, value, [] => if afterDigit then some value else none
  | afterDigit, value, c :: text =>
    match hexDigit c with
    | some digit => hexDigits true (value * 16 + digit) text
    | none => if c = '_' ∧ afterDigit = true then hexDigits false value text else none

/-- Digits behind `0x`, or digits. -/
def prefixedDigits : List Char → Option Nat
  | '0' :: x :: text =>
    if x = 'x' ∨ x = 'X' then
      match text with
      | '_' :: text => hexDigits false 0 text
      | text => hexDigits false 0 text
    else hexDigits false 0 ('0' :: x :: text)
  | text => hexDigits false 0 text

/-- `int(text, 16)` of a text without a minus sign. -/
def hexNumber (text : List Char) : Option Nat :=
  match stripText text with
  | '+' :: text => prefixedDigits text
  | text => prefixedDigits text

/-- `UUID(value)`. -/
def uuidOf (value : String) : Option Uuid :=
  let text := removeAll "uuid:".toList 0 (removeAll "urn:".toList 0 value.toList)
  let inner := ((text.dropWhile (· ∈ ['{', '}'])).reverse.dropWhile (· ∈ ['{', '}'])).reverse
  let hex := inner.filter (· ≠ '-')
  if hex.length = 32 then (hexNumber hex).map (BitVec.ofNat 128) else none

/-- `_uuid`. -/
def parseUuid (value : String) (field : String) : Except ContestError Uuid :=
  match uuidOf value with
  | some id => .ok id
  | none => .error (.workflow (field ++ "_invalid"))

/-! ## Times -/

/-- `_utc_timestamp`; a datetime whose UTC date is no date overflows. -/
def utcTimestamp (value : String) : Except ContestError Instant :=
  let text := value.toList.flatMap fun c => if c = 'Z' then "+00:00".toList else [c]
  match AwareDatetime.fromisoformat (String.ofList text) with
  | none => .error (.workflow "received_at_invalid")
  | some none => .error (.workflow "received_at_unzoned")
  | some (some parsed) =>
    if (Instant.date parsed.instant).isSome then .ok parsed.instant else .error .overflow

/-! ## Rates -/

/-- The largest exponent of a decimal number that is read, and the least one of its last digit. -/
def maxEmax : Int := 999999999999999999

def minEtiny : Int := -1999999999999999997

/-- The digits in front of a text, and what is behind them. -/
def leadingDigits : List Char → List Nat × List Char
  | [] => ([], [])
  | c :: text =>
    match digitValue c with
    | some digit => ((leadingDigits text).1.cons digit, (leadingDigits text).2)
    | none => ([], c :: text)

def numberOf (digits : List Nat) : Nat := digits.foldl (fun value digit => value * 10 + digit) 0

/-- The fraction of a numeral, and what is behind it. -/
def fractionOf : List Char → List Nat × List Char
  | '.' :: text => leadingDigits text
  | text => ([], text)

/-- The exponent of a numeral, if the rest of it is one. -/
def exponentOf : List Char → Option Int
  | [] => some 0
  | e :: text =>
    if e = 'e' ∨ e = 'E' then
      let (negative, text) : Bool × List Char := match text with
        | '-' :: text => (true, text)
        | '+' :: text => (false, text)
        | text => (false, text)
      match leadingDigits text with
      | (digit :: digits, []) =>
        let magnitude : Int := numberOf (digit :: digits)
        some (if negative then -magnitude else magnitude)
      | _ => none
    else none

/-- A numeral without its sign. -/
def numeralOf (negative : Bool) (text : List Char) : Option Decimal :=
  let (whole, behind) := leadingDigits text
  let (fraction, rest) := fractionOf behind
  if whole.isEmpty && fraction.isEmpty then none
  else
    match exponentOf rest with
    | none => none
    | some written =>
      let coefficient := numberOf (whole ++ fraction)
      let exponent := written - fraction.length
      if minEtiny ≤ exponent ∧ exponent + digitCount coefficient - 1 ≤ maxEmax then
        some (.finite negative coefficient exponent)
      else none

/-- The numbers that are none: an infinity, or a NaN with the digits of its payload. -/
def specialOf (negative : Bool) (text : List Char) : Option Decimal :=
  let lower := text.map Char.toLower
  if lower = "inf".toList ∨ lower = "infinity".toList then some (.infinity negative)
  else if (lower.take 3 = "nan".toList ∧ (leadingDigits (lower.drop 3)).2 = []) ∨
      (lower.take 4 = "snan".toList ∧ (leadingDigits (lower.drop 4)).2 = []) then
    some .nan
  else none

/-- `Decimal(value)`. -/
def decimalOf (value : String) : Option Decimal :=
  let (negative, text) : Bool × List Char :=
    match (stripText value.toList).filter (· ≠ '_') with
    | '-' :: text => (true, text)
    | '+' :: text => (false, text)
    | text => (false, text)
  (specialOf negative text).or (numeralOf negative text)

/-! ## Arguments -/

structure ContestArguments where
  contestId : String
  caseId : String
  receivedAt : String
  sender : String
  claimText : String
  claimedRate : String

/-- What the arguments stand for. -/
structure ContestInput where
  contestId : Uuid
  caseId : Uuid
  received : Instant
  sender : String
  claimText : String
  rate : Decimal

/-- `rate.is_finite() and not rate < 0`. -/
def nonnegative : Decimal → Bool
  | .finite negative coefficient _ => !(negative && coefficient ≠ 0)
  | _ => false

def isBlank (text : String) : Bool := (stripText text.toList).isEmpty

/-- The checks before the transaction. -/
def parseContest (args : ContestArguments) : Except ContestError ContestInput := do
  let contestId ← parseUuid args.contestId "contest_id"
  let caseId ← parseUuid args.caseId "case_id"
  let received ← utcTimestamp args.receivedAt
  match decimalOf args.claimedRate with
  | none => .error (.workflow "claimed_rate_invalid")
  | some rate =>
    if isBlank args.sender || isBlank args.claimText || !nonnegative rate then
      .error (.workflow "contest_input_invalid")
    else pure ⟨contestId, caseId, received, args.sender, args.claimText, rate⟩

end Texts

/-! ## Tables -/

inductive CaseState where
  | analyzed | filed | contested | resolved
deriving DecidableEq

structure CaseRow where
  id : Uuid
  carrierId : Uuid
  state : CaseState
  evidenceHash : Option String
  evidenceManifest : Option (List (String × Json))
  sealedBy : Option Uuid
  sealedAtDisplay : Option Instant
  sealedTxnTs : Option Decimal

structure ContestRow where
  id : Uuid
  caseId : Uuid
  carrierId : Uuid
  receivedAt : Instant
  sender : String
  claimText : String
  claimedRate : Option Decimal

structure AuditRow where
  kind : String
  tag : String
  sqlText : String
  actor : String
  ok : Bool
deriving DecidableEq

structure ContestDb where
  cases : List CaseRow
  contests : List ContestRow
  queryLog : List AuditRow

def caseOf (db : ContestDb) (id : Uuid) : Option CaseRow := db.cases.find? fun row => row.id = id

def contestOf (db : ContestDb) (id : Uuid) : Option ContestRow :=
  db.contests.find? fun row => row.id = id

/-- An update of the case of an id. -/
def updateCase (id : Uuid) (change : CaseRow → CaseRow) (cases : List CaseRow) : List CaseRow :=
  cases.map fun row => if row.id = id then change row else row

/-! ## Recording -/

/-- The truth of a decimal number that is not null. -/
def truthy : Decimal → Bool
  | .finite _ coefficient _ => coefficient ≠ 0
  | _ => true

/-- `all((evidence_hash, manifest, sealed_by, sealed_at, sealed_txn))`. -/
def hasSeal (row : CaseRow) : Bool :=
  row.evidenceHash.any (· ≠ "") && row.evidenceManifest.any (fun members => !members.isEmpty) &&
    row.sealedBy.isSome && row.sealedAtDisplay.isSome && row.sealedTxnTs.any truthy

def sealedForContest (row : CaseRow) : Bool :=
  (row.state = .filed || row.state = .contested) && hasSeal row

/-- `tuple(existing) == expected`. -/
def sameRow (found : ContestRow) (carrierId : Uuid) (input : ContestInput) : Bool :=
  found.caseId = input.caseId && found.carrierId = carrierId && found.receivedAt = input.received &&
    found.sender = input.sender && found.claimText = input.claimText &&
      found.claimedRate.any fun rate => equal rate input.rate

/-- A text column keeps every text without a NUL. -/
def storeText (text : String) : Option String :=
  if '\x00' ∈ text.toList then none else some text

/-- The row of a contest as the database takes it. -/
def contestRow (carrierId : Uuid) (input : ContestInput) : Except ContestError ContestRow :=
  match storeText input.sender, storeText input.claimText, storeMoney input.rate with
  | some sender, some claimText, some rate =>
    .ok ⟨input.contestId, input.caseId, carrierId, input.received, sender, claimText, some rate⟩
  | _, _, _ => .error .refused

/-- The contest that is there, or a new one: whether it was there, and the contests behind the
statements. -/
def insertContest (carrierId : Uuid) (input : ContestInput) (db : ContestDb) :
    Except ContestError (Bool × List ContestRow) :=
  match contestOf db input.contestId with
  | some found =>
    if sameRow found carrierId input then .ok (true, db.contests)
    else .error (.workflow "contest_id_conflict")
  | none =>
    match contestRow carrierId input with
    | .error e => .error e
    | .ok row => .ok (false, db.contests ++ [row])

def contestAudit (actor : String) : AuditRow :=
  ⟨"system", "contest.record", "COMMIT (contest input + case state transition)", actor, true⟩

structure ContestAnswer where
  contestId : Uuid
  caseId : Uuid
  state : CaseState
  alreadyRecorded : Bool
deriving DecidableEq

/-- The update of a case that is filed. -/
def toContested (row : CaseRow) : CaseRow :=
  if row.state = .filed then { row with state := .contested } else row

/-- The transaction, without its parts that fail. -/
def recorded (actor : String) (input : ContestInput) (row : CaseRow)
    (contests : Bool × List ContestRow) (db : ContestDb) : ContestAnswer × ContestDb :=
  (⟨input.contestId, input.caseId, .contested, contests.1⟩,
    { cases :=
        if row.state = .filed then updateCase input.caseId toContested db.cases else db.cases
      contests := contests.2
      queryLog := db.queryLog ++ [contestAudit actor] })

/-- The transaction of `record_later_contest`. -/
def commitContest (actor : String) (input : ContestInput) (db : ContestDb) :
    Except ContestError (ContestAnswer × ContestDb) :=
  match caseOf db input.caseId with
  | none => .error (.workflow "sealed_case_not_found")
  | some row =>
    if sealedForContest row then do
      let contests ← insertContest row.carrierId input db
      pure (recorded actor input row contests db)
    else .error (.workflow "case_not_sealed_for_contest")

/-- `record_later_contest`. -/
def recordLaterContest [Interpreter] (actor : String) (args : ContestArguments) (db : ContestDb) :
    Except ContestError (ContestAnswer × ContestDb) := do
  let input ← parseContest args
  commitContest actor input db

/-! ## Cases -/

/-- The case a clerk run commits; the database gives it an id. -/
def commitCase (id carrierId : Uuid) (actor : String) (db : ContestDb) : Option ContestDb :=
  match caseOf db id with
  | some _ => none
  | none =>
    some { db with
      cases := db.cases ++ [⟨id, carrierId, .analyzed, none, none, none, none, none⟩]
      queryLog := db.queryLog ++ [⟨"system", "clerk.commit",
        "COMMIT (finding + evidence + case) · case " ++ uuidText id, actor, true⟩] }

/-- What a seal writes, and whether the checks of the evidence and of the approval pass. -/
structure SealStep where
  accepted : Bool
  evidenceHash : String
  evidenceManifest : List (String × Json)
  sealedBy : Uuid
  sealedAtDisplay : Instant
  sealedTxnTs : Decimal
  auditText : String

/-- The update of a case that is analyzed. -/
def fileCase (values : SealStep) (row : CaseRow) : CaseRow :=
  { row with
    state := .filed
    evidenceHash := some values.evidenceHash
    evidenceManifest := some values.evidenceManifest
    sealedBy := some values.sealedBy
    sealedAtDisplay := some values.sealedAtDisplay
    sealedTxnTs := some values.sealedTxnTs }

/-- `seal_case`: a case that is filed is checked again, a case that is analyzed is filed, and no
other case is sealed. -/
def sealCase (id : Uuid) (values : SealStep) (actor : String) (db : ContestDb) :
    Option ContestDb :=
  match (caseOf db id).map CaseRow.state with
  | some .filed =>
    if values.accepted then
      some { db with
        queryLog := db.queryLog ++ [⟨"audit", "seal", values.auditText, actor, true⟩] }
    else none
  | some .analyzed =>
    if values.accepted then
      some { db with
        cases := updateCase id (fileCase values) db.cases
        queryLog := db.queryLog ++ [⟨"audit", "seal", values.auditText, actor, true⟩] }
    else none
  | _ => none

/-! ## Runs -/

/-- One call of the program. -/
inductive Step where
  | commitCase (id carrierId : Uuid) (actor : String)
  | sealCase (id : Uuid) (values : SealStep) (actor : String)
  | recordContest (args : ContestArguments) (actor : String)

/-- What a call leaves; a transaction that fails leaves the tables as they are. -/
def step [Interpreter] (db : ContestDb) : Step → ContestDb
  | .commitCase id carrierId actor => (commitCase id carrierId actor db).getD db
  | .sealCase id values actor => (sealCase id values actor db).getD db
  | .recordContest args actor =>
    match recordLaterContest actor args db with
    | .ok answer => answer.2
    | .error _ => db

/-- Empty tables. -/
def noCases : ContestDb := ⟨[], [], []⟩

def run [Interpreter] (steps : List Step) (db : ContestDb) : ContestDb := steps.foldl step db

end Tally.Model.ContestWorkflow
