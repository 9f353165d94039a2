import Tally.Model.AuthoritySealRepository

/-!
# Sealed fact packs, drafts and send gates

The embedding of `core/correspondence.py` and of the provider of
`external/controlled_mail.py`: the locked fields of a sealed fact pack, the
numbers its prose may use, the all-or-nothing evaluation of the send gates, and a
provider that deduplicates by the key it is given. The character tables of the
language are a parameter.
-/

set_option autoImplicit false

namespace Tally.Model
open Library Library.Calendar Tally.Model.AuthoritySealRepository

/-! ## Locked fields -/

structure SealedFactPack where
  invoiceId : Uuid
  decisionSealId : Uuid
  sealDigest : String
  recommendationType : RecommendationType
  disputedAmountMinor : Int
  supportedAmountMinor : Int
  currency : String
  chargedPeriodStart : String
  chargedPeriodEnd : String
  containerRef : String
  invoiceNo : String
  ruleRef : String
deriving DecidableEq

/-- `locked_fields`. -/
def lockedFields (pack : SealedFactPack) : List (String × Json) :=
  [("recommendation_type", .str pack.recommendationType.value),
   ("disputed_amount_minor", .int pack.disputedAmountMinor),
   ("supported_amount_minor", .int pack.supportedAmountMinor),
   ("currency", .str pack.currency),
   ("charged_period_start", .str pack.chargedPeriodStart),
   ("charged_period_end", .str pack.chargedPeriodEnd),
   ("container_ref", .str pack.containerRef),
   ("invoice_no", .str pack.invoiceNo),
   ("rule_ref", .str pack.ruleRef)]

structure DraftValidation where
  ok : Bool
  issues : List String
deriving DecidableEq

/-- `validate_draft_locked_fields`. -/
def validateDraftLockedFields (pack : SealedFactPack) (draftLockedFields : List (String × Json)) :
    DraftValidation :=
  let expected := lockedFields pack
  if canonicalJsonBytes (.obj expected) ≠ canonicalJsonBytes (.obj draftLockedFields) then
    let drifted := ((expected.map Prod.fst).insertionSort (· ≤ ·)).filter fun k =>
      (expected.lookup k).map (Json.dumps .compact) ≠
        (draftLockedFields.lookup k).map (Json.dumps .compact)
    ⟨false, if drifted.isEmpty then ["LOCKED_FIELD_SET_MISMATCH"]
      else drifted.map ("LOCKED_FIELD_DRIFT:" ++ ·)⟩
  else ⟨true, []⟩

/-- `build_subject`. -/
def buildSubject (pack : SealedFactPack) : String :=
  "Adjustment request · " ++ pack.invoiceNo ++ " · " ++ pack.containerRef

/-! ## Prose -/

/-- The character tables of the language: decimal digits, white space and the
lower case of a text. -/
class CharacterTables where
  isDecimal : Char → Bool
  isSpace : Char → Bool
  lower : List Char → List Char

/-- Thousands groups of a numeral, from its reversed digits. -/
def groupDigits : List Char → List Char
  | a :: b :: c :: d :: rest => a :: b :: c :: ',' :: groupDigits (d :: rest)
  | digits => digits

/-- `f"{value:,}"`. -/
def grouped (value : Int) : List Char :=
  (if value < 0 then ['-'] else []) ++
    (groupDigits (Nat.toDigits 10 value.natAbs).reverse).reverse

def plain (value : Int) : List Char := (toString value).toList

/-- The shapes in which an amount of minor units may be written. -/
def amountTokens (minor : Int) : List (List Char) :=
  let whole := minor / 100
  let cents := pad 2 (minor % 100).toNat
  [plain minor, plain whole, grouped whole, plain whole ++ '.' :: cents,
    grouped whole ++ '.' :: cents]

/-- `text.lstrip("0") or "0"`. -/
def withoutLeadingZeros (text : List Char) : List Char :=
  let stripped := text.dropWhile (· = '0')
  if stripped.isEmpty then ['0'] else stripped

section Prose

variable [CharacterTables]

open CharacterTables

/-- `text.replace("-", " ").replace("/", " ").split()`. -/
def dateParts (text : List Char) : List (List Char) :=
  (text.splitOnP fun c => c = '-' || c = '/' || isSpace c).filter fun part => !part.isEmpty

/-- The digits that follow, and a following `.` with its digits while there is
one. -/
def dottedRun : Nat → List Char → List Char × List Char
  | 0, text => ([], text)
  | fuel + 1, text =>
    let run := text.takeWhile isDecimal
    match text.drop run.length with
    | '.' :: rest =>
      if rest.head?.any isDecimal then
        let (more, rest) := dottedRun fuel rest
        (run ++ '.' :: more, rest)
      else (run, '.' :: rest)
    | rest => (run, rest)

/-- `re.findall(r"\d+(?:\.\d+)*", text)`. -/
def identifierRuns : Nat → List Char → List (List Char)
  | 0, _ => []
  | _ + 1, [] => []
  | fuel + 1, c :: text =>
    if isDecimal c then
      let (run, rest) := dottedRun (c :: text).length (c :: text)
      run :: identifierRuns fuel rest
    else identifierRuns fuel text

/-- `_supported_number_tokens`. -/
def supportedNumberTokens (pack : SealedFactPack) : List (List Char) :=
  amountTokens pack.disputedAmountMinor ++ amountTokens pack.supportedAmountMinor ++
    [pack.chargedPeriodStart, pack.chargedPeriodEnd].flatMap (fun text =>
      text.toList :: (dateParts text.toList).flatMap fun part => [part, withoutLeadingZeros part]) ++
    [pack.containerRef, pack.invoiceNo, pack.ruleRef].flatMap (fun text =>
      (identifierRuns text.toList.length text.toList).flatMap fun run =>
        [run, withoutLeadingZeros run]) ++
    amountTokens (pack.supportedAmountMinor + pack.disputedAmountMinor)

/-- `re.findall(r"\$?\d[\d,]*(?:\.\d+)?", prose)`; the tokens without their `$`
are `bare`. -/
def numberTokens : Nat → List Char → List (List Char)
  | 0, _ => []
  | _ + 1, [] => []
  | fuel + 1, c :: text =>
    let start := if c = '$' then text else c :: text
    if start.head?.any isDecimal then
      let run := start.takeWhile fun c => isDecimal c || c = ','
      let rest := start.drop run.length
      let fraction := match rest with
        | '.' :: digits => (digits.takeWhile isDecimal)
        | _ => []
      let token := run ++ (if fraction.isEmpty then [] else '.' :: fraction)
      (if c = '$' then '$' :: token else token) ::
        numberTokens fuel (start.drop token.length)
    else numberTokens fuel text

/-- The first part of an identifier, up to a space, a comma or a semicolon. -/
def identifierStem (text : List Char) : List Char :=
  let stripped := (text.dropWhile isSpace).reverse.dropWhile isSpace |>.reverse
  stripped.takeWhile fun c => !(isSpace c || c = ',' || c = ';')

/-- Whether the prose names an identifier by its first four characters only. -/
def mangles (prose identifier : List Char) : Bool :=
  let stem := lower (identifierStem identifier)
  identifierStem identifier ≠ [] ∧ stem.take 4 <:+: lower prose ∧ ¬ stem <:+: lower prose

/-- `validate_draft_prose`. -/
def validateDraftProse (pack : SealedFactPack) (prose : String) : DraftValidation :=
  let allowed := supportedNumberTokens pack
  let numbers := ((numberTokens (prose.toList.length + 1) prose.toList).filter fun token =>
    let bare := token.dropWhile (· = '$')
    !(allowed.contains bare || allowed.contains (bare.filter (· ≠ ',')))).map fun token =>
      "UNSUPPORTED_NUMBER:" ++ String.ofList token
  let mangled := ([("container_ref", pack.containerRef), ("invoice_no", pack.invoiceNo)].filter
    fun p => mangles prose.toList p.2.toList).map fun p => "MANGLED_IDENTIFIER:" ++ p.1
  let issues := (numbers ++ mangled).dedup.insertionSort (· ≤ ·)
  ⟨issues.isEmpty, issues⟩

end Prose

/-! ## Send gates -/

structure GateResult where
  gateCode : Gate
  state : GateState
  detail : Option String
deriving DecidableEq

def Gate.value : Gate → String
  | secondAuthorization => "SECOND_AUTHORIZATION"
  | lockedFields => "LOCKED_FIELDS"
  | approvedMemoryMcp => "APPROVED_MEMORY_MCP"
  | vectorClauseBinding => "VECTOR_CLAUSE_BINDING"
  | exactS3Source => "EXACT_S3_SOURCE"
  | noFallback => "NO_FALLBACK"

/-- `SEND_GATES`. -/
def sendGates : List Gate :=
  [.secondAuthorization, .lockedFields, .approvedMemoryMcp, .vectorClauseBinding, .exactS3Source,
    .noFallback]

structure SendDecision where
  gateResults : List GateResult
  blockedReason : Option String
deriving DecidableEq

def SendDecision.permitted (decision : SendDecision) : Bool := decision.blockedReason.isNone

/-- `_blocked_code`. -/
def blockedCode (gateCode : Gate) (state : GateState) : String :=
  if state = .notRun then "GATE_NOT_RUN:" ++ gateCode.value
  else match gateCode with
    | .secondAuthorization => "SEND_BLOCKED_AUTHORIZATION"
    | .lockedFields => "SEND_BLOCKED_LOCKED_FIELDS"
    | .approvedMemoryMcp => "SEND_BLOCKED_MEMORY"
    | .vectorClauseBinding => "SEND_BLOCKED_VECTOR"
    | .exactS3Source => "SEND_BLOCKED_SOURCE"
    | .noFallback => "SEND_BLOCKED_FALLBACK"

/-- `results.get(code)`, the last write of a code winning. -/
def resultOf (results : List (Gate × GateResult)) (code : Gate) : GateResult :=
  ((results.reverse.lookup code)).getD ⟨code, .notRun, some "gate not run"⟩

/-- `evaluate_send_gates`. -/
def evaluateSendGates (results : List (Gate × GateResult)) : SendDecision :=
  let ordered := sendGates.map fun code => (code, resultOf results code)
  { gateResults := ordered.map Prod.snd
    blockedReason := (ordered.find? fun p => p.2.state ≠ .verified).map fun p =>
      blockedCode p.1 p.2.state }

/-! ## The controlled provider -/

def recipientClass : String := "CONTROLLED_DEMONSTRATION_INBOX"

inductive ControlledSendError where
  | recipientNotControlled | providerUnavailable
deriving DecidableEq

def ControlledSendError.text : ControlledSendError → String
  | recipientNotControlled => "RECIPIENT_NOT_CONTROLLED"
  | providerUnavailable => "PROVIDER_UNAVAILABLE"

structure ProviderRequest where
  providerIdempotencyKey : String
  subject : String
  body : String
  recipientClass : String
deriving DecidableEq

structure ControlledSendReceipt where
  providerMessageId : String
  duplicate : Bool
deriving DecidableEq

/-- A delivered message under the key it was deduplicated by. -/
structure Delivery where
  providerIdempotencyKey : String
  messageId : String
deriving DecidableEq

/-- `DemonstrationInboxProvider.send`: the reply and the messages delivered so
far. -/
def providerSend (fail : Bool) (delivered : List Delivery) (request : ProviderRequest) :
    Except ControlledSendError ControlledSendReceipt × List Delivery :=
  if request.recipientClass ≠ recipientClass then (.error .recipientNotControlled, delivered)
  else if fail then (.error .providerUnavailable, delivered)
  else match delivered.find? fun d => d.providerIdempotencyKey = request.providerIdempotencyKey with
    | some d => (.ok ⟨d.messageId, true⟩, delivered)
    | none =>
      let messageId := "demo-" ++ String.ofList (request.providerIdempotencyKey.toList.take 16)
      (.ok ⟨messageId, false⟩, delivered ++ [⟨request.providerIdempotencyKey, messageId⟩])

end Tally.Model
