import Tally.Library.Value
import Tally.Model.Judgment
import Tally.Model.Schema

/-!
# Claims of an invoice and their anchors

The embedding of `core/intake_claims.py`: the validation of the claims a model extracted,
each anchored in the words of a page and normalised by the parser of its field. The date
library and the tables of the interpreter are parameters; so are the coordinates of a page,
which are only compared and divided.
-/

set_option autoImplicit false

namespace Tally.Model.IntakeClaims
open Library Library.Calendar Library.Sha256 Tally.Model

/-! ## Fields -/

inductive ClaimField where
  | invoiceNumber | containerNumber | billOfLading | chargeType | periodStart | periodEnd
  | chargedDays | dailyRate | total | issuedDate
deriving DecidableEq

def ClaimField.value : ClaimField → String
  | invoiceNumber => "invoice_number"
  | containerNumber => "container_number"
  | billOfLading => "bill_of_lading"
  | chargeType => "charge_type"
  | periodStart => "period_start"
  | periodEnd => "period_end"
  | chargedDays => "charged_days"
  | dailyRate => "daily_rate"
  | total => "total"
  | issuedDate => "issued_date"

def requiredClaimFields : List ClaimField :=
  [.invoiceNumber, .containerNumber, .billOfLading, .chargeType, .periodStart, .periodEnd,
    .chargedDays, .dailyRate, .total, .issuedDate]

/-! ## Errors and parameters -/

/-- What the parsers raise: the first three are caught and reported, an arithmetic overflow
(`OverflowError`, `decimal.Overflow`) is not. -/
inductive ClaimError where
  | typeError
  | valueError
  | invalidOperation
  | overflow
deriving DecidableEq

def ClaimError.caught : ClaimError → Bool
  | .overflow => false
  | _ => true

def conversionError : ConversionError → ClaimError
  | .typeError => .typeError
  | .valueError => .valueError
  | .overflowError => .overflow

inductive DateError where
  | valueError
  | overflowError
deriving DecidableEq

/-- `dateutil.parser.parse(text, fuzzy=False).date()` on a current date. -/
class DateLibrary where
  parse : Date → String → Except DateError Date

/-! ## Pages -/

structure PageWord (K : Type) where
  text : String
  x0 : K
  top : K
  x1 : K
  bottom : K

structure Page (K : Type) where
  words : List (PageWord K)
  width : K
  height : K

structure BoundingBox (K : Type) where
  x0 : K
  top : K
  x1 : K
  bottom : K

structure PdfAnchor (K : Type) where
  pageNumber : Int
  boundingBox : BoundingBox K
  textExcerpt : String
  textExcerptSha256 : String

/-! ## Anchors -/

def isLetter (c : Char) : Bool := decide (65 ≤ c.toNat) && decide (c.toNat ≤ 90)

/-- The characters an anchor compares: `[A-Z0-9$.,-]`. -/
def anchorChar (c : Char) : Bool := isLetter c || isDigit c || c ∈ ['$', '.', ',', '-']

section Anchors

variable [Interpreter]

/-- `_token`. -/
def token (text : List Char) : List Char := (upperText text).filter anchorChar

/-- `_tokens`. -/
def tokens (text : List Char) : List (List Char) :=
  ((splitWords text).map token).filter fun part => !part.isEmpty

variable {K : Type}

/-- The first run of words with the given tokens. -/
def findRun (excerptTokens : List (List Char)) : List (PageWord K) → Option (List (PageWord K))
  | [] => none
  | word :: words =>
    let run := (word :: words).take excerptTokens.length
    if run.map (fun w => token w.text.toList) = excerptTokens then some run
    else findRun excerptTokens words

variable [Min K] [Max K] [Div K]

omit [Interpreter] in
/-- The box around a first word and others, in parts of the page. -/
def boundingBox (page : Page K) (word : PageWord K) (words : List (PageWord K)) : BoundingBox K :=
  { x0 := (words.foldl (fun m w => min m w.x0) word.x0) / page.width
    top := (words.foldl (fun m w => min m w.top) word.top) / page.height
    x1 := (words.foldl (fun m w => max m w.x1) word.x1) / page.width
    bottom := (words.foldl (fun m w => max m w.bottom) word.bottom) / page.height }

omit [Interpreter] [Min K] [Max K] [Div K] in
/-- `" ".join(...)` of the words. -/
def joinedWords (words : List (PageWord K)) : String :=
  String.intercalate " " (words.map PageWord.text)

/-- `locate_pdf_anchor`. -/
def locatePdfAnchor [Sha256] (pages : List (Page K)) (pageNumber : Option Value)
    (textExcerpt : String) : Option (PdfAnchor K) :=
  match pageNumber with
  | some (.int number) =>
    if number < 1 ∨ pages.length < number then none
    else
      match pages[(number - 1).toNat]? with
      | none => none
      | some page =>
        let excerptTokens := tokens textExcerpt.toList
        if excerptTokens = [] then none
        else
          match findRun excerptTokens page.words with
          | some (word :: words) =>
            let excerpt := joinedWords (word :: words)
            some ⟨number, boundingBox page word words, excerpt, hexdigest (encode excerpt)⟩
          | _ => none
  | _ => none

end Anchors

/-! ## Parsers -/

/-- A money text: its sign, its digits as one number and how many of them follow the point. -/
def parseDecimal (text : List Char) : Option (Bool × Nat × Nat) :=
  let (negative, text) := match text with
    | '-' :: text => (true, text)
    | text => (false, text)
  let whole := text.takeWhile isDigit
  let number (digits : List Char) : Nat :=
    digits.foldl (fun value c => value * 10 + (c.toNat - 48)) 0
  match text.drop whole.length with
  | [] => if whole.isEmpty then none else some (negative, number whole, 0)
  | '.' :: fraction =>
    if fraction.all isDigit && !(whole.isEmpty && fraction.isEmpty) then
      some (negative, number (whole ++ fraction), fraction.length)
    else none
  | _ => none

/-- The precision and the largest exponent of the decimal context. -/
def decimalPrecision : Nat := 28

def decimalEmax : Nat := 999999

/-- `int(decimal * 100)` of a coefficient with digits after the point: a product of more
digits than the precision is rounded. -/
def timesHundred (coefficient fractionDigits : Nat) : Except ClaimError Int :=
  let product := coefficient * 100
  let length := (Nat.toDigits 10 product).length
  if length ≤ decimalPrecision then .ok (product / 10 ^ fractionDigits : Nat)
  else
    let shift := length - decimalPrecision
    let rounded := roundHalfEven product (10 ^ shift)
    if decimalEmax + fractionDigits + 1 < (Nat.toDigits 10 rounded).length + shift then
      .error .overflow
    else .ok (rounded * 10 ^ shift / 10 ^ fractionDigits : Nat)

section Parsers

variable [Interpreter]

/-- `_parse_usd_minor`. -/
def parseUsdMinor (value : Value) : Except ClaimError Int :=
  match value with
  | .bool _ => .error .typeError
  | value =>
    let cleaned := value.text.toList.filter fun c => isDigit c || c = '.' || c = '-'
    match parseDecimal cleaned with
    | none => .error .invalidOperation
    | some (negative, coefficient, fractionDigits) =>
      if negative = true ∧ coefficient ≠ 0 ∨ 2 < fractionDigits then .error .valueError
      else timesHundred coefficient fractionDigits

inductive ValueType where
  | identifier | enum | date | integer | money | string
deriving DecidableEq

/-- What a parser makes of a value. -/
structure Reading where
  valueType : ValueType
  normalizedValue : ClaimValue
  amountMinor : Option Int
  currency : Option String
deriving DecidableEq

/-- Whether the text is four letters and seven digits. -/
def isContainer (text : List Char) : Bool :=
  text.length = 11 && (text.take 4).all isLetter && (text.drop 4).all isDigit

/-- Whether the text is a letter or digit and three to thirty letters, digits and hyphens. -/
def isBillOfLading : List Char → Bool
  | [] => false
  | c :: text => (isLetter c || isDigit c) && decide (3 ≤ text.length) &&
      decide (text.length ≤ 30) && text.all fun c => isLetter c || isDigit c || c = '-'

/-- A date field. -/
def readDate [DateLibrary] (today : Date) (value : Value) : Except ClaimError Reading :=
  match DateLibrary.parse today value.text with
  | .ok parsed => .ok ⟨.date, .text parsed.isoformat, none, none⟩
  | .error .valueError => .error .valueError
  | .error .overflowError => .error .overflow

/-- The number of days. -/
def readDays (value : Value) : Except ClaimError Reading :=
  match value with
  | .bool _ => .error .typeError
  | value =>
    match value.toInt with
    | .error e => .error (conversionError e)
    | .ok parsed =>
      if parsed ≤ 0 ∨ 90 < parsed then .error .valueError
      else .ok ⟨.integer, .integer parsed, none, none⟩

/-- An amount of money, always in US dollars. -/
def readMoney (value : Value) : Except ClaimError Reading :=
  match parseUsdMinor value with
  | .error e => .error e
  | .ok amountMinor => .ok ⟨.money, .money amountMinor "USD", some amountMinor, some "USD"⟩

/-- `_normalize_claim`. -/
def normalizeClaim [DateLibrary] (today : Date) (field : ClaimField) (value : Value) :
    Except ClaimError Reading :=
  let text := value.text.toList
  match field with
  | .containerNumber =>
    let normalized := (upperText text).filter fun c => isLetter c || isDigit c
    if isContainer normalized then
      .ok ⟨.identifier, .text (String.ofList normalized), none, none⟩
    else .error .valueError
  | .billOfLading =>
    let normalized := upperText (stripText text)
    if isBillOfLading normalized then
      .ok ⟨.identifier, .text (String.ofList normalized), none, none⟩
    else .error .valueError
  | .chargeType =>
    let normalized := upperText (stripText text)
    if normalized = "DEMURRAGE".toList then
      .ok ⟨.enum, .text (String.ofList normalized), none, none⟩
    else .error .valueError
  | .periodStart => readDate today value
  | .periodEnd => readDate today value
  | .issuedDate => readDate today value
  | .chargedDays => readDays value
  | .dailyRate => readMoney value
  | .total => readMoney value
  | .invoiceNumber =>
    let normalized := stripText text
    if normalized.isEmpty then .error .valueError
    else .ok ⟨.string, .text (String.ofList normalized), none, none⟩

end Parsers

/-! ## Validation -/

structure ValidatedClaim (K : Type) where
  fieldName : ClaimField
  valueType : ValueType
  rawValue : String
  normalizedValue : ClaimValue
  amountMinor : Option Int
  currency : Option String
  anchor : PdfAnchor K

structure ClaimValidation (K : Type) where
  claims : List (ValidatedClaim K)
  issueCodes : List String

def ClaimValidation.passed {K : Type} (validation : ClaimValidation K) : Bool :=
  validation.issueCodes.isEmpty

section Validation

variable [Interpreter] {K : Type}

def issue (kind : String) (field : ClaimField) : String := kind ++ "_" ++ field.value.toUpper

variable [Min K] [Max K] [Div K] [Sha256]

/-- The value of a field and its anchor, or what is missing. -/
def anchoredValue (pages : List (Page K)) (rawClaims : List (String × Value))
    (field : ClaimField) : Except String (Value × PdfAnchor K) :=
  match getMember rawClaims field.value with
  | some (.dict entry) =>
    match getMember entry "value", getMember entry "text_excerpt" with
    | some .null, _ => .error (issue "MISSING" field)
    | some value, some (.str excerpt) =>
      if excerpt.toList.all Interpreter.isSpace then .error (issue "MISSING" field)
      else
        match locatePdfAnchor pages (getMember entry "page_number") excerpt with
        | none => .error (issue "UNANCHORED" field)
        | some anchor => .ok (value, anchor)
    | _, _ => .error (issue "MISSING" field)
  | _ => .error (issue "MISSING" field)

variable [DateLibrary]

/-- One round of the loop over the required fields: a claim or an issue. -/
def validateField (today : Date) (pages : List (Page K)) (rawClaims : List (String × Value))
    (field : ClaimField) : Except ClaimError (ValidatedClaim K ⊕ String) :=
  match anchoredValue pages rawClaims field with
  | .error code => .ok (.inr code)
  | .ok (value, anchor) =>
    match normalizeClaim today field value with
    | .error e => if e.caught then .ok (.inr (issue "INVALID" field)) else .error e
    | .ok reading =>
      .ok (.inl
        { fieldName := field
          valueType := reading.valueType
          rawValue := value.text
          normalizedValue := reading.normalizedValue
          amountMinor := reading.amountMinor
          currency := reading.currency
          anchor })

omit [Interpreter] [Min K] [Max K] [Div K] [Sha256] [DateLibrary] in
/-- `by_name`. -/
def byName (claims : List (ValidatedClaim K)) (field : ClaimField) : Option (ValidatedClaim K) :=
  claims.find? fun claim => claim.fieldName = field

/-- `date.fromisoformat` of a normalised value. -/
def claimDate : ClaimValue → Except ClaimError Date
  | .text value =>
    match Date.fromisoformat value with
    | some date => .ok date
    | none => .error .valueError
  | _ => .error .typeError

/-- `int` of a normalised value. -/
def claimInt : ClaimValue → Except ClaimError Int
  | .integer value => .ok value
  | _ => .error .typeError

omit [Interpreter] [Min K] [Max K] [Div K] [Sha256] [DateLibrary] in
/-- The charge period against the number of days. -/
def periodIssues (claims : List (ValidatedClaim K)) : Except ClaimError (List String) :=
  match byName claims .periodStart, byName claims .periodEnd, byName claims .chargedDays with
  | some periodStart, some periodEnd, some days => do
    let start ← claimDate periodStart.normalizedValue
    let last ← claimDate periodEnd.normalizedValue
    let chargedDays ← claimInt days.normalizedValue
    pure (if last < start ∨ (last.toOrdinal : Int) - start.toOrdinal + 1 ≠ chargedDays then
      ["CHARGE_PERIOD_DAY_COUNT_MISMATCH"] else [])
  | _, _, _ => pure []

omit [Interpreter] [Min K] [Max K] [Div K] [Sha256] [DateLibrary] in
/-- The rate times the days against the total. -/
def totalIssues (claims : List (ValidatedClaim K)) : Except ClaimError (List String) :=
  match byName claims .dailyRate, byName claims .chargedDays, byName claims .total with
  | some rate, some days, some total => do
    let chargedDays ← claimInt days.normalizedValue
    let expectedTotal := rate.amountMinor.getD 0 * chargedDays
    pure (if some expectedTotal ≠ total.amountMinor then ["CLAIMED_TOTAL_ARITHMETIC_MISMATCH"]
      else [])
  | _, _, _ => pure []

/-- `validate_extracted_claims`, run on a current date. -/
def validateExtractedClaims (today : Date) (raw : List (String × Value)) (pages : List (Page K)) :
    Except ClaimError (ClaimValidation K) :=
  match getMember raw "claims" with
  | some (.dict rawClaims) => do
    let results ← requiredClaimFields.mapM (validateField today pages rawClaims)
    let claims := results.filterMap Sum.getLeft?
    let period ← periodIssues claims
    let total ← totalIssues claims
    let issues := results.filterMap Sum.getRight? ++ period ++ total
    pure ⟨claims, issues.dedup.insertionSort (· ≤ ·)⟩
  | _ => pure ⟨[], ["INVALID_MODEL_SCHEMA"]⟩

end Validation

end Tally.Model.IntakeClaims
