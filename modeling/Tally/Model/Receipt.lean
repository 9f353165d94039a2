import Tally.Model.Applicability

/-!
# Receipts

The embedding of `core/receipt.py`: the verification of a tariff extraction against the retained
bytes, the checks of a retained invoice claim, and the overcharge. The decimal arithmetic of the
calculation is that of the default context: 28 digits, rounded to the nearest with ties to even,
with exponents in a fixed range. The decoding of the retained JSON is a parameter.
-/

set_option autoImplicit false

namespace Tally.Model.Receipt
open Library Library.Calendar Library.Sha256 Tally.Model
open Tally.Model.Applicability (Decimal)
open Tally.Model.VectorRetrieval (blank normalizeText decodeUtf8)

/-! ## Parameters -/

/-- The character tables of the patterns: the values of the decimal digits and the characters of
words. Among the characters of ASCII the decimal digits are the usual ones. -/
class PatternTables extends CharacterTables where
  digitValue : Char → Nat
  isWord : Char → Bool
  digitValue_lt : ∀ c, isDecimal c = true → digitValue c < 10
  isDecimal_ascii : ∀ c, c.toNat < 128 → isDecimal c = isDigit c
  digitValue_ascii : ∀ c, isDigit c = true → digitValue c = c.toNat - 48

/-- The tables of a language whose digits, blanks and words are those of ASCII. -/
@[reducible] def asciiPatterns : PatternTables where
  isDecimal := isDigit
  isSpace c := c = ' '
  lower := List.map Char.toLower
  digitValue c := c.toNat - 48
  isWord c := c.isAlphanum
  digitValue_lt c h := by
    have hbounds := Bool.and_eq_true_iff.mp h
    have hle := of_decide_eq_true hbounds.2
    omega
  isDecimal_ascii _ _ := rfl
  digitValue_ascii _ _ := rfl

/-- What the calculation and the checks raise. -/
inductive ReceiptError where
  | valueError
  | invalidOperation
  | overflow
deriving DecidableEq

/-! ## Decimals -/

/-- The coefficient with its sign, scaled to an exponent that is not larger. -/
def scaled (negative : Bool) (coefficient : Nat) (exponent low : Int) : Int :=
  (if negative then -1 else 1) * (coefficient * 10 ^ (exponent - low).toNat : Nat)

/-- `left == right`; no number equals a NaN. -/
def equal : Decimal → Decimal → Bool
  | .finite n c e, .finite n' c' e' => scaled n c e (min e e') = scaled n' c' e' (min e e')
  | .infinity n, .infinity n' => n = n'
  | _, _ => false

/-- `left < right`; a NaN cannot be compared. -/
def less : Decimal → Decimal → Except ReceiptError Bool
  | .nan, _ => .error .invalidOperation
  | _, .nan => .error .invalidOperation
  | .finite n c e, .finite n' c' e' => .ok (scaled n c e (min e e') < scaled n' c' e' (min e e'))
  | .infinity n, .infinity n' => .ok (n && !n')
  | .infinity n, .finite .. => .ok n
  | .finite .., .infinity n => .ok (!n)

def zero : Decimal := .finite false 0 (-2)

def one : Decimal := .finite false 1 0

/-! ### The decimal context -/

/-- The precision and the bounds of the exponents of the last digits. -/
def precision : Nat := IntakeClaims.decimalPrecision

def etop : Int := IntakeClaims.decimalEmax - precision + 1

def etiny : Int := -IntakeClaims.decimalEmax - precision + 1

def digitCount (coefficient : Nat) : Nat := (Nat.toDigits 10 coefficient).length

/-- The result of an operation in the context. -/
def fix (negative : Bool) (coefficient : Nat) (exponent : Int) : Except ReceiptError Decimal :=
  if coefficient = 0 then
    .ok (.finite negative 0 (min (max exponent etiny) IntakeClaims.decimalEmax))
  else if etop < digitCount coefficient + exponent - precision then .error .overflow
  else
    let last := max (digitCount coefficient + exponent - precision) etiny
    if last ≤ exponent then .ok (.finite negative coefficient exponent)
    else
      let rounded := roundHalfEven coefficient (10 ^ (last - exponent).toNat)
      if digitCount rounded ≤ precision then .ok (.finite negative rounded last)
      -- The carry makes the coefficient longer, and its last digit is a zero.
      else if etop < last + 1 then .error .overflow
      else .ok (.finite negative (rounded / 10) (last + 1))

/-- `left - right`. -/
def subtract : Decimal → Decimal → Except ReceiptError Decimal
  | .nan, _ => .ok .nan
  | _, .nan => .ok .nan
  | .infinity n, .infinity n' => if n = n' then .error .invalidOperation else .ok (.infinity n)
  | .infinity n, .finite .. => .ok (.infinity n)
  | .finite .., .infinity n => .ok (.infinity (!n))
  | .finite n c e, .finite n' c' e' =>
    let difference := scaled n c e (min e e') - scaled n' c' e' (min e e')
    fix (difference < 0) difference.natAbs (min e e')

/-- `left * factor` for a positive integer. -/
def multiply (factor : Nat) : Decimal → Except ReceiptError Decimal
  | .nan => .ok .nan
  | .infinity n => .ok (.infinity n)
  | .finite n c e => fix n (c * factor) e

/-- `value.quantize(Decimal("0.01"))`. -/
def quantizeCents : Decimal → Except ReceiptError Decimal
  | .nan => .ok .nan
  | .infinity _ => .error .invalidOperation
  | .finite negative coefficient exponent =>
    if coefficient = 0 then .ok (.finite negative 0 (-2))
    else if precision < digitCount coefficient + exponent + 2 then .error .invalidOperation
    else
      let cents := if -2 ≤ exponent then coefficient * 10 ^ (exponent + 2).toNat
        else roundHalfEven coefficient (10 ^ (-2 - exponent).toNat)
      if precision < digitCount cents then .error .invalidOperation
      else .ok (.finite negative cents (-2))

/-! ## Rate texts -/

structure TariffExtraction where
  rateAmount : Decimal
  rateCurrency : String
  rateUnit : String
  rateText : String
  effectiveFrom : Date
  effectiveTo : Option Date
  clauseText : String
  sourceLocator : String
  confidence : Decimal

structure TariffVerification where
  eligible : Bool
  reasons : List String
  sourceSha256 : String
  clauseSha256 : String

def supportedCurrencies : List String := ["USD"]

def supportedRateUnits : List String := ["per_day"]

section Texts

variable [PatternTables]

open CharacterTables PatternTables

/-- A decimal digit as a digit of ASCII. -/
def asciiDigit (c : Char) : Char := if isDecimal c then Char.ofNat (48 + digitValue c) else c

/-- The match of `(?<!\d)(\d[\d,]*(?:\.\d{1,2})?)(?!\d)`. The digits and commas are all matched,
and so are one or two digits behind a point; more of them fail the look-ahead, and the match goes
back to before the point. -/
def rateNumeral (text : List Char) : Option (List Char) :=
  let found := text.dropWhile fun c => !isDecimal c
  let whole := found.takeWhile fun c => isDecimal c || c = ','
  if found.isEmpty then none
  else match found.drop whole.length with
    | '.' :: rest =>
      let decimals := rest.takeWhile isDecimal
      if 1 ≤ decimals.length ∧ decimals.length ≤ 2 then some (whole ++ '.' :: decimals)
      else some whole
    | _ => some whole

/-- `Decimal(text)` for digits with an optional point. -/
def decimalOf (text : List Char) : Option Decimal :=
  (IntakeClaims.parseDecimal (text.map asciiDigit)).map fun p => .finite p.1 p.2.1 (-p.2.2)

/-- `_amount_from_rate_text`. -/
def amountFromRateText (rateText : String) : Option Decimal :=
  (rateNumeral rateText.toList).bind fun numeral => decimalOf (numeral.filter (· ≠ ','))

omit [PatternTables] in
/-- Whether a character matches a small letter whatever its case; the long s is an s. -/
def matchesLetter (letter c : Char) : Bool := c.toLower = letter || (letter = 's' && c = 'ſ')

omit [PatternTables] in
/-- What follows a word at the beginning of a text. -/
def afterWord : List Char → List Char → Option (List Char)
  | [], text => some text
  | _ :: _, [] => none
  | letter :: word, c :: text => if matchesLetter letter c then afterWord word text else none

omit [PatternTables] in
/-- Whether a pattern matches somewhere, given the character before each place. -/
def matchesAt (pattern : Option Char → List Char → Bool) : Option Char → List Char → Bool
  | before, [] => pattern before []
  | before, c :: text => pattern before (c :: text) || matchesAt pattern (some c) text

/-- `(?:\bUSD\b|\$)` in any case. -/
def statesCurrency (text : List Char) : Bool :=
  matchesAt (fun before text => text.head? = some '$' ||
    !before.any isWord && (afterWord "usd".toList text).any fun rest => !rest.head?.any isWord)
    none text

/-- `(?:/\s*day\b|\bper\s+day\b)` in any case. -/
def statesUnit (text : List Char) : Bool :=
  let day (text : List Char) : Bool :=
    (afterWord "day".toList (text.dropWhile isSpace)).any fun rest => !rest.head?.any isWord
  matchesAt (fun before text => (text.head? = some '/' && day text.tail) ||
    !before.any isWord && (afterWord "per".toList text).any fun rest =>
      rest.head?.any isSpace && day rest)
    none text

/-! ## Verification -/

section Verification

variable [Sha256]

omit [Sha256] in
/-- The reasons that the texts of an extraction give. -/
def textReasons (sourceText : String) (extraction : TariffExtraction) : List String :=
  let normalizedSource := normalizeText sourceText
  let normalizedClause := normalizeText extraction.clauseText
  let normalizedRateText := normalizeText extraction.rateText
  (if normalizedClause = [] ∨ ¬normalizedClause <:+: normalizedSource then
    ["clause_absent_from_source"] else []) ++
  (if normalizedRateText = [] ∨ ¬normalizedRateText <:+: normalizedClause then
    ["rate_text_absent_from_clause"] else []) ++
  (if (amountFromRateText extraction.rateText).any (equal · extraction.rateAmount) then []
    else ["rate_amount_mismatch"])

omit [Sha256] in
/-- The reasons of the currency and of the unit. -/
def scopeReasons (extraction : TariffExtraction) : List String :=
  (if extraction.rateCurrency ∉ supportedCurrencies then ["unsupported_currency"]
    else if !statesCurrency extraction.rateText.toList then ["currency_absent_from_rate_text"]
    else []) ++
  (if extraction.rateUnit ∉ supportedRateUnits then ["unsupported_rate_unit"]
    else if !statesUnit extraction.rateText.toList then ["unit_absent_from_rate_text"] else [])

omit [Sha256] in
/-- The reasons of the interval, the locator and the confidence. -/
def metadataReasons (extraction : TariffExtraction) : Except ReceiptError (List String) := do
  let low ← less extraction.confidence zero
  let high ← less one extraction.confidence
  pure ((if extraction.effectiveTo.any (· < extraction.effectiveFrom) then
      ["invalid_effective_interval"] else []) ++
    (if blank extraction.sourceLocator then ["missing_source_locator"] else []) ++
    (if low || high then ["confidence_out_of_range"] else []))

/-- `verify_tariff_extraction`. -/
def verifyTariffExtraction (sourceBytes : Bytes) (extraction : TariffExtraction) :
    Except ReceiptError TariffVerification :=
  let sourceSha := hexdigest sourceBytes
  let clauseSha := hexdigest (encode extraction.clauseText)
  match decodeUtf8 sourceBytes with
  | none => .ok ⟨false, ["source_not_utf8"], sourceSha, clauseSha⟩
  | some sourceText => do
    let metadata ← metadataReasons extraction
    let reasons := textReasons sourceText extraction ++ scopeReasons extraction ++ metadata
    pure ⟨reasons.isEmpty, reasons, sourceSha, clauseSha⟩

end Verification

end Texts

/-! ## Invoice claims -/

structure InvoiceClaim where
  invoiceNo : String
  claimedRate : Decimal
  rateCurrency : String
  rateUnit : String
  chargeDays : Int
  invoiceDate : Date
  receivedAt : String

/-- `parse_invoice_claim`: the fields that are read from the bytes, if they can be read, and the
checks they have to pass. -/
def parseInvoiceClaim (loads : Bytes → Option InvoiceClaim) (sourceBytes : Bytes) :
    Except ReceiptError InvoiceClaim :=
  match loads sourceBytes with
  | none => .error .valueError
  | some claim =>
    if claim.rateCurrency ∉ supportedCurrencies then .error .valueError
    else if claim.rateUnit ∉ supportedRateUnits then .error .valueError
    else if claim.chargeDays ≤ 0 then .error .valueError
    else .ok claim

/-! ## Overcharges -/

structure OverchargeCalculation where
  recordedRate : Decimal
  claimedRate : Decimal
  chargeDays : Int
  overcharge : Decimal
  recommendation : String

/-- `max(Decimal("0.00"), difference)`. -/
def positivePart (difference : Decimal) : Except ReceiptError Decimal := do
  if ← less zero difference then pure difference else pure zero

/-- `bool(value)`. -/
def nonzero : Decimal → Bool
  | .finite _ coefficient _ => coefficient ≠ 0
  | _ => true

/-- `calculate_overcharge`. -/
def calculateOvercharge (recordedRate claimedRate : Decimal) (chargeDays : Int) :
    Except ReceiptError OverchargeCalculation :=
  if chargeDays ≤ 0 then .error .valueError
  else do
    let difference ← multiply chargeDays.toNat (← subtract claimedRate recordedRate)
    let overcharge ← quantizeCents (← positivePart difference)
    pure { recordedRate, claimedRate, chargeDays, overcharge
           recommendation := if nonzero overcharge then "dispute_overcharge" else "no_overcharge" }

end Tally.Model.Receipt
