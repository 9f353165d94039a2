import Tally.Library.Value
import Tally.Model.VectorRetrieval

/-!
# The gate of extracted fields

The embedding of `core/extraction.py`, with the keys of `core/fields.py`: the fields a model
extracted from a source text, of which those stay whose quote occurs in the text. The extraction
is decoded JSON of any shape; the conversion of a value to a floating point number is a parameter.
-/

set_option autoImplicit false

namespace Tally.Model.Extraction
open Library Tally.Model
open Tally.Model.VectorRetrieval (normalizeText)

/-! ## Fields -/

/-- `FIELD_KEYS`. -/
def fieldKeys : List String :=
  ["date_container_available", "port_of_discharge", "container_numbers", "earliest_return_date",
    "free_time_days", "free_time_start", "proper_party_basis", "free_time_end", "applicable_rule",
    "applicable_rate", "total_amount_due", "contact_for_disputes", "certifications"]

/-- A field as it stays; a value or a page that is not stated is `Value.null`. -/
structure ExtractedField where
  value : Value
  verbatim : Option String
  page : Value
  confidence : FloatValue

structure ExtractionResult where
  fields : List (String × ExtractedField)
  invoiceNo : Value
  currency : Value
  notesFootnotes : List Value
  isImageOnly : Bool

/-- What the gate raises on an extraction of another shape. -/
inductive GateError where
  | attributeError
  | typeError
  | valueError
  | overflowError
deriving DecidableEq

/-- `float(value)`. -/
class FloatConversion where
  float : Value → Except GateError FloatValue

/-! ## The gate -/

/-- `0.0`. -/
def zero : FloatValue := ⟨.finite 0, "0.0"⟩

/-- The field of a quote that is not in the source. -/
def emptyField : ExtractedField := ⟨.null, none, .null, zero⟩

/-- `bool(value)`. -/
def truthy : Value → Bool
  | .null => false
  | .bool value => value
  | .int value => value ≠ 0
  | .float value => value.number ≠ .finite 0
  | .str value => value ≠ ""
  | .list items => !items.isEmpty
  | .dict members => !members.isEmpty

/-- `entry.get(key)`. -/
def memberOf (entry : List (String × Value)) (key : String) : Value :=
  (getMember entry key).getD .null

/-- `raw_fields.get(key) or {}`, whose members are read next. -/
def entryOf (rawFields : Value) (key : String) : Except GateError (List (String × Value)) :=
  match rawFields with
  | .dict fields =>
    if truthy (memberOf fields key) then
      match memberOf fields key with
      | .dict entry => .ok entry
      | _ => .error .attributeError
    else .ok []
  | _ => .error .attributeError

/-- `tuple(value)`. -/
def tuple : Value → Except GateError (List Value)
  | .list items => .ok items
  | .str value => .ok (value.toList.map fun c => .str (String.singleton c))
  | .dict members => .ok (members.map fun member => .str member.1)
  | _ => .error .typeError

section Gate

variable [CharacterTables] [FloatConversion]

/-- The field of an entry. -/
def gateField (normalizedSource : List Char) (entry : List (String × Value)) :
    Except GateError ExtractedField :=
  match memberOf entry "verbatim" with
  | .str verbatim =>
    if verbatim ≠ "" ∧ normalizeText verbatim <:+: normalizedSource then do
      let confidence ← FloatConversion.float ((getMember entry "confidence").getD (.float zero))
      pure
        { value := memberOf entry "value"
          verbatim := some verbatim
          page := memberOf entry "page"
          confidence }
    else .ok emptyField
  | verbatim => if truthy verbatim then .error .typeError else .ok emptyField

/-- The member `fields` of a raw result. -/
def rawFieldsOf (rawResult : List (String × Value)) : Value :=
  (getMember rawResult "fields").getD (.dict [])

/-- The body of the loop of the gate. -/
def gateKey (normalizedSource : List Char) (rawFields : Value) (key : String) :
    Except GateError (String × ExtractedField) := do
  let entry ← entryOf rawFields key
  let field ← gateField normalizedSource entry
  pure (key, field)

/-- `apply_anti_hallucination_gate`. -/
def applyAntiHallucinationGate (rawResult : List (String × Value)) (sourceText : String) :
    Except GateError ExtractionResult := do
  let fields ← fieldKeys.mapM (gateKey (normalizeText sourceText) (rawFieldsOf rawResult))
  let notesFootnotes ← tuple ((getMember rawResult "notes_footnotes").getD (.list []))
  pure
    { fields
      invoiceNo := memberOf rawResult "invoice_no"
      currency := (getMember rawResult "currency").getD (.str "USD")
      notesFootnotes
      isImageOnly := false }

end Gate

end Tally.Model.Extraction
