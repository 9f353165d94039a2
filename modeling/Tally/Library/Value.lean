import Mathlib.Data.Rat.Defs
import Mathlib.Data.String.Basic

/-!
# Dynamic values

What a JSON decoder returns: null, booleans, integers, floating point numbers (with the
infinities and the number that is none), texts, lists and dicts. The text of a value and
the integer it converts to follow the interpreter, whose tables are a parameter.
-/

set_option autoImplicit false

namespace Library

/-- What a floating point number is. -/
inductive FloatNumber where
  | nan
  | infinity (negative : Bool)
  | finite (value : ℚ)
deriving DecidableEq

/-- A floating point number and the text it is printed as. -/
structure FloatValue where
  number : FloatNumber
  text : String
deriving DecidableEq

/-- A decoded value; the members of a dict stand in insertion order. -/
inductive Value where
  | null
  | bool (value : Bool)
  | int (value : Int)
  | float (value : FloatValue)
  | str (value : String)
  | list (items : List Value)
  | dict (members : List (String × Value))

/-- What the interpreter knows of characters, and the text of a list or a dict. -/
class Interpreter where
  isSpace : Char → Bool
  upper : Char → List Char
  digitValue : Char → Option Nat
  containerText : Value → String

/-- Why a conversion fails. -/
inductive ConversionError where
  | typeError
  | valueError
  | overflowError
deriving DecidableEq

/-- `members.get(key)`. -/
def getMember (members : List (String × Value)) (key : String) : Option Value :=
  (members.find? fun member => member.1 = key).map Prod.snd

section Texts

variable [Interpreter]

open Interpreter

def upperText (text : List Char) : List Char := text.flatMap upper

/-- `text.strip()`. -/
def stripText (text : List Char) : List Char :=
  ((text.dropWhile isSpace).reverse.dropWhile isSpace).reverse

/-- `text.split()`. -/
def splitWords (text : List Char) : List (List Char) :=
  (text.splitOnP isSpace).filter fun part => !part.isEmpty

/-- `str(value)`. -/
def Value.text : Value → String
  | .null => "None"
  | .bool true => "True"
  | .bool false => "False"
  | .int value => toString value
  | .float value => value.text
  | .str value => value
  | .list items => containerText (.list items)
  | .dict members => containerText (.dict members)

/-- The digits of a numeral, last one first; an underscore may stand between two digits. -/
def numeralDigits : Bool → List Nat → List Char → Option (List Nat)
  | afterDigit, digits, [] => if afterDigit then some digits else none
  | afterDigit, digits, c :: text =>
    match digitValue c with
    | some digit => numeralDigits true (digit :: digits) text
    | none => if c = '_' ∧ afterDigit = true then numeralDigits false digits text else none

/-- The most digits a numeral may have. -/
def maxStrDigits : Nat := 4300

/-- The number a numeral of decimal digits stands for. -/
def numeral (text : List Char) : Option Nat :=
  match numeralDigits false [] text with
  | none => none
  | some digits =>
    if maxStrDigits < digits.length then none
    else some (digits.foldr (fun digit value => value * 10 + digit) 0)

/-- `int(text)`. -/
def intOfText (text : List Char) : Option Int :=
  match stripText text with
  | '-' :: digits => (numeral digits).map fun n => -(n : Int)
  | '+' :: digits => (numeral digits).map fun n => (n : Int)
  | digits => (numeral digits).map fun n => (n : Int)

/-- `int(value)`. -/
def Value.toInt : Value → Except ConversionError Int
  | .null => .error .typeError
  | .bool value => .ok (if value then 1 else 0)
  | .int value => .ok value
  | .float value =>
    match value.number with
    | .nan => .error .valueError
    | .infinity _ => .error .overflowError
    | .finite q => .ok (q.num.tdiv q.den)
  | .str value =>
    match intOfText value.toList with
    | some n => .ok n
    | none => .error .valueError
  | .list _ => .error .typeError
  | .dict _ => .error .typeError

end Texts

end Library
