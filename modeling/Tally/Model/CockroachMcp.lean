import Tally.Library.Lines
import Tally.Library.Quoting
import Tally.Library.Value

/-!
# Responses in an event stream

The embedding of `_parse_sse` of `external/cockroach_mcp.py`: the response of a request, read from
the data lines of a stream of server-sent events. The decoder of JSON texts is a parameter, with
what it does on the texts it accepts.
-/

set_option autoImplicit false

namespace Tally.Model.CockroachMcp
open Library Library.Lines Library.Quoting

/-! ## Lines -/

/-- What ends a line of an event stream. -/
def endsLine (c : Char) : Bool := c = '\n' || c = '\r'

/-- What `str.splitlines` cuts at: line and paragraph separators and the file, group and record
separators too. -/
def lineBoundary (c : Char) : Bool :=
  endsLine c || c.toNat ∈ [0x0b, 0x0c, 0x1c, 0x1d, 0x1e, 0x85, 0x2028, 0x2029]

/-- The lines of an event stream. -/
def streamLines (text : List Char) : List (List Char) := linesOf endsLine text

/-- `text.splitlines()`. -/
def splitlines (text : List Char) : List (List Char) := linesOf lineBoundary text

/-! ## The decoder -/

inductive LoadsError where
  | jsonDecodeError
  /-- A `ValueError` of another kind, as for a number of too many digits. -/
  | valueError
deriving DecidableEq

/-- `json.loads`. -/
class JsonDecoder where
  loads : List Char → Except LoadsError Value

open JsonDecoder

/-- The decoder reads JSON texts: white space around them does not matter, they are strings with
punctuation, numbers and names between them, and the name of a member is one of the strings, with
each character as it is or escaped. -/
structure ReadsJson [Interpreter] [JsonDecoder] : Prop where
  strip : ∀ text value, loads text = .ok value → loads (stripText text) = .ok value
  quoted : ∀ text value, loads text = .ok value → wellQuoted .outside text = true
  named : ∀ text members value name, loads text = .ok (.dict members) →
    getMember members name = some value →
      (∀ c ∈ name.toList, c ∈ quotedChars .outside text) ∨ '\\' ∈ quotedChars .outside text
  blank : ∀ c, Interpreter.isSpace c = true → c ≠ '"' ∧ c ≠ '\\'

/-! ## Responses -/

section Responses

variable [Interpreter] [JsonDecoder]

/-- `value == number` of the language, where a boolean is a number. -/
def equalsInt (number : Int) : Value → Bool
  | .int value => value = number
  | .bool value => (if value then 1 else 0) = number
  | .float value => value.number = .finite number
  | _ => false

omit [Interpreter] [JsonDecoder] in
/-- `value.get("id") == expected_id`. -/
def hasId (expectedId : Int) (members : List (String × Value)) : Bool :=
  (getMember members "id").any (equalsInt expectedId)

def dataField : List Char := "data:".toList

/-- What the reader of the stream does at a line. -/
inductive Reading where
  | skipped
  | raised
  | answered (members : List (String × Value))

/-- The body of the loop of `_parse_sse`. -/
def readLine (expectedId : Int) (line : List Char) : Reading :=
  if dataField.isPrefixOf line then
    match loads (stripText (line.drop dataField.length)) with
    | .error .jsonDecodeError => .skipped
    | .error .valueError => .raised
    | .ok (.dict members) => if hasId expectedId members then .answered members else .skipped
    | .ok _ => .skipped
  else .skipped

inductive StreamError where
  | protocol (message : String)
  | valueError

def readLines (expectedId : Int) :
    List (List Char) → Except StreamError (List (String × Value))
  | [] => .error (.protocol "MCP event stream did not contain the requested response")
  | line :: lines =>
    match readLine expectedId line with
    | .skipped => readLines expectedId lines
    | .raised => .error .valueError
    | .answered members => .ok members

/-- `_parse_sse`. -/
def parseSse (text : List Char) (expectedId : Int) :
    Except StreamError (List (String × Value)) :=
  readLines expectedId (splitlines text)

end Responses

end Tally.Model.CockroachMcp
