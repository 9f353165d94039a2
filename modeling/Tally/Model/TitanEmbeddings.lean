import Tally.Library.Json
import Tally.Library.Sha256
import Tally.Model.VectorRetrieval

/-!
# Embedding inputs

The embedding of `external/titan_embeddings.py` as far as texts go: the canonical input of an
embedding and the hash it is recorded under. Composed characters are a parameter, with what is
documented of them: a character of ASCII is left as it is and joins no character before it, and a
blank or the end of a line joins none behind it.
-/

set_option autoImplicit false

namespace Tally.Model.TitanEmbeddings
open Library Library.Sha256 Tally.Model
open Tally.Model.VectorRetrieval (blank)

def modelId : String := "amazon.titan-embed-text-v2:0"

def dimensions : Nat := 1024

def normalize : Bool := true

/-- `unicodedata.normalize("NFC", text)`. -/
class Normalization where
  nfc : List Char → List Char
  nfc_ascii : ∀ text : List Char, (∀ c ∈ text, c.toNat < 128) → nfc text = text
  nfc_boundary : ∀ (before : List Char) (c : Char) (text : List Char), c.toNat < 128 →
    nfc (before ++ c :: text) = nfc before ++ nfc (c :: text)
  nfc_apart : ∀ (c : Char) (text : List Char), c = ' ' ∨ c = '\n' ∨ c = '\r' →
    nfc (c :: text) = c :: nfc text

/-- Texts that have no characters to compose. -/
@[reducible] def plainNormalization : Normalization where
  nfc := id
  nfc_ascii _ _ := rfl
  nfc_boundary _ _ _ _ := rfl
  nfc_apart _ _ _ := rfl

/-- `text.replace("\r\n", "\n")`. -/
def replaceCrLf : List Char → List Char
  | '\r' :: '\n' :: text => '\n' :: replaceCrLf text
  | c :: text => c :: replaceCrLf text
  | [] => []

/-- `text.replace("\r\n", "\n").replace("\r", "\n")`. -/
def lineFeeds (text : List Char) : List Char :=
  (replaceCrLf text).map fun c => if c = '\r' then '\n' else c

section Inputs

variable [CharacterTables] [Normalization]

open Normalization

/-- `canonical_embedding_input`; an empty input is a `ValueError`. -/
def canonicalEmbeddingInput (text : String) : Option String :=
  let canonical := String.ofList (lineFeeds (nfc text.toList))
  if blank canonical then none else some canonical

/-- The payload of a request. -/
def payload (inputText : String) : Json := .obj [
  ("dimensions", .int dimensions), ("inputText", .str inputText), ("modelId", .str modelId),
  ("normalize", .bool normalize)]

/-- `embedding_input_sha256`. -/
def embeddingInputSha256 [Sha256] (text : String) : Option String :=
  (canonicalEmbeddingInput text).map fun canonical =>
    hexdigest (encode (Json.dumps .compact (payload canonical).sortKeys))

end Inputs

end Tally.Model.TitanEmbeddings
