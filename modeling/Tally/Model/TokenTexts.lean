import Tally.Model.CockroachMcp
import Tally.Model.OauthTokens

/-!
# The texts of token bundles

The embedding of `to_json` and `from_json` of `external/oauth_tokens.py`: the text a bundle is
stored as, and the bundle read from a text. The decoder of JSON texts is a parameter.
-/

set_option autoImplicit false

namespace Tally.Model.OauthTokens
open Library Tally.Model

/-- The value `to_json` writes. -/
def TokenBundle.payload (bundle : TokenBundle) : Json :=
  .obj
    [("access_token", .str bundle.accessToken),
      ("refresh_token", .str bundle.refreshToken),
      ("token_type", .str bundle.tokenType),
      ("scopes", .arr ((sortedScopes bundle.scopes).map .str)),
      ("expires_at", .int bundle.expiresAt),
      ("token_endpoint", .str bundle.tokenEndpoint),
      ("client_id", .str bundle.clientId),
      ("resource", .str bundle.resource)]

/-- The runtime writes no number of more digits than it reads. -/
def Writable (value : Int) : Prop := (Nat.toDigits 10 value.natAbs).length ≤ maxStrDigits

instance decidableWritable (value : Int) : Decidable (Writable value) :=
  inferInstanceAs (Decidable (_ ≤ _))

/-- `bundle.to_json()`. -/
def toJson (bundle : TokenBundle) : Except TokenError String :=
  if Writable bundle.expiresAt then pure (Json.dumps .compactAscii bundle.payload.sortKeys)
  else throw (.python (.valueError "Exceeds the limit (4300 digits) for integer string conversion"))

/-- The member is a text. -/
def textMember (members : List (String × Value)) (name : String) : Option String :=
  match getMember members name with
  | some (.str value) => some value
  | _ => none

/-- The member is a list of texts. -/
def textsMember (members : List (String × Value)) (name : String) : Option (List String) :=
  match getMember members name with
  | some (.list items) =>
    items.mapM fun item =>
      match item with
      | .str value => some value
      | _ => none
  | _ => none

/-- The member is a whole number. -/
def intMember (members : List (String × Value)) (name : String) : Option Int :=
  match getMember members name with
  | some (.int value) => some value
  | _ => none

/-- The bundle of decoded members. -/
def bundleOf (members : List (String × Value)) : Option TokenBundle := do
  let scopes ← textsMember members "scopes"
  let accessToken ← textMember members "access_token"
  let refreshToken ← textMember members "refresh_token"
  let tokenType ← textMember members "token_type"
  let tokenEndpoint ← textMember members "token_endpoint"
  let clientId ← textMember members "client_id"
  let resource ← textMember members "resource"
  let expiresAt ← intMember members "expires_at"
  pure
    { accessToken
      refreshToken
      tokenType
      scopes := scopes.toFinset
      expiresAt
      tokenEndpoint
      clientId
      resource }

/-- `TokenBundle.from_json` of a text. -/
def fromText [Runtime] [CharacterTables] [CockroachMcp.JsonDecoder] (text : String)
    (current : Int) : Except TokenError TokenBundle :=
  match CockroachMcp.JsonDecoder.loads text.toList with
  | .ok (.dict members) =>
    match bundleOf members with
    | some bundle => fromJson bundle current
    | none => throw (.oauth "oauth_token_bundle_invalid")
  | _ => throw (.oauth "oauth_token_bundle_invalid")

end Tally.Model.OauthTokens
