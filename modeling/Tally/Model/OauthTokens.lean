import Mathlib.Data.Finset.Sort
import Tally.Library.Interleaving
import Tally.Model.Correspondence

/-!
# OAuth token rotation

The embedding of `external/oauth_tokens.py`: token bundles and their validation, the token
store, the refresh lease and the manager that refreshes under it, as programs over the calls
they make to the parameter store, the lease table, the provider and the clocks. A stored
bundle stands for the JSON text that `to_json` writes and `from_json` reads back; how the
runtime parses URLs and numbers is a parameter.
-/

set_option autoImplicit false

namespace Tally.Model.OauthTokens
open Library Tally.Model

/-! ## Bundles -/

structure TokenBundle where
  accessToken : String
  refreshToken : String
  tokenType : String
  scopes : Finset String
  expiresAt : Int
  tokenEndpoint : String
  clientId : String
  resource : String
deriving DecidableEq

/-- An `OAuthTokenError` with its code, or an error of the language. -/
inductive TokenError where
  | oauth (code : String)
  | python (e : PyError)
deriving DecidableEq

structure ParsedUrl where
  scheme : String
  hostname : Option String
  path : String
  username : Option String
  password : Option String

/-- The parts of the runtime the validation calls: `int` of a decoded value, a float being
the number it truncates to, and `urlparse`. -/
class Runtime where
  int : Json → Except PyError Int
  urlparse : String → Except PyError ParsedUrl

/-- `value.rstrip("/")`. -/
def rstripSlash (value : String) : String :=
  String.ofList (value.toList.reverse.dropWhile (· = '/')).reverse

def absent (value : Option String) : Bool := value.getD "" = ""

section Validation

variable [Runtime] [CharacterTables]

/-- `value.lower()`. -/
def lowerText (value : String) : List Char := CharacterTables.lower value.toList

/-- `value.split()`. -/
def splitText (value : String) : List String :=
  ((value.toList.splitOnP CharacterTables.isSpace).filter fun part => !part.isEmpty).map
    String.ofList

/-- `validate_stored_bundle`. -/
def validateStoredBundle (bundle : TokenBundle) (current : Int) : Except TokenError Unit := do
  let tokenUrl ← (Runtime.urlparse bundle.tokenEndpoint).mapError .python
  let resourceUrl ← (Runtime.urlparse bundle.resource).mapError .python
  let valid : Bool := lowerText bundle.tokenType = "bearer".toList
    && bundle.scopes = {"mcp:read"}
    && tokenUrl.scheme = "https"
    && tokenUrl.hostname = some "cockroachlabs.cloud"
    && tokenUrl.path = "/mcp/oauth/token"
    && absent tokenUrl.username
    && absent tokenUrl.password
    && resourceUrl.scheme = "https"
    && resourceUrl.hostname = some "cockroachlabs.cloud"
    && rstripSlash resourceUrl.path = "/mcp"
    && absent resourceUrl.username
    && absent resourceUrl.password
    && decide (bundle.expiresAt ≤ current + 86400)
  if valid then pure () else throw (.oauth "oauth_token_bundle_invalid")

/-- `TokenBundle.from_json` of the text of a bundle. -/
def fromJson (bundle : TokenBundle) (current : Int) : Except TokenError TokenBundle :=
  if bundle.accessToken = "" ∨ bundle.refreshToken = "" ∨ bundle.tokenType = "" ∨
      bundle.tokenEndpoint = "" ∨ bundle.clientId = "" ∨ bundle.resource = "" then
    throw (.oauth "oauth_token_bundle_invalid")
  else match validateStoredBundle bundle current with
    | .ok () => pure bundle
    | .error _ => throw (.oauth "oauth_token_bundle_invalid")

/-- The members of a decoded response. -/
abbrev Response := List (String × Json)

/-- `response.get("refresh_token")` when it is a text. -/
def returnedRefresh (response : Response) : Option String :=
  match response.lookup "refresh_token" with
  | some (.str value) => some value
  | _ => none

/-- The scopes a response grants. -/
def grantedScopes (response : Response) (requested : Finset String) :
    Except TokenError (Finset String) :=
  match response.lookup "scope" with
  | none | some .null => pure requested
  | some (.str value) =>
    pure (if splitText value = [] then requested else (splitText value).toFinset)
  | some _ => throw (.oauth "oauth_token_scope_invalid")

/-- `int(response.get("expires_in"))` in its range. -/
def grantedLifetime (response : Response) : Except TokenError Int := do
  let expiresIn := (response.lookup "expires_in").getD .null
  let lifetime ← match Runtime.int expiresIn with
    | .ok lifetime => pure lifetime
    | .error .typeError => throw (.oauth "oauth_token_lifetime_invalid")
    | .error (.valueError _) => throw (.oauth "oauth_token_lifetime_invalid")
    | .error e => throw (.python e)
  match expiresIn with
  | .bool _ => throw (.oauth "oauth_token_lifetime_invalid")
  | _ =>
    if 0 < lifetime ∧ lifetime ≤ 86400 then pure lifetime
    else throw (.oauth "oauth_token_lifetime_invalid")

/-- The refresh token of the new bundle: the returned one, or the one before. -/
def nextRefresh (response : Response) (prior : String) : Except TokenError String := do
  match response.lookup "refresh_token" with
  | none | some .null =>
    if prior = "" then throw (.oauth "oauth_refresh_token_missing") else pure prior
  | some (.str "") => throw (.oauth "oauth_refresh_token_invalid")
  | some (.str value) => pure value
  | some _ => throw (.oauth "oauth_refresh_token_invalid")

/-- `validated_token_bundle` of a refresh of the current bundle. -/
def validatedTokenBundle (response : Response) (current : TokenBundle) (now : Int) :
    Except TokenError TokenBundle := do
  let accessToken ← match response.lookup "access_token" with
    | some (.str "") => throw (.oauth "oauth_access_token_missing")
    | some (.str value) => pure value
    | _ => throw (.oauth "oauth_access_token_missing")
  match response.lookup "token_type" with
  | some (.str value) =>
    if lowerText value = "bearer".toList then pure () else throw (.oauth "oauth_token_type_invalid")
  | _ => throw (.oauth "oauth_token_type_invalid")
  let lifetime ← grantedLifetime response
  let scopes ← grantedScopes response current.scopes
  if "mcp:read" ∈ scopes ∧ "mcp:write" ∉ scopes ∧ scopes ⊆ current.scopes then pure ()
    else throw (.oauth "oauth_token_scope_invalid")
  let refreshToken ← nextRefresh response current.refreshToken
  pure
    { accessToken
      refreshToken
      tokenType := "Bearer"
      scopes
      expiresAt := now + lifetime
      tokenEndpoint := current.tokenEndpoint
      clientId := current.clientId
      resource := current.resource }

end Validation

/-! ## Calls -/

structure Parameter where
  type : String
  value : TokenBundle
  version : Int
deriving DecidableEq

/-- The form of a refresh request. -/
structure RefreshRequest where
  tokenEndpoint : String
  refreshToken : String
  clientId : String
  scope : String
  resource : String
deriving DecidableEq

/-- The calls of a manager: a reading of one of its clocks, the parameter store, the provider,
a new owner and the conditional writes of the lease table. -/
inductive Effect where
  | clock
  | getParameter
  | putParameter (bundle : TokenBundle)
  | post (request : RefreshRequest)
  | ownerFactory
  | putItem (owner : String) (now expiresAt : Int)
  | deleteItem (owner : String)
deriving DecidableEq

/-- What a call returns; a call of a service may raise. -/
abbrev Reply : Effect → Type
  | .clock => Int
  | .getParameter => Except Unit Parameter
  | .putParameter _ => Except Unit Int
  | .post _ => Except Unit Response
  | .ownerFactory => String
  | .putItem _ _ _ => Except Unit Unit
  | .deleteItem _ => Except Unit Unit

abbrev Manager (α : Type) : Type := ExceptT TokenError (Prog Effect Reply) α

def perform (e : Effect) : Manager (Reply e) := ExceptT.lift (Prog.call e)

def clock : Manager Int := perform .clock

/-! ## The store -/

section Managing

variable [Runtime] [CharacterTables]

/-- `SSMTokenStore.load`. -/
def load : Manager TokenBundle := do
  match ← (perform .getParameter : Manager (Except Unit Parameter)) with
  | .error _ => throw (.oauth "oauth_token_store_read_failed")
  | .ok parameter =>
    if parameter.type ≠ "SecureString" then throw (.oauth "oauth_token_store_read_failed")
    else
      let now ← clock
      ExceptT.mk (pure (fromJson parameter.value now))

/-- `SSMTokenStore.save`. -/
def save (bundle : TokenBundle) : Manager Unit := do
  let now ← clock
  ExceptT.mk (pure (validateStoredBundle bundle now))
  match ← (perform (.putParameter bundle) : Manager (Except Unit Int)) with
  | .error _ => throw (.oauth "oauth_token_store_write_failed")
  | .ok version =>
    match ← (perform .getParameter : Manager (Except Unit Parameter)) with
    | .error _ => throw (.oauth "oauth_token_store_write_failed")
    | .ok readback =>
      if readback.type ≠ "SecureString" ∨ readback.value ≠ bundle ∨ readback.version ≠ version then
        throw (.oauth "oauth_token_store_write_failed")
      else pure ()

/-! ## The lease -/

/-- `DynamoDBRefreshLease.acquire`. -/
def acquire (leaseSeconds : Int) : Manager (Option String) := do
  let owner : String ← perform .ownerFactory
  if owner = "" then throw (.oauth "oauth_refresh_lease_invalid")
  else
    let now ← clock
    match ← (perform (.putItem owner now (now + leaseSeconds)) : Manager (Except Unit Unit)) with
    | .ok () => pure (some owner)
    | .error _ => pure none

/-- `DynamoDBRefreshLease.release`. -/
def release (owner : String) : Prog Effect Reply Bool :=
  if owner = "" then pure false
  else do
    match ← (Prog.call (Effect.deleteItem owner) : Prog Effect Reply (Except Unit Unit)) with
    | .ok () => pure true
    | .error _ => pure false

/-! ## The manager -/

/-- `sorted(scopes)`. -/
def sortedScopes (scopes : Finset String) : List String := scopes.sort (· ≤ ·)

def refreshRequest (current : TokenBundle) : RefreshRequest :=
  { tokenEndpoint := current.tokenEndpoint
    refreshToken := current.refreshToken
    clientId := current.clientId
    scope := " ".intercalate (sortedScopes current.scopes)
    resource := current.resource }

/-- `_refresh_bundle`. -/
def refreshBundle (current : TokenBundle) : Manager (TokenBundle × Bool) := do
  match ← (perform (.post (refreshRequest current)) : Manager (Except Unit Response)) with
  | .error _ => throw (.oauth "oauth_refresh_failed")
  | .ok response =>
    let now ← clock
    let refreshed ← ExceptT.mk (pure (validatedTokenBundle response current now))
    let rotated : Bool := refreshed.refreshToken ≠ current.refreshToken
    tryCatch (save refreshed) fun e => match e with
      | .oauth code =>
        throw (.oauth (if rotated then "oauth_rotated_token_persistence_uncertain" else code))
      | .python e => throw (.python e)
    pure (refreshed, rotated)

/-- What the lease does for a refresh, under it or without it. -/
def refreshUnlessFresh (observed : TokenBundle) (refreshRequired : Bool) (margin : Int)
    (refresh : TokenBundle → Manager (TokenBundle × Bool)) : Manager (TokenBundle × Bool) := do
  let current ← load
  if current ≠ observed then pure (current, false)
  else if refreshRequired then refresh current
  else
    let now ← clock
    if current.expiresAt - now > margin then pure (current, false) else refresh current

/-- How a manager is configured. -/
structure Settings where
  hasLease : Bool
  leaseSeconds : Int
  margin : Int

/-- `_refresh_with_lease`. -/
def refreshWithLease (settings : Settings) (observed : TokenBundle) (refreshRequired : Bool) :
    Manager (TokenBundle × Bool) := do
  if settings.hasLease then
    match ← acquire settings.leaseSeconds with
    | none =>
      refreshUnlessFresh observed refreshRequired settings.margin fun _ =>
        throw (.oauth "oauth_refresh_lease_unavailable")
    | some owner =>
      ExceptT.mk do
        let result ←
          (refreshUnlessFresh observed refreshRequired settings.margin refreshBundle).run
        let _ ← release owner
        pure result
  else refreshBundle observed

/-- `access_token`. -/
def accessToken (settings : Settings) : Manager (String × Bool) := do
  let current ← load
  let now ← clock
  if current.expiresAt - now > settings.margin then pure (current.accessToken, false)
  else
    let (refreshed, didRefresh) ← refreshWithLease settings current false
    pure (refreshed.accessToken, didRefresh)

/-- `refresh`. -/
def refresh (settings : Settings) : Manager (TokenBundle × Bool) := do
  let current ← load
  refreshWithLease settings current true

/-- `secrets.compare_digest` of two texts. -/
def compareDigest (a b : String) : Except TokenError Bool :=
  if a.toList.all (·.toNat < 128) ∧ b.toList.all (·.toNat < 128) then pure (a = b)
  else throw (.python .typeError)

/-- `refresh_after_unauthorized`. -/
def refreshAfterUnauthorized (settings : Settings) (rejectedToken : String) :
    Manager (TokenBundle × Bool) := do
  let current ← load
  let same ← ExceptT.mk (pure (compareDigest current.accessToken rejectedToken))
  if same then refreshWithLease settings current true else pure (current, false)

/-- The operations of a manager. -/
inductive Operation where
  | accessToken
  | refresh
  | refreshAfterUnauthorized (rejectedToken : String)

/-- What a manager runs for an operation. -/
def Operation.program (settings : Settings) : Operation → Prog Effect Reply Unit
  | .accessToken => do
    let _ ← (OauthTokens.accessToken settings).run
    pure ()
  | .refresh => do
    let _ ← (OauthTokens.refresh settings).run
    pure ()
  | .refreshAfterUnauthorized rejectedToken => do
    let _ ← (OauthTokens.refreshAfterUnauthorized settings rejectedToken).run
    pure ()

end Managing

end Tally.Model.OauthTokens
