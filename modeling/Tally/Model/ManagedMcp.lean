import Tally.Library.Sha256
import Tally.Library.Traces
import Tally.Model.CockroachMcp
import Tally.Model.Correspondence
import Tally.Model.Extraction

/-!
# The client of the managed database

The embedding of the client of `external/cockroach_mcp.py`: a session over HTTP posts to a server
that may answer anything, with the handshake, the listing of the server's tools in pages, the one
read tool, and the probe that a write is denied. A reply is what is read of it; its JSON is what
the decoder makes of its body. Clocks are left out.
-/

set_option autoImplicit false

namespace Tally.Model.ManagedMcp
open Library Library.Sha256 CockroachMcp
open Tally.Model (CharacterTables)
open Tally.Model.Extraction (truthy)

abbrev Mapping := List (String × Value)

/-! ## Constants and errors -/

/-- `MCP_ENDPOINT`. -/
def mcpEndpoint : String := "https://cockroachlabs.cloud/mcp"

/-- `PROTOCOL_VERSION`. -/
def protocolVersion : String := "2025-11-25"

/-- `WRITE_TOOLS`. -/
def writeTools : List String := ["create_database", "create_table", "insert_rows"]

/-- `READ_TOOLS`. -/
def readTools : List String :=
  ["list_clusters", "get_cluster", "list_databases", "list_tables", "get_table_schema",
    "select_query", "explain_query", "show_statement", "show_running_queries"]

/-- `OBSERVED_COCKROACH_READ_SCOPE_DENIAL_SHA256`. -/
def observedDenialSha256 : String :=
  "2a95a5f43db2db6a6181556535a8c0c8201e7cbd44f3ff64fc760bf08210e5e7"

/-- The errors of the client, and those of the language that it lets pass. -/
inductive McpError where
  | unavailable (message : String)
  | permission (message : String)
  | authentication (message : String)
  | protocol (message : String)
  | authorizationDenied (message : String)
  | forbidden (message : String)
  | typeError
  | valueError
  | recursionError
deriving DecidableEq

/-! ## Configuration -/

structure ManagedMCPConfig where
  clusterId : String
  database : String
  accessToken : String
  serviceIdentity : String
  permissionMode : String
  endpoint : String
  timeoutSeconds : ℚ

section Configuration

variable [Interpreter]

def blank (text : String) : Bool := (stripText text.toList).isEmpty

/-- `validate`. -/
def ManagedMCPConfig.validate (config : ManagedMCPConfig) : Except McpError Unit :=
  if config.endpoint ≠ mcpEndpoint then
    .error (.permission "Managed MCP endpoint must be the CockroachDB Cloud endpoint")
  else if blank config.clusterId || blank config.database then
    .error (.permission "cluster and database scope are required")
  else if blank config.accessToken || blank config.serviceIdentity then
    .error (.permission "credential and service identity are required")
  else if config.permissionMode ≠ "oauth-read-only" then
    .error (.permission "Managed MCP requires a live OAuth token authorized for read-only access")
  else if config.timeoutSeconds ≤ 0 then .error (.permission "MCP timeout must be positive")
  else .ok ()

end Configuration

/-! ## Posts and replies -/

/-- A JSON-RPC message, of version 2.0. -/
structure Payload where
  id : Option Nat
  method : String
  params : Option Mapping

structure Post where
  url : String
  headers : List (String × String)
  payload : Payload

/-- What is read of a response; a header is found under its name in any case. -/
structure Response where
  status : Int
  header : String → Option String
  text : List Char
  json : Except LoadsError Value

inductive Reply where
  /-- An `httpx.HTTPError` of the transport. -/
  | transportError
  | response (response : Response)

/-- What a session keeps. -/
structure Client where
  nextId : Nat
  sessionId : Option String
  protocolVersion : String
  initialized : Bool

def Client.initial : Client := ⟨1, none, ManagedMcp.protocolVersion, false⟩

abbrev Exchanges := Log Post fun _ => Reply

abbrev Call (α : Type) : Type := Routine Post (fun _ => Reply) Client McpError α

/-! ## Denials -/

/-- The pairs `name="value"` that `re.findall` finds in the header of a challenge. -/
def challengePairs : Nat → List Char → List (List Char × List Char)
  | 0, _ => []
  | _, [] => []
  | fuel + 1, c :: text =>
    let named := text.takeWhile fun c => c.isAlphanum || c = '_' || c = '-'
    match c.isAlpha, text.drop named.length with
    | true, '=' :: '"' :: quoted =>
      let value := quoted.takeWhile fun c => c ≠ '"' && c ≠ '\\'
      match quoted.drop value.length with
      | '"' :: rest => (c :: named, value) :: challengePairs fuel rest
      | _ => challengePairs fuel text
    | _, _ => challengePairs fuel text

/-- `parameters.get(key)`: of pairs with one key the last counts. -/
def challengeParameter (header : List Char) (key : String) : Option (List Char) :=
  ((challengePairs header.length header).reverse.find? fun pair =>
    String.ofList (pair.1.map Char.toLower) = key).map Prod.snd

section Denials

variable [Interpreter]

/-- `_explicit_write_scope_denial`. -/
def explicitWriteScopeDenial (response : Response) : Bool :=
  let header := ((response.header "www-authenticate").getD "").toList
  (header.take 7).map Char.toLower = "bearer ".toList &&
    challengeParameter header "error" = some "insufficient_scope".toList &&
    "mcp:write".toList ∈ splitWords ((challengeParameter header "scope").getD [])

/-- `_explicit_inband_authorization_denial`. -/
def explicitInbandAuthorizationDenial [CharacterTables] [Sha256] (result : Mapping) : Bool :=
  match getMember result "isError", getMember result "content" with
  | some (.bool true), some (.list [.dict block]) =>
    match getMember block "type" with
    | some (.str "text") =>
      let text := ((getMember block "text").getD (.str "")).text
      let words := splitWords (CharacterTables.lower text.toList)
      hexdigest (encode (String.ofList (List.intercalate [' '] words))) = observedDenialSha256
    | _ => false
  | _, _ => false

end Denials

/-! ## Rows -/

section Rows

variable [JsonDecoder]

def asRow : Value → Option Mapping
  | .dict members => some members
  | _ => none

def rowsKey (members : Mapping) : Option Value :=
  (["rows", "data", "result"].find? fun key => (getMember members key).isSome).bind
    (getMember members)

/-- `_normalize_rows`, as deep as the interpreter goes. -/
def normalizeRows : Nat → Value → Except McpError (List Mapping)
  | 0, _ => .error .recursionError
  | _, .list items =>
    match items.mapM asRow with
    | some rows => .ok rows
    | none => .error (.protocol "MCP query rows must be JSON objects")
  | depth + 1, .dict members =>
    match rowsKey members with
    | some value => normalizeRows depth value
    | none => .error (.protocol "MCP query response has no structured rows")
  | depth + 1, .str text =>
    match JsonDecoder.loads text.toList with
    | .ok value => normalizeRows depth value
    | .error .jsonDecodeError => .error (.protocol "MCP query text was not structured JSON")
    | .error .valueError => .error .valueError
  | _, _ => .error (.protocol "MCP query response has no structured rows")

def isTextBlock : Value → Bool
  | .dict block =>
    match getMember block "type" with
    | some (.str kind) => kind = "text"
    | _ => false
  | _ => false

/-- `_rows_from_tool_result`. -/
def rowsFromToolResult (depth : Nat) (result : Mapping) : Except McpError (List Mapping) :=
  match getMember result "isError" with
  | some (.bool true) =>
    .error (.unavailable "Managed MCP select_query reported an execution error")
  | _ =>
    match getMember result "structuredContent" with
    | some content => normalizeRows depth content
    | none =>
      match getMember result "content" with
      | some (.list blocks) =>
        match blocks.find? isTextBlock with
        | some (.dict block) => normalizeRows depth ((getMember block "text").getD .null)
        | _ => .error (.protocol "Managed MCP returned no structured query content")
      | _ => .error (.protocol "Managed MCP returned no structured query content")

end Rows

/-! ## Requests -/

section Requests

variable [Interpreter] [JsonDecoder]

/-- `_headers`. -/
def headers (config : ManagedMCPConfig) (client : Client) : List (String × String) :=
  [("Accept", "application/json, text/event-stream"), ("Content-Type", "application/json"),
    ("Authorization", "Bearer " ++ config.accessToken), ("mcp-cluster-id", config.clusterId)] ++
    (match client.sessionId with
      | some sessionId => if sessionId = "" then [] else [("Mcp-Session-Id", sessionId)]
      | none => []) ++
    if client.initialized then [("MCP-Protocol-Version", client.protocolVersion)] else []

/-- The headers that a message adds to those of the session. -/
def messageHeaders (payload : Payload) : List (String × String) :=
  ("Mcp-Method", payload.method) ::
    match payload.params with
    | some params =>
      if payload.method = "tools/call" then
        [("Mcp-Name", ((getMember params "name").getD (.str "")).text)]
      else []
    | none => []

/-- The failure of a response whose status is no success. -/
def httpFailure (response : Response) : McpError :=
  if response.status = 403 && explicitWriteScopeDenial response then
    .authorizationDenied "Managed MCP denied the requested operation"
  else if response.status = 401 then
    .authentication "Managed MCP rejected the configured identity"
  else if response.status = 403 then .forbidden "Managed MCP forbade the request"
  else .unavailable ("Managed MCP HTTP failure (" ++ toString response.status ++ ")")

def containsText (part text : List Char) : Bool := text.tails.any part.isPrefixOf

/-- The body of a response. -/
def readBody (expectedId : Nat) (response : Response) : Except McpError Value :=
  let contentType := ((response.header "content-type").getD "").toList.map Char.toLower
  if containsText "text/event-stream".toList contentType then
    match parseSse response.text expectedId with
    | .ok members => .ok (.dict members)
    | .error (.protocol message) => .error (.protocol message)
    | .error .valueError => .error (.protocol "Managed MCP response is not valid JSON")
  else
    match response.json with
    | .ok value => .ok value
    | .error _ => .error (.protocol "Managed MCP response is not valid JSON")

/-- The result in the body of a response. -/
def readResult (expectedId : Nat) : Value → Except McpError Mapping
  | .dict members =>
    if hasId expectedId members then
      if (getMember members "error").isSome then
        .error (.unavailable "Managed MCP returned a protocol error")
      else
        match getMember members "result" with
        | some (.dict result) => .ok result
        | _ => .error (.protocol "Managed MCP response has no result object")
    else .error (.protocol "Managed MCP response ID mismatch")
  | _ => .error (.protocol "Managed MCP response ID mismatch")

/-- What `_post` makes of a reply. -/
def readReply (expectedId : Option Nat) (expectResponse : Bool) :
    Reply → Except McpError (Mapping × Response)
  | .transportError => .error (.unavailable "Managed MCP transport unavailable")
  | .response response =>
    if ¬ (200 ≤ response.status ∧ response.status ≤ 299) then .error (httpFailure response)
    else if expectResponse = false then
      if response.status ∈ [200, 202, 204] then .ok ([], response)
      else .error (.protocol "Managed MCP rejected initialization notification")
    else
      match expectedId with
      | none => .error (.protocol "MCP request ID is missing")
      | some expectedId => do
        let result ← readResult expectedId (← readBody expectedId response)
        pure (result, response)

/-- `_post`. -/
def post (config : ManagedMCPConfig) (payload : Payload) (expectResponse : Bool) :
    Call (Mapping × Response) := do
  let client ← get
  let reply ← Routine.perform
    ⟨config.endpoint, headers config client ++ messageHeaders payload, payload⟩
  Routine.ofExcept (readReply payload.id expectResponse reply)

/-- `_request`. -/
def request (config : ManagedMCPConfig) (method : String) (params : Option Mapping) :
    Call (Mapping × Response × Nat) := do
  let client ← get
  modify fun client => { client with nextId := client.nextId + 1 }
  let (result, response) ← post config ⟨some client.nextId, method, params⟩ true
  pure (result, response, client.nextId)

/-- The message that opens a session. -/
def initializeParams : Mapping :=
  [("protocolVersion", .str protocolVersion), ("capabilities", .dict []),
    ("clientInfo", .dict [("name", .str "tally-gate3-runtime"), ("version", .str "1.0")])]

/-- The version that a server agrees to. -/
def negotiated (result : Mapping) : Option String :=
  match getMember result "protocolVersion" with
  | some (.str version) => if version = "" then none else some version
  | _ => none

/-- `_initialize`. -/
def initializeSession (config : ManagedMCPConfig) : Call Unit := do
  let client ← get
  if client.initialized then pure ()
  else
    let (result, response, _) ← request config "initialize" (some initializeParams)
    match negotiated result with
    | none => throw (.protocol "Managed MCP did not negotiate a protocol version")
    | some version =>
      modify fun client =>
        { client with
          protocolVersion := version, sessionId := response.header "mcp-session-id",
          initialized := true }
      let _ ← post config ⟨none, "notifications/initialized", none⟩ false
      pure ()

/-! ## Tools -/

def cursorParams : Option String → Mapping
  | some cursor => [("cursor", .str cursor)]
  | none => []

/-- What the loop over the pages does with a page. -/
def readPage (seen : List String) (result : Mapping) :
    Except McpError (List Mapping × Option String) :=
  match getMember result "tools" with
  | some (.list values) =>
    match (getMember result "nextCursor").getD .null with
    | .null => .ok (values.filterMap asRow, none)
    | .str next =>
      if next = "" ∨ next ∈ seen then
        .error (.protocol "Managed MCP tools/list pagination is invalid")
      else .ok (values.filterMap asRow, some next)
    | _ => .error (.protocol "Managed MCP tools/list pagination is invalid")
  | _ => .error (.protocol "Managed MCP tools/list returned no tool list")

/-- The loop over the pages of the listing. -/
def listPages (config : ManagedMCPConfig) :
    Nat → Option String → List String → Call (List Mapping)
  | 0, _, _ => throw (.protocol "Managed MCP tools/list exceeded pagination limit")
  | pages + 1, cursor, seen => do
    let (result, _, _) ← request config "tools/list" (some (cursorParams cursor))
    let (tools, next) ← Routine.ofExcept (readPage seen result)
    match next with
    | none => pure tools
    | some cursor => do
      let later ← listPages config pages (some cursor) (cursor :: seen)
      pure (tools ++ later)

/-- The names of tools, in order. -/
def toolNames (tools : List Mapping) : List String :=
  (tools.filterMap fun tool => ((getMember tool "name").filter truthy).map Value.text).insertionSort
    (· ≤ ·)

def unknownTools (names : List String) : List String :=
  names.dedup.filter fun name => name ∉ readTools ++ writeTools

/-- `_discover_tools`. -/
def discoverTools (config : ManagedMCPConfig) : Call (List Mapping × List String) := do
  let tools ← listPages config 20 none []
  let names := toolNames tools
  if unknownTools names = [] then pure (tools, names)
  else
    throw (.permission ("configured MCP identity advertises unrecognized tools: " ++
      String.intercalate ", " (unknownTools names)))

def isNamed (name : String) (tool : Mapping) : Bool :=
  match getMember tool "name" with
  | some (.str text) => text = name
  | _ => false

/-- `_read_tool`. -/
def readTool (config : ManagedMCPConfig) : Call (Mapping × List String) := do
  let (tools, names) ← discoverTools config
  match tools.find? (isNamed "select_query") with
  | some tool => pure (tool, names)
  | none => throw (.permission "configured MCP identity cannot use select_query")

/-- `schema.get("properties")` of a tool, with the schema. -/
def toolSchema (label : String) (tool : Mapping) : Except McpError (Mapping × Mapping) :=
  match getMember tool "inputSchema" with
  | some (.dict schema) =>
    match getMember schema "properties" with
    | some (.dict properties) => .ok (schema, properties)
    | _ => .error (.protocol (label ++ " input schema has no properties"))
  | _ => .error (.protocol (label ++ " has no input schema"))

def isStr : Value → Option String
  | .str text => some text
  | _ => none

def hashable : Value → Bool
  | .list _ => false
  | .dict _ => false
  | _ => true

/-- The check that a schema requires nothing but the arguments. -/
def checkRequired (label : String) (schema arguments : Mapping) : Except McpError Unit :=
  match getMember schema "required" with
  | some (.list required) =>
    if required.all hashable then
      let unsupported := required.filter fun value =>
        (isStr value).all fun name => (getMember arguments name).isNone
      match unsupported.mapM isStr with
      | none => .error .typeError
      | some [] => .ok ()
      | some names =>
        .error (.protocol (label ++ " requires unsupported fields: " ++
          String.intercalate ", " (names.dedup.insertionSort (· ≤ ·))))
    else .error .typeError
  | _ => .ok ()

def hasProperty (properties : Mapping) (key : String) : Bool := (getMember properties key).isSome

/-- `_select_arguments`. -/
def selectArguments (config : ManagedMCPConfig) (tool : Mapping) (query : String) :
    Except McpError Mapping := do
  let (schema, properties) ← toolSchema "select_query" tool
  match ["query", "sql", "statement"].find? (hasProperty properties),
      ["database", "database_name", "databaseName"].find? (hasProperty properties) with
  | some queryKey, some databaseKey =>
    let arguments := [(queryKey, .str query), (databaseKey, .str config.database)]
    checkRequired "select_query" schema arguments
    pure arguments
  | _, _ => throw (.protocol "select_query schema has no recognized query/database fields")

/-! ## Operations -/

/-- A trace without its times. -/
structure MCPCallTrace where
  correlationId : String
  toolName : String
  serviceIdentity : String
  clusterId : String
  database : String
  permissionMode : String
  requestId : String
  serverRequestId : Option String
  rowCount : Nat
  advertisedTools : List String

structure MCPSelectResult where
  rows : List Mapping
  trace : MCPCallTrace

/-- One statement that begins as a selection. -/
def oneSelect (query : String) : Bool :=
  let candidate := stripText query.toList
  "SELECT".toList.isPrefixOf (upperText candidate) && ';' ∉ candidate

def presentHeader (response : Response) (name : String) : Option String :=
  (response.header name).filter fun text => text ≠ ""

/-- `select_query`. -/
def selectQuery (config : ManagedMCPConfig) (depth : Nat) (query correlationId : String) :
    Call MCPSelectResult := do
  if oneSelect query = false then
    throw (.permission "MCP adapter accepts one SELECT statement only")
  initializeSession config
  let (tool, names) ← readTool config
  let arguments ← Routine.ofExcept (selectArguments config tool query)
  let (result, response, requestId) ← request config "tools/call"
    (some [("name", .str "select_query"), ("arguments", .dict arguments)])
  let rows ← Routine.ofExcept (rowsFromToolResult depth result)
  pure
    { rows := rows
      trace :=
        { correlationId := correlationId
          toolName := "select_query"
          serviceIdentity := config.serviceIdentity
          clusterId := config.clusterId
          database := config.database
          permissionMode := config.permissionMode
          requestId := toString requestId
          serverRequestId :=
            (presentHeader response "x-request-id").orElse fun _ =>
              response.header "x-cockroach-request-id"
          rowCount := rows.length
          advertisedTools := names } }

/-- The choices of `_write_probe_arguments` for the name of a table. -/
def probeChoices (config : ManagedMCPConfig) (tableName : String) : Mapping :=
  let query : Value :=
    .str ("INSERT INTO \"" ++ tableName ++ "\" (gate5_probe) VALUES ('denial-required')")
  [("database", .str config.database), ("database_name", .str config.database),
    ("databaseName", .str config.database), ("query", query), ("sql", query),
    ("statement", query), ("schema", .str "public"), ("schema_name", .str "public"),
    ("schemaName", .str "public"), ("table", .str tableName), ("table_name", .str tableName),
    ("tableName", .str tableName),
    ("rows", .list [.dict [("gate5_probe", .str "denial-required")]]),
    ("columns", .list [.str "gate5_probe"]), ("values", .list [.list [.str "denial-required"]])]

/-- `_write_probe_arguments`, for a name minted in hexadecimal. -/
def writeProbeArguments (config : ManagedMCPConfig) (hex : String) (tool : Mapping) :
    Except McpError Mapping := do
  let (schema, properties) ← toolSchema "insert_rows" tool
  let arguments := (probeChoices config ("__tally_gate5_write_denial_probe_" ++ hex)).filter
    fun choice => hasProperty properties choice.1
  let has := fun keys : List String => keys.any (hasProperty arguments)
  if !(has ["table", "table_name", "tableName"] && has ["rows", "values"]) &&
      !has ["query", "sql", "statement"] then
    throw (.protocol "insert_rows schema has no safe recognized probe shape")
  checkRequired "insert_rows" schema arguments
  pure arguments

/-- `verify_known_write_tool_denied`. -/
def verifyKnownWriteToolDenied [CharacterTables] [Sha256] (config : ManagedMCPConfig)
    (hex : String) : Call Bool := do
  initializeSession config
  let (tools, _) ← discoverTools config
  match tools.find? (isNamed "insert_rows") with
  | none => throw (.protocol "Managed MCP did not advertise the known write probe tool")
  | some tool =>
    let arguments ← Routine.ofExcept (writeProbeArguments config hex tool)
    let answered ← tryCatch
      (do
        let (result, _, _) ← request config "tools/call"
          (some [("name", .str "insert_rows"), ("arguments", .dict arguments)])
        pure (some result))
      fun error =>
        match error with
        | .authorizationDenied _ => pure none
        | error => throw error
    match answered with
    | none => pure true
    | some result =>
      if explicitInbandAuthorizationDenial result then pure true
      else throw (.permission "Managed MCP did not deny the write-tool probe")

end Requests

end Tally.Model.ManagedMcp
