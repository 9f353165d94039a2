import Mathlib.Data.List.Dedup
import Tally.Library.Fallible
import Tally.Model.ManagedMcp

/-!
# Sessions with the managed database

Everything a client ever posts, whatever the server answers and whichever calls fail: attempts to
open the session until one is answered with a protocol version, the notice of it, and then
listings of the tools and calls of a tool, each under the headers of that session. A tool is called
right after a whole listing of known tools that has it, the read tool with one selection in the
configured database and the write tool with the probe alone. The requests are numbered in order,
and so the rows that are returned are those of the answer to the one call.
-/

set_option autoImplicit false

namespace Tally.Analysis.McpSessions
open Library Library.Routine Library.Sha256 Tally.Model CockroachMcp ManagedMcp

/-! ## The traffic of a session -/

section Traffic

variable [Interpreter]

/-- A message under the headers of a session. -/
def postWith (config : ManagedMCPConfig) (session : List (String × String)) (payload : Payload) :
    Post :=
  ⟨config.endpoint, session ++ messageHeaders payload, payload⟩

def initializePayload (id : Nat) : Payload := ⟨some id, "initialize", some initializeParams⟩

def noticePayload : Payload := ⟨none, "notifications/initialized", none⟩

def listPayload (id : Nat) (cursor : Option String) : Payload :=
  ⟨some id, "tools/list", some (cursorParams cursor)⟩

def callPayload (id : Nat) (tool : String) (arguments : Mapping) : Payload :=
  ⟨some id, "tools/call", some [("name", .str tool), ("arguments", .dict arguments)]⟩

variable [JsonDecoder]

/-- The exchanges of a whole listing from a cursor on, page after page, with the tools in it. -/
inductive Listing (config : ManagedMCPConfig) (session : List (String × String)) :
    Option String → List String → Exchanges → List Mapping → Prop
  | last {cursor : Option String} {seen : List String} {id : Nat} {reply : Reply}
      {result : Mapping} {response : Response} {tools : List Mapping}
      (hread : readReply (some id) true reply = .ok (result, response))
      (hpage : readPage seen result = .ok (tools, none)) :
      Listing config session cursor seen
        [⟨postWith config session (listPayload id cursor), reply⟩] tools
  | more {cursor : Option String} {seen : List String} {id : Nat} {reply : Reply}
      {result : Mapping} {response : Response} {tools later : List Mapping} {next : String}
      {pages : Exchanges} (hread : readReply (some id) true reply = .ok (result, response))
      (hpage : readPage seen result = .ok (tools, some next))
      (hlater : Listing config session (some next) (next :: seen) pages later) :
      Listing config session cursor seen
        (⟨postWith config session (listPayload id cursor), reply⟩ :: pages) (tools ++ later)

/-- The calls that the tools of a listing allow. -/
inductive Licensed (config : ManagedMCPConfig) (tools : List Mapping) : Payload → Prop
  | select {id : Nat} {query queryKey databaseKey : String} {tool schema properties : Mapping}
      (htool : tools.find? (isNamed "select_query") = some tool)
      (hschema : toolSchema "select_query" tool = .ok (schema, properties))
      (hquery : queryKey ∈ ["query", "sql", "statement"])
      (hdatabase : databaseKey ∈ ["database", "database_name", "databaseName"])
      (htakes : hasProperty properties queryKey ∧ hasProperty properties databaseKey)
      (hselect : oneSelect query = true) :
      Licensed config tools (callPayload id "select_query"
        [(queryKey, .str query), (databaseKey, .str config.database)])
  | probe {id : Nat} {hex : String} {tool schema properties arguments : Mapping}
      (htool : tools.find? (isNamed "insert_rows") = some tool)
      (hschema : toolSchema "insert_rows" tool = .ok (schema, properties))
      (harguments : ∀ argument ∈ arguments, hasProperty properties argument.1 ∧
        argument ∈ probeChoices config ("__tally_gate5_write_denial_probe_" ++ hex)) :
      Licensed config tools (callPayload id "insert_rows" arguments)

/-- What is exchanged in an open session. -/
inductive Work (config : ManagedMCPConfig) (session : List (String × String)) : Exchanges → Prop
  | nil : Work config session []
  | page {work : Exchanges} {id : Nat} {cursor : Option String} {reply : Reply}
      (h : Work config session work) :
      Work config session
        (work ++ [⟨postWith config session (listPayload id cursor), reply⟩])
  | call {work pages : Exchanges} {tools : List Mapping} {payload : Payload} {reply : Reply}
      (h : Work config session (work ++ pages))
      (hpages : Listing config session none [] pages tools) (hlength : pages.length ≤ 20)
      (hknown : unknownTools (toolNames tools) = []) (hcall : Licensed config tools payload) :
      Work config session (work ++ pages ++ [⟨postWith config session payload, reply⟩])

/-- An attempt to open the session. -/
def Attempt (config : ManagedMCPConfig) (exchange : (_ : Post) × Reply) : Prop :=
  ∃ id, exchange.1 = postWith config (headers config .initial) (initializePayload id)

/-- A session that is not open yet: attempts only. -/
structure Closed (config : ManagedMCPConfig) (client : Client) (log : Exchanges) : Prop where
  client : client = { Client.initial with nextId := client.nextId }
  attempts : ∀ exchange ∈ log, Attempt config exchange

/-- An open session: attempts, the one that is answered, the notice, and then the work, under the
version and the identifier of that answer. -/
structure Opened (config : ManagedMCPConfig) (client : Client) (log : Exchanges) : Prop where
  initialized : client.initialized = true
  traffic : ∃ attempts id reply result response notice work,
    log = attempts ++
      ⟨postWith config (headers config .initial) (initializePayload id), reply⟩ ::
      ⟨postWith config (headers config client) noticePayload, notice⟩ :: work ∧
    (∀ exchange ∈ attempts, Attempt config exchange) ∧
    readReply (some id) true reply = .ok (result, response) ∧
    negotiated result = some client.protocolVersion ∧
    client.sessionId = response.header "mcp-session-id" ∧
    Work config (headers config client) work

def requestIds (log : Exchanges) : List Nat := log.filterMap fun exchange => exchange.1.payload.id

/-- The requests are numbered from 1 on. -/
def Numbered (client : Client) (log : Exchanges) : Prop :=
  0 < client.nextId ∧ requestIds log = List.range' 1 (client.nextId - 1)

/-- What holds of a session between two calls. -/
structure Kept (config : ManagedMCPConfig) (client : Client) (log : Exchanges) : Prop where
  numbered : Numbered client log
  phase : Closed config client log ∨ Opened config client log

end Traffic

/-! ## Posts -/

section Posts

variable [Interpreter] [JsonDecoder] {config : ManagedMCPConfig} {client : Client}
  {log : Exchanges}

theorem ensures_post {payload : Payload} {expectResponse : Bool}
    {Q : Except McpError (Mapping × Response) → Client → Exchanges → Prop} :
    (post config payload expectResponse).Ensures client log Q ↔ ∀ reply,
      Q (readReply payload.id expectResponse reply) client
        (log ++ [⟨postWith config (headers config client) payload, reply⟩]) := Iff.rfl

theorem ensures_request {method : String} {params : Option Mapping}
    {Q : Except McpError (Mapping × Response × Nat) → Client → Exchanges → Prop} :
    (request config method params).Ensures client log Q ↔ ∀ reply,
      Q ((readReply (some client.nextId) true reply).map fun answer =>
          (answer.1, answer.2, client.nextId))
        { client with nextId := client.nextId + 1 }
        (log ++ [⟨postWith config (headers config client) ⟨some client.nextId, method, params⟩,
          reply⟩]) := by
  unfold request
  simp only [ensures_bind, ensures_get, ensures_modify, ensures_post]
  refine forall_congr' fun reply => ?_
  cases readReply (some client.nextId) true reply <;> exact Iff.rfl

omit [Interpreter] [JsonDecoder] in
theorem Numbered.request (h : Numbered client log) (exchange : (_ : Post) × Reply)
    (hid : exchange.1.payload.id = some client.nextId) :
    Numbered { client with nextId := client.nextId + 1 } (log ++ [exchange]) := by
  obtain ⟨hpos, hids⟩ := h
  refine ⟨Nat.succ_pos _, ?_⟩
  obtain ⟨n, hn⟩ := Nat.exists_eq_add_of_lt hpos
  unfold requestIds at hids ⊢
  rw [List.filterMap_append, hids, List.filterMap_cons, hid, List.filterMap_nil]
  dsimp only
  rw [Nat.add_sub_cancel, hn, Nat.zero_add, Nat.add_sub_cancel, List.range'_concat, Nat.one_mul,
    Nat.add_comm 1 n]

omit [Interpreter] [JsonDecoder] in
theorem Numbered.notice (h : Numbered client log) (exchange : (_ : Post) × Reply)
    (hid : exchange.1.payload.id = none) : Numbered client (log ++ [exchange]) := by
  obtain ⟨hpos, hids⟩ := h
  refine ⟨hpos, ?_⟩
  unfold requestIds at hids ⊢
  rw [List.filterMap_append, hids, List.filterMap_cons, hid, List.filterMap_nil]
  exact List.append_nil _

/-! ## The handshake -/

omit [JsonDecoder] in
theorem Closed.headers_eq (h : Closed config client log) :
    headers config client = headers config .initial := by
  rw [h.client]
  rfl

omit [JsonDecoder] in
theorem Closed.attempt (h : Closed config client log) (reply : Reply) :
    Closed config { client with nextId := client.nextId + 1 }
      (log ++ [⟨postWith config (headers config client) (initializePayload client.nextId),
        reply⟩]) := by
  refine ⟨?_, fun exchange hexchange => ?_⟩
  · rw [h.client]
  · rcases List.mem_append.mp hexchange with hexchange | hexchange
    · exact h.attempts exchange hexchange
    · obtain rfl := List.mem_singleton.mp hexchange
      exact ⟨client.nextId, congrArg (postWith config · _) h.headers_eq⟩

/-- The answer that opens a session. -/
theorem Closed.opened (h : Closed config client log) {reply : Reply} {result : Mapping}
    {response : Response} {version : String}
    (hread : readReply (some client.nextId) true reply = .ok (result, response))
    (hversion : negotiated result = some version) (notice : Reply) {client' : Client}
    (hclient : client' = ⟨client.nextId + 1, response.header "mcp-session-id", version, true⟩) :
    Opened config client' (log ++
      [⟨postWith config (headers config client) (initializePayload client.nextId), reply⟩] ++
      [⟨postWith config (headers config client') noticePayload, notice⟩]) := by
  subst hclient
  refine ⟨rfl, log, client.nextId, reply, result, response, notice, [], ?_, h.attempts, hread,
    hversion, rfl, .nil⟩
  rw [h.headers_eq, List.append_assoc]
  rfl

theorem ensures_initializeSession (h : Kept config client log) :
    (initializeSession config).Ensures client log fun outcome client log =>
      Kept config client log ∧ (outcome = .ok () → Opened config client log) := by
  unfold initializeSession
  simp only [ensures_bind, ensures_get]
  by_cases hopen : client.initialized = true
  · rw [if_pos hopen]
    refine ⟨h, fun _ => h.phase.resolve_left fun hclosed => ?_⟩
    rw [hclosed.client] at hopen
    exact Bool.false_ne_true hopen
  · have hclosed := h.phase.resolve_right fun hopened => hopen hopened.initialized
    rw [if_neg hopen]
    simp only [ensures_bind, ensures_request]
    intro reply
    have hnumbered := h.numbered.request ⟨postWith config (headers config client)
      (initializePayload client.nextId), reply⟩ rfl
    have hattempt := hclosed.attempt reply
    cases hread : readReply (some client.nextId) true reply with
    | error e => exact ⟨⟨hnumbered, .inl hattempt⟩, fun h => by cases h⟩
    | ok answer =>
        obtain ⟨result, response⟩ := answer
        simp only [Except.map]
        cases hversion : negotiated result with
        | none => exact ⟨⟨hnumbered, .inl hattempt⟩, fun h => by cases h⟩
        | some version =>
            simp only [ensures_bind, ensures_modify, ensures_post]
            intro notice
            have hopened := hclosed.opened hread hversion notice rfl
            have hnumbered' := hnumbered.notice ⟨postWith config (headers config
              ⟨client.nextId + 1, response.header "mcp-session-id", version, true⟩) noticePayload,
              notice⟩ rfl
            cases readReply none false notice with
            | error e => exact ⟨⟨hnumbered', .inr hopened⟩, fun h => by cases h⟩
            | ok _ => exact ⟨⟨hnumbered', .inr hopened⟩, fun _ => hopened⟩

/-! ## Listings -/

/-- What a part of a call adds to an open session, and leaves of the client. -/
structure Added (config : ManagedMCPConfig) (client : Client) (log : Exchanges) (client' : Client)
    (log' new : Exchanges) : Prop where
  log_eq : log' = log ++ new
  client_eq : client' = { client with nextId := client.nextId + new.length }
  numbered : Numbered client' log'

theorem ensures_listPages {pages : Nat} {cursor : Option String} {seen : List String}
    (hnumbered : Numbered client log) :
    (listPages config pages cursor seen).Ensures client log fun outcome client' log' =>
      ∃ new, Added config client log client' log' new ∧
        (∀ work, Work config (headers config client) work →
          Work config (headers config client) (work ++ new)) ∧
        ∀ tools, outcome = .ok tools →
          Listing config (headers config client) cursor seen new tools ∧ new.length ≤ pages := by
  induction pages generalizing client log cursor seen with
  | zero =>
      refine ⟨[], ⟨(List.append_nil log).symm, rfl, hnumbered⟩, fun work h => ?_, fun _ h => ?_⟩
      · rwa [List.append_nil]
      · cases h
  | succ pages ih =>
      unfold listPages
      simp only [ensures_bind, ensures_request, ensures_ofExcept]
      intro reply
      have hnumbered' := hnumbered.request ⟨postWith config (headers config client)
        (listPayload client.nextId cursor), reply⟩ rfl
      have hpage : ∀ work, Work config (headers config client) work →
          Work config (headers config client) (work ++
            [⟨postWith config (headers config client) (listPayload client.nextId cursor),
              reply⟩]) := fun work h => .page h
      have hadded : Added config client log { client with nextId := client.nextId + 1 } _ _ :=
        ⟨rfl, rfl, hnumbered'⟩
      cases hread : readReply (some client.nextId) true reply with
      | error e => exact ⟨_, hadded, hpage, fun _ h => by cases h⟩
      | ok answer =>
          obtain ⟨result, response⟩ := answer
          simp only [Except.map]
          cases hpages : readPage seen result with
          | error e => exact ⟨_, hadded, hpage, fun _ h => by cases h⟩
          | ok answer =>
              obtain ⟨tools, next⟩ := answer
              cases next with
              | none =>
                  refine ⟨_, hadded, hpage, fun tools' h => ?_⟩
                  obtain rfl := Except.ok.inj h
                  exact ⟨.last hread hpages, Nat.succ_le_succ (Nat.zero_le _)⟩
              | some next =>
                  simp only [ensures_bind]
                  refine (ih hnumbered').mono fun outcome client' log' h => ?_
                  obtain ⟨new, hnew, hwork, hlisting⟩ := h
                  have hall : Added config client log client' log'
                      (⟨postWith config (headers config client)
                        (listPayload client.nextId cursor), reply⟩ :: new) := by
                    refine ⟨?_, ?_, hnew.numbered⟩
                    · rw [hnew.log_eq, List.append_assoc]
                      rfl
                    · rw [hnew.client_eq, List.length_cons, Nat.add_right_comm, Nat.add_assoc]
                  have hworks : ∀ work, Work config (headers config client) work →
                      Work config (headers config client) (work ++
                        (⟨postWith config (headers config client)
                          (listPayload client.nextId cursor), reply⟩ :: new)) := by
                    intro work h
                    rw [List.append_cons]
                    exact hwork _ (hpage work h)
                  cases outcome with
                  | error e => exact ⟨_, hall, hworks, fun _ h => by cases h⟩
                  | ok later =>
                      refine ⟨_, hall, hworks, fun tools' h => ?_⟩
                      obtain rfl := Except.ok.inj h
                      obtain ⟨hlater, hlength⟩ := hlisting later rfl
                      exact ⟨.more hread hpages hlater, Nat.succ_le_succ hlength⟩

/-- The tools that a part of a call has listed whole, in an open session. -/
structure Listed (config : ManagedMCPConfig) (client : Client) (pages : Exchanges)
    (tools : List Mapping) (names : List String) : Prop where
  listing : Listing config (headers config client) none [] pages tools
  length_le : pages.length ≤ 20
  names_eq : names = toolNames tools
  known : unknownTools names = []

/-- What holds after a part of a call that lists the tools. -/
def Discovers (config : ManagedMCPConfig) (client : Client) (log : Exchanges) (client' : Client)
    (log' : Exchanges) (listed : Exchanges → Prop) : Prop :=
  ∃ pages, Added config client log client' log' pages ∧
    (∀ work, Work config (headers config client) work →
      Work config (headers config client) (work ++ pages)) ∧ listed pages

theorem ensures_discoverTools (hnumbered : Numbered client log) :
    (discoverTools config).Ensures client log fun outcome client' log' =>
      Discovers config client log client' log' fun pages => ∀ found, outcome = .ok found →
        Listed config client pages found.1 found.2 := by
  unfold discoverTools
  simp only [ensures_bind]
  refine (ensures_listPages hnumbered).mono fun outcome client' log' h => ?_
  obtain ⟨pages, hadded, hwork, hlisting⟩ := h
  cases outcome with
  | error e => exact ⟨pages, hadded, hwork, fun _ h => by cases h⟩
  | ok tools =>
      dsimp only
      by_cases hknown : unknownTools (toolNames tools) = []
      · rw [if_pos hknown]
        refine ⟨pages, hadded, hwork, fun found h => ?_⟩
        obtain rfl := Except.ok.inj h
        obtain ⟨hall, hlength⟩ := hlisting tools rfl
        exact ⟨hall, hlength, rfl, hknown⟩
      · rw [if_neg hknown]
        exact ⟨pages, hadded, hwork, fun _ h => by cases h⟩

theorem ensures_readTool (hnumbered : Numbered client log) :
    (readTool config).Ensures client log fun outcome client' log' =>
      Discovers config client log client' log' fun pages => ∀ found, outcome = .ok found →
        ∃ tools, Listed config client pages tools found.2 ∧
          tools.find? (isNamed "select_query") = some found.1 := by
  unfold readTool
  simp only [ensures_bind]
  refine (ensures_discoverTools hnumbered).mono fun outcome client' log' h => ?_
  obtain ⟨pages, hadded, hwork, hlisted⟩ := h
  cases outcome with
  | error e => exact ⟨pages, hadded, hwork, fun _ h => by cases h⟩
  | ok found =>
      obtain ⟨tools, names⟩ := found
      dsimp only
      cases htool : tools.find? (isNamed "select_query") with
      | none => exact ⟨pages, hadded, hwork, fun _ h => by cases h⟩
      | some tool =>
          refine ⟨pages, hadded, hwork, fun found h => ?_⟩
          obtain rfl := Except.ok.inj h
          exact ⟨tools, hlisted _ rfl, htool⟩

/-! ## Calls of a tool -/

omit [Interpreter] [JsonDecoder] in
theorem Added.headers_eq {client' : Client} {log' new : Exchanges}
    (h : Added config client log client' log' new) :
    headers config client' = headers config client := by
  rw [h.client_eq]
  rfl

theorem Opened.work {client' : Client} {log' new : Exchanges} (h : Opened config client log)
    (hadded : Added config client log client' log' new)
    (hwork : ∀ work, Work config (headers config client) work →
      Work config (headers config client) (work ++ new)) : Opened config client' log' := by
  obtain ⟨attempts, id, reply, result, response, notice, work, hlog, hattempts, hread, hversion,
    hsession, hold⟩ := h.traffic
  have hheaders := hadded.headers_eq
  obtain ⟨rfl, rfl, _⟩ := hadded
  refine ⟨h.initialized, attempts, id, reply, result, response, notice, work ++ new, ?_, hattempts,
    hread, hversion, hsession, ?_⟩
  · rw [hlog, List.append_assoc]
    rfl
  · rw [hheaders]
    exact hwork work hold

/-- A licensed call right after a whole listing. -/
theorem Opened.called {client' : Client} {log' pages : Exchanges} {tools : List Mapping}
    {names : List String} {payload : Payload} (h : Opened config client log)
    (hadded : Added config client log client' log' pages)
    (hwork : ∀ work, Work config (headers config client) work →
      Work config (headers config client) (work ++ pages))
    (hlisted : Listed config client pages tools names) (hcall : Licensed config tools payload)
    (reply : Reply) :
    Opened config { client' with nextId := client'.nextId + 1 }
      (log' ++ [⟨postWith config (headers config client') payload, reply⟩]) := by
  obtain ⟨attempts, id, first, result, response, notice, work, hlog, hattempts, hread, hversion,
    hsession, hold⟩ := h.traffic
  have hheaders := hadded.headers_eq
  obtain ⟨rfl, rfl, _⟩ := hadded
  obtain ⟨hlisting, hlength, rfl, hknown⟩ := hlisted
  refine ⟨h.initialized, attempts, id, first, result, response, notice,
    work ++ pages ++ [⟨postWith config (headers config client) payload, reply⟩], ?_, hattempts,
    hread, hversion, hsession, ?_⟩
  · rw [hlog, hheaders]
    simp only [List.append_assoc, List.cons_append]
    rfl
  · exact .call (hwork work hold) hlisting hlength hknown hcall

/-- An answered request: the body has the number of the request, no error, and the result. -/
theorem readReply_ok {id : Nat} {reply : Reply} {result : Mapping} {response : Response}
    (h : readReply (some id) true reply = .ok (result, response)) :
    reply = .response response ∧ ∃ body, readBody id response = .ok (.dict body) ∧
      hasId id body = true ∧ getMember body "error" = none ∧
      getMember body "result" = some (.dict result) := by
  cases reply with
  | transportError => cases h
  | response received =>
      rw [readReply] at h
      by_cases hstatus : 200 ≤ received.status ∧ received.status ≤ 299
      · rw [if_neg (not_not.mpr hstatus), if_neg (Bool.noConfusion)] at h
        obtain ⟨body, hbody, h⟩ := bind_eq_ok.mp h
        obtain ⟨found, hresult, h⟩ := bind_eq_ok.mp h
        obtain ⟨rfl, rfl⟩ := Prod.mk.inj (Except.ok.inj h)
        unfold readResult at hresult
        split at hresult
        · split at hresult
          · split at hresult
            · cases hresult
            · rename_i body hid herror
              split at hresult
              · rename_i found hfound
                obtain rfl := Except.ok.inj hresult
                exact ⟨rfl, body, hbody, hid, by simpa using herror, hfound⟩
              · cases hresult
          · cases hresult
        · cases hresult
      · rw [if_pos hstatus] at h
        cases h

omit [Interpreter] [JsonDecoder] in
theorem selectArguments_ok {tool arguments : Mapping} {query : String}
    (h : selectArguments config tool query = .ok arguments) :
    ∃ schema properties queryKey databaseKey,
      toolSchema "select_query" tool = .ok (schema, properties) ∧
      queryKey ∈ ["query", "sql", "statement"] ∧
      databaseKey ∈ ["database", "database_name", "databaseName"] ∧
      (hasProperty properties queryKey ∧ hasProperty properties databaseKey) ∧
      arguments = [(queryKey, .str query), (databaseKey, .str config.database)] := by
  obtain ⟨⟨schema, properties⟩, hschema, h⟩ := bind_eq_ok.mp h
  dsimp only at h
  split at h
  · rename_i queryKey databaseKey hquery hdatabase
    obtain ⟨_, _, h⟩ := bind_eq_ok.mp h
    obtain rfl := Except.ok.inj h
    exact ⟨schema, properties, queryKey, databaseKey, hschema, List.mem_of_find?_eq_some hquery,
      List.mem_of_find?_eq_some hdatabase,
      ⟨List.find?_some hquery, List.find?_some hdatabase⟩, rfl⟩
  · cases h

omit [Interpreter] [JsonDecoder] in
theorem writeProbeArguments_ok {tool arguments : Mapping} {hex : String}
    (h : writeProbeArguments config hex tool = .ok arguments) :
    ∃ schema properties, toolSchema "insert_rows" tool = .ok (schema, properties) ∧
      ∀ argument ∈ arguments, hasProperty properties argument.1 ∧
        argument ∈ probeChoices config ("__tally_gate5_write_denial_probe_" ++ hex) := by
  obtain ⟨⟨schema, properties⟩, hschema, h⟩ := bind_eq_ok.mp h
  refine ⟨schema, properties, hschema, fun argument hargument => ?_⟩
  dsimp only at h
  split at h
  · cases h
  · obtain ⟨_, _, h⟩ := bind_eq_ok.mp h
    obtain rfl := Except.ok.inj h
    obtain ⟨hchoice, hproperty⟩ := List.mem_filter.mp hargument
    exact ⟨hproperty, hchoice⟩

theorem Opened.kept {client' : Client} {log' new : Exchanges} (h : Opened config client log)
    (hadded : Added config client log client' log' new)
    (hwork : ∀ work, Work config (headers config client) work →
      Work config (headers config client) (work ++ new)) : Kept config client' log' :=
  ⟨hadded.numbered, .inr (h.work hadded hwork)⟩

theorem Opened.kept_called {client' : Client} {log' pages : Exchanges} {tools : List Mapping}
    {names : List String} {tool : String} {arguments : Mapping} (h : Opened config client log)
    (hadded : Added config client log client' log' pages)
    (hwork : ∀ work, Work config (headers config client) work →
      Work config (headers config client) (work ++ pages))
    (hlisted : Listed config client pages tools names)
    (hcall : Licensed config tools (callPayload client'.nextId tool arguments)) (reply : Reply) :
    Kept config { client' with nextId := client'.nextId + 1 }
      (log' ++ [⟨postWith config (headers config client')
        (callPayload client'.nextId tool arguments), reply⟩]) :=
  ⟨hadded.numbered.request _ rfl, .inr (h.called hadded hwork hlisted hcall reply)⟩

/-- The last exchange is the call of a tool, under a number of its own. -/
def Called (config : ManagedMCPConfig) (client : Client) (log : Exchanges) (id : Nat)
    (tool : String) (arguments : Mapping) (reply : Reply) : Prop :=
  ∃ before, id ∉ requestIds before ∧ log = before ++
    [⟨postWith config (headers config client) (callPayload id tool arguments), reply⟩]

omit [Interpreter] [JsonDecoder] in
theorem Numbered.not_mem (h : Numbered client log) : client.nextId ∉ requestIds log := by
  obtain ⟨hpos, hids⟩ := h
  rw [hids, List.mem_range'_1]
  omega

/-- Rows that a selection returns are those of the answer to its one call. -/
structure Answered (config : ManagedMCPConfig) (depth : Nat) (query : String)
    (result : MCPSelectResult) (client : Client) (log : Exchanges) : Prop where
  call : ∃ id queryKey databaseKey reply answer response,
    Called config client log id "select_query"
      [(queryKey, .str query), (databaseKey, .str config.database)] reply ∧
    readReply (some id) true reply = .ok (answer, response) ∧
    rowsFromToolResult depth answer = .ok result.rows ∧
    result.trace.requestId = toString id
  rowCount : result.trace.rowCount = result.rows.length
  database : result.trace.database = config.database
  advertised : "select_query" ∈ result.trace.advertisedTools ∧
    ∀ name ∈ result.trace.advertisedTools, name ∈ readTools ++ writeTools

theorem Listed.mem_known {pages : Exchanges} {tools : List Mapping} {names : List String}
    (h : Listed config client pages tools names) :
    ∀ name ∈ names, name ∈ readTools ++ writeTools := by
  intro name hname
  have hunknown := List.filter_eq_nil_iff.mp h.known name (List.mem_dedup.mpr hname)
  exact Classical.byContradiction fun hmem => hunknown (decide_eq_true hmem)

omit [JsonDecoder] in
theorem mem_toolNames {tools : List Mapping} {tool : Mapping} {name : String}
    (hname : name ≠ "") (h : tools.find? (isNamed name) = some tool) :
    name ∈ toolNames tools := by
  have hmem := List.mem_of_find?_eq_some h
  have hnamed := List.find?_some h
  unfold isNamed at hnamed
  split at hnamed
  · rename_i text hget
    obtain rfl := of_decide_eq_true hnamed
    unfold toolNames
    rw [List.mem_insertionSort]
    refine List.mem_filterMap.mpr ⟨tool, hmem, ?_⟩
    rw [hget]
    simp [Extraction.truthy, hname, Value.text]
  · cases hnamed

theorem ensures_selectQuery {depth : Nat} {query correlationId : String}
    (h : Kept config client log) :
    (selectQuery config depth query correlationId).Ensures client log fun outcome client log =>
      Kept config client log ∧
        ∀ result, outcome = .ok result → Answered config depth query result client log := by
  unfold selectQuery
  cases hselect : oneSelect query with
  | false =>
      rw [if_pos rfl]
      exact ⟨h, fun _ h => by cases h⟩
  | true =>
      rw [if_neg Bool.noConfusion]
      simp only [ensures_bind]
      refine (ensures_initializeSession h).mono fun outcome client log h => ?_
      obtain ⟨hkept, hopened⟩ := h
      cases outcome with
      | error e => exact ⟨hkept, fun _ h => by cases h⟩
      | ok _ =>
          have hopened := hopened rfl
          dsimp only
          refine (ensures_readTool hkept.numbered).mono fun outcome client' log' h => ?_
          obtain ⟨pages, hadded, hwork, hlisted⟩ := h
          cases outcome with
          | error e => exact ⟨hopened.kept hadded hwork, fun _ h => by cases h⟩
          | ok found =>
              obtain ⟨tool, names⟩ := found
              obtain ⟨tools, hlisted, htool⟩ := hlisted _ rfl
              simp only [ensures_ofExcept]
              cases harguments : selectArguments config tool query with
              | error e => exact ⟨hopened.kept hadded hwork, fun _ h => by cases h⟩
              | ok arguments =>
                  obtain ⟨schema, properties, queryKey, databaseKey, hschema, hquery, hdatabase,
                    htakes, rfl⟩ := selectArguments_ok harguments
                  simp only [ensures_request]
                  intro reply
                  have hcall : Licensed config tools (callPayload client'.nextId "select_query"
                      [(queryKey, .str query), (databaseKey, .str config.database)]) :=
                    .select htool hschema hquery hdatabase htakes hselect
                  have hkept' := hopened.kept_called hadded hwork hlisted hcall reply
                  cases hread : readReply (some client'.nextId) true reply with
                  | error e => exact ⟨hkept', fun _ h => by cases h⟩
                  | ok answered =>
                      obtain ⟨answer, response⟩ := answered
                      simp only [Except.map]
                      cases hrows : rowsFromToolResult depth answer with
                      | error e => exact ⟨hkept', fun _ h => by cases h⟩
                      | ok rows =>
                          refine ⟨hkept', fun result h => ?_⟩
                          obtain rfl := Except.ok.inj h
                          refine ⟨⟨client'.nextId, queryKey, databaseKey, reply, answer, response,
                            ⟨log', hadded.numbered.not_mem, rfl⟩, hread, hrows, rfl⟩, rfl, rfl, ?_,
                            hlisted.mem_known⟩
                          show "select_query" ∈ names
                          rw [show names = toolNames tools from hlisted.names_eq]
                          exact mem_toolNames (by decide) htool

/-- The probe was the last that was posted, and it was denied in so many words. -/
def Denied [CharacterTables] [Sha256] (config : ManagedMCPConfig) (hex : String)
    (client : Client) (log : Exchanges) : Prop :=
  ∃ id arguments reply, Called config client log id "insert_rows" arguments reply ∧
    (∀ argument ∈ arguments,
      argument ∈ probeChoices config ("__tally_gate5_write_denial_probe_" ++ hex)) ∧
    ((∃ response, reply = .response response ∧ response.status = 403 ∧
        explicitWriteScopeDenial response = true) ∨
      ∃ answer response, readReply (some id) true reply = .ok (answer, response) ∧
        explicitInbandAuthorizationDenial answer = true)

/-- What a body or its answer raises is no denial. -/
theorem readBody_error {id : Nat} {response : Response} {e : McpError}
    (h : readBody id response = .error e) : ∃ message, e = .protocol message := by
  unfold readBody at h
  dsimp only at h
  split at h
  · split at h <;> cases h <;> exact ⟨_, rfl⟩
  · split at h <;> cases h
    exact ⟨_, rfl⟩

omit [Interpreter] [JsonDecoder] in
theorem readResult_error {id : Nat} {body : Value} {e : McpError}
    (h : readResult id body = .error e) :
    (∃ message, e = .protocol message) ∨ ∃ message, e = .unavailable message := by
  unfold readResult at h
  split at h
  · split at h
    · split at h
      · cases h
        exact .inr ⟨_, rfl⟩
      · split at h <;> cases h
        exact .inl ⟨_, rfl⟩
    · cases h
      exact .inl ⟨_, rfl⟩
  · cases h
    exact .inl ⟨_, rfl⟩

/-- Only the challenge of a forbidden write makes a request fail with the denial. -/
theorem readReply_denied {id : Nat} {reply : Reply} {message : String}
    (h : readReply (some id) true reply = .error (.authorizationDenied message)) :
    ∃ response, reply = .response response ∧ response.status = 403 ∧
      explicitWriteScopeDenial response = true := by
  cases reply with
  | transportError => cases h
  | response response =>
      rw [readReply] at h
      by_cases hstatus : 200 ≤ response.status ∧ response.status ≤ 299
      · rw [if_neg (not_not.mpr hstatus), if_neg (Bool.noConfusion)] at h
        cases hbody : readBody id response with
        | error e =>
            obtain ⟨_, rfl⟩ := readBody_error hbody
            rw [hbody] at h
            cases h
        | ok body =>
            cases hresult : readResult id body with
            | error e =>
                rw [hbody] at h
                change (readResult id body >>= _) = _ at h
                rw [hresult] at h
                rcases readResult_error hresult with ⟨_, rfl⟩ | ⟨_, rfl⟩ <;> cases h
            | ok result =>
                rw [hbody] at h
                change (readResult id body >>= _) = _ at h
                rw [hresult] at h
                cases h
      · rw [if_pos hstatus] at h
        have hfailure := Except.error.inj h
        unfold httpFailure at hfailure
        split at hfailure
        · rename_i hdenied
          obtain ⟨hforbidden, hscope⟩ := Bool.and_eq_true_iff.mp hdenied
          exact ⟨response, rfl, of_decide_eq_true hforbidden, hscope⟩
        · split at hfailure
          · cases hfailure
          · split at hfailure <;> cases hfailure

theorem ensures_verify [CharacterTables] [Sha256] {hex : String} (h : Kept config client log) :
    (verifyKnownWriteToolDenied config hex).Ensures client log fun outcome client log =>
      Kept config client log ∧
        ∀ denied, outcome = .ok denied → denied = true ∧ Denied config hex client log := by
  unfold verifyKnownWriteToolDenied
  simp only [ensures_bind]
  refine (ensures_initializeSession h).mono fun outcome client log h => ?_
  obtain ⟨hkept, hopened⟩ := h
  cases outcome with
  | error e => exact ⟨hkept, fun _ h => by cases h⟩
  | ok _ =>
      have hopened := hopened rfl
      dsimp only
      refine (ensures_discoverTools hkept.numbered).mono fun outcome client' log' h => ?_
      obtain ⟨pages, hadded, hwork, hlisted⟩ := h
      cases outcome with
      | error e => exact ⟨hopened.kept hadded hwork, fun _ h => by cases h⟩
      | ok found =>
          obtain ⟨tools, names⟩ := found
          have hlisted := hlisted _ rfl
          dsimp only at hlisted ⊢
          cases htool : tools.find? (isNamed "insert_rows") with
          | none => exact ⟨hopened.kept hadded hwork, fun _ h => by cases h⟩
          | some tool =>
              simp only [ensures_bind, ensures_ofExcept]
              cases harguments : writeProbeArguments config hex tool with
              | error e => exact ⟨hopened.kept hadded hwork, fun _ h => by cases h⟩
              | ok arguments =>
                  obtain ⟨schema, properties, hschema, hchoices⟩ :=
                    writeProbeArguments_ok harguments
                  simp only [ensures_bind, ensures_tryCatch, ensures_request]
                  intro reply
                  have hcall : Licensed config tools (callPayload client'.nextId "insert_rows"
                      arguments) := .probe htool hschema hchoices
                  have hkept' := hopened.kept_called hadded hwork hlisted hcall reply
                  have hlast : Called config { client' with nextId := client'.nextId + 1 }
                      (log' ++ [⟨postWith config (headers config client') (callPayload
                        client'.nextId "insert_rows" arguments), reply⟩]) client'.nextId
                      "insert_rows" arguments reply := ⟨log', hadded.numbered.not_mem, rfl⟩
                  cases hread : readReply (some client'.nextId) true reply with
                  | error e =>
                      cases e with
                      | authorizationDenied message =>
                          refine ⟨hkept', fun denied h => ?_⟩
                          obtain rfl := Except.ok.inj h
                          exact ⟨rfl, _, _, reply, hlast, fun a ha => (hchoices a ha).2,
                            .inl (readReply_denied hread)⟩
                      | _ => exact ⟨hkept', fun _ h => by cases h⟩
                  | ok answered =>
                      obtain ⟨answer, response⟩ := answered
                      simp only [Except.map]
                      by_cases hdenial : explicitInbandAuthorizationDenial answer = true
                      · simp only [ensures_pure, hdenial, if_true]
                        refine ⟨hkept', fun denied h => ?_⟩
                        obtain rfl := Except.ok.inj h
                        exact ⟨rfl, _, _, reply, hlast, fun a ha => (hchoices a ha).2,
                          .inr ⟨answer, response, hread, hdenial⟩⟩
                      · simp only [ensures_pure, hdenial]
                        exact ⟨hkept', fun _ h => by cases h⟩

end Posts

/-! ## Sessions -/

section Sessions

variable [Interpreter] [JsonDecoder] [CharacterTables] [Sha256]

/-- A session: a client for a valid configuration, and one call of it after another, with whatever
replies. A call that raises leaves the client as it is then. -/
inductive Session (config : ManagedMCPConfig) : Client → Exchanges → Prop
  | start (h : config.validate = .ok ()) : Session config .initial []
  | select {client client' : Client} {log new : Exchanges} {depth : Nat}
      {query correlationId : String} {outcome : Except McpError MCPSelectResult}
      (h : Session config client log)
      (hcall : Traced ((selectQuery config depth query correlationId).run.run client) new
        (outcome, client')) : Session config client' (log ++ new)
  | verify {client client' : Client} {log new : Exchanges} {hex : String}
      {outcome : Except McpError Bool} (h : Session config client log)
      (hcall : Traced ((verifyKnownWriteToolDenied config hex).run.run client) new
        (outcome, client')) : Session config client' (log ++ new)

variable {config : ManagedMCPConfig} {client client' : Client} {log new : Exchanges}

omit [CharacterTables] [Sha256] in
theorem kept_of_select {depth : Nat} {query correlationId : String}
    {outcome : Except McpError MCPSelectResult} (h : Kept config client log)
    (hcall : Traced ((selectQuery config depth query correlationId).run.run client) new
      (outcome, client')) :
    Kept config client' (log ++ new) ∧
      ∀ result, outcome = .ok result → Answered config depth query result client' (log ++ new) := by
  have hensures : (selectQuery config depth query correlationId).Ensures client log _ :=
    ensures_selectQuery h
  exact ensures_iff.mp hensures new outcome client' hcall

theorem kept_of_verify {hex : String} {outcome : Except McpError Bool}
    (h : Kept config client log)
    (hcall : Traced ((verifyKnownWriteToolDenied config hex).run.run client) new
      (outcome, client')) :
    Kept config client' (log ++ new) ∧
      ∀ denied, outcome = .ok denied → denied = true ∧ Denied config hex client' (log ++ new) := by
  have hensures : (verifyKnownWriteToolDenied config hex).Ensures client log _ :=
    ensures_verify h
  exact ensures_iff.mp hensures new outcome client' hcall

theorem kept_of_session (h : Session config client log) : Kept config client log := by
  induction h with
  | start _ =>
      refine ⟨⟨Nat.one_pos, rfl⟩, .inl ⟨rfl, fun _ h => ?_⟩⟩
      exact absurd h List.not_mem_nil
  | select _ hcall ih => exact (kept_of_select ih hcall).1
  | verify _ hcall ih => exact (kept_of_verify ih hcall).1

theorem valid_of_session (h : Session config client log) : config.validate = .ok () := by
  induction h with
  | start h => exact h
  | select _ _ ih => exact ih
  | verify _ _ ih => exact ih

omit [JsonDecoder] [CharacterTables] [Sha256] in
theorem endpoint_of_valid (h : config.validate = .ok ()) : config.endpoint = mcpEndpoint := by
  by_contra hne
  unfold ManagedMCPConfig.validate at h
  rw [if_pos hne] at h
  cases h

omit [CharacterTables] [Sha256] in
theorem Work.posts {session : List (String × String)} {work : Exchanges}
    (h : Work config session work) :
    ∀ exchange ∈ work, ∃ payload, exchange.1 = postWith config session payload := by
  induction h with
  | nil => exact fun _ h => absurd h List.not_mem_nil
  | page _ ih =>
      intro exchange hexchange
      rcases List.mem_append.mp hexchange with hexchange | hexchange
      · exact ih exchange hexchange
      · obtain rfl := List.mem_singleton.mp hexchange
        exact ⟨_, rfl⟩
  | call _ _ _ _ _ ih =>
      intro exchange hexchange
      rcases List.mem_append.mp hexchange with hexchange | hexchange
      · exact ih exchange hexchange
      · obtain rfl := List.mem_singleton.mp hexchange
        exact ⟨_, rfl⟩

omit [CharacterTables] [Sha256] in
/-- Every post is a message of a client for the configuration. -/
theorem Kept.posts (h : Kept config client log) :
    ∀ exchange ∈ log, ∃ client payload,
      exchange.1 = postWith config (headers config client) payload := by
  intro exchange hexchange
  rcases h.phase with hclosed | hopened
  · obtain ⟨id, hid⟩ := hclosed.attempts exchange hexchange
    exact ⟨_, _, hid⟩
  · obtain ⟨attempts, id, reply, result, response, notice, work, rfl, hattempts, _, _, _, hwork⟩ :=
      hopened.traffic
    rcases List.mem_append.mp hexchange with hexchange | hexchange
    · obtain ⟨id, hid⟩ := hattempts exchange hexchange
      exact ⟨_, _, hid⟩
    · rcases List.mem_cons.mp hexchange with rfl | hexchange
      · exact ⟨_, _, rfl⟩
      · rcases List.mem_cons.mp hexchange with rfl | hexchange
        · exact ⟨_, _, rfl⟩
        · obtain ⟨payload, hpayload⟩ := hwork.posts exchange hexchange
          exact ⟨_, payload, hpayload⟩

omit [JsonDecoder] [CharacterTables] [Sha256] in
theorem mem_headers (client : Client) (payload : Payload) :
    ("Authorization", "Bearer " ++ config.accessToken) ∈
        (postWith config (headers config client) payload).headers ∧
      ("mcp-cluster-id", config.clusterId) ∈
        (postWith config (headers config client) payload).headers := by
  simp [postWith, headers]

/-- Whatever the server answers and whichever calls fail, every post of a session goes to the one
endpoint, with the configured credential and cluster. The requests are numbered from 1 on, one by
one. The traffic is attempts to open the session until one is answered with a version, then the
notice, then listings of the tools and calls, under the version and the identifier of that answer;
and every call comes right after a whole listing, of known tools, that has its tool: the read tool
with one selection in the configured database, the write tool with the probe alone.
SOURCE: src/src/external/cockroach_mcp.py:242-528 -/
theorem session_kept (h : Session config client log) :
    (∀ exchange ∈ log, exchange.1.url = mcpEndpoint ∧
      ("Authorization", "Bearer " ++ config.accessToken) ∈ exchange.1.headers ∧
      ("mcp-cluster-id", config.clusterId) ∈ exchange.1.headers) ∧
    requestIds log = List.range' 1 (client.nextId - 1) ∧
    (Closed config client log ∨ Opened config client log) := by
  have hkept := kept_of_session h
  have hendpoint := endpoint_of_valid (valid_of_session h)
  refine ⟨fun exchange hexchange => ?_, hkept.numbered.2, hkept.phase⟩
  obtain ⟨sender, payload, hpost⟩ := hkept.posts exchange hexchange
  rw [hpost]
  exact ⟨hendpoint, mem_headers sender payload⟩

/-- The rows that a selection returns, after any calls before it, are those of the one answer that
carries the number of its call; no earlier request had that number, and the call was for that
query in the configured database, on a tool that the whole listing advertised.
SOURCE: src/src/external/cockroach_mcp.py:212-240, 278-344, 497-528 -/
theorem rows_answered {depth : Nat} {query correlationId : String} {result : MCPSelectResult}
    (h : Session config client log)
    (hcall : Traced ((selectQuery config depth query correlationId).run.run client) new
      (.ok result, client')) :
    ∃ before id queryKey databaseKey body answer response, id ∉ requestIds before ∧
      log ++ new = before ++ [⟨postWith config (headers config client') (callPayload id
        "select_query" [(queryKey, .str query), (databaseKey, .str config.database)]),
        .response response⟩] ∧
      readBody id response = .ok (.dict body) ∧ hasId id body = true ∧
      getMember body "result" = some (.dict answer) ∧
      rowsFromToolResult depth answer = .ok result.rows ∧
      result.trace.requestId = toString id ∧ result.trace.rowCount = result.rows.length ∧
      "select_query" ∈ result.trace.advertisedTools ∧
      ∀ name ∈ result.trace.advertisedTools, name ∈ readTools ++ writeTools := by
  have hafter := kept_of_select (kept_of_session h) hcall
  obtain ⟨⟨id, queryKey, databaseKey, reply, answer, response, hcalled, hread, hrows, hid⟩, hcount,
    _, hselect, hknown⟩ := hafter.2 result rfl
  obtain ⟨before, hfresh, hlog⟩ := hcalled
  obtain ⟨rfl, body, hbody, hnumber, _, hresult⟩ := readReply_ok hread
  exact ⟨before, id, queryKey, databaseKey, body, answer, response, hfresh, hlog, hbody, hnumber,
    hresult, hrows, hid, hcount, hselect, hknown⟩

/-- The check of a credential never returns that a write went through, and it returns at all only
after its own probe, the last that was posted and under a number of its own, was denied in so many
words: a challenge for the scope of writes, or the one known refusal.
SOURCE: src/src/external/cockroach_mcp.py:70-97, 404-471 -/
theorem denial_proven {hex : String} {denied : Bool} (h : Session config client log)
    (hcall : Traced ((verifyKnownWriteToolDenied config hex).run.run client) new
      (.ok denied, client')) :
    denied = true ∧ Denied config hex client' (log ++ new) :=
  (kept_of_verify (kept_of_session h) hcall).2 denied rfl

end Sessions

/-! ## A session -/

section Case

local instance : Interpreter where
  isSpace c := c = ' '
  upper c := [c.toUpper]
  digitValue c := if c.isDigit then some (c.toNat - 48) else none
  containerText _ := ""

local instance : JsonDecoder := ⟨fun _ => .error .jsonDecodeError⟩

local instance : CharacterTables where
  isDecimal := Char.isDigit
  isSpace c := c = ' '
  lower := List.map Char.toLower

local instance : Sha256 := .standard

def caseConfig : ManagedMCPConfig where
  clusterId := "cluster"
  database := "tally"
  accessToken := "token"
  serviceIdentity := "reader"
  permissionMode := "oauth-read-only"
  endpoint := mcpEndpoint
  timeoutSeconds := 15

/-- The answer to a request, or a status alone. -/
def answered (id : Int) (result : Mapping) : Reply :=
  .response
    { status := 200
      header := fun name => if name = "content-type" then some "application/json" else none
      text := []
      json := .ok (.dict [("jsonrpc", .str "2.0"), ("id", .int id), ("result", .dict result)]) }

def accepted : Reply := .response ⟨202, fun _ => none, [], .error .jsonDecodeError⟩

def refused : Reply :=
  .response
    { status := 403
      header := fun name =>
        if name = "www-authenticate" then
          some "Bearer error=\"insufficient_scope\", scope=\"mcp:write\""
        else none
      text := []
      json := .error .jsonDecodeError }

def tool (name : String) (properties : List String) : Value :=
  .dict [("name", .str name),
    ("inputSchema", .dict [("properties", .dict (properties.map fun key => (key, .dict [])))])]

def selectReplies : List Reply :=
  [answered 1 [("protocolVersion", .str "2025-11-25")], accepted,
    answered 2 [("tools", .list [tool "select_query" ["query", "database"]]),
      ("nextCursor", .str "page")],
    answered 3 [("tools", .list [tool "insert_rows" ["query", "database"]])],
    answered 4 [("structuredContent", .list [.dict [("id", .int 7)]])]]

def verifyReplies : List Reply :=
  [answered 5 [("tools", .list [tool "insert_rows" ["query", "database"]])], refused]

/-- A selection, and the check of the credential in the same session. -/
def caseRun : Option ((Exchanges × Except McpError MCPSelectResult × Client) ×
    Exchanges × Except McpError Bool × Client) :=
  (Prog.replay selectReplies
    ((selectQuery caseConfig 100 "SELECT 1" "c").run.run .initial)).bind fun first =>
  (Prog.replay verifyReplies
    ((verifyKnownWriteToolDenied caseConfig "0f").run.run first.2.2)).map fun second =>
  (first, second)

/-- Whether both calls of the case return. -/
def bothReturn : Option ((Exchanges × Except McpError MCPSelectResult × Client) ×
    Exchanges × Except McpError Bool × Client) → Bool
  | some ((_, .ok _, _), _, .ok _, _) => true
  | _ => false

theorem case_returns : bothReturn caseRun = true := by
  decide +kernel

theorem case_calls : ∃ log result client new denied client',
    Traced ((selectQuery caseConfig 100 "SELECT 1" "c").run.run .initial) log
      (.ok result, client) ∧
    Traced ((verifyKnownWriteToolDenied caseConfig "0f").run.run client) new
      (.ok denied, client') := by
  have hreturns := case_returns
  cases hrun : caseRun with
  | none =>
      rw [hrun] at hreturns
      cases hreturns
  | some run =>
      rw [hrun] at hreturns
      unfold bothReturn at hreturns
      split at hreturns
      · rename_i log result client new denied client' heq
        obtain ⟨⟨log₁, outcome₁, client₁⟩, hfirst, hrest⟩ := Option.bind_eq_some_iff.mp hrun
        obtain ⟨⟨log₂, outcome₂, client₂⟩, hsecond, hpair⟩ := Option.map_eq_some_iff.mp hrest
        have hsame := hpair.trans (Option.some.inj heq)
        simp only [Prod.mk.injEq] at hsame
        obtain ⟨⟨rfl, rfl, rfl⟩, rfl, rfl, rfl⟩ := hsame
        exact ⟨_, _, _, _, _, _, Prog.traced_of_replay hfirst, Prog.traced_of_replay hsecond⟩
      · cases hreturns

theorem case_valid : caseConfig.validate = .ok () := by
  decide +kernel

theorem session_kept_twice : ∃ client log, Session caseConfig client log ∧
    requestIds log = List.range' 1 (client.nextId - 1) ∧
      (Closed caseConfig client log ∨ Opened caseConfig client log) := by
  obtain ⟨log, _, client, new, _, client', hselect, hverify⟩ := case_calls
  have hsession : Session caseConfig client' (([] ++ log) ++ new) :=
    .verify (.select (.start case_valid) hselect) hverify
  exact ⟨client', _, hsession, (session_kept hsession).2⟩

theorem rows_answered_first : ∃ log result client,
    Traced ((selectQuery caseConfig 100 "SELECT 1" "c").run.run .initial) log
      (.ok result, client) ∧
    ∃ (id : Nat) (answer : Mapping), rowsFromToolResult 100 answer = .ok result.rows ∧
      result.trace.requestId = toString id := by
  obtain ⟨log, result, client, _, _, _, hselect, _⟩ := case_calls
  obtain ⟨_, id, _, _, _, answer, _, _, _, _, _, _, hrows, hid, _⟩ :=
    rows_answered (.start case_valid) hselect
  exact ⟨log, result, client, hselect, id, answer, hrows, hid⟩

theorem denial_proven_after_select : ∃ client log new denied client',
    Session caseConfig client log ∧
    Traced ((verifyKnownWriteToolDenied caseConfig "0f").run.run client) new
      (.ok denied, client') ∧
    denied = true ∧ Denied caseConfig "0f" client' (log ++ new) := by
  obtain ⟨log, _, client, new, denied, client', hselect, hverify⟩ := case_calls
  have hsession : Session caseConfig client ([] ++ log) := .select (.start case_valid) hselect
  exact ⟨client, _, new, denied, client', hsession, hverify, denial_proven hsession hverify⟩

end Case

end Tally.Analysis.McpSessions
