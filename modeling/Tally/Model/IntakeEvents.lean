import Tally.Model.TaskSpine

/-!
# Public events

The embedding of `validate_public_event` of `core/intake.py` and of
`platform/intake_events.py`: the projection of an event row, the history query,
the outbox relay, and one poll of a server-sent-event stream.
-/

set_option autoImplicit false

namespace Tally.Model.IntakeEvents
open Library Library.Calendar Tally.Model

/-! ## The public projection -/

/-- `[a-z][a-z0-9_]*`, whole. -/
def isName : List Char → Bool
  | [] => false
  | c :: text => ('a' ≤ c ∧ c ≤ 'z') ∧ text.all fun c =>
      ('a' ≤ c ∧ c ≤ 'z') ∨ ('0' ≤ c ∧ c ≤ '9') ∨ c = '_'

/-- `[a-z][a-z0-9_]*\.[a-z][a-z0-9_]*`, whole. -/
def isNamespaced (text : List Char) : Bool :=
  let head := text.takeWhile (· ≠ '.')
  isName head ∧ isName (text.drop (head.length + 1))

def requiredFields : List String :=
  ["event_id", "event_type", "schema_version", "invoice_id", "sequence", "occurred_at", "role",
    "task", "tool", "state", "status", "summary", "produced_object_refs", "public_error"]

def forbiddenWords : List String :=
  ["s3_bucket", "s3_object_key", "s3_version_id", "sql_text", "model_response", "prompt_text",
    "private_error"]

/-- A dict with `type`, `id` and `version`. -/
def isVersionedRef : Json → Bool
  | .obj members => ["type", "id", "version"].all fun k => (members.map Prod.fst).contains k
  | _ => false

def isVersionedRefs : Option Json → Bool
  | some (.arr refs) => refs.all isVersionedRef
  | _ => false

/-- `isinstance(value, bool) or int(value) <= 0` is false. -/
def isPositive : Option Json → Bool
  | some (.int n) => 0 < n
  | _ => false

def isEventType : Option Json → Bool
  | some (.str text) => isNamespaced text.toList
  | _ => false

/-- `json.dumps(event, sort_keys=True).lower()`. -/
def serializedEvent (event : List (String × Json)) : List Char :=
  (Json.render .spaced (Json.obj event).sortKeys).map Char.toLower

/-- `validate_public_event`. -/
def validatePublicEvent (event : List (String × Json)) : Except PyError Unit :=
  if ¬ requiredFields.all fun k => (event.map Prod.fst).contains k then
    .error (.valueError "missing public event fields")
  else if ¬ isEventType (event.lookup "event_type") then
    .error (.valueError "event_type must be a lowercase namespaced string")
  else if ¬ isPositive (event.lookup "sequence") then
    .error (.valueError "sequence must be positive")
  else if ¬ isVersionedRefs (event.lookup "produced_object_refs") then
    .error (.valueError "produced_object_refs must be typed and versioned")
  else match forbiddenWords.find? fun word => word.toList <:+: serializedEvent event with
    | some word => .error (.valueError ("private field in public event: " ++ word))
    | none => .ok ()

def optionalNat : Option Nat → Json
  | some n => .int n
  | none => .null

/-- The dict `_project_event` builds of a row. -/
def publicEvent (e : InvoiceEvent) : List (String × Json) :=
  [("event_id", .str (uuidText e.id)),
   ("event_type", .str e.eventType),
   ("schema_version", .int 1),
   ("invoice_id", .str (uuidText e.invoiceId)),
   ("sequence", .int e.sequence),
   ("occurred_at", .str (Instant.isoformat e.occurredAt)),
   ("role", .str e.role),
   ("task", .str e.task),
   ("tool", .obj [("display_name", .str (match e.toolDisplayName with
      | some name => if name = "" then "Deterministic validation" else name
      | none => "Deterministic validation"))]),
   ("state", .str e.state),
   ("status", .str e.aggregateStatus.value),
   ("summary", .str e.summary),
   ("input_object_refs", refsJson e.inputObjectRefs),
   ("produced_object_refs", refsJson e.producedObjectRefs),
   ("output_count", optionalNat e.outputCount),
   ("elapsed_ms", .null),
   ("public_error", match e.publicError with
      | some code => .obj [("code", .str code)]
      | none => .null)]

/-- `_project_event`. -/
def projectEvent (e : InvoiceEvent) : Except PyError (List (String × Json)) := do
  validatePublicEvent (publicEvent e)
  pure (publicEvent e)

/-! ## The cursor order -/

/-- `(occurred_at, invoice_id, sequence)`. -/
structure CursorKey where
  occurredAt : Instant
  invoiceId : Uuid
  sequence : Nat
deriving DecidableEq

def InvoiceEvent.cursorKey (e : InvoiceEvent) : CursorKey := ⟨e.occurredAt, e.invoiceId, e.sequence⟩

/-- The row comparison of two keys. -/
def CursorKey.before (a b : CursorKey) : Prop :=
  a.occurredAt < b.occurredAt ∨ (a.occurredAt = b.occurredAt ∧
    (a.invoiceId.toNat < b.invoiceId.toNat ∨
      (a.invoiceId = b.invoiceId ∧ a.sequence < b.sequence)))

instance : DecidableRel CursorKey.before := fun a b =>
  inferInstanceAs (Decidable (a.occurredAt < b.occurredAt ∨ (a.occurredAt = b.occurredAt ∧
    (a.invoiceId.toNat < b.invoiceId.toNat ∨
      (a.invoiceId = b.invoiceId ∧ a.sequence < b.sequence)))))

/-! ## History -/

structure HistoryQuery where
  invoiceId : Option Uuid := none
  afterSequence : Nat := 0
  afterEventId : Option Uuid := none
  deliveredOnly : Bool := false
  limit : Nat := 200

def isDelivered (db : Db) (eventId : Uuid) : Bool :=
  (db .eventOutbox).any fun o => o.eventId = eventId ∧ o.state = .delivered

/-- Whether a row passes the clauses of the query that begins after `cursor`. -/
def HistoryQuery.selects (query : HistoryQuery) (db : Db) (cursor : Option InvoiceEvent)
    (e : InvoiceEvent) : Bool :=
  (match query.invoiceId with
    | none => cursor.all fun c => InvoiceEvent.cursorKey c |>.before (InvoiceEvent.cursorKey e)
    | some invoiceId => e.invoiceId = invoiceId ∧
        (cursor.map InvoiceEvent.sequence).getD query.afterSequence < e.sequence) &&
  ((db .eventOutbox).any fun o => o.eventId = e.id) &&
  (!query.deliveredOnly || isDelivered db e.id)

/-- The row an event id names; `none` when the query cannot resume from it. -/
def HistoryQuery.cursorRow (query : HistoryQuery) (db : Db) (eventId : Uuid) :
    Option InvoiceEvent :=
  ((db .invoiceEvents).find? fun e => e.id = eventId).filter fun e =>
    query.invoiceId.all (e.invoiceId = ·)

/-- The rows after a cursor, in cursor order, within the limit. -/
def HistoryQuery.rowsAfter (query : HistoryQuery) (db : Db) (cursor : Option InvoiceEvent) :
    List InvoiceEvent :=
  (((db .invoiceEvents).filter (query.selects db cursor)).insertionSort fun a b =>
    ¬ (InvoiceEvent.cursorKey b).before (InvoiceEvent.cursorKey a)).take
      (min (max query.limit 1) 500)

/-- The rows of a history query and whether its cursor is unknown. -/
def HistoryQuery.rows (query : HistoryQuery) (db : Db) : List InvoiceEvent × Bool :=
  match query.afterEventId with
  | none => (query.rowsAfter db none, false)
  | some eventId =>
    match query.cursorRow db eventId with
    | none => ([], true)
    | some cursor => (query.rowsAfter db (some cursor), false)

/-- `load_event_history`. -/
def loadEventHistory (db : Db) (query : HistoryQuery) :
    Except PyError (List (List (String × Json)) × Bool) := do
  let (rows, cursorUnknown) := query.rows db
  let events ← rows.mapM projectEvent
  pure (events, cursorUnknown)

/-! ## The relay -/

local instance lawfulUuid : LawfulBEq Uuid := inferInstance

/-- Whether the relay may take an outbox row. -/
def relayable (env : TxnEnv) (o : EventOutbox) : Bool :=
  o.state = .pending ∧ o.availableAt ≤ env.now ∧ o.leaseExpiresAt.all (· < env.now) ∧
    o.id ∉ env.locked

/-- `ORDER BY available_at, id`. -/
def EventOutbox.relayedBefore (a b : EventOutbox) : Prop :=
  a.availableAt < b.availableAt ∨ (a.availableAt = b.availableAt ∧ a.id.toNat ≤ b.id.toNat)

instance : DecidableRel EventOutbox.relayedBefore := fun a b =>
  inferInstanceAs (Decidable (a.availableAt < b.availableAt ∨
    (a.availableAt = b.availableAt ∧ a.id.toNat ≤ b.id.toNat)))

/-- The rows one relay batch selects. -/
def relayBatch (env : TxnEnv) (limit : Nat) (outbox : List EventOutbox) : List EventOutbox :=
  ((outbox.filter (relayable env)).insertionSort EventOutbox.relayedBefore).take
    (min (max limit 1) 500)

/-- `relay_outbox_batch`. -/
def relayOutboxBatch (env : TxnEnv) (limit : Nat) : Tx Nat := do
  let batch ← Txn.read fun db : Db => relayBatch env limit (db .eventOutbox)
  updateRows .eventOutbox
    (fun o => o.id ∈ batch.map EventOutbox.id ∧ o.state = .pending)
    fun o => { o with state := .delivered, deliveryCount := o.deliveryCount + 1 }
  pure batch.length

/-! ## Streams -/

/-- A server-sent-event stream, with the rows it has emitted. -/
structure Stream where
  cursor : Option Uuid
  cursorChecked : Bool := false
  emitted : List InvoiceEvent := []
deriving DecidableEq

/-- The query of one poll of a stream. -/
def Stream.query (s : Stream) : HistoryQuery := { afterEventId := s.cursor, deliveredOnly := true }

/-- One iteration of `sse_stream`, of which the client receives the first `taken`
events; a poll that raises emits nothing. -/
def Stream.poll (db : Db) (taken : Nat) (s : Stream) : Except PyError Stream := do
  let (rows, unknown) := s.query.rows db
  let _ ← rows.mapM projectEvent
  let cursor := if unknown ∧ ¬ s.cursorChecked then none else s.cursor
  let received := rows.take taken
  pure
    { cursor := (received.getLast?.map InvoiceEvent.id).or cursor
      cursorChecked := true
      emitted := s.emitted ++ received }

/-- A reconnect resumes from the cursor with the check pending again. -/
def Stream.reconnect (s : Stream) : Stream := { s with cursorChecked := false }

end Tally.Model.IntakeEvents
