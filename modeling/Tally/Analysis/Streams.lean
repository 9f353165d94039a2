import Mathlib.Data.Prod.Lex
import Tally.Library.Paging
import Tally.Analysis.EventLog

/-!
# Subscriber streams

What a subscriber receives over a run: a stream never repeats an event, since every page
begins after the cursor and is sorted by it. Whether it skips one, and whether it keeps the
order of an invoice, is decided by the relays and by the clocks of the transactions: an
event that is delivered late, with a key below a cursor, is behind the stream for good.
-/

set_option autoImplicit false

namespace Tally.Analysis.Streams
open Library Library.Calendar Tally.Model IntakeEvents IntakeRepository IntakeTasks EventLog Effects

/-! ## The cursor order -/

/-- The place of an event in the cursor order. -/
def position (e : InvoiceEvent) : Int ×ₗ (Nat ×ₗ Nat) :=
  toLex (e.occurredAt, toLex (e.invoiceId.toNat, e.sequence))

theorem before_iff (a b : InvoiceEvent) :
    (InvoiceEvent.cursorKey a).before (InvoiceEvent.cursorKey b) ↔ position a < position b := by
  unfold CursorKey.before InvoiceEvent.cursorKey position
  rw [Prod.Lex.toLex_lt_toLex, Prod.Lex.toLex_lt_toLex, BitVec.toNat_inj]

/-- The invoice and the number tell the events of a numbered log apart. -/
theorem event_inj {db : Db} (h : Numbered db) {a b : InvoiceEvent}
    (ha : a ∈ db .invoiceEvents) (hb : b ∈ db .invoiceEvents) (hinvoice : a.invoiceId = b.invoiceId)
    (hsequence : a.sequence = b.sequence) : a = b := by
  obtain ⟨i, hi, hid⟩ := h.known a ha
  have hnodup : ((eventsOf db i.id).map InvoiceEvent.sequence).Nodup := by
    rw [h.numbers i hi]
    exact List.nodup_range'
  refine List.inj_on_of_nodup_map hnodup ?_ ?_ hsequence
  · exact List.mem_filter.mpr ⟨ha, decide_eq_true hid.symm⟩
  · exact List.mem_filter.mpr ⟨hb, decide_eq_true (hinvoice.symm.trans hid.symm)⟩

/-- The events of a numbered log have places of their own. -/
theorem position_inj {db : Db} (h : Numbered db) {a b : InvoiceEvent}
    (ha : a ∈ db .invoiceEvents) (hb : b ∈ db .invoiceEvents) (heq : position a = position b) :
    a = b := by
  have hkeys := congrArg Prod.snd (toLex_inj.mp heq)
  have hinner := toLex_inj.mp hkeys
  have hinvoice : a.invoiceId = b.invoiceId := BitVec.eq_of_toNat_eq (congrArg Prod.fst hinner)
  exact event_inj h ha hb hinvoice (congrArg Prod.snd hinner)

/-! ## Pages -/

theorem mem_rowsAfter {query : HistoryQuery} {db : Db} {cursor : Option InvoiceEvent}
    {e : InvoiceEvent} (he : e ∈ query.rowsAfter db cursor) :
    e ∈ db .invoiceEvents ∧ query.selects db cursor e = true := by
  unfold HistoryQuery.rowsAfter at he
  exact List.mem_filter.mp ((List.mem_insertionSort _).mp (List.mem_of_mem_take he))

/-- A page is in cursor order. -/
theorem rowsAfter_ordered {db : Db} (h : Numbered db) (query : HistoryQuery)
    (cursor : Option InvoiceEvent) :
    (query.rowsAfter db cursor).Pairwise fun a b => position a < position b := by
  unfold HistoryQuery.rowsAfter
  refine (pairwise_lt_insertionSort ?_ ?_).sublist (List.take_sublist _ _)
  · intro a b
    rw [before_iff, not_lt]
  · refine List.Nodup.map_on ?_ ((h.ids.of_map _).filter _)
    intro a ha b hb heq
    exact position_inj h (List.mem_of_mem_filter ha) (List.mem_of_mem_filter hb) heq

/-- The row a cursor names. -/
def cursorEvent (db : Db) (s : Stream) : Option InvoiceEvent :=
  s.cursor.bind fun id => (db .invoiceEvents).find? fun e => e.id = id

theorem mem_cursorEvent {db : Db} {s : Stream} {e : InvoiceEvent} (h : e ∈ cursorEvent db s) :
    e ∈ db .invoiceEvents ∧ s.cursor = some e.id := by
  obtain ⟨id, hcursor, hfind⟩ := Option.bind_eq_some_iff.mp h
  have hid : e.id = id := by simpa using List.find?_some hfind
  refine ⟨List.mem_of_find?_eq_some hfind, ?_⟩
  rw [hcursor, hid]

/-! ## What a stream has emitted -/

/-- A stream that can resume: what it emitted is in the log and in cursor order, its cursor
is the last of it, and a cursor names a delivered event. -/
structure Resumable (db : Db) (s : Stream) : Prop where
  logged : ∀ e ∈ s.emitted, e ∈ db .invoiceEvents
  ordered : s.emitted.Pairwise fun a b => position a < position b
  last : ∀ e ∈ s.emitted.getLast?, s.cursor = some e.id
  known : ∀ id ∈ s.cursor, ∃ e ∈ db .invoiceEvents, e.id = id ∧ isDelivered db id = true

/-- The query of a stream that can resume begins after the row of its cursor. -/
theorem Resumable.rows {db : Db} {s : Stream} (h : Resumable db s) :
    s.query.rows db = (s.query.rowsAfter db (cursorEvent db s), false) := by
  have hafter : s.query.afterEventId = s.cursor := rfl
  unfold HistoryQuery.rows cursorEvent
  rw [hafter]
  cases hcursor : s.cursor with
  | none => rfl
  | some id =>
      obtain ⟨e, he, hid, _⟩ := h.known id hcursor
      have hrow : s.query.cursorRow db id = (db .invoiceEvents).find? fun e => e.id = id := by
        unfold HistoryQuery.cursorRow
        cases (db .invoiceEvents).find? fun e => e.id = id with
        | none => rfl
        | some row => rfl
      have hsome : ((db .invoiceEvents).find? fun e => e.id = id).isSome = true :=
        List.find?_isSome.mpr ⟨e, he, decide_eq_true hid⟩
      obtain ⟨row, hfind⟩ := Option.isSome_iff_exists.mp hsome
      dsimp only
      rw [hrow, hfind]
      simp only [Option.bind_some, hfind]

/-- A row of a page is delivered and after the cursor. -/
theorem after_cursor {db : Db} {s : Stream} {cursor : Option InvoiceEvent} {e : InvoiceEvent}
    (he : e ∈ s.query.rowsAfter db cursor) :
    isDelivered db e.id = true ∧ ∀ c ∈ cursor, position c < position e := by
  have hselects := (mem_rowsAfter he).2
  unfold HistoryQuery.selects Stream.query at hselects
  simp only [Bool.and_eq_true, Bool.not_true, Bool.false_or] at hselects
  refine ⟨hselects.2, ?_⟩
  intro c hc
  have hafter := hselects.1.1
  rw [Option.mem_def.mp hc] at hafter
  exact (before_iff c e).mp (of_decide_eq_true hafter)

/-- What a poll that does not raise emits: the events its client received of the page. -/
theorem poll_ok {db : Db} {taken : Nat} {s s' : Stream} (h : s.poll db taken = .ok s') :
    let received := (s.query.rows db).1.take taken
    s'.emitted = s.emitted ++ received ∧
      s'.cursor = (received.getLast?.map InvoiceEvent.id).or
        (if (s.query.rows db).2 = true ∧ ¬ s.cursorChecked = true then none else s.cursor) := by
  unfold Stream.poll at h
  dsimp only at h
  cases hproject : (s.query.rows db).1.mapM projectEvent with
  | error e =>
      rw [hproject] at h
      exact nomatch h
  | ok events =>
      rw [hproject] at h
      obtain rfl := Except.ok.inj h
      exact ⟨rfl, rfl⟩

theorem Resumable.poll {db : Db} (hnumbered : Numbered db) {s s' : Stream} (h : Resumable db s)
    {taken : Nat} (hpoll : s.poll db taken = .ok s') : Resumable db s' := by
  obtain ⟨hemitted, hcursor⟩ := poll_ok hpoll
  rw [h.rows] at hemitted hcursor
  dsimp only at hemitted hcursor
  rw [if_neg (by simp)] at hcursor
  generalize hreceived : (s.query.rowsAfter db (cursorEvent db s)).take taken = received
    at hemitted hcursor
  have hrow : ∀ e ∈ received, e ∈ s.query.rowsAfter db (cursorEvent db s) := by
    rw [← hreceived]
    exact fun e he => List.mem_of_mem_take he
  have hsorted : received.Pairwise fun a b => position a < position b := by
    rw [← hreceived]
    exact (rowsAfter_ordered hnumbered _ _).sublist (List.take_sublist _ _)
  -- The page begins after the row of the cursor, the last one emitted.
  have hafter : ∀ last ∈ s.emitted.getLast?, ∀ b ∈ received, position last < position b := by
    intro last hlast b hb
    have hmem : last ∈ db .invoiceEvents := h.logged last (List.mem_of_getLast? hlast)
    have hcursorRow : (cursorEvent db s).isSome = true := by
      unfold cursorEvent
      rw [h.last last hlast]
      exact List.find?_isSome.mpr ⟨last, hmem, decide_eq_true rfl⟩
    obtain ⟨row, hrowOf⟩ := Option.isSome_iff_exists.mp hcursorRow
    obtain ⟨hlogged, hid⟩ := mem_cursorEvent hrowOf
    rw [h.last last hlast] at hid
    obtain rfl := List.inj_on_of_nodup_map hnumbered.ids hmem hlogged (Option.some.inj hid)
    exact (after_cursor (hrow b hb)).2 last hrowOf
  constructor
  · rw [hemitted]
    intro e he
    rcases List.mem_append.mp he with hold | hnew
    · exact h.logged e hold
    · exact (mem_rowsAfter (hrow e hnew)).1
  · rw [hemitted]
    exact pairwise_append_page h.ordered hsorted hafter
  · intro e he
    rw [hemitted, List.getLast?_append] at he
    rw [hcursor]
    cases hlast : received.getLast? with
    | none =>
        rw [hlast, Option.none_or] at he
        rw [Option.map_none, Option.none_or]
        exact h.last e he
    | some last =>
        rw [hlast, Option.some_or] at he
        rw [Option.map_some, Option.some_or, Option.some.inj he]
  · intro id hid
    rw [hcursor] at hid
    cases hlast : received.getLast? with
    | none =>
        rw [hlast, Option.map_none, Option.none_or] at hid
        exact h.known id hid
    | some last =>
        rw [hlast, Option.map_some, Option.some_or] at hid
        have hmem := hrow last (List.mem_of_mem_getLast? hlast)
        rw [← Option.some.inj hid]
        exact ⟨last, (mem_rowsAfter hmem).1, rfl, (after_cursor hmem).1⟩

/-! ## What a step does to deliveries -/

/-- Deliveries last, and only a relay adds one: of an event whose row it takes. -/
structure Delivers (env : TxnEnv) (c : Call) (db db' : Db) : Prop where
  lasts : ∀ id, isDelivered db id = true → isDelivered db' id = true
  taken : ∀ id, isDelivered db' id = true → isDelivered db id = true ∨
    ∃ limit, c = .relayOutboxBatch limit ∧ ∃ o ∈ db .eventOutbox, o.eventId = id ∧
      o.id ∈ (relayBatch env limit (db .eventOutbox)).map EventOutbox.id ∧ o.state = .pending

theorem isDelivered_iff {db : Db} {id : Uuid} :
    isDelivered db id = true ↔ ∃ o ∈ db .eventOutbox, o.eventId = id ∧ o.state = .delivered := by
  unfold isDelivered
  rw [List.any_eq_true]
  simp only [decide_eq_true_eq]

/-- Pending rows deliver nothing. -/
theorem delivers_of_append {env : TxnEnv} {c : Call} {db db' : Db} (rows : List EventOutbox)
    (houtbox : db' .eventOutbox = db .eventOutbox ++ rows)
    (hpending : ∀ o ∈ rows, o.state = .pending) : Delivers env c db db' := by
  constructor
  · intro id h
    obtain ⟨o, ho, hid, hstate⟩ := isDelivered_iff.mp h
    refine isDelivered_iff.mpr ⟨o, ?_, hid, hstate⟩
    rw [houtbox]
    exact List.mem_append_left _ ho
  · intro id h
    obtain ⟨o, ho, hid, hstate⟩ := isDelivered_iff.mp h
    rw [houtbox] at ho
    rcases List.mem_append.mp ho with hold | hnew
    · exact Or.inl (isDelivered_iff.mpr ⟨o, hold, hid, hstate⟩)
    · rw [hpending o hnew] at hstate
      exact nomatch hstate

theorem pending_of_rows {events : List InvoiceEvent} {rows : List EventOutbox}
    (h : List.Forall₂ PendingRow events rows) : ∀ o ∈ rows, o.state = .pending := by
  induction h with
  | nil => exact fun o ho => absurd ho List.not_mem_nil
  | cons hrow _ ih =>
      intro o ho
      rcases List.mem_cons.mp ho with rfl | ho
      · exact hrow.2.1
      · exact ih o ho

theorem delivers_of_logStep {env : TxnEnv} {c : Call} {db db' : Db}
    (h : LogStep env c db db') : Delivers env c db db' := by
  cases h with
  | quiet hinvoices hlog houtbox =>
      refine delivers_of_append [] ?_ (fun o ho => absurd ho List.not_mem_nil)
      rw [houtbox, List.append_nil]
  | received invoice task event hevent hinvoice hreceives =>
      obtain ⟨o, ho, houtbox⟩ := hreceives.outbox
      refine delivers_of_append _ houtbox ?_
      intro o' ho'
      rw [List.mem_singleton.mp ho']
      exact ho.2.1
  | published invoiceId a events _ _ _ hemits =>
      obtain ⟨rows, houtbox, hpending⟩ := hemits.outbox
      exact delivers_of_append _ houtbox (pending_of_rows hpending)
  | relayed limit hc hinvoices hlog houtbox =>
      constructor
      · intro id hid
        obtain ⟨o, ho, hevent, hstate⟩ := isDelivered_iff.mp hid
        refine isDelivered_iff.mpr ⟨o, ?_, hevent, hstate⟩
        rw [houtbox]
        refine List.mem_map.mpr ⟨o, ho, if_neg ?_⟩
        intro htaken
        rw [hstate] at htaken
        exact nomatch htaken.2
      · intro id hid
        obtain ⟨o', ho', hevent, hstate⟩ := isDelivered_iff.mp hid
        rw [houtbox] at ho'
        obtain ⟨o, ho, rfl⟩ := List.mem_map.mp ho'
        by_cases htaken : o.id ∈ (relayBatch env limit (db .eventOutbox)).map EventOutbox.id ∧
            o.state = .pending
        · rw [if_pos htaken] at hevent
          exact Or.inr ⟨limit, hc, o, ho, hevent, htaken⟩
        · rw [if_neg htaken] at hevent hstate
          exact Or.inl (isDelivered_iff.mpr ⟨o, ho, hevent, hstate⟩)

/-- The log only grows. -/
theorem logged_of_logStep {env : TxnEnv} {c : Call} {db db' : Db} (h : LogStep env c db db')
    {e : InvoiceEvent} (he : e ∈ db .invoiceEvents) : e ∈ db' .invoiceEvents := by
  cases h with
  | quiet _ hlog _ =>
      rw [hlog]
      exact he
  | received _ _ _ _ _ hreceives =>
      rw [hreceives.log]
      exact List.mem_append_left _ he
  | published _ _ _ _ _ _ hemits =>
      rw [hemits.log]
      exact List.mem_append_left _ he
  | relayed _ _ _ hlog _ =>
      rw [hlog]
      exact he

theorem Resumable.kept {env : TxnEnv} {c : Call} {db db' : Db} (hstep : LogStep env c db db')
    {s : Stream} (h : Resumable db s) : Resumable db' s := by
  refine ⟨fun e he => logged_of_logStep hstep (h.logged e he), h.ordered, h.last, ?_⟩
  intro id hid
  obtain ⟨e, he, heid, hdelivered⟩ := h.known id hid
  exact ⟨e, logged_of_logStep hstep he, heid, (delivers_of_logStep hstep).lasts id hdelivered⟩

/-! ## The clocks of an invoice -/

/-- The events of an invoice occurred in the order of their numbers. -/
def Chronological (db : Db) : Prop :=
  ∀ e ∈ db .invoiceEvents, ∀ e' ∈ db .invoiceEvents, e.invoiceId = e'.invoiceId →
    e.sequence < e'.sequence → e.occurredAt ≤ e'.occurredAt

/-- The new events of a step come after those of their invoice: all at the time of the
transaction, under higher numbers. -/
theorem chronological_append {db db' : Db} (h : Chronological db) (now : Instant)
    {events : List InvoiceEvent} (hlog : db' .invoiceEvents = db .invoiceEvents ++ events)
    (hnow : ∀ e ∈ events, e.occurredAt = now)
    (hhigher : ∀ e' ∈ events, ∀ e ∈ db .invoiceEvents, e.invoiceId = e'.invoiceId →
      e.sequence < e'.sequence)
    (hlater : ∀ e' ∈ events, ∀ e ∈ db .invoiceEvents, e.invoiceId = e'.invoiceId →
      e.occurredAt ≤ now) : Chronological db' := by
  intro e he e' he' hinvoice hsequence
  rw [hlog, List.mem_append] at he he'
  rcases he with hold | hnew
  · rcases he' with hold' | hnew'
    · exact h e hold e' hold' hinvoice hsequence
    · rw [hnow e' hnew']
      exact hlater e' hnew' e hold hinvoice
  · rcases he' with hold' | hnew'
    · have hlow := hhigher e hnew e' hold' hinvoice.symm
      omega
    · rw [hnow e hnew, hnow e' hnew']

/-- An event's number is at most its invoice's. -/
theorem sequence_le {db : Db} (h : Numbered db) {i : Invoice} (hi : i ∈ db .invoices)
    {e : InvoiceEvent} (he : e ∈ db .invoiceEvents) (hinvoice : e.invoiceId = i.id) :
    e.sequence ≤ i.statusSequence := by
  have hmem : e.sequence ∈ (eventsOf db i.id).map InvoiceEvent.sequence :=
    List.mem_map_of_mem (List.mem_filter.mpr ⟨he, decide_eq_true hinvoice⟩)
  rw [h.numbers i hi, List.mem_range'_1] at hmem
  omega

theorem Chronological.step {env : TxnEnv} {c : Call} {db db' : Db} (hnumbered : Numbered db)
    (h : Chronological db) (hstep : LogStep env c db db')
    (hclock : ∀ e' ∈ db' .invoiceEvents, e'.id ∉ (db .invoiceEvents).map InvoiceEvent.id →
      ∀ e ∈ db .invoiceEvents, e.invoiceId = e'.invoiceId → e.occurredAt ≤ env.now) :
    Chronological db' := by
  have hsame (hlog : db' .invoiceEvents = db .invoiceEvents) : Chronological db' := by
    unfold Chronological
    rw [hlog]
    exact h
  cases hstep with
  | quiet _ hlog _ => exact hsame hlog
  | received invoice task event hevent hinvoice hreceives =>
      have hnone : ∀ e ∈ db .invoiceEvents, e.invoiceId ≠ event.invoiceId := by
        intro e he heq
        obtain ⟨i, hi, hid⟩ := hnumbered.known e he
        exact hreceives.newInvoice i hi (hid.trans (heq.trans hevent.1))
      refine chronological_append h env.now hreceives.log ?_ ?_ ?_
      · intro e he
        rw [List.mem_singleton.mp he]
        exact hevent.2.2.2
      · intro e' he' e he heq
        rw [List.mem_singleton.mp he'] at heq
        exact absurd heq (hnone e he)
      · intro e' he' e he heq
        rw [List.mem_singleton.mp he'] at heq
        exact absurd heq (hnone e he)
  | published invoiceId a events _ _ _ hemits =>
      obtain ⟨i, hfind, hnumbers⟩ := hemits.numbers
      obtain ⟨hi, hid⟩ := findInvoice_mem hfind
      refine chronological_append h env.now hemits.log (fun e he => (hemits.members e he).2) ?_ ?_
      · intro e' he' e he heq
        have hinvoice : e.invoiceId = i.id :=
          heq.trans ((hemits.members e' he').1.trans hid.symm)
        have hlow := sequence_le hnumbered hi he hinvoice
        have hhigh : e'.sequence ∈ events.map InvoiceEvent.sequence := List.mem_map_of_mem he'
        rw [hnumbers, List.mem_range'_1] at hhigh
        omega
      · intro e' he' e he heq
        have hnew : e'.id ∉ (db .invoiceEvents).map InvoiceEvent.id := by
          intro hold
          obtain ⟨old, hmem, hid⟩ := List.mem_map.mp hold
          exact hemits.fresh e' he' old hmem hid
        refine hclock e' ?_ hnew e he heq
        rw [hemits.log]
        exact List.mem_append_right _ he'
  | relayed _ _ _ hlog _ => exact hsame hlog

/-! ## Runs -/

/-- What a subscriber is promised of what it was sent: no event twice, and the events of an
invoice by their numbers. -/
structure InOrderOnce (s : Stream) : Prop where
  once : (s.emitted.map InvoiceEvent.id).Nodup
  ordered : s.emitted.Pairwise fun a b => a.invoiceId = b.invoiceId → a.sequence < b.sequence

/-- What it is promised of what is to come: an event that a step delivers is after its
cursor, or was sent to it. -/
def Lossless (w w' : World) (s : Stream) : Prop :=
  ∀ e ∈ w'.db .invoiceEvents, isDelivered w'.db e.id = true → isDelivered w.db e.id = false →
    ∀ cursor ∈ cursorEvent w.db s,
      (InvoiceEvent.cursorKey cursor).before (InvoiceEvent.cursorKey e) ∨ e ∈ s.emitted

theorem Resumable.inOrderOnce {db : Db} (hnumbered : Numbered db) (hclock : Chronological db)
    {s : Stream} (h : Resumable db s) : InOrderOnce s := by
  constructor
  · refine List.Nodup.map_on ?_ (nodup_of_pairwise_lt h.ordered)
    intro a ha b hb heq
    exact List.inj_on_of_nodup_map hnumbered.ids (h.logged a ha) (h.logged b hb) heq
  · refine h.ordered.imp_of_mem ?_
    intro a b ha hb hlt hinvoice
    have hbefore := (before_iff a b).mpr hlt
    unfold CursorKey.before InvoiceEvent.cursorKey at hbefore
    rcases hbefore with htime | ⟨_, hid | ⟨_, hsequence⟩⟩
    · rcases lt_trichotomy a.sequence b.sequence with hless | heq | hgreater
      · exact hless
      · have hsame := event_inj hnumbered (h.logged a ha) (h.logged b hb) hinvoice heq
        rw [hsame] at htime
        exact absurd htime (lt_irrefl _)
      · have hlate := hclock b (h.logged b hb) a (h.logged a ha) hinvoice.symm hgreater
        exact absurd htime (not_lt.mpr hlate)
    · dsimp only at hid
      rw [hinvoice] at hid
      exact absurd hid (lt_irrefl _)
    · exact hsequence

section Runs

variable [Sha256] [TzDatabase] [CharacterTables]

/-- A step that keeps the streams whole: a relay takes only events that are after every
event delivered before, a client resumes from an event that was delivered, and a
transaction writes an event of an invoice only if it did not start before the events of
the invoice occurred. -/
def InCursorOrder (w : World) (env : TxnEnv) (c : Call) : Prop :=
  (match c with
    | .relayOutboxBatch limit => ∀ o ∈ w.db .eventOutbox,
        o.id ∈ (relayBatch env limit (w.db .eventOutbox)).map EventOutbox.id → o.state = .pending →
        ∀ e ∈ w.db .invoiceEvents, e.id = o.eventId →
        ∀ e' ∈ w.db .invoiceEvents, isDelivered w.db e'.id = true →
          (InvoiceEvent.cursorKey e').before (InvoiceEvent.cursorKey e)
    | .connect lastEventId => lastEventId.all (isDelivered w.db) = true
    | _ => True) ∧
  ∀ e' ∈ (w.step env c).db .invoiceEvents,
    e'.id ∉ (w.db .invoiceEvents).map InvoiceEvent.id →
    ∀ e ∈ w.db .invoiceEvents, e.invoiceId = e'.invoiceId → e.occurredAt ≤ env.now

omit [Sha256] [TzDatabase] [CharacterTables] in
local instance lawfulUuid : LawfulBEq Uuid := inferInstance

instance (w : World) (env : TxnEnv) (c : Call) : Decidable (InCursorOrder w env c) := by
  unfold InCursorOrder
  induction c using Call.casesOn
  all_goals infer_instance

variable {w w' : World} {env : TxnEnv} {c : Call}

/-- What a step does to the streams: nothing, a connect, a reconnect, or a poll. -/
theorem streams_step (hstep : Transition w env c w') :
    w'.streams = w.streams ∨
      (∃ lastEventId, c = .connect lastEventId ∧
        w'.streams = w.streams ++ [{ cursor := lastEventId }]) ∨
      ∃ i s s', w.streams[i]? = some s ∧ w'.streams = w.streams.set i s' ∧
        (s' = s.reconnect ∨ ∃ taken, s.poll w.db taken = .ok s') ∧ w'.db = w.db := by
  cases hstep with
  | connected lastEventId => exact Or.inr (Or.inl ⟨lastEventId, rfl, rfl⟩)
  | reconnected i s hs => exact Or.inr (Or.inr ⟨i, s, _, hs, rfl, Or.inl rfl, rfl⟩)
  | polled i taken s s' hs hpoll =>
      exact Or.inr (Or.inr ⟨i, s, s', hs, rfl, Or.inr ⟨taken, hpoll⟩, rfl⟩)
  | sentSelected => exact Or.inl (send_inFlight _ _ _ _ _ _).2.2.2.2.1
  | approvedAndSent => exact Or.inl (send_inFlight _ _ _ _ _ _).2.2.2.2.1
  | _ => exact Or.inl rfl

omit [Sha256] [TzDatabase] [CharacterTables] in
/-- A delivered identifier is an event's. -/
theorem logged_of_delivered {db : Db} (h : Numbered db) {id : Uuid}
    (hid : isDelivered db id = true) : ∃ e ∈ db .invoiceEvents, e.id = id := by
  obtain ⟨o, ho, hevent, _⟩ := isDelivered_iff.mp hid
  have hmem : o.eventId ∈ (db .invoiceEvents).map InvoiceEvent.id := by
    rw [← h.outbox]
    exact List.mem_map_of_mem ho
  obtain ⟨e, he, heid⟩ := List.mem_map.mp hmem
  exact ⟨e, he, heid.trans hevent⟩

/-- Every stream can resume, and the clocks of every invoice are in order. -/
structure Followed (w : World) : Prop where
  streams : ∀ s ∈ w.streams, Resumable w.db s
  clocks : Chronological w.db

theorem Followed.step (hnumbered : Numbered w.db) (h : Followed w) (hc : InCursorOrder w env c) :
    Followed (w.step env c) := by
  have hstep := step_transition w env c
  have hlog := logStep_of_transition hstep
  refine ⟨?_, h.clocks.step hnumbered hlog hc.2⟩
  rcases streams_step hstep with hsame | ⟨lastEventId, rfl, hconnected⟩ |
    ⟨i, s, s', hs, hset, hs', hdb⟩
  · rw [hsame]
    exact fun s hs => (h.streams s hs).kept hlog
  · rw [hconnected]
    intro s hs
    rcases List.mem_append.mp hs with hold | hnew
    · exact (h.streams s hold).kept hlog
    · rw [List.mem_singleton.mp hnew]
      refine Resumable.kept hlog ⟨?_, List.Pairwise.nil, ?_, ?_⟩
      · exact fun e he => absurd he List.not_mem_nil
      · exact fun e he => nomatch he
      · intro id hid
        have hdelivered : isDelivered w.db id = true := by
          have hall : lastEventId.all (isDelivered w.db) = true := hc.1
          rw [show lastEventId = some id from hid] at hall
          exact hall
        obtain ⟨e, he, heid⟩ := logged_of_delivered hnumbered hdelivered
        exact ⟨e, he, heid, hdelivered⟩
  · have hresumable := h.streams s (List.mem_of_getElem? hs)
    rw [hset, hdb]
    intro other hother
    rcases List.mem_or_eq_of_mem_set hother with hold | rfl
    · exact h.streams other hold
    · rcases hs' with rfl | ⟨taken, hpoll⟩
      · exact ⟨hresumable.logged, hresumable.ordered, hresumable.last, hresumable.known⟩
      · exact hresumable.poll hnumbered hpoll

theorem followed_of_run (h : Run InCursorOrder w) : Followed w := by
  induction h with
  | start =>
      refine ⟨fun s hs => absurd hs List.not_mem_nil, ?_⟩
      exact fun e he => absurd he List.not_mem_nil
  | step env c hrun hc ih => exact ih.step (numbered_of_run hrun) hc

/-- An event that a step in order delivers is after the cursor of every stream. -/
theorem Followed.lossless (h : Followed w) (hc : InCursorOrder w env c) {s : Stream}
    (hs : s ∈ w.streams) : Lossless w (w.step env c) s := by
  intro e he hdelivered hbefore cursor hcursor
  have hlog := logStep_of_transition (step_transition w env c)
  left
  rcases (delivers_of_logStep hlog).taken e.id hdelivered with hold |
    ⟨limit, rfl, o, ho, hid, htaken⟩
  · rw [hold] at hbefore
    exact nomatch hbefore
  · obtain ⟨hmem, hnamed⟩ := mem_cursorEvent hcursor
    obtain ⟨known, hknown, hknownId, hold⟩ := (h.streams s hs).known cursor.id hnamed
    have hsame : e ∈ w.db .invoiceEvents := by
      rw [← table_frame (step_transition w env (.relayOutboxBatch limit)) (t := .invoiceEvents) rfl]
      exact he
    exact hc.1 o ho htaken.1 htaken.2 e hsame hid.symm cursor hmem hold

/-- In every run whose relays deliver in cursor order, whose clients resume from delivered
events and whose transactions on an invoice start in order, a stream receives no event
twice and the events of an invoice by their numbers, and no event is ever delivered
behind its cursor. -/
theorem streams_lossless (h : Run InCursorOrder w) :
    ∀ s ∈ w.streams, InOrderOnce s ∧
      ∀ env c, InCursorOrder w env c → Lossless w (w.step env c) s := by
  intro s hs
  have hfollowed := followed_of_run h
  refine ⟨(hfollowed.streams s hs).inOrderOnce (numbered_of_run h) hfollowed.clocks, ?_⟩
  exact fun env c hc => hfollowed.lossless hc hs

end Runs

/-! ## A case -/

section Case

open Sample

local instance caseDigest : Sha256 := Sha256.standard
local instance caseZone : TzDatabase := zone
local instance caseTables : CharacterTables := ascii

/-- A relay of all that is pending. -/
def relayed : Script := [always (.relayOutboxBatch 200)]

/-- A client that has the event of the receipt connects again. -/
def resumed : Script := [always (.connect (some ((env 3).uuid 1)))]

/-- The receipt of another invoice. -/
def otherReceipt : FinalizeReceipt :=
  ⟨"k2", "h2", 7, "b.pdf", "application/pdf", ⟨"b", "invoices/b.pdf", "v1", "00fe", 10⟩, none,
    "clerk"⟩

/-- Its steps. -/
def receivedOther : Script :=
  [always (.reserveIngestion "k2" "h2"),
   always (.recordSourceStored "k2" "h2" otherReceipt.storedSource),
   always (.finalizeReceivedInvoice otherReceipt)]

/-- One client starts over, another resumes from the first receipt, and the second receipt is
delivered to both. -/
def followedCase : Script :=
  received ++ relayed ++ [always (.connect none)] ++ resumed ++ receivedOther ++ relayed

theorem streams_lossless_followed : Run InCursorOrder (play World.initial 1 followedCase) ∧
    ∀ s ∈ (play World.initial 1 followedCase).streams, InOrderOnce s ∧
      ∀ env c, InCursorOrder (play World.initial 1 followedCase) env c →
        Lossless (play World.initial 1 followedCase)
          ((play World.initial 1 followedCase).step env c) s := by
  have hrun : Run InCursorOrder (play World.initial 1 followedCase) :=
    run_of_plays followedCase .start (by decide +kernel)
  exact ⟨hrun, streams_lossless hrun⟩

/-- A transaction that started in the first second and commits in the tenth. -/
def slow : TxnEnv := { env 10 with now := (env 1).now }

/-- A client has resumed from the receipt of the first invoice when that of the other one
commits, in a transaction that started before. -/
def overtaken : World :=
  (play World.initial 1 (received ++ relayed ++ resumed ++
    [always (.reserveIngestion "k2" "h2"),
      always (.recordSourceStored "k2" "h2" otherReceipt.storedSource)])).step slow
    (.finalizeReceivedInvoice otherReceipt)

instance (w w' : World) (s : Stream) : Decidable (Lossless w w' s) := by
  unfold Lossless
  infer_instance

theorem late_event_skipped :
    Run (fun _ _ _ => True) overtaken ∧ ∃ s ∈ overtaken.streams,
      ¬ Lossless overtaken (overtaken.step (env 11) (.relayOutboxBatch 200)) s :=
  ⟨.step slow _ (run_play _ _ _) trivial, by decide +kernel⟩

end Case

end Tally.Analysis.Streams
