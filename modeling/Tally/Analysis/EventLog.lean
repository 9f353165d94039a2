import Tally.Analysis.Frames

/-!
# The event log

What a call does to the invoice rows, the public events and the outbox: nothing, a
received invoice with its first event, an advance of one invoice with the events
numbered on from its row, or a relay of outbox rows. Every run keeps the numbers of an
invoice gapless, gives each event one outbox row, and leaves the invoice with the
status of its last event.
-/

set_option autoImplicit false

namespace Tally.Analysis.EventLog
open Library Library.Calendar Tally.Model IntakeRepository IntakeTasks ReconstructionRepository
  ApplicableRuleRepository JudgmentRepository AccessEvidenceRepository AuthoritySealRepository
  CorrespondenceRepository IntakeEvents Effects
open Library.Schema (SameExcept)

/-! ## What a call publishes -/

/-- The intake state a call writes to the invoice it advances. -/
def intakeStateOf : Call → IntakeState
  | .claimExtraction _ _ => .initialProcessing
  | .completeExtraction _ validation => extractedState validation
  | .failExtraction lease errorCode retryable =>
    failedState lease.toLeaseKey errorCode retryable
  | .retryExtraction _ _ _ _ _ => .received
  | _ => .readyForReconstruction

/-- How often a call locks and advances its invoice: a completed reconstruction does so
for its completion event and again for its coverage event. -/
def advancesOf : Call → Nat
  | .completeReconstruction _ _ => 2
  | _ => 1

/-- What a call does to the invoices, their events and the outbox. -/
inductive LogStep (env : TxnEnv) (c : Call) (db db' : Db) : Prop
  | quiet (hinvoices : db' .invoices = db .invoices) (hlog : db' .invoiceEvents = db .invoiceEvents)
      (houtbox : db' .eventOutbox = db .eventOutbox)
  | received (invoice : Invoice) (task : WorkflowTask) (event : InvoiceEvent)
      (hevent : event.invoiceId = invoice.id ∧ event.sequence = 1 ∧
        event.aggregateStatus = invoice.aggregateStatus ∧ event.occurredAt = env.now)
      (hinvoice : invoice.statusSequence = 1 ∧ invoice.intakeState = .received ∧
        invoice.activeClaimSetVersion = none)
      (h : Receives env invoice task event db db')
  | published (invoiceId : Uuid) (a : Advance) (events : List InvoiceEvent) (hsome : events ≠ [])
      (ha : a.intakeState = intakeStateOf c ∧ a.locks = advancesOf c)
      (hactive : ∀ v ∈ a.activeClaimSetVersion, ∃ s ∈ db' .claimSets, s.claimSetVersion = v)
      (h : Emits env invoiceId a events db db')
  | relayed (limit : Nat) (hc : c = .relayOutboxBatch limit)
      (hinvoices : db' .invoices = db .invoices) (hlog : db' .invoiceEvents = db .invoiceEvents)
      (houtbox : db' .eventOutbox = (db .eventOutbox).map fun o =>
        if o.id ∈ (relayBatch env limit (db .eventOutbox)).map EventOutbox.id ∧ o.state = .pending
        then { o with state := .delivered, deliveryCount := o.deliveryCount + 1 } else o)

section Transitions

variable [Sha256] [TzDatabase] [CharacterTables] {w w' : World} {env : TxnEnv} {c : Call}

omit [Sha256] [TzDatabase] [CharacterTables] in
theorem quiet_of_same {tables : List Table} {db db' : Db} (h : SameExcept tables db db')
    (htables : ∀ t ∈ emitTables, t ∉ tables) : LogStep env c db db' :=
  .quiet (h _ (htables _ (by decide))) (h _ (htables _ (by decide))) (h _ (htables _ (by decide)))

omit [TzDatabase] [CharacterTables] in
theorem sent_logStep {request : SendRequest} {gateChecks : List (Gate × GateCheck)}
    {fail : Bool} {fate : Fate} (hstate : intakeStateOf c = .readyForReconstruction)
    (hadvances : advancesOf c = 1) :
    LogStep env c w.db (w.send env request gateChecks fail fate).1.db := by
  rcases send_cases w env request gateChecks fail fate with heq | ⟨r, db, _, _, hsends, heq⟩
  · rw [heq]
    exact .quiet rfl rfl rfl
  · rw [heq]
    cases hsends with
    | replayed => exact .quiet rfl rfl rfl
    | blocked _ _ _ _ _ _ hemits =>
        obtain ⟨_, _, hemits⟩ := hemits
        refine .published _ _ _ (List.cons_ne_nil _ _) ⟨hstate.symm, hadvances.symm⟩ ?_ hemits
        exact fun v hv => absurd hv (Option.not_mem_none v)
    | replied _ _ _ _ _ _ _ hemits =>
        obtain ⟨_, _, hemits⟩ := hemits
        refine .published _ _ _ (List.cons_ne_nil _ _) ⟨hstate.symm, hadvances.symm⟩ ?_ hemits
        exact fun v hv => absurd hv (Option.not_mem_none v)

theorem logStep_of_transition (hstep : Transition w env c w') : LogStep env c w.db w'.db := by
  have hone {invoiceId : Uuid} {a : Advance} {e : InvoiceEvent} {db : Db}
      (h : Emits env invoiceId a [e] w.db db)
      (ha : a.intakeState = intakeStateOf c ∧ a.locks = advancesOf c ∧
        a.activeClaimSetVersion = none) : LogStep env c w.db db := by
    refine .published invoiceId a [e] (List.cons_ne_nil _ _) ⟨ha.1, ha.2.1⟩ ?_ h
    rw [ha.2.2]
    exact nofun
  have hquiet {q : World} (h : q.db = w.db) : LogStep env c w.db q.db := by
    rw [h]
    exact .quiet rfl rfl rfl
  cases hstep with
  | refused => exact hquiet rfl
  | peripheral _ db hsame => exact quiet_of_same hsame (by decide)
  | finalized command r db hok =>
      rcases (finalizeReceivedInvoice_ok hok).2 with rfl | ⟨invoiceId, sourceId, hreceives⟩
      · exact hquiet rfl
      · exact .received _ _ _ ⟨rfl, rfl, rfl, rfl⟩ ⟨rfl, rfl, rfl⟩ hreceives
  | claimedExtraction _ _ r db hok =>
      obtain ⟨_, ⟨rfl, rfl⟩ | ⟨lease, t, _, rfl, _, _, _, hemits⟩⟩ := claimNextExtractionTask_ok hok
      · exact hquiet rfl
      · exact hone hemits ⟨rfl, rfl, rfl⟩
  | completedExtraction lease validation r db _ hok =>
      obtain ⟨_, _, _, s, _, sequence, _, _, _, _, _, _, hsets, _, _, hemits⟩ :=
        completeExtraction_ok hok
      refine .published _ _ _ ?_ ⟨rfl, rfl⟩ ?_ hemits
      · unfold extractionEvents
        dsimp only
        split <;> exact List.cons_ne_nil _ _
      · intro v hv
        refine ⟨s, ?_, Option.some.inj hv⟩
        show s ∈ db .claimSets
        rw [hsets]
        exact List.mem_append_right _ (List.mem_singleton_self _)
  | failedExtraction _ _ _ r db _ hok =>
      obtain ⟨_, _, _, _, _, hemits⟩ := failExtraction_ok hok
      exact hone hemits ⟨rfl, rfl, rfl⟩
  | retried _ _ _ _ _ r db hok =>
      rcases (retryExtractionTask_ok hok).2 with ⟨rfl, _⟩ | ⟨_, previous, task, _, hretries⟩
      · exact hquiet rfl
      · exact hone hretries.emits ⟨rfl, rfl, rfl⟩
  | claimedReconstruction _ _ r db hok =>
      obtain ⟨_, ⟨rfl, rfl⟩ | ⟨lease, t, _, rfl, _, _, _, _, _, hemits⟩⟩ :=
        claimNextReconstructionTask_ok hok
      · exact hquiet rfl
      · exact hone hemits ⟨rfl, rfl, rfl⟩
  | completedReconstruction _ _ work r db _ _ hok =>
      obtain ⟨_, _, _, _, ⟨_, hsame⟩ | ⟨_, hreconstructs⟩⟩ := completeReconstruction_ok hok
      · exact quiet_of_same hsame (by decide)
      · obtain ⟨_, _, hemits⟩ := hreconstructs.emits
        refine .published _ _ _ (List.cons_ne_nil _ _) ⟨rfl, rfl⟩ ?_ hemits
        exact fun v hv => absurd hv (Option.not_mem_none v)
  | failedReconstruction _ _ _ r db _ hok =>
      obtain ⟨_, _, _, _, _, hemits⟩ := failReconstruction_ok hok
      exact hone hemits ⟨rfl, rfl, rfl⟩
  | claimedRule _ _ r db hok =>
      obtain ⟨_, ⟨rfl, rfl⟩ | ⟨lease, t, _, rfl, _, _, _, _, hemits⟩⟩ := claimNextRuleTask_ok hok
      · exact hquiet rfl
      · exact hone hemits ⟨rfl, rfl, rfl⟩
  | completedRule _ _ _ _ r db _ hok =>
      obtain ⟨_, _, _, _, ⟨_, hsame, _⟩ | hsearch⟩ := completeRule_ok hok
      · exact quiet_of_same hsame (by decide)
      · obtain ⟨_, _, _, hemits⟩ := hsearch.emits
        exact hone hemits ⟨rfl, rfl, rfl⟩
  | failedRule _ _ _ r db _ hok =>
      obtain ⟨_, _, _, _, _, hemits⟩ := failRule_ok hok
      exact hone hemits ⟨rfl, rfl, rfl⟩
  | claimedJudgment _ _ r db hok =>
      exact quiet_of_same (claimNextJudgmentTask_ok hok).1 (by decide)
  | loadedDayInputs => exact hquiet rfl
  | completedJudgment _ _ r db _ _ hok =>
      obtain ⟨_, _, _, _, ⟨_, hsame, _⟩ | ⟨_, _, hjudges⟩⟩ := completeJudgment_ok hok
      · exact quiet_of_same hsame (by decide)
      · obtain ⟨_, hemits⟩ := hjudges.emits
        exact hone hemits ⟨rfl, rfl, rfl⟩
  | failedJudgment _ r db _ hok => exact quiet_of_same (failJudgment_ok hok).1 (by decide)
  | claimedAccessEvidence _ _ r db hok =>
      exact quiet_of_same (claimNextAccessEvidenceTask_ok hok).1 (by decide)
  | completedAccessBinding _ r db _ hok =>
      obtain ⟨_, _, _, _, _, ⟨_, _, hsame, _⟩ | ⟨_, hresumes⟩⟩ := completeAccessBinding_ok hok
      · exact quiet_of_same hsame (by decide)
      · obtain ⟨_, hemits⟩ := hresumes.emits
        exact hone hemits ⟨rfl, rfl, rfl⟩
  | releasedAccessEvidence _ r db hok =>
      exact quiet_of_same (releaseAccessEvidence_ok hok).2 (by decide)
  | approvedAndSealed _ r db hok =>
      obtain ⟨_, _, _, _, ⟨rfl, _⟩ | ⟨_, _, _, hseals, _⟩⟩ := approveAndSeal_ok hok
      · exact hquiet rfl
      · obtain ⟨_, hemits⟩ := hseals.emits
        exact hone hemits ⟨rfl, rfl, rfl⟩
  | loadedPack _ pack db hok =>
      obtain ⟨rfl, _⟩ := loadSealedFactPack_ok hok
      exact .quiet rfl rfl rfl
  | drafted _ _ r db _ hok =>
      rcases draftFromSealed_ok hok with ⟨rfl, _⟩ | ⟨d, _, _, _, _, rfl⟩
      · exact hquiet rfl
      · have hsame : SameExcept [.correspondenceDrafts] w.db _ :=
          Schema.sameExcept_modify w.db (by simp) (· ++ [d])
        exact quiet_of_same hsame (by decide)
  | selectedSend => exact hquiet rfl
  | sentSelected => exact sent_logStep rfl rfl
  | approvedAndSent => exact sent_logStep rfl rfl
  | relayed limit n db hok =>
      obtain ⟨houtbox, hsame⟩ := relayOutboxBatch_ok hok
      exact .relayed limit rfl (hsame _ (by decide)) (hsame _ (by decide)) houtbox
  | connected => exact hquiet rfl
  | reconnected => exact hquiet rfl
  | polled => exact hquiet rfl

end Transitions

/-! ## The invariant -/

/-- The events of an invoice in the order of their insertion. -/
def eventsOf (db : Db) (invoiceId : Uuid) : List InvoiceEvent :=
  (db .invoiceEvents).filter fun e => e.invoiceId = invoiceId

/-- Events are those of invoices, numbered from one without a gap, each with one outbox
row, and an invoice has the status of its last event. -/
structure Numbered (db : Db) : Prop where
  invoices : ((db .invoices).map Invoice.id).Nodup
  known : ∀ e ∈ db .invoiceEvents, ∃ i ∈ db .invoices, i.id = e.invoiceId
  numbers : ∀ i ∈ db .invoices,
    (eventsOf db i.id).map InvoiceEvent.sequence = List.range' 1 i.statusSequence
  status : ∀ i ∈ db .invoices,
    (eventsOf db i.id).getLast?.map InvoiceEvent.aggregateStatus = some i.aggregateStatus
  ids : ((db .invoiceEvents).map InvoiceEvent.id).Nodup
  outbox : (db .eventOutbox).map EventOutbox.eventId = (db .invoiceEvents).map InvoiceEvent.id

theorem Numbered.of_same {db db' : Db} (h : Numbered db) (hinvoices : db' .invoices = db .invoices)
    (hlog : db' .invoiceEvents = db .invoiceEvents)
    (houtbox : (db' .eventOutbox).map EventOutbox.eventId =
      (db .eventOutbox).map EventOutbox.eventId) : Numbered db' := by
  have hevents (id : Uuid) : eventsOf db' id = eventsOf db id := by
    unfold eventsOf
    rw [hlog]
  constructor
  · rw [hinvoices]
    exact h.invoices
  · rw [hinvoices, hlog]
    exact h.known
  · intro i hi
    rw [hinvoices] at hi
    rw [hevents]
    exact h.numbers i hi
  · intro i hi
    rw [hinvoices] at hi
    rw [hevents]
    exact h.status i hi
  · rw [hlog]
    exact h.ids
  · rw [houtbox, hlog]
    exact h.outbox

theorem Numbered.received {env : TxnEnv} {db db' : Db} (h : Numbered db) {invoice : Invoice}
    {task : WorkflowTask} {event : InvoiceEvent}
    (hevent : event.invoiceId = invoice.id ∧ event.sequence = 1 ∧
      event.aggregateStatus = invoice.aggregateStatus)
    (hsequence : invoice.statusSequence = 1) (hreceives : Receives env invoice task event db db') :
    Numbered db' := by
  have hnone : eventsOf db invoice.id = [] := by
    unfold eventsOf
    rw [List.filter_eq_nil_iff]
    intro e he hid
    obtain ⟨i, hi, hie⟩ := h.known e he
    exact hreceives.newInvoice i hi (hie.trans (of_decide_eq_true hid))
  have hown : eventsOf db' invoice.id = [event] := by
    unfold eventsOf at hnone ⊢
    rw [hreceives.log, List.filter_append, hnone]
    simp [hevent.1]
  have hothers : ∀ i ∈ db .invoices, eventsOf db' i.id = eventsOf db i.id := by
    intro i hi
    have hne : event.invoiceId ≠ i.id := fun heq =>
      hreceives.newInvoice i hi (heq.symm.trans hevent.1)
    unfold eventsOf
    rw [hreceives.log, List.filter_append]
    simp [hne]
  constructor
  · rw [hreceives.invoices, List.map_append, List.nodup_append]
    refine ⟨h.invoices, List.nodup_singleton _, ?_⟩
    intro a ha b hb
    obtain ⟨i, hi, rfl⟩ := List.mem_map.mp ha
    rw [List.map_singleton, List.mem_singleton] at hb
    rw [hb]
    exact hreceives.newInvoice i hi
  · rw [hreceives.invoices, hreceives.log]
    intro e he
    rcases List.mem_append.mp he with hold | hnew
    · obtain ⟨i, hi, hid⟩ := h.known e hold
      exact ⟨i, List.mem_append_left _ hi, hid⟩
    · rw [List.mem_singleton.mp hnew]
      exact ⟨invoice, List.mem_append_right _ (List.mem_singleton_self _), hevent.1.symm⟩
  · rw [hreceives.invoices]
    intro i hi
    rcases List.mem_append.mp hi with hold | hnew
    · rw [hothers i hold]
      exact h.numbers i hold
    · rw [List.mem_singleton.mp hnew, hown, hsequence]
      simp [hevent.2.1]
  · rw [hreceives.invoices]
    intro i hi
    rcases List.mem_append.mp hi with hold | hnew
    · rw [hothers i hold]
      exact h.status i hold
    · rw [List.mem_singleton.mp hnew, hown]
      simp [hevent.2.2]
  · rw [hreceives.log, List.map_append, List.nodup_append]
    refine ⟨h.ids, List.nodup_singleton _, ?_⟩
    intro a ha b hb
    obtain ⟨e, he, rfl⟩ := List.mem_map.mp ha
    rw [List.map_singleton, List.mem_singleton] at hb
    rw [hb]
    exact hreceives.newEvent e he
  · obtain ⟨o, ho, houtbox⟩ := hreceives.outbox
    rw [houtbox, hreceives.log, List.map_append, List.map_append, h.outbox, List.map_singleton,
      List.map_singleton, ho.1]

/-- The outbox rows of new events are theirs in order. -/
theorem eventIds_of_pending {events : List InvoiceEvent} {rows : List EventOutbox}
    (h : List.Forall₂ PendingRow events rows) :
    rows.map EventOutbox.eventId = events.map InvoiceEvent.id := by
  induction h with
  | nil => rfl
  | cons hrow _ ih => rw [List.map_cons, List.map_cons, hrow.1, ih]

theorem Numbered.published {env : TxnEnv} {db db' : Db} (h : Numbered db) {invoiceId : Uuid}
    {a : Advance} {events : List InvoiceEvent} (hemits : Emits env invoiceId a events db db') :
    Numbered db' := by
  obtain ⟨i₀, hfind, hnumbers⟩ := hemits.numbers
  obtain ⟨hmem₀, hid₀⟩ := findInvoice_mem hfind
  have hown : ∀ id, eventsOf db' id = eventsOf db id ++ if id = invoiceId then events else [] := by
    intro id
    unfold eventsOf
    rw [hemits.log, List.filter_append]
    congr 1
    by_cases hid : id = invoiceId
    · rw [if_pos hid, List.filter_eq_self]
      intro e he
      exact decide_eq_true ((hemits.members e he).1.trans hid.symm)
    · rw [if_neg hid, List.filter_eq_nil_iff]
      intro e he heq
      exact hid ((of_decide_eq_true heq).symm.trans (hemits.members e he).1)
  have hone : ∀ i ∈ db .invoices, i.id = invoiceId → i = i₀ := fun i hi hid =>
    List.inj_on_of_nodup_map h.invoices hi hmem₀ (hid.trans hid₀.symm)
  constructor
  · rw [hemits.invoices, List.map_map]
    have hids : (Invoice.id ∘ advanceInvoice invoiceId a events) = Invoice.id := by
      funext i
      exact advanceInvoice_id invoiceId a events i
    rw [hids]
    exact h.invoices
  · rw [hemits.invoices, hemits.log]
    intro e he
    have hknown : ∃ i ∈ db .invoices, i.id = e.invoiceId := by
      rcases List.mem_append.mp he with hold | hnew
      · exact h.known e hold
      · exact ⟨i₀, hmem₀, hid₀.trans (hemits.members e hnew).1.symm⟩
    obtain ⟨i, hi, hid⟩ := hknown
    exact ⟨_, List.mem_map_of_mem hi, (advanceInvoice_id _ _ _ i).trans hid⟩
  · rw [hemits.invoices]
    intro i' hi'
    obtain ⟨i, hi, rfl⟩ := List.mem_map.mp hi'
    rw [advanceInvoice_id, hown, List.map_append, h.numbers i hi]
    unfold advanceInvoice
    by_cases hid : i.id = invoiceId
    · obtain rfl := hone i hi hid
      rw [if_pos hid, if_pos hid, hnumbers, Nat.add_comm _ 1]
      exact List.range'_append_1
    · rw [if_neg hid, if_neg hid, List.map_nil, List.append_nil]
  · rw [hemits.invoices]
    intro i' hi'
    obtain ⟨i, hi, rfl⟩ := List.mem_map.mp hi'
    rw [advanceInvoice_id, hown]
    unfold advanceInvoice
    by_cases hid : i.id = invoiceId
    · rw [if_pos hid, if_pos hid, List.getLast?_append]
      have hstatus := h.status i hi
      unfold statusAfter
      cases events.getLast? with
      | none => simpa using hstatus
      | some e => rfl
    · rw [if_neg hid, if_neg hid, List.append_nil]
      exact h.status i hi
  · rw [hemits.log, List.map_append, List.nodup_append]
    refine ⟨h.ids, hemits.distinct, ?_⟩
    intro x hx y hy
    obtain ⟨e, he, rfl⟩ := List.mem_map.mp hx
    obtain ⟨e', he', rfl⟩ := List.mem_map.mp hy
    exact hemits.fresh e' he' e he
  · obtain ⟨rows, houtbox, hpending⟩ := hemits.outbox
    rw [houtbox, hemits.log, List.map_append, List.map_append, h.outbox,
      eventIds_of_pending hpending]

/-- Every call keeps the log in order. -/
theorem Numbered.step {env : TxnEnv} {c : Call} {db db' : Db} (h : Numbered db)
    (hstep : LogStep env c db db') : Numbered db' := by
  cases hstep with
  | quiet hinvoices hlog houtbox => exact h.of_same hinvoices hlog (by rw [houtbox])
  | received invoice task event hevent hinvoice hreceives =>
      exact h.received ⟨hevent.1, hevent.2.1, hevent.2.2.1⟩ hinvoice.1 hreceives
  | published invoiceId a events _ _ _ hemits => exact h.published hemits
  | relayed limit _ hinvoices hlog houtbox =>
      refine h.of_same hinvoices hlog ?_
      rw [houtbox, List.map_map]
      refine List.map_congr_left fun o _ => ?_
      dsimp only [Function.comp_apply]
      split <;> rfl

theorem numbered_initial : Numbered Db.empty := by
  refine ⟨List.nodup_nil, ?_, ?_, ?_, List.nodup_nil, rfl⟩
  all_goals exact fun _ h => absurd h List.not_mem_nil

/-! ## Runs -/

/-- The number of an invoice's last event is the highest. -/
theorem Numbered.last {db : Db} (h : Numbered db) {i : Invoice} (hi : i ∈ db .invoices) :
    ∃ e ∈ eventsOf db i.id, e.sequence = i.statusSequence ∧
      e.aggregateStatus = i.aggregateStatus ∧
      ∀ e' ∈ eventsOf db i.id, e'.sequence ≤ e.sequence := by
  have hnumbers := h.numbers i hi
  have hstatus := h.status i hi
  obtain ⟨e, he, hagrees⟩ := Option.map_eq_some_iff.mp hstatus
  obtain ⟨before, hevents⟩ := List.getLast?_eq_some_iff.mp he
  have hlength : i.statusSequence = before.length + 1 := by
    have hlen := congrArg List.length hnumbers
    rw [hevents] at hlen
    simp only [List.length_map, List.length_append, List.length_cons, List.length_nil,
      List.length_range'] at hlen
    omega
  have hsequence : e.sequence = i.statusSequence := by
    rw [hevents, hlength, List.range'_concat, List.map_append] at hnumbers
    have hlast := List.append_inj_right' hnumbers rfl
    simp only [List.map_cons, List.map_nil, List.cons.injEq, and_true] at hlast
    omega
  refine ⟨e, List.mem_of_getLast? he, hsequence, hagrees, ?_⟩
  intro e' he'
  have hmem : e'.sequence ∈ (eventsOf db i.id).map InvoiceEvent.sequence := List.mem_map_of_mem he'
  rw [hnumbers, List.mem_range'_1] at hmem
  omega

/-- An event has the one outbox row with its identifier. -/
theorem Numbered.outboxRow {db : Db} (h : Numbered db) {e : InvoiceEvent}
    (he : e ∈ db .invoiceEvents) :
    ∃ o, (db .eventOutbox).filter (fun o => o.eventId = e.id) = [o] := by
  have hmem : e.id ∈ (db .eventOutbox).map EventOutbox.eventId := by
    rw [h.outbox]
    exact List.mem_map_of_mem he
  obtain ⟨o, ho, hid⟩ := List.mem_map.mp hmem
  have hnodup : ((db .eventOutbox).map EventOutbox.eventId).Nodup := by
    rw [h.outbox]
    exact h.ids
  refine ⟨o, ?_⟩
  have hone : (db .eventOutbox).filter (fun o' => o'.eventId = e.id) =
      (db .eventOutbox).filter (fun o' => o' = o) := by
    refine List.filter_congr fun o' ho' => ?_
    rw [decide_eq_decide]
    constructor
    · intro heq
      exact List.inj_on_of_nodup_map hnodup ho' ho (heq.trans hid.symm)
    · rintro rfl
      exact hid
  have hrows : (db .eventOutbox).Nodup := hnodup.of_map _
  rw [hone, List.filter_eq, List.count_eq_one_of_mem hrows ho, List.replicate_one]

section Runs

variable [Sha256] [TzDatabase] [CharacterTables]

theorem numbered_of_run {allowed : World → TxnEnv → Call → Prop} {w : World} (h : Run allowed w) :
    Numbered w.db :=
  h.invariant (fun w => Numbered w.db) numbered_initial
    fun _ _ _ _ hinv _ hstep => hinv.step (logStep_of_transition hstep)

omit [Sha256] [TzDatabase] [CharacterTables] in
/-- What a call does to an invoice row: nothing, or its advances, each of which adds one
to the row version and all of which together number the new events. -/
theorem row_of_logStep {env : TxnEnv} {c : Call} {db db' : Db} (hstep : LogStep env c db db')
    {i : Invoice} (hi : i ∈ db .invoices) :
    ∃ i' ∈ db' .invoices, i'.id = i.id ∧
      (i' = i ∨ (i'.rowVersion = i.rowVersion + advancesOf c ∧
        i'.statusSequence + (eventsOf db i.id).length =
          i.statusSequence + (eventsOf db' i.id).length)) := by
  cases hstep with
  | quiet hinvoices hlog houtbox => exact ⟨i, hinvoices ▸ hi, rfl, Or.inl rfl⟩
  | received invoice task event hevent hinvoice hreceives =>
      refine ⟨i, ?_, rfl, Or.inl rfl⟩
      rw [hreceives.invoices]
      exact List.mem_append_left _ hi
  | published invoiceId a events _ ha _ hemits =>
      refine ⟨advanceInvoice invoiceId a events i, ?_, advanceInvoice_id _ _ _ i, ?_⟩
      · rw [hemits.invoices]
        exact List.mem_map_of_mem hi
      · unfold advanceInvoice
        split
        · rename_i hid
          have hevents : eventsOf db' i.id = eventsOf db i.id ++ events := by
            unfold eventsOf
            rw [hemits.log, List.filter_append]
            congr 1
            rw [List.filter_eq_self]
            exact fun e he => decide_eq_true ((hemits.members e he).1.trans hid.symm)
          refine Or.inr ⟨?_, ?_⟩
          · rw [ha.2]
          · rw [hevents, List.length_append]
            dsimp only
            omega
        · exact Or.inl rfl
  | relayed limit _ hinvoices hlog houtbox => exact ⟨i, hinvoices ▸ hi, rfl, Or.inl rfl⟩

omit [Sha256] [TzDatabase] [CharacterTables] in
/-- One advance adds one to the version of its row. -/
theorem rowVersion_of_advance {invoiceId : Uuid} {intakeState : IntakeState}
    {status : InvoiceStatus} {count : Nat} {active : Option Nat} {sequence : Nat} {db db' : Db}
    (h : lockInvoiceAndAdvance invoiceId intakeState status count active db =
      .ok (sequence, db')) :
    (db' .invoices).map Invoice.rowVersion =
      (db .invoices).map fun i => if i.id = invoiceId then i.rowVersion + 1 else i.rowVersion := by
  unfold lockInvoiceAndAdvance at h
  obtain ⟨r, db₁, hselect, h⟩ := Txn.bind_ok.mp h
  obtain ⟨_, rfl⟩ := selectRow_ok.mp hselect
  cases r with
  | none => exact (Txn.raise_ok.mp h).elim
  | some row =>
      obtain ⟨_, db₂, hupdate, hpure⟩ := Txn.bind_ok.mp h
      obtain ⟨_, rfl⟩ := Txn.pure_ok.mp hpure
      rw [← updateRows_ok.mp hupdate, Store.modify_same, List.map_map]
      refine List.map_congr_left fun i _ => ?_
      simp only [Function.comp_apply, decide_eq_true_eq]
      split <;> rfl

/-- In every run: the events of an invoice are numbered from one to its status sequence;
every event is of an invoice and has exactly one outbox row; an invoice has the status
of its highest-numbered event; and every advance adds one to the row version, so that a
call adds as many as it advances the row, and numbers its events on. -/
theorem log_integrity (calls : List (TxnEnv × Call)) :
    let w := World.initial.run calls
    (∀ i ∈ w.db .invoices,
      (eventsOf w.db i.id).map InvoiceEvent.sequence = List.range' 1 i.statusSequence) ∧
    (∀ e ∈ w.db .invoiceEvents, ∃ i ∈ w.db .invoices, i.id = e.invoiceId) ∧
    (∀ e ∈ w.db .invoiceEvents,
      ∃ o, (w.db .eventOutbox).filter (fun o => o.eventId = e.id) = [o]) ∧
    (∀ i ∈ w.db .invoices, ∃ e ∈ eventsOf w.db i.id, e.sequence = i.statusSequence ∧
      e.aggregateStatus = i.aggregateStatus ∧
      ∀ e' ∈ eventsOf w.db i.id, e'.sequence ≤ e.sequence) ∧
    (∀ invoiceId intakeState status count active sequence db,
      lockInvoiceAndAdvance invoiceId intakeState status count active w.db = .ok (sequence, db) →
        (db .invoices).map Invoice.rowVersion = (w.db .invoices).map fun i =>
          if i.id = invoiceId then i.rowVersion + 1 else i.rowVersion) ∧
    ∀ env c, ∀ i ∈ w.db .invoices, ∃ i' ∈ (w.step env c).db .invoices, i'.id = i.id ∧
      (i' = i ∨ (i'.rowVersion = i.rowVersion + advancesOf c ∧
        i'.statusSequence + (eventsOf w.db i.id).length =
          i.statusSequence + (eventsOf (w.step env c).db i.id).length)) := by
  intro w
  have hnumbered : Numbered w.db := numbered_of_run (runFrom_run World.initial calls)
  refine ⟨hnumbered.numbers, hnumbered.known, fun e he => hnumbered.outboxRow he,
    fun i hi => hnumbered.last hi, ?_, ?_⟩
  · intro invoiceId intakeState status count active sequence db hlock
    exact rowVersion_of_advance hlock
  · intro env c i hi
    exact row_of_logStep (logStep_of_transition (step_transition w env c)) hi

end Runs

end Tally.Analysis.EventLog
