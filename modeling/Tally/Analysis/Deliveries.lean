import Tally.Analysis.EventLog
import Tally.Analysis.Gates

/-!
# Deliveries

The key handed to the provider is made of the attempt's identifier, which every run of the
send closure draws anew, and what the provider delivered stays delivered when the
transaction is rolled back. The attempt row is what keeps a later run from handing over
again, so a send delivers once when the run that reaches the provider is the one that
commits.
-/

set_option autoImplicit false

namespace Tally.Analysis.Deliveries
open Library Library.Calendar Tally.Model AuthoritySealRepository CorrespondenceRepository Effects
  Pipeline EventLog Gates
open Library.Schema (SameExcept)

/-! ## After the provider -/

/-- The identifiers the event of a send takes are unused. -/
structure UnusedIds (env : TxnEnv) (db : Db) : Prop where
  event : ∀ e ∈ db .invoiceEvents, e.id ≠ env.uuid 1
  outbox : ∀ o ∈ db .eventOutbox, o.id ≠ env.uuid 2

theorem UnusedIds.of_same {env : TxnEnv} {db db' : Db} (h : UnusedIds env db)
    (hlog : db' .invoiceEvents = db .invoiceEvents) (houtbox : db' .eventOutbox = db .eventOutbox) :
    UnusedIds env db' :=
  ⟨hlog ▸ h.event, houtbox ▸ h.outbox⟩

/-- Advancing a known invoice succeeds. -/
theorem lockInvoiceAndAdvance_run {invoiceId : Uuid} (intakeState : IntakeState)
    (status : InvoiceStatus) (count : Nat) (active : Option Nat) {db : Db} {i : Invoice}
    (h : (db .invoices).find? (fun i => i.id = invoiceId) = some i) :
    ∃ db', lockInvoiceAndAdvance invoiceId intakeState status count active db =
        .ok (i.statusSequence + 1, db') ∧
      (db' .invoices).map Invoice.id = (db .invoices).map Invoice.id ∧
      SameExcept [.invoices] db db' := by
  unfold lockInvoiceAndAdvance
  rw [selectRow_run, h]
  refine ⟨_, Txn.bind_ok.mpr ⟨(), _, updateRows_ok.mpr rfl, Txn.pure_ok.mpr ⟨rfl, rfl⟩⟩, ?_,
    Schema.sameExcept_modify db (by simp) _⟩
  rw [Store.modify_same, List.map_map]
  refine List.map_congr_left fun j _ => ?_
  dsimp only [Function.comp_apply]
  split <;> rfl

/-- The event of a known invoice with unused identifiers and the next number goes in. -/
theorem insertEventRow_run {env : TxnEnv} {event : InvoiceEvent} {db : Db}
    (hknown : ∃ i ∈ db .invoices, i.id = event.invoiceId) (hid : event.id = env.uuid 1)
    (hnumber : ∀ e ∈ db .invoiceEvents, e.invoiceId = event.invoiceId →
      e.sequence ≠ event.sequence)
    (hids : UnusedIds env db)
    (hposted : ∀ o ∈ db .eventOutbox, ∃ e ∈ db .invoiceEvents, e.id = o.eventId) :
    ∃ db', insertEventRow event (env.uuid 2) db = .ok ((), db') := by
  have hinvoice (db' : Db) (hsame : db' .invoices = db .invoices) :
      hasInvoice db' event.invoiceId = true := by
    obtain ⟨i, hi, heq⟩ := hknown
    unfold hasInvoice
    rw [hsame]
    exact List.any_eq_true.mpr ⟨i, hi, decide_eq_true heq⟩
  unfold insertEventRow
  refine ⟨_, Txn.bind_ok.mpr ⟨(), _, insertRow_ok.mpr ⟨?_, hinvoice db rfl, rfl⟩,
    insertRow_ok.mpr ⟨?_, ?_, rfl⟩⟩⟩
  · intro e he
    refine decide_eq_false ?_
    rintro (heq | ⟨heq, hsequence⟩)
    · exact hids.event e he (heq.symm.trans hid)
    · exact hnumber e he heq.symm hsequence.symm
  · intro o ho
    rw [Store.modify_of_ne _ _ (by decide)] at ho
    refine decide_eq_false ?_
    rintro (heq | heq)
    · exact hids.outbox o ho heq.symm
    · obtain ⟨e, he, hposted⟩ := hposted o ho
      exact hids.event e he (hposted.trans (heq.symm.trans hid))
  · show decide _ = true
    refine decide_eq_true ⟨hinvoice _ (Store.modify_of_ne _ _ (by decide)), ?_⟩
    rw [Store.modify_same]
    exact List.any_eq_true.mpr ⟨event, List.mem_append_right _ (List.mem_singleton_self _),
      decide_eq_true rfl⟩

/-- The event of a send with unused identifiers goes in, with every invoice numbered. -/
theorem emitSendEvent_run {env : TxnEnv} {invoiceId : Uuid} (outcome : SendState)
    (publicError messageId : Option String) {db : Db} (hnumbered : Numbered db)
    (hknown : ∃ i ∈ db .invoices, i.id = invoiceId) (hids : UnusedIds env db) :
    ∃ db', emitSendEvent env 1 invoiceId outcome publicError messageId db = .ok ((), db') := by
  obtain ⟨i, hi, hid⟩ := hknown
  obtain ⟨i', hfind⟩ : ∃ i', (db .invoices).find? (fun i => i.id = invoiceId) = some i' :=
    Option.isSome_iff_exists.mp (List.find?_isSome.mpr ⟨i, hi, decide_eq_true hid⟩)
  have hmem := List.mem_of_find?_eq_some hfind
  have hfound : i'.id = invoiceId := by simpa using List.find?_some hfind
  obtain ⟨db₁, hlock, hinvoices, hsame⟩ := lockInvoiceAndAdvance_run .readyForReconstruction
    (sendStatus outcome (some i')) 1 none hfind
  have hlog : db₁ .invoiceEvents = db .invoiceEvents := hsame _ (by decide)
  have houtbox : db₁ .eventOutbox = db .eventOutbox := hsame _ (by decide)
  have hinsert : ∃ db₂, insertEventRow ((sendRecorded invoiceId outcome
      (sendStatus outcome (some i')) publicError messageId (i'.statusSequence + 1)).toRow env 1
      "CORRESPONDENCE_AGENT" "SEND_CORRESPONDENCE" (some "Controlled mail provider"))
      (env.uuid 2) db₁ = .ok ((), db₂) := by
    refine insertEventRow_run ?_ rfl ?_ (hids.of_same hlog houtbox) ?_
    · have hmapped : invoiceId ∈ (db₁ .invoices).map Invoice.id := by
        rw [hinvoices]
        exact List.mem_map.mpr ⟨i, hi, hid⟩
      obtain ⟨j, hj, heq⟩ := List.mem_map.mp hmapped
      exact ⟨j, hj, heq⟩
    · rw [hlog]
      intro e he hinvoice
      have hevent : e ∈ eventsOf db i'.id :=
        List.mem_filter.mpr ⟨he, decide_eq_true (hinvoice.trans hfound.symm)⟩
      have hsequence := List.mem_map_of_mem (f := InvoiceEvent.sequence) hevent
      rw [hnumbered.numbers i' hmem, List.mem_range'_1] at hsequence
      show e.sequence ≠ i'.statusSequence + 1
      omega
    · rw [hlog, houtbox]
      intro o ho
      have hposted := List.mem_map_of_mem (f := EventOutbox.eventId) ho
      rw [hnumbered.outbox] at hposted
      obtain ⟨e, he, heq⟩ := List.mem_map.mp hposted
      exact ⟨e, he, heq⟩
  obtain ⟨db₂, hinsert⟩ := hinsert
  unfold emitSendEvent
  rw [selectRow_run, hfind]
  exact ⟨db₂, Txn.bind_ok.mpr ⟨_, _, hlock, hinsert⟩⟩

/-- Then what a closure does after the provider's reply succeeds. -/
theorem recordSend_run {env : TxnEnv} {attemptId invoiceId : Uuid}
    {reply : Except ControlledSendError ControlledSendReceipt} {db : Db} (hnumbered : Numbered db)
    (hknown : ∃ i ∈ db .invoices, i.id = invoiceId) (hids : UnusedIds env db) :
    ∃ r db', recordSend env attemptId invoiceId reply db = .ok (r, db') := by
  have hupdated (change : SendAttempt → SendAttempt) :
      Numbered (db.modify .sendAttempts (·.map change)) ∧
        (∃ i ∈ db.modify .sendAttempts (·.map change) .invoices, i.id = invoiceId) ∧
        UnusedIds env (db.modify .sendAttempts (·.map change)) := by
    have hsame : SameExcept [.sendAttempts] db (db.modify .sendAttempts (·.map change)) :=
      Schema.sameExcept_modify db (by simp) _
    refine ⟨hnumbered.of_same (hsame _ (by decide)) (hsame _ (by decide)) ?_, ?_,
      hids.of_same (hsame _ (by decide)) (hsame _ (by decide))⟩
    · rw [hsame _ (by decide)]
    · rw [hsame _ (by decide)]
      exact hknown
  unfold recordSend
  cases reply with
  | error e =>
      obtain ⟨hnumbered', hknown', hids'⟩ := hupdated fun a =>
        if (decide (a.id = attemptId)) = true then
          { a with sendState := .sendFailedRetryable, blockedReason := some e.text } else a
      obtain ⟨db', hemit⟩ := emitSendEvent_run .sendFailedRetryable (some e.text) none
        hnumbered' hknown' hids'
      exact ⟨_, db', Txn.bind_ok.mpr ⟨(), _, updateRows_ok.mpr rfl,
        Txn.bind_ok.mpr ⟨(), db', hemit, Txn.pure_ok.mpr ⟨rfl, rfl⟩⟩⟩⟩
  | ok receipt =>
      obtain ⟨hnumbered', hknown', hids'⟩ := hupdated fun a =>
        if (decide (a.id = attemptId)) = true then
          { a with sendState := .sent, providerMessageId := some receipt.providerMessageId } else a
      obtain ⟨db', hemit⟩ := emitSendEvent_run .sent none
        (some receipt.providerMessageId) hnumbered' hknown' hids'
      exact ⟨_, db', Txn.bind_ok.mpr ⟨(), _, updateRows_ok.mpr rfl,
        Txn.bind_ok.mpr ⟨(), db', hemit, Txn.pure_ok.mpr ⟨rfl, rfl⟩⟩⟩⟩

/-! ## Handing over -/

section Handing

variable [Sha256] {env : TxnEnv} {request : SendRequest} {gateChecks : List (Gate × GateCheck)}
  {db db' : Db}

/-- A run of the closure gets to the provider: the draft is there, its key is unused and its
gates permit the send. -/
structure ReachesProvider (db : Db) (request : SendRequest) (gateChecks : List (Gate × GateCheck)) :
    Prop where
  permitted : ∃ draft, draftOf db request.draftId = some draft ∧
    (sendDecision db draft request gateChecks).permitted = true
  unused : attemptOf db request.idempotencyKey = none

/-- What a run hands over: an attempt of its own under a key made of it. -/
structure HandsOver (env : TxnEnv) (request : SendRequest) (gateChecks : List (Gate × GateCheck))
    (db : Db) (invoiceId : Uuid) (handedOver : ProviderRequest) (db' : Db) : Prop where
  reaches : ReachesProvider db request gateChecks
  draft : ∃ draft, draftOf db request.draftId = some draft ∧ draft.invoiceId = invoiceId ∧
    handedOver.providerIdempotencyKey = providerKey (env.uuid 0) draft.sealDigest
  same : SameExcept attemptTables db db'

theorem handsOver_of_ready {attemptId invoiceId : Uuid} {handedOver : ProviderRequest}
    (h : prepareSend env request gateChecks db = .ok (.ready attemptId invoiceId handedOver, db')) :
    HandsOver env request gateChecks db invoiceId handedOver db' := by
  cases prepareSend_ok h with
  | ready draft _ hpermitted hattempts hsame =>
      refine ⟨⟨⟨draft, hattempts.found, hpermitted⟩, ?_⟩, ⟨draft, hattempts.found, rfl, rfl⟩, hsame⟩
      exact List.find?_eq_none.mpr fun a ha => by simpa using hattempts.newKey a ha

omit [Sha256] in
/-- The provider delivers nothing, or one message under the key handed over. -/
theorem providerSend_delivers (fail : Bool) (delivered : List Delivery)
    (handedOver : ProviderRequest) :
    (providerSend fail delivered handedOver).2 = delivered ∨
      ∃ d : Delivery, d.providerIdempotencyKey = handedOver.providerIdempotencyKey ∧
        (providerSend fail delivered handedOver).2 = delivered ++ [d] := by
  unfold providerSend
  split
  · exact Or.inl rfl
  · split
    · exact Or.inl rfl
    · split
      · exact Or.inl rfl
      · exact Or.inr ⟨_, rfl, rfl⟩

/-- A run of the closure delivers nothing, or hands over and delivers one message. -/
theorem runSend_delivers (env : TxnEnv) (request : SendRequest)
    (gateChecks : List (Gate × GateCheck)) (fail : Bool) (db : Db) (delivered : List Delivery) :
    (runSend env request gateChecks fail db delivered).2 = delivered ∨
      ∃ attemptId invoiceId handedOver db',
        prepareSend env request gateChecks db = .ok (.ready attemptId invoiceId handedOver, db') ∧
        ∃ d : Delivery, d.providerIdempotencyKey = handedOver.providerIdempotencyKey ∧
          (runSend env request gateChecks fail db delivered).2 = delivered ++ [d] := by
  unfold runSend
  cases hprepare : prepareSend env request gateChecks db with
  | error e => exact Or.inl rfl
  | ok p =>
      obtain ⟨p, db'⟩ := p
      cases p with
      | finished result => exact Or.inl rfl
      | ready attemptId invoiceId handedOver =>
          rcases providerSend_delivers fail delivered handedOver with hnone | ⟨d, hkey, hone⟩
          · exact Or.inl hnone
          · exact Or.inr ⟨attemptId, invoiceId, handedOver, db', rfl, d, hkey, hone⟩

/-- A run that hands over ends well when the identifiers of its event are unused. -/
theorem runSend_of_ready {attemptId invoiceId : Uuid} {handedOver : ProviderRequest} (fail : Bool)
    (delivered : List Delivery) (hnumbered : Numbered db)
    (hknown : ∀ d ∈ db .correspondenceDrafts, ∃ i ∈ db .invoices, i.id = d.invoiceId)
    (hids : UnusedIds env db)
    (h : prepareSend env request gateChecks db = .ok (.ready attemptId invoiceId handedOver, db')) :
    ∃ r db₂, (runSend env request gateChecks fail db delivered).1 = .ok (r, db₂) := by
  have hhands := handsOver_of_ready h
  obtain ⟨draft, hdraft, hinvoice, _⟩ := hhands.draft
  have hinvoices : db' .invoices = db .invoices := hhands.same _ (by decide)
  have hlog : db' .invoiceEvents = db .invoiceEvents := hhands.same _ (by decide)
  have houtbox : db' .eventOutbox = db .eventOutbox := hhands.same _ (by decide)
  have hinvoiceKnown : ∃ i ∈ db' .invoices, i.id = invoiceId := by
    rw [hinvoices, ← hinvoice]
    exact hknown draft (List.mem_of_find?_eq_some hdraft)
  unfold runSend
  rw [h]
  exact recordSend_run (hnumbered.of_same hinvoices hlog (by rw [houtbox])) hinvoiceKnown
    (hids.of_same hlog houtbox)

/-- A run that reaches the provider and commits leaves its attempt under its key. -/
theorem attempt_of_sends {r : SendResult} (hreaches : ReachesProvider db request gateChecks)
    (hsends : Sends env request gateChecks db r db') :
    ∃ row draft, draftOf db request.draftId = some draft ∧
      db' .sendAttempts = db .sendAttempts ++ [row] ∧
      row.idempotencyKey = request.idempotencyKey ∧ row.draftId = request.draftId ∧
      row.providerIdempotencyKey = providerKey (env.uuid 0) draft.sealDigest := by
  obtain ⟨draft, hdraft, hpermitted⟩ := hreaches.permitted
  have hid : draft.id = request.draftId := by simpa using List.find?_some hdraft
  cases hsends with
  | replayed draft' a _ hmem hkey =>
      exact absurd (decide_eq_true hkey) (List.find?_eq_none.mp hreaches.unused a hmem)
  | blocked _ draft' _ hblocked hattempts =>
      obtain rfl : draft = draft' := Option.some.inj (hdraft.symm.trans hattempts.found)
      exact nomatch hpermitted.symm.trans hblocked
  | replied _ draft' reply _ _ hattempts =>
      obtain rfl : draft = draft' := Option.some.inj (hdraft.symm.trans hattempts.found)
      exact ⟨_, draft, hdraft, hattempts.attempts, repliedAttempt_idempotencyKey _ _,
        (repliedAttempt_draftId _ _).trans hid, repliedAttempt_providerIdempotencyKey _ _⟩

/-- Attempts stay. -/
theorem attempts_kept {r : SendResult} (hsends : Sends env request gateChecks db r db') :
    ∀ a ∈ db .sendAttempts, a ∈ db' .sendAttempts := by
  intro a ha
  cases hsends with
  | replayed => exact ha
  | blocked _ _ _ _ hattempts =>
      rw [hattempts.attempts]
      exact List.mem_append_left _ ha
  | replied _ _ _ _ _ hattempts =>
      rw [hattempts.attempts]
      exact List.mem_append_left _ ha

end Handing

/-! ## Runs -/

/-- Every message has the attempt it was sent for, and no key has two. -/
structure Delivered (w : World) : Prop where
  keys : w.sent.Pairwise fun a b => a.idempotencyKey ≠ b.idempotencyKey
  attempts : ∀ m ∈ w.sent, ∃ a ∈ w.db .sendAttempts, a.idempotencyKey = m.idempotencyKey ∧
    a.draftId = m.draftId ∧ a.providerIdempotencyKey = m.delivery.providerIdempotencyKey

theorem delivered_initial : Delivered World.initial :=
  ⟨.nil, fun _ h => absurd h List.not_mem_nil⟩

theorem Delivered.of_same {w w' : World} (h : Delivered w) (hsent : w'.sent = w.sent)
    (hkept : ∀ a ∈ w.db .sendAttempts, a ∈ w'.db .sendAttempts) : Delivered w' := by
  constructor
  · rw [hsent]
    exact h.keys
  · rw [hsent]
    intro m hm
    obtain ⟨a, ha, hrest⟩ := h.attempts m hm
    exact ⟨a, hkept a ha, hrest⟩

/-- Every run of a send closure that gets to the provider commits, and the identifiers of
its event are unused. -/
def Commits [Sha256] (w : World) (env : TxnEnv) : Call → Prop
  | .sendSelected selection _ fate =>
    ReachesProvider w.db selection.request
      (buildFreshGateChecks env selection.invoiceId selection.decisionSealId) →
        fate = .committed ∧ UnusedIds env w.db
  | .approveAndSend request gateChecks _ fate =>
    ReachesProvider w.db request gateChecks → fate = .committed ∧ UnusedIds env w.db
  | _ => True

section Runs

variable [Sha256] {w : World} {env : TxnEnv} {request : SendRequest}
  {gateChecks : List (Gate × GateCheck)}

/-- A run of a send closure sends nothing, or the message of what it hands over. -/
theorem sentMessages_cases (w : World) (env : TxnEnv) (request : SendRequest)
    (gateChecks : List (Gate × GateCheck)) (fail : Bool) :
    sentMessages w env request gateChecks fail = w.sent ∨
      ∃ attemptId invoiceId handedOver db',
        prepareSend env request gateChecks w.db =
          .ok (.ready attemptId invoiceId handedOver, db') ∧
        ∃ d : Delivery, d.providerIdempotencyKey = handedOver.providerIdempotencyKey ∧
          sentMessages w env request gateChecks fail =
            w.sent ++ [⟨request.draftId, request.idempotencyKey, d⟩] := by
  unfold sentMessages
  dsimp only
  rcases runSend_delivers env request gateChecks fail w.db (w.sent.map SentMessage.delivery) with
    hnone | ⟨attemptId, invoiceId, handedOver, db', hready, d, hkey, hone⟩
  · rw [hnone, List.drop_length, List.map_nil, List.append_nil]
    exact Or.inl rfl
  · rw [hone, List.drop_left, List.map_singleton]
    exact Or.inr ⟨attemptId, invoiceId, handedOver, db', hready, d, hkey, rfl⟩

/-- A run of a send closure keeps each message with its attempt. -/
theorem Delivered.send (h : Delivered w) (hnumbered : Numbered w.db)
    (hknown : ∀ d ∈ w.db .correspondenceDrafts, ∃ i ∈ w.db .invoices, i.id = d.invoiceId)
    {fate : Fate} (fail : Bool)
    (hc : ReachesProvider w.db request gateChecks → fate = .committed ∧ UnusedIds env w.db) :
    Delivered (w.send env request gateChecks fail fate).1 := by
  rcases sentMessages_cases w env request gateChecks fail with
    hnone | ⟨attemptId, invoiceId, handedOver, db', hready, d, hkey, hone⟩
  · rcases send_cases w env request gateChecks fail fate with heq | ⟨r, db, _, _, hsends, heq⟩
    · rw [heq]
      exact h.of_same hnone fun _ ha => ha
    · rw [heq]
      exact h.of_same hnone (attempts_kept hsends)
  · have hhands := handsOver_of_ready hready
    obtain ⟨rfl, hids⟩ := hc hhands.reaches
    obtain ⟨r, db, hok⟩ := runSend_of_ready fail (w.sent.map SentMessage.delivery) hnumbered hknown
      hids hready
    have hworld : (w.send env request gateChecks fail .committed).1 =
        { w with db, sent := sentMessages w env request gateChecks fail } := by
      unfold World.send sentMessages
      dsimp only
      rw [hok]
    obtain ⟨row, draft, hdraft, hrows, hrowKey, hrowDraft, hrowProvider⟩ :=
      attempt_of_sends hhands.reaches (runSend_ok hok)
    obtain ⟨draft', hdraft', _, hprovider⟩ := hhands.draft
    obtain rfl : draft = draft' := Option.some.inj (hdraft.symm.trans hdraft')
    rw [hworld, hone]
    have hunused : ∀ m ∈ w.sent, m.idempotencyKey ≠ request.idempotencyKey := by
      intro m hm heq
      obtain ⟨a, ha, hakey, _⟩ := h.attempts m hm
      exact List.find?_eq_none.mp hhands.reaches.unused a ha
        (decide_eq_true (hakey.trans heq))
    constructor
    · rw [List.pairwise_append]
      refine ⟨h.keys, List.pairwise_singleton _ _, fun m hm m' hm' => ?_⟩
      rw [List.mem_singleton.mp hm']
      exact hunused m hm
    · intro m hm
      show ∃ a ∈ db .sendAttempts, _
      rw [hrows]
      rcases List.mem_append.mp hm with hold | hnew
      · obtain ⟨a, ha, hrest⟩ := h.attempts m hold
        exact ⟨a, List.mem_append_left _ ha, hrest⟩
      · rw [List.mem_singleton.mp hnew]
        refine ⟨row, List.mem_append_right _ (List.mem_singleton_self _), hrowKey, hrowDraft, ?_⟩
        rw [hrowProvider, hkey, hprovider]

variable [TzDatabase] [CharacterTables] {w' : World}

/-- Every draft is of an invoice. -/
theorem drafted_known {allowed : World → TxnEnv → Call → Prop} (h : Run allowed w) :
    ∀ d ∈ w.db .correspondenceDrafts, ∃ i ∈ w.db .invoices, i.id = d.invoiceId := by
  intro d hd
  obtain ⟨t, ht, hinvoice, _⟩ := drafted_past h hd
  obtain ⟨i, hi, hid⟩ := (healthy_of_run h).2.invoices t ht
  exact ⟨i, hi, hid.trans hinvoice⟩

theorem attempts_of_step {c : Call} (hstep : Transition w env c w') :
    ∀ a ∈ w.db .sendAttempts, a ∈ w'.db .sendAttempts := by
  rcases attempts_step hstep with ⟨hsame, _⟩ | ⟨_, _, _, _, hsends⟩
  · rw [hsame]
    exact fun _ ha => ha
  · exact attempts_kept hsends

theorem Delivered.step {c : Call} (h : Delivered w) (hnumbered : Numbered w.db)
    (hknown : ∀ d ∈ w.db .correspondenceDrafts, ∃ i ∈ w.db .invoices, i.id = d.invoiceId)
    (hc : Commits w env c) (hstep : Transition w env c w') : Delivered w' := by
  have hkept := attempts_of_step hstep
  cases hstep with
  | sentSelected _ fail => exact h.send hnumbered hknown fail hc
  | approvedAndSent _ _ fail => exact h.send hnumbered hknown fail hc
  | _ => exact h.of_same rfl hkept

theorem delivered_of_run (h : Run Commits w) : Delivered w := by
  induction h with
  | start => exact delivered_initial
  | step env c hrun hc ih =>
      exact ih.step (numbered_of_run hrun) (drafted_known hrun) hc (step_transition _ env c)

omit [TzDatabase] [CharacterTables] in
/-- A key with an attempt is never handed over again. -/
theorem not_ready_of_attempt {db : Db} {a : SendAttempt} (ha : a ∈ db .sendAttempts)
    (hkey : a.idempotencyKey = request.idempotencyKey) {attemptId invoiceId : Uuid}
    {handedOver : ProviderRequest} {db' : Db} :
    prepareSend env request gateChecks db ≠ .ok (.ready attemptId invoiceId handedOver, db') := by
  intro hready
  have hunused := (handsOver_of_ready hready).reaches.unused
  exact List.find?_eq_none.mp hunused a ha (decide_eq_true hkey)

end Runs

section Case
open Sample

local instance standardHash : Sha256 := Sha256.standard
local instance sampleZone : TzDatabase := zone
local instance sampleCharacters : CharacterTables := ascii

/-- A send of a draft there is not, after a receipt. -/
def undrafted : World := play World.initial 1 received

/-- A send that is restarted after the provider accepted its message, of a withheld decision
whose invoice has been reconstructed again. -/
def resent : Script :=
  withheld ++ approved "k1" "ann" ++ drafted "" ++ bound "w5" ++ reconstructed "w6" sourcedRows ++
    selected "s1" "bob" ++ sent .aborted ++ sent .committed

theorem undrafted_unused : UnusedIds (env 5) undrafted.db :=
  ⟨by decide +kernel, by decide +kernel⟩

/-! ### The seal of the case

Its digest is computed once; the worlds after it carry the text. -/

/-- `sealRecommendation` under a given digest. -/
def sealUnder (digest : String) (env : TxnEnv) (rec : RecommendationRow)
    (request : ApprovalRequest) : Tx SealResult := do
  let inputs ← Txn.read fun db : Db => sealInputs env db rec request
  let revision ← Txn.read fun db : Db => nextRevision db rec.invoiceId
  let snapshot : ApprovalSnapshot :=
    { sealId := env.uuid 1, revision, sealDigest := digest
      recommendationType := rec.recommendationType }
  insertRow .approvals (approvalRow rec request (env.uuid 0) snapshot)
  insertOrIgnoreRow .decisionSeals (fun a b => a.recommendationId = b.recommendationId)
    (sealRow rec request (env.uuid 0) inputs snapshot)
  advanceAndEmit env 2 rec (env.uuid 1) revision
  pure ⟨env.uuid 0, env.uuid 1, revision, digest, rec.recommendationType, false⟩

theorem sealRecommendation_under {digest : String} {env : TxnEnv} {rec : RecommendationRow}
    {request : ApprovalRequest} {db : Db}
    (h : sealDigest (buildSealManifest (sealInputs env db rec request)
      (nextRevision db rec.invoiceId)) = digest) :
    sealRecommendation env rec request db = sealUnder digest env rec request db := by
  subst h
  rfl

/-- The first approval of a frozen recommendation, as it is. -/
theorem approveAndSeal_first {env : TxnEnv} {rec : RecommendationRow} (key name : String) {db : Db}
    (hrec : db .recommendations = [rec]) (hfrozen : rec.state = "FROZEN")
    (hnone : db .approvals = []) :
    approveAndSeal env (requestFor key name rec) db =
      sealRecommendation env rec (requestFor key name rec) db := by
  have hfind : (db .recommendations).find? (fun r => r.id = (requestFor key name rec).recommendationId) =
      some rec := by
    rw [hrec]
    exact List.find?_cons_of_pos (decide_eq_true rfl)
  have hfresh : isStale (requestFor key name rec).expectedVersion rec.version
      (requestFor key name rec).expectedDigest rec.digest = false := by
    unfold isStale requestFor
    simp
  unfold approveAndSeal
  rw [selectRow_run, hfind]
  show (selectRow .approvals _ >>= _) db = _
  rw [selectRow_run, hnone]
  dsimp only [List.find?_nil]
  rw [if_neg (by simp [hfresh]), if_neg (by simp [hfrozen])]

/-- What the seal of the case binds. -/
def withheldInputs : SealInputs :=
  { invoiceId := 100
    reconstructionId := 900
    reconstructionVersion := 1
    recommendationId := 1400
    recommendationVersion := 1
    recommendationType := .requestEvidence
    recommendationDigest := "sha256:6dd414f0c6d8a26816e7e1db86dd353e6ad2b1dca9e864162886ca0448f044e6"
    disputedAmountMinor := 0
    supportedAmountMinor := 0
    claimedAmountMinor := 30000
    currency := "USD"
    applicableRuleId := some 1101
    applicableRuleDigest :=
      some "sha256:82c1cd7bcf6e4795ecdc5bc36621c431b8a5be383e8bf0f718825ec324c4eaad"
    claimSetVersion := 1
    invoiceSourceRef := "invoices/a.pdf@v1"
    dayJudgmentDigests :=
      ["sha256:13be77bd6aa2682c862696489cbdc7d87837a29dfa920dc630b67d2871a071d7"]
    approverDisplay := "ann"
    approverKind := "SYNTHETIC_DEMO" }

def withheldDigest : String :=
  "sha256:ef9d6519c4ec28291e518b81008b650f3da401edc39268dff22866152aa86b51"

def withheldWorld : World := play World.initial 1 withheld

-- one block, so that the evaluations are made one after the other
mutual

theorem withheldDigest_eq : sealDigest (buildSealManifest withheldInputs 1) = withheldDigest := by
  have hbytes : canonicalJsonBytes (buildSealManifest withheldInputs 1) =
      (Json.render .compact (buildSealManifest withheldInputs 1).sortKeys).flatMap
        String.utf8EncodeChar := encode_ofList _
  have hhex : Sha256.hexdigest ((Json.render .compact
      (buildSealManifest withheldInputs 1).sortKeys).flatMap String.utf8EncodeChar) =
      "ef9d6519c4ec28291e518b81008b650f3da401edc39268dff22866152aa86b51" := by
    decide +kernel
  unfold sealDigest prefixedSha256
  rw [hbytes, hhex]
  decide

/-- The one recommendation of the case, frozen and not approved. -/
theorem withheldWorld_recommended : ∃ rec, withheldWorld.db .recommendations = [rec] ∧
    rec.state = "FROZEN" ∧ withheldWorld.db .approvals = [] ∧
    sealInputs (env 15) withheldWorld.db rec (requestFor "k1" "ann" rec) = withheldInputs ∧
    nextRevision withheldWorld.db rec.invoiceId = 1 := by
  have h : (match withheldWorld.db .recommendations with
      | [rec] => decide (rec.state = "FROZEN" ∧ withheldWorld.db .approvals = [] ∧
          sealInputs (env 15) withheldWorld.db rec (requestFor "k1" "ann" rec) = withheldInputs ∧
          nextRevision withheldWorld.db rec.invoiceId = 1)
      | _ => false) = true := by
    decide +kernel
  cases hrecs : withheldWorld.db .recommendations with
  | nil => simp [hrecs] at h
  | cons rec rest =>
      cases rest with
      | nil =>
          rw [hrecs] at h
          exact ⟨rec, rfl, of_decide_eq_true h⟩
      | cons other rest => simp [hrecs] at h

end

/-- The world after the approval, with the text of the digest. -/
def sealedWorld : World :=
  match (withheldWorld.db .recommendations).getLast? with
  | none => withheldWorld
  | some rec => (withheldWorld.commit
      (sealUnder withheldDigest (env 15) rec (requestFor "k1" "ann" rec)) fun _ => id).1

theorem play_approved : play withheldWorld 15 (approved "k1" "ann") = sealedWorld := by
  obtain ⟨rec, hrec, hfrozen, hnone, hinputs, hrevision⟩ := withheldWorld_recommended
  have hrun : approveAndSeal (env 15) (requestFor "k1" "ann" rec) withheldWorld.db =
      sealUnder withheldDigest (env 15) rec (requestFor "k1" "ann" rec) withheldWorld.db := by
    rw [approveAndSeal_first "k1" "ann" hrec hfrozen hnone, sealRecommendation_under]
    rw [hinputs, hrevision]
    exact withheldDigest_eq
  have hlast : (withheldWorld.db .recommendations).getLast? = some rec := by
    rw [hrec]
    rfl
  unfold sealedWorld approved
  rw [play, hlast]
  show (withheldWorld.commit (approveAndSeal (env 15) (requestFor "k1" "ann" rec)) fun _ => id).1 =
    (withheldWorld.commit
      (sealUnder withheldDigest (env 15) rec (requestFor "k1" "ann" rec)) fun _ => id).1
  unfold World.commit
  rw [hrun]

mutual

theorem play_resent : play World.initial 1 resent = play sealedWorld 16
    (drafted "" ++ bound "w5" ++ reconstructed "w6" sourcedRows ++ selected "s1" "bob" ++
      sent .aborted ++ sent .committed) := by
  have hfirst : 1 + withheld.length = 15 := by decide
  have hlater : 1 + (withheld ++ approved "k1" "ann").length = 16 := by decide
  have happroved : play World.initial 1 (withheld ++ approved "k1" "ann") = sealedWorld := by
    rw [play_append, hfirst]
    exact play_approved
  have hsplit : resent = (withheld ++ approved "k1" "ann") ++ (drafted "" ++ bound "w5" ++
      reconstructed "w6" sourcedRows ++ selected "s1" "bob" ++ sent .aborted ++ sent .committed) := by
    unfold resent
    simp only [List.append_assoc]
  rw [hsplit, play_append, happroved, hlater]

/-- The second run sends the message again, and its gates read a reconstruction nobody sealed. -/
theorem resent_sends :
    ((play World.initial 1 resent).sent.map fun m => (m.draftId, m.idempotencyKey)) =
      [(1700, "s1"), (1700, "s1")] ∧
    ∃ a ∈ (play World.initial 1 resent).db .sendAttempts, a.sendState = .sent ∧
      ∃ row ∈ mcpGateRow (play World.initial 1 resent).db a.invoiceId,
        ∀ s ∈ (play World.initial 1 resent).db .decisionSeals, row.id ≠ s.reconstructionId := by
  rw [play_resent]
  decide +kernel

end

end Case

end Tally.Analysis.Deliveries
