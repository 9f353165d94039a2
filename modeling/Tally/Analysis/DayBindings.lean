import Tally.Analysis.DayEvidence
import Tally.Analysis.Frames
import Tally.Library.Pointwise

/-!
# Bound events

The core gives every charged day the references it is adjudicated on; the worker makes the
bindings of a day from the types of the events on its own. The two agree on the availability,
free-time and gate-out events. A complete day is adjudicated on its access snapshot too, for
which there is no role, so the events bound to the complete days are those of the core exactly
when no access snapshot stands for any of them.
-/

set_option autoImplicit false

namespace Tally.Analysis.DayBindings
open Library Library.Calendar Library.Pointwise Tally.Model ReconstructionRepository Effects
  DayEvidence
open Library.Schema (SameExcept sameExcept_refl sameExcept_trans)

/-! ## Appended rows -/

/-- Rows are appended to a table: one for each item, none sharing a key with another or with a
row before. -/
structure AppendsRows {γ : Type} (t : Table) (P : γ → Row t → Prop) (items : List γ) (db db' : Db)
    (rows : List (Row t)) : Prop where
  appended : db' t = db t ++ rows
  made : List.Forall₂ P items rows
  fresh : ∀ new ∈ rows, ∀ old ∈ db t, conflicts t new old = false
  distinct : rows.Pairwise fun a b => conflicts t b a = false

/-- The keys of the items are distinct where those of unconflicting rows are. -/
theorem AppendsRows.nodup {γ K : Type} {t : Table} {P : γ → Row t → Prop} {items : List γ}
    {db db' : Db} {rows : List (Row t)} (h : AppendsRows t P items db db' rows) {key : Row t → K}
    {f : γ → K} (hkey : ∀ a b, conflicts t a b = false → key a ≠ key b)
    (hf : ∀ x row, P x row → f x = key row) : (items.map f).Nodup := by
  rw [map_eq_of_forall₂ hf h.made, List.Nodup, List.pairwise_map]
  exact h.distinct.imp fun hconflict => (hkey _ _ hconflict).symm

/-- An appended row is the only one with its key. -/
theorem AppendsRows.unique {γ K : Type} {t : Table} {P : γ → Row t → Prop} {items : List γ}
    {db db' : Db} {rows : List (Row t)} (h : AppendsRows t P items db db' rows) {key : Row t → K}
    (hkey : ∀ a b, conflicts t a b = false → key a ≠ key b) {new x : Row t} (hnew : new ∈ rows)
    (hx : x ∈ db' t) (heq : key x = key new) : x = new := by
  rw [h.appended] at hx
  rcases List.mem_append.mp hx with hold | hmem
  · exact absurd heq.symm (hkey _ _ (h.fresh new hnew x hold))
  · have hnodup : (rows.map key).Nodup := by
      rw [List.Nodup, List.pairwise_map]
      exact h.distinct.imp fun hconflict => (hkey _ _ hconflict).symm
    exact List.inj_on_of_nodup_map hnodup hmem hnew heq

section Loops

variable {γ : Type} {t : Table} {k : Nat} {xs : List γ} {a : Unit} {db db' : Db}

/-- A loop whose steps each append a row of their own. -/
theorem forEach_appends {m : Nat → γ → Tx Unit} {P : γ × Nat → Row t → Prop}
    (hm : ∀ i x db a db', m i x db = .ok (a, db') → ∃ row, P (x, i) row ∧
      (∀ old ∈ db t, conflicts t row old = false) ∧ db' t = db t ++ [row])
    (h : Txn.forEach m k xs db = .ok (a, db')) :
    ∃ rows, AppendsRows t P (xs.zipIdx k) db db' rows := by
  induction xs generalizing k db with
  | nil =>
      obtain ⟨_, rfl⟩ := Txn.pure_ok.mp h
      exact ⟨[], (List.append_nil _).symm, .nil, fun _ hn => absurd hn List.not_mem_nil, .nil⟩
  | cons x xs ih =>
      unfold Txn.forEach at h
      rw [Txn.bind_ok] at h
      obtain ⟨_, db₁, hstep, h⟩ := h
      obtain ⟨row, hrow, hfresh, hdb₁⟩ := hm k x db _ db₁ hstep
      obtain ⟨rows, happended, hmade, hnew, hdistinct⟩ := ih h
      rw [hdb₁] at happended hnew
      refine ⟨row :: rows, ?_, .cons hrow hmade, ?_, ?_⟩
      · rw [happended, List.append_assoc]
        rfl
      · intro new hmem old hold
        rcases List.mem_cons.mp hmem with rfl | hlater
        · exact hfresh old hold
        · exact hnew new hlater old (List.mem_append_left _ hold)
      · refine List.pairwise_cons.mpr ⟨?_, hdistinct⟩
        intro later hlater
        exact hnew later hlater row (List.mem_append_right _ (List.mem_singleton_self row))

/-- A loop of ignoring inserts adds the bindings it is given. -/
theorem forEach_bindings {bindings : List ReconstructionDayEventBinding}
    (h : Txn.forEach (fun _ b => insertOrIgnoreRow .dayEventBindings (· = ·) b) k bindings db =
      .ok (a, db')) (b : ReconstructionDayEventBinding) :
    b ∈ db' .dayEventBindings ↔ b ∈ db .dayEventBindings ∨ b ∈ bindings := by
  induction bindings generalizing k db with
  | nil =>
      obtain ⟨_, rfl⟩ := Txn.pure_ok.mp h
      simp
  | cons first bindings ih =>
      unfold Txn.forEach at h
      rw [Txn.bind_ok] at h
      obtain ⟨_, db₁, hinsert, h⟩ := h
      have hfirst : b ∈ db₁ .dayEventBindings ↔ b ∈ db .dayEventBindings ∨ b = first := by
        rcases insertOrIgnoreRow_ok.mp hinsert with ⟨hany, rfl⟩ | ⟨_, _, _, rfl⟩
        · obtain ⟨old, hold, heq⟩ := List.any_eq_true.mp hany
          obtain rfl : first = old := of_decide_eq_true heq
          exact ⟨Or.inl, fun h => h.elim id fun heq => heq ▸ hold⟩
        · rw [Store.modify_same, List.mem_append, List.mem_singleton]
      rw [ih h, hfirst, List.mem_cons, or_assoc]

end Loops

/-! ## The detail of a version -/

/-- The row of the event at an index. -/
structure EventRow (env : TxnEnv) (reconstructionId : Uuid) (item : NormalizedEvent × Nat)
    (row : ReconstructionEvent) : Prop where
  id : row.id = env.uuid (10 + item.2)
  version : row.reconstructionId = reconstructionId
  ref : row.publicRef = item.1.publicRef

/-- The row of the day at an index. -/
structure DayRow (env : TxnEnv) (k : Nat) (reconstructionId : Uuid) (item : ChargedDayResult × Nat)
    (row : ReconstructionChargedDay) : Prop where
  id : row.id = env.uuid (k + item.2)
  version : row.reconstructionId = reconstructionId
  date : row.chargeDate = item.1.chargeDate

/-- The roles the worker gave a day. -/
def rolesOf (roles : List (Date × List (EventRole × List String))) (day : ChargedDayResult) :
    List (EventRole × List String) :=
  ((roles.reverse.find? fun p => p.1 = day.chargeDate).map Prod.snd).getD []

/-- The events, days and bindings of a version go in. -/
structure Detailed (env : TxnEnv) (work : ReconstructionWork) (reconstructionId : Uuid)
    (db db' : Db) : Prop where
  events : ∃ rows, AppendsRows .reconstructionEvents (EventRow env reconstructionId)
    work.events.zipIdx db db' rows
  days : ∃ rows, AppendsRows .chargedDays (DayRow env (10 + work.events.length) reconstructionId)
    work.days.zipIdx db db' rows
  bindings : ∀ b, b ∈ db' .dayEventBindings ↔ b ∈ db .dayEventBindings ∨
    ∃ item ∈ work.days.zipIdx, b ∈ dayBindings (eventRowIds env 10 work.events)
      (env.uuid (10 + work.events.length + item.2)) (rolesOf work.dayEventRoles item.1)

section Detail

variable {env : TxnEnv} {k : Nat} {reconstructionId invoiceId : Uuid} {a : Unit} {db db' : Db}
  {rowIds : List (String × Uuid)} {roles : List (Date × List (EventRole × List String))}

theorem insertReconstructionEvent_appends {index : Nat} {event : NormalizedEvent}
    (h : insertReconstructionEvent env 10 reconstructionId index event db = .ok (a, db')) :
    ∃ row, EventRow env reconstructionId (event, index) row ∧
      (∀ old ∈ db .reconstructionEvents, conflicts .reconstructionEvents row old = false) ∧
      db' .reconstructionEvents = db .reconstructionEvents ++ [row] := by
  unfold insertReconstructionEvent at h
  rw [Txn.bind_ok] at h
  obtain ⟨artifact, db₁, hselect, h⟩ := h
  obtain ⟨_, rfl⟩ := selectRow_ok.mp hselect
  cases artifact with
  | none => exact (Txn.raise_ok.mp h).elim
  | some artifact =>
      obtain ⟨hfresh, _, rfl⟩ := insertRow_ok.mp h
      exact ⟨_, ⟨rfl, rfl, rfl⟩, hfresh, Store.modify_same _ _ _⟩

/-- A day goes in with its bindings. -/
theorem insertChargedDay_binds {index : Nat} {day : ChargedDayResult}
    (h : insertChargedDay env k reconstructionId invoiceId rowIds roles index day db =
      .ok (a, db')) :
    (∃ row, DayRow env k reconstructionId (day, index) row ∧
      (∀ old ∈ db .chargedDays, conflicts .chargedDays row old = false) ∧
      db' .chargedDays = db .chargedDays ++ [row]) ∧
    ∀ b, b ∈ db' .dayEventBindings ↔ b ∈ db .dayEventBindings ∨
      b ∈ dayBindings rowIds (env.uuid (k + index)) (rolesOf roles day) := by
  unfold insertChargedDay at h
  rw [Txn.bind_ok] at h
  obtain ⟨_, db₁, hinsert, hbindings⟩ := h
  obtain ⟨hfresh, _, rfl⟩ := insertRow_ok.mp hinsert
  have hsame : SameExcept [.dayEventBindings] _ db' :=
    Txn.keeps_forEach sameExcept_refl sameExcept_trans _ _
      (fun _ _ _ => Schema.writes_insertOrIgnore (by simp)) _ _ _ hbindings
  refine ⟨⟨_, ⟨rfl, rfl, rfl⟩, hfresh, ?_⟩, fun b => ?_⟩
  · rw [hsame .chargedDays (by decide), Store.modify_same]
  · rw [forEach_bindings hbindings b, Store.modify_of_ne _ _ (by decide)]
    rfl

/-- The bindings of the days of a version. -/
theorem forEach_dayBindings {n : Nat} {days : List ChargedDayResult}
    (h : Txn.forEach (insertChargedDay env k reconstructionId invoiceId rowIds roles) n days db =
      .ok (a, db')) (b : ReconstructionDayEventBinding) :
    b ∈ db' .dayEventBindings ↔ b ∈ db .dayEventBindings ∨
      ∃ item ∈ days.zipIdx n, b ∈ dayBindings rowIds (env.uuid (k + item.2))
        (rolesOf roles item.1) := by
  induction days generalizing n db with
  | nil =>
      obtain ⟨_, rfl⟩ := Txn.pure_ok.mp h
      simp
  | cons day days ih =>
      unfold Txn.forEach at h
      rw [Txn.bind_ok] at h
      obtain ⟨_, db₁, hday, h⟩ := h
      rw [ih h, (insertChargedDay_binds hday).2 b, List.zipIdx_cons, or_assoc]
      simp only [List.mem_cons, exists_eq_or_imp]

theorem insertReconstructionDetail_detailed {lease : ReconstructionTaskLease}
    {work : ReconstructionWork}
    (h : insertReconstructionDetail env lease work reconstructionId db = .ok (a, db')) :
    Detailed env work reconstructionId db db' := by
  unfold insertReconstructionDetail at h
  rw [Txn.bind_ok] at h
  obtain ⟨_, db₁, hevents, h⟩ := h
  rw [Txn.bind_ok] at h
  obtain ⟨_, db₂, hdays, hcoverage⟩ := h
  have hsame₁ : SameExcept [.reconstructionEvents] db db₁ :=
    Txn.keeps_forEach sameExcept_refl sameExcept_trans _ _
      (fun i e _ => insertReconstructionEvent_writes _ _ _ i e) _ _ _ hevents
  have hsame₂ : SameExcept [.chargedDays, .dayEventBindings] db₁ db₂ :=
    Txn.keeps_forEach sameExcept_refl sameExcept_trans _ _
      (fun i d _ => (insertChargedDay_appends _ _ _ _ _ _ i d).2) _ _ _ hdays
  have hsame₃ : SameExcept [.reconstructionCoverage] db₂ db' :=
    Txn.keeps_forEach sameExcept_refl sameExcept_trans _ _
      (fun _ _ _ => Schema.writes_insert (by simp)) _ _ _ hcoverage
  obtain ⟨eventRows, hevent⟩ := forEach_appends (t := .reconstructionEvents)
    (P := EventRow env reconstructionId)
    (fun _ _ _ _ _ h => insertReconstructionEvent_appends h) hevents
  obtain ⟨dayRows, hday⟩ := forEach_appends (t := .chargedDays)
    (P := DayRow env (10 + work.events.length) reconstructionId)
    (fun _ _ _ _ _ h => (insertChargedDay_binds h).1) hdays
  refine ⟨⟨eventRows, ?_, hevent.made, hevent.fresh, hevent.distinct⟩,
    ⟨dayRows, ?_, hday.made, ?_, hday.distinct⟩, fun b => ?_⟩
  · rw [hsame₃ .reconstructionEvents (by decide), hsame₂ .reconstructionEvents (by decide)]
    exact hevent.appended
  · rw [hsame₃ .chargedDays (by decide), hday.appended, hsame₁ .chargedDays (by decide)]
  · have hfresh := hday.fresh
    rwa [hsame₁ .chargedDays (by decide)] at hfresh
  · rw [hsame₃ .dayEventBindings (by decide), forEach_dayBindings hdays b,
      hsame₁ .dayEventBindings (by decide)]

/-- A completion finds the version of its inputs, or adds one with its detail. -/
theorem completeReconstruction_detailed [Sha256] {lease : ReconstructionTaskLease}
    {work : ReconstructionWork} {r : ReconstructionCompletion}
    (h : completeReconstruction env lease work db = .ok (r, db')) :
    (SameExcept [.workflowTasks, .workflowTaskAttempts] db db' ∧
      ∃ x ∈ db .reconstructions, x.invoiceId = lease.invoiceId ∧
        x.inputFingerprint = lease.inputFingerprint) ∨
    (∃ row, row.id = r.reconstructionId ∧ (∀ x ∈ db .reconstructions, x.id ≠ row.id) ∧
      db' .reconstructions = db .reconstructions ++ [row] ∧ Detailed env work row.id db db') := by
  unfold completeReconstruction at h
  rw [Txn.bind_ok] at h
  obtain ⟨_, db₁, hassert, h⟩ := h
  obtain ⟨rfl, _⟩ := assertCurrentLease_ok.mp hassert
  rw [Txn.bind_ok] at h
  obtain ⟨existing, db₁, hselect, h⟩ := h
  obtain ⟨hfind, rfl⟩ := selectRow_ok.mp hselect
  cases existing with
  | some found =>
      rw [Txn.bind_ok] at h
      obtain ⟨_, db₁, hfinish, h⟩ := h
      obtain ⟨_, rfl⟩ := Txn.pure_ok.mp h
      exact Or.inl ⟨(closeTask_ok hfinish).2.2, found, List.mem_of_find?_eq_some hfind,
        by simpa using List.find?_some hfind⟩
  | none =>
      rw [Txn.bind_ok] at h
      obtain ⟨versions, db₁, hversions, h⟩ := h
      obtain ⟨_, rfl⟩ := selectRows_ok.mp hversions
      rw [Txn.bind_ok] at h
      obtain ⟨_, db₁, hinsert, h⟩ := h
      obtain ⟨hfresh, _, rfl⟩ := insertRow_ok.mp hinsert
      rw [Txn.bind_ok] at h
      obtain ⟨_, db₂, hdetail, h⟩ := h
      rw [Txn.bind_ok] at h
      obtain ⟨_, db₃, hfinish, h⟩ := h
      rw [Txn.bind_ok] at h
      obtain ⟨_, db₄, hemit, h⟩ := h
      rw [Txn.bind_ok] at h
      obtain ⟨_, db₅, hevents, h⟩ := h
      obtain ⟨rfl, rfl⟩ := Txn.pure_ok.mp h
      have hwritten := insertReconstructionDetail_writes _ _ _ _ _ _ _ hdetail
      have hclosed := (closeTask_ok hfinish).2.2
      have hemitted : SameExcept [.workflowTasks] db₃ db₄ := by
        rcases Txn.onlyIf_ok.mp hemit with ⟨_, hemit⟩ | ⟨_, rfl⟩
        · exact (emitTask_ok hemit).2
        · exact sameExcept_refl _
      have hpublished := (emitReconstructionEvents_ok hevents).2
      have hafter (t : Table) (ht : t ∉ [Table.workflowTasks, .workflowTaskAttempts] ++ emitTables) :
          db₅ t = db₂ t := by
        simp only [List.mem_append, List.mem_cons, not_or] at ht
        rw [hpublished t ht.2, hemitted t (by simp [ht]), hclosed t (by simp [ht])]
      obtain ⟨⟨eventRows, hevent⟩, ⟨dayRows, hday⟩, hbindings⟩ :=
        insertReconstructionDetail_detailed hdetail
      refine Or.inr ⟨reconstructionRow env lease work
        (nextNumber (versions.map ReconstructionRow.version)), rfl, ?_, ?_, ⟨eventRows, ?_, hevent.made, ?_, hevent.distinct⟩,
        ⟨dayRows, ?_, hday.made, ?_, hday.distinct⟩, fun b => ?_⟩
      · intro x hx
        have hconflict := hfresh x hx
        simp only [conflicts, decide_eq_false_iff_not, not_or] at hconflict
        exact fun heq => hconflict.1 heq.symm
      · rw [hafter _ (by decide), hwritten .reconstructions (by decide), Store.modify_same]
      · rw [hafter _ (by decide), hevent.appended, Store.modify_of_ne _ _ (by decide)]
      · have hold := hevent.fresh
        rwa [Store.modify_of_ne _ _ (by decide)] at hold
      · rw [hafter _ (by decide), hday.appended, Store.modify_of_ne _ _ (by decide)]
      · have hold := hday.fresh
        rwa [Store.modify_of_ne _ _ (by decide)] at hold
      · rw [hafter _ (by decide), hbindings b, Store.modify_of_ne _ _ (by decide)]

end Detail

/-! ## References -/

/-- A charged day is of a known version, and a binding of a known day. -/
structure Referenced (db : Db) : Prop where
  days : ∀ d ∈ db .chargedDays, ∃ r ∈ db .reconstructions, r.id = d.reconstructionId
  bindings : ∀ b ∈ db .dayEventBindings, ∃ d ∈ db .chargedDays, d.id = b.chargedDayId

theorem referenced_initial : Referenced Db.empty :=
  ⟨fun _ hd => absurd hd List.not_mem_nil, fun _ hb => absurd hb List.not_mem_nil⟩

/-- Days with the same keys, and more versions, keep the references. -/
theorem Referenced.of_days {db db' : Db} (h : Referenced db)
    (hversions : db' .reconstructions = db .reconstructions)
    (hbindings : db' .dayEventBindings = db .dayEventBindings)
    {f : ReconstructionChargedDay → ReconstructionChargedDay}
    (hdays : db' .chargedDays = (db .chargedDays).map f)
    (hf : ∀ d, (f d).id = d.id ∧ (f d).reconstructionId = d.reconstructionId) : Referenced db' := by
  constructor
  · rw [hdays, hversions]
    intro d hd
    obtain ⟨e, he, rfl⟩ := List.mem_map.mp hd
    rw [(hf e).2]
    exact h.days e he
  · rw [hdays, hbindings]
    intro b hb
    obtain ⟨d, hd, hid⟩ := h.bindings b hb
    exact ⟨f d, List.mem_map_of_mem hd, (hf d).1.trans hid⟩

theorem Referenced.of_same {db db' : Db} (h : Referenced db)
    (hversions : db' .reconstructions = db .reconstructions)
    (hbindings : db' .dayEventBindings = db .dayEventBindings)
    (hdays : db' .chargedDays = db .chargedDays) : Referenced db' :=
  h.of_days hversions hbindings (by rw [hdays, List.map_id']) fun _ => ⟨rfl, rfl⟩

theorem mem_dayBindings {rowIds : List (String × Uuid)} {dayId : Uuid}
    {roles : List (EventRole × List String)} {b : ReconstructionDayEventBinding} :
    b ∈ dayBindings rowIds dayId roles ↔ ∃ role ∈ roles, ∃ ref ∈ role.2, ∃ p,
      rowIds.reverse.find? (fun p => p.1 = ref) = some p ∧ b = ⟨dayId, p.2, role.1⟩ := by
  unfold dayBindings
  rw [List.mem_flatMap]
  refine exists_congr fun role => and_congr_right fun _ => ?_
  rw [List.mem_filterMap]
  refine exists_congr fun ref => and_congr_right fun _ => ?_
  rw [Option.map_eq_some_iff]
  exact exists_congr fun p => and_congr_right fun _ => eq_comm

section Detailed

variable {env : TxnEnv} {work : ReconstructionWork} {reconstructionId : Uuid} {db db' : Db}

/-- A version that goes in keeps the references. -/
theorem Referenced.detailed (h : Referenced db) {row : ReconstructionRow}
    (hversions : db' .reconstructions = db .reconstructions ++ [row])
    (hdetail : Detailed env work row.id db db') : Referenced db' := by
  obtain ⟨dayRows, hday⟩ := hdetail.days
  constructor
  · rw [hday.appended, hversions]
    intro d hd
    rcases List.mem_append.mp hd with hold | hnew
    · obtain ⟨r, hr, hid⟩ := h.days d hold
      exact ⟨r, List.mem_append_left _ hr, hid⟩
    · obtain ⟨_, _, hrow⟩ := exists_of_mem_right hday.made hnew
      exact ⟨row, List.mem_append_right _ (List.mem_singleton_self row), hrow.version.symm⟩
  · intro b hb
    rw [hday.appended]
    rcases (hdetail.bindings b).mp hb with hold | ⟨item, hitem, hmem⟩
    · obtain ⟨d, hd, hid⟩ := h.bindings b hold
      exact ⟨d, List.mem_append_left _ hd, hid⟩
    · obtain ⟨d, hd, hrow⟩ := exists_of_mem hday.made hitem
      obtain ⟨_, _, _, _, _, _, rfl⟩ := mem_dayBindings.mp hmem
      exact ⟨d, List.mem_append_right _ hd, hrow.id⟩

variable [Sha256] [TzDatabase] [CharacterTables] {w w' : World} {c : Call}

theorem Referenced.step (h : Referenced w.db) (hstep : Transition w env c w') :
    Referenced w'.db := by
  have hperipheral {db : Db} (hsame : SameExcept peripheralTables w.db db) : Referenced db :=
    h.of_same (hsame _ (by decide)) (hsame _ (by decide)) (hsame _ (by decide))
  cases c with
  | completeReconstruction lease rows =>
      cases hstep with
      | refused => exact h
      | peripheral _ db hsame => exact hperipheral hsame
      | completedReconstruction _ _ work r db _ _ hok =>
          rcases completeReconstruction_detailed hok with
            ⟨hsame, _⟩ | ⟨row, _, _, hversions, hdetail⟩
          · exact h.of_same (hsame _ (by decide)) (hsame _ (by decide)) (hsame _ (by decide))
          · exact h.detailed hversions hdetail
  | completeRule lease fingerprint candidates decision =>
      cases hstep with
      | refused => exact h
      | peripheral _ db hsame => exact hperipheral hsame
      | completedRule _ _ _ _ r db _ hok =>
          obtain ⟨hwritten, t, new, _, ⟨_, hsame, _⟩ | hsearch⟩ := completeRule_ok hok
          · exact h.of_same (hsame _ (by decide)) (hsame _ (by decide)) (hsame _ (by decide))
          · obtain ⟨f, hdays, hf⟩ := hsearch.decides.days
            refine h.of_days (hwritten _ (by decide)) (hwritten _ (by decide)) hdays fun d => ?_
            obtain ⟨rate, hrate⟩ := (hf d).same
            rw [hrate]
            exact ⟨rfl, rfl⟩
  | _ =>
      exact h.of_same (table_frame hstep rfl) (table_frame hstep rfl) (table_frame hstep rfl)

/-- In every run days and bindings refer to what is known. -/
theorem referenced_of_run {allowed : World → TxnEnv → Call → Prop} (h : Run allowed w) :
    Referenced w.db :=
  h.invariant (fun w => Referenced w.db) referenced_initial fun _ _ _ _ h _ hstep => h.step hstep

end Detailed

/-! ## What is bound -/

/-- An event with the reference is bound to the day. -/
def Binds (db : Db) (dayId : Uuid) (ref : String) : Prop :=
  ∃ b ∈ db .dayEventBindings, b.chargedDayId = dayId ∧
    ∃ e ∈ db .reconstructionEvents, e.id = b.reconstructionEventId ∧ e.publicRef = ref

theorem eventKey_of_conflicts (a b : ReconstructionEvent)
    (h : conflicts .reconstructionEvents a b = false) : a.id ≠ b.id := by
  simp only [conflicts, decide_eq_false_iff_not, not_or] at h
  exact h.1

theorem eventRef_of_conflicts (a b : ReconstructionEvent)
    (h : conflicts .reconstructionEvents a b = false) :
    (a.reconstructionId, a.publicRef) ≠ (b.reconstructionId, b.publicRef) := by
  simp only [conflicts, decide_eq_false_iff_not, not_or] at h
  exact fun heq => h.2 (Prod.mk.inj heq)

theorem dayKey_of_conflicts (a b : ReconstructionChargedDay)
    (h : conflicts .chargedDays a b = false) : a.id ≠ b.id := by
  simp only [conflicts, decide_eq_false_iff_not, not_or] at h
  exact h.1

section Bound

variable {env : TxnEnv} {work : ReconstructionWork} {reconstructionId : Uuid} {db db' : Db}

theorem exists_mem_zipIdx {α : Type} {x : α} {xs : List α} (h : x ∈ xs) :
    ∃ i, (x, i) ∈ xs.zipIdx := by
  obtain ⟨i, hi⟩ := List.getElem?_of_mem h
  exact ⟨i, List.mk_mem_zipIdx_iff_getElem?.mpr hi⟩

/-- The events of a version have distinct references. -/
theorem Detailed.eq_of_ref (h : Detailed env work reconstructionId db db') {e e' : NormalizedEvent}
    (he : e ∈ work.events) (he' : e' ∈ work.events) (heq : e.publicRef = e'.publicRef) : e = e' := by
  obtain ⟨rows, happends⟩ := h.events
  have hnodup := happends.nodup eventRef_of_conflicts
    (f := fun item => (reconstructionId, item.1.publicRef)) fun item row hrow => by
      rw [hrow.version, hrow.ref]
  obtain ⟨i, hi⟩ := exists_mem_zipIdx he
  obtain ⟨j, hj⟩ := exists_mem_zipIdx he'
  have hitem := List.inj_on_of_nodup_map hnodup hi hj (congrArg (Prod.mk reconstructionId) heq)
  exact congrArg Prod.fst hitem

/-- The row of an event is the one with its identifier. -/
theorem Detailed.event_row (h : Detailed env work reconstructionId db db')
    {item : NormalizedEvent × Nat} (hitem : item ∈ work.events.zipIdx) :
    (∃ row ∈ db' .reconstructionEvents, row.id = env.uuid (10 + item.2) ∧
      row.publicRef = item.1.publicRef) ∧
    ∀ row ∈ db' .reconstructionEvents, row.id = env.uuid (10 + item.2) →
      row.publicRef = item.1.publicRef := by
  obtain ⟨rows, happends⟩ := h.events
  obtain ⟨new, hnew, hrow⟩ := exists_of_mem happends.made hitem
  refine ⟨⟨new, ?_, hrow.id, hrow.ref⟩, fun row hmem hid => ?_⟩
  · rw [happends.appended]
    exact List.mem_append_right _ hnew
  · rw [happends.unique eventKey_of_conflicts hnew hmem (hid.trans hrow.id.symm)]
    exact hrow.ref

/-- What is bound to a day of the version comes from its own roles. -/
theorem Detailed.bindings_of_day (h : Detailed env work reconstructionId db db')
    (hreferenced : Referenced db) {item : ChargedDayResult × Nat} (hitem : item ∈ work.days.zipIdx)
    {b : ReconstructionDayEventBinding}
    (hday : b.chargedDayId = env.uuid (10 + work.events.length + item.2)) :
    b ∈ db' .dayEventBindings ↔ b ∈ dayBindings (eventRowIds env 10 work.events)
      (env.uuid (10 + work.events.length + item.2)) (rolesOf work.dayEventRoles item.1) := by
  obtain ⟨rows, happends⟩ := h.days
  rw [h.bindings b]
  constructor
  · rintro (hold | ⟨item', hitem', hmem⟩)
    · obtain ⟨d, hd, hid⟩ := hreferenced.bindings b hold
      obtain ⟨new, hnew, hrow⟩ := exists_of_mem happends.made hitem
      have hne := dayKey_of_conflicts _ _ (happends.fresh new hnew d hd)
      exact absurd (hrow.id.trans (hday.symm.trans hid.symm)) hne
    · have hnodup := happends.nodup dayKey_of_conflicts
        (f := fun item => env.uuid (10 + work.events.length + item.2))
        fun item row hrow => hrow.id.symm
      obtain ⟨_, _, _, _, _, _, rfl⟩ := mem_dayBindings.mp hmem
      obtain rfl := List.inj_on_of_nodup_map hnodup hitem' hitem hday
      exact hmem
  · exact fun hmem => Or.inr ⟨item, hitem, hmem⟩

/-- The references bound to a day are those of its roles that some event has. -/
theorem Detailed.binds_iff (h : Detailed env work reconstructionId db db')
    (hreferenced : Referenced db) {item : ChargedDayResult × Nat} (hitem : item ∈ work.days.zipIdx)
    (ref : String) :
    Binds db' (env.uuid (10 + work.events.length + item.2)) ref ↔
      (∃ role ∈ rolesOf work.dayEventRoles item.1, ref ∈ role.2) ∧
        ∃ e ∈ work.events, e.publicRef = ref := by
  have hfound {ref' : String} {p : String × Uuid}
      (hp : (eventRowIds env 10 work.events).reverse.find? (fun p => p.1 = ref') = some p) :
      ∃ e ∈ work.events.zipIdx, e.1.publicRef = ref' ∧ p.2 = env.uuid (10 + e.2) := by
    have hmem := List.mem_reverse.mp (List.mem_of_find?_eq_some hp)
    have href : p.1 = ref' := by simpa using List.find?_some hp
    obtain ⟨e, he, rfl⟩ := List.mem_map.mp hmem
    exact ⟨e, he, href, rfl⟩
  constructor
  · rintro ⟨b, hb, hday, row, hrow, hid, href⟩
    rw [h.bindings_of_day hreferenced hitem hday] at hb
    obtain ⟨role, hrole, ref', href', p, hp, rfl⟩ := mem_dayBindings.mp hb
    obtain ⟨e, he, heref, hpid⟩ := hfound hp
    have hsame := (h.event_row he).2 row hrow (hid.trans hpid)
    obtain rfl : ref' = ref := heref.symm.trans (hsame.symm.trans href)
    exact ⟨⟨role, hrole, href'⟩, e.1, List.fst_mem_of_mem_zipIdx he, heref⟩
  · rintro ⟨⟨role, hrole, href⟩, e, he, heref⟩
    obtain ⟨i, hi⟩ := exists_mem_zipIdx he
    obtain ⟨p, hp⟩ : ∃ p, (eventRowIds env 10 work.events).reverse.find? (fun p => p.1 = ref) =
        some p := by
      refine Option.isSome_iff_exists.mp (List.find?_isSome.mpr ⟨(e.publicRef, env.uuid (10 + i)),
        List.mem_reverse.mpr (List.mem_map.mpr ⟨(e, i), hi, rfl⟩), decide_eq_true heref⟩)
    obtain ⟨x, hx, hxref, hpid⟩ := hfound hp
    obtain ⟨row, hrow, hid, hrowRef⟩ := (h.event_row hx).1
    refine ⟨⟨_, p.2, role.1⟩, ?_, rfl, row, hrow, hid.trans hpid.symm, hrowRef.trans hxref⟩
    rw [h.bindings_of_day hreferenced hitem rfl]
    exact mem_dayBindings.mpr ⟨role, hrole, ref, href, p, hp, rfl⟩

end Bound

/-! ## What a day is adjudicated on -/

/-- The references of the availability, free-time and gate-out events. -/
def boundaryEventRefs (events : List NormalizedEvent) : List String :=
  boundaryRefs [eventsOfType .available events, eventsOfType .freeTimeEnd events,
    eventsOfType .gateOut events]

section Adjudicated

variable {events : List NormalizedEvent} {chargeDate : Date} {ref : String}

theorem mem_boundaryEventRefs :
    ref ∈ boundaryEventRefs events ↔ ∃ e ∈ events, e.publicRef = ref ∧
      (e.eventType = .available ∨ e.eventType = .freeTimeEnd ∨ e.eventType = .gateOut) := by
  have hgroup (t : ShipmentEventType) :
      ref ∈ (eventsOfType t events).map NormalizedEvent.publicRef ↔
        ∃ e ∈ events, e.publicRef = ref ∧ e.eventType = t := by
    unfold eventsOfType
    simp only [List.mem_map, List.mem_filter, decide_eq_true_eq]
    constructor
    · rintro ⟨e, ⟨he, ht⟩, hr⟩
      exact ⟨e, he, hr, ht⟩
    · rintro ⟨e, he, hr, ht⟩
      exact ⟨e, ⟨he, ht⟩, hr⟩
  unfold boundaryEventRefs boundaryRefs
  simp only [List.flatMap_cons, List.flatMap_nil, List.append_nil, List.mem_append, hgroup]
  constructor
  · rintro (⟨e, he, hr, ht⟩ | ⟨e, he, hr, ht⟩ | ⟨e, he, hr, ht⟩)
    · exact ⟨e, he, hr, Or.inl ht⟩
    · exact ⟨e, he, hr, Or.inr (Or.inl ht)⟩
    · exact ⟨e, he, hr, Or.inr (Or.inr ht)⟩
  · rintro ⟨e, he, hr, ht | ht | ht⟩
    · exact Or.inl ⟨e, he, hr, ht⟩
    · exact Or.inr (Or.inl ⟨e, he, hr, ht⟩)
    · exact Or.inr (Or.inr ⟨e, he, hr, ht⟩)

/-- A complete day is adjudicated on the boundary events and its access snapshot. -/
theorem eventRefs_complete {invoiceRateMinor : Int} {currency : String}
    {boundary : Option ChargeBoundary}
    (h : (adjudicateChargedDay invoiceRateMinor currency events boundary chargeDate).state =
      .sourceComplete) :
    (adjudicateChargedDay invoiceRateMinor currency events boundary chargeDate).eventRefs =
      boundaryEventRefs events ++ ((snapshotOn events chargeDate).map
        NormalizedEvent.publicRef).toList := by
  rw [adjudicateChargedDay_eq] at h ⊢
  cases hcodes : absentCodes events chargeDate with
  | cons m ms => simp [hcodes] at h
  | nil =>
      cases boundary with
      | none => simp [hcodes] at h
      | some b =>
          simp only [hcodes] at h ⊢
          by_cases hin : b.firstChargeableDate ≤ chargeDate ∧ chargeDate ≤ b.lastChargeableDate
          · rw [if_pos hin]
            unfold boundaryEventRefs boundaryRefs
            cases snapshotOn events chargeDate <;> simp
          · rw [if_neg hin] at h
            simp at h

/-- The worker gives every complete day the boundary events. -/
theorem rolesOf_complete {days : List ChargedDayResult} {day : ChargedDayResult} (hday : day ∈ days)
    (hcomplete : day.state = .sourceComplete) :
    (∃ role ∈ rolesOf (dayEventRoles days events) day, ref ∈ role.2) ↔
      ref ∈ boundaryEventRefs events := by
  obtain ⟨p, hp⟩ : ∃ p, (dayEventRoles days events).reverse.find?
      (fun p => p.1 = day.chargeDate) = some p := by
    refine Option.isSome_iff_exists.mp (List.find?_isSome.mpr ⟨_, List.mem_reverse.mpr
      (List.mem_map.mpr ⟨day, List.mem_filter.mpr ⟨hday, ?_⟩, rfl⟩), decide_eq_true rfl⟩)
    simp [hcomplete]
  obtain ⟨d, _, rfl⟩ := List.mem_map.mp (List.mem_reverse.mp (List.mem_of_find?_eq_some hp))
  unfold rolesOf
  rw [hp]
  unfold boundaryEventRefs boundaryRefs
  simp

/-- The days and roles of the work of an attempt. -/
theorem reconstructionWork_days [TzDatabase] {lease : ReconstructionTaskLease}
    {rows : List RawEventRow} {work : ReconstructionWork}
    (h : reconstructionWork lease rows = .ok work) :
    work.dayEventRoles = dayEventRoles work.days work.events ∧
      ∃ boundary, work.days = adjudicateChargedDays lease.chargeDates lease.invoiceRateMinor
        lease.currency work.events boundary := by
  unfold reconstructionWork at h
  dsimp only at h
  cases hboundary : resolveChargeBoundary (validateEvents rows lease.knowledgeCutoffAt
      lease.shipmentRef lease.containerRef).accepted effectiveTimezone with
  | error e =>
      rw [hboundary] at h
      exact absurd h (by simp [bind, Except.bind])
  | ok boundary =>
      rw [hboundary] at h
      obtain rfl : _ = work := Except.ok.inj h
      exact ⟨rfl, boundary, rfl⟩

end Adjudicated

/-! ## Agreement -/

/-- The row of a day of a version. -/
def IsRowOf (reconstructionId : Uuid) (day : ChargedDayResult) (row : ReconstructionChargedDay) :
    Prop :=
  row.reconstructionId = reconstructionId ∧ row.chargeDate = day.chargeDate

/-- The events bound to each complete day of a version are those it was adjudicated on. -/
def BoundAsAdjudicated (work : ReconstructionWork) (reconstructionId : Uuid) (db : Db) : Prop :=
  ∀ day ∈ work.days, day.state = .sourceComplete →
    (∃ row ∈ db .chargedDays, IsRowOf reconstructionId day row) ∧
      ∀ row ∈ db .chargedDays, IsRowOf reconstructionId day row →
        ∀ ref, Binds db row.id ref ↔ ref ∈ day.eventRefs

section Agreement

variable [TzDatabase] {env : TxnEnv} {lease : ReconstructionTaskLease} {rows : List RawEventRow}
  {work : ReconstructionWork} {reconstructionId : Uuid} {db db' : Db}

/-- A day of the work is the one result of its date. -/
theorem day_of_date (hwork : reconstructionWork lease rows = .ok work) {day day' : ChargedDayResult}
    (hday : day ∈ work.days) (hday' : day' ∈ work.days)
    (hdate : day.chargeDate = day'.chargeDate) : day = day' := by
  obtain ⟨_, boundary, hdays⟩ := reconstructionWork_days hwork
  rw [hdays] at hday hday'
  obtain ⟨date, _, rfl⟩ := List.mem_map.mp hday
  obtain ⟨date', _, rfl⟩ := List.mem_map.mp hday'
  rw [(adjudicateChargedDay_cases _ _ _ _ _).1, (adjudicateChargedDay_cases _ _ _ _ _).1] at hdate
  rw [hdate]

/-- What a complete day of the work is adjudicated on. -/
theorem eventRefs_work (hwork : reconstructionWork lease rows = .ok work) {day : ChargedDayResult}
    (hday : day ∈ work.days) (hcomplete : day.state = .sourceComplete) :
    day.eventRefs = boundaryEventRefs work.events ++
      ((snapshotOn work.events day.chargeDate).map NormalizedEvent.publicRef).toList := by
  obtain ⟨_, boundary, hdays⟩ := reconstructionWork_days hwork
  rw [hdays] at hday
  obtain ⟨date, _, rfl⟩ := List.mem_map.mp hday
  rw [eventRefs_complete hcomplete, (adjudicateChargedDay_cases _ _ _ _ _).1]

/-- The references bound to a complete day are those of the boundary events. -/
theorem Detailed.binds_complete (h : Detailed env work reconstructionId db db')
    (hreferenced : Referenced db) (hunknown : ∀ x ∈ db .reconstructions, x.id ≠ reconstructionId)
    (hwork : reconstructionWork lease rows = .ok work) {day : ChargedDayResult}
    (hday : day ∈ work.days) (hcomplete : day.state = .sourceComplete) :
    (∃ row ∈ db' .chargedDays, IsRowOf reconstructionId day row) ∧
      ∀ row ∈ db' .chargedDays, IsRowOf reconstructionId day row →
        ∀ ref, Binds db' row.id ref ↔ ref ∈ boundaryEventRefs work.events := by
  obtain ⟨dayRows, happends⟩ := h.days
  constructor
  · obtain ⟨i, hi⟩ := exists_mem_zipIdx hday
    obtain ⟨row, hmem, hrow⟩ := exists_of_mem happends.made hi
    refine ⟨row, ?_, hrow.version, hrow.date⟩
    rw [happends.appended]
    exact List.mem_append_right _ hmem
  · rintro row hmem ⟨hversion, hdate⟩ ref
    rw [happends.appended] at hmem
    rcases List.mem_append.mp hmem with hold | hnew
    · obtain ⟨x, hx, hid⟩ := hreferenced.days row hold
      exact absurd (hid.trans hversion) (hunknown x hx)
    · obtain ⟨item, hitem, hrow⟩ := exists_of_mem_right happends.made hnew
      have hmine := List.fst_mem_of_mem_zipIdx hitem
      obtain rfl := day_of_date hwork hmine hday (hrow.date.symm.trans hdate)
      rw [hrow.id, h.binds_iff hreferenced hitem, (reconstructionWork_days hwork).1,
        rolesOf_complete hday hcomplete]
      refine and_iff_left_of_imp fun href => ?_
      obtain ⟨e, he, heref, _⟩ := mem_boundaryEventRefs.mp href
      exact ⟨e, he, heref⟩

/-- For every reconstruction the worker completes, the events bound to each complete day are
those of its result exactly when no accepted access snapshot stands for such a day.
SOURCE: platform/reconstruction_worker.py:235-253,
platform/reconstruction_repository.py:403-436, core/reconstruction.py:391-415 -/
theorem boundAsAdjudicated_iff [Sha256] {r : ReconstructionCompletion}
    (hreferenced : Referenced db) (hwork : reconstructionWork lease rows = .ok work)
    (hnew : ∀ x ∈ db .reconstructions, ¬(x.invoiceId = lease.invoiceId ∧
      x.inputFingerprint = lease.inputFingerprint))
    (h : completeReconstruction env lease work db = .ok (r, db')) :
    BoundAsAdjudicated work r.reconstructionId db' ↔
      ∀ day ∈ work.days, day.state = .sourceComplete → ¬AccessOn work.events day.chargeDate := by
  rcases completeReconstruction_detailed h with
    ⟨_, x, hx, hfound⟩ | ⟨row, hid, hfresh, _, hdetail⟩
  · exact absurd hfound (hnew x hx)
  rw [← hid]
  refine forall_congr' fun day => forall_congr' fun hday => forall_congr' fun hcomplete => ?_
  obtain ⟨hexists, hbinds⟩ := hdetail.binds_complete hreferenced hfresh hwork hday hcomplete
  have hrefs := eventRefs_work hwork hday hcomplete
  constructor
  · rintro ⟨⟨x, hx, hrow⟩, hbound⟩ haccess
    cases hsnapshot : snapshotOn work.events day.chargeDate with
    | none => exact snapshotOn_isNone.mp (by rw [hsnapshot]; rfl) haccess
    | some s =>
        -- The reference of the snapshot is that of no boundary event.
        have hs : s ∈ work.events ∧ s.eventType = .terminalAccessSnapshot := by
          simpa [eventsOfType] using List.mem_of_find?_eq_some hsnapshot
        have href : s.publicRef ∈ day.eventRefs := by
          rw [hrefs, hsnapshot]
          simp
        obtain ⟨e, he, heref, htype⟩ := mem_boundaryEventRefs.mp
          ((hbinds x hx hrow _).mp ((hbound x hx hrow _).mpr href))
        obtain rfl := hdetail.eq_of_ref he hs.1 heref
        simp [hs.2] at htype
  · intro haccess
    refine ⟨hexists, fun x hx hrow ref => ?_⟩
    have hnone : snapshotOn work.events day.chargeDate = none :=
      Option.isNone_iff_eq_none.mp (snapshotOn_isNone.mpr haccess)
    rw [hbinds x hx hrow ref, hrefs, hnone]
    simp

end Agreement

/-! ## A completed day with its snapshot -/

section Case
open Sample

local instance caseDigest : Sha256 := Sha256.standard
local instance caseZone : TzDatabase := zone

/-- A claimed reconstruction of the tenth of June 2026. -/
def caseLease : ReconstructionTaskLease :=
  { taskId := 2
    attempt := 1
    workerId := "w"
    invoiceId := 1
    knowledgeCutoffAt := (env 0).now
    inputFingerprint := "f"
    claimSetVersion := 1
    shipmentRef := "TLLU4829317"
    containerRef := "TLLU4829317"
    invoiceRateMinor := 30000
    currency := "USD"
    chargeDates := (Date.ofYmd 2026 6 10).toList
    initiatedBy := none
    actorDisplay := "clerk" }

/-- The rows of the invoice, of its claimed task and of the source of its events. -/
def caseDb : Db := fun
  | .invoices => [⟨1, 7, none, 0, "00ff", "a.pdf", .reconstructing, .readyForReconstruction,
      .reconstructing, 5, 5, some 1⟩]
  | .workflowTasks => [⟨2, 1, .startReconstruction, 1, .running, none, "clerk", (env 0).now, "f",
      [], 1, some "w", some ((env 1).now + seconds 90), none, 0⟩]
  | .workflowTaskAttempts => [⟨2, 1, .running, "w"⟩]
  | .sourceArtifacts => [artifact]
  | t => Db.empty t

/-- What the worker makes of rows under the lease, and what it leaves behind. -/
def completed (rows : List RawEventRow) :
    Option (ReconstructionWork × ReconstructionCompletion × Db) :=
  match reconstructionWork caseLease rows with
  | .ok work =>
      match completeReconstruction (env 1) caseLease work caseDb with
      | .ok (r, db') => some (work, r, db')
      | .error _ => none
  | .error _ => none

theorem completed_eq {rows : List RawEventRow} {work : ReconstructionWork}
    {r : ReconstructionCompletion} {db' : Db} (h : completed rows = some (work, r, db')) :
    reconstructionWork caseLease rows = .ok work ∧
      completeReconstruction (env 1) caseLease work caseDb = .ok (r, db') := by
  unfold completed at h
  cases hwork : reconstructionWork caseLease rows with
  | error e => simp [hwork] at h
  | ok work' =>
      cases hdone : completeReconstruction (env 1) caseLease work' caseDb with
      | error e => simp [hwork, hdone] at h
      | ok result =>
          simp only [hwork, hdone, Option.some.injEq, Prod.mk.injEq] at h
          obtain ⟨rfl, rfl, rfl⟩ := h
          exact ⟨rfl, hdone⟩

theorem referenced_caseDb : Referenced caseDb :=
  ⟨fun _ hd => absurd hd List.not_mem_nil, fun _ hb => absurd hb List.not_mem_nil⟩

theorem boundAsAdjudicated_sample : ∃ work r db',
    reconstructionWork caseLease eventRows = .ok work ∧
      completeReconstruction (env 1) caseLease work caseDb = .ok (r, db') ∧
      (BoundAsAdjudicated work r.reconstructionId db' ↔
        ∀ day ∈ work.days, day.state = .sourceComplete →
          ¬AccessOn work.events day.chargeDate) := by
  have hsome : (completed eventRows).isSome = true := by decide +kernel
  obtain ⟨⟨work, r, db'⟩, hcompleted⟩ := Option.isSome_iff_exists.mp hsome
  obtain ⟨hwork, hdone⟩ := completed_eq hcompleted
  exact ⟨work, r, db', hwork, hdone, boundAsAdjudicated_iff referenced_caseDb hwork
    (fun _ hx => absurd hx List.not_mem_nil) hdone⟩

/-- The snapshot of the tenth is among the references of its day, and not bound to it. -/
theorem snapshot_unbound : ∃ work r db',
    reconstructionWork caseLease sourcedRows = .ok work ∧
      completeReconstruction (env 1) caseLease work caseDb = .ok (r, db') ∧
      ¬BoundAsAdjudicated work r.reconstructionId db' := by
  have hcase : (completed sourcedRows).any (fun c => c.1.days.any fun day =>
      decide (day.state = .sourceComplete ∧ "A2" ∈ day.eventRefs ∧
        ∀ row ∈ c.2.2 .chargedDays, row.chargeDate = day.chargeDate →
          ∀ b ∈ c.2.2 .dayEventBindings, b.chargedDayId = row.id →
            ∀ e ∈ c.2.2 .reconstructionEvents, e.id = b.reconstructionEventId →
              e.publicRef ≠ "A2")) = true := by
    decide +kernel
  obtain ⟨⟨work, r, db'⟩, hcompleted, hany⟩ := (Option.any_eq_true _ _).mp hcase
  obtain ⟨hwork, hdone⟩ := completed_eq hcompleted
  refine ⟨work, r, db', hwork, hdone, fun hbound => ?_⟩
  obtain ⟨day, hday, hsnapshot⟩ := List.any_eq_true.mp hany
  obtain ⟨hcomplete, href, hnone⟩ := of_decide_eq_true hsnapshot
  obtain ⟨⟨row, hrow, hversion, hdate⟩, hbinds⟩ := hbound day hday hcomplete
  obtain ⟨b, hb, hid, e, he, heid, heref⟩ := (hbinds row hrow ⟨hversion, hdate⟩ "A2").mpr href
  exact hnone row hrow hdate b hb hid e he heid heref

end Case

end Tally.Analysis.DayBindings
