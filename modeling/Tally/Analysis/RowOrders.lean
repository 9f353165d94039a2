import Mathlib.Data.List.Perm.Basic
import Mathlib.Data.List.TakeWhile
import Tally.Analysis.SealRuns
import Tally.Library.Pointwise
import Tally.Model.SealedMemory

/-!
# Orders of the rows of a sealed memory

The rows of a sealed case are compared with the first of them, field by field; the manifest is
read of the first one and not compared. So the order of the rows decides what is answered when
two rows agree in the compared fields and carry different manifests, and it does not when rows
that agree carry the same values.
-/

set_option autoImplicit false

namespace Tally.Analysis.RowOrders
open Library Library.Sha256 Tally.Model SealedMemory
open List (Forall₂)
open CaseSeal (Mapping contentHash evidenceHash storedContentHashMatches)
open EvidenceBindings (contentMapping flattenedBinding memoryBinding)
open CockroachMcp (JsonDecoder)

/-! ## Checks that pass -/

theorem require_eq_ok {passes : Bool} {message : String} :
    require passes message = .ok () ↔ passes = true := by
  unfold require
  split
  · rename_i hpasses
    exact ⟨fun _ => hpasses, fun _ => rfl⟩
  · rename_i hfails
    constructor
    · intro h
      cases h
    · intro hpasses
      exact absurd hpasses hfails

/-- The rows agree in the compared fields. -/
def Agree (first row : Mapping) : Prop :=
  ∀ field ∈ comparedFields, equals (CaseSeal.get row field) (CaseSeal.get first field) = true

theorem compareWith_eq_ok {first row : Mapping} :
    compareWith first row = .ok () ↔ Agree first row := by
  unfold compareWith Agree
  split
  · rename_i field hfound
    constructor
    · intro h
      cases h
    · intro hagree
      have hdiffers := List.find?_some hfound
      rw [hagree field (List.mem_of_find?_eq_some hfound)] at hdiffers
      cases hdiffers
  · rename_i hnone
    refine ⟨fun _ field hfield => ?_, fun _ => rfl⟩
    have hequal := List.find?_eq_none.mp hnone field hfield
    simpa using hequal

/-! ## The binding of a row -/

/-- The columns of a piece of evidence in a row. -/
structure Carries (row : Mapping) (e : CaseSeal.EvidenceRow) : Prop where
  kind : CaseSeal.get row "evidence_kind" = .str e.kind
  sourceTable : CaseSeal.get row "source_table" = .str e.sourceTable
  sourceId : CaseSeal.get row "source_id" = .str e.sourceId
  content : CaseSeal.get row "evidence_content" = e.content
  contentSha256 : CaseSeal.get row "content_sha256" = .str e.contentSha256
  isSealed : CaseSeal.get row "evidence_sealed" = .bool e.sealed

section Binding

variable [Interpreter] [Sha256] [JsonDecoder]

omit [Interpreter] [Sha256] in
theorem mapping_eq_ok {value : Value} {field : String} {content : Mapping} :
    mapping value field = .ok content ↔ contentMapping value = some content := by
  cases value with
  | dict members =>
      unfold mapping contentMapping CaseSeal.jsonValue
      constructor
      · intro h
        exact congrArg some (Except.ok.inj h)
      · intro h
        exact congrArg Except.ok (Option.some.inj h)
  | str text =>
      unfold mapping contentMapping CaseSeal.jsonValue
      dsimp only
      cases JsonDecoder.loads text.toList with
      | error error => cases error <;> simp
      | ok value => cases value <;> simp
  | null => simp [mapping, contentMapping, CaseSeal.jsonValue]
  | bool _ => simp [mapping, contentMapping, CaseSeal.jsonValue]
  | int _ => simp [mapping, contentMapping, CaseSeal.jsonValue]
  | float _ => simp [mapping, contentMapping, CaseSeal.jsonValue]
  | list _ => simp [mapping, contentMapping, CaseSeal.jsonValue]

omit [Interpreter] [Sha256] [JsonDecoder] in
theorem checkFlattened_eq_ok {item content : Mapping} :
    checkFlattened item content = .ok () ↔ flattenedBinding item content = true := by
  unfold checkFlattened flattenedBinding
  rw [List.all_eq_true]
  split
  · rename_i member hfound
    constructor
    · intro h
      cases h
    · intro hall
      have hmissing := List.find?_some hfound
      have hstands : flattenedMember item member = true :=
        hall member (List.mem_of_find?_eq_some hfound)
      rw [hstands] at hmissing
      cases hmissing
  · rename_i hnone
    refine ⟨fun _ member hmember => ?_, fun _ => rfl⟩
    have hstands : flattenedMember item member = true := by
      simpa using List.find?_eq_none.mp hnone member hmember
    exact hstands

omit [Sha256] [JsonDecoder] in
theorem checkComparisons_eq_ok {row item : Mapping} :
    checkComparisons row item = .ok () ↔
      ∀ c ∈ comparisons row, (CaseSeal.get item c.1).text = c.2.text := by
  unfold checkComparisons
  split
  · rename_i c hfound
    constructor
    · intro h
      cases h
    · intro hall
      have hdiffers := List.find?_some hfound
      exact absurd (hall c (List.mem_of_find?_eq_some hfound)) (of_decide_eq_true hdiffers)
  · rename_i hnone
    refine ⟨fun _ c hc => ?_, fun _ => rfl⟩
    simpa using List.find?_eq_none.mp hnone c hc

omit [Sha256] [JsonDecoder] in
/-- The four texts that are compared. -/
theorem forall_comparisons {row item : Mapping} {e : CaseSeal.EvidenceRow} (h : Carries row e) :
    (∀ c ∈ comparisons row, (CaseSeal.get item c.1).text = c.2.text) ↔
      (CaseSeal.get item "kind").text = e.kind ∧
        (CaseSeal.get item "source_table").text = e.sourceTable ∧
        (CaseSeal.get item "source_id").text = e.sourceId ∧
        (CaseSeal.get item "content_sha256").text = e.contentSha256 := by
  unfold comparisons
  rw [h.kind, h.sourceTable, h.sourceId, h.contentSha256]
  simp only [List.forall_mem_cons, Value.text, List.not_mem_nil, false_imp_iff, implies_true,
    and_true]

/-- The check of a row is the binding of its piece of evidence. -/
theorem checkBinding_eq_ok {row item : Mapping} {e : CaseSeal.EvidenceRow} (h : Carries row e) :
    checkBinding row item = .ok () ↔ memoryBinding e item = true := by
  have hchecks : checkComparisons row item = .ok () ↔ _ :=
    checkComparisons_eq_ok.trans (forall_comparisons h)
  unfold checkBinding memoryBinding
  rw [h.isSealed, h.content, h.contentSha256]
  constructor
  · intro hrun
    obtain ⟨_, hsealed, hrun⟩ := bind_eq_ok.mp hrun
    obtain ⟨content, hcontent, hrun⟩ := bind_eq_ok.mp hrun
    obtain ⟨_, hhash, hrun⟩ := bind_eq_ok.mp hrun
    obtain ⟨_, hsame, hrun⟩ := bind_eq_ok.mp hrun
    obtain ⟨_, hflattened, hrun⟩ := bind_eq_ok.mp hrun
    obtain ⟨hkind, htable, hsource, hsha⟩ := hchecks.mp hrun
    rw [mapping_eq_ok.mp hcontent]
    dsimp only
    rw [show e.sealed = true from require_eq_ok.mp hsealed,
      show storedContentHashMatches e.contentSha256 (contentHash content) = true from
        require_eq_ok.mp hhash, require_eq_ok.mp hsame, checkFlattened_eq_ok.mp hflattened,
      hkind, htable, hsource, hsha]
    simp only [Bool.and_self, decide_true]
  · intro hbinding
    cases hcontent : contentMapping e.content with
    | none =>
        rw [hcontent] at hbinding
        cases hbinding
    | some content =>
        rw [hcontent] at hbinding
        simp only [Bool.and_eq_true, decide_eq_true_eq] at hbinding
        obtain ⟨⟨⟨⟨⟨⟨⟨hsealed, hhash⟩, hsame⟩, hflattened⟩, hkind⟩, htable⟩, hsource⟩, hsha⟩ :=
          hbinding
        refine bind_eq_ok.mpr ⟨(), require_eq_ok.mpr hsealed, ?_⟩
        refine bind_eq_ok.mpr ⟨content, mapping_eq_ok.mpr hcontent, ?_⟩
        refine bind_eq_ok.mpr ⟨(), require_eq_ok.mpr hhash, ?_⟩
        refine bind_eq_ok.mpr ⟨(), require_eq_ok.mpr hsame, ?_⟩
        refine bind_eq_ok.mpr ⟨(), checkFlattened_eq_ok.mpr hflattened, ?_⟩
        exact hchecks.mpr ⟨hkind, htable, hsource, hsha⟩

end Binding

section Validation

variable [Interpreter] [Sha256] [JsonDecoder]

/-- A row passes, under its id. -/
structure RowPasses (first : Mapping) (items : ManifestItems) (row : Mapping) (id : String) :
    Prop where
  agrees : Agree first row
  named : canonicalUuid (CaseSeal.get row "evidence_id") "evidence_id" = .ok id
  bound : ∃ item, itemOf items id = .ok item ∧ checkBinding row item = .ok ()

/-- The loop returns the ids of the rows when every row passes and no id comes twice. -/
theorem checkRows_eq_ok {first : Mapping} {items : ManifestItems} {returned out : List String}
    {rows : List Mapping} (hnodup : returned.Nodup) :
    checkRows first items returned rows = .ok out ↔
      ∃ ids, Forall₂ (RowPasses first items) rows ids ∧ (returned ++ ids).Nodup ∧
        out = returned ++ ids := by
  induction rows generalizing returned with
  | nil =>
      rw [checkRows]
      constructor
      · intro h
        refine ⟨[], .nil, ?_, ?_⟩
        · rwa [List.append_nil]
        · rw [List.append_nil]
          exact (Except.ok.inj h).symm
      · rintro ⟨ids, hids, _, rfl⟩
        cases hids
        rw [List.append_nil]
  | cons row rows ih =>
      rw [checkRows]
      constructor
      · intro h
        obtain ⟨_, hcompare, h⟩ := bind_eq_ok.mp h
        obtain ⟨id, hid, h⟩ := bind_eq_ok.mp h
        obtain ⟨_, hfresh, h⟩ := bind_eq_ok.mp h
        obtain ⟨item, hitem, h⟩ := bind_eq_ok.mp h
        obtain ⟨_, hbinding, h⟩ := bind_eq_ok.mp h
        have hnew : id ∉ returned := of_decide_eq_true (require_eq_ok.mp hfresh)
        have hgrown : (returned ++ [id]).Nodup :=
          List.nodup_append.mpr ⟨hnodup, List.nodup_singleton id, fun a ha b hb hab => by
            rw [List.mem_singleton.mp hb] at hab
            exact hnew (hab ▸ ha)⟩
        obtain ⟨ids, hpass, hall, hout⟩ := (ih hgrown).mp h
        rw [List.append_assoc] at hall hout
        exact ⟨id :: ids,
          .cons ⟨compareWith_eq_ok.mp hcompare, hid, item, hitem, hbinding⟩ hpass, hall, hout⟩
      · rintro ⟨ids, hpass, hall, hout⟩
        cases hpass with
        | @cons _ id _ ids hrow hrows =>
            obtain ⟨hagrees, hid, item, hitem, hbinding⟩ := hrow
            have hsplit : ((returned ++ [id]) ++ ids).Nodup := by
              rw [List.append_assoc]
              exact hall
            have hgrown : (returned ++ [id]).Nodup := (List.nodup_append.mp hsplit).1
            have hnew : id ∉ returned := fun hmem =>
              (List.nodup_append.mp hgrown).2.2 id hmem id (List.mem_singleton.mpr rfl) rfl
            rw [compareWith_eq_ok.mpr hagrees, hid]
            refine bind_eq_ok.mpr ⟨(), rfl, bind_eq_ok.mpr ⟨id, rfl, ?_⟩⟩
            refine bind_eq_ok.mpr ⟨(), require_eq_ok.mpr (decide_eq_true hnew), ?_⟩
            refine bind_eq_ok.mpr ⟨item, hitem, bind_eq_ok.mpr ⟨(), hbinding, ?_⟩⟩
            refine (ih hgrown).mpr ⟨ids, hrows, hsplit, ?_⟩
            rw [hout, List.append_assoc]
            rfl

/-- What a list of rows that is accepted has passed. -/
def Accepted (expected : ExpectedIds) (first : Mapping) (rows : List Mapping)
    (memory : SealedCaseMemory) : Prop :=
  ∃ ids head returned, canonicalIds expected = .ok ids ∧
    checkFirst ids (caseColumns first) = .ok head ∧
    Forall₂ (RowPasses first head.items) rows returned ∧ returned.Nodup ∧
    sameIds returned head.items = true ∧
    project (caseColumns first) head (sortedIds returned) = .ok memory

theorem validate_eq_ok {expected : ExpectedIds} {first : Mapping} {rows : List Mapping}
    {found : Option SealedCaseMemory} :
    validateSealedCaseMemory expected (first :: rows) = .ok found ↔
      ∃ memory, found = some memory ∧ Accepted expected first (first :: rows) memory := by
  rw [validateSealedCaseMemory]
  constructor
  · intro h
    obtain ⟨ids, hids, h⟩ := bind_eq_ok.mp h
    obtain ⟨head, hhead, h⟩ := bind_eq_ok.mp h
    obtain ⟨returned, hreturned, h⟩ := bind_eq_ok.mp h
    obtain ⟨_, hsame, h⟩ := bind_eq_ok.mp h
    obtain ⟨memory, hmemory, h⟩ := bind_eq_ok.mp h
    obtain ⟨rowIds, hpass, hnodup, hout⟩ := (checkRows_eq_ok List.nodup_nil).mp hreturned
    rw [List.nil_append] at hnodup hout
    rw [hout] at hsame hmemory
    refine ⟨memory, (Except.ok.inj h).symm, ?_⟩
    exact ⟨ids, head, rowIds, hids, hhead, hpass, hnodup, require_eq_ok.mp hsame, hmemory⟩
  · rintro ⟨memory, rfl, haccepted⟩
    obtain ⟨ids, head, returned, hids, hhead, hpass, hnodup, hsame, hmemory⟩ := haccepted
    refine bind_eq_ok.mpr ⟨ids, hids, bind_eq_ok.mpr ⟨head, hhead, ?_⟩⟩
    refine bind_eq_ok.mpr ⟨returned, (checkRows_eq_ok List.nodup_nil).mpr ?_, ?_⟩
    · exact ⟨returned, hpass, hnodup, rfl⟩
    · refine bind_eq_ok.mpr ⟨(), require_eq_ok.mpr hsame, ?_⟩
      exact bind_eq_ok.mpr ⟨memory, hmemory, rfl⟩

/-! ## Rows that say the same of the case -/

/-- The rows have the same value in each compared field, and the same manifest. -/
def SameCase (row other : Mapping) : Prop :=
  ∀ field ∈ "evidence_manifest" :: comparedFields,
    CaseSeal.get row field = CaseSeal.get other field

/-- Rows that agree have the same values. -/
def Coherent (rows : List Mapping) : Prop :=
  ∀ row ∈ rows, ∀ other ∈ rows, Agree row other → SameCase row other

omit [Interpreter] [Sha256] [JsonDecoder] in
theorem SameCase.symm {row other : Mapping} (h : SameCase row other) : SameCase other row :=
  fun field hfield => (h field hfield).symm

omit [Interpreter] [Sha256] [JsonDecoder] in
/-- Nothing else is read of the first row. -/
theorem SameCase.caseColumns_eq {row other : Mapping} (h : SameCase row other) :
    caseColumns row = caseColumns other := by
  unfold caseColumns
  congr 1 <;> exact h _ (by decide)

omit [Interpreter] [Sha256] [JsonDecoder] in
/-- A row agrees with both rows or with none. -/
theorem SameCase.agree {first other row : Mapping} (h : SameCase first other)
    (hagree : Agree first row) : Agree other row := by
  intro field hfield
  rw [← h field (List.mem_cons_of_mem _ hfield)]
  exact hagree field hfield

omit [Interpreter] [Sha256] [JsonDecoder] in
theorem Coherent.perm {rows rows' : List Mapping} (h : Coherent rows) (hperm : rows.Perm rows') :
    Coherent rows' := fun row hrow other hother =>
  h row (hperm.mem_iff.mpr hrow) other (hperm.mem_iff.mpr hother)

omit [Interpreter] [Sha256] [JsonDecoder] in
/-- The ids are sorted whatever the order they come in. -/
theorem sortedIds_perm {ids ids' : List String} (h : ids.Perm ids') :
    sortedIds ids = sortedIds ids' :=
  List.Perm.eq_of_pairwise' (List.pairwise_insertionSort _ _) (List.pairwise_insertionSort _ _)
    (((List.perm_insertionSort _ ids).trans h).trans (List.perm_insertionSort _ ids').symm)

omit [Interpreter] [Sha256] [JsonDecoder] in
theorem sameIds_perm {ids ids' : List String} {items : ManifestItems} (h : ids.Perm ids')
    (hsame : sameIds ids items = true) : sameIds ids' items = true := by
  unfold sameIds at hsame ⊢
  obtain ⟨hleft, hright⟩ := Bool.and_eq_true_iff.mp hsame
  refine Bool.and_eq_true_iff.mpr ⟨?_, ?_⟩
  · rw [List.all_eq_true] at hleft ⊢
    exact fun id hid => hleft id (h.mem_iff.mpr hid)
  · rw [List.all_eq_true] at hright ⊢
    intro id hid
    exact decide_eq_true (h.mem_iff.mp (of_decide_eq_true (hright id hid)))

/-- What is accepted in one order is accepted in every other one, with the same memory. -/
theorem Accepted.perm {expected : ExpectedIds} {first first' : Mapping}
    {rows rows' : List Mapping} {memory : SealedCaseMemory}
    (h : Accepted expected first rows memory) (hcoherent : Coherent rows)
    (hperm : rows.Perm rows') (hfirst : first ∈ rows) (hfirst' : first' ∈ rows) :
    Accepted expected first' rows' memory := by
  obtain ⟨ids, head, returned, hids, hhead, hpass, hnodup, hsame, hmemory⟩ := h
  obtain ⟨_, _, hagrees, _, _⟩ := Library.Pointwise.exists_of_mem hpass hfirst'
  have hcase := hcoherent first hfirst first' hfirst' hagrees
  obtain ⟨returned', hpass', hreturned⟩ := List.perm_comp_forall₂ hperm.symm hpass
  rw [hcase.caseColumns_eq] at hhead hmemory
  refine ⟨ids, head, returned', hids, hhead, ?_, hreturned.nodup_iff.mpr hnodup,
    sameIds_perm hreturned.symm hsame, ?_⟩
  · exact hpass'.imp fun row id hrow => ⟨hcase.agree hrow.agrees, hrow.named, hrow.bound⟩
  · rw [sortedIds_perm hreturned]
    exact hmemory

/-- One order after another. -/
theorem validate_perm {expected : ExpectedIds} {rows rows' : List Mapping}
    {found : Option SealedCaseMemory} (hcoherent : Coherent rows) (hperm : rows.Perm rows')
    (h : validateSealedCaseMemory expected rows = .ok found) :
    validateSealedCaseMemory expected rows' = .ok found := by
  cases rows with
  | nil => rwa [hperm.nil_eq.symm]
  | cons first rows =>
      cases rows' with
      | nil => exact absurd hperm.length_eq (Nat.succ_ne_zero _)
      | cons first' rows' =>
          obtain ⟨memory, hfound, haccepted⟩ := validate_eq_ok.mp h
          have hfirst' : first' ∈ first :: rows := hperm.mem_iff.mpr List.mem_cons_self
          exact validate_eq_ok.mpr ⟨memory, hfound,
            haccepted.perm hcoherent hperm List.mem_cons_self hfirst'⟩

/-- The manifest of the first row has the hash that the row tells. -/
theorem checkFirst_manifest {expected : ExpectedIds} {first : CaseColumns} {head : Head}
    (h : checkFirst expected first = .ok head) : ∃ manifest,
      mapping first.evidenceManifest "evidence_manifest" = .ok manifest ∧
        requiredText first.evidenceHash "evidence_hash" = .ok (evidenceHash manifest) := by
  unfold checkFirst at h
  obtain ⟨_, _, h⟩ := bind_eq_ok.mp h
  obtain ⟨_, _, h⟩ := bind_eq_ok.mp h
  obtain ⟨_, _, h⟩ := bind_eq_ok.mp h
  obtain ⟨_, _, h⟩ := bind_eq_ok.mp h
  obtain ⟨_, _, h⟩ := bind_eq_ok.mp h
  obtain ⟨_, _, h⟩ := bind_eq_ok.mp h
  obtain ⟨_, _, h⟩ := bind_eq_ok.mp h
  obtain ⟨_, _, h⟩ := bind_eq_ok.mp h
  obtain ⟨manifest, hmanifest, h⟩ := bind_eq_ok.mp h
  obtain ⟨stored, hstored, h⟩ := bind_eq_ok.mp h
  obtain ⟨_, hhash, _⟩ := bind_eq_ok.mp h
  have hsame : evidenceHash manifest = stored := of_decide_eq_true (require_eq_ok.mp hhash)
  exact ⟨manifest, hmanifest, hsame ▸ hstored⟩

/-- Among accepted rows, one whose manifest has another hash than the row tells is not noticed,
and it is refused in an order that has it first. -/
theorem exists_refused_order {expected : ExpectedIds} {rows : List Mapping} {row : Mapping}
    (hrow : row ∈ rows)
    (hother : ∀ manifest,
      mapping (CaseSeal.get row "evidence_manifest") "evidence_manifest" = .ok manifest →
        requiredText (CaseSeal.get row "evidence_hash") "evidence_hash" ≠
          .ok (evidenceHash manifest)) :
    ∃ rows', rows.Perm rows' ∧
      ∃ error, validateSealedCaseMemory expected rows' = .error error := by
  obtain ⟨before, after, rfl⟩ := List.append_of_mem hrow
  refine ⟨row :: (before ++ after), List.perm_middle, ?_⟩
  cases hrun : validateSealedCaseMemory expected (row :: (before ++ after)) with
  | error error => exact ⟨error, rfl⟩
  | ok found =>
      obtain ⟨_, _, _, head, _, _, hhead, _⟩ := validate_eq_ok.mp hrun
      obtain ⟨manifest, hmanifest, hhash⟩ := checkFirst_manifest hhead
      exact absurd hhash (hother manifest hmanifest)

end Validation

/-! ## Steps of a run on given rows -/

theorem ok_bind {ε α β : Type} (a : α) (f : α → Except ε β) : (Except.ok a >>= f) = f a := rfl

theorem require_true (message : String) : require true message = .ok () := rfl

/-- A text that begins with no blank is there. -/
theorem requiredText_of_head [Interpreter] {text field : String} {c : Char} {rest : List Char}
    (htext : text.toList = c :: rest) (hc : Interpreter.isSpace c = false) :
    requiredText (.str text) field = .ok text := by
  have hblank : ContestWorkflow.isBlank text = false := by
    unfold ContestWorkflow.isBlank stripText
    rw [htext, List.dropWhile_cons_of_neg (Bool.eq_false_iff.mp hc), List.isEmpty_reverse,
      List.isEmpty_eq_false_iff]
    intro hnil
    have hall := List.dropWhile_eq_nil_iff.mp hnil c
      (List.mem_reverse.mpr List.mem_cons_self)
    rw [hc] at hall
    cases hall
  unfold requiredText
  exact if_neg (Bool.eq_false_iff.mp hblank)

/-- The hash of a manifest is no blank text. -/
theorem requiredText_evidenceHash [Interpreter] [Sha256]
    (hs : Interpreter.isSpace 's' = false) (manifest : Mapping) (field : String) :
    requiredText (.str (evidenceHash manifest)) field = .ok (evidenceHash manifest) :=
  requiredText_of_head (String.toList_append ..) hs

/-! ## Two rows of a case -/

section Case

local instance orderInterpreter : Interpreter := Claims.asciiInterpreter
local instance orderDecoder : JsonDecoder := SealRuns.noTexts

/-- The ids that the rows and the caller name. -/
def idEnding (last : String) : String := "00000000-0000-4000-8000-00000000000" ++ last

theorem canonicalUuid_idEnding {last : String}
    (h : last ∈ ["1", "2", "3", "4", "5", "6", "7", "8", "a", "b"]) (field : String) :
    canonicalUuid (.str (idEnding last)) field = .ok (idEnding last) := by
  have hall : ∀ last ∈ ["1", "2", "3", "4", "5", "6", "7", "8", "a", "b"],
      (ContestWorkflow.uuidOf (idEnding last)).map uuidText = some (idEnding last) := by
    decide +kernel
  obtain ⟨id, hid, htext⟩ := Option.map_eq_some_iff.mp (hall last h)
  unfold canonicalUuid Value.text
  rw [hid]
  exact congrArg Except.ok htext

section Hashes

variable [Sha256]

/-- An item of the manifest without its exact versions. -/
def plainItem (last kind sourceTable : String) : Mapping :=
  [("evidence_id", .str (idEnding last)), ("kind", .str kind),
    ("source_table", .str sourceTable), ("source_id", .str (idEnding "7")),
    ("content_sha256", .str (contentHash [])), ("content", .dict [])]

def exactVersions : Mapping :=
  [("clause_id", .str (idEnding "7")), ("capture_id", .str (idEnding "8")),
    ("clause_text", .str "USD 250 per day"), ("s3_version_id", .str "v1"),
    ("source_sha256", .str "b"), ("invoice_s3_version_id", .str "v2"),
    ("invoice_sha256", .str "c"), ("invoice_no", .str "INV-1"),
    ("invoice_claimed_rate", .str "350.00"), ("rate_currency", .str "USD"),
    ("rate_unit", .str "per_day"), ("charge_days", .int 7)]

def rates : Mapping := [("recorded_rate", .str "250.00"), ("claimed_rate", .str "350.00")]

def receiptItem : Mapping := exactVersions ++ plainItem "a" "receipt" "tariff_clauses"

def noteItem : Mapping := plainItem "b" "note" "notes"

def twoItems : Mapping :=
  [("manifest_version", .int 1), ("tenant_id", .str (idEnding "1")),
    ("case_id", .str (idEnding "2")), ("invoice_id", .str (idEnding "4")),
    ("finding_id", .str (idEnding "5")),
    ("evidence", .list [.dict receiptItem, .dict noteItem]), ("calculation", .dict rates),
    ("recommendation", .str "DISPUTE"), ("approved_by", .str (idEnding "6")),
    ("approved_at", .str "2026-07-20T18:00:00Z")]

/-- What both rows say of the case besides the manifest. -/
def caseMembers : Mapping :=
  [("tenant_id", .str (idEnding "1")), ("case_id", .str (idEnding "2")),
    ("contest_id", .str (idEnding "3")), ("contest_status", .str "OPEN"),
    ("invoice_id", .str (idEnding "4")), ("finding_id", .str (idEnding "5")),
    ("current_state", .str "FILED"), ("manifest_version", .int 1),
    ("evidence_hash", .str (evidenceHash twoItems)),
    ("approved_by", .str (idEnding "6")), ("sealed_at", .str "2026-07-20T18:00:00Z"),
    ("sealed_txn_ts", .str "1753034400.0000000000"), ("current_invoice_no", .str "INV-1"),
    ("current_invoice_version_id", .str "v2"), ("current_invoice_sha256", .str "c"),
    ("current_invoice_claimed_rate", .str "350.00"), ("current_invoice_currency", .str "USD"),
    ("current_invoice_rate_unit", .str "per_day"), ("current_invoice_charge_days", .int 7),
    ("current_recommendation", .str "DISPUTE"), ("current_calculation", .dict rates),
    ("current_approval_state", .str "APPROVED"), ("current_clause_id", .str (idEnding "7")),
    ("current_recorded_rate", .str "250.00"), ("current_finding_claimed_rate", .str "350.00"),
    ("current_finding_rate_unit", .str "per_day"), ("current_finding_charge_days", .int 7)]

/-- A row of the case with a manifest and a piece of evidence. -/
def rowOf (manifest : Value) (last kind sourceTable : String) : Mapping :=
  ("evidence_manifest", manifest) :: caseMembers ++
    [("evidence_id", .str (idEnding last)), ("evidence_kind", .str kind),
      ("source_table", .str sourceTable), ("source_id", .str (idEnding "7")),
      ("evidence_content", .dict []), ("content_sha256", .str (contentHash [])),
      ("evidence_sealed", .bool true)]

def tariffRow : Mapping := rowOf (.dict twoItems) "a" "receipt" "tariff_clauses"

def noteRow (manifest : Value) : Mapping := rowOf manifest "b" "note" "notes"

def expectedCase : ExpectedIds := ⟨idEnding "1", idEnding "2", idEnding "3"⟩

/-- What a row says of the case. -/
theorem get_rowOf {field : String} (h : field ∈ comparedFields) (manifest : Value)
    (last kind sourceTable : String) :
    CaseSeal.get (rowOf manifest last kind sourceTable) field = CaseSeal.get caseMembers field ∧
      ∃ member ∈ caseMembers, CaseSeal.get caseMembers field = member.2 := by
  have hkeys : ∀ field ∈ comparedFields, field ∈ caseMembers.map Prod.fst := by
    simp [comparedFields, caseMembers]
  have hother : field ≠ "evidence_manifest" := by
    rintro rfl
    exact absurd h (by decide)
  have hfound : (List.find? (fun member => member.1 = field) caseMembers).isSome := by
    rw [List.find?_isSome]
    obtain ⟨member, hmember, rfl⟩ := List.mem_map.mp (hkeys field h)
    exact ⟨member, hmember, decide_eq_true rfl⟩
  obtain ⟨member, hmember⟩ := Option.isSome_iff_exists.mp hfound
  unfold rowOf CaseSeal.get getMember
  rw [List.find?_append, List.find?_cons_of_neg (by simpa using hother.symm), hmember]
  exact ⟨rfl, member, List.mem_of_find?_eq_some hmember, rfl⟩

theorem sameCase_rowOf (manifest : Value) (last kind sourceTable last' kind' table' : String) :
    SameCase (rowOf manifest last kind sourceTable) (rowOf manifest last' kind' table') := by
  intro field hfield
  rcases List.mem_cons.mp hfield with rfl | hcompared
  · rfl
  · rw [(get_rowOf hcompared _ _ _ _).1, (get_rowOf hcompared _ _ _ _).1]

theorem equals_caseMembers : ∀ member ∈ caseMembers, equals member.2 member.2 = true := by
  simp [caseMembers, rates, equals, same, sameMembers, sameNumber, numberOf, getMember]

/-- The two rows agree whatever their manifests. -/
theorem compareWith_rowOf (manifest manifest' : Value)
    (last kind sourceTable last' kind' table' : String) :
    compareWith (rowOf manifest last kind sourceTable) (rowOf manifest' last' kind' table') =
      .ok () := by
  refine compareWith_eq_ok.mpr fun field hfield => ?_
  rw [(get_rowOf hfield _ _ _ _).1, (get_rowOf hfield _ _ _ _).1]
  obtain ⟨member, hmember, hvalue⟩ := (get_rowOf hfield manifest last kind sourceTable).2
  rw [hvalue]
  exact equals_caseMembers member hmember

/-- What the checks of the first row find. -/
def twoHead : Head where
  contestId := idEnding "3"
  caseId := idEnding "2"
  invoiceId := idEnding "4"
  findingId := idEnding "5"
  currentState := "FILED"
  approvedBy := idEnding "6"
  sealedAt := "2026-07-20T18:00:00Z"
  evidenceHash := evidenceHash twoItems
  manifest := twoItems
  items := [(idEnding "a", receiptItem), (idEnding "b", noteItem)]

/-- A step gave a text. -/
def gives (text : String) : Except MemoryError String → Bool
  | .ok found => found = text
  | .error _ => false

omit [Sha256] in
theorem eq_of_gives {text : String} {outcome : Except MemoryError String}
    (h : gives text outcome = true) : outcome = .ok text := by
  cases outcome with
  | ok found => exact congrArg Except.ok (of_decide_eq_true h)
  | error error => cases h

omit [Sha256] in
theorem timestamp_sealedAt : timestamp (.str "2026-07-20T18:00:00Z") "sealed_at" =
    .ok "2026-07-20T18:00:00Z" :=
  eq_of_gives (by decide +kernel)

omit [Sha256] in
theorem timestamp_approvedAt : timestamp (.str "2026-07-20T18:00:00Z") "manifest approved_at" =
    .ok "2026-07-20T18:00:00Z" :=
  eq_of_gives (by decide +kernel)

theorem indexItems_two : indexItems [] [.dict receiptItem, .dict noteItem] =
    .ok [(idEnding "a", receiptItem), (idEnding "b", noteItem)] := by
  have hreceipt : canonicalUuid (CaseSeal.get receiptItem "evidence_id") "manifest evidence_id" =
      .ok (idEnding "a") :=
    canonicalUuid_idEnding (by decide) _
  have hnote : canonicalUuid (CaseSeal.get noteItem "evidence_id") "manifest evidence_id" =
      .ok (idEnding "b") :=
    canonicalUuid_idEnding (by decide) _
  have hother : idEnding "b" ∉ [idEnding "a"] := by decide
  simp only [indexItems, mapping, hreceipt, hnote, ok_bind, List.map_nil, List.not_mem_nil,
    not_false_eq_true, decide_true, require_true, List.nil_append, List.map_cons, hother,
    List.singleton_append]

theorem checkFirst_tariffRow :
    checkFirst expectedCase (caseColumns tariffRow) = .ok twoHead := by
  have htenant : canonicalUuid (caseColumns tariffRow).tenantId "tenant_id" =
      .ok (idEnding "1") := canonicalUuid_idEnding (by decide) _
  have hcase : canonicalUuid (caseColumns tariffRow).caseId "case_id" =
      .ok (idEnding "2") := canonicalUuid_idEnding (by decide) _
  have hcontest : canonicalUuid (caseColumns tariffRow).contestId "contest_id" =
      .ok (idEnding "3") := canonicalUuid_idEnding (by decide) _
  have hinvoice : canonicalUuid (caseColumns tariffRow).invoiceId "invoice_id" =
      .ok (idEnding "4") := canonicalUuid_idEnding (by decide) _
  have hfinding : canonicalUuid (caseColumns tariffRow).findingId "finding_id" =
      .ok (idEnding "5") := canonicalUuid_idEnding (by decide) _
  have happrover : canonicalUuid (caseColumns tariffRow).approvedBy "approved_by" =
      .ok (idEnding "6") := canonicalUuid_idEnding (by decide) _
  have htenant' : canonicalUuid (CaseSeal.get twoItems "tenant_id") "manifest tenant_id" =
      .ok (idEnding "1") := canonicalUuid_idEnding (by decide) _
  have hcase' : canonicalUuid (CaseSeal.get twoItems "case_id") "manifest case_id" =
      .ok (idEnding "2") := canonicalUuid_idEnding (by decide) _
  have hinvoice' : canonicalUuid (CaseSeal.get twoItems "invoice_id") "manifest invoice_id" =
      .ok (idEnding "4") := canonicalUuid_idEnding (by decide) _
  have hfinding' : canonicalUuid (CaseSeal.get twoItems "finding_id") "manifest finding_id" =
      .ok (idEnding "5") := canonicalUuid_idEnding (by decide) _
  have happrover' : canonicalUuid (CaseSeal.get twoItems "approved_by") "manifest approved_by" =
      .ok (idEnding "6") := canonicalUuid_idEnding (by decide) _
  have hmanifest : mapping (caseColumns tariffRow).evidenceManifest "evidence_manifest" =
      .ok twoItems := rfl
  have hvalues : evidenceList twoItems = .ok [.dict receiptItem, .dict noteItem] := rfl
  have hversion : CockroachMcp.equalsInt 1 (caseColumns tariffRow).manifestVersion = true := rfl
  have hversion' : CockroachMcp.equalsInt 1 (CaseSeal.get twoItems "manifest_version") = true :=
    rfl
  have hstate : (caseColumns tariffRow).currentState.text = "FILED" := rfl
  have hfiled : "FILED" ∈ sealedCaseStates := by decide
  have hexpected : expectedCase.tenantId = idEnding "1" ∧ expectedCase.caseId = idEnding "2" ∧
      expectedCase.contestId = idEnding "3" := ⟨rfl, rfl, rfl⟩
  have hsealedAt : timestamp (caseColumns tariffRow).sealedAt "sealed_at" =
      .ok "2026-07-20T18:00:00Z" := timestamp_sealedAt
  have happrovedAt : timestamp (CaseSeal.get twoItems "approved_at") "manifest approved_at" =
      .ok "2026-07-20T18:00:00Z" := timestamp_approvedAt
  have hstored : requiredText (caseColumns tariffRow).evidenceHash "evidence_hash" =
      .ok (evidenceHash twoItems) :=
    requiredText_evidenceHash rfl _ _
  simp only [checkFirst, htenant, hcase, hcontest, hinvoice, hfinding, happrover, htenant', hcase',
    hinvoice', hfinding', happrover', hmanifest, hvalues, hversion, hversion', hstate, hfiled,
    hexpected.1, hexpected.2.1, hexpected.2.2, hsealedAt, happrovedAt, hstored, indexItems_two,
    ok_bind, decide_true, require_true]
  rfl

/-- A row of evidence without content is bound to an item that says the same. -/
theorem checkBinding_rowOf {manifest : Value} {last kind sourceTable : String} {item : Mapping}
    (h : CaseSeal.get item "kind" = .str kind ∧
      CaseSeal.get item "source_table" = .str sourceTable ∧
      CaseSeal.get item "source_id" = .str (idEnding "7") ∧
      CaseSeal.get item "content_sha256" = .str (contentHash []) ∧
      CaseSeal.get item "content" = .dict []) :
    checkBinding (rowOf manifest last kind sourceTable) item = .ok () := by
  obtain ⟨hkind, htable, hsource, hsha, hcontent⟩ := h
  have hcarries : Carries (rowOf manifest last kind sourceTable)
      { id := idEnding last, caseId := idEnding "2", kind := kind, sourceTable := sourceTable,
        sourceId := idEnding "7", content := .dict [], contentSha256 := contentHash [],
        sealed := true } :=
    ⟨rfl, rfl, rfl, rfl, rfl, rfl⟩
  have hmapping : contentMapping (.dict []) = some [] := rfl
  have hself : storedContentHashMatches (contentHash []) (contentHash []) = true :=
    Bool.or_eq_true_iff.mpr (.inl (decide_eq_true rfl))
  rw [checkBinding_eq_ok hcarries]
  unfold memoryBinding
  dsimp only
  rw [hmapping, hkind, htable, hsource, hsha, hcontent]
  dsimp only [Value.text]
  rw [hself]
  simp [EvidenceBindings.sameJson, flattenedBinding]

theorem checkRows_two : checkRows tariffRow twoHead.items [] [tariffRow, noteRow .null] =
    .ok [idEnding "a", idEnding "b"] := by
  have hreceipt : canonicalUuid (CaseSeal.get tariffRow "evidence_id") "evidence_id" =
      .ok (idEnding "a") := canonicalUuid_idEnding (by decide) _
  have hnote : canonicalUuid (CaseSeal.get (noteRow .null) "evidence_id") "evidence_id" =
      .ok (idEnding "b") := canonicalUuid_idEnding (by decide) _
  have hother : idEnding "b" ∉ [idEnding "a"] := by decide
  have hreceiptItem : itemOf twoHead.items (idEnding "a") = .ok receiptItem := rfl
  have hnoteItem : itemOf twoHead.items (idEnding "b") = .ok noteItem := rfl
  have hfirst : compareWith tariffRow tariffRow = .ok () := compareWith_rowOf _ _ _ _ _ _ _ _
  have hsecond : compareWith tariffRow (noteRow .null) = .ok () :=
    compareWith_rowOf _ _ _ _ _ _ _ _
  have hreceiptBound : checkBinding tariffRow receiptItem = .ok () :=
    checkBinding_rowOf ⟨rfl, rfl, rfl, rfl, rfl⟩
  have hnoteBound : checkBinding (noteRow .null) noteItem = .ok () :=
    checkBinding_rowOf ⟨rfl, rfl, rfl, rfl, rfl⟩
  simp only [checkRows, hreceipt, hnote, hreceiptItem, hnoteItem, hfirst, hsecond, hreceiptBound,
    hnoteBound, hother, ok_bind, List.not_mem_nil, not_false_eq_true, decide_true, require_true,
    List.nil_append, List.singleton_append]

end Hashes

local instance orderSha : Sha256 := .standard

/-- The rows were refused with a message. -/
def refusesWith (message : String) : Except MemoryError (Option SealedCaseMemory) → Bool
  | .error error => error = .validation message
  | _ => false

theorem eq_of_refusesWith {message : String}
    {outcome : Except MemoryError (Option SealedCaseMemory)}
    (h : refusesWith message outcome = true) : outcome = .error (.validation message) := by
  cases outcome with
  | error error => exact congrArg Except.error (of_decide_eq_true h)
  | ok found => cases h

/-- A memory is made of what the checks have found. -/
def isMade : Except MemoryError SealedCaseMemory → Bool
  | .ok _ => true
  | .error _ => false

theorem finds_tariff_first : ∃ memory,
    validateSealedCaseMemory expectedCase [tariffRow, noteRow .null] = .ok (some memory) := by
  have hids : canonicalIds expectedCase = .ok expectedCase := by
    simp only [canonicalIds, expectedCase, canonicalUuid_idEnding, List.mem_cons, true_or, or_true,
      ok_bind]
  have hcovers : sameIds [idEnding "a", idEnding "b"] twoHead.items = true := by
    decide +kernel
  have hmade : isMade (project (caseColumns tariffRow) twoHead
      (sortedIds [idEnding "a", idEnding "b"])) = true := by
    decide +kernel
  cases hproject : project (caseColumns tariffRow) twoHead
      (sortedIds [idEnding "a", idEnding "b"]) with
  | error error =>
      rw [hproject] at hmade
      cases hmade
  | ok memory =>
      refine ⟨memory, bind_eq_ok.mpr ⟨_, hids, bind_eq_ok.mpr ⟨_, checkFirst_tariffRow, ?_⟩⟩⟩
      refine bind_eq_ok.mpr ⟨_, checkRows_two, bind_eq_ok.mpr ⟨(), ?_, ?_⟩⟩
      · exact require_eq_ok.mpr hcovers
      · exact bind_eq_ok.mpr ⟨memory, hproject, rfl⟩

end Case

end Tally.Analysis.RowOrders
