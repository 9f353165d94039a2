import Tally.Library.Traversal
import Tally.Model.Extraction

/-!
# What the gate of extracted fields keeps

The gate looks at each key of the canon by itself: it keeps the entry if its quote, with the
white space normalised, occurs in the source, and leaves an empty field otherwise. A quote of
white space occurs in every source, and the value of an entry is never compared with its quote;
the gate keeps what a quote carries exactly when no entry is of either kind.
-/

set_option autoImplicit false

namespace Tally.Analysis.GatedFields
open Library Tally.Model Tally.Model.Extraction
open Tally.Model.VectorRetrieval (normalizeText)

section Gate

variable [Interpreter] [CharacterTables] [FloatConversion]

/-! ## Entries -/

/-- The entry has a quote that occurs in the source. -/
structure Quoted (source : List Char) (entry : List (String × Value)) (verbatim : String) :
    Prop where
  named : memberOf entry "verbatim" = .str verbatim
  present : verbatim ≠ ""
  occurs : normalizeText verbatim <:+: source

/-- The value is stated by the quote, or there is none. -/
def States (verbatim : String) (value : Value) : Prop :=
  value = .null ∨ normalizeText value.text <:+: normalizeText verbatim

/-- The quote says something, and it states the value of the entry. -/
structure Carries (entry : List (String × Value)) (verbatim : String) : Prop where
  nonempty : normalizeText verbatim ≠ []
  states : States verbatim (memberOf entry "value")

/-- The field is the entry as it was extracted. -/
structure Keeps (entry : List (String × Value)) (verbatim : String) (field : ExtractedField) :
    Prop where
  value : field.value = memberOf entry "value"
  verbatim : field.verbatim = some verbatim
  page : field.page = memberOf entry "page"
  confidence : FloatConversion.float ((getMember entry "confidence").getD (.float zero)) =
    .ok field.confidence

/-- The field stays as it was extracted if its quote occurs in the source and carries its value,
and is cleared otherwise. -/
def Gated (source : List Char) (entry : List (String × Value)) (field : ExtractedField) : Prop :=
  (∀ verbatim, Quoted source entry verbatim → Carries entry verbatim →
    Keeps entry verbatim field) ∧
  ((∀ verbatim, Quoted source entry verbatim → ¬Carries entry verbatim) → field = emptyField)

/-! ## One key -/

omit [Interpreter] in
/-- An entry with a quote in the source is kept, another one is cleared. -/
theorem gateField_ok {source : List Char} {entry : List (String × Value)} {field : ExtractedField}
    (h : gateField source entry = .ok field) :
    (∃ verbatim, Quoted source entry verbatim ∧ Keeps entry verbatim field) ∨
      (∀ verbatim, ¬Quoted source entry verbatim) ∧ field = emptyField := by
  unfold gateField at h
  split at h
  · rename_i verbatim hnamed
    split at h
    · rename_i hquoted
      cases hconfidence :
          FloatConversion.float ((getMember entry "confidence").getD (.float zero)) with
      | error e =>
          rw [hconfidence] at h
          exact absurd h (by simp [bind, Except.bind])
      | ok confidence =>
          rw [hconfidence] at h
          obtain rfl := Except.ok.inj h
          exact Or.inl ⟨verbatim, ⟨hnamed, hquoted.1, hquoted.2⟩, ⟨rfl, rfl, rfl, hconfidence⟩⟩
    · rename_i hquoted
      refine Or.inr ⟨fun other hother => ?_, (Except.ok.inj h).symm⟩
      obtain rfl : verbatim = other := Value.str.inj (hnamed.symm.trans hother.named)
      exact hquoted ⟨hother.present, hother.occurs⟩
  · rename_i value hnamed
    split at h
    · exact absurd h (by simp)
    · refine Or.inr ⟨fun other hother => ?_, (Except.ok.inj h).symm⟩
      exact hnamed other hother.named

omit [Interpreter] [FloatConversion] in
theorem Quoted.unique {source : List Char} {entry : List (String × Value)} {a b : String}
    (ha : Quoted source entry a) (hb : Quoted source entry b) : a = b :=
  Value.str.inj (ha.named.symm.trans hb.named)

omit [Interpreter] [CharacterTables] in
/-- A kept field is not empty. -/
theorem Keeps.ne_empty {entry : List (String × Value)} {verbatim : String}
    {field : ExtractedField} (h : Keeps entry verbatim field) : field ≠ emptyField := by
  rintro rfl
  exact absurd h.verbatim (by simp [emptyField])

/-- The field of an entry is right exactly when a quote of it in the source carries its value. -/
theorem gated_iff_carries {source : List Char} {entry : List (String × Value)}
    {field : ExtractedField} (h : gateField source entry = .ok field) :
    Gated source entry field ↔ ∀ verbatim, Quoted source entry verbatim → Carries entry verbatim := by
  rcases gateField_ok h with ⟨verbatim, hquoted, hkeeps⟩ | ⟨hnone, hempty⟩
  · constructor
    · intro hgated other hother
      obtain rfl := hquoted.unique hother
      by_contra hcarries
      refine hkeeps.ne_empty (hgated.2 fun other hother => ?_)
      obtain rfl := hquoted.unique hother
      exact hcarries
    · intro hall
      refine ⟨fun other hother _ => ?_, fun hnever => ?_⟩
      · obtain rfl := hquoted.unique hother
        exact hkeeps
      · exact absurd (hall verbatim hquoted) (hnever verbatim hquoted)
  · refine iff_of_true ⟨fun other hother _ => ?_, fun _ => hempty⟩ fun other hother => ?_
    · exact absurd hother (hnone other)
    · exact absurd hother (hnone other)

/-! ## Well formed extractions -/

/-- An entry as the tool of the extraction describes it. -/
structure Conforms (entry : List (String × Value)) : Prop where
  verbatim : memberOf entry "verbatim" = .null ∨
    ∃ verbatim, memberOf entry "verbatim" = .str verbatim
  confidence : ∃ confidence,
    FloatConversion.float ((getMember entry "confidence").getD (.float zero)) = .ok confidence

omit [Interpreter] in
theorem gateField_returns (source : List Char) {entry : List (String × Value)}
    (h : Conforms entry) : ∃ field, gateField source entry = .ok field := by
  obtain ⟨confidence, hconfidence⟩ := h.confidence
  unfold gateField
  rcases h.verbatim with hnull | ⟨verbatim, hnamed⟩
  · rw [hnull]
    exact ⟨_, rfl⟩
  · rw [hnamed]
    dsimp only
    split
    · rw [hconfidence]
      exact ⟨_, rfl⟩
    · exact ⟨_, rfl⟩

omit [Interpreter] [CharacterTables] [FloatConversion] in
theorem entryOf_null {fields : List (String × Value)} {key : String}
    (h : memberOf fields key = .null) : entryOf (.dict fields) key = .ok [] := by
  unfold entryOf
  dsimp only
  rw [h]
  rfl

omit [Interpreter] [CharacterTables] [FloatConversion] in
theorem entryOf_dict {fields entry : List (String × Value)} {key : String}
    {member : String × Value} (h : memberOf fields key = .dict (member :: entry)) :
    entryOf (.dict fields) key = .ok (member :: entry) := by
  unfold entryOf
  dsimp only
  rw [h]
  rfl

omit [Interpreter] in
/-- The gate returns a result for a well formed extraction. -/
theorem gate_returns {rawResult fields : List (String × Value)} {notes : List Value}
    (sourceText : String) (hfields : rawFieldsOf rawResult = .dict fields)
    (hentries : ∀ key ∈ fieldKeys, memberOf fields key = .null ∨
      ∃ member entry, memberOf fields key = .dict (member :: entry) ∧ Conforms (member :: entry))
    (hnotes : (getMember rawResult "notes_footnotes").getD (.list []) = .list notes) :
    ∃ result, applyAntiHallucinationGate rawResult sourceText = .ok result := by
  have hall : ∃ items, fieldKeys.mapM
      (gateKey (normalizeText sourceText) (rawFieldsOf rawResult)) = .ok items := by
    rw [Traversal.mapM_returns, hfields]
    intro key hkey
    unfold gateKey
    rcases hentries key hkey with hnull | ⟨member, entry, hentry, hconforms⟩
    · rw [entryOf_null hnull]
      exact ⟨(key, emptyField), rfl⟩
    · obtain ⟨field, hfield⟩ := gateField_returns (normalizeText sourceText) hconforms
      rw [entryOf_dict hentry]
      refine ⟨(key, field), ?_⟩
      show (gateField _ _ >>= _) = _
      rw [hfield]
      rfl
  obtain ⟨items, hitems⟩ := hall
  unfold applyAntiHallucinationGate
  rw [hitems, hnotes]
  exact ⟨_, rfl⟩

/-! ## All keys -/

/-- Each key has a field made of its own entry. -/
def MadeOf (rawFields : Value) (Field : List (String × Value) → ExtractedField → Prop)
    (keys : List String) (fields : List (String × ExtractedField)) : Prop :=
  List.Forall₂ (fun key item => item.1 = key ∧ ∃ entry,
    entryOf rawFields key = .ok entry ∧ Field entry item.2) keys fields

omit [Interpreter] in
/-- The fields of a result: one for each key of the canon, in its order, made of the entry of the
key alone. -/
theorem fields_of_gate {rawResult : List (String × Value)} {sourceText : String}
    {result : ExtractionResult} (h : applyAntiHallucinationGate rawResult sourceText = .ok result) :
    MadeOf (rawFieldsOf rawResult)
      (fun entry field => gateField (normalizeText sourceText) entry = .ok field) fieldKeys
      result.fields := by
  unfold applyAntiHallucinationGate at h
  cases hfields :
      fieldKeys.mapM (gateKey (normalizeText sourceText) (rawFieldsOf rawResult)) with
  | error e =>
      rw [hfields] at h
      exact absurd h (by simp [bind, Except.bind])
  | ok fields =>
      rw [hfields] at h
      cases hnotes : tuple ((getMember rawResult "notes_footnotes").getD (.list [])) with
      | error e =>
          rw [hnotes] at h
          exact absurd h (by simp [bind, Except.bind])
      | ok notes =>
          rw [hnotes] at h
          obtain rfl := Except.ok.inj h
          refine (Traversal.mapM_ok hfields).imp fun key item hitem => ?_
          unfold gateKey at hitem
          cases hentry : entryOf (rawFieldsOf rawResult) key with
          | error e =>
              rw [hentry] at hitem
              exact absurd hitem (by simp [bind, Except.bind])
          | ok entry =>
              rw [hentry] at hitem
              cases hfield : gateField (normalizeText sourceText) entry with
              | error e =>
                  simp only [bind, Except.bind, hfield] at hitem
                  exact absurd hitem (by simp)
              | ok field =>
                  simp only [bind, Except.bind, hfield] at hitem
                  obtain rfl := Except.ok.inj hitem
                  exact ⟨rfl, entry, rfl, hfield⟩

/-- The quotes in the source say something and state the values of their entries. -/
def AllCarry (source : List Char) (rawFields : Value) (keys : List String) : Prop :=
  ∀ key ∈ keys, ∀ entry, entryOf rawFields key = .ok entry →
    ∀ verbatim, Quoted source entry verbatim → Carries entry verbatim

theorem madeOf_gated_iff {source : List Char} {rawFields : Value} {keys : List String}
    {fields : List (String × ExtractedField)}
    (h : MadeOf rawFields (fun entry field => gateField source entry = .ok field) keys fields) :
    MadeOf rawFields (Gated source) keys fields ↔ AllCarry source rawFields keys := by
  unfold MadeOf AllCarry at *
  induction h with
  | nil => exact iff_of_true .nil (fun key hkey => absurd hkey List.not_mem_nil)
  | @cons key item keys fields hitem _ ih =>
      obtain ⟨hkey, entry, hentry, hfield⟩ := hitem
      rw [List.forall₂_cons, List.forall_mem_cons]
      refine and_congr ?_ ih
      constructor
      · rintro ⟨_, other, hother, hgated⟩ entry' hentry'
        obtain rfl : entry = entry' := Except.ok.inj (hentry.symm.trans hentry')
        obtain rfl : entry = other := Except.ok.inj (hentry.symm.trans hother)
        exact (gated_iff_carries hfield).mp hgated
      · intro hall
        exact ⟨hkey, entry, hentry, (gated_iff_carries hfield).mpr (hall entry hentry)⟩

/-- The gate keeps the fields whose quotes carry their values and clears the others, each by its
own entry, exactly when every quote that occurs in the source says something and states the value
of its entry.
SOURCE: src/core/extraction.py:37-72 -/
theorem gated_iff (rawResult : List (String × Value)) (sourceText : String)
    (result : ExtractionResult)
    (h : applyAntiHallucinationGate rawResult sourceText = .ok result) :
    MadeOf (rawFieldsOf rawResult) (Gated (normalizeText sourceText)) fieldKeys result.fields ↔
      AllCarry (normalizeText sourceText) (rawFieldsOf rawResult) fieldKeys :=
  madeOf_gated_iff (fields_of_gate h)

end Gate

/-! ## A value that is not quoted -/

section Case

@[reducible] def blankInterpreter : Interpreter where
  isSpace c := c = ' '
  upper c := [c.toUpper]
  digitValue c := if c.isDigit then some (c.toNat - 48) else none
  containerText _ := ""

@[reducible] def blankTables : CharacterTables where
  isDecimal := Char.isDigit
  isSpace c := c = ' '
  lower := List.map Char.toLower

/-- The conversion of floating point numbers. -/
@[reducible] def ownFloat : FloatConversion where
  float
    | .float value => .ok value
    | _ => .error .typeError

local instance caseInterpreter : Interpreter := blankInterpreter
local instance caseTables : CharacterTables := blankTables
local instance caseFloat : FloatConversion := ownFloat

def invoiceText : String := "Total due: $1,050.00."

/-- An extraction of the total amount with the quote. -/
def totalEntry (verbatim : String) : List (String × Value) :=
  [("value", .str "$1,050.00"), ("verbatim", .str verbatim), ("confidence", .float zero)]

def totalOf (verbatim : String) : List (String × Value) :=
  [("fields", .dict [("total_amount_due", .dict (totalEntry verbatim))])]

theorem total_returns (verbatim : String) : ∃ result,
    applyAntiHallucinationGate (totalOf verbatim) invoiceText = .ok result := by
  have hfields : rawFieldsOf (totalOf verbatim) =
      .dict [("total_amount_due", .dict (totalEntry verbatim))] := rfl
  have hnotes : (getMember (totalOf verbatim) "notes_footnotes").getD (.list []) = .list [] := rfl
  refine gate_returns invoiceText hfields (fun key _ => ?_) hnotes
  by_cases hkey : "total_amount_due" = key
  · subst hkey
    exact Or.inr ⟨_, _, rfl, Or.inr ⟨verbatim, rfl⟩, zero, rfl⟩
  · refine Or.inl ?_
    unfold memberOf getMember
    rw [List.find?_cons_of_neg (by simpa using hkey)]
    rfl

/-- A value without a quote that carries it is not cleared. -/
theorem total_not_gated {verbatim : String} {result : ExtractionResult}
    (h : applyAntiHallucinationGate (totalOf verbatim) invoiceText = .ok result)
    (hquoted : Quoted (normalizeText invoiceText) (totalEntry verbatim) verbatim)
    (hcarries : ¬Carries (totalEntry verbatim) verbatim) :
    ¬MadeOf (rawFieldsOf (totalOf verbatim)) (Gated (normalizeText invoiceText)) fieldKeys
      result.fields := by
  rw [madeOf_gated_iff (fields_of_gate h)]
  intro hall
  exact hcarries (hall "total_amount_due" (by decide) (totalEntry verbatim) rfl verbatim hquoted)

/-- A blank quote and a quote of another text keep the value. -/
theorem unquoted_kept (verbatim : String) (hverbatim : verbatim = " " ∨ verbatim = "Total") :
    ∃ result, applyAntiHallucinationGate (totalOf verbatim) invoiceText = .ok result ∧
      ¬MadeOf (rawFieldsOf (totalOf verbatim)) (Gated (normalizeText invoiceText)) fieldKeys
        result.fields := by
  obtain ⟨result, hresult⟩ := total_returns verbatim
  refine ⟨result, hresult, total_not_gated hresult ?_ ?_⟩
  · rcases hverbatim with rfl | rfl
    · exact ⟨rfl, by decide, by decide +kernel⟩
    · exact ⟨rfl, by decide, by decide +kernel⟩
  · rintro ⟨hnonempty, hstates⟩
    rcases hverbatim with rfl | rfl
    · exact hnonempty (by decide +kernel)
    · rcases hstates with hnull | hstated
      · exact absurd hnull (by simp [memberOf, getMember, totalEntry])
      · exact absurd hstated (by decide +kernel)

theorem unquoted_not_cleared :
    (∃ result, applyAntiHallucinationGate (totalOf " ") invoiceText = .ok result ∧
      ¬MadeOf (rawFieldsOf (totalOf " ")) (Gated (normalizeText invoiceText)) fieldKeys
        result.fields) ∧
    ∃ result, applyAntiHallucinationGate (totalOf "Total") invoiceText = .ok result ∧
      ¬MadeOf (rawFieldsOf (totalOf "Total")) (Gated (normalizeText invoiceText)) fieldKeys
        result.fields :=
  ⟨unquoted_kept " " (Or.inl rfl), unquoted_kept "Total" (Or.inr rfl)⟩

theorem gated_iff_total : ∃ result,
    applyAntiHallucinationGate (totalOf invoiceText) invoiceText = .ok result ∧
      (MadeOf (rawFieldsOf (totalOf invoiceText)) (Gated (normalizeText invoiceText)) fieldKeys
          result.fields ↔
        AllCarry (normalizeText invoiceText) (rawFieldsOf (totalOf invoiceText)) fieldKeys) := by
  obtain ⟨result, hresult⟩ := total_returns invoiceText
  exact ⟨result, hresult, gated_iff (totalOf invoiceText) invoiceText result hresult⟩

end Case

end Tally.Analysis.GatedFields
