import Tally.Library.Separated
import Tally.Model.VectorReceiptPipeline

/-!
# Embedding inputs of clauses

The input of a clause joins the fields of its context with labels and ends of lines that the
fields may contain too, and the ends of lines are made uniform only afterwards. Two clauses share
an input exactly if their fields are the same up to a carriage return before a label, or if a
field of one goes on with the label of the next and the rest of both lines up.
-/

set_option autoImplicit false

namespace Tally.Analysis.EmbeddingInputs
open Library Library.Separated Tally.Model
open TitanEmbeddings VectorReceiptPipeline
open Normalization

/-! ## Ends of lines -/

/-- A text without a carriage return at its end. -/
def trimCr (text : List Char) : List Char :=
  if text.getLast? = some '\r' then text.dropLast else text

theorem replaceCrLf_cons {c : Char} {text : List Char}
    (h : ¬(c = '\r' ∧ text.head? = some '\n')) :
    replaceCrLf (c :: text) = c :: replaceCrLf text := by
  rw [replaceCrLf.eq_def]
  split
  · rename_i heq
    obtain ⟨rfl, rfl⟩ := List.cons.inj heq
    exact absurd ⟨rfl, rfl⟩ h
  · rename_i heq
    obtain ⟨rfl, rfl⟩ := List.cons.inj heq
    rfl
  · rename_i heq
    exact absurd heq (by simp)

theorem trimCr_cons (c : Char) {text : List Char} (h : text ≠ []) :
    trimCr (c :: text) = c :: trimCr text := by
  unfold trimCr
  rw [List.getLast?_cons_of_ne_nil h]
  split
  · rw [List.dropLast_cons_of_ne_nil h]
  · rfl

theorem head_trimCr {text : List Char} {c : Char} (h : (trimCr text).head? = some c) :
    text.head? = some c := by
  unfold trimCr at h
  split at h
  · cases text with
    | nil => exact h
    | cons d text =>
        cases text with
        | nil => exact absurd h (by simp)
        | cons e text => exact h
  · exact h

/-- What stands before the end of a line is replaced on its own, but for a carriage return that
is part of the end. -/
theorem replaceCrLf_line (text rest : List Char) :
    replaceCrLf (text ++ '\n' :: rest) = replaceCrLf (trimCr text) ++ '\n' :: replaceCrLf rest := by
  induction text using replaceCrLf.induct with
  | case1 text ih =>
      have htrim : trimCr ('\r' :: '\n' :: text) = '\r' :: '\n' :: trimCr text := by
        rw [trimCr_cons _ (by simp)]
        cases text with
        | nil => rfl
        | cons c text => rw [trimCr_cons _ (by simp)]
      rw [htrim, List.cons_append, List.cons_append, replaceCrLf, replaceCrLf, ih]
      rfl
  | case2 c text hpair ih =>
      have hapart : ¬(c = '\r' ∧ text.head? = some '\n') := by
        rintro ⟨rfl, hhead⟩
        cases text with
        | nil => exact absurd hhead (by simp)
        | cons d text => exact hpair text rfl (by rw [Option.some.inj hhead])
      cases text with
      | nil =>
          by_cases hcr : c = '\r'
          · subst hcr
            rfl
          · have htrim : trimCr [c] = [c] := if_neg (by simpa using hcr)
            rw [htrim, List.cons_append, replaceCrLf_cons (fun h => hcr h.1), ih,
              replaceCrLf_cons (fun h => hcr h.1)]
            rfl
      | cons d text =>
          rw [trimCr_cons c (by simp), List.cons_append,
            replaceCrLf_cons (fun h => hapart ⟨h.1, by simpa using h.2⟩), ih,
            replaceCrLf_cons (fun h => hapart ⟨h.1, head_trimCr h.2⟩)]
          rfl
  | case3 => rfl

theorem replaceCrLf_cr (text : List Char) :
    replaceCrLf (text ++ ['\r']) = replaceCrLf text ++ ['\r'] := by
  induction text using replaceCrLf.induct with
  | case1 text ih =>
      rw [List.cons_append, List.cons_append, replaceCrLf, replaceCrLf, ih]
      rfl
  | case2 c text hpair ih =>
      have hapart : ¬(c = '\r' ∧ text.head? = some '\n') := by
        rintro ⟨rfl, hhead⟩
        cases text with
        | nil => exact absurd hhead (by simp)
        | cons d text => exact hpair text rfl (by rw [Option.some.inj hhead])
      have hapart' : ¬(c = '\r' ∧ (text ++ ['\r']).head? = some '\n') := by
        rintro ⟨hcr, hhead⟩
        cases text with
        | nil => exact absurd hhead (by simp)
        | cons d text => exact hapart ⟨hcr, hhead⟩
      rw [List.cons_append, replaceCrLf_cons hapart', ih, replaceCrLf_cons hapart]
      rfl
  | case3 => rfl

theorem lineFeeds_line (text rest : List Char) :
    lineFeeds (text ++ '\n' :: rest) = lineFeeds (trimCr text) ++ '\n' :: lineFeeds rest := by
  unfold lineFeeds
  rw [replaceCrLf_line, List.map_append, List.map_cons]
  rfl

/-- A carriage return at the end becomes the end of a line. -/
theorem lineFeeds_eq (text : List Char) :
    lineFeeds text = lineFeeds (trimCr text) ++
      (if text.getLast? = some '\r' then ['\n'] else []) := by
  by_cases hlast : text.getLast? = some '\r'
  · obtain ⟨start, rfl⟩ := List.getLast?_eq_some_iff.mp hlast
    have htrim : trimCr (start ++ ['\r']) = start := by
      unfold trimCr
      rw [if_pos hlast, List.dropLast_concat]
    rw [if_pos hlast, htrim]
    unfold lineFeeds
    rw [replaceCrLf_cr, List.map_append]
    rfl
  · have htrim : trimCr text = text := if_neg hlast
    rw [if_neg hlast, htrim, List.append_nil]

/-- A text without carriage returns in front stays as it is. -/
theorem lineFeeds_append {label : List Char} (h : '\r' ∉ label) (text : List Char) :
    lineFeeds (label ++ text) = label ++ lineFeeds text := by
  induction label with
  | nil => rfl
  | cons c label ih =>
      rw [List.mem_cons, not_or] at h
      have hne : c ≠ '\r' := fun heq => h.1 heq.symm
      have hrest := ih h.2
      unfold lineFeeds at hrest ⊢
      rw [List.cons_append, replaceCrLf_cons (fun hpair => hne hpair.1), List.map_cons, hrest,
        if_neg hne]
      rfl

/-! ## The canonical text -/

section Texts

variable [Normalization]

/-- A field in canonical form. -/
def normalized (field : String) : List Char := lineFeeds (nfc field.toList)

/-- What of a field stands before the next label. -/
def inner (field : String) : List Char := lineFeeds (trimCr (nfc field.toList))

/-- The field ends with a carriage return. -/
def EndsCr (field : String) : Prop := (nfc field.toList).getLast? = some '\r'

instance decidableEndsCr (field : String) : Decidable (EndsCr field) :=
  inferInstanceAs (Decidable (_ = _))

/-- A label of ASCII with a blank at its end is left as it is. -/
theorem nfc_label {label : List Char} (hascii : label.all (fun c => c.toNat < 128) = true)
    (text : List Char) : nfc (label ++ ' ' :: text) = label ++ ' ' :: nfc text := by
  have hlabel : ∀ c ∈ label, c.toNat < 128 := by simpa using hascii
  rw [nfc_boundary _ _ _ (by decide), nfc_ascii label hlabel, nfc_apart _ _ (Or.inl rfl)]

/-- Lines are composed on their own. -/
theorem nfc_line (line text : List Char) :
    nfc (line ++ '\n' :: text) = nfc line ++ '\n' :: nfc text := by
  rw [nfc_boundary _ _ _ (by decide), nfc_apart _ _ (Or.inr (Or.inl rfl))]

/-- The labels behind the first one, each on a line of its own. -/
def separators : List (List Char) :=
  ["\nequipment: ".toList, "\nroute: ".toList, "\nservice: ".toList, "\ntariff_clause: ".toList]

/-- The fields behind the first one, as they stand in the text. -/
def laterFields (context : ClauseContext) : List (List Char) :=
  [inner context.equipment, inner context.route, inner context.service,
    normalized context.clauseText]

/-- A labelled field and what follows in the next line. -/
theorem canonical_field {label : List Char} (hascii : label.all (fun c => c.toNat < 128) = true)
    (hcr : '\r' ∉ label) (field : String) (rest : List Char) :
    lineFeeds (nfc (label ++ ' ' :: (field.toList ++ '\n' :: rest))) =
      (label ++ [' ']) ++ (inner field ++ '\n' :: lineFeeds (nfc rest)) := by
  have hlabel : '\r' ∉ label ++ [' '] := by simp [hcr]
  unfold inner
  rw [nfc_label hascii, nfc_line, ← lineFeeds_line, ← lineFeeds_append hlabel]
  simp

omit [Normalization] in
theorem family_label : "document_family: ".toList = "document_family:".toList ++ [' '] := by decide

omit [Normalization] in
theorem equipment_label :
    "\nequipment: ".toList = '\n' :: ("equipment:".toList ++ [' ']) := by decide

omit [Normalization] in
theorem route_label : "\nroute: ".toList = '\n' :: ("route:".toList ++ [' ']) := by decide

omit [Normalization] in
theorem service_label : "\nservice: ".toList = '\n' :: ("service:".toList ++ [' ']) := by decide

omit [Normalization] in
theorem clause_label :
    "\ntariff_clause: ".toList = '\n' :: ("tariff_clause:".toList ++ [' ']) := by decide

omit [Normalization] in
/-- The composed input, field by field. -/
theorem compose_toList [CharacterTables] {context : ClauseContext} {text : String}
    (h : composeClauseEmbeddingInput context = some text) :
    text.toList = "document_family:".toList ++ ' ' :: (context.documentFamily.toList ++ '\n' ::
      ("equipment:".toList ++ ' ' :: (context.equipment.toList ++ '\n' ::
        ("route:".toList ++ ' ' :: (context.route.toList ++ '\n' ::
          ("service:".toList ++ ' ' :: (context.service.toList ++ '\n' ::
            ("tariff_clause:".toList ++ ' ' :: context.clauseText.toList)))))))) := by
  unfold composeClauseEmbeddingInput at h
  split at h
  · obtain rfl := Option.some.inj h
    simp only [String.toList_append, family_label, equipment_label, route_label, service_label,
      clause_label, List.append_assoc, List.cons_append, List.nil_append]
  · exact absurd h (by simp)

/-- The canonical form of the composed input joins the fields. -/
theorem canonical_compose [CharacterTables] {context : ClauseContext} {text : String}
    (h : composeClauseEmbeddingInput context = some text) :
    lineFeeds (nfc text.toList) = "document_family: ".toList ++
      joined (inner context.documentFamily) separators (laterFields context) := by
  have hclause : lineFeeds (nfc ("tariff_clause:".toList ++ ' ' :: context.clauseText.toList)) =
      "tariff_clause: ".toList ++ normalized context.clauseText := by
    rw [nfc_label (by decide), ← List.singleton_append, ← List.append_assoc]
    exact lineFeeds_append (by decide) _
  rw [compose_toList h, canonical_field (by decide) (by decide),
    canonical_field (by decide) (by decide), canonical_field (by decide) (by decide),
    canonical_field (by decide) (by decide), hclause]
  simp only [separators, laterFields, joined, family_label, equipment_label, route_label,
    service_label, clause_label, List.append_assoc, List.cons_append, List.nil_append]
  rfl

/-! ## Equal hashes -/

/-- The fields before the clause text. -/
def contextFields : List (ClauseContext → String) :=
  [ClauseContext.documentFamily, ClauseContext.equipment, ClauseContext.route,
    ClauseContext.service]

/-- The two clauses have the same fields in canonical form. -/
def SameFields (a b : ClauseContext) : Prop :=
  ∀ field ∈ contextFields ++ [ClauseContext.clauseText], normalized (field a) = normalized (field b)

/-- A field of the second clause goes on behind that of the first with the next label, and the
rest of both lines up. -/
def Moved (a b : ClauseContext) : Prop :=
  Shift (inner a.documentFamily) separators (laterFields a) (inner b.documentFamily) (laterFields b)

/-- The fields are the same before their labels. -/
def Aligned (a b : ClauseContext) : Prop :=
  inner a.documentFamily = inner b.documentFamily ∧ laterFields a = laterFields b

theorem aligned_iff {a b : ClauseContext} : Aligned a b ↔
    (∀ field ∈ contextFields, inner (field a) = inner (field b)) ∧
      normalized a.clauseText = normalized b.clauseText := by
  unfold Aligned laterFields contextFields
  simp only [List.cons.injEq, List.forall_mem_cons, List.not_mem_nil, false_implies, implies_true,
    and_true, and_assoc]

theorem normalized_eq (field : String) :
    normalized field = inner field ++ (if EndsCr field then ['\n'] else []) :=
  lineFeeds_eq _

omit [Normalization] in
theorem separators_marked : ∀ s ∈ separators, Marked s := by
  intro s hs
  simp only [separators, List.mem_cons, List.not_mem_nil, or_false] at hs
  rcases hs with rfl | rfl | rfl | rfl
  · exact ⟨'\n', "equipment: ".toList, by decide, by decide⟩
  · exact ⟨'\n', "route: ".toList, by decide, by decide⟩
  · exact ⟨'\n', "service: ".toList, by decide, by decide⟩
  · exact ⟨'\n', "tariff_clause: ".toList, by decide, by decide⟩

/-- Clauses with the same fields are not shifted. -/
theorem not_moved_of_same {a b : ClauseContext} (h : SameFields a b) : ¬Moved a b := by
  intro hmoved
  obtain ⟨i, z, z', hz, hz', s, hs, hle⟩ := hmoved.longer
  have hlong : 2 ≤ s.length := by
    simp only [separators, List.mem_cons, List.not_mem_nil, or_false] at hs
    rcases hs with rfl | rfl | rfl | rfl <;> decide
  have hcontext (field : ClauseContext → String) (hfield : field ∈ contextFields) :
      (inner (field b)).length ≤ (inner (field a)).length + 1 := by
    have hsame := congrArg List.length (h field (List.mem_append_left _ hfield))
    rw [normalized_eq, normalized_eq, List.length_append, List.length_append] at hsame
    split at hsame <;> split at hsame <;>
      simp only [List.length_nil, List.length_singleton] at hsame <;> omega
  have hbound : z'.length ≤ z.length + 1 := by
    have hclause := congrArg List.length (h ClauseContext.clauseText (by simp))
    rcases i with _ | _ | _ | _ | _ | i
    · obtain rfl := Option.some.inj hz
      obtain rfl := Option.some.inj hz'
      exact hcontext _ (by simp [contextFields])
    · obtain rfl := Option.some.inj hz
      obtain rfl := Option.some.inj hz'
      exact hcontext ClauseContext.equipment (by simp [contextFields])
    · obtain rfl := Option.some.inj hz
      obtain rfl := Option.some.inj hz'
      exact hcontext ClauseContext.route (by simp [contextFields])
    · obtain rfl := Option.some.inj hz
      obtain rfl := Option.some.inj hz'
      exact hcontext ClauseContext.service (by simp [contextFields])
    · obtain rfl := Option.some.inj hz
      obtain rfl := Option.some.inj hz'
      omega
    · exact absurd hz (by simp [laterFields])
  omega

/-- Clauses that are aligned have the same fields exactly if the same of them end with a carriage
return. -/
theorem same_of_aligned {a b : ClauseContext} (h : Aligned a b) :
    SameFields a b ↔ ∀ field ∈ contextFields, (EndsCr (field a) ↔ EndsCr (field b)) := by
  obtain ⟨hinner, hclause⟩ := aligned_iff.mp h
  have hfield (field : ClauseContext → String) (hmem : field ∈ contextFields) :
      normalized (field a) = normalized (field b) ↔ (EndsCr (field a) ↔ EndsCr (field b)) := by
    rw [normalized_eq, normalized_eq, hinner field hmem, List.append_right_inj]
    split <;> split <;> simp [*]
  constructor
  · intro hsame field hmem
    exact (hfield field hmem).mp (hsame field (List.mem_append_left _ hmem))
  · intro hcr field hmem
    rcases List.mem_append.mp hmem with hcontext | hlast
    · exact (hfield field hcontext).mpr (hcr field hcontext)
    · rw [List.mem_singleton.mp hlast]
      exact hclause

section Hashes

variable [Sha256] [CharacterTables]

omit [Normalization] [Sha256] [CharacterTables] in
theorem sortKeys_payload (inputText : String) :
    (payload inputText).sortKeys = payload inputText := by
  simp [payload, Json.sortKeys, Json.sortMembers, List.insertionSort]

/-- The hash of a clause is that of its canonical text. -/
theorem clauseInputSha256_some {context : ClauseContext} {hash : String}
    (h : clauseInputSha256 context = some hash) :
    hash = Sha256.hexdigest (encode (Json.dumps .compact (payload (String.ofList
      ("document_family: ".toList ++
        joined (inner context.documentFamily) separators (laterFields context)))))) := by
  obtain ⟨text, hcompose, hhash⟩ := Option.bind_eq_some_iff.mp h
  obtain ⟨canonical, hcanonical, rfl⟩ := Option.map_eq_some_iff.mp hhash
  unfold canonicalEmbeddingInput at hcanonical
  dsimp only at hcanonical
  split at hcanonical
  · exact absurd hcanonical (by simp)
  · obtain rfl := Option.some.inj hcanonical
    rw [sortKeys_payload, canonical_compose hcompose]

theorem hash_eq_iff (hfree : Sha256.CollisionFree) {a b : ClauseContext} {hash hash' : String}
    (ha : clauseInputSha256 a = some hash) (hb : clauseInputSha256 b = some hash') :
    hash = hash' ↔ Aligned a b ∨ Moved a b ∨ Moved b a := by
  have hlength (c : ClauseContext) : (laterFields c).length = separators.length := rfl
  have hjoined : _ ↔ Aligned a b ∨ Moved a b ∨ Moved b a :=
    joined_eq_iff separators_marked (hlength a) (hlength b)
  rw [← hjoined, clauseInputSha256_some ha, clauseInputSha256_some hb]
  constructor
  · intro h
    have htext := Json.dumps_compact_injective
      (encode_injective (Sha256.hexdigest_injective hfree h))
    simp only [payload, Json.obj.injEq, List.cons.injEq, Prod.mk.injEq, Json.str.injEq, true_and,
      and_true] at htext
    exact List.append_cancel_left (String.ofList_injective htext)
  · intro h
    rw [h]

/-- The hash of two accepted clauses pins their fields exactly if neither is the other with a
label moved, and clauses that agree up to carriage returns before the labels agree in these too.
SOURCE: platform/vector_receipt_pipeline.py:50-83, external/titan_embeddings.py:43-74 -/
theorem hash_pins_iff (hfree : Sha256.CollisionFree) {a b : ClauseContext} {hash hash' : String}
    (ha : clauseInputSha256 a = some hash) (hb : clauseInputSha256 b = some hash') :
    (hash = hash' → SameFields a b) ↔ ¬Moved a b ∧ ¬Moved b a ∧
      (Aligned a b → ∀ field ∈ contextFields, (EndsCr (field a) ↔ EndsCr (field b))) := by
  rw [hash_eq_iff hfree ha hb]
  constructor
  · intro hpins
    refine ⟨fun hmoved => ?_, fun hmoved => ?_, fun haligned => ?_⟩
    · exact not_moved_of_same (hpins (Or.inr (Or.inl hmoved))) hmoved
    · have hsame := hpins (Or.inr (Or.inr hmoved))
      exact not_moved_of_same (fun field hmem => (hsame field hmem).symm) hmoved
    · exact (same_of_aligned haligned).mp (hpins (Or.inl haligned))
  · rintro ⟨hab, hba, hcr⟩ (haligned | hmoved | hmoved)
    · exact (same_of_aligned haligned).mpr (hcr haligned)
    · exact absurd hmoved hab
    · exact absurd hmoved hba

end Hashes

end Texts

/-! ## A moved label -/

section Case

/-- Texts of ASCII, which has no characters to compose. -/
local instance caseCharacters : CharacterTables :=
  ⟨Char.isDigit, fun c => c = ' ' || c = '\n', List.map Char.toLower⟩

local instance caseNormalization : Normalization := plainNormalization

local instance caseDigest : Sha256 := Sha256.agreeingOn []

/-- A clause of dry containers on one route, its family and equipment as given. -/
def clauseOf (documentFamily equipment : String) : ClauseContext :=
  ⟨documentFamily, equipment, "USOAK", "import", "250"⟩

theorem accepted_of_isSome (context : ClauseContext)
    (h : ((composeClauseEmbeddingInput context).bind canonicalEmbeddingInput).isSome = true) :
    ∃ hash, clauseInputSha256 context = some hash := by
  obtain ⟨canonical, hcanonical⟩ := Option.isSome_iff_exists.mp h
  obtain ⟨text, hcompose, htext⟩ := Option.bind_eq_some_iff.mp hcanonical
  have hhash : embeddingInputSha256 text = some (Sha256.hexdigest
      (encode (Json.dumps .compact (payload canonical).sortKeys))) := by
    unfold embeddingInputSha256
    rw [htext, Option.map_some]
  exact ⟨_, Option.bind_eq_some_iff.mpr ⟨text, hcompose, hhash⟩⟩

theorem hash_pins_families :
    ∃ hash hash', clauseInputSha256 (clauseOf "tariff" "DRY") = some hash ∧
      clauseInputSha256 (clauseOf "quote" "DRY") = some hash' ∧
      ((hash = hash' → SameFields (clauseOf "tariff" "DRY") (clauseOf "quote" "DRY")) ↔
        ¬Moved (clauseOf "tariff" "DRY") (clauseOf "quote" "DRY") ∧
        ¬Moved (clauseOf "quote" "DRY") (clauseOf "tariff" "DRY") ∧
        (Aligned (clauseOf "tariff" "DRY") (clauseOf "quote" "DRY") → ∀ field ∈ contextFields,
          (EndsCr (field (clauseOf "tariff" "DRY")) ↔
            EndsCr (field (clauseOf "quote" "DRY"))))) := by
  have hfree : Sha256.CollisionFree := Sha256.agreeingOn_collisionFree (by simp)
  obtain ⟨hash, ha⟩ := accepted_of_isSome (clauseOf "tariff" "DRY") (by decide +kernel)
  obtain ⟨hash', hb⟩ := accepted_of_isSome (clauseOf "quote" "DRY") (by decide +kernel)
  exact ⟨hash, hash', ha, hb, hash_pins_iff hfree ha hb⟩

/-- The family may take the label of the equipment along. -/
theorem label_moved : Sha256.CollisionFree ∧
    ∃ hash, clauseInputSha256 (clauseOf "tariff" "DRY\nequipment: 40HC") = some hash ∧
      clauseInputSha256 (clauseOf "tariff\nequipment: DRY" "40HC") = some hash ∧
      ¬SameFields (clauseOf "tariff" "DRY\nequipment: 40HC")
        (clauseOf "tariff\nequipment: DRY" "40HC") := by
  refine ⟨Sha256.agreeingOn_collisionFree (by simp), ?_⟩
  obtain ⟨hash, ha⟩ := accepted_of_isSome (clauseOf "tariff" "DRY\nequipment: 40HC")
    (by decide +kernel)
  have hsame : composeClauseEmbeddingInput (clauseOf "tariff" "DRY\nequipment: 40HC") =
      composeClauseEmbeddingInput (clauseOf "tariff\nequipment: DRY" "40HC") := by
    decide +kernel
  refine ⟨hash, ha, ?_, ?_⟩
  · rw [← ha]
    exact (congrArg (fun text => Option.bind text embeddingInputSha256) hsame).symm
  · intro hfields
    have hfamily := hfields ClauseContext.documentFamily (by simp [contextFields])
    exact absurd hfamily (by decide +kernel)

end Case

end Tally.Analysis.EmbeddingInputs
