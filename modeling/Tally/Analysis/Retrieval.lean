import Tally.Model.VectorRetrieval

/-!
# Indexed retrieval

A group of the scope partition holds the documents of its scope in the order in which they
were given, so the ranking sees the same documents through the index and through the
filter of the reference. The key of the ranking ends in the identity of a document: when
the identities are distinct the ranked list depends on the documents alone, not on their
order.
-/

set_option autoImplicit false

namespace Tally.Analysis.Retrieval
open Library Model Model.VectorRetrieval

/-! ## Groups -/

section Groups

variable {K A : Type} [DecidableEq K]

theorem valuesOf_addTo (key key' : K) (value : A) (groups : List (K × List A)) :
    valuesOf key' (addTo key value groups) =
      if key' = key then valuesOf key' groups ++ [value] else valuesOf key' groups := by
  unfold valuesOf
  induction groups with
  | nil =>
      by_cases h : key' = key
      · simp [addTo, List.lookup_nil, h]
      · simp [addTo, List.lookup_cons, List.lookup_nil, h, beq_eq_false_iff_ne.mpr h]
  | cons group groups ih =>
      obtain ⟨k, values⟩ := group
      rw [addTo]
      by_cases hk : k = key
      · rw [if_pos hk]
        by_cases h : key' = k
        · simp [h, hk]
        · simp [List.lookup_cons, beq_eq_false_iff_ne.mpr h, hk ▸ h]
      · rw [if_neg hk]
        by_cases h : key' = k
        · simp [h, hk]
        · simpa [List.lookup_cons, beq_eq_false_iff_ne.mpr h] using ih

/-- Grouping keeps, under each key, the values of that key in their order. -/
theorem valuesOf_grouped (keyOf : A → K) (key : K) (values : List A) (groups : List (K × List A)) :
    valuesOf key (values.foldl (fun grouped value => addTo (keyOf value) value grouped) groups) =
      valuesOf key groups ++ values.filter fun value => keyOf value = key := by
  induction values generalizing groups with
  | nil => simp
  | cons value values ih =>
      rw [List.foldl_cons, ih, valuesOf_addTo]
      by_cases h : key = keyOf value
      · rw [if_pos h, List.filter_cons_of_pos (by simp [h]), List.append_assoc,
          List.singleton_append]
      · rw [if_neg h, List.filter_cons_of_neg (by simpa using fun heq => h heq.symm)]

end Groups

/-! ## Rankings -/

section Rankings

variable [Sha256] [CharacterTables] {V D : Type} (distance : V → V → Option D)

omit [Sha256] in
/-- What tells the documents of an index apart. -/
def identity (document : ClauseDocument V) : String × String × String :=
  (document.clauseId, document.captureId, document.sourceVersionId)

omit [Sha256] in
/-- The documents a request looks at. -/
def InScope (request : RetrievalRequest V) (document : ClauseDocument V) : Prop :=
  scopeOf document = (request.tenantId, request.carrierId, request.documentFamily)

variable [LinearOrder D] (request : RetrievalRequest V)

/-- Only the documents in scope are ranked. -/
theorem rankedEvaluations_scoped (documents : List (ClauseDocument V)) :
    rankedEvaluations distance
        (documents.filter fun document =>
          scopeOf document = (request.tenantId, request.carrierId, request.documentFamily)) request =
      rankedEvaluations distance documents request := by
  unfold rankedEvaluations
  dsimp only
  rw [List.filter_filter]
  congr 2
  refine List.filter_congr ?_
  intro document _
  simp [scopeOf]

theorem resultFrom_scoped (documents : List (ClauseDocument V)) :
    resultFrom distance
        (documents.filter fun document =>
          scopeOf document = (request.tenantId, request.carrierId, request.documentFamily)) request =
      resultFrom distance documents request := by
  unfold resultFrom
  rw [rankedEvaluations_scoped]

/-- The index answers as the reference does. -/
theorem retrieve_build (documents : List (ClauseDocument V)) :
    (ClauseIndex.build documents).retrieve distance request =
      retrieveBruteForce distance documents request := by
  unfold ClauseIndex.retrieve retrieveBruteForce
  by_cases hscope : request.hasScopePrefix = true
  · have hgroup := valuesOf_grouped scopeOf
      (request.tenantId, request.carrierId, request.documentFamily) documents []
    rw [hscope, Bool.not_true, if_neg (by decide)]
    rw [ClauseIndex.build, hgroup]
    exact resultFrom_scoped distance request documents
  · have hmissing : request.hasScopePrefix = false := by simpa using hscope
    rw [hmissing]
    unfold resultFrom
    rw [hmissing]
    rfl

omit [LinearOrder D] in
/-- Candidates of one rank are candidates of one identity. -/
theorem identity_of_rank {document document' : ClauseDocument V}
    (h : rankKey (evaluate distance document request) =
      rankKey (evaluate distance document' request)) : identity document = identity document' := by
  have hkey := (Prod.mk.inj (toLex.injective h)).2
  obtain ⟨hclause, hrest⟩ := Prod.mk.inj (toLex.injective hkey)
  obtain ⟨hcapture, hversion⟩ := Prod.mk.inj (toLex.injective hrest)
  exact Prod.ext hclause (Prod.ext hcapture hversion)

/-- Documents told apart by their identities are ranked one way, in whatever order they are
given. -/
theorem rankedEvaluations_perm {documents documents' : List (ClauseDocument V)}
    (hperm : documents.Perm documents') (hdistinct : (documents.map identity).Nodup) :
    rankedEvaluations distance documents request =
      rankedEvaluations distance documents' request := by
  have hscoped := hperm.filter fun document =>
    decide (document.tenantId = request.tenantId ∧ document.carrierId = request.carrierId ∧
      document.documentFamily = request.documentFamily)
  have hevaluated := hscoped.map fun document => evaluate distance document request
  unfold rankedEvaluations
  refine @List.Perm.eq_of_pairwise _ (fun a b => rankKey a ≤ rankKey b) _ _ ?_
    (List.pairwise_insertionSort _ _) (List.pairwise_insertionSort _ _)
    ((List.perm_insertionSort _ _).trans (hevaluated.trans (List.perm_insertionSort _ _).symm))
  intro a b ha hb hab hba
  rw [List.mem_insertionSort] at ha hb
  obtain ⟨document, hdocument, rfl⟩ := List.mem_map.mp ha
  obtain ⟨document', hdocument', rfl⟩ := List.mem_map.mp hb
  have hsame := identity_of_rank distance request (le_antisymm hab hba)
  have hmem := (List.mem_filter.mp hdocument).1
  have hmem' := hperm.mem_iff.mpr (List.mem_filter.mp hdocument').1
  rw [List.inj_on_of_nodup_map hdistinct hmem hmem' hsame]

/-- The index and the reference give one result, and with distinct identities one result for
every order of the documents. -/
theorem indexed_retrieval (documents : List (ClauseDocument V)) (request : RetrievalRequest V) :
    (ClauseIndex.build documents).retrieve distance request =
      retrieveBruteForce distance documents request ∧
    ∀ documents', documents.Perm documents' → (documents.map identity).Nodup →
      (ClauseIndex.build documents').retrieve distance request =
        (ClauseIndex.build documents).retrieve distance request ∧
      retrieveBruteForce distance documents' request =
        retrieveBruteForce distance documents request := by
  refine ⟨retrieve_build distance request documents, ?_⟩
  intro documents' hperm hdistinct
  have hresult : resultFrom distance documents' request = resultFrom distance documents request := by
    unfold resultFrom
    rw [rankedEvaluations_perm distance request hperm hdistinct]
  exact ⟨by rw [retrieve_build, retrieve_build]; exact hresult, hresult⟩

end Rankings

section Case

local instance caseHash : Sha256 := Sha256.standard

local instance caseCharacters : CharacterTables := ⟨Char.isDigit, (· = ' '), List.map Char.toLower⟩

/-- A clause with a place on the line for an embedding. -/
def caseDocument (clauseId : String) (hclause : blank clauseId = false) (place : Nat) :
    ClauseDocument Nat :=
  { clauseId, tenantId := "t", carrierId := "c", documentFamily := "f", captureId := "s"
    sourceVersionId := "v", sourceSha256 := "h", clauseSha256 := "h"
    effectiveFrom := .min, effectiveTo := none
    equipment := "e", route := "r", service := "s", rateAmount := ((0 : ℚ) : WithTop ℚ)
    rateCurrency := "USD", rateUnit := "day", clauseText := "text", embedding := place
    embeddingIntegrityVerified := true, sourceBytes := none
    required := by simpa [hclause] using (by decide)
    ordered := by simp
    nonnegative := fun _ h => WithTop.coe_inj.mp h ▸ Rat.le_refl }

def caseRequest : RetrievalRequest Nat :=
  ⟨"t", "c", "f", .min, "e", "r", "s", 5⟩

/-- Two clauses at one distance, given in either order. -/
theorem indexed_retrieval_swapped :
    let near := caseDocument "near" (by decide) 4
    let far := caseDocument "far" (by decide) 6
    let distance : Nat → Nat → Option Nat := fun a b => some (a - b + (b - a))
    (ClauseIndex.build [near, far]).retrieve distance caseRequest =
      (ClauseIndex.build [far, near]).retrieve distance caseRequest :=
  ((indexed_retrieval (fun a b => some (a - b + (b - a))) [caseDocument "far" (by decide) 6,
    caseDocument "near" (by decide) 4] caseRequest).2 _ (List.Perm.swap ..)
    (by simp [identity, caseDocument])).1

end Case

end Tally.Analysis.Retrieval
