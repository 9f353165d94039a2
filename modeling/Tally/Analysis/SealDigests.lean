import Tally.Library.KeyOrder
import Tally.Model.SealManifest

/-!
# What a seal digest pins

The canonical text of a manifest sorts the members of its objects, at every depth, and
keeps the order of its lists. Objects with the same keys have one canonical text only when
they hold the same values, so the digest of a seal determines every input it binds.
-/

set_option autoImplicit false

namespace Tally.Analysis.SealDigests
open Library Model Model.AuthoritySealRepository

/-! ## Values under sorted keys -/

/-- Lists with the same distinct keys that sort to one list are one list. -/
theorem eq_of_sorted {β : Type} {xs ys : List (String × β)}
    (hkeys : xs.map Prod.fst = ys.map Prod.fst) (hnodup : (xs.map Prod.fst).Nodup)
    (h : xs.insertionSort (fun a b => a.1 ≤ b.1) = ys.insertionSort (fun a b => a.1 ≤ b.1)) :
    xs = ys := by
  have hperm : xs.Perm ys :=
    (List.perm_insertionSort _ xs).symm.trans (h ▸ List.perm_insertionSort _ ys)
  have hmem : ∀ p ∈ xs, p ∈ ys := fun p hp => hperm.mem_iff.mp hp
  clear h hperm
  induction xs generalizing ys with
  | nil =>
      cases ys with
      | nil => rfl
      | cons y ys => exact absurd hkeys (by simp)
  | cons x xs ih =>
      cases ys with
      | nil => exact absurd hkeys (by simp)
      | cons y ys =>
          simp only [List.map_cons, List.cons.injEq, List.nodup_cons] at hkeys hnodup
          have hhead : x = y := by
            rcases List.mem_cons.mp (hmem x (List.mem_cons_self ..)) with hxy | hlater
            · exact hxy
            · have hx : x.1 ∈ ys.map Prod.fst := List.mem_map_of_mem hlater
              rw [← hkeys.2] at hx
              exact absurd hx hnodup.1
          refine congrArg₂ List.cons hhead (ih hkeys.2 hnodup.2 ?_)
          intro p hp
          rcases List.mem_cons.mp (hmem p (List.mem_cons_of_mem _ hp)) with hpy | hlater
          · have hkey : x.1 ∈ xs.map Prod.fst := by
              rw [hkeys.1, ← hpy]
              exact List.mem_map_of_mem hp
            exact absurd hkey hnodup.1
          · exact hlater

/-- Objects with the same distinct keys and one sorted form agree member by member. -/
theorem sortMembers_inj {xs ys : List (String × Json)}
    (hkeys : xs.map Prod.fst = ys.map Prod.fst) (hnodup : (xs.map Prod.fst).Nodup)
    (h : (Json.obj xs).sortKeys = (Json.obj ys).sortKeys) :
    Json.sortMembers xs = Json.sortMembers ys := by
  rw [Json.sortKeys, Json.sortKeys, Json.obj.injEq] at h
  refine eq_of_sorted ?_ ?_ h
  · rw [Json.keys_sortMembers, Json.keys_sortMembers, hkeys]
  · rwa [Json.keys_sortMembers]

theorem sortKeys_optionJson (value : Option String) :
    (optionJson Json.str value).sortKeys = optionJson Json.str value := by
  cases value with
  | none => rw [optionJson, Json.sortKeys]
  | some text => rw [optionJson, Json.sortKeys]

theorem optionJson_inj {a b : Option String} (h : optionJson Json.str a = optionJson Json.str b) :
    a = b := by
  cases a with
  | none =>
      cases b with
      | none => rfl
      | some text => exact absurd h (by simp [optionJson])
  | some text =>
      cases b with
      | none => exact absurd h (by simp [optionJson])
      | some text' => exact congrArg some (Json.str.inj h)

theorem sortItems_texts (texts : List String) :
    Json.sortItems (texts.map Json.str) = texts.map Json.str := by
  induction texts with
  | nil => rfl
  | cons text texts ih => rw [List.map_cons, Json.sortItems, ih, Json.sortKeys]

/-! ## Canonical bytes -/

section Manifests

variable [Sha256]

/-- One sorted manifest is built from one list of inputs, up to the digest of the source
reference. -/
theorem inputs_of_manifest {inputs inputs' : SealManifest.SealInputs} {revision revision' : Int}
    (h : (SealManifest.buildSealManifest inputs revision).sortKeys =
      (SealManifest.buildSealManifest inputs' revision').sortKeys) :
    revision = revision' ∧
    Sha256.hexdigest (encode inputs.invoiceSourceRef) =
      Sha256.hexdigest (encode inputs'.invoiceSourceRef) ∧
    { inputs with invoiceSourceRef := "" } = { inputs' with invoiceSourceRef := "" } := by
  have hmembers := sortMembers_inj (by rfl) (by simp) h
  simp only [Json.sortMembers, List.cons.injEq, Prod.mk.injEq, true_and, and_true] at hmembers
  obtain ⟨hrevision, hinvoice, hreconstruction, hrecommendation, hrule, hclaims, hsource, hdays,
    happrover⟩ := hmembers
  have hreconstruction := sortMembers_inj (by rfl) (by simp) hreconstruction
  have hrecommendation := sortMembers_inj (by rfl) (by simp) hrecommendation
  have hrule := sortMembers_inj (by rfl) (by simp) hrule
  have happrover := sortMembers_inj (by rfl) (by simp) happrover
  simp only [Json.sortMembers, sortKeys_optionJson, List.cons.injEq, Prod.mk.injEq, true_and,
    and_true] at hreconstruction hrecommendation hrule happrover
  simp only [Json.sortKeys, Json.int.injEq, Json.str.injEq] at hrevision hinvoice hreconstruction
  simp only [Json.sortKeys, Json.int.injEq, Json.str.injEq] at hrecommendation hclaims hsource
  simp only [Json.sortKeys, Json.str.injEq] at happrover
  have hdays : inputs.dayJudgmentDigests = inputs'.dayJudgmentDigests := by
    rw [Json.sortKeys, Json.sortKeys, Json.arr.injEq, sortItems_texts, sortItems_texts] at hdays
    exact List.map_injective_iff.mpr (fun _ _ htext => Json.str.inj htext) hdays
  refine ⟨hrevision, hsource, ?_⟩
  rw [SealManifest.SealInputs.mk.injEq]
  exact ⟨hinvoice, hreconstruction.1, hreconstruction.2, hrecommendation.1, hrecommendation.2.1,
    hrecommendation.2.2.1, hrecommendation.2.2.2.1, hrecommendation.2.2.2.2.1,
    hrecommendation.2.2.2.2.2.1, hrecommendation.2.2.2.2.2.2.1, hrecommendation.2.2.2.2.2.2.2,
    optionJson_inj hrule.1, optionJson_inj hrule.2, hclaims, rfl, hdays, happrover.1, happrover.2⟩

/-- Seals with one digest bind the same inputs under the same revision. -/
theorem seal_digest_pins (hfree : Sha256.CollisionFree)
    (inputs inputs' : SealManifest.SealInputs) (revision revision' : Int)
    (h : sealDigest (SealManifest.buildSealManifest inputs revision) =
      sealDigest (SealManifest.buildSealManifest inputs' revision')) :
    inputs = inputs' ∧ revision = revision' := by
  have hhex :
      Sha256.hexdigest (canonicalJsonBytes (SealManifest.buildSealManifest inputs revision)) =
        Sha256.hexdigest (canonicalJsonBytes (SealManifest.buildSealManifest inputs' revision')) :=
    String.append_right_inj "sha256:" |>.mp h
  have hbytes := Sha256.hexdigest_injective hfree hhex
  have hsorted := Json.dumps_compact_injective (encode_injective hbytes)
  obtain ⟨hrevision, hsource, hinputs⟩ := inputs_of_manifest hsorted
  have href : inputs.invoiceSourceRef = inputs'.invoiceSourceRef :=
    encode_injective (Sha256.hexdigest_injective hfree hsource)
  refine ⟨?_, hrevision⟩
  calc inputs = { { inputs with invoiceSourceRef := "" } with
          invoiceSourceRef := inputs.invoiceSourceRef } := rfl
    _ = { { inputs' with invoiceSourceRef := "" } with
          invoiceSourceRef := inputs'.invoiceSourceRef } := by rw [hinputs, href]
    _ = inputs' := rfl

end Manifests

section Case

/-- The inputs of a seal over two days. -/
def sampleInputs : SealManifest.SealInputs :=
  { invoiceId := "invoice", reconstructionId := "reconstruction", reconstructionVersion := 1
    recommendationId := "recommendation", recommendationVersion := 1
    recommendationType := "DISPUTE", recommendationDigest := "sha256:d"
    disputedAmountMinor := 20000, supportedAmountMinor := 50000, claimedAmountMinor := 70000
    currency := "USD", applicableRuleId := some "rule", applicableRuleDigest := none
    claimSetVersion := 1, invoiceSourceRef := "key@version"
    dayJudgmentDigests := ["sha256:a", "sha256:b"], approverDisplay := "Rachel"
    approverKind := "AUTHENTICATED" }

local instance caseHash : Sha256 := Sha256.agreeingOn []

/-- A digest repeats for the same inputs, and not once an amount drifts. -/
theorem seal_digest_pins_sample :
    (sampleInputs = sampleInputs ∧ (1 : Int) = 1) ∧
    sealDigest (SealManifest.buildSealManifest sampleInputs 1) ≠
      sealDigest (SealManifest.buildSealManifest
        { sampleInputs with disputedAmountMinor := 30000 } 1) := by
  have hfree : Sha256.CollisionFree := Sha256.agreeingOn_collisionFree (by simp)
  refine ⟨seal_digest_pins hfree sampleInputs sampleInputs 1 1 rfl, ?_⟩
  intro h
  exact absurd (seal_digest_pins hfree _ _ 1 1 h).1 (by decide)

end Case

end Tally.Analysis.SealDigests
