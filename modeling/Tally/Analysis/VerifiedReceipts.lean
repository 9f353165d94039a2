import Tally.Library.Fallible
import Tally.Library.ValueIdentity
import Tally.Analysis.Overcharges
import Tally.Analysis.SealedBindings
import Tally.Model.ReceiptVerifier

/-!
# Verified receipts

What a receipt rests on once every check of it has passed: the exact versions of its sources, the
clauses that stand in them with the rate that is recorded, and the claim in the bytes of the
invoice. The checks go by the hash of the manifest and the hashes in it. So two receipts that pass
under one sealed hash rest on the same bytes, whatever the databases and the object stores hold,
unless two byte strings that are hashed in one place collide.
-/

set_option autoImplicit false

namespace Tally.Analysis.VerifiedReceipts
open Library Library.Sha256 Tally.Model CaseSeal EvidenceBindings Receipt ReceiptVerifier
open Tally.Model.Applicability (Decimal)
open Tally.Model.VectorRetrieval (normalizeText decodeUtf8)

/-! ## Checks that pass -/

/-- Every check of a list passes. -/
def Passes (checks : List (String × Bool × String)) : Prop := ∀ check ∈ checks, check.2.1 = true

theorem passes_append {checks checks' : List (String × Bool × String)} :
    Passes (checks ++ checks') ↔ Passes checks ∧ Passes checks' := by
  unfold Passes
  rw [List.forall_mem_append]

theorem Passes.cons {name reason : String} {passed : Bool}
    {checks : List (String × Bool × String)} (h : Passes ((name, passed, reason) :: checks)) :
    passed = true ∧ Passes checks :=
  List.forall_mem_cons.mp h

theorem all_recorded {checks : List (String × Bool × String)} :
    (recorded checks).all ReceiptCheck.passed = true ↔ Passes checks := by
  unfold recorded Passes
  rw [List.all_map, List.all_eq_true]
  rfl

theorem all_prefixed (index : Nat) {checks : List (String × Bool × String)} :
    (prefixed index checks).all ReceiptCheck.passed = true ↔ Passes checks := by
  unfold prefixed Passes
  rw [List.all_map, List.all_eq_true]
  rfl

/-! ## What an item rests on -/

section Items

variable [Interpreter] [Sha256] [PatternTables] [DecimalTexts] {loaders : Loaders}
  {manifest item : Mapping}

/-- What an item of evidence rests on: the version of its source, with the recorded hash, and the
text of its clause, with the recorded hash too, that stands in the source and states the rate. -/
structure ItemSupported (loaders : Loaders) (manifest item : Mapping) (source : LoadedSource)
    (clauseText : String) (rate : Decimal) : Prop where
  fetched : itemSource loaders item = some source
  sourceHash : hashMatches (get item "source_sha256") (hexdigest source.body) = true
  clause : (load loaders.clause (get manifest "tenant_id") (get item "clause_id")).bind
    ClauseRow.clauseText = some clauseText
  clauseHash : hashMatches (get item "clause_sha256") (hexdigest (encode clauseText)) = true
  stands : ∃ text, decodeUtf8 source.body = some text ∧
    normalizeText clauseText <:+: normalizeText text
  states : ∃ numeral ∈ rateNumerals (clauseText.toList.length + 1) clauseText.toList,
    ∃ amount, decimalOf (numeral.filter (· ≠ ',')) = some amount ∧ equal amount rate = true
  rate : decimal (get item "rate_amount") = some rate

omit [Interpreter] [Sha256] [DecimalTexts] in
theorem states_of_containsRate {clauseText : String} {rate : Decimal}
    (h : clauseContainsRate clauseText (some rate) = true) :
    ∃ numeral ∈ rateNumerals (clauseText.toList.length + 1) clauseText.toList,
      ∃ amount, decimalOf (numeral.filter (· ≠ ',')) = some amount ∧ equal amount rate = true := by
  obtain ⟨numeral, hmem, hamount⟩ := List.any_eq_true.mp h
  obtain ⟨amount, hread, hequal⟩ := (Option.any_eq_true _ _).mp hamount
  exact ⟨numeral, hmem, amount, hread, hequal⟩

omit [Interpreter] [Sha256] [DecimalTexts] [PatternTables] in
theorem sameDecimal_right {left right : Option Decimal} (h : sameDecimal left right = true) :
    ∃ l r, left = some l ∧ right = some r ∧ equal l r = true := by
  cases left with
  | none => exact absurd h (by simp [sameDecimal])
  | some l =>
      cases right with
      | none => exact absurd h (by simp [sameDecimal])
      | some r => exact ⟨l, r, rfl, rfl, h⟩

omit [PatternTables] [DecimalTexts] in
theorem sourceChecks_passes {source : LoadedSource} {checks : List (String × Bool × String)}
    (h : sourceChecks item source = .ok checks) (hpasses : Passes checks) :
    hashMatches (get item "source_sha256") (hexdigest source.body) = true := by
  obtain ⟨observed, _, hchecks⟩ := bind_eq_ok.mp h
  rw [← Except.ok.inj hchecks] at hpasses
  exact hpasses.cons.2.cons.2.cons.1

/-- What the checks of a clause show of its text. -/
theorem clauseChecks_passes {source : LoadedSource} {row : ClauseRow}
    {checks : List (String × Bool × String)}
    (h : clauseChecks manifest item (some source) row = .ok checks) (hpasses : Passes checks) :
    ∃ clauseText rate, row.clauseText = some clauseText ∧
      hashMatches (get item "clause_sha256") (hexdigest (encode clauseText)) = true ∧
      sourceContainsClause clauseText (some source) = true ∧ rateOk item row = true ∧
      decimal (get item "rate_amount") = some rate ∧
      clauseContainsRate clauseText (some rate) = true := by
  obtain ⟨committed, _, hchecks⟩ := bind_eq_ok.mp h
  rw [← Except.ok.inj hchecks] at hpasses
  obtain ⟨hhash, hrest⟩ := hpasses.cons.2.cons.2.cons.2.cons
  obtain ⟨hstands, hrest⟩ := hrest.cons
  obtain ⟨hrate, hrest⟩ := hrest.cons
  obtain ⟨clauseText, htext, hhashes⟩ := (Option.any_eq_true _ _).mp hhash
  rw [htext] at hstands hrest
  have hcolumn : row.clauseText = some clauseText := (Option.filter_eq_some_iff.mp htext).1
  have hok := hrate
  unfold rateOk at hrate
  simp only [Bool.and_eq_true] at hrate
  obtain ⟨_, rate, _, hright, _⟩ := sameDecimal_right hrate.1.1.1.1
  have hstates := hrest.cons.1
  rw [hright] at hstates
  exact ⟨clauseText, rate, hcolumn, (Bool.and_eq_true_iff.mp hhashes).1, hstands, hok, hright,
    hstates⟩

/-- An item whose checks all pass rests on a source and a clause, and its rate counts. -/
theorem verifyItem_passes {checks : List (String × Bool × String)} {rate : Option Decimal}
    (h : verifyItem loaders manifest item = .ok (checks, rate)) (hpasses : Passes checks) :
    ∃ source clauseText amount, rate = some amount ∧
      ItemSupported loaders manifest item source clauseText amount := by
  unfold verifyItem at h
  obtain ⟨captured, _, h⟩ := bind_eq_ok.mp h
  obtain ⟨fetched, hfetched, h⟩ := bind_eq_ok.mp h
  obtain ⟨stated, hstated, h⟩ := bind_eq_ok.mp h
  obtain ⟨hchecks, hrate⟩ := Prod.mk.inj (Except.ok.inj h)
  rw [← hchecks] at hpasses
  simp only [passes_append] at hpasses
  obtain ⟨⟨⟨⟨_, hsource⟩, hfetchedPasses⟩, hclause⟩, hstatedPasses⟩ := hpasses
  obtain ⟨source, hsome⟩ := Option.isSome_iff_exists.mp hsource.cons.1
  obtain ⟨row, hrow⟩ := Option.isSome_iff_exists.mp hclause.cons.1
  rw [hsome] at hfetched hstated
  rw [hrow] at hstated
  obtain ⟨clauseText, amount, htext, hhash, hstands, hok, hamount, hstates⟩ :=
    clauseChecks_passes hstated hstatedPasses
  have hcounts : rate = some amount := by
    rw [← hrate, hrow, hamount]
    simp [hok]
  refine ⟨source, clauseText, amount, hcounts, hsome, sourceChecks_passes hfetched hfetchedPasses,
    ?_, hhash, ?_, states_of_containsRate hstates, hamount⟩
  · rw [hrow]
    exact htext
  · unfold sourceContainsClause at hstands
    dsimp only at hstands
    split at hstands
    · exact absurd hstands (by simp)
    · rename_i text hdecoded
      exact ⟨text, hdecoded, of_decide_eq_true hstands⟩

/-- The evidence of a receipt: every item rests on a source and a clause, and each counts. -/
theorem verifyItems_passes {items : List Value} {index : Nat} {checks : List ReceiptCheck}
    {rates : List Decimal} (h : verifyItems loaders manifest index items = .ok (checks, rates))
    (hpassed : checks.all ReceiptCheck.passed = true) :
    List.Forall₂ (fun value rate => ∃ item source clauseText, value = .dict item ∧
      ItemSupported loaders manifest item source clauseText rate) items rates := by
  induction items generalizing index checks rates with
  | nil =>
      obtain ⟨_, rfl⟩ := Prod.mk.inj (Except.ok.inj h)
      exact .nil
  | cons value items ih =>
      have hshape (hvalue : ∀ item, value ≠ .dict item)
          (h : verifyItems loaders manifest index (value :: items) = .ok (checks, rates)) :
          False := by
        have hloop : verifyItems loaders manifest index (value :: items) = (do
            let later ← verifyItems loaders manifest (index + 1) items
            pure (prefixed index [("shape", false, "invalid_evidence")] ++ later.1, later.2)) := by
          cases value with
          | dict item => exact absurd rfl (hvalue item)
          | _ => rfl
        rw [hloop] at h
        obtain ⟨later, _, hresult⟩ := bind_eq_ok.mp h
        obtain ⟨hchecks, _⟩ := Prod.mk.inj (Except.ok.inj hresult)
        rw [← hchecks, List.all_append, Bool.and_eq_true, all_prefixed] at hpassed
        exact absurd hpassed.1.cons.1 (by simp)
      cases value with
      | dict item =>
          obtain ⟨⟨first, rate⟩, hitem, h⟩ := bind_eq_ok.mp h
          obtain ⟨later, hitems, hresult⟩ := bind_eq_ok.mp h
          obtain ⟨hchecks, hrates⟩ := Prod.mk.inj (Except.ok.inj hresult)
          rw [← hchecks, List.all_append, Bool.and_eq_true, all_prefixed] at hpassed
          obtain ⟨source, clauseText, amount, hrate, hsupported⟩ :=
            verifyItem_passes hitem hpassed.1
          rw [← hrates, hrate]
          exact .cons ⟨item, source, clauseText, rfl, hsupported⟩ (ih hitems hpassed.2)
      | null => exact (hshape (fun _ => by simp) h).elim
      | bool _ => exact (hshape (fun _ => by simp) h).elim
      | int _ => exact (hshape (fun _ => by simp) h).elim
      | float _ => exact (hshape (fun _ => by simp) h).elim
      | str _ => exact (hshape (fun _ => by simp) h).elim
      | list _ => exact (hshape (fun _ => by simp) h).elim

end Items

/-! ## What the invoice shows -/

section Invoices

variable [Interpreter] [Sha256] [PatternTables] [DecimalTexts] [ClaimTexts] {loaders : Loaders}
  {manifest evidence calculation : Mapping} {row : InvoiceRow}

/-- What the amount of a receipt rests on: the version of the invoice, with the recorded hash, the
claim in its bytes, and the calculation of that claim and the recorded rate. -/
structure InvoiceSupported (loaders : Loaders) (evidence calculation : Mapping)
    (source : LoadedSource) (claim : InvoiceClaim) (rate : Decimal) : Prop where
  fetched : invoiceSource loaders evidence = some source
  sourceHash : hashMatches (get evidence "invoice_sha256") (hexdigest source.body) = true
  parsed : parseInvoiceClaim ClaimTexts.loads source.body = .ok claim
  days : 0 < claim.chargeDays
  calculated : ∃ claimed overcharge result, equal claim.claimedRate claimed = true ∧
    calculateOvercharge rate claimed claim.chargeDays = .ok result ∧
    decimal (get calculation "overcharge") = some overcharge ∧
    equal overcharge (roundCents result.overcharge) = true ∧
    isText (get calculation "recommendation") result.recommendation = true

omit [Sha256] [PatternTables] in
/-- A claim that agrees with the row and the evidence is in the bytes. -/
theorem sourceClaimOk_true {body : Bytes} (h : sourceClaimOk evidence row body = .ok true) :
    ∃ claim claimed, parseInvoiceClaim ClaimTexts.loads body = .ok claim ∧
      row.claimedRate = some claimed ∧ equal claim.claimedRate claimed = true ∧
      row.chargeDays = some claim.chargeDays := by
  unfold sourceClaimOk at h
  split at h
  · exact absurd h (by simp)
  · rename_i claim hparsed
    split at h
    · rename_i hagrees
      simp only [Bool.and_eq_true, decide_eq_true_eq] at hagrees
      obtain ⟨⟨⟨⟨⟨_, hrate⟩, _⟩, _⟩, _⟩, hdays⟩ := hagrees
      obtain ⟨left, claimed, hleft, hclaimed, hequal⟩ := sameDecimal_right hrate
      obtain rfl := Option.some.inj hleft
      exact ⟨claim, claimed, hparsed, hclaimed, hequal, hdays⟩
    · exact absurd h (by simp)

omit [PatternTables] in
theorem invoiceSourceChecks_passes {source : LoadedSource}
    {checks : List (String × Bool × String)}
    (h : invoiceSourceChecks evidence row source = .ok checks) (hpasses : Passes checks) :
    hashMatches (get evidence "invoice_sha256") (hexdigest source.body) = true ∧
      ∃ claim claimed, parseInvoiceClaim ClaimTexts.loads source.body = .ok claim ∧
        row.claimedRate = some claimed ∧ equal claim.claimedRate claimed = true ∧
        row.chargeDays = some claim.chargeDays := by
  obtain ⟨observed, _, h⟩ := bind_eq_ok.mp h
  obtain ⟨claimed, hclaimed, hchecks⟩ := bind_eq_ok.mp h
  rw [← Except.ok.inj hchecks] at hpasses
  obtain ⟨hhash, hrest⟩ := hpasses.cons.2.cons.2.cons
  obtain rfl : claimed = true := hrest.cons.2.cons.1
  exact ⟨(Bool.and_eq_true_iff.mp hhash).2, sourceClaimOk_true hclaimed⟩

omit [Sha256] [PatternTables] [ClaimTexts] in
theorem invoiceClaim_some {claimed : Decimal} {days : Int}
    (h : ReceiptVerifier.invoiceClaim calculation row = .ok (some (claimed, days))) :
    row.claimedRate = some claimed ∧ row.chargeDays = some days ∧ 0 < days := by
  unfold ReceiptVerifier.invoiceClaim at h
  split at h
  · rename_i claimedRate chargeDays hrate hdays
    split at h
    · rename_i hagrees
      obtain ⟨read, _, hresult⟩ := bind_eq_ok.mp h
      have hresult := Except.ok.inj hresult
      split at hresult
      · obtain ⟨rfl, rfl⟩ := Prod.mk.inj (Option.some.inj hresult)
        exact ⟨hrate, hdays, hagrees.1⟩
      · exact absurd hresult (by simp)
    · exact absurd h (by simp)
  · exact absurd h (by simp)

omit [Sha256] [PatternTables] [ClaimTexts] in
/-- A calculation that is confirmed is that of the one rate and of the claim. -/
theorem calculationOk_true {rates : List Decimal} {claim : Option (Decimal × Int)}
    (h : calculationOk calculation rates claim = .ok true) :
    ∃ rate claimed days result overcharge, consistentRate rates = some rate ∧
      claim = some (claimed, days) ∧ calculateOvercharge rate claimed days = .ok result ∧
      decimal (get calculation "overcharge") = some overcharge ∧
      equal overcharge (roundCents result.overcharge) = true ∧
      isText (get calculation "recommendation") result.recommendation = true := by
  unfold calculationOk at h
  split at h
  · rename_i rate claimed days hrate
    split at h
    · exact absurd h (by simp)
    · rename_i result hresult
      have hchecks := Except.ok.inj h
      simp only [Bool.and_eq_true] at hchecks
      obtain ⟨⟨_, hovercharge⟩, hrecommendation⟩ := hchecks
      obtain ⟨overcharge, rounded, hread, hrounded, hequal⟩ := sameDecimal_right hovercharge
      obtain rfl := Option.some.inj hrounded
      exact ⟨rate, claimed, days, result, overcharge, hrate, rfl, hresult, hread, hequal,
        hrecommendation⟩
  · exact absurd h (by simp)

omit [PatternTables] in
/-- An invoice whose checks all pass gives the claim and confirms the calculation. -/
theorem invoiceChecks_passes {rates : List Decimal} {checks : List (String × Bool × String)}
    (h : invoiceChecks loaders manifest evidence calculation rates row = .ok checks)
    (hpasses : Passes checks) :
    ∃ rate source claim, consistentRate rates = some rate ∧
      InvoiceSupported loaders evidence calculation source claim rate := by
  unfold invoiceChecks at h
  obtain ⟨received, _, h⟩ := bind_eq_ok.mp h
  obtain ⟨fetched, hfetched, h⟩ := bind_eq_ok.mp h
  obtain ⟨claimed, hclaimed, h⟩ := bind_eq_ok.mp h
  obtain ⟨calculated, hcalculated, hchecks⟩ := bind_eq_ok.mp h
  rw [← Except.ok.inj hchecks] at hpasses
  simp only [passes_append] at hpasses
  obtain ⟨⟨hfirst, hfetchedPasses⟩, hlast⟩ := hpasses
  obtain rfl : calculated = true := hlast.cons.2.cons.1
  obtain ⟨rate, claimedRate, days, result, overcharge, hrate, rfl, hresult, hread, hequal,
    hrecommendation⟩ := calculationOk_true hcalculated
  obtain ⟨hrowRate, hrowDays, hpositive⟩ := invoiceClaim_some hclaimed
  obtain ⟨source, hsource⟩ :=
    Option.isSome_iff_exists.mp hfirst.cons.2.cons.2.cons.2.cons.2.cons.1
  rw [hsource] at hfetched
  obtain ⟨hhash, claim, claimed, hparsed, hrow, hclaimEqual, hrowClaim⟩ :=
    invoiceSourceChecks_passes hfetched hfetchedPasses
  obtain rfl : claimed = claimedRate := Option.some.inj (hrow.symm.trans hrowRate)
  obtain rfl : claim.chargeDays = days := Option.some.inj (hrowClaim.symm.trans hrowDays)
  exact ⟨rate, source, claim, hrate, hsource, hhash, hparsed, hpositive, claimed, overcharge,
    result, hclaimEqual, hresult, hread, hequal, hrecommendation⟩

end Invoices

/-! ## What the receipt rests on -/

section Receipts

variable [Interpreter] [Sha256] [PatternTables] [DecimalTexts] [ClaimTexts] {loaders : Loaders}
  {manifest : Mapping} {storedEvidenceHash expectedTenantId expectedCaseId : String}
  {storedCase : StoredCase} {report : ReceiptVerificationReport}

/-- The items of the evidence of a manifest, the first of them and the calculation. -/
def evidenceOf (manifest : Mapping) : List Value := itemsOf (get manifest "evidence")

def firstEvidence (manifest : Mapping) : Mapping := mappingOf ((evidenceOf manifest).headD .null)

def sealedCalculation (manifest : Mapping) : Mapping := mappingOf (get manifest "calculation")

/-- What a receipt rests on. -/
structure Supported (loaders : Loaders) (manifest : Mapping) (storedEvidenceHash : String)
    (rates : List Decimal) (rate : Decimal) (source : LoadedSource) (claim : InvoiceClaim) :
    Prop where
  hash : storedEvidenceHash = evidenceHash manifest
  evidence : List.Forall₂ (fun value rate => ∃ item source clauseText, value = .dict item ∧
    ItemSupported loaders manifest item source clauseText rate) (evidenceOf manifest) rates
  rates : consistentRate rates = some rate
  invoice : InvoiceSupported loaders (firstEvidence manifest) (sealedCalculation manifest) source
    claim rate
  finding : ∃ finding, load loaders.finding (get manifest "tenant_id") (get manifest "finding_id") =
    some finding ∧ finding.humanApprovalState = some "APPROVED" ∧
      sameJson (.dict finding.calculation) (.dict (sealedCalculation manifest)) = true

/-- A receipt that passes rests on its sources, its clauses and its invoice. -/
theorem supported_of_passed
    (h : verifySealedReceipt loaders manifest storedEvidenceHash storedCase expectedTenantId
      expectedCaseId = .ok report) (hpassed : report.passed = true) :
    ∃ rates rate source claim,
      Supported loaders manifest storedEvidenceHash rates rate source claim := by
  unfold verifySealedReceipt at h
  obtain ⟨cased, hcased, h⟩ := bind_eq_ok.mp h
  obtain ⟨⟨evidence, rates⟩, hevidence, h⟩ := bind_eq_ok.mp h
  obtain ⟨invoiced, hinvoiced, hreport⟩ := bind_eq_ok.mp h
  rw [← Except.ok.inj hreport] at hpassed
  simp only [List.all_append, Bool.and_eq_true, all_recorded, passes_append] at hpassed
  obtain ⟨⟨hcasedPasses, hevidencePasses⟩, ⟨⟨hinvoice, hinvoicedPasses⟩, hfinding⟩,
    hfindingPasses⟩ := hpassed
  obtain ⟨row, hrow⟩ := Option.isSome_iff_exists.mp hinvoice.cons.1
  obtain ⟨finding, hfound⟩ := Option.isSome_iff_exists.mp hfinding.cons.1
  rw [hrow] at hinvoiced
  rw [hfound] at hfindingPasses
  obtain ⟨rate, source, claim, hrate, hsupported⟩ := invoiceChecks_passes hinvoiced hinvoicedPasses
  obtain ⟨sealedAt, _, hchecks⟩ := bind_eq_ok.mp hcased
  rw [← Except.ok.inj hchecks] at hcasedPasses
  obtain ⟨happroved, hbinding⟩ := hfindingPasses.cons.2.cons
  refine ⟨rates, rate, source, claim, of_decide_eq_true hcasedPasses.cons.1,
    verifyItems_passes hevidence hevidencePasses, hrate, hsupported, finding, hfound,
    of_decide_eq_true happroved, ?_⟩
  exact (Bool.and_eq_true_iff.mp hbinding.cons.1).2

end Receipts

/-! ## The amount -/

section Amounts

open DecimalValues Overcharges RuleRates

/-- Numbers that are equal are one number. -/
theorem rational_of_equal {a b : Decimal} (h : equal a b = true) :
    rational (some a) = rational (some b) := by
  cases a with
  | nan => exact absurd h (by cases b <;> simp [equal])
  | infinity n =>
      cases b with
      | infinity n' => rfl
      | finite n' c' e' => exact absurd h (by simp [equal])
      | nan => exact absurd h (by simp [equal])
  | finite n c e => exact (DecimalValues.rational_of_equal h).symm

theorem finite_of_rational {d : Decimal} {q : ℚ} (h : rational (some d) = some q) :
    ∃ n c e, d = .finite n c e ∧ valueOf n c e = q := by
  cases d with
  | finite n c e => exact ⟨n, c, e, rfl, Option.some.inj h⟩
  | infinity n => exact absurd h (by simp [rational])
  | nan => exact absurd h (by simp [rational])

/-- A quantized number is spelled as it is. -/
theorem roundCents_of_quantized {d q : Decimal} (h : quantizeCents d = .ok q) :
    roundCents q = q := by
  rcases quantizeCents_ok h with rfl | ⟨negative, cents, rfl, _⟩
  · obtain rfl := Except.ok.inj h
    rfl
  · simp [roundCents]

variable [Interpreter] [Sha256] [PatternTables] [DecimalTexts] [ClaimTexts] {loaders : Loaders}
  {evidence calculation : Mapping} {source : LoadedSource} {claim : InvoiceClaim} {rate : Decimal}

omit [PatternTables] in
/-- What a receipt charges is what is owed, where that is in whole cents. -/
theorem InvoiceSupported.amount
    (h : InvoiceSupported loaders evidence calculation source claim rate) {q c : ℚ}
    (hq : rational (some rate) = some q) (hc : rational (some claim.claimedRate) = some c)
    (hhigher : q < c → Represented (c - q) ∧ WholeCents ((c - q) * claim.chargeDays))
    (hlower : c ≤ q → (q - c) * claim.chargeDays ≤ 10 ^ IntakeClaims.decimalEmax) :
    rational (decimal (get calculation "overcharge")) =
      some (max 0 ((c - q) * claim.chargeDays)) := by
  obtain ⟨claimed, overcharge, result, hclaimed, hresult, hread, hequal, _⟩ := h.calculated
  obtain ⟨nr, cr, er, rfl, rfl⟩ := finite_of_rational hq
  obtain ⟨nc, cc, ec, rfl, rfl⟩ :=
    finite_of_rational ((rational_of_equal hclaimed).symm.trans hc)
  have hexact : Exact (.finite nr cr er) (.finite nc cc ec) claim.chargeDays := by
    rcases lt_or_ge (valueOf nr cr er) (valueOf nc cc ec) with hless | hle
    · exact exact_of_higher h.days hless (hhigher hless).1 (hhigher hless).2
    · exact exact_of_lower h.days hle (hlower hle)
  obtain ⟨result', hresult', _, hvalue⟩ := hexact
  obtain rfl := Except.ok.inj (hresult.symm.trans hresult')
  obtain ⟨_, _, _, cents, _, _, _, hcents, rfl⟩ := (calculateOvercharge_ok h.days).mp hresult
  rw [hread, rational_of_equal hequal]
  dsimp only at hvalue ⊢
  rw [roundCents_of_quantized hcents, hvalue, owed_finite]

/-- What an item of a receipt shows of the one rate: its source is there with the recorded hash,
its clause stands in that source, and a number of the clause is the rate. -/
def StatesRate (loaders : Loaders) (manifest : Mapping) (q : ℚ) (value : Value) : Prop :=
  ∃ item source clauseText text numeral, value = .dict item ∧
    itemSource loaders item = some source ∧
    hashMatches (get item "source_sha256") (hexdigest source.body) = true ∧
    decodeUtf8 source.body = some text ∧
    (load loaders.clause (get manifest "tenant_id") (get item "clause_id")).bind
      ClauseRow.clauseText = some clauseText ∧
    normalizeText clauseText <:+: normalizeText text ∧
    numeral ∈ rateNumerals (clauseText.toList.length + 1) clauseText.toList ∧
    rational (decimalOf (numeral.filter (· ≠ ','))) = some q

variable {manifest : Mapping} {storedEvidenceHash expectedTenantId expectedCaseId : String}
  {storedCase : StoredCase} {report : ReceiptVerificationReport}

omit [ClaimTexts] in
theorem statesRate_of_supported {value : Value} {amount : Decimal} {q : ℚ}
    (hamount : rational (some amount) = some q)
    (h : ∃ item source clauseText, value = .dict item ∧
      ItemSupported loaders manifest item source clauseText amount) :
    StatesRate loaders manifest q value := by
  obtain ⟨item, source, clauseText, rfl, hitem⟩ := h
  obtain ⟨text, hdecoded, hstands⟩ := hitem.stands
  obtain ⟨numeral, hnumeral, read, hread, hequal⟩ := hitem.states
  refine ⟨item, source, clauseText, text, numeral, rfl, hitem.fetched, hitem.sourceHash, hdecoded,
    hitem.clause, hstands, hnumeral, ?_⟩
  rw [hread, rational_of_equal hequal, hamount]

omit [PatternTables] [Interpreter] [Sha256] [DecimalTexts] [ClaimTexts] in
/-- The rates of the evidence are one number. -/
theorem rational_of_consistent {rates : List Decimal} (h : consistentRate rates = some rate) :
    rates ≠ [] ∧ ∀ r ∈ rates, rational (some r) = rational (some rate) := by
  cases rates with
  | nil => exact absurd h (by simp [consistentRate])
  | cons first rates =>
      rw [consistentRate] at h
      split at h
      · rename_i hall
        obtain rfl := Option.some.inj h
        refine ⟨by simp, fun r hr => ?_⟩
        rcases List.mem_cons.mp hr with rfl | hr
        · rfl
        · exact (rational_of_equal (List.all_eq_true.mp hall r hr)).symm
      · exact absurd h (by simp)

omit [Interpreter] [Sha256] [DecimalTexts] [ClaimTexts] in
theorem rational_decimalOf {digits : List Char} {amount : Decimal}
    (h : decimalOf digits = some amount) : ∃ q, rational (some amount) = some q := by
  obtain ⟨p, _, rfl⟩ := Option.map_eq_some_iff.mp h
  exact ⟨_, rfl⟩

/-- A receipt that passes every check is supported, whatever the loaders return and however they
fail: there is one number such that every item of its evidence has a source with the recorded hash
in which its clause stands, and states that number as the rate; the invoice has the recorded hash
and its bytes hold the claim; the overcharge is the days times what the claim is above that
number, where that is in whole cents; and the finding was approved with that calculation.
SOURCE: src/src/core/receipt_verifier.py:139-606 -/
theorem passed_supported
    (h : verifySealedReceipt loaders manifest storedEvidenceHash storedCase expectedTenantId
      expectedCaseId = .ok report) (hpassed : report.passed = true) :
    storedEvidenceHash = evidenceHash manifest ∧
      ∃ q source claim, evidenceOf manifest ≠ [] ∧
        (∀ value ∈ evidenceOf manifest, StatesRate loaders manifest q value) ∧
        invoiceSource loaders (firstEvidence manifest) = some source ∧
        hashMatches (get (firstEvidence manifest) "invoice_sha256") (hexdigest source.body) = true ∧
        parseInvoiceClaim ClaimTexts.loads source.body = .ok claim ∧
        (∀ c, rational (some claim.claimedRate) = some c →
          (q < c → Represented (c - q) ∧ WholeCents ((c - q) * claim.chargeDays)) →
          (c ≤ q → (q - c) * claim.chargeDays ≤ 10 ^ IntakeClaims.decimalEmax) →
          rational (decimal (get (sealedCalculation manifest) "overcharge")) =
            some (max 0 ((c - q) * claim.chargeDays))) ∧
        ∃ finding, load loaders.finding (get manifest "tenant_id") (get manifest "finding_id") =
          some finding ∧ finding.humanApprovalState = some "APPROVED" ∧
            sameJson (.dict finding.calculation) (.dict (sealedCalculation manifest)) = true := by
  obtain ⟨rates, rate, source, claim, hsupported⟩ := supported_of_passed h hpassed
  obtain ⟨hsome, hrates⟩ := rational_of_consistent hsupported.rates
  have hlength := hsupported.evidence.length_eq
  have hitems : evidenceOf manifest ≠ [] := by
    intro hnil
    rw [hnil] at hlength
    exact hsome (List.length_eq_zero_iff.mp hlength.symm)
  -- the rate is a number, as the one the first clause states is
  obtain ⟨q, hq⟩ : ∃ q, rational (some rate) = some q := by
    obtain ⟨first, later, hfirst⟩ := List.exists_cons_of_ne_nil hsome
    have hevidence := hsupported.evidence
    rw [hfirst] at hevidence
    obtain ⟨value, values, ⟨item, itemSource, clauseText, _, hitem⟩, _, _⟩ :=
      List.forall₂_cons_right_iff.mp hevidence
    obtain ⟨numeral, _, read, hread, hequal⟩ := hitem.states
    obtain ⟨q, hq⟩ := rational_decimalOf hread
    refine ⟨q, ?_⟩
    rw [← hrates first (hfirst ▸ List.mem_cons_self), ← rational_of_equal hequal, hq]
  refine ⟨hsupported.hash, q, source, claim, hitems, fun value hvalue => ?_,
    hsupported.invoice.fetched, hsupported.invoice.sourceHash, hsupported.invoice.parsed,
    fun c hc hhigher hlower => hsupported.invoice.amount hq hc hhigher hlower,
    hsupported.finding⟩
  obtain ⟨i, hi, rfl⟩ := List.mem_iff_getElem.mp hvalue
  have hitem := List.forall₂_iff_get.mp hsupported.evidence
  have hi' : i < rates.length := hlength ▸ hi
  exact statesRate_of_supported ((hrates _ (List.getElem_mem hi')).trans hq) (hitem.2 i hi hi')

end Amounts

/-! ## Two verifications -/

section Agreement

variable [Interpreter] [Sha256]

omit [Interpreter] in
theorem not_named (digest bytes : Bytes) : hexdigest digest ≠ "sha256:" ++ hexdigest bytes := by
  intro h
  have hchars := congrArg String.toList h
  rw [String.toList_append] at hchars
  have hmem : 's' ∈ (hexdigest digest).toList := hchars ▸ List.mem_cons_self
  unfold hexdigest at hmem
  rw [String.toList_ofList] at hmem
  obtain ⟨n, hn, heq⟩ := mem_hexChars hmem
  exact absurd heq ((by decide : ∀ n < 16, 's' ≠ Words.hexDigit n) n hn)

omit [Interpreter] in
/-- A stored hash, named or not, is that of one text of bytes. -/
theorem bytes_of_matches {stored : String} {a b : Bytes} (hapart : ¬ Collision a b)
    (ha : storedContentHashMatches stored (hexdigest a) = true)
    (hb : storedContentHashMatches stored (hexdigest b) = true) : a = b := by
  unfold storedContentHashMatches at ha hb
  simp only [Bool.or_eq_true, decide_eq_true_eq] at ha hb
  rcases ha with ha | ha
  · rcases hb with hb | hb
    · exact (eq_or_collision (ha.symm.trans hb)).resolve_right hapart
    · exact absurd (ha.symm.trans hb) (not_named a b)
  · rcases hb with hb | hb
    · exact absurd (hb.symm.trans ha) (not_named b a)
    · have heq := congrArg String.toList (ha.symm.trans hb)
      rw [String.toList_append, String.toList_append] at heq
      have hsame := String.toList_inj.mp (List.append_cancel_left heq)
      exact (eq_or_collision hsame).resolve_right hapart

omit [Interpreter] in
/-- Two manifests with one hash have one sorted form. -/
theorem sortKeys_of_hash {manifest manifest' : Mapping}
    (hapart : ¬ Collision (canonicalJsonBytes (.dict manifest))
      (canonicalJsonBytes (.dict manifest')))
    (hplain : (Value.dict manifest).plain = true) (hplain' : (Value.dict manifest').plain = true)
    (h : evidenceHash manifest = evidenceHash manifest') :
    (Value.dict manifest).sortKeys = (Value.dict manifest').sortKeys := by
  have htext := congrArg String.toList h
  unfold evidenceHash AuthoritySealRepository.prefixedSha256 at htext
  rw [String.toList_append, String.toList_append] at htext
  have hsame := String.toList_inj.mp (List.append_cancel_left htext)
  have hbytes := (eq_or_collision hsame).resolve_right hapart
  exact Value.sortKeys_eq_of_canonicalText hplain hplain' (encode_injective hbytes)

omit [Interpreter] [Sha256] in
/-- Dicts with one sorted form agree under every key. -/
theorem get_of_sortKeys {xs ys : Mapping} (hplain : (Value.dict xs).plain = true)
    (h : (Value.dict xs).sortKeys = (Value.dict ys).sortKeys) (key : String) :
    (get xs key).sortKeys = (get ys key).sortKeys := by
  have hmember := Value.getMember_of_sortKeys (Value.plain_dict hplain).1 h key
  unfold CaseSeal.get
  cases hx : getMember xs key with
  | none =>
      rw [hx] at hmember
      rw [Option.map_eq_none_iff.mp hmember.symm]
  | some value =>
      rw [hx] at hmember
      obtain ⟨value', hy, heq⟩ := Option.map_eq_some_iff.mp hmember.symm
      rw [hy, Option.getD_some, Option.getD_some, heq]

omit [Interpreter] [Sha256] in
theorem plain_get {members : Mapping} (hplain : (Value.dict members).plain = true) (key : String) :
    (get members key).plain = true := by
  unfold CaseSeal.get getMember
  cases hfind : members.find? fun member => member.1 = key with
  | none => rfl
  | some member => exact (Value.plain_dict hplain).2 member (List.mem_of_find?_eq_some hfind)

omit [Interpreter] in
/-- A hash under a key is that of the same bytes in both. -/
theorem bytes_of_get {xs ys : Mapping} {key : String} {a b : Bytes}
    (hapart : ¬ Collision a b) (hplain : (Value.dict xs).plain = true)
    (h : (Value.dict xs).sortKeys = (Value.dict ys).sortKeys)
    (ha : hashMatches (get xs key) (hexdigest a) = true)
    (hb : hashMatches (get ys key) (hexdigest b) = true) : a = b := by
  have hsame := get_of_sortKeys hplain h key
  cases hx : get xs key with
  | str stored =>
      rw [hx] at hsame ha
      rw [Value.eq_str_of_sortKeys hsame.symm] at hb
      exact bytes_of_matches hapart ha hb
  | _ =>
      rw [hx] at ha
      exact absurd ha (by simp [hashMatches])

omit [Interpreter] [Sha256] in
/-- Lists with one sorted form have the same items, up to the order of members. -/
theorem itemsOf_sortKeys {v w : Value} (h : v.sortKeys = w.sortKeys) :
    (itemsOf v).map Value.sortKeys = (itemsOf w).map Value.sortKeys := by
  cases v <;> cases w <;>
    simp_all [Value.sortKeys, itemsOf, ← Value.sortItems_eq_map]

variable [PatternTables] [DecimalTexts]

/-- The bytes of the source of an item of evidence. -/
def sourceBody (loaders : Loaders) (value : Value) : Option Bytes :=
  (itemSource loaders (mappingOf value)).map LoadedSource.body

/-- The text of the clause of an item of evidence. -/
def clauseText (loaders : Loaders) (manifest : Mapping) (value : Value) : Option String :=
  (load loaders.clause (get manifest "tenant_id") (get (mappingOf value) "clause_id")).bind
    ClauseRow.clauseText

/-- The bytes of the sources that the evidence of a receipt rests on. -/
def sourceBodies (loaders : Loaders) (manifest : Mapping) : List (Option Bytes) :=
  (evidenceOf manifest).map (sourceBody loaders)

/-- The texts of the clauses. -/
def clauseTexts (loaders : Loaders) (manifest : Mapping) : List (Option String) :=
  (evidenceOf manifest).map (clauseText loaders manifest)

/-- The bytes of the invoice. -/
def invoiceBody (loaders : Loaders) (manifest : Mapping) : Option Bytes :=
  (invoiceSource loaders (firstEvidence manifest)).map LoadedSource.body

/-- No two different byte strings that two verifications hash in the same place have one digest. -/
structure NoCollisions (loaders loaders' : Loaders) (manifest manifest' : Mapping) : Prop where
  manifests : ¬ Collision (canonicalJsonBytes (.dict manifest))
    (canonicalJsonBytes (.dict manifest'))
  sources : ∀ a b, (some a, some b) ∈
    (sourceBodies loaders manifest).zip (sourceBodies loaders' manifest') → ¬ Collision a b
  clauses : ∀ a b, (some a, some b) ∈
    (clauseTexts loaders manifest).zip (clauseTexts loaders' manifest') →
    ¬ Collision (encode a) (encode b)
  invoices : ∀ a b, invoiceBody loaders manifest = some a →
    invoiceBody loaders' manifest' = some b → ¬ Collision a b

section Pair

variable {loaders loaders' : Loaders} {manifest manifest' : Mapping}

omit [Interpreter] [Sha256] [PatternTables] [DecimalTexts] in
theorem plain_item (hplain : (Value.dict manifest).plain = true) {value : Value}
    (hvalue : value ∈ evidenceOf manifest) : value.plain = true := by
  have hlist := plain_get hplain "evidence"
  unfold evidenceOf itemsOf at hvalue
  cases hevidence : get manifest "evidence" with
  | list items =>
      rw [hevidence] at hvalue hlist
      exact Value.plain_list hlist value hvalue
  | _ =>
      rw [hevidence] at hvalue
      exact absurd hvalue List.not_mem_nil

/-- The evidence of two manifests with one sorted form rests on the same bytes. -/
theorem evidence_agrees {values values' : List Value} {rates rates' : List Decimal}
    (hplain : ∀ value ∈ values, value.plain = true)
    (hsorted : values.map Value.sortKeys = values'.map Value.sortKeys)
    (hsources : ∀ a b, (some a, some b) ∈
      (values.map (sourceBody loaders)).zip (values'.map (sourceBody loaders')) → ¬ Collision a b)
    (hclauses : ∀ a b, (some a, some b) ∈ (values.map (clauseText loaders manifest)).zip
      (values'.map (clauseText loaders' manifest')) → ¬ Collision (encode a) (encode b))
    (h : List.Forall₂ (fun value rate => ∃ item source text, value = .dict item ∧
      ItemSupported loaders manifest item source text rate) values rates)
    (h' : List.Forall₂ (fun value rate => ∃ item source text, value = .dict item ∧
      ItemSupported loaders' manifest' item source text rate) values' rates') :
    values.map (sourceBody loaders) = values'.map (sourceBody loaders') ∧
      values.map (clauseText loaders manifest) = values'.map (clauseText loaders' manifest') := by
  induction h generalizing values' rates' with
  | nil =>
      obtain rfl := List.map_eq_nil_iff.mp hsorted.symm
      exact ⟨rfl, rfl⟩
  | cons hitem hitems ih =>
      cases h' with
      | nil => exact absurd hsorted (by simp)
      | cons hitem' hitems' =>
          obtain ⟨item, source, text, rfl, hitem⟩ := hitem
          obtain ⟨item', source', text', rfl, hitem'⟩ := hitem'
          obtain ⟨hhead, htail⟩ := List.cons.inj hsorted
          have hfirst : (Value.dict item).plain = true := hplain _ List.mem_cons_self
          have hsource : sourceBody loaders (.dict item) = some source.body :=
            congrArg (Option.map LoadedSource.body) hitem.fetched
          have hsource' : sourceBody loaders' (.dict item') = some source'.body :=
            congrArg (Option.map LoadedSource.body) hitem'.fetched
          have hclause : clauseText loaders manifest (.dict item) = some text := hitem.clause
          have hclause' : clauseText loaders' manifest' (.dict item') = some text' := hitem'.clause
          simp only [List.map_cons, List.zip_cons_cons, hsource, hsource', hclause, hclause']
            at hsources hclauses ⊢
          have hbody := bytes_of_get (hsources _ _ List.mem_cons_self) hfirst hhead
            hitem.sourceHash hitem'.sourceHash
          have htext := encode_injective (bytes_of_get (hclauses _ _ List.mem_cons_self) hfirst
            hhead hitem.clauseHash hitem'.clauseHash)
          obtain ⟨hlater, hlater'⟩ := ih
            (fun value hvalue => hplain value (List.mem_cons_of_mem _ hvalue)) htail
            (fun a b hab => hsources a b (List.mem_cons_of_mem _ hab))
            (fun a b hab => hclauses a b (List.mem_cons_of_mem _ hab)) hitems'
          rw [hbody, htext, hlater, hlater']
          exact ⟨rfl, rfl⟩

omit [Interpreter] [Sha256] [PatternTables] [DecimalTexts] in
theorem evidenceOf_sortKeys (hplain : (Value.dict manifest).plain = true)
    (hsorted : (Value.dict manifest).sortKeys = (Value.dict manifest').sortKeys) :
    (evidenceOf manifest).map Value.sortKeys = (evidenceOf manifest').map Value.sortKeys :=
  itemsOf_sortKeys (get_of_sortKeys hplain hsorted "evidence")

omit [PatternTables] in
/-- The bytes of the invoices of two manifests with one sorted form. -/
theorem invoices_agree [ClaimTexts] (hplain : (Value.dict manifest).plain = true)
    (hsorted : (Value.dict manifest).sortKeys = (Value.dict manifest').sortKeys)
    {calculation calculation' : Mapping} {source source' : LoadedSource}
    {claim claim' : InvoiceClaim} {rate rate' : Decimal}
    (hapart : ¬ Collision source.body source'.body)
    (h : InvoiceSupported loaders (firstEvidence manifest) calculation source claim rate)
    (h' : InvoiceSupported loaders' (firstEvidence manifest') calculation' source' claim' rate') :
    source.body = source'.body := by
  have hevidence := evidenceOf_sortKeys hplain hsorted
  have hhash := h.sourceHash
  have hhash' := h'.sourceHash
  unfold firstEvidence at hhash hhash'
  cases hvalues : evidenceOf manifest with
  | nil =>
      rw [hvalues] at hhash
      exact absurd hhash (by simp [mappingOf, CaseSeal.get, getMember, hashMatches])
  | cons value values =>
      cases hvalues' : evidenceOf manifest' with
      | nil =>
          rw [hvalues, hvalues'] at hevidence
          exact absurd hevidence (by simp)
      | cons value' values' =>
          rw [hvalues, hvalues'] at hevidence
          rw [hvalues] at hhash
          rw [hvalues'] at hhash'
          obtain ⟨hhead, _⟩ := List.cons.inj hevidence
          have hvalue : value ∈ evidenceOf manifest := hvalues ▸ List.mem_cons_self
          have hitem := plain_item hplain hvalue
          rw [List.headD_cons] at hhash hhash'
          cases value with
          | dict item =>
              cases value' with
              | dict item' => exact bytes_of_get hapart hitem hhead hhash hhash'
              | _ => exact absurd hhead (by simp [Value.sortKeys])
          | _ => exact absurd hhash (by simp [mappingOf, CaseSeal.get, getMember, hashMatches])

end Pair

/-- Two verifications under one sealed hash, at whatever moments and over whatever databases and
object stores: if every check of both passes and nothing they hash in one place collides, both
rest on the same bytes of the same sources, the same clauses and the same bytes of the invoice, and
on the same sealed calculation.
SOURCE: src/src/core/receipt_verifier.py:139-606 -/
theorem receipts_agree [ClaimTexts] {loaders loaders' : Loaders} {manifest manifest' : Mapping}
    (hfree : NoCollisions loaders loaders' manifest manifest')
    (hplain : (Value.dict manifest).plain = true)
    (hplain' : (Value.dict manifest').plain = true)
    {storedEvidenceHash tenantId tenantId' caseId caseId' : String}
    {storedCase storedCase' : StoredCase} {report report' : ReceiptVerificationReport}
    (h : verifySealedReceipt loaders manifest storedEvidenceHash storedCase tenantId caseId =
      .ok report) (hpassed : report.passed = true)
    (h' : verifySealedReceipt loaders' manifest' storedEvidenceHash storedCase' tenantId' caseId' =
      .ok report') (hpassed' : report'.passed = true) :
    sourceBodies loaders manifest = sourceBodies loaders' manifest' ∧
      clauseTexts loaders manifest = clauseTexts loaders' manifest' ∧
      invoiceBody loaders manifest = invoiceBody loaders' manifest' ∧
      (invoiceBody loaders manifest).isSome = true ∧
      (get manifest "calculation").sortKeys = (get manifest' "calculation").sortKeys := by
  obtain ⟨rates, rate, source, claim, hsupported⟩ := supported_of_passed h hpassed
  obtain ⟨rates', rate', source', claim', hsupported'⟩ := supported_of_passed h' hpassed'
  have hsorted := sortKeys_of_hash hfree.manifests hplain hplain'
    (hsupported.hash.symm.trans hsupported'.hash)
  obtain ⟨hsources, hclauses⟩ := evidence_agrees (fun _ => plain_item hplain)
    (evidenceOf_sortKeys hplain hsorted) hfree.sources hfree.clauses hsupported.evidence
    hsupported'.evidence
  have hinvoice : invoiceBody loaders manifest = some source.body :=
    congrArg (Option.map LoadedSource.body) hsupported.invoice.fetched
  have hinvoice' : invoiceBody loaders' manifest' = some source'.body :=
    congrArg (Option.map LoadedSource.body) hsupported'.invoice.fetched
  have hbody := invoices_agree hplain hsorted (hfree.invoices _ _ hinvoice hinvoice')
    hsupported.invoice hsupported'.invoice
  refine ⟨hsources, hclauses, ?_, ?_, get_of_sortKeys hplain hsorted "calculation"⟩
  · rw [hinvoice, hinvoice', hbody]
  · rw [hinvoice]
    rfl

end Agreement

/-! ## A receipt that passes -/

section Case

set_option maxRecDepth 3000

@[reducible] def caseInterpreter : Interpreter where
  isSpace c := c = ' '
  upper c := [c.toUpper]
  digitValue c := if c.isDigit then some (c.toNat - 48) else none
  containerText _ := ""

local instance : Interpreter := caseInterpreter

local instance : PatternTables := asciiPatterns

local instance : DecimalTexts where
  ofText text := (IntakeClaims.parseDecimal text.toList).map fun p =>
    .finite p.1 p.2.1 (-p.2.2)

def caseInvoice : Bytes := encode ("\x7b\"invoice_no\":\"I1\",\"claimed_rate\":" ++
  "\x7b\"amount\":\"150\",\"currency\":\"USD\",\"unit\":\"per_day\"\x7d,\"charge_days\":2," ++
  "\"invoice_date\":\"2026-07-01\",\"received_at\":\"2026-07-01T00:00:00Z\"\x7d")

theorem caseDate_valid : (1 ≤ 2026 ∧ 2026 ≤ 9999) ∧ (1 ≤ 7 ∧ 7 ≤ 12) ∧
    1 ≤ 1 ∧ 1 ≤ Calendar.daysInMonth 2026 7 := by
  decide

def caseDate : Calendar.Date := ⟨2026, 7, 1, caseDate_valid⟩

def caseTime : Calendar.Instant := (Calendar.ymdToOrdinal 2026 7 1 * Calendar.dayMicros : Nat)

def caseClaim : InvoiceClaim where
  invoiceNo := "I1"
  claimedRate := .finite false 150 0
  rateCurrency := "USD"
  rateUnit := "per_day"
  chargeDays := 2
  invoiceDate := caseDate
  receivedAt := "2026-07-01T00:00:00Z"

local instance : ClaimTexts := ⟨fun bytes => if bytes = caseInvoice then some caseClaim else none⟩

def caseClause : String := "Demurrage: 100.00 USD per day"

def caseSource : LoadedSource := ⟨"b", "tariff", "1", encode caseClause, caseTime⟩

def caseInvoiceSource : LoadedSource := ⟨"b", "invoice", "1", caseInvoice, caseTime⟩

section Hashes

variable [Sha256]

def caseContent : Mapping :=
  [("capture_id", .str "s1"), ("clause_id", .str "c1"), ("carrier_id", .str "k1"),
    ("s3_bucket", .str "b"), ("s3_key", .str "tariff"), ("s3_version_id", .str "1"),
    ("source_sha256", .str (hexdigest (encode caseClause))),
    ("source_size", .int (encode caseClause).length),
    ("observed_at", .str "2026-07-01T00:00:00Z"), ("committed_at", .str "2026-07-01T00:00:00Z"),
    ("clause_committed_at", .str "2026-07-01T00:00:00Z"),
    ("clause_sha256", .str (hexdigest (encode caseClause))),
    ("verification_status", .str "VERIFIED"), ("verification_reason", .str "verified"),
    ("rate_amount", .str "100.00"), ("rate_currency", .str "USD"), ("rate_unit", .str "per_day"),
    ("effective_from", .str "2026-07-01"), ("effective_to", .null),
    ("invoice_id", .str "i1"), ("invoice_no", .str "I1"), ("invoice_s3_bucket", .str "b"),
    ("invoice_s3_key", .str "invoice"), ("invoice_s3_version_id", .str "1"),
    ("invoice_sha256", .str (hexdigest caseInvoice)),
    ("invoice_source_size", .int caseInvoice.length),
    ("invoice_received_at", .str "2026-07-01T00:00:00Z"), ("invoice_date", .str "2026-07-01"),
    ("invoice_observed_at", .str "2026-07-01T00:00:00Z"), ("invoice_claimed_rate", .str "150"),
    ("charge_days", .int 2)]

def caseCalculation : Mapping :=
  [("recorded_rate", .str "100.00"), ("claimed_rate", .str "150.00"), ("charge_days", .int 2),
    ("overcharge", .str "100.00"), ("recommendation", .str "dispute_overcharge"),
    ("rate_currency", .str "USD"), ("rate_unit", .str "per_day")]

def caseItem : Mapping :=
  caseContent ++
    ([("evidence_id", .str "e1"), ("kind", .str "TARIFF_CLAUSE"),
      ("source_table", .str "tariff_clauses"), ("source_id", .str "c1"),
      ("content_sha256", .str (contentHash caseContent)), ("content", .dict caseContent)] :
      Mapping)

/-- The evidence as the seal reads it. -/
def caseRecorded : CaseSeal.EvidenceRow :=
  ⟨"e1", "case", "TARIFF_CLAUSE", "tariff_clauses", "c1", .dict caseContent,
    contentHash caseContent, true⟩

def caseManifest : Mapping :=
  [("manifest_version", .int 1), ("case_id", .str "case"), ("tenant_id", .str "t"),
    ("invoice_id", .str "i1"), ("finding_id", .str "f1"), ("evidence", .list [.dict caseItem]),
    ("calculation", .dict caseCalculation), ("recommendation", .str "dispute_overcharge"),
    ("approved_by", .str "u1"), ("approved_at", .str "2026-07-01T00:00:00Z")]

/-- The case in a state, whose rows and objects are all there. -/
def caseRow (state : String) : StoredCase where
  id := "case"
  tenantId := "t"
  state := state
  manifestVersion := some 1
  invoiceId := "i1"
  findingId := "f1"
  sealedBy := some "u1"
  sealedTxnTs := some "1"
  sealedAtDisplay := some caseTime

def caseCapture : CaptureRow where
  id := "s1"
  tenantId := "t"
  carrierId := "k1"
  s3Key := some "tariff"
  sourceVersionId := some "1"
  sourceByteSize := some (encode caseClause).length
  docSha256 := some (hexdigest (encode caseClause))
  capturedAt := some caseTime
  committedAt := some caseTime

def caseClauseRow : ClauseRow where
  id := "c1"
  tenantId := "t"
  snapshotId := "s1"
  clauseText := some caseClause
  sha256 := some (hexdigest (encode caseClause))
  rateAmount := some (.finite false 10000 (-2))
  rateCurrency := some "USD"
  rateUnit := some "per_day"
  effectiveFrom := some caseDate
  effectiveTo := none
  committedAt := some caseTime
  verificationStatus := some "VERIFIED"
  verificationReason := some "verified"

def caseEvidence : ReceiptVerifier.EvidenceRow where
  id := "e1"
  tenantId := "t"
  caseId := "case"
  kind := some "TARIFF_CLAUSE"
  sourceTable := some "tariff_clauses"
  sourceId := "c1"
  content := caseContent
  contentSha256 := some (contentHash caseContent)
  sealed := true

/-- The row of the invoice, without its digest. -/
def caseInvoiceClaim : InvoiceRow where
  id := "i1"
  tenantId := "t"
  invoiceNo := some "I1"
  s3Key := some "invoice"
  sourceVersionId := some "1"
  sha256 := none
  claimedRate := some (.finite false 15000 (-2))
  rateCurrency := some "USD"
  rateUnit := some "per_day"
  chargeDays := some 2
  receivedAt := some caseTime
  invoiceDate := some caseDate

def caseInvoiceRow : InvoiceRow :=
  { caseInvoiceClaim with sha256 := some (hexdigest caseInvoice) }

def caseFinding : ReceiptVerifier.FindingRow where
  id := "f1"
  tenantId := "t"
  invoiceId := "i1"
  recommendation := some "dispute_overcharge"
  calculation := caseCalculation
  humanApprovalState := some "APPROVED"

def caseLoaders : Loaders where
  source _ key _ := if key = "tariff" then some caseSource else some caseInvoiceSource
  capture _ _ := some caseCapture
  clause _ _ := some caseClauseRow
  evidence _ _ := some caseEvidence
  invoice _ _ := some caseInvoiceRow
  finding _ _ := some caseFinding

/-- What is computed of the constants of the case. -/
structure CaseFacts : Prop where
  filled : ∀ text ∈ ["e1", "s1", "c1", "b", "tariff", "1", "invoice", "i1", "f1", "t", "u1",
    "verified", caseClause], filled text = true
  timestamp : sameTimestamp (some caseTime) (.str "2026-07-01T00:00:00Z") = .ok true
  date : caseDate.isoformat = "2026-07-01"
  stands : sourceContainsClause caseClause (some caseSource) = true
  states : clauseContainsRate caseClause (some (.finite false 10000 (-2))) = true
  rate : decimal (.str "100.00") = some (.finite false 10000 (-2))
  claimed : decimal (.str "150") = some (.finite false 150 0)
  sameClaim : sameDecimal (some (.finite false 150 0)) (some (.finite false 15000 (-2))) = true
  days : integer (.int 2) = .ok (some 2)
  claim : invoiceClaim caseCalculation caseInvoiceClaim = .ok (some (.finite false 15000 (-2), 2))
  calculated : calculationOk caseCalculation [.finite false 10000 (-2)]
    (some (.finite false 15000 (-2), 2)) = .ok true

variable (facts : CaseFacts)

theorem matches_self (bytes : Bytes) :
    storedContentHashMatches (hexdigest bytes) (hexdigest bytes) = true := by
  simp [storedContentHashMatches]

include facts in
theorem case_caseChecks (state : String) (hstate : state ∈ sealedCaseStates) :
    ∃ checks, caseChecks caseManifest (evidenceHash caseManifest) (caseRow state) "t" "case" =
      .ok checks ∧ Passes checks := by
  have happroved : CaseSeal.get caseManifest "approved_at" = .str "2026-07-01T00:00:00Z" := by
    simp [CaseSeal.get, getMember, caseManifest]
  unfold caseChecks
  rw [happroved, show (caseRow state).sealedAtDisplay = some caseTime from rfl, facts.timestamp]
  refine ⟨_, rfl, ?_⟩
  simp [Passes, CaseSeal.get, getMember, caseManifest, isOne, isText, caseRow, Value.text, sameInt,
    CockroachMcp.equalsInt, presentText, filled, stripText, itemsOf, hstate, Interpreter.isSpace]

theorem case_times : CaseSeal.get caseItem "observed_at" = .str "2026-07-01T00:00:00Z" ∧
    CaseSeal.get caseItem "committed_at" = .str "2026-07-01T00:00:00Z" ∧
    CaseSeal.get caseItem "clause_committed_at" = .str "2026-07-01T00:00:00Z" ∧
    CaseSeal.get caseItem "invoice_received_at" = .str "2026-07-01T00:00:00Z" ∧
    CaseSeal.get caseItem "invoice_observed_at" = .str "2026-07-01T00:00:00Z" := by
  simp [CaseSeal.get, getMember, caseItem, caseContent]

include facts in
theorem case_captureChecks :
    ∃ checks, captureChecks caseManifest caseItem caseCapture = .ok checks ∧ Passes checks := by
  obtain ⟨hobserved, hcommitted, _⟩ := case_times
  unfold captureChecks
  rw [hobserved, hcommitted, show caseCapture.capturedAt = some caseTime from rfl,
    show caseCapture.committedAt = some caseTime from rfl, facts.timestamp]
  refine ⟨_, rfl, ?_⟩
  simp [Passes, CaseSeal.get, getMember, caseManifest, caseItem, caseContent, caseCapture,
    Value.text, sameText, sameInt, isText, CockroachMcp.equalsInt]

include facts in
theorem case_sourceChecks :
    ∃ checks, sourceChecks caseItem caseSource = .ok checks ∧ Passes checks := by
  obtain ⟨hobserved, _⟩ := case_times
  unfold sourceChecks
  rw [hobserved, show caseSource.observedAt = caseTime from rfl, facts.timestamp]
  refine ⟨_, rfl, ?_⟩
  simp [Passes, CaseSeal.get, getMember, caseItem, caseContent, caseSource, isText, hashMatches,
    matches_self, CockroachMcp.equalsInt]

include facts in
theorem case_rateOk : rateOk caseItem caseClauseRow = true := by
  unfold rateOk
  simp [CaseSeal.get, getMember, caseItem, caseContent, caseClauseRow, facts.rate, sameDecimal,
    equal, sameText, isText, dateText, Value.text, facts.date]

include facts in
theorem case_clauseChecks :
    ∃ checks, clauseChecks caseManifest caseItem (some caseSource) caseClauseRow = .ok checks ∧
      Passes checks := by
  obtain ⟨_, _, hcommitted, _⟩ := case_times
  have htext : validClauseText caseClauseRow = some caseClause := by
    simp [validClauseText, caseClauseRow, facts.filled caseClause (by simp)]
  have hrate : CaseSeal.get caseItem "rate_amount" = .str "100.00" := by
    simp [CaseSeal.get, getMember, caseItem, caseContent]
  unfold clauseChecks
  rw [hcommitted, show caseClauseRow.committedAt = some caseTime from rfl, facts.timestamp]
  refine ⟨_, rfl, ?_⟩
  rw [htext, hrate, facts.rate, case_rateOk facts]
  have hfilled := facts.filled "verified" (by simp)
  simp [Passes, CaseSeal.get, getMember, caseManifest, caseItem, caseContent, caseClauseRow,
    Value.text, sameText, isText, presentText, hfilled, hashMatches, storedHashMatches,
    matches_self, facts.stands, facts.states]

theorem case_keyed : caseContent.Pairwise fun a b => a.1 ≠ b.1 := by
  have hkeys : (caseContent.map Prod.fst).Nodup := by
    simp only [caseContent, List.map_cons, List.map_nil]
    decide +kernel
  exact List.pairwise_map.mp hkeys

theorem case_rowChecks : Passes (rowChecks caseManifest caseItem caseEvidence) := by
  have hcontent : CaseSeal.get caseItem "content" = .dict caseContent := by
    simp [CaseSeal.get, getMember, caseItem, caseContent]
  have hflattened : flattened caseRecorded caseContent = caseItem := rfl
  have hbinding : flattenedBinding caseItem caseContent = true := by
    rw [← hflattened]
    exact SealedBindings.flattenedBinding_flattened case_keyed
  unfold rowChecks
  rw [hcontent]
  dsimp only
  rw [hbinding]
  simp [Passes, CaseSeal.get, getMember, caseManifest, caseItem, caseContent, caseEvidence,
    Value.text, sameText, isText, sameJson, hashMatches, storedHashMatches, contentHash,
    matches_self]

include facts in
theorem case_complete : completeReference caseItem = true := by
  have hid := facts.filled "e1" (by simp)
  have hcapture := facts.filled "s1" (by simp)
  have hclause := facts.filled "c1" (by simp)
  have hbucket := facts.filled "b" (by simp)
  have hkey := facts.filled "tariff" (by simp)
  have hversion := facts.filled "1" (by simp)
  simp [completeReference, ReceiptVerifier.references, CaseSeal.get, getMember, caseItem,
    caseContent, isReference, hid, hcapture, hclause, hbucket, hkey, hversion]

include facts in
theorem case_itemSource : itemSource caseLoaders caseItem = some caseSource := by
  unfold itemSource
  rw [if_pos (case_complete facts)]
  simp [CaseSeal.get, getMember, caseItem, caseContent, caseLoaders]

include facts in
theorem case_load {α : Type} (loader : String → String → Option α) {members : Mapping}
    {key row : String} (hrow : CaseSeal.get members key = .str row) (hfilled : filled row = true) :
    load loader (CaseSeal.get caseManifest "tenant_id") (CaseSeal.get members key) =
      loader "t" row := by
  have htenant : CaseSeal.get caseManifest "tenant_id" = .str "t" := by
    simp [CaseSeal.get, getMember, caseManifest]
  have ht := facts.filled "t" (by simp)
  rw [htenant, hrow]
  unfold load
  simp [ht, hfilled]

theorem verifyItem_of {loaders : Loaders} {manifest item : Mapping}
    {row : ReceiptVerifier.EvidenceRow} {capture : CaptureRow} {source : LoadedSource}
    {clause : ClauseRow} {captured fetched stated : List (String × Bool × String)}
    (hrow : load loaders.evidence (CaseSeal.get manifest "tenant_id")
      (CaseSeal.get item "evidence_id") = some row)
    (hcapture : load loaders.capture (CaseSeal.get manifest "tenant_id")
      (CaseSeal.get item "capture_id") = some capture)
    (hsource : itemSource loaders item = some source)
    (hclause : load loaders.clause (CaseSeal.get manifest "tenant_id")
      (CaseSeal.get item "clause_id") = some clause)
    (hcaptured : captureChecks manifest item capture = .ok captured)
    (hfetched : sourceChecks item source = .ok fetched)
    (hstated : clauseChecks manifest item (some source) clause = .ok stated) :
    verifyItem loaders manifest item = .ok
      ([("reference", completeReference item, "incomplete_evidence_reference"),
          ("source_identity",
            isText (CaseSeal.get item "source_table") "tariff_clauses" &&
              (CaseSeal.get item "source_id").text = (CaseSeal.get item "clause_id").text,
            "evidence_source_identity_mismatch"),
          ("row", true, "evidence_row_missing")] ++ rowChecks manifest item row ++
        [("capture", true, "capture_missing")] ++ captured ++
        [("source_fetch", true, "source_version_fetch_failed")] ++ fetched ++
        [("clause", true, "clause_missing")] ++ stated,
      if rateOk item clause then decimal (CaseSeal.get item "rate_amount") else none) := by
  unfold verifyItem
  dsimp only
  rw [hrow, hcapture, hclause, hsource]
  unfold whenThere
  dsimp only
  rw [hcaptured, hfetched, hstated]
  rfl

include facts in
theorem case_verifyItem :
    ∃ checks, verifyItem caseLoaders caseManifest caseItem =
      .ok (checks, some (.finite false 10000 (-2))) ∧ Passes checks := by
  obtain ⟨captured, hcaptured, hcapturedPasses⟩ := case_captureChecks facts
  obtain ⟨fetched, hfetched, hfetchedPasses⟩ := case_sourceChecks facts
  obtain ⟨stated, hstated, hstatedPasses⟩ := case_clauseChecks facts
  have hids : CaseSeal.get caseItem "evidence_id" = .str "e1" ∧
      CaseSeal.get caseItem "capture_id" = .str "s1" ∧
      CaseSeal.get caseItem "clause_id" = .str "c1" ∧
      CaseSeal.get caseItem "source_id" = .str "c1" ∧
      CaseSeal.get caseItem "source_table" = .str "tariff_clauses" ∧
      CaseSeal.get caseItem "rate_amount" = .str "100.00" := by
    simp [CaseSeal.get, getMember, caseItem, caseContent]
  obtain ⟨hid, hcaptureId, hclauseId, hsourceId, htable, hrate⟩ := hids
  have hevidence := case_load facts caseLoaders.evidence hid (facts.filled _ (by simp))
  have hcapture := case_load facts caseLoaders.capture hcaptureId (facts.filled _ (by simp))
  have hclause := case_load facts caseLoaders.clause hclauseId (facts.filled _ (by simp))
  have hverified := verifyItem_of hevidence hcapture (case_itemSource facts) hclause hcaptured
    hfetched hstated
  rw [if_pos (case_rateOk facts), hrate, facts.rate, htable, hsourceId, hclauseId,
    case_complete facts] at hverified
  refine ⟨_, hverified, ?_⟩
  simp only [passes_append]
  refine ⟨⟨⟨⟨⟨⟨⟨?_, case_rowChecks⟩, ?_⟩, hcapturedPasses⟩, ?_⟩, hfetchedPasses⟩, ?_⟩,
    hstatedPasses⟩
  all_goals simp [Passes, isText]

include facts in
theorem case_invoiceClaim : invoiceClaim caseCalculation caseInvoiceRow =
    .ok (some (.finite false 15000 (-2), 2)) :=
  facts.claim

include facts in
theorem case_invoiceSource : invoiceSource caseLoaders caseItem = some caseInvoiceSource := by
  have hbucket := facts.filled "b" (by simp)
  have hkey := facts.filled "invoice" (by simp)
  have hversion := facts.filled "1" (by simp)
  unfold invoiceSource
  simp [CaseSeal.get, getMember, caseItem, caseContent, caseLoaders, hbucket, hkey, hversion]

include facts in
theorem case_sourceClaim : sourceClaimOk caseItem caseInvoiceRow caseInvoice = .ok true := by
  have hloads : ClaimTexts.loads caseInvoice = some caseClaim := if_pos rfl
  have hclaim : parseInvoiceClaim ClaimTexts.loads caseInvoice = .ok caseClaim := by
    simp [parseInvoiceClaim, hloads, caseClaim, supportedCurrencies, supportedRateUnits]
  have hsame : sameDecimal (some (.finite false 150 0)) (some (.finite false 150 0)) = true := by
    simp [sameDecimal, equal]
  have hread : CaseSeal.get caseItem "invoice_no" = .str "I1" ∧
      CaseSeal.get caseItem "invoice_claimed_rate" = .str "150" ∧
      CaseSeal.get caseItem "charge_days" = .int 2 := by
    simp [CaseSeal.get, getMember, caseItem, caseContent]
  obtain ⟨hno, hclaimed, hcharge⟩ := hread
  unfold sourceClaimOk
  rw [hclaim, hno, hclaimed, facts.claimed, hcharge, facts.days]
  have hthere : (some (2 : Int) = some caseClaim.chargeDays) ∧
      caseClaim.invoiceDate.isoformat = dateText caseInvoiceRow.invoiceDate := ⟨rfl, rfl⟩
  refine (if_pos ?_).trans ?_
  · simp [isText, caseInvoiceRow, caseInvoiceClaim, caseClaim, facts.sameClaim, hsame]
  · simp only [bind, Except.bind]
    rw [if_pos hthere]
    exact facts.timestamp

omit [Sha256] in
theorem case_body : caseInvoiceSource.body = caseInvoice := by
  simp only [caseInvoiceSource]

include facts in
theorem case_invoiceSourceChecks :
    ∃ checks, invoiceSourceChecks caseItem caseInvoiceRow caseInvoiceSource = .ok checks ∧
      Passes checks := by
  obtain ⟨_, _, _, _, hobserved⟩ := case_times
  unfold invoiceSourceChecks
  rw [hobserved, show caseInvoiceSource.observedAt = caseTime from rfl, facts.timestamp,
    case_body, case_sourceClaim facts]
  refine ⟨_, rfl, ?_⟩
  simp [Passes, CaseSeal.get, getMember, caseItem, caseContent, caseInvoiceSource, isText,
    hashMatches, storedHashMatches, caseInvoiceRow, matches_self, CockroachMcp.equalsInt]

theorem invoiceChecks_of {loaders : Loaders} {manifest evidence calculation : Mapping}
    {rates : List Decimal} {row : InvoiceRow} {source : LoadedSource} {claim : Decimal × Int}
    {received calculated : Bool} {fetched : List (String × Bool × String)}
    (hreceived : sameTimestamp row.receivedAt (CaseSeal.get evidence "invoice_received_at") =
      .ok received)
    (hsource : invoiceSource loaders evidence = some source)
    (hfetched : invoiceSourceChecks evidence row source = .ok fetched)
    (hclaim : invoiceClaim calculation row = .ok (some claim))
    (hcalculated : calculationOk calculation rates (some claim) = .ok calculated) :
    invoiceChecks loaders manifest evidence calculation rates row = .ok
      ([("invoice_identity",
          (CaseSeal.get manifest "invoice_id").text = row.id &&
            (CaseSeal.get manifest "tenant_id").text = row.tenantId,
          "invoice_identity_mismatch"),
        ("invoice_source_identity",
          (CaseSeal.get evidence "invoice_id").text = (CaseSeal.get manifest "invoice_id").text &&
            sameText row.s3Key (CaseSeal.get evidence "invoice_s3_key") &&
            sameText row.sourceVersionId (CaseSeal.get evidence "invoice_s3_version_id") &&
            sameText row.sha256 (CaseSeal.get evidence "invoice_sha256"),
          "invoice_source_identity_mismatch"),
        ("invoice_received_at", received, "invoice_received_at_mismatch"),
        ("invoice_date", (CaseSeal.get evidence "invoice_date").text = dateText row.invoiceDate,
          "invoice_date_mismatch"),
        ("invoice_source_fetch", true, "invoice_source_fetch_failed")] ++ fetched ++
        [("invoice_claim", true, "invoice_claim_mismatch"),
          ("calculation", calculated, "calculation_mismatch")]) := by
  unfold invoiceChecks
  dsimp only
  rw [hreceived, hsource, hclaim]
  unfold whenThere
  dsimp only
  rw [hfetched]
  simp only [bind, Except.bind, hcalculated]
  rfl

include facts in
theorem case_invoiceChecks :
    ∃ checks, invoiceChecks caseLoaders caseManifest caseItem caseCalculation
      [.finite false 10000 (-2)] caseInvoiceRow = .ok checks ∧ Passes checks := by
  obtain ⟨fetched, hfetched, hfetchedPasses⟩ := case_invoiceSourceChecks facts
  obtain ⟨_, _, _, hreceived, _⟩ := case_times
  refine ⟨_, invoiceChecks_of (hreceived ▸ facts.timestamp) (case_invoiceSource facts) hfetched
    (case_invoiceClaim facts) facts.calculated, ?_⟩
  simp only [passes_append]
  refine ⟨⟨?_, hfetchedPasses⟩, ?_⟩
  · simp [Passes, CaseSeal.get, getMember, caseManifest, caseItem, caseContent, caseInvoiceRow,
      caseInvoiceClaim, sameText, isText, Value.text, dateText, facts.date]
  · simp [Passes]

theorem verifySealedReceipt_of {loaders : Loaders} {manifest : Mapping}
    {storedEvidenceHash : String} {storedCase : StoredCase} {tenantId caseId : String}
    {invoice : InvoiceRow} {finding : ReceiptVerifier.FindingRow}
    {cased invoiced : List (String × Bool × String)} {evidence : List ReceiptCheck}
    {rates : List Decimal}
    (hcased : caseChecks manifest storedEvidenceHash storedCase tenantId caseId = .ok cased)
    (hevidence : verifyItems loaders manifest 0 (itemsOf (CaseSeal.get manifest "evidence")) =
      .ok (evidence, rates))
    (hinvoice : load loaders.invoice (CaseSeal.get manifest "tenant_id")
      (CaseSeal.get manifest "invoice_id") = some invoice)
    (hinvoiced : invoiceChecks loaders manifest
      (mappingOf ((itemsOf (CaseSeal.get manifest "evidence")).headD .null))
      (mappingOf (CaseSeal.get manifest "calculation")) rates invoice = .ok invoiced)
    (hfinding : load loaders.finding (CaseSeal.get manifest "tenant_id")
      (CaseSeal.get manifest "finding_id") = some finding) :
    ∃ report, verifySealedReceipt loaders manifest storedEvidenceHash storedCase tenantId caseId =
      .ok report ∧ report.passed = (recorded cased ++ evidence ++
        recorded ([("invoice", true, "invoice_missing")] ++ invoiced ++
          [("finding", true, "finding_missing")] ++
          findingChecks manifest (mappingOf (CaseSeal.get manifest "calculation"))
            finding)).all ReceiptCheck.passed := by
  unfold verifySealedReceipt
  dsimp only
  rw [hcased, hevidence, hinvoice, hfinding]
  unfold whenThere
  simp only [bind, Except.bind, hinvoiced]
  exact ⟨_, rfl, rfl⟩

theorem case_findingChecks : Passes (findingChecks caseManifest caseCalculation caseFinding) := by
  simp [findingChecks, Passes, CaseSeal.get, getMember, caseManifest, caseFinding, Value.text,
    sameText, isText, sameJson]

include facts in
/-- Every check passes for the case in a state of a sealed one. -/
theorem case_passes (state : String) (hstate : state ∈ sealedCaseStates) :
    ∃ report, verifySealedReceipt caseLoaders caseManifest (evidenceHash caseManifest)
      (caseRow state) "t" "case" = .ok report ∧ report.passed = true := by
  obtain ⟨cased, hcased, hcasedPasses⟩ := case_caseChecks facts state hstate
  obtain ⟨verified, hverified, hverifiedPasses⟩ := case_verifyItem facts
  obtain ⟨invoiced, hinvoiced, hinvoicedPasses⟩ := case_invoiceChecks facts
  have hread : CaseSeal.get caseManifest "evidence" = .list [.dict caseItem] ∧
      CaseSeal.get caseManifest "calculation" = .dict caseCalculation ∧
      CaseSeal.get caseManifest "invoice_id" = .str "i1" ∧
      CaseSeal.get caseManifest "finding_id" = .str "f1" := by
    simp [CaseSeal.get, getMember, caseManifest]
  obtain ⟨hevidence, hcalculation, hinvoiceId, hfindingId⟩ := hread
  have hinvoice := case_load facts caseLoaders.invoice hinvoiceId (facts.filled _ (by simp))
  have hfinding := case_load facts caseLoaders.finding hfindingId (facts.filled _ (by simp))
  have hitems : verifyItems caseLoaders caseManifest 0
      (itemsOf (CaseSeal.get caseManifest "evidence")) =
      .ok (prefixed 0 verified ++ [], [.finite false 10000 (-2)] ++ []) := by
    rw [hevidence]
    simp only [itemsOf, verifyItems, hverified, bind, Except.bind]
    rfl
  obtain ⟨report, hreport, hpassed⟩ := verifySealedReceipt_of hcased hitems hinvoice
    (by rw [hevidence, hcalculation]; exact hinvoiced) hfinding
  refine ⟨report, hreport, ?_⟩
  rw [hpassed, hcalculation]
  simp only [List.all_append, all_recorded, all_prefixed, Bool.and_eq_true, passes_append]
  refine ⟨⟨hcasedPasses, hverifiedPasses, rfl⟩, ⟨⟨?_, hinvoicedPasses⟩, ?_⟩, case_findingChecks⟩
  all_goals simp [Passes]

end Hashes

theorem caseFacts : CaseFacts := by
  constructor <;> decide +kernel

section Standard

local instance : Sha256 := .standard

/-- What a passing receipt of the filed case rests on. -/
theorem passed_supported_filed : ∃ report, verifySealedReceipt caseLoaders caseManifest
    (evidenceHash caseManifest) (caseRow "FILED") "t" "case" = .ok report ∧
    ∃ q, evidenceOf caseManifest ≠ [] ∧
      ∀ value ∈ evidenceOf caseManifest, StatesRate caseLoaders caseManifest q value := by
  obtain ⟨report, hreport, hpassed⟩ := case_passes caseFacts "FILED" (by simp [sealedCaseStates])
  obtain ⟨_, q, _, _, hevidence, hstates, _⟩ := passed_supported hreport hpassed
  exact ⟨report, hreport, q, hevidence, hstates⟩

theorem eq_of_mem_zip {α : Type} {a b : α} {xs : List (Option α)}
    (h : (some a, some b) ∈ xs.zip xs) : a = b := by
  obtain ⟨i, hi, heq⟩ := List.mem_iff_getElem.mp h
  rw [List.getElem_zip] at heq
  obtain ⟨ha, hb⟩ := Prod.mk.inj heq
  exact Option.some.inj (ha.symm.trans hb)

theorem case_noCollisions : NoCollisions caseLoaders caseLoaders caseManifest caseManifest where
  manifests h := h.1 rfl
  sources _ _ hab h := h.1 (eq_of_mem_zip hab)
  clauses _ _ hab h := h.1 (congrArg encode (eq_of_mem_zip hab))
  invoices _ _ ha hb h := h.1 (Option.some.inj (ha.symm.trans hb))

theorem plain_caseManifest : (Value.dict caseManifest).plain = true := by
  decide +kernel

/-- The receipt of the filed case, verified again after the case is contested. -/
theorem receipts_agree_contested : ∃ report report',
    verifySealedReceipt caseLoaders caseManifest (evidenceHash caseManifest) (caseRow "FILED")
      "t" "case" = .ok report ∧
    verifySealedReceipt caseLoaders caseManifest (evidenceHash caseManifest) (caseRow "CONTESTED")
      "t" "case" = .ok report' ∧
    (invoiceBody caseLoaders caseManifest).isSome = true := by
  obtain ⟨report, hreport, hpassed⟩ := case_passes caseFacts "FILED" (by simp [sealedCaseStates])
  obtain ⟨report', hreport', hpassed'⟩ :=
    case_passes caseFacts "CONTESTED" (by simp [sealedCaseStates])
  obtain ⟨_, _, _, hsome, _⟩ := receipts_agree case_noCollisions plain_caseManifest
    plain_caseManifest hreport hpassed hreport' hpassed'
  exact ⟨report, report', hreport, hreport', hsome⟩

end Standard

end Case

end Tally.Analysis.VerifiedReceipts
