import Mathlib.Data.List.TakeWhile
import Mathlib.Data.Option.Basic
import Tally.Analysis.RowOrders
import Tally.Analysis.SealedBindings
import Tally.Model.TemporalReplay

/-!
# Replays that match

A replay compares the rows of a case when it was sealed with those of now. Each set is bound to
its manifest on its own, and the two manifests are compared by their hashes, so a match carries
over from the manifest to every piece of evidence. A hash is taken with or without the name of
its algorithm in front, and both forms count as one.
-/

set_option autoImplicit false

namespace Tally.Analysis.ReplayMatches
open Library Library.Sha256 Tally.Model SealedMemory TemporalReplay
open List (Forall₂)
open ContestWorkflow (decimalOf uuidOf)
open CaseSeal (EvidenceRow Mapping canonicalJsonBytes contentHash evidenceHash
  storedContentHashMatches)
open CockroachMcp (JsonDecoder)
open EvidenceBindings (contentMapping replayBinding sameJson)
open RowOrders (mapping_eq_ok require_eq_ok)

section Reading

variable [Interpreter] [Sha256] [JsonDecoder]

/-! ## The loop over the rows -/

/-- The id of the evidence of a row. -/
def idOf (row : ReplayRow) : Option String :=
  (canonicalUuid (row.ofEvidence (·.id)) "evidence_id").toOption

/-- A row that the loop has read, under its id. -/
structure RowRead (items : ManifestItems) (row : ReplayRow) (id : String) : Prop where
  named : canonicalUuid (row.ofEvidence (·.id)) "evidence_id" = .ok id
  listed : ∃ item, itemOf items id = .ok item
  content : ∃ content, mapping (evidenceContent row) "evidence_content" = .ok content

/-- The row is bound to its item. -/
def RowBound (items : ManifestItems) (row : ReplayRow) : Prop :=
  ∀ id ∈ idOf row, ∀ item, itemOf items id = .ok item → rowIntact row item = true

/-- What the loop has made of rows. -/
structure Walked (items : ManifestItems) (rows : List ReplayRow) (before after : Walk)
    (ids : List String) : Prop where
  reads : Forall₂ (RowRead items) rows ids
  returned : after.returned = before.returned ++ ids
  distinct : before.returned.Nodup → after.returned.Nodup
  intact : after.intact = true → before.intact = true ∧ ∀ row ∈ rows, RowBound items row
  keeps : ∀ candidate ∈ before.candidates, candidate ∈ after.candidates
  cites : ∀ row ∈ rows, citesTariff row = true → ∃ content,
    mapping (evidenceContent row) "evidence_content" = .ok content ∧
      (row, content) ∈ after.candidates

/-- One row. -/
theorem walkRow_ok {first row : ReplayRow} {items : ManifestItems} {before after : Walk}
    (h : walkRow first items before row = .ok after) :
    ∃ id, Walked items [row] before after [id] := by
  unfold walkRow at h
  obtain ⟨_, _, h⟩ := bind_eq_ok.mp h
  obtain ⟨id, hid, h⟩ := bind_eq_ok.mp h
  obtain ⟨_, hfresh, h⟩ := bind_eq_ok.mp h
  obtain ⟨item, hitem, h⟩ := bind_eq_ok.mp h
  obtain ⟨content, hcontent, h⟩ := bind_eq_ok.mp h
  have hnew : id ∉ before.returned := of_decide_eq_true (require_eq_ok.mp hfresh)
  obtain rfl := Except.ok.inj h
  refine ⟨id, ⟨.cons ⟨hid, ⟨item, hitem⟩, content, hcontent⟩ .nil, rfl, ?_, ?_, ?_, ?_⟩⟩
  · intro hnodup
    refine List.nodup_append.mpr ⟨hnodup, List.nodup_singleton id, fun a ha b hb hab => ?_⟩
    rw [List.mem_singleton.mp hb] at hab
    exact hnew (hab ▸ ha)
  · intro hintact
    obtain ⟨hbefore, hrow⟩ := Bool.and_eq_true_iff.mp hintact
    refine ⟨hbefore, fun other hother id' hid' item' hitem' => ?_⟩
    obtain rfl := List.mem_singleton.mp hother
    unfold idOf at hid'
    rw [hid] at hid'
    obtain rfl := Option.some.inj hid'
    rw [hitem] at hitem'
    obtain rfl := Except.ok.inj hitem'
    exact hrow
  · exact fun candidate hcandidate => List.mem_append_left _ hcandidate
  · intro other hother hcites
    obtain rfl := List.mem_singleton.mp hother
    refine ⟨content, hcontent, List.mem_append_right _ ?_⟩
    rw [if_pos hcites]
    exact List.mem_singleton.mpr rfl

/-- Rows after rows. -/
theorem Walked.append {items : ManifestItems} {rows rows' : List ReplayRow}
    {before between after : Walk} {ids ids' : List String}
    (h : Walked items rows before between ids) (h' : Walked items rows' between after ids') :
    Walked items (rows ++ rows') before after (ids ++ ids') := by
  refine ⟨List.rel_append h.reads h'.reads, ?_, ?_, ?_, ?_, ?_⟩
  · rw [h'.returned, h.returned, List.append_assoc]
  · exact fun hnodup => h'.distinct (h.distinct hnodup)
  · intro hintact
    obtain ⟨hbetween, hrows'⟩ := h'.intact hintact
    obtain ⟨hbefore, hrows⟩ := h.intact hbetween
    refine ⟨hbefore, fun row hrow => ?_⟩
    rcases List.mem_append.mp hrow with hearly | hlate
    · exact hrows row hearly
    · exact hrows' row hlate
  · exact fun candidate hcandidate => h'.keeps _ (h.keeps _ hcandidate)
  · intro row hrow hcites
    rcases List.mem_append.mp hrow with hearly | hlate
    · obtain ⟨content, hcontent, hmem⟩ := h.cites row hearly hcites
      exact ⟨content, hcontent, h'.keeps _ hmem⟩
    · exact h'.cites row hlate hcites

/-- All rows. -/
theorem walkRows_ok {first : ReplayRow} {items : ManifestItems} {rows : List ReplayRow}
    {before after : Walk} (h : walkRows first items before rows = .ok after) :
    ∃ ids, Walked items rows before after ids := by
  induction rows generalizing before with
  | nil =>
      rw [walkRows] at h
      obtain rfl := Except.ok.inj h
      refine ⟨[], .nil, (List.append_nil _).symm, id, fun hintact => ⟨hintact, ?_⟩,
        fun _ => id, ?_⟩
      · exact fun row hrow => absurd hrow List.not_mem_nil
      · exact fun row hrow => absurd hrow List.not_mem_nil
  | cons row rows ih =>
      rw [walkRows] at h
      obtain ⟨between, hrow, h⟩ := bind_eq_ok.mp h
      obtain ⟨id, hone⟩ := walkRow_ok hrow
      obtain ⟨ids, hrest⟩ := ih h
      exact ⟨id :: ids, hone.append hrest⟩

/-! ## The row of the clause -/

omit [Sha256] [JsonDecoder] in
theorem requiredText_eq_ok {value : Value} {field text : String}
    (h : requiredText value field = .ok text) : text = value.text := by
  unfold requiredText at h
  split at h
  · cases h
  · split at h
    · cases h
    · exact (Except.ok.inj h).symm

omit [Sha256] [JsonDecoder] in
theorem sha256_eq_ok {value : Value} {field bare : String} (h : sha256 value field = .ok bare) :
    bare = bareHash value.text := by
  unfold sha256 at h
  obtain ⟨text, htext, h⟩ := bind_eq_ok.mp h
  obtain ⟨_, _, h⟩ := bind_eq_ok.mp h
  rw [← requiredText_eq_ok htext]
  exact (Except.ok.inj h).symm

omit [Sha256] [JsonDecoder] in
theorem decimal_eq_ok {value : Value} {field : String} {number : Applicability.Decimal}
    (h : decimal value field = .ok number) : decimalOf value.text = some number := by
  unfold decimal at h
  split at h
  · cases h
  · rename_i hfinite
    rw [hfinite, Except.ok.inj h]
  · cases h

omit [Sha256] [JsonDecoder] in
/-- A column that is null is no UUID. -/
theorem canonicalUuid_null {field id : String} : canonicalUuid .null field ≠ .ok id := by
  have hnone : uuidOf "None" = none := rfl
  unfold canonicalUuid Value.text
  rw [hnone]
  intro h
  cases h

omit [Sha256] [JsonDecoder] in
/-- What is read of the clause are its columns. -/
theorem readTariff_ok {row : ReplayRow} {content : Mapping} {tariff : TariffView}
    (h : readTariff row content = .ok tariff) : ∃ t, row.tariff = some t ∧
      decimalOf (column t.tariffRate).text = some tariff.tariffRate ∧
      tariff.versionLabel = t.versionLabel ∧ tariff.clauseSha256 = bareHash t.clauseSha256 ∧
      tariff.sourceSha256 = bareHash t.snapshotSourceSha256 := by
  unfold readTariff at h
  obtain ⟨_, _, h⟩ := bind_eq_ok.mp h
  obtain ⟨_, hclause, h⟩ := bind_eq_ok.mp h
  obtain ⟨_, _, h⟩ := bind_eq_ok.mp h
  obtain ⟨_, _, h⟩ := bind_eq_ok.mp h
  obtain ⟨_, _, h⟩ := bind_eq_ok.mp h
  obtain ⟨rate, hrate, h⟩ := bind_eq_ok.mp h
  obtain ⟨_, _, h⟩ := bind_eq_ok.mp h
  obtain ⟨label, hlabel, h⟩ := bind_eq_ok.mp h
  obtain ⟨clause, hclauseSha, h⟩ := bind_eq_ok.mp h
  obtain ⟨source, hsourceSha, h⟩ := bind_eq_ok.mp h
  obtain ⟨_, _, h⟩ := bind_eq_ok.mp h
  obtain ⟨_, _, h⟩ := bind_eq_ok.mp h
  obtain rfl := Except.ok.inj h
  cases htariff : row.tariff with
  | none =>
      unfold ReplayRow.ofTariff at hclause
      rw [htariff] at hclause
      exact absurd hclause canonicalUuid_null
  | some t =>
      unfold ReplayRow.ofTariff at hrate hlabel hclauseSha hsourceSha
      rw [htariff] at hrate hlabel hclauseSha hsourceSha
      exact ⟨t, rfl, decimal_eq_ok hrate, requiredText_eq_ok hlabel, sha256_eq_ok hclauseSha,
        sha256_eq_ok hsourceSha⟩

/-! ## A validated set of rows -/

/-- What has been read of the rows for a view. -/
structure ViewRead (request : Request) (rows : List ReplayRow) (view : TemporalReplayView)
    (manifest : Mapping) (items : ManifestItems) (ids : List String) (cited : ReplayRow)
    (content : Mapping) (tariff : TariffView) : Prop where
  manifestRead : ∃ first ∈ rows.head?, contentMapping first.evidenceManifest = some manifest
  indexed : ∃ values, evidenceList manifest = .ok values ∧ indexItems [] values = .ok items
  recomputed : view.recomputedEvidenceHash = evidenceHash manifest
  reads : Forall₂ (RowRead items) rows ids
  distinct : ids.Nodup
  covers : sameIds ids items = true
  cites : ∀ row ∈ rows, citesTariff row = true → row = cited
  tariffRead : readTariff cited content = .ok tariff
  tariffRate : view.tariffRate = tariff.tariffRate
  versionLabel : view.versionLabel = tariff.versionLabel
  clauseSha256 : view.clauseSha256 = tariff.clauseSha256
  sourceSha256 : view.sourceSha256 = tariff.sourceSha256
  intact : view.currentBindingsIntact = true →
    view.storedEvidenceHash = evidenceHash manifest ∧ ∀ row ∈ rows, RowBound items row
  historical : request.historical = true → view.currentBindingsIntact = true

omit [Sha256] in
theorem checkHead_ok {request : Request} {first : ReplayRow} {head : TemporalReplay.Head}
    (h : checkHead request first = .ok head) :
    contentMapping first.evidenceManifest = some head.manifest ∧
      ∃ values, evidenceList head.manifest = .ok values ∧
        indexItems [] values = .ok head.items := by
  unfold checkHead at h
  obtain ⟨_, _, h⟩ := bind_eq_ok.mp h
  obtain ⟨_, _, h⟩ := bind_eq_ok.mp h
  obtain ⟨_, _, h⟩ := bind_eq_ok.mp h
  obtain ⟨manifest, hmanifest, h⟩ := bind_eq_ok.mp h
  obtain ⟨_, _, h⟩ := bind_eq_ok.mp h
  obtain ⟨_, _, h⟩ := bind_eq_ok.mp h
  obtain ⟨_, _, h⟩ := bind_eq_ok.mp h
  obtain ⟨_, _, h⟩ := bind_eq_ok.mp h
  obtain ⟨_, _, h⟩ := bind_eq_ok.mp h
  obtain ⟨_, _, h⟩ := bind_eq_ok.mp h
  obtain ⟨values, hvalues, h⟩ := bind_eq_ok.mp h
  obtain ⟨items, hitems, h⟩ := bind_eq_ok.mp h
  obtain rfl := Except.ok.inj h
  exact ⟨mapping_eq_ok.mp hmanifest, values, hvalues, hitems⟩

theorem validateReplayRows_ok {request : Request} {rows : List ReplayRow}
    {view : TemporalReplayView} (h : validateReplayRows request rows = .ok view) :
    ∃ manifest items ids cited content tariff,
      ViewRead request rows view manifest items ids cited content tariff := by
  cases rows with
  | nil => cases h
  | cons first rows =>
      rw [validateReplayRows] at h
      obtain ⟨head, hhead, h⟩ := bind_eq_ok.mp h
      obtain ⟨walk, hwalk, h⟩ := bind_eq_ok.mp h
      obtain ⟨_, hcovers, h⟩ := bind_eq_ok.mp h
      obtain ⟨⟨cited, content⟩, hcited, h⟩ := bind_eq_ok.mp h
      obtain ⟨tariff, htariff, h⟩ := bind_eq_ok.mp h
      obtain ⟨_, hintact, h⟩ := bind_eq_ok.mp h
      obtain rfl := Except.ok.inj h
      obtain ⟨hmanifest, hindexed⟩ := checkHead_ok hhead
      obtain ⟨ids, hwalked⟩ := walkRows_ok hwalk
      have hreturned : walk.returned = ids := hwalked.returned
      have hcandidates : walk.candidates = [(cited, content)] := by
        unfold tariffCandidate at hcited
        split at hcited
        · rename_i candidate hone
          rw [hone, Except.ok.inj hcited]
        · cases hcited
      refine ⟨head.manifest, head.items, ids, cited, content, tariff,
        { manifestRead := ⟨first, rfl, hmanifest⟩
          indexed := hindexed
          recomputed := rfl
          reads := hwalked.reads
          distinct := hreturned ▸ hwalked.distinct List.nodup_nil
          covers := hreturned ▸ require_eq_ok.mp hcovers
          cites := ?_
          tariffRead := htariff
          tariffRate := rfl
          versionLabel := rfl
          clauseSha256 := rfl
          sourceSha256 := rfl
          intact := ?_
          historical := ?_ }⟩
      · intro row hrow hcites
        obtain ⟨_, _, hmem⟩ := hwalked.cites row hrow hcites
        rw [hcandidates] at hmem
        exact congrArg Prod.fst (List.mem_singleton.mp hmem)
      · intro hboth
        obtain ⟨hwalk, _⟩ := Bool.and_eq_true_iff.mp hboth
        obtain ⟨hstored, hrows⟩ := hwalked.intact hwalk
        exact ⟨of_decide_eq_true hstored, hrows⟩
      · intro hhistorical
        have hpasses := require_eq_ok.mp hintact
        rw [hhistorical] at hpasses
        simpa using hpasses

/-! ## Evidence that is bound to one item -/

omit [Interpreter] [JsonDecoder] in
/-- Both forms of a hash that matches are one without the name in front. -/
theorem bareHash_of_matches {stored : String} {content : Mapping}
    (h : storedContentHashMatches stored (contentHash content) = true) :
    bareHash stored = contentHash content := by
  unfold bareHash
  rcases Bool.or_eq_true_iff.mp h with hsame | hnamed
  · rw [of_decide_eq_true hsame, if_neg (SealedBindings.not_prefix_contentHash content)]
  · rw [of_decide_eq_true hnamed, String.toList_append, if_pos (List.prefix_append _ _)]
    have hdrop : ("sha256:".toList ++ (contentHash content).toList).drop 7 =
        (contentHash content).toList := List.drop_left' rfl
    rw [hdrop, String.ofList_toList]

/-- A row that is bound to its item has the content of the item, and says of it what the item
says. -/
theorem replayBinding_ok {e : EvidenceRow} {item : Mapping} (h : replayBinding e item = true) :
    ∃ content, contentMapping e.content = some content ∧ e.sealed = true ∧
      bareHash e.contentSha256 = contentHash content ∧
      canonicalJsonBytes (CaseSeal.get item "content") = canonicalJsonBytes (.dict content) ∧
      e.kind = (CaseSeal.get item "kind").text ∧
      e.sourceTable = (CaseSeal.get item "source_table").text ∧
      e.sourceId = (CaseSeal.get item "source_id").text := by
  unfold replayBinding at h
  cases hcontent : contentMapping e.content with
  | none =>
      rw [hcontent] at h
      cases h
  | some content =>
      rw [hcontent] at h
      simp only [Bool.and_eq_true, decide_eq_true_eq] at h
      obtain ⟨⟨⟨⟨⟨⟨hsealed, hhash⟩, hsame⟩, _⟩, hkind⟩, htable⟩, hsource⟩ := h
      exact ⟨content, rfl, hsealed, bareHash_of_matches hhash, of_decide_eq_true hsame,
        hkind.symm, htable.symm, hsource.symm⟩

end Reading

/-! ## Sets of rows that match -/

section Matching

variable [Interpreter] [Sha256] [JsonDecoder]

/-- The manifest of the case, which is read of the first row. -/
def manifestOf (rows : List ReplayRow) : Option Mapping :=
  rows.head?.bind fun row => contentMapping row.evidenceManifest

/-- The canonical text of a manifest, and of a content, tells it from the ones it is compared
with. -/
structure CanonicalTexts (thenRows nowRows : List ReplayRow) : Prop where
  manifests : ∀ m ∈ manifestOf thenRows, ∀ m' ∈ manifestOf nowRows,
    canonicalJsonBytes (.dict m) = canonicalJsonBytes (.dict m') → m = m'
  contents : ∀ row ∈ thenRows, ∀ row' ∈ nowRows,
    ∀ c ∈ contentMapping (evidenceContent row), ∀ c' ∈ contentMapping (evidenceContent row'),
      canonicalJsonBytes (.dict c) = canonicalJsonBytes (.dict c') → c = c'

/-- Two pieces of evidence are the same, their hashes up to the name of the algorithm. -/
structure SameEvidence (e e' : EvidenceRow) : Prop where
  content : contentMapping e.content = contentMapping e'.content
  contentSha256 : bareHash e.contentSha256 = bareHash e'.contentSha256
  kind : e.kind = e'.kind
  sourceTable : e.sourceTable = e'.sourceTable
  sourceId : e.sourceId = e'.sourceId
  isSealed : e.sealed = e'.sealed

/-- Two clauses are the same, their rates as numbers. -/
structure SameClause (t t' : TariffColumns) : Prop where
  tariffRate : ∃ rate rate', decimalOf (column t.tariffRate).text = some rate ∧
    decimalOf (column t'.tariffRate).text = some rate' ∧ Receipt.equal rate rate' = true
  clauseSha256 : bareHash t.clauseSha256 = bareHash t'.clauseSha256
  sourceSha256 : bareHash t.snapshotSourceSha256 = bareHash t'.snapshotSourceSha256
  versionLabel : t.versionLabel = t'.versionLabel

/-- Two rows have the same evidence, and the same clause or both none. -/
structure SameRow (row row' : ReplayRow) : Prop where
  evidence : ∃ e e', row.evidence = some e ∧ row'.evidence = some e' ∧ SameEvidence e e'
  tariff : Option.Rel SameClause row.tariff row'.tariff

omit [Sha256] in
theorem map_idOf_eq {items : ManifestItems} {rows : List ReplayRow} {ids : List String}
    (h : Forall₂ (RowRead items) rows ids) : rows.map idOf = ids.map some := by
  induction h with
  | nil => rfl
  | cons hread _ ih =>
      rw [List.map_cons, List.map_cons, ih]
      unfold idOf
      rw [hread.named]
      rfl

omit [Interpreter] [JsonDecoder] in
theorem evidenceHash_injective {m m' : Mapping} (hfree : CollisionFree)
    (h : evidenceHash m = evidenceHash m') :
    canonicalJsonBytes (.dict m) = canonicalJsonBytes (.dict m') := by
  unfold evidenceHash AuthoritySealRepository.prefixedSha256 at h
  exact hexdigest_injective hfree ((String.append_right_inj _).mp h)

omit [Interpreter] [Sha256] [JsonDecoder] in
/-- Two lists of distinct ids that cover the same items are one list up to the order. -/
theorem perm_of_sameIds {ids ids' : List String} {items : ManifestItems} (h : ids.Nodup)
    (h' : ids'.Nodup) (hcovers : sameIds ids items = true) (hcovers' : sameIds ids' items = true) :
    ids.Perm ids' := by
  unfold sameIds at hcovers hcovers'
  simp only [Bool.and_eq_true, List.all_eq_true, decide_eq_true_eq] at hcovers hcovers'
  refine (List.perm_ext_iff_of_nodup h h').mpr fun id => ⟨fun hid => ?_, fun hid => ?_⟩
  · exact hcovers'.2 id (hcovers.1 id hid)
  · exact hcovers.2 id (hcovers'.1 id hid)

/-- A row that was read and bound has evidence that is bound to the item of its id. -/
theorem exists_bound {items : ManifestItems} {rows : List ReplayRow} {ids : List String}
    {row : ReplayRow} (hreads : Forall₂ (RowRead items) rows ids)
    (hbound : ∀ row ∈ rows, RowBound items row) (hrow : row ∈ rows) :
    ∃ id e item, idOf row = some id ∧ row.evidence = some e ∧ itemOf items id = .ok item ∧
      replayBinding e item = true := by
  obtain ⟨id, _, hread⟩ := Pointwise.exists_of_mem hreads hrow
  obtain ⟨item, hitem⟩ := hread.listed
  have hid : idOf row = some id := by
    unfold idOf
    rw [hread.named]
    rfl
  have hintact := hbound row hrow id hid item hitem
  unfold rowIntact at hintact
  obtain ⟨e, he, hbinding⟩ := (Option.any_eq_true _ _).mp hintact
  exact ⟨id, e, item, hid, he, hitem, hbinding⟩

/-- Rows that are bound to one item have the same evidence. -/
theorem sameEvidence_of_bound {thenRows nowRows : List ReplayRow} {row row' : ReplayRow}
    {e e' : EvidenceRow} {item : Mapping} (hcanonical : CanonicalTexts thenRows nowRows)
    (hrow : row ∈ thenRows) (hrow' : row' ∈ nowRows) (he : row.evidence = some e)
    (he' : row'.evidence = some e') (hbound : replayBinding e item = true)
    (hbound' : replayBinding e' item = true) : SameEvidence e e' := by
  obtain ⟨content, hcontent, hsealed, hhash, htext, hkind, htable, hsource⟩ :=
    replayBinding_ok hbound
  obtain ⟨content', hcontent', hsealed', hhash', htext', hkind', htable', hsource'⟩ :=
    replayBinding_ok hbound'
  have hread : contentMapping (evidenceContent row) = some content := by
    unfold evidenceContent
    rw [he]
    exact hcontent
  have hread' : contentMapping (evidenceContent row') = some content' := by
    unfold evidenceContent
    rw [he']
    exact hcontent'
  have hsame : content = content' :=
    hcanonical.contents row hrow row' hrow' content hread content' hread'
      (htext.symm.trans htext')
  exact
    { content := by rw [hcontent, hcontent', hsame]
      contentSha256 := by rw [hhash, hhash', hsame]
      kind := hkind.trans hkind'.symm
      sourceTable := htable.trans htable'.symm
      sourceId := hsource.trans hsource'.symm
      isSealed := hsealed.trans hsealed'.symm }

/-- The clauses of the two cited rows are the same when the views say so. -/
theorem sameClause_of_views {request request' : Request} {rows rows' : List ReplayRow}
    {view view' : TemporalReplayView} {m m' content content' : Mapping}
    {items items' : ManifestItems} {ids ids' : List String} {cited cited' : ReplayRow}
    {tariff tariff' : TariffView}
    (h : ViewRead request rows view m items ids cited content tariff)
    (h' : ViewRead request' rows' view' m' items' ids' cited' content' tariff')
    (hrate : Receipt.equal view.tariffRate view'.tariffRate = true)
    (hlabel : view.versionLabel = view'.versionLabel)
    (hclause : view.clauseSha256 = view'.clauseSha256)
    (hsource : view.sourceSha256 = view'.sourceSha256) :
    Option.Rel SameClause cited.tariff cited'.tariff := by
  obtain ⟨t, ht, hrate₁, hlabel₁, hclause₁, hsource₁⟩ := readTariff_ok h.tariffRead
  obtain ⟨t', ht', hrate₂, hlabel₂, hclause₂, hsource₂⟩ := readTariff_ok h'.tariffRead
  rw [h.tariffRate, h'.tariffRate] at hrate
  rw [h.versionLabel, h'.versionLabel, hlabel₁, hlabel₂] at hlabel
  rw [h.clauseSha256, h'.clauseSha256, hclause₁, hclause₂] at hclause
  rw [h.sourceSha256, h'.sourceSha256, hsource₁, hsource₂] at hsource
  rw [ht, ht']
  exact .some ⟨⟨_, _, hrate₁, hrate₂, hrate⟩, hclause, hsource, hlabel⟩

omit [Interpreter] [Sha256] [JsonDecoder] in
/-- Evidence of another source has no clause. -/
theorem tariff_eq_none {row : ReplayRow} {e : EvidenceRow} (he : row.evidence = some e)
    (hother : e.sourceTable ≠ "tariff_clauses") : row.tariff = none := by
  cases htariff : row.tariff with
  | none => rfl
  | some t =>
      obtain ⟨e₀, he₀, htable⟩ := row.joined (by rw [htariff]; rfl)
      rw [he] at he₀
      obtain rfl := Option.some.inj he₀
      exact absurd htable hother

omit [Interpreter] [Sha256] [JsonDecoder] in
theorem orUnavailable_ok {α : Type} (message : String) (a : α) :
    orUnavailable message (.ok a) = .ok a := rfl

omit [Interpreter] [Sha256] [JsonDecoder] in
theorem orUnavailable_eq_ok {α : Type} {message : String} {outcome : Except MemoryError α} {a : α}
    (h : orUnavailable message outcome = .ok a) : outcome = .ok a := by
  cases outcome with
  | ok found => exact congrArg Except.ok (Except.ok.inj h)
  | error error => cases h

/-- What a replay that gives a response has compared. -/
theorem replayCase_ok {tenantId caseId : String} {nowRows thenRows : List ReplayRow}
    {retained : Bool} {response : ReplayResponse}
    (h : replayCase tenantId caseId nowRows thenRows retained = .ok response) :
    ∃ request request' historical current, request.historical = true ∧
      validateReplayRows request thenRows = .ok historical ∧
      validateReplayRows request' nowRows = .ok current ∧
      response.tamperCheckMatch = viewsMatch historical current := by
  cases nowRows with
  | nil => cases h
  | cons first rows =>
      rw [replayCase] at h
      split at h
      · cases h
      · obtain ⟨sealHlc, _, h⟩ := bind_eq_ok.mp h
        obtain ⟨current, hcurrent, h⟩ := bind_eq_ok.mp h
        split at h
        · obtain ⟨historical, hhistorical, h⟩ := bind_eq_ok.mp h
          have hresponse := orUnavailable_eq_ok h
          unfold buildReplayResponse at hresponse
          obtain ⟨_, _, hresponse⟩ := bind_eq_ok.mp hresponse
          obtain ⟨_, _, hresponse⟩ := bind_eq_ok.mp hresponse
          obtain rfl := Except.ok.inj hresponse
          exact ⟨_, _, historical, current, rfl, orUnavailable_eq_ok hhistorical,
            orUnavailable_eq_ok hcurrent, rfl⟩
        · cases h

/-- A replay that reports a match, for every two sets of rows. -/
theorem match_sound {tenantId caseId : String} {nowRows thenRows : List ReplayRow}
    {retained : Bool} {response : ReplayResponse} (hfree : CollisionFree)
    (hcanonical : CanonicalTexts thenRows nowRows)
    (hrun : replayCase tenantId caseId nowRows thenRows retained = .ok response)
    (hmatch : response.tamperCheckMatch = true) :
    (∃ m, manifestOf thenRows = some m ∧ manifestOf nowRows = some m) ∧
      (thenRows.map idOf).Perm (nowRows.map idOf) ∧
      ∀ row ∈ thenRows, ∀ row' ∈ nowRows, idOf row = idOf row' → SameRow row row' := by
  obtain ⟨request, request', historical, current, hhistorical, hthen, hnow, hviews⟩ :=
    replayCase_ok hrun
  obtain ⟨m, items, ids, cited, content, tariff, h⟩ := validateReplayRows_ok hthen
  obtain ⟨m', items', ids', cited', content', tariff', h'⟩ := validateReplayRows_ok hnow
  rw [hviews] at hmatch
  unfold viewsMatch at hmatch
  simp only [Bool.and_eq_true, decide_eq_true_eq] at hmatch
  obtain ⟨⟨⟨⟨⟨⟨⟨hintact', hrate⟩, _⟩, hlabel⟩, hhash⟩, _⟩, hclause⟩, hsource⟩ := hmatch
  obtain ⟨hstored, hbound⟩ := h.intact (h.historical hhistorical)
  obtain ⟨_, hbound'⟩ := h'.intact hintact'
  have hmanifest : manifestOf thenRows = some m := by
    obtain ⟨first, hfirst, hread⟩ := h.manifestRead
    unfold manifestOf
    rw [hfirst]
    exact hread
  have hmanifest' : manifestOf nowRows = some m' := by
    obtain ⟨first, hfirst, hread⟩ := h'.manifestRead
    unfold manifestOf
    rw [hfirst]
    exact hread
  have hsame : m = m' := by
    rw [hstored, h'.recomputed] at hhash
    exact hcanonical.manifests m hmanifest m' hmanifest' (evidenceHash_injective hfree hhash)
  subst hsame
  have hitems : items = items' := by
    obtain ⟨values, hvalues, hindexed⟩ := h.indexed
    obtain ⟨values', hvalues', hindexed'⟩ := h'.indexed
    rw [hvalues] at hvalues'
    obtain rfl := Except.ok.inj hvalues'
    rw [hindexed] at hindexed'
    exact Except.ok.inj hindexed'
  subst hitems
  refine ⟨⟨m, hmanifest, hmanifest'⟩, ?_, fun row hrow row' hrow' hid => ?_⟩
  · rw [map_idOf_eq h.reads, map_idOf_eq h'.reads]
    exact (perm_of_sameIds h.distinct h'.distinct h.covers h'.covers).map some
  · obtain ⟨id, e, item, hrowId, he, hitem, hbinding⟩ := exists_bound h.reads hbound hrow
    obtain ⟨id', e', item', hrowId', he', hitem', hbinding'⟩ :=
      exists_bound h'.reads hbound' hrow'
    rw [hrowId, hrowId'] at hid
    obtain rfl := Option.some.inj hid
    rw [hitem] at hitem'
    obtain rfl := Except.ok.inj hitem'
    have hevidence := sameEvidence_of_bound hcanonical hrow hrow' he he' hbinding hbinding'
    refine ⟨⟨e, e', he, he', hevidence⟩, ?_⟩
    by_cases htable : e.sourceTable = "tariff_clauses"
    · have hcites : citesTariff row = true := by
        unfold citesTariff
        rw [he]
        exact decide_eq_true htable
      have hcites' : citesTariff row' = true := by
        unfold citesTariff
        rw [he']
        exact decide_eq_true (hevidence.sourceTable ▸ htable)
      rw [h.cites row hrow hcites, h'.cites row' hrow' hcites']
      exact sameClause_of_views h h' hrate hlabel hclause hsource
    · rw [tariff_eq_none he htable, tariff_eq_none he' (hevidence.sourceTable ▸ htable)]
      exact .none

end Matching

/-! ## A hash that is given the name of its algorithm -/

section Case
open RowOrders (canonicalUuid_idEnding idEnding ok_bind requiredText_evidenceHash
  requiredText_of_head require_true)

local instance replayInterpreter : Interpreter := Claims.asciiInterpreter
local instance replayDecoder : JsonDecoder := SealRuns.noTexts

/-- The clause and its snapshot. -/
def clauseColumns : TariffColumns where
  clauseId := idEnding "1"
  tariffRate := some "250.00"
  snapshotId := idEnding "2"
  clauseSha256 := "edf16aa83bc9e840f06e0fc8a22d10ebf2581780f5a0e7a84a7b3232af6d9a0d"
  snapshotSourceSha256 := "c03242a81561417c47e2446aaf4dfac5537f2039da4bb7c98bbc135cda38c510"
  versionLabel := "v2026-04-03"

def tariffContent : Mapping :=
  [("clause_id", .str (idEnding "1")), ("capture_id", .str (idEnding "2")),
    ("rate_amount", .str "250.00"),
    ("clause_sha256", .str clauseColumns.clauseSha256),
    ("source_sha256", .str clauseColumns.snapshotSourceSha256)]

/-- The anchor of the seal. -/
def anchor : String := "1784578667004573103.0000000000"

section Hashes

variable [Sha256]

def tariffItem : Mapping :=
  [("evidence_id", .str (idEnding "5")), ("kind", .str "receipt"),
    ("source_table", .str "tariff_clauses"), ("source_id", .str (idEnding "1")),
    ("content_sha256", .str (contentHash tariffContent)), ("content", .dict tariffContent)]

def oneItem : Mapping :=
  [("manifest_version", .int 1), ("tenant_id", .str (idEnding "3")),
    ("case_id", .str (idEnding "4")), ("evidence", .list [.dict tariffItem])]

/-- The piece of evidence, with its hash as it is stored. -/
def evidenceWith (stored : String) : EvidenceRow where
  id := idEnding "5"
  caseId := idEnding "4"
  kind := "receipt"
  sourceTable := "tariff_clauses"
  sourceId := idEnding "1"
  content := .dict tariffContent
  contentSha256 := stored
  sealed := true

/-- A row of the case in a state. -/
def replayRow (state stored : String) : ReplayRow where
  tenantId := idEnding "3"
  caseId := idEnding "4"
  caseState := state
  sealedTxnTs := some anchor
  evidenceHash := some (evidenceHash oneItem)
  evidenceManifest := .dict oneItem
  manifestVersion := some 1
  evidence := some (evidenceWith stored)
  tariff := some clauseColumns
  joined := fun _ => ⟨evidenceWith stored, rfl, rfl⟩

/-! The steps of a validation, whatever the hash function. -/

omit [Sha256] in
theorem canonicalHlcLiteral_anchor : canonicalHlcLiteral (.str anchor) = .ok anchor := by
  have hpattern : hlcPattern anchor.toList = true := by decide +kernel
  have hpositive : (anchor.toList.any fun c => c.isDigit && c ≠ '0') = true := by decide +kernel
  refine bind_eq_ok.mpr ⟨(), require_eq_ok.mpr hpattern, ?_⟩
  exact bind_eq_ok.mpr ⟨(), require_eq_ok.mpr hpositive, rfl⟩

/-- The checks of the case pass for a filed case, and for a later state of what is now. -/
theorem checkCase_replayRow {historical : Bool} {state stored : String}
    (hstate : (historical, state) ∈ [(true, "FILED"), (false, "CONTESTED")]) :
    checkCase ⟨idEnding "3", idEnding "4", some anchor, historical⟩ (replayRow state stored) =
      .ok (idEnding "3", idEnding "4", state) := by
  have htenant (field : String) :
      canonicalUuid (.str (idEnding "3")) field = .ok (idEnding "3") :=
    canonicalUuid_idEnding (by decide) field
  have hcase (field : String) :
      canonicalUuid (.str (idEnding "4")) field = .ok (idEnding "4") :=
    canonicalUuid_idEnding (by decide) field
  rcases List.mem_pair.mp hstate with heq | heq
  · obtain ⟨rfl, rfl⟩ := Prod.mk.inj heq
    have htext : requiredText (.str "FILED") "case_state" = .ok "FILED" :=
      requiredText_of_head rfl rfl
    simp only [checkCase, replayRow, htenant, hcase, ok_bind, decide_true, require_true]
    rw [htext]
    rfl
  · obtain ⟨rfl, rfl⟩ := Prod.mk.inj heq
    have htext : requiredText (.str "CONTESTED") "case_state" = .ok "CONTESTED" :=
      requiredText_of_head rfl rfl
    simp only [checkCase, replayRow, htenant, hcase, ok_bind, decide_true, require_true]
    rw [htext]
    rfl

theorem checkHead_replayRow {historical : Bool} {state stored : String}
    (hstate : (historical, state) ∈ [(true, "FILED"), (false, "CONTESTED")]) :
    checkHead ⟨idEnding "3", idEnding "4", some anchor, historical⟩ (replayRow state stored) =
      .ok { tenantId := idEnding "3"
            caseId := idEnding "4"
            state := state
            sealedTxnTs := anchor
            manifest := oneItem
            storedEvidenceHash := evidenceHash oneItem
            items := [(idEnding "5", tariffItem)] } := by
  have htenant (field : String) :
      canonicalUuid (.str (idEnding "3")) field = .ok (idEnding "3") :=
    canonicalUuid_idEnding (by decide) field
  have hcase (field : String) :
      canonicalUuid (.str (idEnding "4")) field = .ok (idEnding "4") :=
    canonicalUuid_idEnding (by decide) field
  have hevidence (field : String) :
      canonicalUuid (.str (idEnding "5")) field = .ok (idEnding "5") :=
    canonicalUuid_idEnding (by decide) field
  have hanchor : checkAnchor ⟨idEnding "3", idEnding "4", some anchor, historical⟩
      (replayRow state stored) = .ok anchor := by
    simp only [checkAnchor, replayRow, column, canonicalHlcLiteral_anchor, ok_bind, decide_true,
      require_true]
  have hstored : requiredText (column (replayRow state stored).evidenceHash) "evidence_hash" =
      .ok (evidenceHash oneItem) :=
    requiredText_evidenceHash rfl _ _
  have hmanifest : mapping (replayRow state stored).evidenceManifest "evidence_manifest" =
      .ok oneItem := rfl
  have hversion : CockroachMcp.equalsInt 1 (CaseSeal.get oneItem "manifest_version") = true :=
    rfl
  have htenantId : CaseSeal.get oneItem "tenant_id" = .str (idEnding "3") := rfl
  have hcaseId : CaseSeal.get oneItem "case_id" = .str (idEnding "4") := rfl
  have hvalues : evidenceList oneItem = .ok [.dict tariffItem] := rfl
  have hevidenceId : CaseSeal.get tariffItem "evidence_id" = .str (idEnding "5") := rfl
  have hitems : indexItems [] [.dict tariffItem] = .ok [(idEnding "5", tariffItem)] := by
    simp only [indexItems, mapping, ok_bind, hevidenceId, hevidence, List.map_nil,
      List.not_mem_nil, not_false_eq_true, decide_true, require_true, List.nil_append]
  have hfirst : (replayRow state stored).manifestVersion = some 1 := rfl
  unfold checkHead
  simp only [checkCase_replayRow hstate, hanchor, hstored, hmanifest, hversion, htenantId,
    hcaseId, htenant, hcase, hvalues, hitems, hfirst, ok_bind, decide_true, require_true]

theorem evidenceId_replayRow (state stored : String) :
    canonicalUuid ((replayRow state stored).ofEvidence (·.id)) "evidence_id" =
      .ok (idEnding "5") :=
  canonicalUuid_idEnding (by decide) _

theorem idOf_replayRow (state stored : String) :
    idOf (replayRow state stored) = some (idEnding "5") := by
  unfold idOf
  rw [evidenceId_replayRow]
  rfl

theorem rowIntact_replayRow {state stored : String}
    (h : storedContentHashMatches stored (contentHash tariffContent) = true) :
    rowIntact (replayRow state stored) tariffItem = true := by
  have hself : storedContentHashMatches (contentHash tariffContent)
      (contentHash tariffContent) = true :=
    Bool.or_eq_true_iff.mpr (.inl (decide_eq_true rfl))
  have hcontent : contentMapping (evidenceWith stored).content = some tariffContent := rfl
  have hsame : sameJson (CaseSeal.get tariffItem "content") (.dict tariffContent) = true :=
    decide_eq_true rfl
  change replayBinding (evidenceWith stored) tariffItem = true
  unfold replayBinding
  rw [hcontent]
  dsimp only
  rw [show storedContentHashMatches (evidenceWith stored).contentSha256
      (contentHash tariffContent) = true from h,
    show (CaseSeal.get tariffItem "content_sha256").text = contentHash tariffContent from rfl,
    hself, hsame]
  rfl

omit [Sha256] in
theorem checkCaseFields_self (row : ReplayRow) : checkCaseFields row row = .ok () := by
  simp [checkCaseFields, caseFields, sameJson]

theorem walkRows_replayRow {state stored : String}
    (h : storedContentHashMatches stored (contentHash tariffContent) = true) :
    walkRows (replayRow state stored) [(idEnding "5", tariffItem)] ⟨[], true, []⟩
        [replayRow state stored] =
      .ok ⟨[idEnding "5"], true, [(replayRow state stored, tariffContent)]⟩ := by
  have hitem : itemOf [(idEnding "5", tariffItem)] (idEnding "5") = .ok tariffItem := rfl
  have hcontent : mapping (evidenceContent (replayRow state stored)) "evidence_content" =
      .ok tariffContent := rfl
  have hcites : citesTariff (replayRow state stored) = true := rfl
  simp only [walkRows, walkRow, checkCaseFields_self, evidenceId_replayRow, hitem, hcontent, hcites,
    rowIntact_replayRow h, ok_bind, List.not_mem_nil, not_false_eq_true, decide_true,
    require_true, List.nil_append, Bool.and_self, if_true]

omit [Sha256] in
theorem decimal_rate (field : String) :
    decimal (.str "250.00") field = .ok (.finite false 25000 (-2)) := by
  have hrate : decimalOf "250.00" = some (.finite false 25000 (-2)) := by decide +kernel
  unfold decimal
  dsimp only [Value.text]
  rw [hrate]

omit [Sha256] in
/-- The two hashes of the clause. -/
theorem sha256_of_mem {text : String} (field : String)
    (h : text ∈ [clauseColumns.clauseSha256, clauseColumns.snapshotSourceSha256]) :
    sha256 (.str text) field = .ok text := by
  have hbare : bareHash text = text ∧ sha256Pattern text = true := by
    rcases List.mem_pair.mp h with rfl | rfl
    · exact ⟨by decide +kernel, by decide +kernel⟩
    · exact ⟨by decide +kernel, by decide +kernel⟩
  have hread : requiredText (.str text) field = .ok text := by
    rcases List.mem_pair.mp h with rfl | rfl
    · exact requiredText_of_head rfl rfl
    · exact requiredText_of_head rfl rfl
  simp only [sha256, hread, ok_bind, hbare.1, hbare.2, require_true]

theorem readTariff_replayRow {state stored : String} :
    readTariff (replayRow state stored) tariffContent =
      .ok { tariffRate := .finite false 25000 (-2)
            sealedRate := .finite false 25000 (-2)
            versionLabel := clauseColumns.versionLabel
            clauseSha256 := clauseColumns.clauseSha256
            sourceSha256 := clauseColumns.snapshotSourceSha256
            intact := true } := by
  have hclause (field : String) :
      canonicalUuid (.str (idEnding "1")) field = .ok (idEnding "1") :=
    canonicalUuid_idEnding (by decide) field
  have hcapture (field : String) :
      canonicalUuid (.str (idEnding "2")) field = .ok (idEnding "2") :=
    canonicalUuid_idEnding (by decide) field
  have hsourceId : (replayRow state stored).ofEvidence (·.sourceId) = .str (idEnding "1") := rfl
  have hclauseId : CaseSeal.get tariffContent "clause_id" = .str (idEnding "1") := rfl
  have hcaptureId : CaseSeal.get tariffContent "capture_id" = .str (idEnding "2") := rfl
  have hrate : CaseSeal.get tariffContent "rate_amount" = .str "250.00" := rfl
  have hclauseSha : CaseSeal.get tariffContent "clause_sha256" =
      .str clauseColumns.clauseSha256 := rfl
  have hsourceSha : CaseSeal.get tariffContent "source_sha256" =
      .str clauseColumns.snapshotSourceSha256 := rfl
  have hlabel : requiredText (.str clauseColumns.versionLabel) "version_label" =
      .ok clauseColumns.versionLabel :=
    requiredText_of_head rfl rfl
  have hclauseText (field : String) : sha256 (.str clauseColumns.clauseSha256) field =
      .ok clauseColumns.clauseSha256 :=
    sha256_of_mem field List.mem_cons_self
  have hsourceText (field : String) : sha256 (.str clauseColumns.snapshotSourceSha256) field =
      .ok clauseColumns.snapshotSourceSha256 :=
    sha256_of_mem field (List.mem_cons_of_mem _ List.mem_cons_self)
  have hclauseColumn : (replayRow state stored).ofTariff (fun t => some t.clauseId) =
      .str (idEnding "1") := rfl
  have hsnapshotColumn : (replayRow state stored).ofTariff (fun t => some t.snapshotId) =
      .str (idEnding "2") := rfl
  have hrateColumn : (replayRow state stored).ofTariff (·.tariffRate) = .str "250.00" := rfl
  have hlabelColumn : (replayRow state stored).ofTariff (fun t => some t.versionLabel) =
      .str clauseColumns.versionLabel := rfl
  have hclauseShaColumn : (replayRow state stored).ofTariff (fun t => some t.clauseSha256) =
      .str clauseColumns.clauseSha256 := rfl
  have hsourceShaColumn :
      (replayRow state stored).ofTariff (fun t => some t.snapshotSourceSha256) =
        .str clauseColumns.snapshotSourceSha256 := rfl
  have hequal : Receipt.equal (.finite false 25000 (-2)) (.finite false 25000 (-2)) = true := by
    decide
  simp only [readTariff, hsourceId, hclauseColumn, hsnapshotColumn, hrateColumn, hlabelColumn,
    hclauseShaColumn, hsourceShaColumn, hclauseId, hcaptureId, hrate, hclauseSha, hsourceSha,
    hclause, hcapture, decimal_rate, hlabel, hclauseText, hsourceText, ok_bind, hequal,
    decide_true, Bool.and_self]

/-- The view of the row, in a state. -/
def replayView (state : String) : TemporalReplayView where
  tenantId := idEnding "3"
  caseId := idEnding "4"
  state := state
  sealedTxnTs := anchor
  tariffRate := .finite false 25000 (-2)
  versionLabel := clauseColumns.versionLabel
  storedEvidenceHash := evidenceHash oneItem
  recomputedEvidenceHash := evidenceHash oneItem
  sealedRate := .finite false 25000 (-2)
  sealedContentSha256 := "sha256:" ++ contentHash tariffContent
  clauseSha256 := clauseColumns.clauseSha256
  sourceSha256 := clauseColumns.snapshotSourceSha256
  currentBindingsIntact := true

theorem validate_replayRow {historical : Bool} {state stored : String}
    (hstate : (historical, state) ∈ [(true, "FILED"), (false, "CONTESTED")])
    (h : storedContentHashMatches stored (contentHash tariffContent) = true) :
    validateReplayRows ⟨idEnding "3", idEnding "4", some anchor, historical⟩
        [replayRow state stored] =
      .ok (replayView state) := by
  have hcovers : sameIds [idEnding "5"] [(idEnding "5", tariffItem)] = true := by
    simp [sameIds]
  have hintact : decide (evidenceHash oneItem = evidenceHash oneItem) = true := decide_eq_true rfl
  rw [validateReplayRows, checkHead_replayRow hstate, ok_bind]
  dsimp only
  rw [hintact, walkRows_replayRow h, ok_bind]
  dsimp only
  rw [hcovers, require_true, ok_bind]
  dsimp only [tariffCandidate]
  rw [ok_bind]
  dsimp only
  rw [readTariff_replayRow, ok_bind]
  dsimp only
  rw [Bool.and_self, Bool.not_true, Bool.and_false, Bool.not_false, require_true, ok_bind]
  rfl

theorem viewsMatch_replayView (state state' : String) :
    viewsMatch (replayView state) (replayView state') = true := by
  have hequal : Receipt.equal (.finite false 25000 (-2)) (.finite false 25000 (-2)) = true := by
    decide
  simp only [viewsMatch, replayView, hequal, decide_true, Bool.and_self]

omit [Sha256] in
/-- Two views of one case and one seal make a response. -/
theorem buildReplayResponse_of_same (historical current : TemporalReplayView)
    (htenant : historical.tenantId = current.tenantId) (hcase : historical.caseId = current.caseId)
    (hanchor : historical.sealedTxnTs = current.sealedTxnTs) : ∃ response,
      buildReplayResponse historical current = .ok response ∧
        response.tamperCheckMatch = viewsMatch historical current := by
  unfold buildReplayResponse
  rw [decide_eq_true htenant, decide_eq_true hcase, decide_eq_true hanchor, Bool.and_self,
    require_true, ok_bind, require_true, ok_bind]
  exact ⟨_, rfl, rfl⟩

/-- The replay of the case reports a match. -/
theorem replayCase_replayRow {stored stored' : String}
    (h : storedContentHashMatches stored (contentHash tariffContent) = true)
    (h' : storedContentHashMatches stored' (contentHash tariffContent) = true) :
    ∃ response, replayCase (idEnding "3") (idEnding "4") [replayRow "CONTESTED" stored']
        [replayRow "FILED" stored] true = .ok response ∧ response.tamperCheckMatch = true := by
  have hthen : validateReplayRows ⟨idEnding "3", idEnding "4", some anchor, true⟩
      [replayRow "FILED" stored] = .ok (replayView "FILED") :=
    validate_replayRow List.mem_cons_self h
  have hnow : validateReplayRows ⟨idEnding "3", idEnding "4", some anchor, false⟩
      [replayRow "CONTESTED" stored'] = .ok (replayView "CONTESTED") :=
    validate_replayRow (List.mem_cons_of_mem _ List.mem_cons_self) h'
  have hanchor : canonicalHlcLiteral
      (column (replayRow "CONTESTED" stored').sealedTxnTs) = .ok anchor :=
    canonicalHlcLiteral_anchor
  have hsealed : ¬((replayRow "CONTESTED" stored').caseState ∉ sealedCaseStates ||
      (replayRow "CONTESTED" stored').sealedTxnTs.isNone) = true := by
    change ¬("CONTESTED" ∉ sealedCaseStates || (some anchor).isNone) = true
    decide
  obtain ⟨response, hresponse, hmatch⟩ :=
    buildReplayResponse_of_same (replayView "FILED") (replayView "CONTESTED") rfl rfl rfl
  refine ⟨response, ?_, hmatch.trans (viewsMatch_replayView _ _)⟩
  rw [replayCase, if_neg hsealed, hanchor, orUnavailable_ok, ok_bind, hnow, orUnavailable_ok,
    ok_bind, if_pos rfl, hthen, orUnavailable_ok, ok_bind, hresponse, orUnavailable_ok]

end Hashes

/-- The bytes whose digests a replay of the case compares. -/
def replayInputs : List Bytes :=
  [canonicalJsonBytes (.dict tariffContent), canonicalJsonBytes (.dict (@oneItem .standard))]

/-- The bytes without the text between, which is slow to evaluate. -/
theorem canonicalJsonBytes_eq : canonicalJsonBytes = fun value =>
    (Value.render (Value.sortKeys value)).flatMap String.utf8EncodeChar := by
  funext value
  unfold canonicalJsonBytes Value.canonicalText
  rw [encode_ofList]

theorem nodup_replayInputs : (replayInputs.map standardDigest).Nodup := by
  unfold replayInputs oneItem tariffItem contentHash
  rw [canonicalJsonBytes_eq]
  decide +kernel

local instance replaySha : Sha256 := .agreeingOn replayInputs

theorem replay_collisionFree : CollisionFree := agreeingOn_collisionFree nodup_replayInputs

/-- A hash with the name of its algorithm in front is the same hash. -/
theorem matches_named : storedContentHashMatches ("sha256:" ++ contentHash tariffContent)
    (contentHash tariffContent) = true :=
  Bool.or_eq_true_iff.mpr (.inr (decide_eq_true rfl))

theorem matches_bare : storedContentHashMatches (contentHash tariffContent)
    (contentHash tariffContent) = true :=
  Bool.or_eq_true_iff.mpr (.inl (decide_eq_true rfl))

/-- The rows of a case at its seal, and the rows of now with the hash in its other form. -/
def thenRows : List ReplayRow := [replayRow "FILED" (contentHash tariffContent)]

def nowRows : List ReplayRow := [replayRow "CONTESTED" ("sha256:" ++ contentHash tariffContent)]

theorem rows_canonical : CanonicalTexts thenRows nowRows := by
  refine ⟨fun m hm m' hm' _ => ?_, fun row hrow row' hrow' c hc c' hc' _ => ?_⟩
  · exact (Option.some.inj hm).symm.trans (Option.some.inj hm')
  · obtain rfl := List.mem_singleton.mp hrow
    obtain rfl := List.mem_singleton.mp hrow'
    exact (Option.some.inj hc).symm.trans (Option.some.inj hc')

/-- The rows of now are those of the seal, as the replay compares them. -/
theorem match_sound_named :
    (∃ m, manifestOf thenRows = some m ∧ manifestOf nowRows = some m) ∧
      (thenRows.map idOf).Perm (nowRows.map idOf) ∧
      ∀ row ∈ thenRows, ∀ row' ∈ nowRows, idOf row = idOf row' → SameRow row row' := by
  obtain ⟨response, hrun, hmatch⟩ := replayCase_replayRow matches_bare matches_named
  exact match_sound replay_collisionFree rows_canonical hrun hmatch

/-- A replay reports a match although a stored hash has changed its form. -/
theorem renamed_hash_matches : CollisionFree ∧ CanonicalTexts thenRows nowRows ∧
    (∃ response, replayCase (idEnding "3") (idEnding "4") nowRows thenRows true = .ok response ∧
      response.tamperCheckMatch = true) ∧
    ∃ row ∈ thenRows, ∃ row' ∈ nowRows, ∃ e e', idOf row = idOf row' ∧
      row.evidence = some e ∧ row'.evidence = some e' ∧ e.contentSha256 ≠ e'.contentSha256 := by
  refine ⟨replay_collisionFree, rows_canonical, replayCase_replayRow matches_bare matches_named,
    ?_⟩
  have hids : idOf (replayRow "FILED" (contentHash tariffContent)) =
      idOf (replayRow "CONTESTED" ("sha256:" ++ contentHash tariffContent)) :=
    (idOf_replayRow _ _).trans (idOf_replayRow _ _).symm
  refine ⟨_, List.mem_singleton_self _, _, List.mem_singleton_self _,
    evidenceWith (contentHash tariffContent),
    evidenceWith ("sha256:" ++ contentHash tariffContent), hids, rfl, rfl, ?_⟩
  intro hsame
  have hlength := congrArg String.length hsame
  change (contentHash tariffContent).length =
    ("sha256:" ++ contentHash tariffContent).length at hlength
  rw [String.length_append] at hlength
  have hname : "sha256:".length = 7 := rfl
  omega

end Case

end Tally.Analysis.ReplayMatches
