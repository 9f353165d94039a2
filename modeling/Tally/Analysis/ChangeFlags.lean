import Mathlib.Data.String.Basic
import Tally.Analysis.SourceManifests

/-!
# The flag of a change

An ok manifest says whether its body has the hash the pointer had. As long as the pointer is put
behind every ok manifest, it has the hash of the latest one, and the flag is the comparison with
the latest earlier ok manifest. Where the put of the pointer is lost, or an ok manifest is put by
a call that raises, the next flag is the comparison with a manifest further back.
-/

set_option autoImplicit false

namespace Tally.Analysis.ChangeFlags
open Library Library.Prog Library.Sha256 Tally.Model Tally.Model.Capture
open Tally.Analysis.CaptureRaces (IsOk)
open Tally.Analysis.CaptureOutcomes (Outcome BodyPut OkManifest pointed)
open Tally.Analysis.SourceManifests (bodyKey_ne_manifestKey latestKey_ne_manifestKey)

/-! ## Histories -/

/-- The ok manifests of a source by their dates. -/
abbrev History := String → Members → Prop

/-- The latest ok manifest before a date. -/
def LatestBefore (history : History) (date : String) (manifest : Members) : Prop :=
  ∃ earlier, earlier < date ∧ history earlier manifest ∧
    ∀ other members, other < date → history other members → other ≤ earlier

/-- The body has the hash of the latest earlier ok manifest. -/
def Unchanged (history : History) (date : String) (manifest : Members) : Prop :=
  ∃ earlier, LatestBefore history date earlier ∧
    earlier.lookup "sha256" = manifest.lookup "sha256"

def Says (manifest : Members) (flag : String) : Prop :=
  manifest.lookup "sha256_prev_delta" = some (.str flag)

/-- Each ok manifest says whether its body has changed. -/
def Truthful (history : History) : Prop :=
  ∀ date manifest, history date manifest →
    (Says manifest "unchanged" ↔ Unchanged history date manifest) ∧
      (Says manifest "changed" ↔ ¬Unchanged history date manifest)

/-- A hash, if there is one, is that of the last ok manifest. -/
structure Points (history : History) (digest : Option String) : Prop where
  nothing : digest = none → ∀ date manifest, ¬history date manifest
  last : ∀ hash, digest = some hash → ∃ date manifest, history date manifest ∧
    manifest.lookup "sha256" = some (.str hash) ∧
      ∀ other members, history other members → other ≤ date

/-- The history with one more manifest. -/
def History.add (history : History) (date : String) (manifest : Members) : History :=
  fun other members => history other members ∨ other = date ∧ members = manifest

section Adding

variable {history : History} {date : String} {manifest : Members}

/-- What comes later changes nothing for an earlier date. -/
theorem latestBefore_add {other : String} {members : Members} (h : other ≤ date) :
    LatestBefore (history.add date manifest) other members ↔ LatestBefore history other members := by
  unfold LatestBefore History.add
  refine exists_congr fun earlier => ?_
  constructor
  · rintro ⟨hearlier, hmember | ⟨rfl, _⟩, hlast⟩
    · exact ⟨hearlier, hmember, fun later others hlater hin => hlast later others hlater (.inl hin)⟩
    · exact absurd hearlier (not_lt_of_ge h)
  · rintro ⟨hearlier, hmember, hlast⟩
    refine ⟨hearlier, .inl hmember, fun later others hlater hin => ?_⟩
    rcases hin with hin | ⟨rfl, _⟩
    · exact hlast later others hlater hin
    · exact absurd hlater (not_lt_of_ge h)

theorem unchanged_add {other : String} {members : Members} (h : other ≤ date) :
    Unchanged (history.add date manifest) other members ↔ Unchanged history other members := by
  unfold Unchanged
  simp only [latestBefore_add h]

/-- The last ok manifest of all is the latest before a later date. -/
theorem unchanged_iff_points {digest : Option String} {hash : String}
    (hpoints : Points history digest) (hbefore : ∀ other members, history other members →
      other < date)
    (hunique : ∀ other members members', history other members → history other members' →
      members = members') (hhash : manifest.lookup "sha256" = some (.str hash)) :
    Unchanged history date manifest ↔ digest = some hash := by
  constructor
  · rintro ⟨earlier, ⟨day, hday, hmember, hlatest⟩, hsame⟩
    cases hdigest : digest with
    | none => exact absurd hmember (hpoints.nothing hdigest day earlier)
    | some pointedHash =>
        obtain ⟨last, members, hin, hpointed, hlast⟩ := hpoints.last pointedHash hdigest
        obtain rfl : last = day :=
          le_antisymm (hlatest last members (hbefore last members hin) hin)
            (hlast day earlier hmember)
        obtain rfl := hunique last members earlier hin hmember
        rw [hpointed, hhash] at hsame
        rw [Json.str.inj (Option.some.inj hsame)]
  · intro hdigest
    obtain ⟨last, members, hin, hpointed, hlast⟩ := hpoints.last hash hdigest
    refine ⟨members, ⟨last, hbefore last members hin, hin, fun other others _ hother => ?_⟩, ?_⟩
    · exact hlast other others hother
    · rw [hpointed, hhash]

/-- A manifest with the comparison with the hash pointed at keeps a history truthful. -/
theorem Truthful.add {digest : Option String} {hash : String} (h : Truthful history)
    (hpoints : Points history digest)
    (hbefore : ∀ other members, history other members → other < date)
    (hunique : ∀ other members members', history other members → history other members' →
      members = members') (hmanifest : OkManifest digest hash manifest) :
    Truthful (history.add date manifest) := by
  rintro other members (hin | ⟨rfl, rfl⟩)
  · rw [unchanged_add (hbefore other members hin).le]
    exact h other members hin
  · rw [unchanged_add le_rfl, unchanged_iff_points hpoints hbefore hunique hmanifest.sha256]
    have hdelta := hmanifest.delta
    unfold Says
    rw [hdelta]
    by_cases hsame : digest = some hash
    · rw [if_pos hsame]
      simp [hsame]
    · rw [if_neg hsame]
      simp [hsame]

theorem points_add {hash : String}
    (hbefore : ∀ other members, history other members → other < date)
    (hhash : manifest.lookup "sha256" = some (.str hash)) :
    Points (history.add date manifest) (some hash) := by
  refine ⟨fun h => absurd h (Option.some_ne_none hash), fun other hother => ?_⟩
  obtain rfl := Option.some.inj hother
  refine ⟨date, manifest, .inr ⟨rfl, rfl⟩, hhash, ?_⟩
  rintro other members (hin | ⟨rfl, _⟩)
  · exact (hbefore other members hin).le
  · exact le_rfl

end Adding

/-! ## One capture -/

/-- The ok manifests of a source in the store. -/
def okManifests (source : Source) (bucket : Bucket) : History :=
  fun date manifest => bucket (buildManifestKey source.key date) = some (.json manifest) ∧
    IsOk manifest

theorem okManifests_unique {source : Source} {bucket : Bucket} (date : String)
    (a b : Members) (ha : okManifests source bucket date a) (hb : okManifests source bucket date b) :
    a = b :=
  Object.json.inj (Option.some.inj (ha.1.symm.trans hb.1))

theorem manifestKey_date_inj {sourceKey a b : String}
    (h : buildManifestKey sourceKey a = buildManifestKey sourceKey b) : a = b := by
  unfold buildManifestKey buildObjectPrefix at h
  have h := congrArg String.toList h
  simp only [String.toList_append, List.append_assoc] at h
  have h := List.append_cancel_left (List.append_cancel_left (List.append_cancel_left h))
  exact String.toList_inj.mp (List.append_cancel_right h)

section Running

variable [Sha256] [CharacterTables] [PointerDecoder] {source : Source} {now : Moment}
  {occasion : Occasion} {invocation : String} {bucket : Bucket}

/-- The put of the pointer lands, and no ok manifest does by a call that raises. -/
structure Lands (source : Source) (day : Moment × Occasion) : Prop where
  pointer : ∀ members fault, day.2.fault
    (.putObject (buildLatestKey source.key) (.json members)) = some fault → fault.landed = true
  manifest : ∀ members fault, IsOk members → day.2.fault
    (.putNew (buildManifestKey source.key day.1.date) (.json members)) = some fault →
      fault.landed = false

/-- The flags are right, and the pointer has the hash of the last ok manifest. -/
structure Kept (source : Source) (bucket : Bucket) : Prop where
  truthful : Truthful (okManifests source bucket)
  points : Points (okManifests source bucket) (pointed source bucket)

omit [Sha256] [PointerDecoder] in
theorem okManifests_of_bodyPut {date : String} {body : Bucket}
    (h : BodyPut source date bucket body) : okManifests source body = okManifests source bucket := by
  funext day manifest
  unfold okManifests
  rcases h with rfl | ⟨contentType, content, rfl⟩
  · rfl
  · rw [CaptureOutcomes.Bucket.put_of_ne _ _ (bodyKey_ne_manifestKey _ _ _ _ _).symm]

omit [Sha256] [CharacterTables] [PointerDecoder] in
/-- A manifest of a failure is none of them. -/
theorem okManifests_put_failed {date : String} {members : Members} (hfailed : ¬IsOk members)
    (hnew : bucket (buildManifestKey source.key date) = none) :
    okManifests source (bucket.put (buildManifestKey source.key date) (.json members)) =
      okManifests source bucket := by
  funext day manifest
  unfold okManifests
  by_cases hday : day = date
  · subst hday
    rw [CaptureOutcomes.Bucket.put_self, hnew]
    refine propext (iff_of_false ?_ fun h => absurd h.1 (by simp))
    rintro ⟨hsame, hok⟩
    obtain rfl := Object.json.inj (Option.some.inj hsame)
    exact hfailed hok
  · rw [CaptureOutcomes.Bucket.put_of_ne _ _ fun h => hday (manifestKey_date_inj h)]

omit [Sha256] [CharacterTables] [PointerDecoder] in
theorem okManifests_put_ok {date : String} {members : Members} (hok : IsOk members)
    (hnew : bucket (buildManifestKey source.key date) = none) :
    okManifests source (bucket.put (buildManifestKey source.key date) (.json members)) =
      (okManifests source bucket).add date members := by
  funext day manifest
  show (_ ∧ _) = ((bucket (buildManifestKey source.key day) = some (.json manifest) ∧ _) ∨ _)
  by_cases hday : day = date
  · subst hday
    rw [CaptureOutcomes.Bucket.put_self, hnew]
    refine propext ⟨?_, ?_⟩
    · rintro ⟨hsame, _⟩
      exact .inr ⟨rfl, (Object.json.inj (Option.some.inj hsame)).symm⟩
    · rintro (⟨habsent, _⟩ | ⟨_, rfl⟩)
      · exact absurd habsent (by simp)
      · exact ⟨rfl, hok⟩
  · rw [CaptureOutcomes.Bucket.put_of_ne _ _ fun h => hday (manifestKey_date_inj h)]
    simp [hday]

omit [Sha256] [CharacterTables] [PointerDecoder] in
theorem okManifests_put_latest (object : Object) :
    okManifests source (bucket.put (buildLatestKey source.key) object) =
      okManifests source bucket := by
  funext day manifest
  unfold okManifests
  rw [CaptureOutcomes.Bucket.put_of_ne _ _ (latestKey_ne_manifestKey _ _ _).symm]

omit [Sha256] [CharacterTables] in
theorem pointed_put_manifest {date : String} (object : Object) :
    pointed source (bucket.put (buildManifestKey source.key date) object) =
      pointed source bucket := by
  unfold pointed
  rw [CaptureOutcomes.Bucket.put_of_ne _ _ (latestKey_ne_manifestKey _ _ _)]

omit [Sha256] [CharacterTables] in
theorem pointed_put_latest {members : Members} {hash : String}
    (h : members.lookup "sha256" = some (.str hash)) :
    pointed source (bucket.put (buildLatestKey source.key) (.json members)) = some hash := by
  unfold pointed
  rw [CaptureOutcomes.Bucket.put_self, Option.bind_some, pointerSha256, h]

omit [Sha256] [CharacterTables] [PointerDecoder] in
theorem put_manifest_absent {date day : String} {object : Object} (hday : day ≠ date)
    (h : bucket (buildManifestKey source.key day) = none) :
    bucket.put (buildManifestKey source.key date) object (buildManifestKey source.key day) =
      none := by
  rw [CaptureOutcomes.Bucket.put_of_ne _ _ fun hkey => hday (manifestKey_date_inj hkey), h]

omit [Sha256] [PointerDecoder] in
theorem bodyPut_absent {date day : String} {body : Bucket} (hbody : BodyPut source date bucket body)
    (h : bucket (buildManifestKey source.key day) = none) :
    body (buildManifestKey source.key day) = none := by
  rcases hbody with rfl | ⟨contentType, content, rfl⟩
  · exact h
  · rw [CaptureOutcomes.Bucket.put_of_ne _ _ (bodyKey_ne_manifestKey _ _ _ _ _).symm, h]

omit [Sha256] in
/-- A capture puts the manifest of its day only. -/
theorem absent_of_outcome {after : Bucket} (h : Outcome occasion source now bucket after)
    {day : String} (hday : day ≠ now.date)
    (habsent : bucket (buildManifestKey source.key day) = none) :
    after (buildManifestKey source.key day) = none := by
  cases h with
  | idle _ => exact habsent
  | failed body manifest hbody _ _ => exact put_manifest_absent hday (bodyPut_absent hbody habsent)
  | lost body manifest hbody _ => exact bodyPut_absent hbody habsent
  | ok body digest manifest pointer hbody _ _ _ =>
      rw [CaptureOutcomes.Bucket.put_of_ne _ _ (latestKey_ne_manifestKey _ _ _).symm]
      exact put_manifest_absent hday (bodyPut_absent hbody habsent)
  | unpointed body digest manifest hbody _ _ _ =>
      exact put_manifest_absent hday (bodyPut_absent hbody habsent)

omit [Sha256] in
/-- A capture whose puts land keeps the flags and the pointer. -/
theorem Kept.captured {after : Bucket} (h : Kept source bucket)
    (houtcome : Outcome occasion source now bucket after) (hlands : Lands source (now, occasion))
    (hbefore : ∀ date, bucket (buildManifestKey source.key date) ≠ none → date ≤ now.date) :
    Kept source after := by
  have hbodies {body : Bucket} (hbody : BodyPut source now.date bucket body) : Kept source body := by
    refine ⟨?_, ?_⟩
    · rw [okManifests_of_bodyPut hbody]
      exact h.truthful
    · rw [okManifests_of_bodyPut hbody, hbody.pointed]
      exact h.points
  cases houtcome with
  | idle _ => exact h
  | lost body manifest hbody _ => exact hbodies hbody
  | failed body manifest hbody hnew hfailed =>
      have hbodyNew := bodyPut_absent hbody hnew
      refine ⟨?_, ?_⟩
      · rw [okManifests_put_failed hfailed hbodyNew]
        exact (hbodies hbody).truthful
      · rw [okManifests_put_failed hfailed hbodyNew, pointed_put_manifest]
        exact (hbodies hbody).points
  | ok body digest manifest pointer hbody hnew hmanifest hpointer =>
      have hbodyNew := bodyPut_absent hbody hnew
      have hearlier (date : String) (members : Members)
          (hin : okManifests source bucket date members) : date < now.date := by
        have hpresent : bucket (buildManifestKey source.key date) ≠ none := by
          rw [hin.1]
          exact Option.some_ne_none _
        refine lt_of_le_of_ne (hbefore date hpresent) ?_
        rintro rfl
        exact hpresent hnew
      have hhistory : okManifests source
          ((body.put (buildManifestKey source.key now.date) (.json manifest)).put
            (buildLatestKey source.key) (.json pointer)) =
          (okManifests source bucket).add now.date manifest := by
        rw [okManifests_put_latest, okManifests_put_ok hmanifest.ok hbodyNew,
          okManifests_of_bodyPut hbody]
      refine ⟨?_, ?_⟩
      · rw [hhistory]
        exact h.truthful.add h.points hearlier okManifests_unique hmanifest
      · rw [hhistory, pointed_put_latest hpointer]
        exact points_add hearlier hmanifest.sha256
  | unpointed body digest manifest hbody hnew hmanifest hfault =>
      rcases hfault with ⟨members, fault, hraised, hlost⟩ | ⟨fault, hraised, hlanded⟩
      · rw [hlands.pointer members fault hraised] at hlost
        exact absurd hlost (by simp)
      · rw [hlands.manifest manifest fault hmanifest.ok hraised] at hlanded
        exact absurd hlanded (by simp)

/-! ## All captures -/

/-- There is nothing of the source yet. -/
structure Fresh (source : Source) (bucket : Bucket) : Prop where
  manifests : ∀ date, bucket (buildManifestKey source.key date) = none
  pointer : bucket (buildLatestKey source.key) = none

omit [Sha256] [CharacterTables] in
theorem Fresh.kept (h : Fresh source bucket) : Kept source bucket := by
  have hnothing (date : String) (manifest : Members) :
      ¬okManifests source bucket date manifest := by
    rintro ⟨hpresent, _⟩
    rw [h.manifests date] at hpresent
    exact absurd hpresent (by simp)
  refine ⟨fun date manifest hin => absurd hin (hnothing date manifest), fun _ => hnothing, ?_⟩
  intro hash hpointed
  unfold pointed at hpointed
  rw [h.pointer] at hpointed
  exact absurd hpointed (by simp)

theorem kept_captureDays {days : List (Moment × Occasion)} (h : Kept source bucket)
    (hbefore : ∀ date, bucket (buildManifestKey source.key date) ≠ none →
      ∀ day ∈ days, date ≤ day.1.date)
    (hordered : days.Pairwise fun a b => a.1.date ≤ b.1.date)
    (hlands : ∀ day ∈ days, Lands source day) :
    Kept source (captureDays source invocation days bucket) := by
  induction days generalizing bucket with
  | nil => exact h
  | cons day days ih =>
      have houtcome : Outcome day.2 source day.1 bucket
          (exec (answer day.2) (captureOneSource source day.1 invocation).run bucket).2 :=
        CaptureOutcomes.outcome_of_capture
      have hrest := List.pairwise_cons.mp hordered
      rw [List.forall_mem_cons] at hlands
      refine ih ?_ ?_ hrest.2 hlands.2
      · exact h.captured houtcome hlands.1 fun date hpresent =>
          hbefore date hpresent day List.mem_cons_self
      · intro date hpresent later hlater
        by_cases hdate : date = day.1.date
        · rw [hdate]
          exact hrest.1 later hlater
        · refine hbefore date (fun habsent => hpresent ?_) later (List.mem_cons_of_mem _ hlater)
          exact absent_of_outcome houtcome hdate habsent

/-- In a sequence of captures of which every put of the pointer lands, and no put of an ok manifest
does that raises, the ok manifests say truthfully after each capture whether their bodies have
changed since the latest earlier ok manifest.
SOURCE: src/capture/handler.py:279-353, 464-513 -/
theorem flags_truthful (source : Source) (invocation : String) (bucket : Bucket)
    (days done : List (Moment × Occasion)) (hfresh : Fresh source bucket)
    (hordered : days.Pairwise fun a b => a.1.date ≤ b.1.date)
    (hlands : ∀ day ∈ days, Lands source day) (hdone : done <+: days) :
    Truthful (okManifests source (captureDays source invocation done bucket)) := by
  have hsub := hdone.sublist
  refine (kept_captureDays hfresh.kept ?_ (hordered.sublist hsub) ?_).truthful
  · intro date hpresent
    exact absurd (hfresh.manifests date) hpresent
  · intro day hday
    exact hlands day (hsub.subset hday)

end Running

/-! ## A pointer that is lost -/

section Case

local instance caseHash : Sha256 := Sha256.standard

local instance caseCharacters : CharacterTables := CaptureRaces.plainCharacters

local instance caseDecoder : PointerDecoder := ⟨fun _ => none⟩

/-- The fault of the calls that put the pointer. -/
def pointerFault (fault : Option Fault) : Effect → Option Fault
  | .putObject key (.json _) =>
    if key = buildLatestKey CaptureRaces.caseSource.key then fault else none
  | _ => none

/-- A capture of the same body on a day. -/
def dayOf (date : String) (fault : Option Fault) : Moment × Occasion :=
  (⟨date, date⟩, ⟨none, .ok (CaptureRaces.caseResponse []), pointerFault fault⟩)

def lostPointer : List (Moment × Occasion) :=
  [dayOf "2026-07-01" (some ⟨.other "timed out", false⟩), dayOf "2026-07-02" none]

def textAt (date name : String) (bucket : Bucket) : Option String :=
  match bucket (buildManifestKey CaptureRaces.caseSource.key date) with
  | some (.json members) =>
    match members.lookup name with
    | some (.str text) => some text
    | _ => none
  | _ => none

theorem textAt_some {date name text : String} {bucket : Bucket}
    (h : textAt date name bucket = some text) : ∃ members,
      bucket (buildManifestKey CaptureRaces.caseSource.key date) = some (.json members) ∧
        members.lookup name = some (.str text) := by
  unfold textAt at h
  split at h
  · rename_i members hobject
    split at h
    · rename_i found hlookup
      obtain rfl := Option.some.inj h
      exact ⟨members, hobject, hlookup⟩
    · exact absurd h (by simp)
  · exact absurd h (by simp)

/-- The objects behind the captures of the days. -/
def behind (days : List (Moment × Occasion)) : Bucket :=
  captureDays CaptureRaces.caseSource "scheduled" days fun _ => none

theorem lost_first : textAt "2026-07-01" "status" (behind lostPointer) = some "ok" := by
  decide +kernel

theorem lost_second : textAt "2026-07-02" "status" (behind lostPointer) = some "ok" := by
  decide +kernel

theorem lost_same : ∃ hash, textAt "2026-07-01" "sha256" (behind lostPointer) = some hash ∧
    textAt "2026-07-02" "sha256" (behind lostPointer) = some hash :=
  ⟨hexdigest [], by decide +kernel, by decide +kernel⟩

theorem lost_changed :
    textAt "2026-07-02" "sha256_prev_delta" (behind lostPointer) = some "changed" := by
  decide +kernel

theorem lost_dates {date : String}
    (h : behind lostPointer (buildManifestKey CaptureRaces.caseSource.key date) ≠ none) :
    date = "2026-07-01" ∨ date = "2026-07-02" := by
  by_contra hother
  rw [not_or] at hother
  refine h (absent_of_outcome CaptureOutcomes.outcome_of_capture hother.2 ?_)
  exact absent_of_outcome CaptureOutcomes.outcome_of_capture hother.1 rfl

/-- Where the put of the pointer is lost, the same body is said to have changed. -/
theorem lost_pointer_lies :
    Fresh CaptureRaces.caseSource (fun _ => none) ∧
      (lostPointer.Pairwise fun a b => a.1.date ≤ b.1.date) ∧
      ¬Truthful (okManifests CaptureRaces.caseSource
        (captureDays CaptureRaces.caseSource "scheduled" lostPointer fun _ => none)) := by
  refine ⟨⟨fun _ => rfl, rfl⟩, by decide +kernel, fun htruthful => ?_⟩
  change Truthful (okManifests CaptureRaces.caseSource (behind lostPointer)) at htruthful
  obtain ⟨first, hfirst, hfirstOk⟩ := textAt_some lost_first
  obtain ⟨second, hsecond, hsecondOk⟩ := textAt_some lost_second
  obtain ⟨hash, hfirstText, hsecondText⟩ := lost_same
  obtain ⟨first', hfirst', hfirstHash⟩ := textAt_some hfirstText
  obtain ⟨second', hsecond', hsecondHash⟩ := textAt_some hsecondText
  obtain ⟨second'', hsecond'', hsays⟩ := textAt_some lost_changed
  obtain rfl : first = first' := Object.json.inj (Option.some.inj (hfirst.symm.trans hfirst'))
  obtain rfl : second = second' := Object.json.inj (Option.some.inj (hsecond.symm.trans hsecond'))
  obtain rfl : second = second'' := Object.json.inj (Option.some.inj (hsecond.symm.trans hsecond''))
  refine (htruthful "2026-07-02" second ⟨hsecond, hsecondOk⟩).2.mp hsays ?_
  refine ⟨first, ⟨"2026-07-01", by decide +kernel, ⟨hfirst, hfirstOk⟩, ?_⟩, ?_⟩
  · intro other members hother hin
    have hpresent : behind lostPointer
        (buildManifestKey CaptureRaces.caseSource.key other) ≠ none := by
      rw [hin.1]
      exact Option.some_ne_none _
    rcases lost_dates hpresent with rfl | rfl
    · exact le_rfl
    · exact absurd hother (lt_irrefl _)
  · rw [hfirstHash, hsecondHash]

/-- The days of the captures with nothing that raises. -/
theorem flags_truthful_unfaulted :
    Truthful (okManifests CaptureRaces.caseSource
      (captureDays CaptureRaces.caseSource "scheduled"
        [dayOf "2026-07-01" none, dayOf "2026-07-02" none] fun _ => none)) := by
  refine flags_truthful CaptureRaces.caseSource "scheduled" (fun _ => none)
    [dayOf "2026-07-01" none, dayOf "2026-07-02" none] _ ⟨fun _ => rfl, rfl⟩ (by decide +kernel)
    ?_ (List.prefix_refl _)
  have hlands (date : String) : Lands CaptureRaces.caseSource (dayOf date none) := by
    refine ⟨fun members fault h => ?_, fun members fault _ h => absurd h (by simp [dayOf, pointerFault])⟩
    exact absurd h (by simp [dayOf, pointerFault])
  intro day hday
  rcases List.mem_cons.mp hday with rfl | hday
  · exact hlands _
  · obtain rfl := List.mem_singleton.mp hday
    exact hlands _

end Case

end Tally.Analysis.ChangeFlags
