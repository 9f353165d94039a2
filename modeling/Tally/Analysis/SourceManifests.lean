import Tally.Analysis.CaptureOutcomes

/-!
# A manifest for every source

With all puts going through, the loop over the sources leaves a manifest for each source it
captures. A source it skips for want of time gets a result and no manifest, and so does one whose
manifest cannot be looked for. These are the sources without a manifest.
-/

set_option autoImplicit false

namespace Tally.Analysis.SourceManifests
open Library Library.Prog Library.Sha256 Tally.Model Tally.Model.Capture
open Tally.Analysis.CaptureOutcomes (Outcome BodyPut)

/-! ## Keys -/

/-- Texts with ends of which neither is the end of the other. -/
theorem ne_of_suffixes {a b : String} {s t : List Char} (ha : s <:+ a.toList)
    (hb : t <:+ b.toList) (hlength : s.length ≤ t.length) (hends : ¬s <:+ t) : a ≠ b := by
  rintro rfl
  exact hends (List.suffix_of_suffix_length_le ha hb hlength)

theorem suffix_append (front : String) {back : String} {s : List Char} (h : s <:+ back.toList) :
    s <:+ (front ++ back).toList := by
  rw [String.toList_append]
  exact h.trans (List.suffix_append _ _)

theorem manifestKey_suffix (sourceKey date : String) :
    "/manifest.json".toList <:+ (buildManifestKey sourceKey date).toList :=
  suffix_append _ (List.suffix_refl _)

theorem latestKey_ne_manifestKey (sourceKey otherKey date : String) :
    buildLatestKey sourceKey ≠ buildManifestKey otherKey date := by
  have hlatest : "/latest.json".toList <:+ (buildLatestKey sourceKey).toList :=
    suffix_append _ (List.suffix_refl _)
  exact ne_of_suffixes hlatest (manifestKey_suffix otherKey date) (by decide) (by decide)

theorem inferExtension_mem [CharacterTables] (contentType : String) :
    inferExtension contentType ∈ ["html", "pdf", "txt", "json", "bin"] := by
  unfold inferExtension
  generalize String.ofList _ = base
  unfold contentTypeExtensions
  simp only [List.lookup_cons, List.lookup_nil]
  repeat' split
  all_goals decide

theorem bodyKey_ne_manifestKey [CharacterTables] (sourceKey otherKey date otherDate
    contentType : String) :
    buildBodyKey sourceKey date (inferExtension contentType) ≠
      buildManifestKey otherKey otherDate := by
  have hmem := inferExtension_mem contentType
  generalize inferExtension contentType = ext at hmem
  have hbody : ("/body." ++ ext).toList <:+ (buildBodyKey sourceKey date ext).toList := by
    unfold buildBodyKey
    rw [String.append_assoc]
    exact suffix_append _ (List.suffix_refl _)
  have hmanifest := manifestKey_suffix otherKey otherDate
  simp only [List.mem_cons, List.not_mem_nil, or_false] at hmem
  rcases hmem with rfl | rfl | rfl | rfl | rfl
  all_goals exact ne_of_suffixes hbody hmanifest (by decide) (by decide)

theorem manifestKey_inj {a b date : String} (h : buildManifestKey a date = buildManifestKey b date) :
    a = b := by
  unfold buildManifestKey buildObjectPrefix at h
  have h := congrArg String.toList h
  simp only [String.toList_append, List.append_assoc] at h
  have h := List.append_cancel_left h
  exact String.toList_inj.mp (List.append_cancel_right h)

/-! ## One source -/

section Running

variable [Sha256] [CharacterTables] [PointerDecoder]

/-- The capture has the time it needs, and it can look for the manifest of the day. -/
structure Reaches (date : String) (item : Source × Occasion) : Prop where
  time : item.2.remaining.any (· < requiredMs) = false
  read : readFault item.2 (.headObject (buildManifestKey item.1.key date)) = none

/-- All puts go through. -/
def PutsGoThrough (occasion : Occasion) : Prop :=
  ∀ key object, occasion.fault (.putObject key object) = none ∧
    occasion.fault (.putNew key object) = none

/-- There is a manifest of the day. -/
def Recorded (date : String) (bucket : Bucket) (source : Source) : Prop :=
  bucket (buildManifestKey source.key date) ≠ none

variable {now : Moment} {invocation : String} {item : Source × Occasion} {bucket : Bucket}

/-- A capture that cannot look for the manifest leaves everything as it is. -/
theorem capture_unread {e : S3Error} (h : readFault item.2
      (.headObject (buildManifestKey item.1.key now.date)) = some e) :
    (exec (answer item.2) (captureOneSource item.1 now invocation).run bucket).2 = bucket := by
  have hexists := CaptureOutcomes.exec_manifestExists item.2 bucket
    (buildManifestKey item.1.key now.date)
  rw [h] at hexists
  unfold captureOneSource
  rw [exec_except_bind_error _ hexists]

/-- What the loop leaves for a source is what its capture leaves, if it has time for one. -/
theorem handleSource_bucket (remaining : Option Int) :
    (exec (answer item.2) (handleSource now invocation item.1 remaining) bucket).2 =
      if remaining.any (· < requiredMs) then bucket
      else (exec (answer item.2) (captureOneSource item.1 now invocation).run bucket).2 := by
  unfold handleSource
  split
  · rfl
  · rw [exec_bind]
    generalize exec (answer item.2) (captureOneSource item.1 now invocation).run bucket = out
    obtain ⟨r, after⟩ := out
    cases r <;> rfl

omit [Sha256] [PointerDecoder] in
theorem recorded_of_bodyPut {date : String} {source other : Source} {body : Bucket}
    (h : BodyPut source date bucket body) :
    Recorded date body other ↔ Recorded date bucket other := by
  rcases h with rfl | ⟨contentType, content, rfl⟩
  · exact Iff.rfl
  · unfold Recorded
    rw [CaptureOutcomes.Bucket.put_of_ne _ _ (bodyKey_ne_manifestKey _ _ _ _ _).symm]

omit [Sha256] [CharacterTables] [PointerDecoder] in
theorem recorded_put {date : String} {source other : Source} (object : Object) :
    Recorded date (bucket.put (buildManifestKey source.key date) object) other ↔
      Recorded date bucket other ∨ source.key = other.key := by
  unfold Recorded
  by_cases hkey : source.key = other.key
  · rw [hkey, CaptureOutcomes.Bucket.put_self]
    exact iff_of_true (Option.some_ne_none object) (Or.inr rfl)
  · have hne : buildManifestKey other.key date ≠ buildManifestKey source.key date :=
      fun h => hkey (manifestKey_inj h).symm
    rw [CaptureOutcomes.Bucket.put_of_ne _ _ hne, or_iff_left hkey]

/-- The manifests after a source: those before, and the one of the source if it was captured. -/
theorem recorded_handleSource (hputs : PutsGoThrough item.2) (other : Source) :
    Recorded now.date
        (exec (answer item.2) (handleSource now invocation item.1 item.2.remaining) bucket).2 other ↔
      Recorded now.date bucket other ∨ item.1.key = other.key ∧ Reaches now.date item := by
  rw [handleSource_bucket]
  by_cases htime : item.2.remaining.any (· < requiredMs) = true
  · rw [if_pos htime]
    refine (or_iff_left fun h => ?_).symm
    have hshort := h.2.time
    rw [htime] at hshort
    exact Bool.false_ne_true hshort.symm
  rw [if_neg htime]
  rw [Bool.not_eq_true] at htime
  cases hread : readFault item.2 (.headObject (buildManifestKey item.1.key now.date)) with
  | some e =>
      rw [capture_unread hread]
      refine (or_iff_left fun h => ?_).symm
      have hanswered := h.2.read
      rw [hread] at hanswered
      exact Option.some_ne_none e hanswered
  | none =>
      have hreaches : Reaches now.date item := ⟨htime, hread⟩
      rw [and_iff_left hreaches]
      have houtcome : Outcome item.2 item.1 now bucket
          (exec (answer item.2) (captureOneSource item.1 now invocation).run bucket).2 :=
        CaptureOutcomes.outcome_of_capture
      generalize (exec (answer item.2)
        (captureOneSource item.1 now invocation).run bucket).2 = after at houtcome
      cases houtcome with
      | idle h =>
          have hpresent := h.resolve_right fun hraised => hraised hread
          refine (or_iff_left_of_imp fun hkey => ?_).symm
          unfold Recorded
          rw [← hkey]
          exact hpresent
      | failed body manifest hbody _ _ => rw [recorded_put, recorded_of_bodyPut hbody]
      | lost body manifest _ hfault => exact absurd (hputs _ _).2 hfault
      | ok body digest manifest pointer hbody _ _ _ =>
          have hlatest : Recorded now.date
              ((body.put (buildManifestKey item.1.key now.date) (.json manifest)).put
                (buildLatestKey item.1.key) (.json pointer)) other ↔
              Recorded now.date
                (body.put (buildManifestKey item.1.key now.date) (.json manifest)) other := by
            unfold Recorded
            rw [CaptureOutcomes.Bucket.put_of_ne _ _ (latestKey_ne_manifestKey _ _ _).symm]
          rw [hlatest, recorded_put, recorded_of_bodyPut hbody]
      | unpointed body digest manifest hbody _ _ _ =>
          rw [recorded_put, recorded_of_bodyPut hbody]

/-! ## All sources -/

/-- The manifests after the loop: those before it, and those of the sources that were captured. -/
theorem recorded_lambdaHandler {items : List (Source × Occasion)}
    (hputs : ∀ item ∈ items, PutsGoThrough item.2) (other : Source) :
    Recorded now.date (lambdaHandler now invocation items bucket).2 other ↔
      Recorded now.date bucket other ∨
        ∃ item ∈ items, item.1.key = other.key ∧ Reaches now.date item := by
  induction items generalizing bucket with
  | nil => exact (or_iff_left fun ⟨_, hmem, _⟩ => absurd hmem List.not_mem_nil).symm
  | cons item items ih =>
      rw [List.forall_mem_cons] at hputs
      have hstep : (lambdaHandler now invocation (item :: items) bucket).2 =
          (lambdaHandler now invocation items (exec (answer item.2)
            (handleSource now invocation item.1 item.2.remaining) bucket).2).2 := rfl
      rw [hstep, ih hputs.2, recorded_handleSource hputs.1, List.exists_mem_cons_iff, or_assoc]

/-- After the loop every source has a manifest of the day exactly when each had one before, or was
captured under its key with the time it takes and a look for its manifest.
SOURCE: src/capture/handler.py:696-787 -/
theorem manifests_iff (now : Moment) (invocation : String) (items : List (Source × Occasion))
    (bucket : Bucket) (hputs : ∀ item ∈ items, PutsGoThrough item.2) :
    (∀ item ∈ items, Recorded now.date (lambdaHandler now invocation items bucket).2 item.1) ↔
      ∀ item ∈ items, Recorded now.date bucket item.1 ∨
        ∃ other ∈ items, other.1.key = item.1.key ∧ Reaches now.date other := by
  constructor
  · intro h item hitem
    exact (recorded_lambdaHandler hputs item.1).mp (h item hitem)
  · intro h item hitem
    exact (recorded_lambdaHandler hputs item.1).mpr (h item hitem)

end Running

/-! ## A source without time -/

section Case

local instance caseHash : Sha256 := Sha256.standard

local instance caseCharacters : CharacterTables := CaptureRaces.plainCharacters

local instance caseDecoder : PointerDecoder := ⟨fun _ => none⟩

/-- A source that times out, with some time left before it. -/
def timedOut (remaining : Option Int) : Source × Occasion :=
  (CaptureRaces.caseSource, ⟨remaining, .error "timed out", fun _ => none⟩)

def noObjects : Bucket := fun _ => none

theorem timedOut_puts (remaining : Option Int) : PutsGoThrough (timedOut remaining).2 :=
  fun _ _ => ⟨rfl, rfl⟩

/-- A source skipped for want of time is left without a manifest. -/
theorem skipped_unrecorded :
    PutsGoThrough (timedOut (some 1000)).2 ∧ ¬Recorded CaptureRaces.caseNow.date
      (lambdaHandler CaptureRaces.caseNow "scheduled" [timedOut (some 1000)] noObjects).2
      (timedOut (some 1000)).1 := by
  refine ⟨timedOut_puts _, fun hrecorded => hrecorded ?_⟩
  rfl

theorem manifests_iff_timedOut :
    (∀ item ∈ [timedOut none], Recorded CaptureRaces.caseNow.date
        (lambdaHandler CaptureRaces.caseNow "scheduled" [timedOut none] noObjects).2 item.1) ↔
      ∀ item ∈ [timedOut none], Recorded CaptureRaces.caseNow.date noObjects item.1 ∨
        ∃ other ∈ [timedOut none], other.1.key = item.1.key ∧
          Reaches CaptureRaces.caseNow.date other := by
  refine manifests_iff CaptureRaces.caseNow "scheduled" [timedOut none] noObjects ?_
  intro item hitem
  obtain rfl := List.mem_singleton.mp hitem
  exact timedOut_puts none

end Case

end Tally.Analysis.SourceManifests
