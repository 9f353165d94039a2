import Tally.Analysis.CaptureRaces
import Tally.Model.CaptureRuns

/-!
# What a capture leaves

A capture that finds no manifest for the day puts one, unless a put of a manifest raises: a
manifest of a failure, or one that is ok and says whether the body is the one of the pointer. The
pointer is put behind an ok manifest; it stays what it was when its put or the one of the
manifest raises.
-/

set_option autoImplicit false

namespace Tally.Analysis.CaptureOutcomes
open Library Library.Prog Library.Sha256 Tally.Model Tally.Model.Capture
open Tally.Analysis.CaptureRaces (IsOk)

variable {occasion : Occasion} {bucket : Bucket} {source : Source} {now : Moment}
  {invocation : String}

/-! ## Objects -/

theorem Bucket.put_self (bucket : Bucket) (key : String) (object : Object) :
    bucket.put key object key = some object := Function.update_self _ _ _

theorem Bucket.put_of_ne (bucket : Bucket) {key key' : String} (object : Object) (h : key' ≠ key) :
    bucket.put key object key' = bucket key' := Function.update_of_ne h _ _

/-- A body of the day has been put, or none. -/
def BodyPut [CharacterTables] (source : Source) (date : String) (bucket after : Bucket) : Prop :=
  after = bucket ∨ ∃ contentType content, after =
    bucket.put (buildBodyKey source.key date (inferExtension contentType)) (.bytes content)

/-- The hash in the pointer of a source. -/
def pointed [PointerDecoder] (source : Source) (bucket : Bucket) : Option String :=
  (bucket (buildLatestKey source.key)).bind pointerSha256

/-! ## One call -/

theorem readFault_notFound {e : Effect} {error : S3Error} (h : readFault occasion e = some error) :
    error.notFound = false := by
  unfold readFault at h
  split at h
  · split at h
    · exact absurd h (by simp)
    · rename_i hfound
      obtain rfl := Option.some.inj h
      exact Bool.eq_false_iff.mpr hfound
  · exact absurd h (by simp)

/-- A call is answered, and the capture goes on with the reply. -/
theorem exec_perform {α : Type} (e : Effect) (f : Reply e → CaptureM α) :
    exec (answer occasion) (perform e >>= f).run bucket =
      exec (answer occasion) (f (answer occasion e bucket).1).run (answer occasion e bucket).2 := rfl

/-- Whether there is a manifest, unless the read raises. -/
theorem exec_manifestExists (occasion : Occasion) (bucket : Bucket) (key : String) :
    exec (answer occasion) (manifestExists key).run bucket =
      (match readFault occasion (.headObject key) with
        | some e => .error (.s3 e)
        | none => .ok (bucket key).isSome, bucket) := by
  unfold manifestExists
  rw [exec_perform]
  cases hfault : readFault occasion (.headObject key) with
  | some e =>
      simp only [answer, hfault]
      rw [readFault_notFound hfault]
      rfl
  | none =>
      simp only [answer, hfault]
      cases bucket key with
      | none => rfl
      | some object => rfl

/-- The hash in the pointer, unless the read raises. -/
theorem exec_readLatestPointer [PointerDecoder] (occasion : Occasion) (bucket : Bucket)
    (source : Source) :
    exec (answer occasion) (readLatestPointerSha256 source.key).run bucket =
      (match readFault occasion (.getObject (buildLatestKey source.key)) with
        | some e => .error (.s3 e)
        | none => .ok (pointed source bucket), bucket) := by
  unfold readLatestPointerSha256 pointed
  rw [exec_perform]
  cases hfault : readFault occasion (.getObject (buildLatestKey source.key)) with
  | some e =>
      simp only [answer, hfault]
      rw [readFault_notFound hfault]
      rfl
  | none =>
      simp only [answer, hfault]
      cases bucket (buildLatestKey source.key) with
      | none => rfl
      | some object => rfl

/-- The put of a manifest puts it, or raises where there is one already or with a fault. -/
inductive Wrote (occasion : Occasion) (key : String) (manifest : Members) (bucket : Bucket) :
    Except CaptureError Unit × Bucket → Prop
  | put (hnew : bucket key = none) : Wrote occasion key manifest bucket
      (.ok (), bucket.put key (.json manifest))
  | raised (e : CaptureError)
      (h : bucket key ≠ none ∨ occasion.fault (.putNew key (.json manifest)) ≠ none) :
      Wrote occasion key manifest bucket (.error e, bucket)
  | landed (e : CaptureError) (fault : Fault) (hnew : bucket key = none)
      (hfault : occasion.fault (.putNew key (.json manifest)) = some fault)
      (hlanded : fault.landed = true) :
      Wrote occasion key manifest bucket (.error e, bucket.put key (.json manifest))

theorem exec_writeManifest (key : String) (manifest : Members) :
    Wrote occasion key manifest bucket
      (exec (answer occasion) (writeManifest key manifest).run bucket) := by
  unfold writeManifest
  rw [exec_perform]
  have herror (e : S3Error) (after : Bucket) : ∃ error : CaptureError,
      exec (answer occasion)
        (if e.preconditionFailed = true then throw .manifestAlreadyWritten else throw (.s3 e) :
          CaptureM Unit).run after = (.error error, after) := by
    split
    · exact ⟨_, rfl⟩
    · exact ⟨_, rfl⟩
  cases hbucket : bucket key with
  | some object =>
      have hpresent : bucket key ≠ none := by
        rw [hbucket]
        exact Option.some_ne_none object
      cases hfault : occasion.fault (.putNew key (.json manifest)) with
      | some fault =>
          simp only [answer, hbucket, hfault]
          obtain ⟨error, hraised⟩ := herror fault.error bucket
          rw [hraised]
          exact .raised error (Or.inl hpresent)
      | none =>
          simp only [answer, hbucket, hfault]
          obtain ⟨error, hraised⟩ := herror presentError bucket
          rw [hraised]
          exact .raised error (Or.inl hpresent)
  | none =>
      cases hfault : occasion.fault (.putNew key (.json manifest)) with
      | none =>
          simp only [answer, hbucket, hfault, putReply]
          exact .put hbucket
      | some fault =>
          simp only [answer, hbucket, hfault, putReply]
          cases hlanded : fault.landed with
          | true =>
              rw [if_pos rfl]
              obtain ⟨error, hraised⟩ := herror fault.error (bucket.put key (.json manifest))
              rw [hraised]
              exact .landed error fault hbucket hfault hlanded
          | false =>
              rw [if_neg Bool.false_ne_true]
              obtain ⟨error, hraised⟩ := herror fault.error bucket
              rw [hraised]
              refine .raised error (Or.inr ?_)
              rw [hfault]
              exact Option.some_ne_none fault

/-- A put of the pointer puts it, or raises with a fault. -/
theorem exec_writeLatestPointer (occasion : Occasion) (bucket : Bucket) (source : Source)
    (now : Moment) (sha256Hex manifestKey : String) :
    ∃ (r : Except CaptureError Unit) (members : Members),
      members.lookup "sha256" = some (.str sha256Hex) ∧
      (exec (answer occasion) (writeLatestPointer source.key sha256Hex now manifestKey).run bucket =
          (r, bucket.put (buildLatestKey source.key) (.json members)) ∨
        exec (answer occasion) (writeLatestPointer source.key sha256Hex now manifestKey).run bucket =
            (r, bucket) ∧
          ∃ fault, occasion.fault (.putObject (buildLatestKey source.key) (.json members)) =
            some fault ∧ fault.landed = false) := by
  unfold writeLatestPointer
  dsimp only
  rw [exec_perform]
  cases hfault : occasion.fault (.putObject (buildLatestKey source.key)
      (.json [("sha256", .str sha256Hex), ("captured_at", .str now.isoformat),
        ("manifest_key", .str manifestKey)])) with
  | none =>
      simp only [answer, hfault, putReply]
      exact ⟨_, _, rfl, Or.inl rfl⟩
  | some fault =>
      simp only [answer, hfault, putReply]
      cases hlanded : fault.landed with
      | true => exact ⟨_, _, rfl, Or.inl rfl⟩
      | false => exact ⟨_, _, rfl, Or.inr ⟨rfl, fault, hfault, hlanded⟩⟩

/-! ## Failures -/

/-- The manifest of a failure is put, or there is a manifest or a fault. -/
inductive Failed (occasion : Occasion) (key : String) (bucket : Bucket) : Bucket → Prop
  | put (manifest : Members) (hnew : bucket key = none) (hfailed : ¬IsOk manifest) :
      Failed occasion key bucket (bucket.put key (.json manifest))
  | none (h : bucket key ≠ none ∨ ∃ manifest, ¬IsOk manifest ∧
        occasion.fault (.putNew key (.json manifest)) ≠ none) : Failed occasion key bucket bucket

theorem exec_recordFailure {manifest : Members} (hfailed : ¬IsOk manifest) :
    Failed occasion (buildManifestKey source.key now.date) bucket
      (exec (answer occasion) (recordFailure source now invocation manifest).run bucket).2 := by
  have hwrote : Wrote occasion (buildManifestKey source.key now.date) manifest bucket
      (exec (answer occasion)
        (writeManifest (buildManifestKey source.key now.date) manifest).run bucket) :=
    exec_writeManifest _ manifest
  unfold recordFailure
  generalize hout : exec (answer occasion)
    (writeManifest (buildManifestKey source.key now.date) manifest).run bucket = out at hwrote
  cases hwrote with
  | put hnew =>
      have hbody := exec_except_bind_ok (answer occasion)
        (f := fun _ => (pure ⟨source.key, "failed", manifest⟩ : CaptureM CaptureResult)) hout
      rw [exec_tryCatch_ok _ hbody]
      exact .put manifest hnew hfailed
  | raised e h =>
      have hbody := exec_except_bind_error (answer occasion)
        (f := fun _ => (pure ⟨source.key, "failed", manifest⟩ : CaptureM CaptureResult)) hout
      rw [exec_tryCatch_error _ hbody]
      have hnone : Failed occasion (buildManifestKey source.key now.date) bucket bucket :=
        .none (h.imp_right fun hfault => ⟨manifest, hfailed, hfault⟩)
      cases e <;> exact hnone
  | landed e fault hnew hfault hlanded =>
      have hbody := exec_except_bind_error (answer occasion)
        (f := fun _ => (pure ⟨source.key, "failed", manifest⟩ : CaptureM CaptureResult)) hout
      rw [exec_tryCatch_error _ hbody]
      have hput : Failed occasion (buildManifestKey source.key now.date) bucket
          (bucket.put (buildManifestKey source.key now.date) (.json manifest)) :=
        .put manifest hnew hfailed
      cases e <;> exact hput

/-- A status behind others does not count. -/
theorem not_isOk_failed (source : Source) (now : Moment) (invocation : String) (fetched : Fetched)
    (more : Members) :
    ¬IsOk (buildManifest source now "failed" invocation fetched ++ more) := by
  intro h
  have hlookup : (buildManifest source now "failed" invocation fetched ++ more).lookup "status" =
      some (.str "failed") := rfl
  rw [IsOk, hlookup] at h
  exact absurd h (by simp)

section Capturing

variable [Sha256]

theorem exec_recover {response : FetchResponse} {bodyKey : String} {bodyWritten : Bool}
    (e : CaptureError) :
    (e = .manifestAlreadyWritten ∧ (exec (answer occasion)
        (recover source now invocation response bodyKey bodyWritten e).run bucket).2 = bucket) ∨
      Failed occasion (buildManifestKey source.key now.date) bucket (exec (answer occasion)
        (recover source now invocation response bodyKey bodyWritten e).run bucket).2 := by
  cases e with
  | manifestAlreadyWritten => exact Or.inl ⟨rfl, rfl⟩
  | s3 e =>
      refine Or.inr ?_
      unfold recover
      dsimp only
      rw [List.append_assoc]
      generalize hmanifest : buildManifest source now "failed" invocation (fetchedOf response) ++
        ([("error", Json.str e.text)] ++
          if bodyWritten = true then [("body_key", Json.str bodyKey)] else []) = manifest
      have hfailed : ¬IsOk manifest := by
        rw [← hmanifest]
        exact not_isOk_failed _ _ _ _ _
      have hrecorded : Failed occasion (buildManifestKey source.key now.date) bucket
          (exec (answer occasion) (recordFailure source now invocation manifest).run bucket).2 :=
        exec_recordFailure hfailed
      generalize hout :
        exec (answer occasion) (recordFailure source now invocation manifest).run bucket = out
          at hrecorded
      obtain ⟨r, after⟩ := out
      cases r with
      | ok result =>
          rw [exec_tryCatch_ok _ hout]
          exact hrecorded
      | error error =>
          rw [exec_tryCatch_error _ hout]
          exact hrecorded

/-! ## The capture -/

variable [CharacterTables] [PointerDecoder]

/-- An ok manifest has the hash of the body and says whether the pointer has it. -/
structure OkManifest (previous : Option String) (digest : String) (manifest : Members) :
    Prop where
  ok : IsOk manifest
  sha256 : manifest.lookup "sha256" = some (.str digest)
  delta : manifest.lookup "sha256_prev_delta" =
    some (.str (if previous = some digest then "unchanged" else "changed"))

omit [CharacterTables] [PointerDecoder] in
theorem okManifest (source : Source) (now : Moment) (invocation : String)
    (response : FetchResponse) (bodyKey : String) (previous : Option String) :
    OkManifest previous (hexdigest response.content)
      (buildManifest source now "ok" invocation (fetchedOf response) ++
        [("body_key", .str bodyKey), ("sha256_prev_delta",
          .str (if previous = some (hexdigest response.content) then "unchanged"
            else "changed"))]) :=
  ⟨rfl, rfl, rfl⟩

/-- What a capture leaves of the objects. -/
inductive Outcome (occasion : Occasion) (source : Source) (now : Moment) (bucket : Bucket) :
    Bucket → Prop
  | idle (h : bucket (buildManifestKey source.key now.date) ≠ none ∨
        readFault occasion (.headObject (buildManifestKey source.key now.date)) ≠ none) :
      Outcome occasion source now bucket bucket
  | failed (body : Bucket) (manifest : Members) (hbody : BodyPut source now.date bucket body)
      (hnew : bucket (buildManifestKey source.key now.date) = none) (hfailed : ¬IsOk manifest) :
      Outcome occasion source now bucket
        (body.put (buildManifestKey source.key now.date) (.json manifest))
  | lost (body : Bucket) (manifest : Members) (hbody : BodyPut source now.date bucket body)
      (hfault : occasion.fault
        (.putNew (buildManifestKey source.key now.date) (.json manifest)) ≠ none) :
      Outcome occasion source now bucket body
  | ok (body : Bucket) (digest : String) (manifest pointer : Members)
      (hbody : BodyPut source now.date bucket body)
      (hnew : bucket (buildManifestKey source.key now.date) = none)
      (hmanifest : OkManifest (pointed source bucket) digest manifest)
      (hpointer : pointer.lookup "sha256" = some (.str digest)) :
      Outcome occasion source now bucket
        ((body.put (buildManifestKey source.key now.date) (.json manifest)).put
          (buildLatestKey source.key) (.json pointer))
  | unpointed (body : Bucket) (digest : String) (manifest : Members)
      (hbody : BodyPut source now.date bucket body)
      (hnew : bucket (buildManifestKey source.key now.date) = none)
      (hmanifest : OkManifest (pointed source bucket) digest manifest)
      (hfault : (∃ members fault, occasion.fault
            (.putObject (buildLatestKey source.key) (.json members)) = some fault ∧
          fault.landed = false) ∨
        ∃ fault, occasion.fault
            (.putNew (buildManifestKey source.key now.date) (.json manifest)) = some fault ∧
          fault.landed = true) :
      Outcome occasion source now bucket
        (body.put (buildManifestKey source.key now.date) (.json manifest))

omit [Sha256] [PointerDecoder] in
/-- The body is put at a key of its own. -/
theorem BodyPut.manifest {date : String} {body : Bucket} (h : BodyPut source date bucket body) :
    body (buildManifestKey source.key date) = bucket (buildManifestKey source.key date) := by
  rcases h with rfl | ⟨contentType, content, rfl⟩
  · rfl
  · exact Bucket.put_of_ne _ _ (CaptureRaces.bodyKey_ne_manifestKey _ _ _).symm

omit [Sha256] in
theorem BodyPut.pointed {date : String} {body : Bucket} (h : BodyPut source date bucket body) :
    pointed source body = pointed source bucket := by
  unfold CaptureOutcomes.pointed
  rcases h with rfl | ⟨contentType, content, rfl⟩
  · rfl
  · rw [Bucket.put_of_ne _ _ (CaptureRaces.bodyKey_ne_latestKey _ _ _).symm]

omit [Sha256] in
/-- A failure where there is no manifest leaves one, unless its put raises. -/
theorem outcome_of_failed {body after : Bucket} (hbody : BodyPut source now.date bucket body)
    (hnew : bucket (buildManifestKey source.key now.date) = none)
    (h : Failed occasion (buildManifestKey source.key now.date) body after) :
    Outcome occasion source now bucket after := by
  cases h with
  | put manifest _ hfailed => exact .failed body manifest hbody hnew hfailed
  | none h =>
      rcases h with hpresent | ⟨manifest, _, hfault⟩
      · rw [hbody.manifest] at hpresent
        exact absurd hnew hpresent
      · exact .lost body manifest hbody hfault

omit [CharacterTables] [PointerDecoder] in
/-- Behind an ok manifest an error leaves the objects as they are. -/
theorem exec_recover_recorded {response : FetchResponse} {bodyKey : String} {bodyWritten : Bool}
    {object : Object} (e : CaptureError)
    (h : bucket (buildManifestKey source.key now.date) = some object) :
    (exec (answer occasion)
      (recover source now invocation response bodyKey bodyWritten e).run bucket).2 = bucket := by
  generalize hout : (exec (answer occasion)
    (recover source now invocation response bodyKey bodyWritten e).run bucket).2 = after
  have hcases : (e = .manifestAlreadyWritten ∧ (exec (answer occasion)
        (recover source now invocation response bodyKey bodyWritten e).run bucket).2 = bucket) ∨
      Failed occasion (buildManifestKey source.key now.date) bucket (exec (answer occasion)
        (recover source now invocation response bodyKey bodyWritten e).run bucket).2 :=
    exec_recover e
  rw [hout] at hcases
  rcases hcases with ⟨_, hsame⟩ | hfailed
  · exact hsame
  · cases hfailed with
    | put manifest hnew _ =>
        rw [h] at hnew
        exact absurd hnew (Option.some_ne_none object)
    | none _ => rfl

/-- An error in front of an ok manifest leaves a manifest of a failure, unless a put of a manifest
raises. -/
theorem outcome_of_recover {response : FetchResponse} {bodyKey : String} {bodyWritten : Bool}
    {body : Bucket} (hbody : BodyPut source now.date bucket body)
    (hnew : bucket (buildManifestKey source.key now.date) = none) (e : CaptureError)
    (hraised : e = .manifestAlreadyWritten → ∃ manifest, occasion.fault
      (.putNew (buildManifestKey source.key now.date) (.json manifest)) ≠ none) :
    Outcome occasion source now bucket (exec (answer occasion)
      (recover source now invocation response bodyKey bodyWritten e).run body).2 := by
  have hcases : (e = .manifestAlreadyWritten ∧ (exec (answer occasion)
        (recover source now invocation response bodyKey bodyWritten e).run body).2 = body) ∨
      Failed occasion (buildManifestKey source.key now.date) body (exec (answer occasion)
        (recover source now invocation response bodyKey bodyWritten e).run body).2 :=
    exec_recover e
  rcases hcases with ⟨he, hsame⟩ | hfailed
  · obtain ⟨manifest, hfault⟩ := hraised he
    rw [hsame]
    exact .lost body manifest hbody hfault
  · exact outcome_of_failed hbody hnew hfailed

/-- The manifest and the pointer behind a body, or what follows an error. -/
theorem outcome_of_recordBody {response : FetchResponse} {bodyKey : String} {body : Bucket}
    (hbody : BodyPut source now.date bucket body)
    (hnew : bucket (buildManifestKey source.key now.date) = none) :
    Outcome occasion source now bucket (exec (answer occasion)
      (tryCatch (recordBody source now invocation response bodyKey)
        (recover source now invocation response bodyKey true)).run body).2 := by
  have hbodyNew : body (buildManifestKey source.key now.date) = none := by
    rw [hbody.manifest, hnew]
  have hread := exec_readLatestPointer occasion body source
  cases hfault : readFault occasion (.getObject (buildLatestKey source.key)) with
  | some e =>
      rw [hfault] at hread
      have hrecord : exec (answer occasion)
          (recordBody source now invocation response bodyKey).run body = (.error (.s3 e), body) := by
        unfold recordBody
        exact exec_except_bind_error _ hread
      rw [exec_tryCatch_error _ hrecord]
      exact outcome_of_recover hbody hnew _ (fun he => absurd he (by simp))
  | none =>
      rw [hfault, hbody.pointed] at hread
      have hok := okManifest source now invocation response bodyKey (pointed source bucket)
      generalize hmanifest : buildManifest source now "ok" invocation (fetchedOf response) ++
        [("body_key", Json.str bodyKey), ("sha256_prev_delta",
          Json.str (if pointed source bucket = some (hexdigest response.content) then "unchanged"
            else "changed"))] = manifest at hok
      have hwrote : Wrote occasion (buildManifestKey source.key now.date) manifest body
          (exec (answer occasion)
            (writeManifest (buildManifestKey source.key now.date) manifest).run body) :=
        exec_writeManifest _ manifest
      generalize hout : exec (answer occasion)
        (writeManifest (buildManifestKey source.key now.date) manifest).run body = out at hwrote
      have hsteps : exec (answer occasion)
          (recordBody source now invocation response bodyKey).run body =
          exec (answer occasion) (do
            writeManifest (buildManifestKey source.key now.date) manifest
            writeLatestPointer source.key (hexdigest response.content) now
              (buildManifestKey source.key now.date)
            pure ⟨source.key, "ok", manifest⟩ : CaptureM CaptureResult).run body := by
        unfold recordBody
        rw [exec_except_bind_ok _ hread, hmanifest]
      cases hwrote with
      | raised e h =>
          have hrecord := hsteps.trans (exec_except_bind_error _ hout)
          rw [exec_tryCatch_error _ hrecord]
          refine outcome_of_recover hbody hnew _ fun _ => ⟨manifest, ?_⟩
          exact h.resolve_left fun hpresent => hpresent hbodyNew
      | landed e fault _ hraised hlanded =>
          have hrecord := hsteps.trans (exec_except_bind_error _ hout)
          rw [exec_tryCatch_error _ hrecord,
            exec_recover_recorded e (Bucket.put_self _ _ _)]
          exact .unpointed body _ manifest hbody hnew hok (Or.inr ⟨fault, hraised, hlanded⟩)
      | put _ =>
          have hsecond := hsteps.trans (exec_except_bind_ok _ hout)
          obtain ⟨r, pointer, hpointer, hwritten | ⟨hwritten, hraised⟩⟩ :=
            exec_writeLatestPointer occasion
              (body.put (buildManifestKey source.key now.date) (.json manifest)) source now
              (hexdigest response.content) (buildManifestKey source.key now.date)
          · cases r with
            | ok _ =>
                have hrecord := hsecond.trans (exec_except_bind_ok _ hwritten)
                rw [exec_tryCatch_ok _ hrecord]
                exact .ok body _ manifest pointer hbody hnew hok hpointer
            | error e =>
                have hrecord := hsecond.trans (exec_except_bind_error _ hwritten)
                rw [exec_tryCatch_error _ hrecord, exec_recover_recorded e]
                · exact .ok body _ manifest pointer hbody hnew hok hpointer
                · rw [Bucket.put_of_ne _ _ (CaptureRaces.manifestKey_ne_latestKey _ _)]
                  exact Bucket.put_self _ _ _
          · have hunpointed : Outcome occasion source now bucket
                (body.put (buildManifestKey source.key now.date) (.json manifest)) :=
              .unpointed body _ manifest hbody hnew hok (Or.inl ⟨pointer, hraised⟩)
            cases r with
            | ok _ =>
                have hrecord := hsecond.trans (exec_except_bind_ok _ hwritten)
                rw [exec_tryCatch_ok _ hrecord]
                exact hunpointed
            | error e =>
                have hrecord := hsecond.trans (exec_except_bind_error _ hwritten)
                rw [exec_tryCatch_error _ hrecord, exec_recover_recorded e (Bucket.put_self _ _ _)]
                exact hunpointed

/-- What a capture leaves of the objects. -/
theorem outcome_of_capture : Outcome occasion source now bucket
    (exec (answer occasion) (captureOneSource source now invocation).run bucket).2 := by
  have hexists := exec_manifestExists occasion bucket (buildManifestKey source.key now.date)
  unfold captureOneSource
  cases hhead : readFault occasion (.headObject (buildManifestKey source.key now.date)) with
  | some e =>
      rw [hhead] at hexists
      rw [exec_except_bind_error _ hexists]
      refine .idle (Or.inr ?_)
      rw [hhead]
      exact Option.some_ne_none e
  | none =>
      rw [hhead] at hexists
      rw [exec_except_bind_ok _ hexists]
      cases hpresent : bucket (buildManifestKey source.key now.date) with
      | some object =>
          refine .idle (Or.inl ?_)
          rw [hpresent]
          exact Option.some_ne_none object
      | none =>
          rw [Option.isSome_none, if_neg Bool.false_ne_true, exec_perform]
          have hfetch : answer occasion (.fetch source.url) bucket = (occasion.fetch, bucket) := rfl
          rw [hfetch]
          cases occasion.fetch with
          | error text =>
              refine outcome_of_failed (Or.inl rfl) hpresent ?_
              exact exec_recordFailure (not_isOk_failed _ _ _ _ _)
          | ok response =>
              dsimp only
              by_cases hstatus : response.statusCode ≠ 200
              · rw [if_pos hstatus]
                refine outcome_of_failed (Or.inl rfl) hpresent ?_
                have hfailed := not_isOk_failed source now invocation (fetchedOf response) []
                rw [List.append_nil] at hfailed
                exact exec_recordFailure hfailed
              · rw [if_neg hstatus, exec_perform]
                generalize hbodyKey : buildBodyKey source.key now.date (inferExtension
                  ((response.headers "content-type").getD source.expectedContentType)) = bodyKey
                have hput : BodyPut source now.date bucket
                    (bucket.put bodyKey (.bytes response.content)) :=
                  Or.inr ⟨_, response.content, by rw [hbodyKey]⟩
                cases hbody : occasion.fault (.putObject bodyKey (.bytes response.content)) with
                | none =>
                    simp only [answer, hbody, putReply]
                    exact outcome_of_recordBody hput hpresent
                | some fault =>
                    simp only [answer, hbody, putReply]
                    refine outcome_of_recover ?_ hpresent _ (fun he => absurd he (by simp))
                    split
                    · exact hput
                    · exact Or.inl rfl

end Capturing

end Tally.Analysis.CaptureOutcomes
