import Tally.Library.Performed
import Tally.Model.CaptureRuns
import Tally.Model.CaptureVerifier

/-!
# Verifications of a day

Invocations of the capture and of the verifier run over one object store, any number of them at
once and interleaved in any way, and any call may fail. What a verification says of a source that
it found captured is what the store says ever after; and a day that it calls recovered was put for
every source by a scheduled invocation of that day.
-/

set_option autoImplicit false

namespace Tally.Analysis.Verifications
open Library Library.Prog Library.Sha256 Tally.Model Tally.Model.Capture
  Tally.Model.CaptureVerifier

/-! ## Keys -/

/-- Texts agree before and behind their last separator. -/
theorem split_last {separator : Char} {a b x y : List Char}
    (h : a ++ separator :: x = b ++ separator :: y) (hx : separator ∉ x) (hy : separator ∉ y) :
    a = b ∧ x = y := by
  rcases List.append_eq_append_iff.mp h with ⟨as, rfl, heq⟩ | ⟨bs, rfl, heq⟩
  · cases as with
    | nil => exact ⟨(List.append_nil a).symm, (List.cons.inj heq).2⟩
    | cons c as =>
        have htail := (List.cons.inj heq).2
        exact absurd (htail ▸ List.mem_append_right as List.mem_cons_self) hx
  · cases bs with
    | nil => exact ⟨List.append_nil b, (List.cons.inj heq).2.symm⟩
    | cons c bs =>
        have htail := (List.cons.inj heq).2
        exact absurd (htail ▸ List.mem_append_right bs List.mem_cons_self) hy

/-- The key of a day's object: what is before its last separator, and its name. -/
theorem prefixed_inj {start start' name name' : String}
    (h : start ++ "/" ++ name = start' ++ "/" ++ name') (hname : '/' ∉ name.toList)
    (hname' : '/' ∉ name'.toList) : start = start' ∧ name = name' := by
  have h := congrArg String.toList h
  simp only [String.toList_append, List.append_assoc] at h
  obtain ⟨hstart, hrest⟩ := split_last h hname hname'
  exact ⟨String.toList_inj.mp hstart, String.toList_inj.mp hrest⟩

theorem manifestKey_eq (sourceKey date : String) : buildManifestKey sourceKey date =
    buildObjectPrefix sourceKey date ++ "/" ++ "manifest.json" := by
  unfold buildManifestKey
  rw [String.append_assoc]
  rfl

/-- On days whose texts have no separator, a manifest key tells the source and the day. -/
theorem manifestKey_inj {sourceKey sourceKey' date date' : String}
    (h : buildManifestKey sourceKey date = buildManifestKey sourceKey' date')
    (hdate : '/' ∉ date.toList) (hdate' : '/' ∉ date'.toList) :
    sourceKey = sourceKey' ∧ date = date' := by
  rw [manifestKey_eq, manifestKey_eq] at h
  have hprefix := (prefixed_inj h (by decide) (by decide)).1
  obtain ⟨hkeys, hdates⟩ := prefixed_inj hprefix hdate hdate'
  have hkeys := congrArg String.toList hkeys
  rw [String.toList_append, String.toList_append] at hkeys
  exact ⟨String.toList_inj.mp (List.append_cancel_left hkeys), hdates⟩

/-- What is not the key of a manifest, of any source and day. -/
def NoManifestKey (key : String) : Prop := ∀ sourceKey date, key ≠ buildManifestKey sourceKey date

theorem latestKey_noManifestKey (sourceKey : String) :
    NoManifestKey (buildLatestKey sourceKey) := by
  intro sourceKey' date h
  have hlatest : buildLatestKey sourceKey = "raw/" ++ sourceKey ++ "/" ++ "latest.json" := by
    unfold buildLatestKey
    rw [@String.append_assoc ("raw/" ++ sourceKey)]
    rfl
  rw [hlatest, manifestKey_eq] at h
  exact absurd (prefixed_inj h (by decide) (by decide)).2 (by decide)

theorem inferExtension_mem [CharacterTables] (contentType : String) :
    inferExtension contentType ∈ ["html", "pdf", "txt", "json", "bin"] := by
  have hlookup (base : String) :
      (contentTypeExtensions.lookup base).getD "bin" ∈ ["html", "pdf", "txt", "json", "bin"] := by
    cases h : contentTypeExtensions.lookup base with
    | none => decide
    | some ext =>
        obtain ⟨front, back, hsplit, _⟩ := List.lookup_eq_some_iff.mp h
        have hmem : (base, ext) ∈ contentTypeExtensions :=
          hsplit ▸ List.mem_append_right front List.mem_cons_self
        unfold contentTypeExtensions at hmem
        simp only [List.mem_cons, Prod.mk.injEq, List.not_mem_nil, or_false] at hmem
        simp only [Option.getD_some, List.mem_cons, List.not_mem_nil, or_false]
        rcases hmem with ⟨_, rfl⟩ | ⟨_, rfl⟩ | ⟨_, rfl⟩ | ⟨_, rfl⟩
        · exact .inl rfl
        · exact .inr (.inl rfl)
        · exact .inr (.inr (.inl rfl))
        · exact .inr (.inr (.inr (.inl rfl)))
  exact hlookup _

theorem bodyKey_noManifestKey [CharacterTables] (sourceKey date contentType : String) :
    NoManifestKey (buildBodyKey sourceKey date (inferExtension contentType)) := by
  intro sourceKey' date' h
  have hbody (ext : String) : buildBodyKey sourceKey date ext =
      buildObjectPrefix sourceKey date ++ "/" ++ ("body." ++ ext) := by
    show buildObjectPrefix sourceKey date ++ ("/" ++ "body.") ++ ext = _
    simp only [String.append_assoc]
  have hall : ∀ ext ∈ ["html", "pdf", "txt", "json", "bin"],
      '/' ∉ ("body." ++ ext).toList ∧ "body." ++ ext ≠ "manifest.json" := by decide
  obtain ⟨hslash, hne⟩ := hall _ (inferExtension_mem contentType)
  rw [hbody, manifestKey_eq] at h
  exact hne (prefixed_inj h hslash (by decide)).2

/-! ## The object store -/

/-- What a call may do and return: a put may land though its call raises, and the conditional put
lands only where there is no object. -/
def Handle : (e : Effect) → Bucket → Reply e → Bucket → Prop
  | .headObject key, s, .ok (), s' => s' = s ∧ s key ≠ none
  | .headObject _, s, .error _, s' => s' = s
  | .getObject key, s, .ok object, s' => s' = s ∧ s key = some object
  | .getObject _, s, .error _, s' => s' = s
  | .putObject key object, s, .ok (), s' => s' = s.put key object
  | .putObject key object, s, .error _, s' => s' = s ∨ s' = s.put key object
  | .putNew key object, s, .ok (), s' => s key = none ∧ s' = s.put key object
  | .putNew key object, s, .error _, s' => s' = s ∨ s key = none ∧ s' = s.put key object
  | .fetch _, s, _, s' => s' = s

/-- What a call did to the objects. -/
inductive Effected (s : Bucket) : Effect → Bucket → Prop
  | same (e : Effect) : Effected s e s
  | put (key : String) (object : Object) : Effected s (.putObject key object) (s.put key object)
  | putNew (key : String) (object : Object) (hnew : s key = none) :
      Effected s (.putNew key object) (s.put key object)

theorem effected_of_handle {e : Effect} {s s' : Bucket} {r : Reply e} (h : Handle e s r s') :
    Effected s e s' := by
  cases e with
  | fetch url => exact (show s' = s from h) ▸ Effected.same _
  | headObject key =>
      cases r with
      | ok _ => exact h.1 ▸ Effected.same _
      | error e => exact (show s' = s from h) ▸ Effected.same _
  | getObject key =>
      cases r with
      | ok _ => exact h.1 ▸ Effected.same _
      | error e => exact (show s' = s from h) ▸ Effected.same _
  | putObject key object =>
      cases r with
      | ok _ => exact (show s' = _ from h) ▸ Effected.put key object
      | error e =>
          rcases h with rfl | rfl
          · exact Effected.same _
          · exact Effected.put key object
  | putNew key object =>
      cases r with
      | ok _ => exact h.2 ▸ Effected.putNew key object h.1
      | error e =>
          rcases h with rfl | ⟨hnew, rfl⟩
          · exact Effected.same _
          · exact Effected.putNew key object hnew

/-! ## The invocations -/

/-- An invocation, by what triggered it: a capture with the time that remains to it before each
source, or a verification. -/
inductive Job where
  | capture (now : Moment) (invocation : String) (remaining : Source → Option Int)
  | verify (now : Moment) (invocation : String)

inductive Outcome where
  | captured (results : List CaptureResult)
  | verified (verification : Verification)

section Jobs

variable [Sha256] [CharacterTables] [PointerDecoder] [ManifestDecoder]

/-- The loop of the capture's `lambda_handler` over the sources. -/
def captureEach (now : Moment) (invocation : String) (remaining : Source → Option Int) :
    List Source → Prog Effect Reply (List CaptureResult)
  | [] => .done []
  | source :: sources => do
    let result ← handleSource now invocation source (remaining source)
    let results ← captureEach now invocation remaining sources
    .done (result :: results)

/-- What an invocation runs. -/
def Job.program (sources : List Source) : Job → Prog Effect Reply (Except CaptureError Outcome)
  | .capture now invocation remaining => do
    let results ← captureEach now invocation remaining sources
    .done (.ok (.captured results))
  | .verify now invocation => do
    match ← (lambdaHandler sources now invocation).run with
    | .ok verification => .done (.ok (.verified verification))
    | .error e => .done (.error e)

variable {ι : Type} [DecidableEq ι]

abbrev Invocations (ι : Type) : Type :=
  Pool ι Effect Reply (Except CaptureError Outcome) Bucket

/-- An invocation runs its job, again and again if it is retried. -/
def Starts (sources : List Source) (jobs : ι → Job) (i : ι)
    (p : Prog Effect Reply (Except CaptureError Outcome)) (s s' : Bucket) : Prop :=
  p = (jobs i).program sources ∧ s' = s

/-- An invocation has returned, or is killed anywhere. -/
def Stops (_ : ι) (_ : Prog Effect Reply (Except CaptureError Outcome)) (s s' : Bucket) : Prop :=
  s' = s

def Step (sources : List Source) (jobs : ι → Job) : Invocations ι → Invocations ι → Prop :=
  Pool.Step (fun _ => Handle) (Starts sources jobs) Stops

def Reaches (sources : List Source) (jobs : ι → Job) (initial : Bucket) :
    Invocations ι → Prop :=
  Pool.Reaches (fun _ => Handle) (Starts sources jobs) Stops initial

end Jobs

/-! ## What captures put -/

/-- A manifest tells its source, the time and the trigger of the invocation that put it. -/
structure Written (source : Source) (now : Moment) (invocation : String) (members : Members) :
    Prop where
  source : members.lookup "source_key" = some (.str source.key)
  capturedAt : members.lookup "captured_at" = some (.str now.isoformat)
  invocation : members.lookup "invocation" = some (.str invocation)

theorem written_buildManifest (source : Source) (now : Moment) (status invocation : String)
    (fetched : Fetched) (more : Members) :
    Written source now invocation (buildManifest source now status invocation fetched ++ more) :=
  ⟨rfl, rfl, rfl⟩

/-- What an invocation promises of a call: no object is put over a manifest, and a manifest is put
by a capture under the key of its source and day. -/
def Promise {ι : Type} (jobs : ι → Job) : Effect → Prop
  | .putObject key _ => NoManifestKey key
  | .putNew key object => ∃ i source now invocation remaining members,
      jobs i = .capture now invocation remaining ∧ key = buildManifestKey source.key now.date ∧
        object = .json members ∧ Written source now invocation members
  | _ => True

section Captures

variable [Sha256] [CharacterTables] [PointerDecoder] {ι : Type} {jobs : ι → Job} {i : ι}
  {now : Moment} {invocation : String} {remaining : Source → Option Int}

omit [Sha256] [CharacterTables] [PointerDecoder] in
theorem within_manifestExists (key : String) :
    Within (Promise jobs) (manifestExists key).run := by
  unfold manifestExists
  refine Within.except_bind (Within.lift trivial) fun r => ?_
  cases r with
  | ok _ => exact Within.pure true
  | error e =>
      dsimp only
      split
      · exact Within.pure false
      · exact Within.throw _

omit [Sha256] [CharacterTables] [PointerDecoder] in
theorem within_writeManifest (hjob : jobs i = .capture now invocation remaining)
    {source : Source} {members : Members} (hwritten : Written source now invocation members) :
    Within (Promise jobs) (writeManifest (buildManifestKey source.key now.date) members).run := by
  unfold writeManifest
  refine Within.except_bind (Within.lift ⟨i, source, now, invocation, remaining, members, hjob, rfl,
    rfl, hwritten⟩) fun r => ?_
  cases r with
  | ok _ => exact Within.pure ()
  | error e =>
      dsimp only
      split
      · exact Within.throw _
      · exact Within.throw _

omit [Sha256] [CharacterTables] [PointerDecoder] in
theorem within_recordFailure (hjob : jobs i = .capture now invocation remaining)
    {source : Source} {members : Members} (hwritten : Written source now invocation members) :
    Within (Promise jobs) (recordFailure source now invocation members).run := by
  unfold recordFailure
  refine Within.tryCatch (Within.except_bind (within_writeManifest hjob hwritten) fun _ =>
    Within.pure _) fun e => ?_
  cases e with
  | manifestAlreadyWritten => exact Within.pure _
  | s3 e => exact Within.throw _

omit [Sha256] [CharacterTables] in
theorem within_readLatestPointer (sourceKey : String) :
    Within (Promise jobs) (readLatestPointerSha256 sourceKey).run := by
  unfold readLatestPointerSha256
  refine Within.except_bind (Within.lift trivial) fun r => ?_
  cases r with
  | ok _ => exact Within.pure _
  | error e =>
      dsimp only
      split
      · exact Within.pure _
      · exact Within.throw _

omit [Sha256] [CharacterTables] [PointerDecoder] in
theorem within_writeLatestPointer (sourceKey digest manifestKey : String) :
    Within (Promise jobs) (writeLatestPointer sourceKey digest now manifestKey).run := by
  unfold writeLatestPointer
  refine Within.except_bind (Within.lift (latestKey_noManifestKey sourceKey)) fun r => ?_
  cases r with
  | ok _ => exact Within.pure ()
  | error e => exact Within.throw _

omit [CharacterTables] in
theorem within_recordBody (hjob : jobs i = .capture now invocation remaining) (source : Source)
    (response : FetchResponse) (bodyKey : String) :
    Within (Promise jobs) (recordBody source now invocation response bodyKey).run := by
  unfold recordBody
  refine Within.except_bind (within_readLatestPointer source.key) fun previous => ?_
  refine Within.except_bind (within_writeManifest hjob (written_buildManifest source now "ok"
    invocation _ _)) fun _ => ?_
  exact Within.except_bind (within_writeLatestPointer source.key _ _) fun _ => Within.pure _

omit [CharacterTables] [PointerDecoder] in
theorem within_recover (hjob : jobs i = .capture now invocation remaining) (source : Source)
    (response : FetchResponse) (bodyKey : String) (bodyWritten : Bool) (e : CaptureError) :
    Within (Promise jobs) (recover source now invocation response bodyKey bodyWritten e).run := by
  unfold recover
  cases e with
  | manifestAlreadyWritten => exact Within.pure _
  | s3 e =>
      refine Within.tryCatch (within_recordFailure hjob ?_) fun _ => Within.pure _
      rw [List.append_assoc]
      exact written_buildManifest source now "failed" invocation _ _

theorem within_captureOneSource (hjob : jobs i = .capture now invocation remaining)
    (source : Source) :
    Within (Promise jobs) (captureOneSource source now invocation).run := by
  unfold captureOneSource
  refine Within.except_bind (within_manifestExists _) fun captured => ?_
  split
  · exact Within.pure _
  refine Within.except_bind (Within.lift trivial) fun r => ?_
  cases r with
  | error text =>
      exact within_recordFailure hjob (written_buildManifest source now "failed" invocation _ _)
  | ok response =>
      dsimp only
      split
      · refine within_recordFailure hjob ?_
        rw [← List.append_nil (buildManifest source now "failed" invocation (fetchedOf response))]
        exact written_buildManifest source now "failed" invocation _ []
      · refine Within.except_bind (Within.lift (bodyKey_noManifestKey _ _ _)) fun r => ?_
        cases r with
        | error e => exact within_recover hjob source response _ false (.s3 e)
        | ok _ =>
            exact Within.tryCatch (within_recordBody hjob source response _) fun e =>
              within_recover hjob source response _ true e

theorem within_handleSource (hjob : jobs i = .capture now invocation remaining) (source : Source)
    (left : Option Int) :
    Within (Promise jobs) (handleSource now invocation source left) := by
  unfold handleSource
  split
  · exact .done _
  · refine Within.bind (within_captureOneSource hjob source) fun r => ?_
    cases r with
    | ok result => exact .done _
    | error e => exact .done _

/-- A capture keeps its promise for every source. -/
theorem within_captureEach (hjob : jobs i = .capture now invocation remaining)
    (sources : List Source) :
    Within (Promise jobs) (captureEach now invocation remaining sources) := by
  induction sources with
  | nil => exact .done _
  | cons source sources ih =>
      refine Within.bind (within_handleSource hjob source _) fun result => ?_
      exact Within.bind ih fun results => .done _

end Captures

/-! ## What verifications read -/

/-- What the store says of a source on a day. -/
def verdict [ManifestDecoder] (s : Bucket) (sourceKey today : String) : String :=
  resolveManifestStatus ((s (buildManifestKey sourceKey today)).map manifestOf) today

/-- A manifest that is there stays as it is. -/
def Kept (s s' : Bucket) : Prop := ∀ sourceKey date object,
  s (buildManifestKey sourceKey date) = some object →
    s' (buildManifestKey sourceKey date) = some object

/-- A manifest was there, and the outcome is what the store says of it. -/
structure Settled [ManifestDecoder] (today : String) (s : Bucket) (r : SourceVerification) :
    Prop where
  there : s (buildManifestKey r.sourceKey today) ≠ none
  verdict : r.manifestStatus = verdict s r.sourceKey today

/-- The outcomes of a verification: one for each source, missing or settled. -/
structure Verified [ManifestDecoder] (sources : List Source) (today : String)
    (results : List SourceVerification) (s : Bucket) : Prop where
  sources : results.map SourceVerification.sourceKey = sources.map Source.key
  settled : ∀ r ∈ results, r.manifestStatus = "missing" ∨ Settled today s r

section Verifications

variable [ManifestDecoder] {ι : Type} {jobs : ι → Job} {inv : Bucket → Prop} {s s' : Bucket}
  {today : String}

omit [ManifestDecoder] in
theorem Kept.refl (s : Bucket) : Kept s s := fun _ _ _ h => h

omit [ManifestDecoder] in
theorem Kept.trans {a b c : Bucket} (h : Kept a b) (h' : Kept b c) : Kept a c :=
  fun sourceKey date object hobject => h' sourceKey date object (h sourceKey date object hobject)

theorem Settled.kept {r : SourceVerification} (h : Settled today s r) (hkept : Kept s s') :
    Settled today s' r := by
  obtain ⟨object, hobject⟩ := Option.ne_none_iff_exists'.mp h.there
  have hobject' := hkept r.sourceKey today object hobject
  refine ⟨by simp [hobject'], h.verdict.trans ?_⟩
  unfold Verifications.verdict
  rw [hobject, hobject']

theorem Verified.kept {sources : List Source} {results : List SourceVerification}
    (h : Verified sources today results s) (hkept : Kept s s') :
    Verified sources today results s' :=
  ⟨h.sources, fun r hr => (h.settled r hr).imp_right fun hsettled => hsettled.kept hkept⟩

theorem Verified.nil : Verified [] today [] s := ⟨rfl, fun _ h => absurd h List.not_mem_nil⟩

theorem Verified.cons {source : Source} {sources : List Source} {r : SourceVerification}
    {results : List SourceVerification} (hkey : r.sourceKey = source.key)
    (hr : r.manifestStatus = "missing" ∨ Settled today s r)
    (h : Verified sources today results s) :
    Verified (source :: sources) today (r :: results) s := by
  refine ⟨?_, fun r' hr' => ?_⟩
  · rw [List.map_cons, List.map_cons, hkey, h.sources]
  · rcases List.mem_cons.mp hr' with rfl | hr'
    · exact hr
    · exact h.settled r' hr'

/-- A call within its promise. -/
def Contract (jobs : ι → Job) (e : Effect) (s : Bucket) (r : Reply e) (s' : Bucket) : Prop :=
  Handle e s r s' ∧ Promise jobs e

omit [ManifestDecoder] in
theorem kept_of_contract {e : Effect} {r : Reply e} (h : Contract jobs e s r s') : Kept s s' := by
  obtain ⟨hhandle, hpromise⟩ := h
  intro sourceKey date object hobject
  cases effected_of_handle hhandle with
  | same => exact hobject
  | put key object' =>
      exact (Function.update_of_ne (hpromise sourceKey date).symm _ s).trans hobject
  | putNew key object' hnew =>
      have hne : buildManifestKey sourceKey date ≠ key := by
        rintro rfl
        exact absurd (hnew.symm.trans hobject) (by simp)
      exact (Function.update_of_ne hne _ s).trans hobject

abbrev Reads {α : Type} (jobs : ι → Job) (inv : Bucket → Prop) (Q : α → Bucket → Prop)
    (p : CaptureM α) (s : Bucket) : Prop :=
  Sound inv Handle Kept (Contract jobs) (Ends (fun _ => True) Q) p.run s

omit [ManifestDecoder] in
theorem stable_true : Stable Kept fun _ : Bucket => True := fun _ _ _ _ => trivial

/-- What was read at a key: nothing, or the manifest that is there. -/
def Found (key : String) (manifest : Option Members) (s : Bucket) : Prop :=
  manifest = none ∨ ∃ object, s key = some object ∧ manifest = some (manifestOf object)

theorem stable_found (sourceKey date : String) (manifest : Option Members) :
    Stable Kept fun s => True ∧ Found (buildManifestKey sourceKey date) manifest s := by
  rintro s s' ⟨-, hfound⟩ hkept
  refine ⟨trivial, hfound.imp_right ?_⟩
  rintro ⟨object, hobject, rfl⟩
  exact ⟨object, hkept sourceKey date object hobject, rfl⟩

theorem reads_readManifest (sourceKey date : String) :
    Reads jobs inv (Found (buildManifestKey sourceKey date))
      (readManifest (buildManifestKey sourceKey date)) s := by
  unfold readManifest
  refine Sound.ends_bind (Q := fun _ _ => True) (Sound.weaken (Within.sound
    (within_manifestExists _) fun e s r s' hpromise hhandle => ⟨hhandle, hpromise⟩) ?_)
    stable_true fun there s _ _ => ?_
  · rintro (e | there) s -
    · exact ⟨trivial, stable_true⟩
    · exact ⟨⟨trivial, trivial⟩, fun _ _ _ _ => ⟨trivial, trivial⟩⟩
  · split
    · refine Sound.perform (fun _ => True) trivial stable_true
        (fun s r s' _ _ hhandle => ⟨hhandle, trivial⟩) fun s r s' _ _ hhandle => ?_
      cases r with
      | ok object =>
          obtain ⟨rfl, hobject⟩ := hhandle
          exact Sound.pure trivial (.inr ⟨object, hobject, rfl⟩) (stable_found _ _ _)
      | error e => exact Sound.thrown trivial stable_true
    · exact Sound.pure trivial (.inl rfl) (stable_found _ _ _)

theorem stable_verified (sources : List Source) (today : String)
    (results : List SourceVerification) :
    Stable Kept fun s => True ∧ Verified sources today results s :=
  fun _ _ h hkept => ⟨trivial, h.2.kept hkept⟩

/-- What is found makes an outcome that is missing or settled. -/
theorem settled_of_found {source : Source} {manifest : Option Members}
    (h : Found (buildManifestKey source.key today) manifest s) :
    resolveManifestStatus manifest today = "missing" ∨
      Settled today s ⟨source.key, resolveManifestStatus manifest today⟩ := by
  rcases h with rfl | ⟨object, hobject, rfl⟩
  · exact .inl rfl
  · refine .inr ⟨by simp [hobject], ?_⟩
    unfold Verifications.verdict
    rw [hobject, Option.map_some]

/-- What is read is settled, and stays so while the rest is read. -/
theorem reads_verifyEach (sources : List Source) (s : Bucket) :
    Reads jobs inv (Verified sources today) (verifyEach today sources) s := by
  induction sources generalizing s with
  | nil => exact Sound.pure trivial Verified.nil (stable_verified _ _ _)
  | cons source sources ih =>
      unfold verifyEach
      refine Sound.ends_bind (reads_readManifest source.key today) stable_true
        fun manifest s _ hfound => ?_
      have hstable : Stable Kept fun s => Found (buildManifestKey source.key today) manifest s :=
        fun s s' h hkept => (stable_found source.key today manifest s s' ⟨trivial, h⟩ hkept).2
      refine Sound.except_bind (Prog.frame (ih s) hstable
        (fun _ _ _ _ hcontract => kept_of_contract hcontract) hfound) (fun results s h => ?_)
        (fun _ _ _ => trivial) fun _ => stable_true
      obtain ⟨⟨_, hverified⟩, hfound⟩ := h
      exact Sound.pure trivial (Verified.cons rfl (settled_of_found hfound) hverified)
        (stable_verified _ _ _)

/-- What a verification returns. -/
structure Reported (sources : List Source) (now : Moment) (invocation : String)
    (v : Verification) (s : Bucket) : Prop where
  verified : Verified sources now.date v.summary.results s
  missingOrFailed : v.summary.missingOrFailed =
    (v.summary.results.filter fun r => !r.isOk).map SourceVerification.sourceKey
  recoveryGap : v.recoveryGap = if v.summary.results.all SourceVerification.isOk then 0 else 1

theorem reads_lambdaHandler (sources : List Source) (now : Moment) (invocation : String)
    (s : Bucket) :
    Reads jobs inv (Reported sources now invocation) (lambdaHandler sources now invocation) s := by
  unfold CaptureVerifier.lambdaHandler verifySources
  refine Sound.ends_bind (Q := fun r s => Verified sources now.date r.1 s ∧
    r.2 = r.1.all SourceVerification.isOk) ?_ stable_true fun r s _ hr => ?_
  · refine Sound.ends_bind (reads_verifyEach sources s) stable_true fun results s _ h => ?_
    exact Sound.pure trivial ⟨h, rfl⟩ fun s s' h hkept => ⟨trivial, h.2.1.kept hkept, rfl⟩
  · obtain ⟨results, allOk⟩ := r
    obtain ⟨hverified, hall⟩ := hr
    obtain rfl : allOk = results.all SourceVerification.isOk := hall
    exact Sound.pure trivial ⟨hverified, rfl, rfl⟩ fun s s' h hkept =>
      ⟨trivial, h.2.verified.kept hkept, rfl, rfl⟩

end Verifications

/-! ## Runs -/

/-- Every manifest of the day was put by a capture of that day. -/
def Recorded {ι : Type} (jobs : ι → Job) (today : String) (s : Bucket) : Prop :=
  ∀ sourceKey object, s (buildManifestKey sourceKey today) = some object →
    ∃ i source now invocation remaining members, jobs i = .capture now invocation remaining ∧
      source.key = sourceKey ∧ now.date = today ∧ object = .json members ∧
        Written source now invocation members

/-- A manifest with a verdict of ok has that status, and its trigger where that is checked. -/
theorem ok_of_resolve {source : Source} {now : Moment} {invocation today : String}
    {members : Members} (hwritten : Written source now invocation members)
    (h : resolveManifestStatus (some members) today = "ok") :
    members.lookup "status" = some (.str "ok") ∧
      (invocationCheckStarts ≤ today → invocation = "scheduled") := by
  unfold resolveManifestStatus at h
  dsimp only at h
  split at h
  case h_1 status hstatus =>
      by_cases hok : status = "ok"
      · subst hok
        refine ⟨hstatus, fun hchecked => ?_⟩
        by_contra hne
        have hnot : isScheduled members = false := by
          unfold isScheduled
          rw [hwritten.invocation]
          exact beq_eq_false_iff_ne.mpr hne
        simp [hchecked, hnot] at h
      · rw [if_pos hok] at h
        exact absurd h hok
  case h_2 => exact absurd h (by decide)

/-- The texts of days have no separators. -/
def DayTexts {ι : Type} (jobs : ι → Job) : Prop :=
  ∀ i now invocation remaining, jobs i = .capture now invocation remaining →
    '/' ∉ now.date.toList

section Runs

variable [Sha256] [CharacterTables] [PointerDecoder] [ManifestDecoder] {ι : Type} [DecidableEq ι]
  {sources : List Source} {jobs : ι → Job} {today : String}

omit [Sha256] [CharacterTables] [PointerDecoder] [ManifestDecoder] [DecidableEq ι] in
/-- Every call keeps what the manifests of the day tell. -/
theorem Recorded.kept (hdays : DayTexts jobs) (htoday : '/' ∉ today.toList) {e : Effect}
    {s s' : Bucket} {r : Reply e} (h : Recorded jobs today s) (hcontract : Contract jobs e s r s') :
    Recorded jobs today s' := by
  obtain ⟨hhandle, hpromise⟩ := hcontract
  intro sourceKey object hobject
  cases effected_of_handle hhandle with
  | same => exact h sourceKey object hobject
  | put key object' =>
      have hne := (hpromise sourceKey today).symm
      exact h sourceKey object ((Function.update_of_ne hne _ s).symm.trans hobject)
  | putNew key object' hnew =>
      obtain ⟨i, source, now, invocation, remaining, members, hjob, rfl, rfl, hwritten⟩ := hpromise
      by_cases hkey : buildManifestKey sourceKey today = buildManifestKey source.key now.date
      · obtain ⟨hsource, hdate⟩ := manifestKey_inj hkey htoday (hdays i now _ _ hjob)
        rw [hkey] at hobject
        have hput := Option.some.inj ((Function.update_self _ _ s).symm.trans hobject)
        exact ⟨i, source, now, invocation, remaining, members, hjob, hsource.symm, hdate.symm,
          hput.symm, hwritten⟩
      · exact h sourceKey object ((Function.update_of_ne hkey _ s).symm.trans hobject)

/-- What holds once an invocation has returned. -/
def Post (sources : List Source) : Job → Except CaptureError Outcome → Bucket → Prop
  | .verify now invocation, .ok (.verified v), s => Reported sources now invocation v s
  | _, _, _ => True

omit [Sha256] [CharacterTables] [PointerDecoder] in
theorem stable_post (sources : List Source) (job : Job) (r : Except CaptureError Outcome) :
    Stable Kept (Post sources job r) := by
  intro s s' h hkept
  rcases job with _ | ⟨now, invocation⟩
  · exact trivial
  · rcases r with e | (results | v)
    · exact trivial
    · exact trivial
    · exact ⟨h.verified.kept hkept, h.missingOrFailed, h.recoveryGap⟩

omit [DecidableEq ι] in
/-- Every invocation keeps its promises and has its postcondition. -/
theorem sound_program {i : ι} {inv : Bucket → Prop} (s : Bucket) :
    Sound inv Handle Kept (Contract jobs) (Post sources (jobs i)) ((jobs i).program sources) s := by
  cases hjob : jobs i with
  | capture now invocation remaining =>
      have hwithin := within_captureEach hjob sources
      refine Sound.weaken (Within.sound (Within.bind hwithin fun results => .done _)
        fun e s r s' hpromise hhandle => ⟨hhandle, hpromise⟩) fun r s _ => ?_
      exact ⟨trivial, fun _ _ _ _ => trivial⟩
  | verify now invocation =>
      refine Sound.bind (reads_lambdaHandler sources now invocation s) fun r s hr => ?_
      cases r with
      | ok v => exact .done hr.2 (stable_post sources (.verify now invocation) _)
      | error e => exact .done trivial (stable_post sources (.verify now invocation) _)

/-- What all invocations keep to. -/
def conduct (sources : List Source) (jobs : ι → Job) (today : String) (hdays : DayTexts jobs)
    (htoday : '/' ∉ today.toList) :
    Conduct (fun _ : ι => Handle) (Starts sources jobs) Stops where
  inv := Recorded jobs today
  rely := Kept
  contract := Contract jobs
  post i := Post sources (jobs i)
  rely_refl := Kept.refl
  rely_trans _ _ _ := Kept.trans
  others _ _ _ _ _ := kept_of_contract
  kept _ _ _ _ := Recorded.kept hdays htoday
  started _ _ s _ h := ⟨h.2, h.1 ▸ sound_program s⟩
  stopped _ _ _ _ h := h

omit [Sha256] [CharacterTables] [PointerDecoder] [DecidableEq ι] in
/-- What the store says is ok was put by a capture of the day, scheduled where that is checked. -/
theorem Recorded.ok {s : Bucket} {sourceKey : String} (h : Recorded jobs today s)
    (hthere : s (buildManifestKey sourceKey today) ≠ none)
    (hok : verdict s sourceKey today = "ok") :
    ∃ i source now invocation remaining members, jobs i = .capture now invocation remaining ∧
      source.key = sourceKey ∧ now.date = today ∧
        s (buildManifestKey sourceKey today) = some (.json members) ∧
          Written source now invocation members ∧
            members.lookup "status" = some (.str "ok") ∧
              (invocationCheckStarts ≤ today → invocation = "scheduled") := by
  obtain ⟨object, hobject⟩ := Option.ne_none_iff_exists'.mp hthere
  obtain ⟨i, source, now, invocation, remaining, members, hjob, hsource, hnow, rfl, hwritten⟩ :=
    h sourceKey object hobject
  refine ⟨i, source, now, invocation, remaining, members, hjob, hsource, hnow, hobject, hwritten,
    ?_⟩
  unfold verdict at hok
  rw [hobject] at hok
  exact ok_of_resolve hwritten hok

/-- Whatever a verification says of a source that it found captured, the store says at every later
moment. A verification that reports no gap has found for every source an ok manifest that a capture
of that day had put, and from the first day of the check on that capture was a scheduled one; the
manifest stays. Every interleaving of the invocations and every failure of a call is allowed.
SOURCE: src/capture/verifier.py:87-259 -/
theorem verdicts_last {initial : Bucket} {pool pool' : Invocations ι} {i : ι} {now : Moment}
    {invocation : String} {v : Verification} (hdays : DayTexts jobs) (hday : '/' ∉ now.date.toList)
    (hinitial : ∀ sourceKey, initial (buildManifestKey sourceKey now.date) = none)
    (hreaches : Reaches sources jobs initial pool) (hjob : jobs i = .verify now invocation)
    (hended : pool.threads i = some (.done (.ok (.verified v))))
    (hlater : Relation.ReflTransGen (Step sources jobs) pool pool') :
    v.summary.results.map SourceVerification.sourceKey = sources.map Source.key ∧
      (∀ r ∈ v.summary.results, r.manifestStatus = "missing" ∨
        pool'.shared (buildManifestKey r.sourceKey now.date) ≠ none ∧
          r.manifestStatus = verdict pool'.shared r.sourceKey now.date) ∧
      (v.recoveryGap = 0 ↔ v.summary.missingOrFailed = []) ∧
      (v.recoveryGap = 0 → ∀ source ∈ sources, ∃ j captured trigger remaining members,
        jobs j = .capture captured trigger remaining ∧ captured.date = now.date ∧
          (invocationCheckStarts ≤ now.date → trigger = "scheduled") ∧
          pool'.shared (buildManifestKey source.key now.date) = some (.json members) ∧
          members.lookup "status" = some (.str "ok") ∧
          members.lookup "captured_at" = some (.str captured.isoformat)) := by
  have hstart : (conduct sources jobs now.date hdays hday).Governs ⟨initial, fun _ => none⟩ :=
    (conduct sources jobs now.date hdays hday).governs_initial fun sourceKey object hobject =>
      absurd ((hinitial sourceKey).symm.trans hobject) (by simp)
  have hpool := (hstart.steps hreaches).1
  obtain ⟨hpool', hkept⟩ := hpool.steps hlater
  have hpost : Post sources (jobs i) (.ok (.verified v)) pool.shared := hpool.ended hended
  rw [hjob] at hpost
  have hreported : Reported sources now invocation v pool.shared := hpost
  have hverified := hreported.verified.kept hkept
  have hgap : v.recoveryGap = 0 ↔ ∀ r ∈ v.summary.results, r.isOk = true := by
    rw [hreported.recoveryGap, ← List.all_eq_true]
    cases v.summary.results.all SourceVerification.isOk with
    | true => simp
    | false => simp
  refine ⟨hverified.sources, fun r hr => ?_, ?_, fun hzero source hsource => ?_⟩
  · exact (hverified.settled r hr).imp_right fun h => ⟨h.there, h.verdict⟩
  · rw [hgap, hreported.missingOrFailed, List.map_eq_nil_iff, List.filter_eq_nil_iff]
    simp
  · have hkeys : source.key ∈ v.summary.results.map SourceVerification.sourceKey :=
      hverified.sources ▸ List.mem_map_of_mem hsource
    obtain ⟨r, hr, hkey⟩ := List.mem_map.mp hkeys
    have hok : r.manifestStatus = "ok" := beq_iff_eq.mp (hgap.mp hzero r hr)
    rcases hverified.settled r hr with hmissing | hsettled
    · exact absurd (hmissing.symm.trans hok) (by decide)
    · obtain ⟨j, source', captured, trigger, remaining, members, hj, _, hdate, hmembers, hwritten,
        hstatus, hscheduled⟩ := hpool'.inv.ok hsettled.there (hsettled.verdict.symm.trans hok)
      exact ⟨j, captured, trigger, remaining, members, hj, hdate, hscheduled, hkey ▸ hmembers,
        hstatus, hwritten.capturedAt⟩

end Runs

/-! ## A day captured and verified -/

section Case

@[reducible] def caseCharacters : CharacterTables where
  isDecimal := Char.isDigit
  isSpace := Char.isWhitespace
  lower := List.map Char.toLower

local instance : Sha256 := Sha256.standard

local instance : CharacterTables := caseCharacters

local instance : PointerDecoder := ⟨fun _ => none⟩

local instance : ManifestDecoder := ⟨fun _ => none⟩

def caseSource : Source where
  key := "northstar-ocean-demo-tariff"
  laneLabel := "NP-SP"
  url := "https://fixtures.example.invalid/northstar/tariff.html"
  expectedContentType := "text/html"

def caseNow : Moment := ⟨"2026-07-06", "2026-07-06T08:00:00+00:00"⟩

def caseCheck : Moment := ⟨"2026-07-06", "2026-07-06T10:00:00+00:00"⟩

def caseJobs : Bool → Job
  | true => .capture caseNow "scheduled" fun _ => none
  | false => .verify caseCheck "scheduled"

def caseAbsent : S3Error := .client "404" "Not Found"

def caseResponse : FetchResponse := ⟨200, fun _ => none, [97]⟩

def caseKey : String :=
  buildBodyKey caseSource.key caseNow.date (inferExtension caseSource.expectedContentType)

def caseManifest : Members :=
  buildManifest caseSource caseNow "ok" "scheduled" (fetchedOf caseResponse) ++
    [("body_key", .str caseKey), ("sha256_prev_delta", .str "changed")]

/-- A capture, and a verification that reads its manifest before the pointer is put. -/
theorem case_ended : ∃ (pool : Invocations Bool) (v : Verification),
    Reaches [caseSource] caseJobs (fun _ => none) pool ∧
      pool.threads false = some (.done (.ok (.verified v))) ∧ v.recoveryGap = 0 := by
  have h : Reaches [caseSource] caseJobs (fun _ => none) _ :=
    Pool.Reaches.start .refl true rfl ⟨rfl, rfl⟩
  replace h := Pool.Reaches.start h false rfl ⟨rfl, rfl⟩
  replace h := Pool.Reaches.perform h true
    (.headObject (buildManifestKey caseSource.key caseNow.date)) (.error caseAbsent) _ rfl rfl
  replace h := Pool.Reaches.perform h true (.fetch caseSource.url) (.ok caseResponse) _ rfl rfl
  replace h := Pool.Reaches.perform h true (.putObject caseKey (.bytes [97])) (.ok ()) _ rfl rfl
  replace h := Pool.Reaches.perform h true (.getObject (buildLatestKey caseSource.key))
    (.error caseAbsent) _ rfl rfl
  have hnew : Bucket.put (fun _ => none) caseKey (.bytes [97])
      (buildManifestKey caseSource.key caseNow.date) = none :=
    Function.update_of_ne (bodyKey_noManifestKey caseSource.key caseNow.date
      caseSource.expectedContentType caseSource.key caseNow.date).symm _ _
  replace h := Pool.Reaches.perform h true
    (.putNew (buildManifestKey caseSource.key caseNow.date) (.json caseManifest)) (.ok ()) _ rfl
    ⟨hnew, rfl⟩
  have hput : Bucket.put (Bucket.put (fun _ => none) caseKey (.bytes [97]))
      (buildManifestKey caseSource.key caseNow.date) (.json caseManifest)
        (buildManifestKey caseSource.key caseNow.date) = some (.json caseManifest) :=
    Function.update_self _ _ _
  replace h := Pool.Reaches.perform h false
    (.headObject (buildManifestKey caseSource.key caseNow.date)) (.ok ()) _ rfl
    ⟨rfl, fun hnone => absurd (hput.symm.trans hnone) (by simp)⟩
  replace h := Pool.Reaches.perform h false
    (.getObject (buildManifestKey caseSource.key caseNow.date)) (.ok (.json caseManifest)) _ rfl
    ⟨rfl, hput⟩
  exact ⟨_, _, h, rfl, by decide⟩

/-- The day is recovered, and was put by the scheduled capture. -/
theorem verdicts_last_recovered : ∃ (pool : Invocations Bool) (v : Verification),
    v.recoveryGap = 0 ∧ ∃ j captured trigger remaining members,
      caseJobs j = .capture captured trigger remaining ∧ captured.date = caseNow.date ∧
        trigger = "scheduled" ∧
          pool.shared (buildManifestKey caseSource.key caseNow.date) = some (.json members) := by
  obtain ⟨pool, v, hreaches, hended, hgap⟩ := case_ended
  have hdays : DayTexts caseJobs := by
    rintro (_ | _) now invocation remaining hjob
    · exact absurd hjob (by simp [caseJobs])
    · obtain ⟨rfl, _⟩ := Job.capture.inj hjob
      decide
  have hday : '/' ∉ caseCheck.date.toList := by decide
  have hjob : caseJobs false = .verify caseCheck "scheduled" := rfl
  obtain ⟨_, _, _, hall⟩ :=
    verdicts_last hdays hday (fun _ => rfl) hreaches hjob hended .refl
  obtain ⟨j, captured, trigger, remaining, members, hj, hdate, hchecked, hmembers, _⟩ :=
    hall hgap caseSource List.mem_cons_self
  exact ⟨pool, v, hgap, j, captured, trigger, remaining, members, hj, hdate, hchecked (by decide),
    hmembers⟩

end Case

end Tally.Analysis.Verifications
