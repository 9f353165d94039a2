import Tally.Model.Capture

/-!
# Races of captures

Any number of invocations capture one source on one day over one object store. The manifest
is put only where none is, so it never changes. The body is put unconditionally: the manifest
goes on recording the bytes at its body key exactly as long as no other bytes are put there
while an invocation has them still to record, or once a manifest records them.
-/

set_option autoImplicit false

namespace Tally.Analysis.CaptureRaces
open Library Library.Sha256 Tally.Model Tally.Model.Capture

/-! ## Keys -/

theorem bodyKey_ne_manifestKey (sourceKey date ext : String) :
    buildBodyKey sourceKey date ext ≠ buildManifestKey sourceKey date := by
  intro h
  unfold buildBodyKey buildManifestKey at h
  have h := congrArg String.toList h
  simp only [String.toList_append, List.append_assoc] at h
  have htail := List.append_cancel_left h
  have hsecond := congrArg (fun text => text[1]?) htail
  exact absurd hsecond (by simp)

/-- A key of a day has a separator more than the key of the pointer. -/
theorem dayKey_ne_latestKey (sourceKey date name : String) (hname : '/' ∈ name.toList) :
    buildObjectPrefix sourceKey date ++ name ≠ buildLatestKey sourceKey := by
  intro h
  unfold buildObjectPrefix buildLatestKey at h
  have hcount := congrArg (fun text => text.toList.count '/') h
  have hpos : 0 < name.toList.count '/' := List.count_pos_iff.mpr hname
  have hone : "/".toList.count '/' = 1 := rfl
  have hlatest : "/latest.json".toList.count '/' = 1 := rfl
  simp only [String.toList_append, List.count_append] at hcount
  omega

theorem bodyKey_ne_latestKey (sourceKey date ext : String) :
    buildBodyKey sourceKey date ext ≠ buildLatestKey sourceKey := by
  unfold buildBodyKey
  rw [String.append_assoc]
  refine dayKey_ne_latestKey sourceKey date _ ?_
  rw [String.toList_append]
  exact List.mem_append_left _ List.mem_cons_self

theorem manifestKey_ne_latestKey (sourceKey date : String) :
    buildManifestKey sourceKey date ≠ buildLatestKey sourceKey :=
  dayKey_ne_latestKey sourceKey date _ List.mem_cons_self

/-! ## The object store -/

/-- The objects, and the body each invocation has put and has still to record: its key and its
hash. -/
structure Shared (ι : Type) where
  bucket : String → Option Object
  placed : ι → Option (String × String) := fun _ => none

/-- The bytes at a key have a hash. -/
def Hashes [Sha256] (bucket : String → Option Object) (bodyKey digest : String) : Prop :=
  ∃ content, bucket bodyKey = some (.bytes content) ∧ hexdigest content = digest

/-- An ok manifest records a body key and a hash. -/
def Records (manifest : Members) (bodyKey digest : String) : Prop :=
  manifest.lookup "body_key" = some (.str bodyKey) ∧ manifest.lookup "sha256" = some (.str digest)

def IsOk (manifest : Members) : Prop := manifest.lookup "status" = some (.str "ok")

section Handling

variable {ι : Type} [DecidableEq ι] [Sha256]

def Shared.put (s : Shared ι) (key : String) (object : Object) : Shared ι :=
  { s with bucket := Function.update s.bucket key (some object) }

/-- The invocation has nothing to record any more. -/
def Shared.drop (s : Shared ι) (i : ι) : Shared ι :=
  { s with placed := Function.update s.placed i none }

/-- The invocation has put an object: bytes are a body it has to record. -/
def Shared.place (s : Shared ι) (i : ι) (key : String) : Object → Shared ι
  | .bytes content =>
    { s with placed := Function.update s.placed i (some (key, hexdigest content)) }
  | .json _ => s

/-- What a call may do and return. A put may land though its call raises; the conditional put
lands only where there is no object. -/
def Handle (i : ι) : (e : Effect) → Shared ι → Reply e → Shared ι → Prop
  | .headObject key, s, .ok (), s' => s' = s ∧ s.bucket key ≠ none
  | .headObject key, s, .error e, s' => s' = s ∧ (e.notFound = true → s.bucket key = none)
  | .getObject key, s, .ok object, s' => s' = s ∧ s.bucket key = some object
  | .getObject key, s, .error e, s' =>
    if e.notFound then s' = s ∧ s.bucket key = none else s' = s.drop i
  | .putObject key object, s, .ok (), s' => s' = (s.put key object).place i key object
  | .putObject key object, s, .error _, s' => s' = s ∨ s' = s.put key object
  | .putNew key object, s, .ok (), s' => s.bucket key = none ∧ s' = (s.put key object).drop i
  | .putNew key object, s, .error _, s' =>
    s' = s.drop i ∨ s.bucket key = none ∧ s' = (s.put key object).drop i
  | .fetch _, s, _, s' => s' = s

/-- Bytes land only where no other invocation has other bytes still to record, and no ok
manifest records others. -/
def Harmless (manifestKey : String) (i : ι) : Effect → Shared ι → Shared ι → Prop
  | .putObject key (.bytes content), s, s' => s'.bucket key = some (.bytes content) →
    (∀ j, j ≠ i → ∀ digest, s.placed j = some (key, digest) → hexdigest content = digest) ∧
      ∀ manifest digest, s.bucket manifestKey = some (.json manifest) → IsOk manifest →
        Records manifest key digest → hexdigest content = digest
  | _, _, _ => True

/-- A call that goes as the object store allows and as some condition does. -/
def Goes (allowed : ι → Effect → Shared ι → Shared ι → Prop) (i : ι) (e : Effect) (s : Shared ι)
    (r : Reply e) (s' : Shared ι) : Prop :=
  Handle i e s r s' ∧ allowed i e s s'

/-! ## What an invocation keeps to -/

/-- What an invocation promises of a call. -/
def Promise (source : Source) (date : String) (i : ι) : Effect → Shared ι → Prop
  | .putObject key (.bytes _), s =>
    s.placed i = none ∧ ∃ ext, key = buildBodyKey source.key date ext
  | .putObject key (.json _), _ => key = buildLatestKey source.key
  | .putNew key object, s => key = buildManifestKey source.key date ∧
    ∃ manifest, object = .json manifest ∧ (IsOk manifest →
      ∃ bodyKey digest, s.placed i = some (bodyKey, digest) ∧ Records manifest bodyKey digest)
  | _, _ => True

def Contract (allowed : ι → Effect → Shared ι → Shared ι → Prop) (source : Source) (date : String)
    (i : ι) (e : Effect) (s : Shared ι) (r : Reply e) (s' : Shared ι) : Prop :=
  Goes allowed i e s r s' ∧ Promise source date i e s

/-- What the others leave an invocation. -/
def Rely (i : ι) (s s' : Shared ι) : Prop := s'.placed i = s.placed i

/-- What is recorded, or has still to be, is a body of the day with its hash. -/
structure Safe (source : Source) (date : String) (s : Shared ι) : Prop where
  recorded : ∀ manifest, s.bucket (buildManifestKey source.key date) = some (.json manifest) →
    IsOk manifest → ∃ ext digest, Records manifest (buildBodyKey source.key date ext) digest ∧
      Hashes s.bucket (buildBodyKey source.key date ext) digest
  placed : ∀ j bodyKey digest, s.placed j = some (bodyKey, digest) →
    (∃ ext, bodyKey = buildBodyKey source.key date ext) ∧ Hashes s.bucket bodyKey digest

/-! ## One call -/

section Calls

variable {source : Source} {date : String} {i : ι} {s s' : Shared ι}

omit [DecidableEq ι] [Sha256] in
theorem Shared.put_self (s : Shared ι) (key : String) (object : Object) :
    (s.put key object).bucket key = some object := Function.update_self key _ s.bucket

omit [DecidableEq ι] [Sha256] in
theorem Shared.put_of_ne (s : Shared ι) {key key' : String} (object : Object) (h : key' ≠ key) :
    (s.put key object).bucket key' = s.bucket key' := Function.update_of_ne h _ s.bucket

omit [Sha256] in
theorem Shared.drop_bucket (s : Shared ι) (i : ι) : (s.drop i).bucket = s.bucket := rfl

omit [Sha256] in
theorem Shared.drop_self (s : Shared ι) (i : ι) : (s.drop i).placed i = none := by
  unfold Shared.drop
  exact Function.update_self i none s.placed

omit [Sha256] in
theorem Shared.drop_of_ne (s : Shared ι) {i j : ι} (h : j ≠ i) :
    (s.drop i).placed j = s.placed j := by
  unfold Shared.drop
  exact Function.update_of_ne h none s.placed

omit [DecidableEq ι] in
theorem Hashes.put_of_ne {bodyKey digest key : String} {object : Object}
    (h : Hashes s.bucket bodyKey digest) (hne : bodyKey ≠ key) :
    Hashes (s.put key object).bucket bodyKey digest := by
  obtain ⟨content, hcontent, hdigest⟩ := h
  exact ⟨content, (s.put_of_ne object hne).trans hcontent, hdigest⟩

omit [DecidableEq ι] in
theorem hashes_put (key : String) (content : Bytes) :
    Hashes (s.put key (.bytes content)).bucket key (hexdigest content) :=
  ⟨content, s.put_self key (.bytes content), rfl⟩

omit [Sha256] in
theorem Shared.drop_placed {j : ι} {placed : String × String}
    (h : (s.drop i).placed j = some placed) : s.placed j = some placed := by
  by_cases hji : j = i
  · subst hji
    exact nomatch (s.drop_self j).symm.trans h
  · exact (s.drop_of_ne hji).symm.trans h

theorem Safe.drop (h : Safe source date s) : Safe source date (s.drop i) :=
  ⟨h.recorded, fun j bodyKey digest hplaced =>
    h.placed j bodyKey digest (Shared.drop_placed hplaced)⟩

omit [DecidableEq ι] in
/-- An object put elsewhere than at the keys of the day. -/
theorem Safe.put_latest (h : Safe source date s) (object : Object) :
    Safe source date (s.put (buildLatestKey source.key) object) := by
  refine ⟨fun manifest hmanifest hok => ?_, fun j bodyKey digest hplaced => ?_⟩
  · have hne := manifestKey_ne_latestKey source.key date
    have hold := (s.put_of_ne object hne).symm.trans hmanifest
    obtain ⟨ext, digest, hrecords, hhashes⟩ := h.recorded manifest hold hok
    exact ⟨ext, digest, hrecords, hhashes.put_of_ne (bodyKey_ne_latestKey source.key date ext)⟩
  · obtain ⟨⟨ext, rfl⟩, hhashes⟩ := h.placed j bodyKey digest hplaced
    exact ⟨⟨ext, rfl⟩, hhashes.put_of_ne (bodyKey_ne_latestKey source.key date ext)⟩

omit [DecidableEq ι] in
/-- Bytes put at a body key, where they are harmless. -/
theorem Safe.put_body (h : Safe source date s) {ext : String} {content : Bytes}
    (hplaced : ∀ j digest, s.placed j = some (buildBodyKey source.key date ext, digest) →
      hexdigest content = digest)
    (hrecorded : ∀ manifest digest,
      s.bucket (buildManifestKey source.key date) = some (.json manifest) → IsOk manifest →
        Records manifest (buildBodyKey source.key date ext) digest → hexdigest content = digest) :
    Safe source date (s.put (buildBodyKey source.key date ext) (.bytes content)) := by
  refine ⟨fun manifest hmanifest hok => ?_, fun j bodyKey digest hput => ?_⟩
  · have hne := (bodyKey_ne_manifestKey source.key date ext).symm
    have hold := (s.put_of_ne (.bytes content) hne).symm.trans hmanifest
    obtain ⟨ext', digest, hrecords, hhashes⟩ := h.recorded manifest hold hok
    refine ⟨ext', digest, hrecords, ?_⟩
    by_cases hkey : buildBodyKey source.key date ext' = buildBodyKey source.key date ext
    · rw [hkey] at hrecords ⊢
      rw [← hrecorded manifest digest hold hok hrecords]
      exact hashes_put _ content
    · exact hhashes.put_of_ne hkey
  · obtain ⟨hext, hhashes⟩ := h.placed j bodyKey digest hput
    refine ⟨hext, ?_⟩
    by_cases hkey : bodyKey = buildBodyKey source.key date ext
    · subst hkey
      rw [← hplaced j digest hput]
      exact hashes_put _ content
    · exact hhashes.put_of_ne hkey

theorem Safe.place (h : Safe source date s) {ext : String} {content : Bytes}
    (hhashes : Hashes s.bucket (buildBodyKey source.key date ext) (hexdigest content)) :
    Safe source date (s.place i (buildBodyKey source.key date ext) (.bytes content)) := by
  refine ⟨h.recorded, fun j bodyKey digest hplaced => ?_⟩
  by_cases hji : j = i
  · subst hji
    have heq := Option.some.inj ((Function.update_self j _ s.placed).symm.trans hplaced)
    obtain ⟨rfl, rfl⟩ := Prod.mk.inj heq
    exact ⟨⟨ext, rfl⟩, hhashes⟩
  · exact h.placed j bodyKey digest ((Function.update_of_ne hji _ s.placed).symm.trans hplaced)

omit [DecidableEq ι] in
/-- The first manifest, of a body that was put. -/
theorem Safe.put_manifest (h : Safe source date s) {manifest : Members}
    (hrecords : IsOk manifest → ∃ bodyKey digest, s.placed i = some (bodyKey, digest) ∧
      Records manifest bodyKey digest) :
    Safe source date (s.put (buildManifestKey source.key date) (.json manifest)) := by
  refine ⟨fun manifest' hmanifest hok => ?_, fun j bodyKey digest hplaced => ?_⟩
  · have heq := Option.some.inj ((s.put_self _ _).symm.trans hmanifest)
    obtain rfl := Object.json.inj heq
    obtain ⟨bodyKey, digest, hplaced, hrecords⟩ := hrecords hok
    obtain ⟨⟨ext, rfl⟩, hhashes⟩ := h.placed i bodyKey digest hplaced
    exact ⟨ext, digest, hrecords, hhashes.put_of_ne (bodyKey_ne_manifestKey source.key date ext)⟩
  · obtain ⟨⟨ext, rfl⟩, hhashes⟩ := h.placed j bodyKey digest hplaced
    exact ⟨⟨ext, rfl⟩, hhashes.put_of_ne (bodyKey_ne_manifestKey source.key date ext)⟩

/-- What a call did to the objects and to what is placed. -/
inductive Effected (i : ι) (s : Shared ι) : Effect → Shared ι → Prop
  | same (e : Effect) : Effected i s e s
  | drop (e : Effect) : Effected i s e (s.drop i)
  | put (key : String) (object : Object) : Effected i s (.putObject key object) (s.put key object)
  | place (key : String) (object : Object) :
      Effected i s (.putObject key object) ((s.put key object).place i key object)
  | putNew (key : String) (object : Object) (hnew : s.bucket key = none) :
      Effected i s (.putNew key object) ((s.put key object).drop i)

theorem effected_of_handle {e : Effect} {r : Reply e} (h : Handle i e s r s') :
    Effected i s e s' := by
  cases e with
  | fetch url => exact (show s' = s from h) ▸ Effected.same _
  | headObject key =>
      cases r with
      | ok _ => exact h.1 ▸ Effected.same _
      | error e => exact h.1 ▸ Effected.same _
  | getObject key =>
      cases r with
      | ok _ => exact h.1 ▸ Effected.same _
      | error e =>
          have hcases : if e.notFound then s' = s ∧ s.bucket key = none else s' = s.drop i := h
          split at hcases
          · exact hcases.1 ▸ Effected.same _
          · exact hcases ▸ Effected.drop _
  | putObject key object =>
      cases r with
      | ok _ => exact (show s' = _ from h) ▸ Effected.place key object
      | error e =>
          rcases h with rfl | rfl
          · exact Effected.same _
          · exact Effected.put key object
  | putNew key object =>
      cases r with
      | ok _ =>
          obtain ⟨hnew, rfl⟩ := h
          exact Effected.putNew key object hnew
      | error e =>
          rcases h with rfl | ⟨hnew, rfl⟩
          · exact Effected.drop _
          · exact Effected.putNew key object hnew

/-- Every harmless call keeps the invariant. -/
theorem Safe.kept {e : Effect} {r : Reply e} (h : Safe source date s)
    (hcontract : Contract (Harmless (buildManifestKey source.key date)) source date i e s r s') :
    Safe source date s' := by
  obtain ⟨⟨hhandle, hharmless⟩, hpromise⟩ := hcontract
  have hput (ext : String) (content : Bytes) (hrested : s.placed i = none)
      (hharmless : Harmless (buildManifestKey source.key date) i
        (.putObject (buildBodyKey source.key date ext) (.bytes content)) s s')
      (hlanded : s'.bucket (buildBodyKey source.key date ext) = some (.bytes content)) :
      Safe source date (s.put (buildBodyKey source.key date ext) (.bytes content)) := by
    obtain ⟨hothers, hrecorded⟩ := hharmless hlanded
    refine h.put_body (fun j digest hplaced => ?_) hrecorded
    by_cases hji : j = i
    · subst hji
      exact nomatch hrested.symm.trans hplaced
    · exact hothers j hji digest hplaced
  cases effected_of_handle hhandle with
  | same => exact h
  | drop => exact h.drop
  | put key object =>
      cases object with
      | json members =>
          obtain rfl : key = _ := hpromise
          exact h.put_latest (.json members)
      | bytes content =>
          obtain ⟨hrested, ext, rfl⟩ := hpromise
          exact hput ext content hrested hharmless (s.put_self _ _)
  | place key object =>
      cases object with
      | json members =>
          obtain rfl : key = _ := hpromise
          exact h.put_latest (.json members)
      | bytes content =>
          obtain ⟨hrested, ext, rfl⟩ := hpromise
          exact (hput ext content hrested hharmless (s.put_self _ _)).place (hashes_put _ content)
  | putNew key object hnew =>
      obtain ⟨rfl, manifest, rfl, hrecords⟩ := hpromise
      exact (h.put_manifest hrecords).drop

theorem Shared.place_bucket (s : Shared ι) (i : ι) (key : String) (object : Object) :
    (s.place i key object).bucket = s.bucket := by
  cases object with
  | bytes content => rfl
  | json members => rfl

theorem Shared.place_of_ne (s : Shared ι) {j : ι} (key : String) (object : Object) (h : j ≠ i) :
    (s.place i key object).placed j = s.placed j := by
  cases object with
  | bytes content => exact Function.update_of_ne h _ s.placed
  | json members => rfl

/-- A call leaves alone what the others have placed. -/
theorem rely_of_handle {e : Effect} {r : Reply e} (h : Handle i e s r s') {j : ι} (hji : j ≠ i) :
    Rely j s s' := by
  cases effected_of_handle h with
  | same => rfl
  | drop => exact s.drop_of_ne hji
  | put key object => rfl
  | place key object => exact (s.put key object).place_of_ne key object hji
  | putNew key object hnew => exact (s.put key object).drop_of_ne hji

/-- A manifest that is there stays. -/
theorem manifest_stays {allowed : ι → Effect → Shared ι → Shared ι → Prop} {e : Effect}
    {r : Reply e} (hcontract : Contract allowed source date i e s r s') {object : Object}
    (h : s.bucket (buildManifestKey source.key date) = some object) :
    s'.bucket (buildManifestKey source.key date) = some object := by
  obtain ⟨⟨hhandle, _⟩, hpromise⟩ := hcontract
  have hput (key : String) (object' : Object)
      (hpromise : Promise source date i (.putObject key object') s) :
      (s.put key object').bucket (buildManifestKey source.key date) = some object := by
    have hne : buildManifestKey source.key date ≠ key := by
      cases object' with
      | json members =>
          obtain rfl : key = _ := hpromise
          exact manifestKey_ne_latestKey source.key date
      | bytes content =>
          obtain ⟨_, ext, rfl⟩ := hpromise
          exact (bodyKey_ne_manifestKey source.key date ext).symm
    exact (s.put_of_ne object' hne).trans h
  cases effected_of_handle hhandle with
  | same => exact h
  | drop => exact h
  | put key object' => exact hput key object' hpromise
  | place key object' =>
      rw [Shared.place_bucket]
      exact hput key object' hpromise
  | putNew key object' hnew =>
      obtain ⟨rfl, _⟩ := hpromise
      exact nomatch hnew.symm.trans h

end Calls

/-! ## The programs of an invocation -/

section Programs

variable [CharacterTables] [PointerDecoder] {inv : Shared ι → Prop}
  {allowed : ι → Effect → Shared ι → Shared ι → Prop} {source : Source} {now : Moment}
  {invocation : String} {i : ι} {s : Shared ι} {α : Type}

/-- A program that keeps to what an invocation promises. -/
abbrev Keeps (inv : Shared ι → Prop) (allowed : ι → Effect → Shared ι → Shared ι → Prop)
    (source : Source) (date : String) (i : ι) (Q : α → Shared ι → Prop)
    (p : Prog Effect Reply α) (s : Shared ι) : Prop :=
  Sound inv (Goes allowed i) (Rely i) (Contract allowed source date i) Q p s

/-- The invocation has nothing to record. -/
def Rested (i : ι) (s : Shared ι) : Prop := s.placed i = none

omit [DecidableEq ι] [Sha256] [CharacterTables] [PointerDecoder] in
theorem lasts_placed (P : Option (String × String) → Prop) :
    Stable (Rely i) fun s => P (s.placed i) := by
  intro s s' h hrely
  rw [show s'.placed i = s.placed i from hrely]
  exact h

omit [DecidableEq ι] [Sha256] [CharacterTables] [PointerDecoder] in
theorem lasts_rested : Stable (Rely i) (Rested i) := lasts_placed fun placed => placed = none

omit [DecidableEq ι] [Sha256] [CharacterTables] [PointerDecoder] in
theorem lasts_resting : Stable (Rely i) fun s => Rested i s ∧ True :=
  lasts_placed fun placed => placed = none ∧ True

omit [CharacterTables] [PointerDecoder] in
theorem keeps_manifestExists (key : String) (h : Rested i s) :
    Keeps inv allowed source now.date i (Ends (Rested i) fun _ _ => True)
      (manifestExists key).run s := by
  unfold manifestExists
  refine Sound.ends_bind (Q := fun _ _ => True) (Sound.effect (Rested i) h lasts_rested
    (fun s r s' _ _ hgoes => ⟨hgoes, trivial⟩) (fun s r s' _ hs hgoes => ?_) fun _ => lasts_resting)
    lasts_rested fun r s h _ => ?_
  · cases r with
    | ok _ => exact ⟨hgoes.1.1 ▸ hs, trivial⟩
    | error e => exact ⟨hgoes.1.1 ▸ hs, trivial⟩
  · cases r with
    | ok _ => exact Sound.pure h trivial lasts_resting
    | error e =>
        dsimp only
        split
        · exact Sound.pure h trivial lasts_resting
        · exact Sound.thrown h lasts_rested

omit [CharacterTables] [PointerDecoder] in
/-- A manifest that is ok only of what is placed. -/
theorem keeps_writeManifest {manifest : Members} {placed : Option (String × String)}
    (h : s.placed i = placed) (hrecords : IsOk manifest →
      ∃ bodyKey digest, placed = some (bodyKey, digest) ∧ Records manifest bodyKey digest) :
    Keeps inv allowed source now.date i (Ends (Rested i) fun _ _ => True)
      (writeManifest (buildManifestKey source.key now.date) manifest).run s := by
  unfold writeManifest
  refine Sound.ends_bind (Q := fun _ _ => True) (Sound.effect (fun s => s.placed i = placed) h
    (lasts_placed fun p => p = placed) (fun s r s' _ hs hgoes => ⟨hgoes, rfl, manifest, rfl, ?_⟩)
    (fun s r s' _ hs hgoes => ⟨?_, trivial⟩) fun _ => lasts_resting) lasts_rested fun r s h _ => ?_
  · rw [hs]
    exact hrecords
  · cases r with
    | ok _ =>
        rw [hgoes.1.2]
        exact Shared.drop_self _ i
    | error e =>
        rcases hgoes.1 with rfl | ⟨_, rfl⟩
        · exact Shared.drop_self _ i
        · exact Shared.drop_self _ i
  · cases r with
    | ok _ => exact Sound.pure h trivial lasts_resting
    | error e =>
        dsimp only
        split
        · exact Sound.thrown h lasts_rested
        · exact Sound.thrown h lasts_rested

omit [CharacterTables] [PointerDecoder] in
theorem keeps_recordFailure {manifest : Members} (hfailed : ¬ IsOk manifest) (h : Rested i s) :
    Keeps inv allowed source now.date i (Ends (Rested i) fun _ _ => True)
      (recordFailure source now invocation manifest).run s := by
  unfold recordFailure
  refine Sound.caught (Sound.ends_bind (keeps_writeManifest h fun hok => absurd hok hfailed)
    lasts_rested fun _ s h _ => Sound.pure h trivial lasts_resting) (fun _ => lasts_resting)
    fun e s h => ?_
  cases e with
  | manifestAlreadyWritten => exact Sound.pure h trivial lasts_resting
  | s3 e => exact Sound.thrown h lasts_rested

/-- While the pointer is read the body stays to be recorded; an error gives it up. -/
def Placing (i : ι) (placed : String × String) : Except CaptureError α → Shared ι → Prop
  | .ok _, s => s.placed i = some placed
  | .error _, s => Rested i s

omit [CharacterTables] in
theorem keeps_readLatestPointer {placed : String × String} (h : s.placed i = some placed) :
    Keeps inv allowed source now.date i (Placing i placed)
      (readLatestPointerSha256 source.key).run s := by
  have hplaced : Stable (Rely i) fun s => s.placed i = some placed :=
    lasts_placed fun p => p = some placed
  unfold readLatestPointerSha256
  refine Sound.perform (fun s => s.placed i = some placed) h hplaced
    (fun s r s' _ _ hgoes => ⟨hgoes, trivial⟩) fun s r s' _ hs hgoes => ?_
  cases r with
  | ok object => exact Sound.done (hgoes.1.1 ▸ hs) hplaced
  | error e =>
      have hcases : if e.notFound then s' = s ∧ s.bucket (buildLatestKey source.key) = none
          else s' = s.drop i := hgoes.1
      by_cases hfound : e.notFound = true
      · rw [if_pos hfound] at hcases
        show Keeps inv allowed source now.date i _
          (ite (e.notFound = true) (pure none) (throw (CaptureError.s3 e)) :
            CaptureM (Option String)).run s'
        rw [if_pos hfound]
        exact Sound.done (hcases.1 ▸ hs) hplaced
      · rw [if_neg hfound] at hcases
        show Keeps inv allowed source now.date i _
          (ite (e.notFound = true) (pure none) (throw (CaptureError.s3 e)) :
            CaptureM (Option String)).run s'
        rw [if_neg hfound]
        exact Sound.done (hcases ▸ Shared.drop_self s i) lasts_rested

omit [CharacterTables] [PointerDecoder] in
theorem keeps_writeLatestPointer {digest manifestKey : String} (h : Rested i s) :
    Keeps inv allowed source now.date i (Ends (Rested i) fun _ _ => True)
      (writeLatestPointer source.key digest now manifestKey).run s := by
  unfold writeLatestPointer
  refine Sound.ends_bind (Q := fun _ _ => True) (Sound.effect (Rested i) h lasts_rested
    (fun s r s' _ _ hgoes => ⟨hgoes, rfl⟩) (fun s r s' _ hs hgoes => ⟨?_, trivial⟩)
    fun _ => lasts_resting) lasts_rested fun r s h _ => ?_
  · cases r with
    | ok _ =>
        obtain rfl : s' = _ := hgoes.1
        exact hs
    | error e =>
        rcases hgoes.1 with rfl | rfl
        · exact hs
        · exact hs
  · cases r with
    | ok _ => exact Sound.pure h trivial lasts_resting
    | error e => exact Sound.thrown h lasts_rested

omit [CharacterTables] in
/-- The manifest of a body records what was placed. -/
theorem keeps_recordBody {response : FetchResponse} {bodyKey : String}
    (h : s.placed i = some (bodyKey, hexdigest response.content)) :
    Keeps inv allowed source now.date i (Ends (Rested i) fun _ _ => True)
      (recordBody source now invocation response bodyKey).run s := by
  unfold recordBody
  refine Sound.except_bind (keeps_readLatestPointer h) (fun previous s h => ?_) (fun _ _ h => h)
    fun _ => lasts_rested
  refine Sound.ends_bind (keeps_writeManifest h fun _ => ⟨bodyKey, _, rfl, rfl, rfl⟩) lasts_rested
    fun _ s h _ => ?_
  exact Sound.ends_bind (keeps_writeLatestPointer h) lasts_rested fun _ s h _ =>
    Sound.pure h trivial lasts_resting

omit [CharacterTables] [PointerDecoder] in
theorem keeps_recover {response : FetchResponse} {bodyKey : String} {bodyWritten : Bool}
    {e : CaptureError} (h : Rested i s) :
    Keeps inv allowed source now.date i (Ends (Rested i) fun _ _ => True)
      (recover source now invocation response bodyKey bodyWritten e).run s := by
  unfold recover
  cases e with
  | manifestAlreadyWritten => exact Sound.pure h trivial lasts_resting
  | s3 e =>
      refine Sound.caught (keeps_recordFailure ?_ h) (fun _ => lasts_resting) fun _ s h =>
        Sound.pure h trivial lasts_resting
      intro hok
      exact nomatch Json.str.inj (Option.some.inj hok)

/-- What holds once the body was put, or was not. -/
def Put (i : ι) (placed : String × String) :
    Except CaptureError (Except S3Error Unit) → Shared ι → Prop
  | .ok (.ok ()), s => s.placed i = some placed
  | _, s => Rested i s

omit [DecidableEq ι] [Sha256] [CharacterTables] [PointerDecoder] in
theorem lasts_put (placed : String × String) (r : Except CaptureError (Except S3Error Unit)) :
    Stable (Rely i) (Put i placed r) := by
  rcases r with e | (e | ⟨⟩)
  · exact lasts_rested
  · exact lasts_rested
  · exact lasts_placed fun p => p = some placed

omit [CharacterTables] [PointerDecoder] in
theorem keeps_putBody {content : Bytes} (ext : String) (h : Rested i s) :
    Keeps inv allowed source now.date i
      (Put i (buildBodyKey source.key now.date ext, hexdigest content))
      (perform (.putObject (buildBodyKey source.key now.date ext) (.bytes content))).run s := by
  refine Sound.perform (Rested i) h lasts_rested (fun s r s' _ hs hgoes => ⟨hgoes, hs, ext, rfl⟩)
    fun s r s' _ hs hgoes => Sound.done ?_ (lasts_put _ (.ok r))
  cases r with
  | ok _ =>
      obtain rfl : s' = _ := hgoes.1
      exact Function.update_self i _ s.placed
  | error e =>
      rcases hgoes.1 with rfl | rfl
      · exact hs
      · exact hs

/-- A capture keeps to what an invocation promises. -/
theorem keeps_captureOneSource (h : Rested i s) :
    Keeps inv allowed source now.date i (Ends (Rested i) fun _ _ => True)
      (captureOneSource source now invocation).run s := by
  unfold captureOneSource
  refine Sound.ends_bind (keeps_manifestExists _ h) lasts_rested fun captured s h _ => ?_
  split
  · exact Sound.pure h trivial lasts_resting
  refine Sound.ends_bind (Q := fun _ _ => True) (Sound.effect (Rested i) h lasts_rested
    (fun s r s' _ _ hgoes => ⟨hgoes, trivial⟩) (fun s r s' _ hs hgoes => ?_) fun _ => lasts_resting)
    lasts_rested fun r s h _ => ?_
  · obtain rfl : s' = s := hgoes.1
    exact ⟨hs, trivial⟩
  · cases r with
    | error text =>
        exact keeps_recordFailure (fun hok => nomatch Json.str.inj (Option.some.inj hok)) h
    | ok response =>
        dsimp only
        split
        · exact keeps_recordFailure (fun hok => nomatch Json.str.inj (Option.some.inj hok)) h
        · refine Sound.except_bind (keeps_putBody _ h) (fun r s h => ?_) (fun _ _ h => h)
            fun _ => lasts_rested
          cases r with
          | error e => exact keeps_recover h
          | ok _ =>
              exact Sound.caught (keeps_recordBody h) (fun _ => lasts_resting) fun e s h =>
                keeps_recover h

end Programs

/-! ## Runs -/

section Running

variable [CharacterTables] [PointerDecoder]

/-- Invocations for one source on one day. -/
def Starts (source : Source) (date : String) (_ : ι)
    (p : Prog Effect Reply (Except CaptureError CaptureResult)) (s s' : Shared ι) : Prop :=
  (∃ (now : Moment) (invocation : String), now.date = date ∧
    p = (captureOneSource source now invocation).run) ∧ s' = s

/-- An invocation has returned, or is killed anywhere. -/
def Stops (i : ι) (_ : Prog Effect Reply (Except CaptureError CaptureResult))
    (s s' : Shared ι) : Prop := s' = s.drop i

abbrev Captures (ι : Type) : Type :=
  Pool ι Effect Reply (Except CaptureError CaptureResult) (Shared ι)

/-- One step of the invocations. -/
def Step (allowed : ι → Effect → Shared ι → Shared ι → Prop) (source : Source) (date : String) :
    Captures ι → Captures ι → Prop :=
  Pool.Step (Goes allowed) (Starts source date) Stops

/-- The pools reached from a store without a manifest of the day. -/
def Reached (allowed : ι → Effect → Shared ι → Shared ι → Prop) (source : Source) (date : String)
    (pool : Captures ι) : Prop :=
  ∃ initial : Shared ι, initial.bucket (buildManifestKey source.key date) = none ∧
    (∀ i, initial.placed i = none) ∧
      Pool.Reaches (Goes allowed) (Starts source date) Stops initial pool

/-- What invocations keep to, whatever invariant their calls keep. -/
def invocations (allowed : ι → Effect → Shared ι → Shared ι → Prop) (source : Source)
    (date : String) (inv : Shared ι → Prop)
    (hkept : ∀ i e s r s', inv s → Contract allowed source date i e s r s' → inv s')
    (hdrop : ∀ i s, inv s → inv (s.drop i)) :
    Discipline (Goes (ι := ι) allowed) (Starts source date) Stops where
  inv := inv
  idle := Rested
  rely := Rely
  contract := Contract allowed source date
  idle_stable _ := lasts_rested
  others _ _ _ _ _ _ hcontract _ hji := rely_of_handle hcontract.1.1 hji
  kept := hkept
  started := by
    rintro i p s s' ⟨⟨now, invocation, rfl, rfl⟩, rfl⟩ hinv hidle
    refine ⟨hinv, Sound.weaken (keeps_captureOneSource hidle) fun r s hr => ⟨?_, lasts_rested⟩,
      fun j _ => rfl⟩
    cases r with
    | ok result => exact hr.1
    | error e => exact hr
  stopped := by
    rintro i p s s' rfl hinv _
    exact ⟨hdrop i s hinv, s.drop_self i, fun j hji => s.drop_of_ne hji⟩

section Reaching

variable {allowed : ι → Effect → Shared ι → Shared ι → Prop} {source : Source} {date : String}
  {pool pool' : Captures ι}

theorem Reached.later (h : Reached allowed source date pool)
    (hlater : Relation.ReflTransGen (Step allowed source date) pool pool') :
    Reached allowed source date pool' := by
  obtain ⟨initial, hempty, hrested, hreaches⟩ := h
  exact ⟨initial, hempty, hrested, hreaches.trans hlater⟩

theorem Reached.mono {allowed' : ι → Effect → Shared ι → Shared ι → Prop}
    (h : Reached allowed source date pool)
    (himp : ∀ i e s s', allowed i e s s' → allowed' i e s s') :
    Reached allowed' source date pool := by
  obtain ⟨initial, hempty, hrested, hreaches⟩ := h
  refine ⟨initial, hempty, hrested, hreaches.lift id fun pool pool' hstep => ?_⟩
  cases hstep with
  | start i p shared hidle hstarts => exact .start i p shared hidle hstarts
  | perform i e next reply shared hthread hhandle =>
      exact .perform i e next reply shared hthread ⟨hhandle.1, himp i e _ _ hhandle.2⟩
  | stop i p shared hthread hstops => exact .stop i p shared hthread hstops

/-- A manifest that is there stays, over one step. -/
theorem Reached.step_manifest (h : Reached allowed source date pool)
    (hstep : Step allowed source date pool pool') {object : Object}
    (hmanifest : pool.shared.bucket (buildManifestKey source.key date) = some object) :
    pool'.shared.bucket (buildManifestKey source.key date) = some object := by
  obtain ⟨initial, _, hrested, hreaches⟩ := h
  have hgoverns := (invocations allowed source date (fun _ => True) (fun _ _ _ _ _ _ _ => trivial)
    fun _ _ _ => trivial).governs_of_reaches trivial hrested hreaches
  cases hstep with
  | start i p shared hidle hstarts =>
      obtain ⟨_, rfl⟩ := hstarts
      exact hmanifest
  | perform i e next reply shared hthread hhandle =>
      exact manifest_stays (hgoverns.contract hthread hhandle) hmanifest
  | stop i p shared hthread hstops =>
      obtain rfl : shared = _ := hstops
      exact hmanifest

/-- Whatever is put where, a manifest never changes. -/
theorem manifest_unchanged (h : Reached allowed source date pool)
    (hlater : Relation.ReflTransGen (Step allowed source date) pool pool') {object : Object}
    (hmanifest : pool.shared.bucket (buildManifestKey source.key date) = some object) :
    pool'.shared.bucket (buildManifestKey source.key date) = some object := by
  induction hlater with
  | refl => exact hmanifest
  | tail hbefore hstep ih => exact (h.later hbefore).step_manifest hstep ih

/-- While only harmless bytes land, what is recorded is what is stored. -/
theorem Reached.safe
    (h : Reached (Harmless (buildManifestKey source.key date)) source date pool) :
    Safe source date pool.shared := by
  obtain ⟨initial, hempty, hrested, hreaches⟩ := h
  refine ((invocations _ source date (Safe source date) (fun _ _ _ _ _ hsafe hcontract =>
    hsafe.kept hcontract) fun _ _ hsafe => hsafe.drop).governs_of_reaches ?_ hrested hreaches).inv
  refine ⟨fun manifest hmanifest => ?_, fun j bodyKey digest hplaced => ?_⟩
  · exact nomatch hempty.symm.trans hmanifest
  · exact nomatch (hrested j).symm.trans hplaced

/-- While only harmless bytes land, an ok manifest never changes and at every later moment the
object at its body key hashes to what it records. -/
theorem captures_agree
    (h : Reached (Harmless (buildManifestKey source.key date)) source date pool)
    (hlater : Relation.ReflTransGen
      (Step (Harmless (buildManifestKey source.key date)) source date) pool pool')
    {manifest : Members}
    (hmanifest : pool.shared.bucket (buildManifestKey source.key date) = some (.json manifest))
    (hok : IsOk manifest) :
    pool'.shared.bucket (buildManifestKey source.key date) = some (.json manifest) ∧
      ∃ bodyKey digest, Records manifest bodyKey digest ∧
        Hashes pool'.shared.bucket bodyKey digest := by
  have hstays := manifest_unchanged h hlater hmanifest
  obtain ⟨ext, digest, hrecords, hhashes⟩ := (h.later hlater).safe.recorded manifest hstays hok
  exact ⟨hstays, _, digest, hrecords, hhashes⟩

end Reaching

end Running

end Handling

/-! ## Two bodies on one day -/

section Case

@[reducible] def plainCharacters : CharacterTables where
  isDecimal := Char.isDigit
  isSpace := Char.isWhitespace
  lower := List.map Char.toLower

local instance caseHash : Sha256 := Sha256.standard

local instance caseCharacters : CharacterTables := plainCharacters

local instance caseDecoder : PointerDecoder := ⟨fun _ => none⟩

def caseSource : Source where
  key := "northstar-ocean-demo-tariff"
  laneLabel := "NP-SP"
  url := "https://fixtures.example.invalid/northstar/tariff.html"
  expectedContentType := "text/html"

def caseNow : Moment := ⟨"2026-07-01", "2026-07-01T08:00:00+00:00"⟩

def caseKey : String :=
  buildBodyKey caseSource.key caseNow.date (inferExtension caseSource.expectedContentType)

def caseResponse (content : Bytes) : FetchResponse := ⟨200, fun _ => none, content⟩

def caseManifest (content : Bytes) : Members :=
  buildManifest caseSource caseNow "ok" "scheduled" (fetchedOf (caseResponse content)) ++
    [("body_key", .str caseKey), ("sha256_prev_delta", .str "changed")]

def caseMissing : S3Error := .client "404" "Not Found"

def caseStart : Shared Bool := { bucket := fun _ => none }

theorem latestKey_ne_caseKey : buildLatestKey caseSource.key ≠ caseKey :=
  (bodyKey_ne_latestKey caseSource.key caseNow.date _).symm

theorem manifestKey_ne_caseKey : buildManifestKey caseSource.key caseNow.date ≠ caseKey :=
  (bodyKey_ne_manifestKey caseSource.key caseNow.date _).symm

/-- The store once the first invocation has recorded its body. -/
def caseRecorded (content : Bytes) : Shared Bool :=
  (((caseStart.put caseKey (.bytes content)).place true caseKey (.bytes content)).put
    (buildManifestKey caseSource.key caseNow.date) (.json (caseManifest content))).drop true

theorem caseRecorded_manifest (content : Bytes) :
    (caseRecorded content).bucket (buildManifestKey caseSource.key caseNow.date) =
      some (.json (caseManifest content)) := by
  unfold caseRecorded
  rw [Shared.drop_bucket]
  exact Shared.put_self _ _ _

theorem caseManifest_ok (content : Bytes) : IsOk (caseManifest content) := rfl

theorem caseManifest_records (content : Bytes) :
    Records (caseManifest content) caseKey (hexdigest content) := ⟨rfl, rfl⟩

/-- One invocation has recorded its body, and another is about to put a body it has fetched. -/
theorem case_recorded (a b : Bytes) : ∃ pool : Captures Bool,
    Reached (Harmless (buildManifestKey caseSource.key caseNow.date)) caseSource caseNow.date pool ∧
      pool.shared = caseRecorded a ∧
        ∃ next, pool.threads false = some (.perform (.putObject caseKey (.bytes b)) next) := by
  have h : Pool.Reaches (Goes (Harmless (buildManifestKey caseSource.key caseNow.date)))
      (Starts caseSource caseNow.date) Stops caseStart _ :=
    Pool.Reaches.start .refl true rfl ⟨⟨caseNow, "scheduled", rfl, rfl⟩, rfl⟩
  replace h := h.start false rfl ⟨⟨caseNow, "manual", rfl, rfl⟩, rfl⟩
  replace h := h.perform true (.headObject (buildManifestKey caseSource.key caseNow.date))
    (.error caseMissing) caseStart rfl ⟨⟨rfl, fun _ => rfl⟩, trivial⟩
  replace h := h.perform false (.headObject (buildManifestKey caseSource.key caseNow.date))
    (.error caseMissing) caseStart rfl ⟨⟨rfl, fun _ => rfl⟩, trivial⟩
  replace h := h.perform true (.fetch caseSource.url) (.ok (caseResponse a))
    caseStart rfl ⟨rfl, trivial⟩
  replace h := h.perform false (.fetch caseSource.url) (.ok (caseResponse b))
    caseStart rfl ⟨rfl, trivial⟩
  replace h := h.perform true (.putObject caseKey (.bytes a)) (.ok ()) _ rfl
    ⟨rfl, fun _ =>
      ⟨fun _ _ _ hplaced => (nomatch hplaced), fun _ _ hmanifest => (nomatch hmanifest)⟩⟩
  have hlatest : ((caseStart.put caseKey (.bytes a)).place true caseKey (.bytes a)).bucket
      (buildLatestKey caseSource.key) = none :=
    caseStart.put_of_ne (.bytes a) latestKey_ne_caseKey
  replace h := h.perform true (.getObject (buildLatestKey caseSource.key)) (.error caseMissing) _ rfl
    ⟨⟨rfl, hlatest⟩, trivial⟩
  have hmanifest : ((caseStart.put caseKey (.bytes a)).place true caseKey (.bytes a)).bucket
      (buildManifestKey caseSource.key caseNow.date) = none :=
    caseStart.put_of_ne (.bytes a) manifestKey_ne_caseKey
  replace h := h.perform true
    (.putNew (buildManifestKey caseSource.key caseNow.date) (.json (caseManifest a))) (.ok ())
    (caseRecorded a) rfl ⟨⟨hmanifest, rfl⟩, trivial⟩
  exact ⟨_, ⟨caseStart, rfl, fun _ => rfl, h⟩, rfl, _, rfl⟩

/-- The body of the first invocation is stored as its manifest records it. -/
theorem captures_agree_recorded : ∃ pool : Captures Bool,
    pool.shared.bucket (buildManifestKey caseSource.key caseNow.date) =
        some (.json (caseManifest [97])) ∧
      ∃ bodyKey digest, Records (caseManifest [97]) bodyKey digest ∧
        Hashes pool.shared.bucket bodyKey digest := by
  obtain ⟨pool, hreached, hshared, _⟩ := case_recorded [97] [98]
  have hmanifest : pool.shared.bucket (buildManifestKey caseSource.key caseNow.date) =
      some (.json (caseManifest [97])) := by
    rw [hshared]
    exact caseRecorded_manifest [97]
  have hagree := captures_agree hreached .refl hmanifest (caseManifest_ok [97])
  exact ⟨pool, hagree⟩

/-- The second invocation puts its own body under the manifest of the first. -/
theorem body_replaced : ∃ (pool : Captures Bool) (manifest : Members) (bodyKey digest : String),
    Reached (fun _ _ _ _ => True) caseSource caseNow.date pool ∧
      pool.shared.bucket (buildManifestKey caseSource.key caseNow.date) = some (.json manifest) ∧
      IsOk manifest ∧ Records manifest bodyKey digest ∧
      ¬ Hashes pool.shared.bucket bodyKey digest := by
  obtain ⟨pool, hreached, hshared, next, hthread⟩ := case_recorded [97] [98]
  obtain ⟨initial, hempty, hrested, hreaches⟩ := hreached.mono fun _ _ _ _ _ => trivial
  have hlater := hreaches.perform false (.putObject caseKey (.bytes [98])) (.ok ()) _ hthread
    ⟨rfl, trivial⟩
  refine ⟨_, caseManifest [97], caseKey, hexdigest [97], ⟨initial, hempty, hrested, hlater⟩, ?_,
    caseManifest_ok [97], caseManifest_records [97], ?_⟩
  · rw [Shared.place_bucket, hshared]
    exact ((caseRecorded [97]).put_of_ne (.bytes [98]) manifestKey_ne_caseKey).trans
      (caseRecorded_manifest [97])
  · rintro ⟨content, hcontent, hdigest⟩
    rw [Shared.place_bucket, Shared.put_self] at hcontent
    rw [← Object.bytes.inj (Option.some.inj hcontent)] at hdigest
    exact absurd hdigest (by decide +kernel)

end Case

end Tally.Analysis.CaptureRaces
