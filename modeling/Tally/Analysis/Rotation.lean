import Tally.Model.OauthTokens

/-!
# Rotation under a shared lease

Any number of managers share one parameter and one lease table. A manager between its
acquired lease and its release is the only one that saves, and it re-reads before it posts,
so what it posts is the refresh token of the bundle it saves over. A refresh token that was
saved over is never posted again.
-/

set_option autoImplicit false

namespace Tally.Analysis.Rotation
open Library Tally.Model Tally.Model.OauthTokens

/-! ## The shared state -/

structure LeaseRow where
  owner : String
  expiresAt : Int
deriving DecidableEq

/-- The parameter and the row of the lease table, and what has happened to them: who drew an
owner, who is between its acquired lease and its release, the refresh token each manager last
posted and those that were saved over. -/
structure Shared (ι : Type) where
  parameter : Parameter
  lease : Option LeaseRow
  owners : List (String × ι) := []
  holder : Option ι := none
  posted : ι → Option String := fun _ => none
  replaced : List String := []

section Handling

variable {ι : Type} [DecidableEq ι]

/-- The state after a put of a bundle. -/
def Shared.save (s : Shared ι) (bundle : TokenBundle) (version : Int) : Shared ι :=
  { s with
    parameter := ⟨"SecureString", bundle, version⟩
    replaced := if bundle.refreshToken = s.parameter.value.refreshToken then s.replaced
      else s.parameter.value.refreshToken :: s.replaced }

/-- The condition of the lease table's put. -/
def Available (s : Shared ι) (now : Int) : Prop := ∀ row, s.lease = some row → row.expiresAt ≤ now

/-- The state once a manager has asked for its release. -/
def Shared.leave (s : Shared ι) (i : ι) : Shared ι :=
  { s with holder := if s.holder = some i then none else s.holder }

/-- What a call may do and return. A write may land though its call raises. -/
def Handle (i : ι) : (e : Effect) → Shared ι → Reply e → Shared ι → Prop
  | .clock, s, _, s' => s' = s
  | .getParameter, s, r, s' => s' = s ∧ ∀ p, r = .ok p → p = s.parameter
  | .putParameter bundle, s, r, s' =>
    (r = .error () ∧ s' = s) ∨
      ∃ version, s' = s.save bundle version ∧ (r = .ok version ∨ r = .error ())
  | .post request, s, _, s' =>
    s' = { s with posted := Function.update s.posted i (some request.refreshToken) }
  | .ownerFactory, s, owner, s' => s' = { s with owners := s.owners ++ [(owner, i)] }
  | .putItem owner now expiresAt, s, r, s' =>
    (r = .error () ∧ s' = s) ∨ Available s now ∧
      ((r = .ok () ∧ s' = { s with lease := some ⟨owner, expiresAt⟩, holder := some i }) ∨
        (r = .error () ∧ s' = { s with lease := some ⟨owner, expiresAt⟩ }))
  | .deleteItem owner, s, r, s' =>
    (r = .error () ∧ s' = s.leave i) ∨
      (∃ row, s.lease = some row ∧ row.owner = owner) ∧ s' = { s.leave i with lease := none }

/-- What is assumed of the services: owners are drawn once, whoever drew the owner of an expired
lease has left, and the provider issues no refresh token that was replaced. -/
def Assumed : (e : Effect) → Shared ι → Reply e → Prop
  | .ownerFactory, s, owner => ∀ p ∈ s.owners, p.1 ≠ owner
  | .putItem _ now _, s, _ => ∀ row, s.lease = some row → row.expiresAt ≤ now →
    ∀ m, (row.owner, m) ∈ s.owners → s.holder ≠ some m
  | .post _, s, r => ∀ response, r = .ok response → ∀ token,
    returnedRefresh response = some token → token ∉ s.replaced
  | _, _, _ => True

/-- A call that goes as assumed. -/
def Goes (i : ι) (e : Effect) (s : Shared ι) (r : Reply e) (s' : Shared ι) : Prop :=
  Handle i e s r s' ∧ Assumed e s r

/-! ## What a manager keeps to -/

/-- The holder has the row of the lease table, an owner was drawn by one manager, and the saved
refresh token was not saved over. -/
structure Safe (s : Shared ι) : Prop where
  holder : ∀ m, s.holder = some m → ∃ row, s.lease = some row ∧ (row.owner, m) ∈ s.owners
  owners : ∀ owner m m', (owner, m) ∈ s.owners → (owner, m') ∈ s.owners → m = m'
  current : s.parameter.value.refreshToken ∉ s.replaced

/-- What a manager promises of a call. -/
def Promise (i : ι) : Effect → Shared ι → Prop
  | .post request, s => request.refreshToken ∉ s.replaced
  | .putParameter bundle, s => s.holder = some i ∧
    s.posted i = some s.parameter.value.refreshToken ∧ bundle.refreshToken ∉ s.replaced
  | .putItem owner _ _, s => (owner, i) ∈ s.owners
  | .deleteItem owner, s => (owner, i) ∈ s.owners
  | _, _ => True

def Contract (i : ι) (e : Effect) (s : Shared ι) (r : Reply e) (s' : Shared ι) : Prop :=
  Goes i e s r s' ∧ Promise i e s

/-- What the others leave a manager. -/
structure Rely (i : ι) (s s' : Shared ι) : Prop where
  inside : s.holder = some i →
    s'.holder = some i ∧ s'.parameter = s.parameter ∧ s'.replaced = s.replaced
  outside : s.holder ≠ some i → s'.holder ≠ some i
  posted : s'.posted i = s.posted i
  owners : ∀ owner, (owner, i) ∈ s.owners → (owner, i) ∈ s'.owners

omit [DecidableEq ι] in
theorem Rely.refl (i : ι) (s : Shared ι) : Rely i s s :=
  ⟨fun hi => ⟨hi, rfl, rfl⟩, fun hi => hi, rfl, fun _ ho => ho⟩

omit [DecidableEq ι] in
/-- Nobody holds a lease that may be taken. -/
theorem Safe.unheld {s : Shared ι} (h : Safe s) {now : Int} (havailable : Available s now)
    (hassumed : ∀ row, s.lease = some row → row.expiresAt ≤ now →
      ∀ m, (row.owner, m) ∈ s.owners → s.holder ≠ some m) (m : ι) : s.holder ≠ some m := by
  intro hholder
  obtain ⟨row, hrow, hdrawn⟩ := h.holder m hholder
  exact hassumed row hrow (havailable row hrow) m hdrawn hholder

theorem Shared.leave_holder {s : Shared ι} {i m : ι} (h : (s.leave i).holder = some m) :
    s.holder = some m ∧ m ≠ i := by
  unfold Shared.leave at h
  dsimp only at h
  by_cases hi : s.holder = some i
  · rw [if_pos hi] at h
    exact nomatch h
  · rw [if_neg hi] at h
    exact ⟨h, fun hmi => hi (hmi ▸ h)⟩

theorem Safe.kept {i : ι} {e : Effect} {s s' : Shared ι} {r : Reply e} (h : Safe s)
    (hcontract : Contract i e s r s') : Safe s' := by
  obtain ⟨⟨hhandle, hassumed⟩, hpromise⟩ := hcontract
  cases e with
  | clock =>
      obtain rfl : s' = s := hhandle
      exact h
  | getParameter =>
      obtain rfl : s' = s := hhandle.1
      exact h
  | putParameter bundle =>
      obtain ⟨_, _, hfresh⟩ := hpromise
      rcases hhandle with ⟨_, rfl⟩ | ⟨version, rfl, _⟩
      · exact h
      · refine ⟨h.holder, h.owners, ?_⟩
        show bundle.refreshToken ∉ if bundle.refreshToken = s.parameter.value.refreshToken then
          s.replaced else s.parameter.value.refreshToken :: s.replaced
        split
        case isTrue => exact hfresh
        case isFalse hne => exact List.not_mem_cons_of_ne_of_not_mem hne hfresh
  | post request =>
      obtain rfl : s' = _ := hhandle
      exact ⟨h.holder, h.owners, h.current⟩
  | ownerFactory =>
      obtain rfl : s' = _ := hhandle
      refine ⟨fun m hm => ?_, fun owner m m' hm hm' => ?_, h.current⟩
      · obtain ⟨row, hrow, hdrawn⟩ := h.holder m hm
        exact ⟨row, hrow, List.mem_append_left _ hdrawn⟩
      · rcases List.mem_append.mp hm with hm | hm
        · rcases List.mem_append.mp hm' with hm' | hm'
          · exact h.owners owner m m' hm hm'
          · have heq := List.mem_singleton.mp hm'
            exact (hassumed _ hm (congrArg Prod.fst heq)).elim
        · have heq := List.mem_singleton.mp hm
          rcases List.mem_append.mp hm' with hm' | hm'
          · exact (hassumed _ hm' (congrArg Prod.fst heq)).elim
          · exact (congrArg Prod.snd heq).trans (congrArg Prod.snd (List.mem_singleton.mp hm')).symm
  | putItem owner now expiresAt =>
      rcases hhandle with ⟨_, rfl⟩ | ⟨havailable, ⟨_, rfl⟩ | ⟨_, rfl⟩⟩
      · exact h
      · refine ⟨fun m hm => ⟨_, rfl, ?_⟩, h.owners, h.current⟩
        obtain rfl : i = m := Option.some.inj hm
        exact hpromise
      · exact ⟨fun m hm => absurd hm (h.unheld havailable hassumed m), h.owners, h.current⟩
  | deleteItem owner =>
      rcases hhandle with ⟨_, rfl⟩ | ⟨⟨row, hrow, howner⟩, rfl⟩
      · exact ⟨fun m hm => h.holder m (Shared.leave_holder hm).1, h.owners, h.current⟩
      · refine ⟨fun m hm => ?_, h.owners, h.current⟩
        -- the row is the holder's, and nobody else drew its owner
        obtain ⟨hholder, hne⟩ := Shared.leave_holder (hm : (s.leave i).holder = some m)
        obtain ⟨held, hheld, hdrawn⟩ := h.holder m hholder
        obtain rfl : row = held := Option.some.inj (hrow.symm.trans hheld)
        rw [howner] at hdrawn
        exact absurd (h.owners owner m i hdrawn hpromise) hne

theorem rely_of_contract {i : ι} {e : Effect} {s s' : Shared ι} {r : Reply e} (h : Safe s)
    (hcontract : Contract i e s r s') {j : ι} (hne : j ≠ i) : Rely j s s' := by
  obtain ⟨⟨hhandle, hassumed⟩, hpromise⟩ := hcontract
  have hrefl : Rely j s s := Rely.refl j s
  cases e with
  | clock =>
      obtain rfl : s' = s := hhandle
      exact hrefl
  | getParameter =>
      obtain rfl : s' = s := hhandle.1
      exact hrefl
  | putParameter bundle =>
      rcases hhandle with ⟨_, rfl⟩ | ⟨version, rfl, _⟩
      · exact hrefl
      · refine ⟨fun hj => ?_, fun hj => hj, rfl, fun _ ho => ho⟩
        exact absurd (Option.some.inj (hj.symm.trans hpromise.1)) hne
  | post request =>
      obtain rfl : s' = _ := hhandle
      exact ⟨fun hj => ⟨hj, rfl, rfl⟩, fun hj => hj, Function.update_of_ne hne _ _, fun _ ho => ho⟩
  | ownerFactory =>
      obtain rfl : s' = _ := hhandle
      exact ⟨fun hj => ⟨hj, rfl, rfl⟩, fun hj => hj, rfl, fun _ ho => List.mem_append_left _ ho⟩
  | putItem owner now expiresAt =>
      rcases hhandle with ⟨_, rfl⟩ | ⟨havailable, hlanded⟩
      · exact hrefl
      · have hunheld := h.unheld havailable hassumed j
        rcases hlanded with ⟨_, rfl⟩ | ⟨_, rfl⟩
        · exact ⟨fun hj => absurd hj hunheld, fun _ hj => hne (Option.some.inj hj).symm, rfl,
            fun _ ho => ho⟩
        · exact ⟨fun hj => absurd hj hunheld, fun hj => hj, rfl, fun _ ho => ho⟩
  | deleteItem owner =>
      have hleave : Rely j s (s.leave i) := by
        refine ⟨fun hj => ⟨?_, rfl, rfl⟩, fun hj hleft => hj (Shared.leave_holder hleft).1, rfl,
          fun _ ho => ho⟩
        unfold Shared.leave
        dsimp only
        rw [if_neg fun hi => hne (Option.some.inj (hj.symm.trans hi))]
        exact hj
      rcases hhandle with ⟨_, rfl⟩ | ⟨_, rfl⟩
      · exact hleave
      · exact ⟨hleave.inside, hleave.outside, hleave.posted, hleave.owners⟩

/-! ## Rules -/

section Rules

variable {i : ι} {α β : Type}

/-- A program that keeps to what a manager promises. -/
abbrev Keeps (i : ι) (Q : α → Shared ι → Prop) (p : Prog Effect Reply α) (s : Shared ι) : Prop :=
  Sound Safe (Goes i) (Rely i) (Contract i) Q p s

/-- A condition that the others leave alone. -/
abbrev Lasts (i : ι) (P : Shared ι → Prop) : Prop := Stable (Rely i) P

section Programs

variable {A : Shared ι → Prop} {Q : α → Shared ι → Prop} {Q' : β → Shared ι → Prop} {s : Shared ι}

/-- One call, kept as promised. -/
theorem Keeps.perform {e : Effect} {Q : Reply e → Shared ι → Prop} (P : Shared ι → Prop) (h : P s)
    (hP : Lasts i P) (hpromise : ∀ s, Safe s → P s → Promise i e s)
    (hpost : ∀ s r s', Safe s → P s → Goes i e s r s' → A s' ∧ Q r s')
    (hQ : ∀ r, Lasts i fun s => A s ∧ Q r s) :
    Keeps i (Ends A Q) (perform e).run s :=
  Sound.effect P h hP (fun s _ _ hsafe hs hgoes => ⟨hgoes, hpromise s hsafe hs⟩) hpost hQ

/-- A clock may be read at any time. -/
theorem keeps_clock {R : Shared ι → Prop} (h : A s) (hR : R s)
    (hlasts : Lasts i fun s => A s ∧ R s) : Keeps i (Ends A fun _ => R) clock.run s := by
  refine Keeps.perform (e := .clock) (fun s => A s ∧ R s) ⟨h, hR⟩ hlasts (fun _ _ _ => trivial)
    (fun s r s' _ hs hgoes => ?_) fun _ => hlasts
  obtain rfl : s' = s := hgoes.1
  exact hs

/-- A read of the parameter returns what it holds. -/
theorem keeps_getParameter {V : TokenBundle → Shared ι → Prop} (h : A s) (hA : Lasts i A)
    (hread : ∀ s, Safe s → A s → V s.parameter.value s)
    (hV : ∀ bundle, Lasts i fun s => A s ∧ V bundle s) :
    Keeps i (Ends A fun r s => ∀ p, r = .ok p → V p.value s) (perform .getParameter).run s := by
  refine Keeps.perform (e := .getParameter) A h hA (fun _ _ _ => trivial)
    (fun s r s' hsafe hs hgoes => ?_) fun r s s' hs hrely => ?_
  · obtain ⟨rfl, hr⟩ := hgoes.1
    refine ⟨hs, fun p hp => ?_⟩
    rw [hr p hp]
    exact hread _ hsafe hs
  · exact ⟨hA s s' hs.1 hrely, fun p hp => (hV p.value s s' ⟨hs.1, hs.2 p hp⟩ hrely).2⟩

end Programs

end Rules

/-! ## Conditions of a manager -/

section Managers

variable {i : ι} {owner : String} {s : Shared ι}

/-- The manager is not between an acquired lease and its release. -/
def Outside (i : ι) (s : Shared ι) : Prop := s.holder ≠ some i

/-- The manager is, under an owner it drew. -/
def Inside (i : ι) (owner : String) (s : Shared ι) : Prop :=
  s.holder = some i ∧ (owner, i) ∈ s.owners

omit [DecidableEq ι] in
theorem lasts_outside : Lasts i (Outside i) := fun _ _ hs hrely => hrely.outside hs

omit [DecidableEq ι] in
/-- Inside, the parameter and what was replaced and posted stay. -/
theorem lasts_inside (R : Parameter → List String → Option String → Prop) :
    Lasts i fun s => Inside i owner s ∧ R s.parameter s.replaced (s.posted i) := by
  rintro s s' ⟨⟨hholder, hdrawn⟩, hR⟩ hrely
  obtain ⟨hheld, hparameter, hreplaced⟩ := hrely.inside hholder
  refine ⟨⟨hheld, hrely.owners owner hdrawn⟩, ?_⟩
  rw [hparameter, hreplaced, hrely.posted]
  exact hR

omit [DecidableEq ι] in
theorem lasts_within : Lasts i (Inside i owner) := fun s s' hs hrely =>
  (lasts_inside (fun _ _ _ => True) s s' ⟨hs, trivial⟩ hrely).1

/-! ## Bundles -/

section Bundles

variable [Runtime] [CharacterTables]

theorem fromJson_ok {bundle b : TokenBundle} {now : Int} (h : fromJson bundle now = .ok b) :
    b = bundle := by
  unfold fromJson at h
  split at h
  · exact nomatch h
  · split at h
    · exact (Except.ok.inj h).symm
    · exact nomatch h

theorem nextRefresh_of_validated {response : Response} {current bundle : TokenBundle} {now : Int}
    (h : validatedTokenBundle response current now = .ok bundle) :
    nextRefresh response current.refreshToken = .ok bundle.refreshToken := by
  unfold validatedTokenBundle at h
  cases hnext : nextRefresh response current.refreshToken with
  | error e =>
      simp only [hnext, bind, Except.bind, pure, Except.pure, throw, throwThe,
        MonadExceptOf.throw] at h
      repeat' split at h
      all_goals exact nomatch h
  | ok token =>
      simp only [hnext, bind, Except.bind, pure, Except.pure, throw, throwThe,
        MonadExceptOf.throw] at h
      repeat' split at h
      all_goals first | (obtain rfl := Except.ok.inj h; rfl) | exact nomatch h

omit [Runtime] [CharacterTables] in
/-- The next refresh token is the returned one, or the one before. -/
theorem nextRefresh_cases {response : Response} {prior token : String}
    (h : nextRefresh response prior = .ok token) :
    returnedRefresh response = some token ∨ token = prior := by
  unfold nextRefresh at h
  unfold returnedRefresh
  split at h
  case h_1 | h_2 =>
    split at h
    · exact nomatch h
    · exact Or.inr (Except.ok.inj h).symm
  case h_3 => exact nomatch h
  case h_4 value _ hlookup =>
    obtain rfl : value = token := Except.ok.inj h
    rw [hlookup]
    exact Or.inl rfl
  case h_5 => exact nomatch h

/-! ## The programs of a manager -/

/-- A load returns the bundle of the parameter as it was read. -/
theorem keeps_load {A : Shared ι → Prop} {V : TokenBundle → Shared ι → Prop} (h : A s)
    (hA : Lasts i A) (hread : ∀ s, Safe s → A s → V s.parameter.value s)
    (hV : ∀ bundle, Lasts i fun s => A s ∧ V bundle s) : Keeps i (Ends A V) load.run s := by
  unfold load
  refine Sound.ends_bind (keeps_getParameter h hA hread hV) hA fun r s hs hr => ?_
  cases r with
  | error e => exact Sound.thrown hs hA
  | ok p =>
      dsimp only
      split
      · exact Sound.thrown hs hA
      · refine Sound.ends_bind (keeps_clock hs (hr p rfl) (hV p.value)) hA fun now s hs hvalue => ?_
        refine Sound.ended ?_ hA hV
        cases hjson : fromJson p.value now with
        | error e => exact hs
        | ok bundle =>
            obtain rfl := fromJson_ok hjson
            exact ⟨hs, hvalue⟩

/-- Inside, the parameter is the bundle that was read, and its refresh token was posted last. -/
def Posted (i : ι) (current : TokenBundle) (s : Shared ι) : Prop :=
  s.parameter.value = current ∧ s.posted i = some current.refreshToken

omit [DecidableEq ι] [Runtime] [CharacterTables] in
theorem lasts_saving {current : TokenBundle} {token : String} :
    Lasts i fun s => Inside i owner s ∧ Posted i current s ∧ token ∉ s.replaced :=
  lasts_inside fun p replaced posted =>
    (p.value = current ∧ posted = some current.refreshToken) ∧ token ∉ replaced

omit [Runtime] [CharacterTables] in
/-- A put inside puts over the bundle whose refresh token was posted. -/
theorem keeps_putParameter {current bundle : TokenBundle} (h : Inside i owner s)
    (hposted : Posted i current s) (hfresh : bundle.refreshToken ∉ s.replaced) :
    Keeps i (Ends (Inside i owner) fun _ _ => True) (perform (.putParameter bundle)).run s := by
  refine Keeps.perform (e := .putParameter bundle)
    (fun s => Inside i owner s ∧ Posted i current s ∧ bundle.refreshToken ∉ s.replaced)
    ⟨h, hposted, hfresh⟩ lasts_saving (fun s _ hs => ?_) (fun s r s' _ hs hgoes => ?_)
    fun _ => lasts_inside fun _ _ _ => True
  · obtain ⟨⟨hholder, _⟩, ⟨hvalue, hposted⟩, hfresh⟩ := hs
    exact ⟨hholder, hvalue ▸ hposted, hfresh⟩
  · rcases hgoes.1 with ⟨_, rfl⟩ | ⟨version, rfl, _⟩
    · exact ⟨hs.1, trivial⟩
    · exact ⟨hs.1, trivial⟩

/-- A save inside saves over the bundle whose refresh token was posted. -/
theorem keeps_save {current bundle : TokenBundle} (h : Inside i owner s)
    (hposted : Posted i current s) (hfresh : bundle.refreshToken ∉ s.replaced) :
    Keeps i (Ends (Inside i owner) fun _ _ => True) (save bundle).run s := by
  have htrue : Lasts i fun s => Inside i owner s ∧ True := lasts_inside fun _ _ _ => True
  unfold save
  refine Sound.ends_bind (keeps_clock h ⟨hposted, hfresh⟩ lasts_saving) lasts_within fun now s h hs => ?_
  cases hvalid : validateStoredBundle bundle now with
  | error e => exact Sound.thrown h lasts_within
  | ok valid =>
      refine Sound.ends_bind (Q := fun _ s => Posted i current s ∧ bundle.refreshToken ∉ s.replaced)
        (Sound.pure h hs lasts_saving) lasts_within fun _ s h hs => ?_
      refine Sound.ends_bind (keeps_putParameter h hs.1 hs.2) lasts_within fun r s h _ => ?_
      cases r with
      | error e => exact Sound.thrown h lasts_within
      | ok version =>
          refine Sound.ends_bind (keeps_getParameter (V := fun _ _ => True) h lasts_within
            (fun _ _ _ => trivial) fun _ => htrue) lasts_within fun r s h _ => ?_
          cases r with
          | error e => exact Sound.thrown h lasts_within
          | ok readback =>
              dsimp only
              split
              · exact Sound.thrown h lasts_within
              · exact Sound.pure h trivial htrue

/-- Whatever the response leads to as the next refresh token was not saved over. -/
def Issued (current : TokenBundle) (response : Response) (replaced : List String) : Prop :=
  ∀ token, returnedRefresh response = some token ∨ token = current.refreshToken → token ∉ replaced

omit [DecidableEq ι] [Runtime] [CharacterTables] in
theorem lasts_issued {current : TokenBundle} (R : List String → Prop) :
    Lasts i fun s => Inside i owner s ∧ Posted i current s ∧ R s.replaced :=
  lasts_inside fun p replaced posted =>
    (p.value = current ∧ posted = some current.refreshToken) ∧ R replaced

omit [Runtime] [CharacterTables] in
/-- A post inside posts the refresh token of the parameter, which was not saved over. -/
theorem keeps_post {current : TokenBundle} (h : Inside i owner s)
    (hvalue : s.parameter.value = current) :
    Keeps i (Ends (Inside i owner) fun r s => Posted i current s ∧
        ∀ response, r = .ok response → Issued current response s.replaced)
      (perform (.post (refreshRequest current))).run s := by
  refine Keeps.perform (e := .post (refreshRequest current))
    (fun s => Inside i owner s ∧ s.parameter.value = current) ⟨h, hvalue⟩
    (lasts_inside fun p _ _ => p.value = current) (fun s hsafe hs => ?_)
    (fun s r s' hsafe hs hgoes => ?_) fun r => lasts_issued fun replaced =>
      ∀ response, r = .ok response → Issued current response replaced
  · show current.refreshToken ∉ s.replaced
    rw [← hs.2]
    exact hsafe.current
  · obtain ⟨hhandle, hassumed⟩ := hgoes
    obtain rfl : s' = _ := hhandle
    refine ⟨hs.1, ⟨hs.2, Function.update_self i _ _⟩, fun response hr token htoken => ?_⟩
    rcases htoken with hreturned | rfl
    · exact hassumed response hr token hreturned
    · rw [← hs.2]
      exact hsafe.current

/-- A refresh inside of the bundle of the parameter. -/
theorem keeps_refreshBundle {current : TokenBundle} (h : Inside i owner s)
    (hvalue : s.parameter.value = current) :
    Keeps i (Ends (Inside i owner) fun _ _ => True) (refreshBundle current).run s := by
  have htrue : Lasts i fun s => Inside i owner s ∧ True := lasts_inside fun _ _ _ => True
  unfold refreshBundle
  refine Sound.ends_bind (keeps_post h hvalue) lasts_within fun r s h hposted => ?_
  cases r with
  | error e => exact Sound.thrown h lasts_within
  | ok response =>
      have hissued : Issued current response s.replaced := hposted.2 response rfl
      refine Sound.ends_bind
        (keeps_clock h ⟨hposted.1, hissued⟩ (lasts_issued (Issued current response)))
        lasts_within fun now s h hs => ?_
      cases hvalid : validatedTokenBundle response current now with
      | error e => exact Sound.thrown h lasts_within
      | ok refreshed =>
          have hfresh : refreshed.refreshToken ∉ s.replaced :=
            hs.2 _ (nextRefresh_cases (nextRefresh_of_validated hvalid))
          refine Sound.ends_bind (Q := fun bundle s => Posted i current s ∧
              bundle.refreshToken ∉ s.replaced)
            (Sound.pure h ⟨hs.1, hfresh⟩ lasts_saving) lasts_within fun bundle s h hs => ?_
          refine Sound.ends_bind (Sound.caught (keeps_save h hs.1 hs.2) (fun _ => htrue)
            fun e s h => ?_) lasts_within fun _ s h _ => Sound.pure h trivial htrue
          cases e with
          | oauth code => exact Sound.thrown h lasts_within
          | python e => exact Sound.thrown h lasts_within

/-- Whether the parameter is still what was observed, and a refresh of it if it is. -/
theorem keeps_refreshUnlessFresh {A : Shared ι → Prop} {V : TokenBundle → Shared ι → Prop}
    (observed : TokenBundle) (refreshRequired : Bool) (margin : Int)
    {refresh : TokenBundle → Manager (TokenBundle × Bool)} (h : A s) (hA : Lasts i A)
    (hread : ∀ s, Safe s → A s → V s.parameter.value s)
    (hV : ∀ bundle, Lasts i fun s => A s ∧ V bundle s)
    (hrefresh : ∀ current s, A s → V current s →
      Keeps i (Ends A fun _ _ => True) (refresh current).run s) :
    Keeps i (Ends A fun _ _ => True)
      (refreshUnlessFresh observed refreshRequired margin refresh).run s := by
  have htrue : Lasts i fun s => A s ∧ True := hA.and fun _ _ _ _ => trivial
  unfold refreshUnlessFresh
  refine Sound.ends_bind (keeps_load h hA hread hV) hA fun current s h hcurrent => ?_
  split
  · exact Sound.pure h trivial htrue
  · split
    · exact hrefresh current s h hcurrent
    · refine Sound.ends_bind (keeps_clock h hcurrent (hV current)) hA fun now s h hcurrent => ?_
      split
      · exact Sound.pure h trivial htrue
      · exact hrefresh current s h hcurrent

/-- What holds after an attempt to acquire the lease. -/
def Acquired (i : ι) : Except TokenError (Option String) → Shared ι → Prop
  | .ok (some owner), s => Inside i owner s ∧ owner ≠ ""
  | _, s => Outside i s

omit [DecidableEq ι] [Runtime] [CharacterTables] in
theorem lasts_acquired (r : Except TokenError (Option String)) : Lasts i (Acquired i r) := by
  rcases r with e | (_ | owner)
  · exact lasts_outside
  · exact lasts_outside
  · exact lasts_inside fun _ _ _ => owner ≠ ""

omit [Runtime] [CharacterTables] in
/-- An owner that was drawn outside. -/
theorem keeps_ownerFactory (h : Outside i s) :
    Keeps i (Ends (Outside i) fun owner s => (owner, i) ∈ s.owners)
      (perform .ownerFactory).run s := by
  refine Keeps.perform (e := .ownerFactory) (Outside i) h lasts_outside (fun _ _ _ => trivial)
    (fun s owner s' _ hs hgoes => ?_) fun owner s s' hs hrely =>
      ⟨hrely.outside hs.1, hrely.owners owner hs.2⟩
  obtain rfl : s' = _ := hgoes.1
  exact ⟨hs, List.mem_append_right _ (List.mem_singleton.mpr rfl)⟩

omit [Runtime] [CharacterTables] in
theorem keeps_acquire {leaseSeconds : Int} (h : Outside i s) :
    Keeps i (Acquired i) (acquire leaseSeconds).run s := by
  unfold acquire
  refine Sound.except_bind (keeps_ownerFactory h) (fun owner s hs => ?_) (fun _ _ hs => hs)
    fun e => lasts_acquired (.error e)
  by_cases hempty : owner = ""
  · rw [if_pos hempty]
    exact Sound.done hs.1 (lasts_acquired (.error _))
  · rw [if_neg hempty]
    have hlasts : Lasts i fun s => Outside i s ∧ (owner, i) ∈ s.owners :=
      fun s s' hs hrely => ⟨hrely.outside hs.1, hrely.owners owner hs.2⟩
    refine Sound.except_bind (keeps_clock hs.1 hs.2 hlasts) (fun now s hs => ?_) (fun _ _ hs => hs)
      fun e => lasts_acquired (.error e)
    refine Sound.perform (fun s => Outside i s ∧ (owner, i) ∈ s.owners) hs hlasts
      (fun s r s' _ hs hgoes => ⟨hgoes, hs.2⟩) fun s r s' _ hs hgoes => ?_
    rcases hgoes.1 with ⟨rfl, rfl⟩ | ⟨_, ⟨rfl, rfl⟩ | ⟨rfl, rfl⟩⟩
    · exact Sound.done hs.1 (lasts_acquired (.ok none))
    · exact Sound.done ⟨⟨rfl, hs.2⟩, hempty⟩ (lasts_acquired (.ok (some owner)))
    · exact Sound.done hs.1 (lasts_acquired (.ok none))

omit [Runtime] [CharacterTables] in
/-- A release of the owner the lease was acquired under. -/
theorem keeps_release (h : Inside i owner s) (howner : owner ≠ "") :
    Keeps i (fun _ => Outside i) (release owner) s := by
  unfold release
  rw [if_neg howner]
  refine Sound.perform (Inside i owner) h lasts_within (fun s r s' _ hs hgoes => ⟨hgoes, hs.2⟩)
    fun s r s' _ hs hgoes => ?_
  have hleft : Outside i s' := by
    rcases hgoes.1 with ⟨_, rfl⟩ | ⟨_, rfl⟩
    · exact fun hheld => (Shared.leave_holder hheld).2 rfl
    · exact fun hheld => (Shared.leave_holder (s := s) hheld).2 rfl
  cases r with
  | ok _ => exact Sound.done hleft lasts_outside
  | error _ => exact Sound.done hleft lasts_outside

theorem keeps_refreshWithLease {settings : Settings} {observed : TokenBundle}
    {refreshRequired : Bool} (hlease : settings.hasLease = true) (h : Outside i s) :
    Keeps i (Ends (Outside i) fun _ _ => True)
      (refreshWithLease settings observed refreshRequired).run s := by
  have htrue : Lasts i fun s => Outside i s ∧ True := lasts_outside.and fun _ _ _ _ => trivial
  unfold refreshWithLease
  rw [if_pos hlease]
  refine Sound.except_bind (keeps_acquire h) (fun acquired s hs => ?_) (fun _ _ hs => hs)
    fun e => lasts_outside
  cases acquired with
  | none =>
      refine keeps_refreshUnlessFresh (V := fun _ _ => True) _ _ _ hs lasts_outside
        (fun _ _ _ => trivial) (fun _ => htrue) fun current s h _ => ?_
      exact Sound.thrown h lasts_outside
  | some owner =>
      obtain ⟨hinside, howner⟩ := hs
      have hread : ∀ s : Shared ι, Safe s → Inside i owner s →
          s.parameter.value = s.parameter.value := fun _ _ _ => rfl
      have hrefresh := keeps_refreshUnlessFresh (V := fun bundle s => s.parameter.value = bundle)
        observed refreshRequired settings.margin hinside lasts_within hread
        (fun bundle => lasts_inside fun p _ _ => p.value = bundle)
        fun current s h hvalue => keeps_refreshBundle h hvalue
      refine Sound.bind hrefresh fun result s hresult => ?_
      have hinside : Inside i owner s := by
        cases result with
        | ok value => exact hresult.1
        | error e => exact hresult
      refine Sound.bind (keeps_release hinside howner) fun _ s h => ?_
      refine Sound.done ?_ (lasts_outside.ends (fun _ => htrue) result)
      cases result with
      | ok value => exact ⟨h, trivial⟩
      | error e => exact h

/-! ## The operations -/

variable {settings : Settings}

/-- A read outside says nothing that lasts. -/
theorem keeps_load_outside (h : Outside i s) :
    Keeps i (Ends (Outside i) fun _ _ => True) load.run s :=
  keeps_load h lasts_outside (fun _ _ _ => trivial) fun _ =>
    lasts_outside.and fun _ _ _ _ => trivial

theorem keeps_accessToken (hlease : settings.hasLease = true) (h : Outside i s) :
    Keeps i (Ends (Outside i) fun _ _ => True) (accessToken settings).run s := by
  have htrue : Lasts i fun s => Outside i s ∧ True := lasts_outside.and fun _ _ _ _ => trivial
  unfold accessToken
  refine Sound.ends_bind (keeps_load_outside h) lasts_outside fun current s h _ => ?_
  refine Sound.ends_bind (keeps_clock h trivial htrue) lasts_outside fun now s h _ => ?_
  split
  · exact Sound.pure h trivial htrue
  · exact Sound.ends_bind (keeps_refreshWithLease hlease h) lasts_outside fun _ s h _ =>
      Sound.pure h trivial htrue

theorem keeps_refresh (hlease : settings.hasLease = true) (h : Outside i s) :
    Keeps i (Ends (Outside i) fun _ _ => True) (refresh settings).run s := by
  unfold refresh
  exact Sound.ends_bind (keeps_load_outside h) lasts_outside fun current s h _ =>
    keeps_refreshWithLease hlease h

theorem keeps_refreshAfterUnauthorized {rejectedToken : String} (hlease : settings.hasLease = true)
    (h : Outside i s) : Keeps i (Ends (Outside i) fun _ _ => True)
      (refreshAfterUnauthorized settings rejectedToken).run s := by
  have htrue : Lasts i fun s => Outside i s ∧ True := lasts_outside.and fun _ _ _ _ => trivial
  unfold refreshAfterUnauthorized
  refine Sound.ends_bind (keeps_load_outside h) lasts_outside fun current s h _ => ?_
  cases hsame : compareDigest current.accessToken rejectedToken with
  | error e => exact Sound.thrown h lasts_outside
  | ok same =>
      refine Sound.ends_bind (Q := fun _ _ => True) (Sound.pure h trivial htrue) lasts_outside
        fun same s h _ => ?_
      split
      · exact keeps_refreshWithLease hlease h
      · exact Sound.pure h trivial htrue

/-- Every operation keeps to what a manager promises and leaves it outside. -/
theorem keeps_program (hlease : settings.hasLease = true) (operation : Operation)
    (h : Outside i s) : Keeps i (fun _ => Outside i) (operation.program settings) s := by
  have hended : ∀ {γ : Type} {p : Manager γ},
      Keeps i (Ends (Outside i) fun _ _ => True) p.run s →
      Keeps i (fun _ => Outside i) (p.run >>= fun _ => (pure () : Prog Effect Reply Unit)) s := by
    intro γ p hp
    refine Sound.bind hp fun r s hr => Sound.done ?_ lasts_outside
    cases r with
    | ok value => exact hr.1
    | error e => exact hr
  cases operation with
  | accessToken => exact hended (keeps_accessToken hlease h)
  | refresh => exact hended (keeps_refresh hlease h)
  | refreshAfterUnauthorized rejectedToken =>
      exact hended (keeps_refreshAfterUnauthorized hlease h)

end Bundles

end Managers

/-! ## Runs -/

section Running

variable [Runtime] [CharacterTables]

/-- A manager starts any of its operations. -/
def Starts (settings : ι → Settings) (i : ι) (p : Prog Effect Reply Unit) (s s' : Shared ι) :
    Prop :=
  (∃ operation : Operation, p = operation.program (settings i)) ∧ s' = s

/-- A manager stops when its operation has ended. -/
def Ended (_ : ι) (p : Prog Effect Reply Unit) (s s' : Shared ι) : Prop := p = .done () ∧ s' = s

/-- Nothing has happened yet, whatever the parameter and the lease table hold. -/
structure Unused (s : Shared ι) : Prop where
  owners : s.owners = []
  holder : s.holder = none
  replaced : s.replaced = []

/-- The pools that managers with these settings reach. -/
def Reached (settings : ι → Settings) (pool : Pool ι Effect Reply Unit (Shared ι)) : Prop :=
  ∃ initial, Unused initial ∧ Pool.Reaches Goes (Starts settings) Ended initial pool

/-- What managers with the lease keep to. -/
def managers (settings : ι → Settings) (hlease : ∀ i, (settings i).hasLease = true) :
    Discipline (Goes (ι := ι)) (Starts settings) Ended where
  inv := Safe
  idle := Outside
  rely := Rely
  contract := Contract
  idle_stable _ := lasts_outside
  others _ _ _ _ _ hsafe hcontract _ hne := rely_of_contract hsafe hcontract hne
  kept _ _ _ _ _ hsafe hcontract := hsafe.kept hcontract
  started := by
    rintro i p s s' ⟨⟨operation, rfl⟩, rfl⟩ hsafe hidle
    exact ⟨hsafe, keeps_program (hlease i) operation hidle, fun j _ => Rely.refl j _⟩
  stopped := by
    rintro i p s s' ⟨rfl, rfl⟩ hsafe hsound
    cases hsound with
    | done h _ => exact ⟨hsafe, h, fun j _ => Rely.refl j _⟩

/-- A call of a manager is safe: it posts no refresh token that was saved over, saves over the
bundle whose refresh token the manager posted last, and deletes no lease of another manager. -/
def SafeCall (i : ι) : Effect → Shared ι → Shared ι → Prop
  | .post request, s, _ => request.refreshToken ∉ s.replaced
  | .putParameter _, s, _ => s.posted i = some s.parameter.value.refreshToken
  | .deleteItem _, s, s' => ∀ row, s.lease = some row → s'.lease = none →
    ∀ m, (row.owner, m) ∈ s.owners ↔ m = i
  | _, _, _ => True

/-- Every call of managers that share the lease is safe, however they interleave. -/
theorem rotation_safe (settings : ι → Settings) (hlease : ∀ i, (settings i).hasLease = true)
    {pool : Pool ι Effect Reply Unit (Shared ι)} (h : Reached settings pool) {i : ι} {e : Effect}
    {next : Reply e → Prog Effect Reply Unit} (hthread : pool.threads i = some (.perform e next))
    {reply : Reply e} {shared : Shared ι} (hgoes : Goes i e pool.shared reply shared) :
    SafeCall i e pool.shared shared := by
  obtain ⟨initial, hunused, hreaches⟩ := h
  have hsafe : Safe initial := by
    refine ⟨fun m hm => ?_, fun owner m m' hm => ?_, ?_⟩
    · exact nomatch hunused.holder.symm.trans hm
    · rw [hunused.owners] at hm
      exact nomatch hm
    · rw [hunused.replaced]
      exact List.not_mem_nil
  have hidle : ∀ i, Outside i initial := fun i hi => nomatch hunused.holder.symm.trans hi
  have hgoverns := (managers settings hlease).governs_of_reaches hsafe hidle hreaches
  obtain ⟨_, hpromise⟩ := hgoverns.contract hthread hgoes
  cases e with
  | post request => exact hpromise
  | putParameter bundle => exact hpromise.2.1
  | deleteItem owner =>
      intro row hrow hdeleted m
      rcases hgoes.1 with ⟨_, rfl⟩ | ⟨⟨row', hrow', howner⟩, _⟩
      · exact nomatch hrow.symm.trans hdeleted
      · obtain rfl : row' = row := Option.some.inj (hrow'.symm.trans hrow)
        rw [howner]
        refine ⟨fun hm => hgoverns.inv.owners owner m i hm hpromise, fun hm => ?_⟩
        rw [hm]
        exact hpromise
  | clock | getParameter | ownerFactory | putItem _ _ _ => exact trivial

end Running

end Handling

/-! ## A rotation -/

section Case

/-- Texts of the form `https://host/path`, and whole numbers. -/
@[reducible] def plainRuntime : Runtime where
  int
    | .int value => .ok value
    | _ => .error .typeError
  urlparse url :=
    let rest := url.toList.drop 8
    .ok
      { scheme := String.ofList (url.toList.take 5)
        hostname := some (String.ofList (rest.takeWhile (· ≠ '/')))
        path := String.ofList (rest.dropWhile (· ≠ '/'))
        username := none
        password := none }

@[reducible] def plainCharacters : CharacterTables where
  isDecimal := Char.isDigit
  isSpace := Char.isWhitespace
  lower := List.map Char.toLower

local instance caseRuntime : Runtime := plainRuntime

local instance caseCharacters : CharacterTables := plainCharacters

def caseSettings : Unit → Settings := fun _ => ⟨true, 30, 300⟩

def caseBundle (accessToken refreshToken : String) (expiresAt : Int) : TokenBundle where
  accessToken := accessToken
  refreshToken := refreshToken
  tokenType := "Bearer"
  scopes := {"mcp:read"}
  expiresAt := expiresAt
  tokenEndpoint := "https://cockroachlabs.cloud/mcp/oauth/token"
  clientId := "tally"
  resource := "https://cockroachlabs.cloud/mcp"

def caseResponse : Response :=
  [("access_token", .str "a1"), ("token_type", .str "Bearer"), ("expires_in", .int 3600),
    ("refresh_token", .str "r1")]

/-- The state at the start, once the owner is drawn, under the lease and after the post. -/
def caseStart : Shared Unit where
  parameter := ⟨"SecureString", caseBundle "a0" "r0" 0, 1⟩
  lease := none

def caseDrawn : Shared Unit := { caseStart with owners := [("owner", ())] }

def caseHeld : Shared Unit := { caseDrawn with lease := some ⟨"owner", 30⟩, holder := some () }

def casePosted : Shared Unit :=
  { caseHeld with posted := Function.update caseHeld.posted () (some "r0") }

/-- A refresh rotates the token: its save overwrites the bundle it posted. -/
theorem rotation_safe_rotated : ∃ pool next, Reached caseSettings pool ∧
    pool.threads () = some (.perform (.putParameter (caseBundle "a1" "r1" 3600)) next) ∧
      SafeCall () (.putParameter (caseBundle "a1" "r1" 3600)) pool.shared
        (pool.shared.save (caseBundle "a1" "r1" 3600) 2) := by
  have h : Pool.Reaches Goes (Starts caseSettings) Ended caseStart _ :=
    Pool.Reaches.start .refl () rfl ⟨⟨.refresh, rfl⟩, rfl⟩
  replace h := h.perform () .getParameter (.ok caseStart.parameter) caseStart rfl
    ⟨⟨rfl, fun _ hp => (Except.ok.inj hp).symm⟩, trivial⟩
  replace h := h.perform () .clock (0 : Int) caseStart rfl ⟨rfl, trivial⟩
  replace h := h.perform () .ownerFactory "owner" caseDrawn rfl ⟨rfl, nofun⟩
  replace h := h.perform () .clock (0 : Int) caseDrawn rfl ⟨rfl, trivial⟩
  replace h := h.perform () (.putItem "owner" 0 30) (.ok ()) caseHeld rfl
    ⟨Or.inr ⟨fun _ hrow => (nomatch hrow), Or.inl ⟨rfl, rfl⟩⟩, fun _ hrow => (nomatch hrow)⟩
  replace h := h.perform () .getParameter (.ok caseStart.parameter) caseHeld rfl
    ⟨⟨rfl, fun _ hp => (Except.ok.inj hp).symm⟩, trivial⟩
  replace h := h.perform () .clock (0 : Int) caseHeld rfl ⟨rfl, trivial⟩
  replace h := h.perform () (.post (refreshRequest (caseBundle "a0" "r0" 0))) (.ok caseResponse)
    casePosted rfl ⟨rfl, fun _ _ _ _ => List.not_mem_nil⟩
  replace h := h.perform () .clock (0 : Int) casePosted rfl ⟨rfl, trivial⟩
  replace h := h.perform () .clock (0 : Int) casePosted rfl ⟨rfl, trivial⟩
  have hreached : Reached caseSettings _ := ⟨caseStart, ⟨rfl, rfl, rfl⟩, h⟩
  have hgoes : Goes () (.putParameter (caseBundle "a1" "r1" 3600)) casePosted (.ok (2 : Int))
      (casePosted.save (caseBundle "a1" "r1" 3600) 2) :=
    ⟨Or.inr ⟨2, rfl, Or.inl rfl⟩, trivial⟩
  exact ⟨_, _, hreached, rfl, rotation_safe caseSettings (fun _ => rfl) hreached rfl hgoes⟩

end Case

end Tally.Analysis.Rotation
