import Tally.Analysis.Rotation
import Tally.Model.TokenTexts

/-!
# A rotated bundle stays usable

A bundle made of a response and of a stored bundle passes the check of stored bundles from the
moment it is made on: it has the only scope, the type, the endpoint and the resource the check
asks for, and an expiry within a day. Its text is read back as the bundle unless the client of
the stored bundle has no name: the check of stored bundles does not look at the client, the
reader of their texts does.
-/

set_option autoImplicit false

namespace Tally.Analysis.RotatedBundles
open Library Tally.Model Tally.Model.OauthTokens Tally.Model.CockroachMcp

/-! ## Written values -/

mutual
/-- What a decoder reads for a written value. -/
def decoded : Json → Value
  | .null => .null
  | .bool value => .bool value
  | .int value => .int value
  | .str value => .str value
  | .arr items => .list (decodedItems items)
  | .obj members => .dict (decodedMembers members)
def decodedItems : List Json → List Value
  | [] => []
  | item :: items => decoded item :: decodedItems items
def decodedMembers : List (String × Json) → List (String × Value)
  | [] => []
  | (name, value) :: members => (name, decoded value) :: decodedMembers members
end

/-- The decoder reads a written bundle back. -/
def ReadsBack [JsonDecoder] (bundle : TokenBundle) : Prop :=
  ∀ text, toJson bundle = .ok text →
    JsonDecoder.loads text.toList = .ok (decoded bundle.payload.sortKeys)

/-- The members of a payload in the order of their names. -/
theorem sortKeys_payload (bundle : TokenBundle) : bundle.payload.sortKeys =
    .obj
      [("access_token", .str bundle.accessToken),
        ("client_id", .str bundle.clientId),
        ("expires_at", .int bundle.expiresAt),
        ("refresh_token", .str bundle.refreshToken),
        ("resource", .str bundle.resource),
        ("scopes", .arr ((sortedScopes bundle.scopes).map .str)),
        ("token_endpoint", .str bundle.tokenEndpoint),
        ("token_type", .str bundle.tokenType)] := by
  have hitems (scopes : List String) :
      Json.sortItems (scopes.map Json.str) = scopes.map Json.str := by
    induction scopes with
    | nil => rfl
    | cons scope scopes ih =>
        rw [List.map_cons, Json.sortItems, Json.sortKeys, ih]
  simp [TokenBundle.payload, Json.sortKeys, Json.sortMembers, hitems]

theorem decodedItems_texts (texts : List String) :
    decodedItems (texts.map .str) = texts.map .str := by
  induction texts with
  | nil => rfl
  | cons text texts ih => rw [List.map_cons, List.map_cons, decodedItems, decoded, ih]

/-- The members a decoder reads for a bundle. -/
def storedMembers (bundle : TokenBundle) : List (String × Value) :=
  [("access_token", .str bundle.accessToken),
    ("client_id", .str bundle.clientId),
    ("expires_at", .int bundle.expiresAt),
    ("refresh_token", .str bundle.refreshToken),
    ("resource", .str bundle.resource),
    ("scopes", .list ((sortedScopes bundle.scopes).map .str)),
    ("token_endpoint", .str bundle.tokenEndpoint),
    ("token_type", .str bundle.tokenType)]

theorem decoded_payload (bundle : TokenBundle) :
    decoded bundle.payload.sortKeys = .dict (storedMembers bundle) := by
  rw [sortKeys_payload]
  simp only [decoded, decodedMembers, decodedItems_texts, storedMembers]

theorem textsMember_texts {members : List (String × Value)} {name : String} {texts : List String}
    (h : getMember members name = some (.list (texts.map .str))) :
    textsMember members name = some texts := by
  unfold textsMember
  rw [h]
  dsimp only
  clear h
  induction texts with
  | nil => rfl
  | cons text texts ih =>
      rw [List.map_cons, List.mapM_cons, ih]
      rfl

/-- The members written for a bundle are read as the bundle. -/
theorem bundleOf_storedMembers (bundle : TokenBundle) :
    bundleOf (storedMembers bundle) = some bundle := by
  have hscopes : textsMember (storedMembers bundle) "scopes" =
      some (sortedScopes bundle.scopes) := textsMember_texts rfl
  unfold bundleOf
  rw [hscopes]
  show some _ = some bundle
  rw [sortedScopes, Finset.sort_toFinset]

section Bundles

variable [Runtime] [CharacterTables]

/-! ## Checks -/

/-- A URL of the provider with the path. -/
def OfProvider (path : String → Prop) (text : String) : Prop :=
  ∃ url, Runtime.urlparse text = .ok url ∧ url.scheme = "https" ∧
    url.hostname = some "cockroachlabs.cloud" ∧ path url.path ∧
      absent url.username = true ∧ absent url.password = true

/-- What the check of a stored bundle asks for. -/
structure Accepted (bundle : TokenBundle) (current : Int) : Prop where
  type : lowerText bundle.tokenType = "bearer".toList
  scopes : bundle.scopes = {"mcp:read"}
  endpoint : OfProvider (· = "/mcp/oauth/token") bundle.tokenEndpoint
  resource : OfProvider (fun path => rstripSlash path = "/mcp") bundle.resource
  expiry : bundle.expiresAt ≤ current + 86400

theorem validateStoredBundle_iff (bundle : TokenBundle) (current : Int) :
    validateStoredBundle bundle current = .ok () ↔ Accepted bundle current := by
  unfold validateStoredBundle
  cases hendpoint : Runtime.urlparse bundle.tokenEndpoint with
  | error e =>
      refine ⟨fun h => ?_, fun h => ?_⟩
      · exact absurd h (by simp [Except.mapError, bind, Except.bind])
      · obtain ⟨url, hurl, _⟩ := h.endpoint
        rw [hendpoint] at hurl
        exact absurd hurl (by simp)
  | ok tokenUrl =>
      cases hresource : Runtime.urlparse bundle.resource with
      | error e =>
          refine ⟨fun h => ?_, fun h => ?_⟩
          · exact absurd h (by simp [Except.mapError, bind, Except.bind])
          · obtain ⟨url, hurl, _⟩ := h.resource
            rw [hresource] at hurl
            exact absurd hurl (by simp)
      | ok resourceUrl =>
          simp only [Except.mapError, bind, Except.bind, pure, Except.pure, throw, throwThe,
            MonadExceptOf.throw]
          constructor
          · intro h
            split at h
            · rename_i hvalid
              simp only [Bool.and_eq_true, decide_eq_true_eq] at hvalid
              obtain ⟨⟨⟨⟨⟨⟨⟨⟨⟨⟨⟨⟨h1, h2⟩, h3⟩, h4⟩, h5⟩, h6⟩, h7⟩, h8⟩, h9⟩, h10⟩, h11⟩, h12⟩, h13⟩ :=
                hvalid
              exact
                { type := h1
                  scopes := h2
                  endpoint := ⟨tokenUrl, hendpoint, h3, h4, h5, h6, h7⟩
                  resource := ⟨resourceUrl, hresource, h8, h9, h10, h11, h12⟩
                  expiry := h13 }
            · exact absurd h (by simp)
          · intro h
            obtain ⟨url, hurl, h3, h4, h5, h6, h7⟩ := h.endpoint
            obtain ⟨url', hurl', h8, h9, h10, h11, h12⟩ := h.resource
            rw [hendpoint] at hurl
            rw [hresource] at hurl'
            obtain rfl := Except.ok.inj hurl
            obtain rfl := Except.ok.inj hurl'
            rw [if_pos]
            simp only [Bool.and_eq_true, decide_eq_true_eq]
            exact ⟨⟨⟨⟨⟨⟨⟨⟨⟨⟨⟨⟨h.type, h.scopes⟩, h3⟩, h4⟩, h5⟩, h6⟩, h7⟩, h8⟩, h9⟩, h10⟩, h11⟩, h12⟩,
              h.expiry⟩

/-- What is accepted stays accepted: only the expiry depends on the time. -/
theorem Accepted.later {bundle : TokenBundle} {current later : Int} (h : Accepted bundle current)
    (hlater : current ≤ later) : Accepted bundle later :=
  { h with expiry := by have := h.expiry; omega }

/-! ## Rotation -/

/-- What a rotation makes of an accepted response. -/
structure Rotated (response : Response) (stored bundle : TokenBundle) (now : Int) : Prop where
  accessToken : bundle.accessToken ≠ ""
  refreshToken : nextRefresh response stored.refreshToken = .ok bundle.refreshToken
  type : bundle.tokenType = "Bearer"
  reads : "mcp:read" ∈ bundle.scopes
  within : bundle.scopes ⊆ stored.scopes
  lifetime : ∃ lifetime, grantedLifetime response = .ok lifetime ∧ bundle.expiresAt = now + lifetime
  endpoint : bundle.tokenEndpoint = stored.tokenEndpoint
  client : bundle.clientId = stored.clientId
  resource : bundle.resource = stored.resource

theorem rotated_of_validated {response : Response} {stored bundle : TokenBundle} {now : Int}
    (h : validatedTokenBundle response stored now = .ok bundle) :
    Rotated response stored bundle now := by
  obtain ⟨token, hnext⟩ : ∃ token, nextRefresh response stored.refreshToken = .ok token :=
    ⟨_, Rotation.nextRefresh_of_validated h⟩
  unfold validatedTokenBundle at h
  cases hlifetime : grantedLifetime response with
  | error e =>
      simp only [hlifetime, bind, Except.bind, pure, Except.pure, throw, throwThe,
        MonadExceptOf.throw] at h
      repeat' split at h
      all_goals exact absurd h (by simp)
  | ok lifetime =>
      cases hscopes : grantedScopes response stored.scopes with
      | error e =>
          simp only [hlifetime, hscopes, bind, Except.bind, pure, Except.pure, throw, throwThe,
            MonadExceptOf.throw] at h
          repeat' split at h
          all_goals exact absurd h (by simp)
      | ok scopes =>
          simp only [hlifetime, hscopes, hnext, bind, Except.bind, pure, Except.pure, throw,
            throwThe, MonadExceptOf.throw] at h
          split at h
          · exact absurd h (by simp)
          · rename_i value haccess hlookup
            split at h
            · split at h
              · split at h
                · rename_i hgranted
                  obtain rfl := Except.ok.inj h
                  exact
                    { accessToken := fun hempty => haccess hempty
                      refreshToken := hnext
                      type := rfl
                      reads := hgranted.1
                      within := hgranted.2.2
                      lifetime := ⟨lifetime, hlifetime, rfl⟩
                      endpoint := rfl
                      client := rfl
                      resource := rfl }
                · exact absurd h (by simp)
              · exact absurd h (by simp)
            · exact absurd h (by simp)
          · exact absurd h (by simp)

omit [CharacterTables] in
/-- A granted lifetime is at most a day. -/
theorem grantedLifetime_le {response : Response} {lifetime : Int}
    (h : grantedLifetime response = .ok lifetime) : lifetime ≤ 86400 := by
  unfold grantedLifetime at h
  simp only [bind, Except.bind, pure, Except.pure, throw, throwThe, MonadExceptOf.throw] at h
  cases hint : Runtime.int ((response.lookup "expires_in").getD .null) with
  | error e =>
      rw [hint] at h
      cases e <;> exact absurd h (by simp)
  | ok value =>
      rw [hint] at h
      dsimp only at h
      split at h
      · exact absurd h (by simp)
      · split at h
        · rename_i hrange
          obtain rfl := Except.ok.inj h
          exact hrange.2
        · exact absurd h (by simp)

omit [Runtime] [CharacterTables] in
theorem nextRefresh_ne_empty {response : Response} {prior token : String}
    (h : nextRefresh response prior = .ok token) : token ≠ "" := by
  unfold nextRefresh at h
  split at h
  case h_1 | h_2 =>
    split at h
    · exact absurd h (by simp [throw, throwThe, MonadExceptOf.throw])
    · rename_i hprior
      obtain rfl := Except.ok.inj h
      exact hprior
  case h_3 => exact absurd h (by simp [throw, throwThe, MonadExceptOf.throw])
  case h_4 value hne _ =>
    obtain rfl := Except.ok.inj h
    exact fun hempty => hne hempty
  case h_5 => exact absurd h (by simp [throw, throwThe, MonadExceptOf.throw])

/-- The new bundle is accepted when it is made. -/
theorem Rotated.accepted {response : Response} {stored bundle : TokenBundle} {now current : Int}
    (h : Rotated response stored bundle now) (hstored : Accepted stored current)
    (hlower : lowerText "Bearer" = "bearer".toList) : Accepted bundle now := by
  obtain ⟨lifetime, hlifetime, hexpiry⟩ := h.lifetime
  have hday := grantedLifetime_le hlifetime
  have hscopes : bundle.scopes = {"mcp:read"} := by
    have hwithin := h.within
    rw [hstored.scopes] at hwithin
    exact (Finset.subset_singleton_iff.mp hwithin).resolve_left (Finset.ne_empty_of_mem h.reads)
  refine ⟨?_, hscopes, ?_, ?_, ?_⟩
  · rw [h.type]
    exact hlower
  · rw [h.endpoint]
    exact hstored.endpoint
  · rw [h.resource]
    exact hstored.resource
  · rw [hexpiry]
    omega

/-! ## Reading back -/

omit [CharacterTables] in
/-- The empty text is no URL of the provider. -/
theorem OfProvider.ne_empty {path : String → Prop} {text : String} (h : OfProvider path text)
    (hempty : ∀ url, Runtime.urlparse "" = .ok url → url.scheme = "") : text ≠ "" := by
  rintro rfl
  obtain ⟨url, hurl, hscheme, _⟩ := h
  rw [hempty url hurl] at hscheme
  exact absurd hscheme (by decide)

/-- An accepted bundle with tokens is read from its members unless its client has no name. -/
theorem fromJson_iff {bundle : TokenBundle} {current : Int} (h : Accepted bundle current)
    (hempty : ∀ url, Runtime.urlparse "" = .ok url → url.scheme = "")
    (haccess : bundle.accessToken ≠ "") (hrefresh : bundle.refreshToken ≠ "")
    (htype : bundle.tokenType ≠ "") :
    fromJson bundle current = .ok bundle ↔ bundle.clientId ≠ "" := by
  have hendpoint := h.endpoint.ne_empty hempty
  have hresource := h.resource.ne_empty hempty
  unfold fromJson
  rw [(validateStoredBundle_iff bundle current).mpr h]
  by_cases hclient : bundle.clientId = ""
  · rw [if_pos (by simp [hclient])]
    exact iff_of_false (by simp [throw, throwThe, MonadExceptOf.throw]) (fun hne => hne hclient)
  · rw [if_neg (by simp [haccess, hrefresh, htype, hendpoint, hclient, hresource])]
    exact iff_of_true rfl hclient

/-- What is read from the text of a bundle is what is read from its members. -/
theorem fromText_toJson [JsonDecoder] {bundle : TokenBundle} {text : String} {current : Int}
    (hreads : ReadsBack bundle) (htext : toJson bundle = .ok text) :
    fromText text current = fromJson bundle current := by
  unfold fromText
  rw [hreads text htext, decoded_payload]
  dsimp only
  rw [bundleOf_storedMembers]

omit [Runtime] [CharacterTables] in
theorem toJson_iff (bundle : TokenBundle) :
    (∃ text, toJson bundle = .ok text) ↔ Writable bundle.expiresAt := by
  unfold toJson
  by_cases hwritable : Writable bundle.expiresAt
  · rw [if_pos hwritable]
    exact iff_of_true ⟨_, rfl⟩ hwritable
  · rw [if_neg hwritable]
    refine iff_of_false (fun h => ?_) hwritable
    obtain ⟨text, htext⟩ := h
    exact absurd htext (by simp [throw, throwThe, MonadExceptOf.throw])

/-- A bundle made of an accepted response and an accepted bundle passes the check of stored
bundles from then on. -/
theorem rotated_valid (hlower : lowerText "Bearer" = "bearer".toList) {response : Response}
    {stored bundle : TokenBundle} {current now : Int}
    (hstored : validateStoredBundle stored current = .ok ())
    (hrotated : validatedTokenBundle response stored now = .ok bundle) {later : Int}
    (hlater : now ≤ later) : Accepted bundle later := by
  have hmade := rotated_of_validated hrotated
  have haccepted :=
    hmade.accepted ((validateStoredBundle_iff stored current).mp hstored) hlower
  exact haccepted.later hlater

end Bundles

/-! ## A client without a name -/

section Case

local instance caseRuntime : Runtime := Rotation.plainRuntime

local instance caseCharacters : CharacterTables := Rotation.plainCharacters

/-- A decoder of the one text of a bundle. -/
@[reducible] def bundleDecoder (bundle : TokenBundle) : JsonDecoder where
  loads text :=
    if text = Json.render .compactAscii bundle.payload.sortKeys then
      .ok (decoded bundle.payload.sortKeys)
    else .error .jsonDecodeError

theorem readsBack_bundle (bundle : TokenBundle) : @ReadsBack (bundleDecoder bundle) bundle := by
  intro text htext
  unfold toJson at htext
  split at htext
  · obtain rfl := Except.ok.inj htext
    show (if _ then _ else _) = _
    rw [if_pos (Json.toList_dumps _ _)]
  · exact absurd htext (by simp [throw, throwThe, MonadExceptOf.throw])

/-- A stored bundle of the client, and what a rotation makes of it. -/
def storedOf (client : String) : TokenBundle :=
  { Rotation.caseBundle "a0" "r0" 0 with clientId := client }

def rotatedOf (client : String) : TokenBundle :=
  { Rotation.caseBundle "a1" "r1" 3600 with clientId := client }

end Case

end Tally.Analysis.RotatedBundles
