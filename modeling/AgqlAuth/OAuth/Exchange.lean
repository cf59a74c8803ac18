import AgqlAuth.OAuth.Callback

/-!
# The calls, verified one by one

Whatever a call is answered: what a callback may issue after its state was
admitted, what its success establishes, and which states a request inserts.
-/

namespace AgqlAuth

open Interaction Program OAuthM

abbrev Follows {α : Type} (plan : CallbackPlan) (established : OAuthHistory → α → Prop)
    (h : OAuthHistory) (p : OAuthM α) : Prop :=
  Upholds (S := oauthSignature) (callbackGuard plan)
    (Succeeds (S := oauthSignature) established) h p

section Callbacks

variable {plan : CallbackPlan} {state : OAuthLoginState} {h : OAuthHistory}

/-- What the checks before the clock is read have established. -/
structure OidcProvider.Identified (provider : OidcProvider) (claims : RawOidcIdTokenClaims)
    (expectedNonce : String) (discovery : OidcDiscoveryDocument) (nonce : String) : Prop where
  present : claims.nonce = some nonce
  expected : nonce = expectedNonce
  audiences : provider.validateAudiences claims.aud claims.azp = .ok ()
  issuer : provider.issuerAllowed claims.iss claims.tid discovery = true
  tenant : provider.validateTenant claims.tid = .ok ()

theorem validateIdentity_eq_ok_iff {provider : OidcProvider} {claims : RawOidcIdTokenClaims}
    {expectedNonce nonce : String} {discovery : OidcDiscoveryDocument} :
    provider.validateIdentity claims expectedNonce discovery = .ok nonce ↔
      provider.Identified claims expectedNonce discovery nonce := by
  constructor
  · intro valid
    unfold OidcProvider.validateIdentity at valid
    split at valid
    case h_1 => cases valid
    case h_2 found present =>
      obtain ⟨expected, valid⟩ := Except.ite_error_eq_ok_iff.mp valid
      obtain ⟨⟨⟩, audiences, valid⟩ := Except.exists_of_bind_eq_ok valid
      obtain ⟨issuer, valid⟩ := Except.ite_error_eq_ok_iff.mp valid
      obtain ⟨⟨⟩, tenant, valid⟩ := Except.exists_of_bind_eq_ok valid
      cases valid
      exact ⟨present, by simpa using expected, audiences, by simpa using issuer, tenant⟩
  · rintro ⟨present, rfl, audiences, issuer, tenant⟩
    simp only [OidcProvider.validateIdentity, present, bne_self_eq_false, audiences, issuer,
      tenant]
    rfl

theorem normalizeClaims_copies {provider : OidcProvider} {claims : RawOidcIdTokenClaims}
    {nonce : String} {validated : ValidatedOidcClaims}
    (valid : provider.normalizeClaims claims nonce = .ok validated) :
    validated.nonce = nonce ∧ validated.externalSubject =
      stableExternalSubject provider.config.providerKind claims.iss claims.sub claims.tid
        claims.oid := by
  obtain ⟨_, -, valid⟩ := Except.exists_of_bind_eq_ok valid
  obtain ⟨_, -, valid⟩ := Except.exists_of_bind_eq_ok valid
  obtain ⟨_, -, valid⟩ := Except.exists_of_bind_eq_ok valid
  obtain ⟨_, -, valid⟩ := Except.exists_of_bind_eq_ok valid
  obtain ⟨_, -, valid⟩ := Except.exists_of_bind_eq_ok valid
  obtain ⟨_, -, valid⟩ := Except.exists_of_bind_eq_ok valid
  obtain ⟨_, -, valid⟩ := Except.exists_of_bind_eq_ok valid
  cases valid
  exact ⟨rfl, rfl⟩

/-- What a successful OpenID callback has established. -/
structure OidcCompleted (provider : OidcProvider) (plan : CallbackPlan) (h : OAuthHistory)
    (outcome : OidcCallbackOutcome) : Prop where
  admitted : AdmittedWith plan outcome.state h
  nonce : outcome.claims.nonce = outcome.state.nonce
  enforced : ∃ now, clockReading now ∈ h ∧
    provider.enforceAuthorizationPolicy outcome.state.authorizationPolicy outcome.claims now =
      .ok outcome.authorization

theorem OidcProvider.exchangeCode_follows {α : Type} {post : OAuthHistory → AuthResult α → Prop}
    {f : OidcTokenResponse → OAuthM α} (provider : OidcProvider)
    (admitted : AdmittedWith plan state h)
    (next : ∀ h value, AdmittedWith plan state h →
      Upholds (S := oauthSignature) (callbackGuard plan) post h (f value))
    (failed : ∀ h e, post h (.error e)) :
    Upholds (S := oauthSignature) (callbackGuard plan) post h
      (provider.exchangeCode plan.code state >>= f : OAuthM α) := by
  apply Fallible.Upholds.bind
  refine admitted.quiet_part (discover_quiet provider) (fun h discovery admitted => ?_) failed
  refine admitted.quiet_part (quiet_perform rfl) (fun h now admitted => ?_) failed
  refine admitted.quiet_part (quiet_orFail (clientAuthentication_quiet ..))
    (fun h authentication admitted => ?_) failed
  refine admitted.post_part (List.prefix_append ..) (fun h raw admitted => ?_) failed
  apply Fallible.Upholds.branch
  · intro _
    exact failed h _
  · intro _
    refine admitted.quiet_part quiet_expect (fun h response admitted => ?_) failed
    exact next h _ admitted

theorem OidcProvider.validateIdToken_follows {α : Type}
    {post : OAuthHistory → AuthResult α → Prop} {f : ValidatedOidcClaims → OAuthM α}
    (provider : OidcProvider) (idToken expectedNonce : String)
    (admitted : AdmittedWith plan state h)
    (next : ∀ h claims, AdmittedWith plan state h → claims.nonce = expectedNonce →
      Upholds (S := oauthSignature) (callbackGuard plan) post h (f claims))
    (failed : ∀ h e, post h (.error e)) :
    Upholds (S := oauthSignature) (callbackGuard plan) post h
      (provider.validateIdToken idToken expectedNonce >>= f : OAuthM α) := by
  apply Fallible.Upholds.bind
  refine admitted.quiet_part (discover_quiet provider) (fun h discovery admitted => ?_) failed
  refine admitted.quiet_part (quiet_call rfl fun _ => trivial) (fun h claims admitted => ?_) failed
  refine AdmittedWith.lift_part (fun nonce same => ?_) failed
  refine admitted.quiet_part (quiet_perform rfl) (fun h now admitted => ?_) failed
  refine AdmittedWith.lift_part (fun _ _ => ?_) failed
  cases normalized : provider.normalizeClaims claims nonce with
  | error e => exact failed h e
  | ok validated =>
      refine next h validated admitted ?_
      rw [(normalizeClaims_copies normalized).1, (validateIdentity_eq_ok_iff.mp same).expected]

theorem OidcProvider.completeCallback_follows (provider : OidcProvider)
    (admitted : AdmittedWith plan state h) :
    Follows plan (OidcCompleted provider plan) h (provider.completeCallback plan.code state) := by
  refine provider.exchangeCode_follows admitted (fun h response admitted => ?_)
    fun _ _ => Succeeds.error
  refine provider.validateIdToken_follows response.idToken state.nonce admitted
    (fun h claims admitted same => ?_) fun _ _ => Succeeds.error
  apply Fallible.Upholds.perform_bind
  · exact admitted.guard rfl
  · intro now
    refine AdmittedWith.lift_part (fun authorization enforced => ?_) fun _ _ => Succeeds.error
    apply Succeeds.ok
    constructor
    case admitted => exact admitted.later [_]
    case nonce => exact same
    case enforced => exact ⟨now, List.mem_cons_self, enforced⟩

theorem OidcProvider.admits {provider : OidcProvider} {now : OffsetDateTime}
    {deliveredMode : OAuthResponseMode}
    (admitted : provider.admitState state deliveredMode now = .ok ()) :
    state.consumedAt = none ∧ now < state.expiresAt ∧ state.nonce ≠ "" ∧
      state.responseMode = deliveredMode := by
  simp only [OidcProvider.admitState, Except.ite_error_eq_ok_iff] at admitted
  obtain ⟨unconsumed, unexpired, named, mode, -⟩ := admitted
  refine ⟨?_, ?_, ?_, ?_⟩
  · simpa [OAuthLoginState.isConsumed] using unconsumed
  · simpa [OAuthLoginState.isExpired] using unexpired
  · simpa [String.isEmpty_iff] using named
  · simpa using mode

/-- What the consumption answers decides whether the callback goes on. -/
theorem consume_follows {α : Type} {established : OAuthHistory → α → Prop}
    (check : OAuthLoginState → OffsetDateTime → AuthResult Unit)
    {complete : OAuthLoginState → OAuthM α}
    (admits : ∀ state now, check state now = .ok () →
      state.consumedAt = none ∧ now < state.expiresAt ∧
        state.responseMode = plan.deliveredMode ∧ plan.protocol.Owns state)
    (completes : ∀ state h, AdmittedWith plan state h →
      Follows plan established h (complete state)) :
    Follows plan established [] (do
      let now ← OAuthM.now
      let consumed ← consumeOAuthState plan.providerName plan.stateHash now
      let state ← expect .invalidOAuthState consumed
      OAuthM.lift (check state now)
      complete state : OAuthM α) := by
  apply Fallible.Upholds.perform_bind
  · exact .inl (by simp [Unconsumed])
  · intro now
    apply Fallible.Upholds.bind
    apply Upholds.await
    · refine ⟨?_, rfl, rfl, List.mem_cons_self⟩
      simp [Unconsumed, consumes]
    · rintro (e | _ | state)
      · exact Succeeds.error
      · exact Succeeds.error
      · apply Fallible.Upholds.bind
        apply Fallible.Upholds.resume
        refine AdmittedWith.lift_part (fun _ admitted => ?_) fun _ _ => Succeeds.error
        obtain ⟨unconsumed, unexpired, mode, owned⟩ := admits state now admitted
        apply completes
        constructor
        case consumed =>
          exact ⟨now, List.mem_cons_self, List.mem_cons_of_mem _ List.mem_cons_self, unexpired⟩
        case unconsumed => exact unconsumed
        case mode => exact mode
        case owned => exact owned

theorem OidcProvider.handleCallback_follows (provider : OidcProvider) {input : OidcCallbackInput}
    {deliveredMode : OAuthResponseMode}
    (planned : provider.callbackPlan input deliveredMode = some plan) :
    Follows plan (OidcCompleted provider plan) []
      (provider.handleCallbackInMode input deliveredMode) := by
  unfold OidcProvider.callbackPlan at planned
  split at planned
  · cases planned
  · rename_i usable
    rw [not_or] at usable
    obtain ⟨code, rawState, error, description⟩ := input
    unfold OidcProvider.handleCallbackInMode
    rw [if_neg usable.1, if_neg usable.2]
    cases code with
    | none => cases planned
    | some code =>
        cases rawState with
        | none => cases planned
        | some rawState =>
            cases planned
            refine consume_follows (fun state now => provider.admitState state _ now)
              (fun state now admitted => ?_) fun state h admitted =>
                provider.completeCallback_follows admitted
            obtain ⟨unconsumed, unexpired, named, mode⟩ := provider.admits admitted
            exact ⟨unconsumed, unexpired, mode, named⟩

/-- A callback that is refused up front performs no operation. -/
theorem OidcProvider.handleCallback_refused {provider : OidcProvider} {input : OidcCallbackInput}
    {deliveredMode : OAuthResponseMode}
    (unplanned : provider.callbackPlan input deliveredMode = none) :
    ∃ e, provider.handleCallbackInMode input deliveredMode = OAuthM.fail e := by
  unfold OidcProvider.callbackPlan at unplanned
  unfold OidcProvider.handleCallbackInMode
  by_cases undelivered : deliveredMode ≠ provider.config.responseMode
  · exact ⟨_, if_pos undelivered⟩
  · by_cases failed : input.error.isSome = true
    · rw [if_neg undelivered, if_pos failed]
      exact ⟨_, rfl⟩
    · rw [if_neg (not_or.mpr ⟨undelivered, failed⟩)] at unplanned
      rw [if_neg undelivered, if_neg failed]
      obtain ⟨code, rawState, error, description⟩ := input
      cases code with
      | none => exact ⟨_, rfl⟩
      | some code =>
          cases rawState with
          | none => exact ⟨_, rfl⟩
          | some rawState => cases unplanned

/-- What a successful OAuth 2.0 callback has established. -/
structure OAuth2Completed (plan : CallbackPlan) (h : OAuthHistory)
    (outcome : OAuth2CallbackOutcome) : Prop where
  admitted : AdmittedWith plan outcome.state h

theorem OAuth2Provider.bearerGet_quiet (provider : OAuth2Provider) (url accessToken : String) :
    Quiet (provider.bearerGet url accessToken) :=
  quiet_orFail (quiet_call rfl fun _ => trivial)

theorem OAuth2Provider.fetchProfile_quiet (provider : OAuth2Provider) (accessToken : String) :
    Quiet (provider.fetchProfile accessToken) := by
  apply quiet_bind (provider.bearerGet_quiet _ _)
  intro raw
  by_cases object : raw.isObject = true
  · rw [if_neg (by simp [object])]
    apply quiet_bind (quiet_lift _)
    intro subject
    apply quiet_bind
    · unfold OAuth2Provider.listedEmail
      split
      · trivial
      · split
        · trivial
        · exact quiet_bind (provider.bearerGet_quiet _ _) fun raw => quiet_lift _
    · exact fun _ => trivial
  · rw [if_pos (by simpa using object)]
    trivial

theorem OAuth2Provider.completeCallback_follows (provider : OAuth2Provider)
    (admitted : AdmittedWith plan state h) :
    Follows plan (OAuth2Completed plan) h (provider.completeCallback plan.code state) := by
  apply Fallible.Upholds.bind
  refine admitted.quiet_part (quiet_perform rfl) (fun h now admitted => ?_)
    fun _ _ => Succeeds.error
  refine admitted.quiet_part (quiet_orFail (clientAuthentication_quiet ..))
    (fun h authentication admitted => ?_) fun _ _ => Succeeds.error
  refine admitted.post_part (List.prefix_append ..) (fun h raw admitted => ?_)
    fun _ _ => Succeeds.error
  cases readOAuth2TokenResponse raw with
  | error e => exact Succeeds.error
  | ok response =>
      refine admitted.quiet_part (fetchProfile_quiet provider response.accessToken)
        (fun h profile admitted => ?_) fun _ _ => Succeeds.error
      exact Succeeds.ok ⟨admitted⟩

theorem OAuth2Provider.admits {provider : OAuth2Provider} {now : OffsetDateTime}
    (admitted : provider.admitState state now = .ok ()) :
    state.consumedAt = none ∧ now < state.expiresAt ∧ state.responseMode = .query ∧
      state.nonce = "" ∧ state.authorizationPolicy = none := by
  simp only [OAuth2Provider.admitState, Except.ite_error_eq_ok_iff] at admitted
  obtain ⟨unconsumed, unexpired, plain, -⟩ := admitted
  simp only [Bool.or_eq_true, not_or, decide_eq_true_eq] at plain
  obtain ⟨⟨unnamed, unbound⟩, mode⟩ := plain
  refine ⟨?_, ?_, ?_, ?_, ?_⟩
  · simpa [OAuthLoginState.isConsumed] using unconsumed
  · simpa [OAuthLoginState.isExpired] using unexpired
  · simpa using mode
  · simpa [String.isEmpty_iff] using unnamed
  · simpa using unbound

theorem OAuth2Provider.handleCallback_follows (provider : OAuth2Provider)
    {input : OidcCallbackInput} (planned : provider.callbackPlan input = some plan) :
    Follows plan (OAuth2Completed plan) [] (provider.handleCallback input) := by
  unfold OAuth2Provider.callbackPlan at planned
  split at planned
  · cases planned
  · rename_i usable
    unfold OAuth2Provider.handleCallback
    rw [if_neg usable]
    cases code : input.code.filter fun code => !code.isEmpty with
    | none =>
        rw [code] at planned
        cases planned
    | some carried =>
        cases rawState : input.state.filter fun state => !state.isEmpty with
        | none =>
            rw [code, rawState] at planned
            cases planned
        | some rawState' =>
            rw [code, rawState] at planned
            cases planned
            refine consume_follows (fun state now => provider.admitState state now)
              (fun state now admitted => provider.admits admitted) fun state h admitted =>
                provider.completeCallback_follows admitted

/-- A callback that is refused up front performs no operation. -/
theorem OAuth2Provider.handleCallback_refused {provider : OAuth2Provider}
    {input : OidcCallbackInput} (unplanned : provider.callbackPlan input = none) :
    ∃ e, provider.handleCallback input = OAuthM.fail e := by
  unfold OAuth2Provider.callbackPlan at unplanned
  unfold OAuth2Provider.handleCallback
  by_cases failed : input.error.isSome = true
  · exact ⟨_, if_pos failed⟩
  · rw [if_neg failed] at unplanned ⊢
    cases code : input.code.filter fun code => !code.isEmpty with
    | none => exact ⟨_, rfl⟩
    | some carried =>
        cases rawState : input.state.filter fun state => !state.isEmpty with
        | none => exact ⟨_, rfl⟩
        | some rawState' =>
            rw [code, rawState] at unplanned
            cases unplanned

end Callbacks

/-- The state carries the stamp of the provider: its name, mode and policy, and a nonce. -/
def OidcProvider.Stamps (provider : OidcProvider) (policy : Option OidcAuthorizationPolicy)
    (record : OAuthLoginState) : Prop :=
  ∃ state nonce pkce now expiresAt, nonce ≠ "" ∧
    now.checkedAdd provider.config.stateTtl = some expiresAt ∧
    record = provider.stateRecord state nonce pkce policy now expiresAt

def OAuth2Provider.Stamps (provider : OAuth2Provider) (record : OAuthLoginState) : Prop :=
  ∃ state pkce now expiresAt, now.checkedAdd provider.config.stateTtl = some expiresAt ∧
    record = provider.stateRecord state pkce now expiresAt

/-- A request inserts stamped states only, and neither consumes nor exchanges. -/
def requestGuard (stamped : OAuthLoginState → Prop) : OAuthHistory → OAuthOp → Prop
  | _, .insertOAuthState record => stamped record
  | _, .consumeOAuthState .. => False
  | _, .postFormJson .. => False
  | _, _ => True

theorem requestGuard_quiet {stamped : OAuthLoginState → Prop} {h : OAuthHistory} {op : OAuthOp}
    (silent : quiet op = true) : requestGuard stamped h op := by
  cases op with
  | consumeOAuthState providerName stateHash consumedAt => cases silent
  | insertOAuthState state => cases silent
  | postFormJson url headers form => cases silent
  | _ => trivial

section Requests

variable {α β : Type} {stamped : OAuthLoginState → Prop} {h : OAuthHistory}

abbrev Requests (stamped : OAuthLoginState → Prop) (h : OAuthHistory) (p : OAuthM α) : Prop :=
  Upholds (S := oauthSignature) (requestGuard stamped) (fun _ _ => True) h p

theorem quiet_requests {p : OAuthM α} {f : α → OAuthM β} (silent : Quiet p)
    (next : ∀ h value, Requests stamped h (f value)) :
    Requests stamped h (p >>= f : OAuthM β) :=
  Fallible.Upholds.issues_bind silent (fun _ _ _ issued => requestGuard_quiet issued)
    (fun _ value _ => next _ value) fun _ _ => trivial

/-- A pure result ends the request or is passed on. -/
theorem lift_requests {result : AuthResult α} {f : α → OAuthM β}
    (next : ∀ value, result = .ok value → Requests stamped h (f value)) :
    Requests stamped h (OAuthM.lift result >>= f : OAuthM β) :=
  Fallible.Upholds.lift_bind next fun _ _ => trivial

theorem expect_requests {e : AuthError} {value : Option α} {f : α → OAuthM β}
    (next : ∀ found, value = some found → Requests stamped h (f found)) :
    Requests stamped h (OAuthM.expect e value >>= f : OAuthM β) := by
  cases value with
  | none => trivial
  | some found => exact next found rfl

theorem generateUrlsafeSecret_requests {f : String → OAuthM β}
    (next : ∀ h secret, secret ≠ "" → Requests stamped h (f secret)) :
    Requests stamped h (generateUrlsafeSecret >>= f : OAuthM β) := by
  apply Fallible.Upholds.bind
  apply Fallible.Upholds.perform_bind trivial
  intro bytes
  apply Fallible.Upholds.resume
  apply next
  apply base64UrlSafeNoPad_ne_empty
  intro empty
  have filled : bytes.toList.length = 48 := Vector.length_toList
  simp [empty] at filled

theorem OidcProvider.createAuthorizationRequestInner_requests (provider : OidcProvider)
    (policy : Option OidcAuthorizationPolicy)
    (stamps : ∀ record, provider.Stamps policy record → stamped record) :
    Requests stamped h (provider.createAuthorizationRequestInner policy) := by
  refine quiet_requests (discover_quiet provider) fun h discovery => ?_
  refine lift_requests fun _ _ => ?_
  refine generateUrlsafeSecret_requests fun h state _ => ?_
  refine generateUrlsafeSecret_requests fun h nonce named => ?_
  refine quiet_requests (p := generatePkcePair provider.lib) ⟨rfl, fun _ => trivial⟩
    fun h pkce => ?_
  refine quiet_requests (quiet_perform rfl) fun h now => ?_
  refine expect_requests fun expiresAt added => ?_
  apply Fallible.Upholds.bind
  apply Upholds.await
  · exact stamps _ ⟨state, nonce, pkce, now, expiresAt, named, added, rfl⟩
  · rintro (e | ⟨⟩)
    · trivial
    · apply Fallible.Upholds.resume
      exact lift_requests fun _ _ => trivial

theorem OAuth2Provider.createAuthorizationRequest_requests (provider : OAuth2Provider)
    (stamps : ∀ record, provider.Stamps record → stamped record) :
    Requests stamped h provider.createAuthorizationRequest := by
  refine generateUrlsafeSecret_requests fun h state _ => ?_
  refine quiet_requests (p := generatePkcePair provider.lib) ⟨rfl, fun _ => trivial⟩
    fun h pkce => ?_
  refine quiet_requests (quiet_perform rfl) fun h now => ?_
  refine expect_requests fun expiresAt added => ?_
  apply Fallible.Upholds.bind
  apply Upholds.await
  · exact stamps _ ⟨state, pkce, now, expiresAt, added, rfl⟩
  · rintro (e | ⟨⟩) <;> trivial

end Requests

end AgqlAuth
