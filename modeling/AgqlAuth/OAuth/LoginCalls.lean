import AgqlAuth.OAuth.ExternalLogin
import AgqlAuth.Token.Issued

/-!
# What one external login does

Whatever a login is answered: a link is stored only for the claims of its own
validated callback, a session is issued only after the link was stored, and it is
a session of the user that the host resolved.
-/

namespace AgqlAuth

open Interaction Program

/-- One login at a provider. -/
structure ExternalLogin where
  provider : OidcProvider
  authService : AuthService
  input : OidcCallbackInput
  deliveredMode : OAuthResponseMode
  metadata : ClientMetadata

def ExternalLogin.program (login : ExternalLogin) : LoginM OidcLoginResult :=
  login.provider.loginWithCallbackInMode login.authService login.input login.deliveredMode
    login.metadata

/-- What the provider was answered, as part of a login. -/
abbrev ofProvider (past : OAuthHistory) : LoginHistory := past.map liftEvent

def foundIdentity (claims : ValidatedOidcClaims) (existing : Option ExternalIdentity) :
    LoginEvent :=
  ⟨.inr (.inr (.findExternalIdentity claims.providerName claims.externalSubject)),
    (.ok existing : AuthResult (Option ExternalIdentity))⟩

def resolvedUser (claims : ValidatedOidcClaims) (existing : Option ExternalIdentity)
    (mapped : MappedClaims) (user : ProvisionedExternalUser) : LoginEvent :=
  ⟨.inr (.inr (.resolveExternalUser claims existing mapped)),
    (.ok user : AuthResult ProvisionedExternalUser)⟩

def linkedIdentity (identity : ExternalIdentity) : LoginEvent :=
  ⟨.inr (.inr (.linkExternalIdentity identity)), (.ok () : AuthResult Unit)⟩

/-- The host has resolved the user of a callback that this login has validated. -/
structure ResolvedLogin (login : ExternalLogin) (h : LoginHistory) (claims : ValidatedOidcClaims)
    (existing : Option ExternalIdentity) (mapped : MappedClaims) (user : ProvisionedExternalUser) :
    Prop where
  validated : ∃ past outcome, outcome.claims = claims ∧ ofProvider past <:+ h ∧
    Path (login.provider.handleCallbackInMode login.input login.deliveredMode) past
      (ret (.ok outcome))
  found : foundIdentity claims existing ∈ h
  resolved : resolvedUser claims existing mapped user ∈ h

/-- The user is the one of the link, and a wanted link is stored. -/
structure SettledLogin (login : ExternalLogin) (h : LoginHistory) (claims : ValidatedOidcClaims)
    (existing : Option ExternalIdentity) (mapped : MappedClaims) (user : ProvisionedExternalUser) :
    Prop where
  resolved : ResolvedLogin login h claims existing mapped user
  same : ∀ identity ∈ existing, identity.userId = user.userId
  linked : existing = none → user.linkExternalIdentity = true →
    ∃ now, linkedIdentity (.ofClaims claims user.userId now) ∈ h

namespace ResolvedLogin

variable {login : ExternalLogin} {h h' : LoginHistory} {claims : ValidatedOidcClaims}
variable {existing : Option ExternalIdentity} {mapped : MappedClaims}
variable {user : ProvisionedExternalUser}

theorem later (resolved : ResolvedLogin login h claims existing mapped user) (longer : h <:+ h') :
    ResolvedLogin login h' claims existing mapped user where
  validated := by
    obtain ⟨past, outcome, same, within, path⟩ := resolved.validated
    exact ⟨past, outcome, same, within.trans longer, path⟩
  found := longer.subset resolved.found
  resolved := longer.subset resolved.resolved

end ResolvedLogin

theorem SettledLogin.later {login : ExternalLogin} {h h' : LoginHistory}
    {claims : ValidatedOidcClaims} {existing : Option ExternalIdentity} {mapped : MappedClaims}
    {user : ProvisionedExternalUser}
    (settled : SettledLogin login h claims existing mapped user) (longer : h <:+ h') :
    SettledLogin login h' claims existing mapped user where
  resolved := settled.resolved.later longer
  same := settled.same
  linked := by
    intro unlinked wanted
    obtain ⟨now, mem⟩ := settled.linked unlinked wanted
    exact ⟨now, longer.subset mem⟩

def ExternalLogin.guard (login : ExternalLogin) (h : LoginHistory) : loginSignature.Op → Prop
  | .inr (.inl _) => ∃ claims existing mapped user,
      SettledLogin login h claims existing mapped user
  | .inr (.inr (.linkExternalIdentity identity)) => ∃ claims mapped user now,
      ResolvedLogin login h claims none mapped user ∧ user.linkExternalIdentity = true ∧
        identity = .ofClaims claims user.userId now
  | .inr (.inr (.updateExternalIdentityClaimsSnapshot providerName externalSubject _)) =>
      ∃ claims existing mapped user, ResolvedLogin login h claims (some existing) mapped user ∧
        existing.userId = user.userId ∧ providerName = existing.providerName ∧
          externalSubject = existing.externalSubject
  | _ => True

/-- The session of a login is one of the resolved user, as the host has mapped it. -/
structure EarnedSession (provider : OidcProvider) (mapped : MappedClaims)
    (user : ProvisionedExternalUser) (authUser : AuthUser) : Prop where
  userId : authUser.userId = user.userId
  roles : authUser.roles = dedupeStable user.roles
  scopes : authUser.scopes = dedupeStable user.scopes
  authMethod : authUser.session.authMethod = loginAuthMethod provider.config.providerKind
  assurance : authUser.session.assurance = mapped.assurance

theorem EarnedSession.kept (provider : OidcProvider) (mapped : MappedClaims)
    (user : ProvisionedExternalUser) : KeptByIssuance (EarnedSession provider mapped user) where
  stamped earned _ _ := ⟨earned.1, earned.2, earned.3, earned.4, earned.5⟩
  forUserSession earned := ⟨earned.1, earned.2, earned.3, earned.4, earned.5⟩
  withAuthorizationRoles earned _ _ := ⟨earned.1, earned.2, earned.3, earned.4, earned.5⟩

/-- What a login that succeeds has established. -/
structure LoggedIn (login : ExternalLogin) (h : LoginHistory) (result : OidcLoginResult)
    (existing : Option ExternalIdentity) (mapped : MappedClaims) (user : ProvisionedExternalUser) :
    Prop where
  settled : SettledLogin login h result.claims existing mapped user
  session : EarnedSession login.provider mapped user result.auth.user
  identity : result.externalIdentity.userId = user.userId

section Parts

variable {login : ExternalLogin} {h : LoginHistory} {α β : Type}

/-- What a login is verified for. -/
abbrev Login (login : ExternalLogin) (h : LoginHistory) (p : LoginM OidcLoginResult) : Prop :=
  Upholds login.guard
    (Succeeds fun h result => ∃ existing mapped user, LoggedIn login h result existing mapped user)
    h p

/-- Of the part of the provider its own path is remembered. -/
theorem callback_part {p : OAuthM α} {f : α → LoginM OidcLoginResult}
    (next : ∀ past value, Path p past (ret (.ok value)) →
      Login login (ofProvider past ++ h) (f value)) :
    Login login h (LoginM.callback p >>= f : LoginM OidcLoginResult) := by
  apply Fallible.Upholds.bind
  apply Fallible.Upholds.widen
  refine (Upholds.own (S := oauthSignature) p).mono (fun _ _ _ => trivial) ?_
  rintro past (e | value) path
  · exact Succeeds.error
  · exact next past value path

/-- The service runs once the login is settled, and returns what its program yields. -/
theorem service_part {claims : ValidatedOidcClaims} {existing : Option ExternalIdentity}
    {mapped : MappedClaims} {user : ProvisionedExternalUser} {known : α → Prop} {p : AuthM α}
    {f : α → LoginM OidcLoginResult}
    (settled : SettledLogin login h claims existing mapped user) (yields : Yields known p)
    (next : ∀ h' value, h <:+ h' → known value → Login login h' (f value)) :
    Login login h (LoginM.service p >>= f : LoginM OidcLoginResult) := by
  apply Fallible.Upholds.bind
  apply upholds_inr
  apply Fallible.Upholds.widen
  refine (yields.upholds []).mono ?_ ?_
  · intro past op _
    exact ⟨claims, existing, mapped, user, settled.later (List.suffix_append _ h)⟩
  · rintro past (e | value) returned
    · exact Succeeds.error
    · exact next _ value (List.suffix_append _ h) (returned value rfl)

theorem earnedSession_of_accepted {provider : OidcProvider} {mapped : MappedClaims}
    {user : ProvisionedExternalUser} {accepted : SessionContext} {sessionId sessionFamilyId : Uuid}
    (acceptance : AuthService.acceptHostSession (loginSession provider.config.providerKind mapped) =
      .ok accepted) :
    EarnedSession provider mapped user (AuthService.hostSessionUser user.userId sessionId
      sessionFamilyId user.roles user.scopes accepted {}) := by
  have kept : accepted.authMethod = loginAuthMethod provider.config.providerKind ∧
      accepted.assurance = mapped.assurance := by
    unfold AuthService.acceptHostSession loginSession at acceptance
    cases known : mapped.assurance with
    | none =>
        rw [known] at acceptance
        cases acceptance
        exact ⟨rfl, rfl⟩
    | some assurance =>
        rw [known] at acceptance
        dsimp only [SessionContext.withAssurance] at acceptance
        split at acceptance
        · cases acceptance
        · cases acceptance
          exact ⟨rfl, rfl⟩
  exact ⟨rfl, rfl, rfl, kept.1, kept.2⟩

theorem issued_upholds {outcome : OidcCallbackOutcome} {existing : Option ExternalIdentity}
    {mapped : MappedClaims} {user : ProvisionedExternalUser} {identity : ExternalIdentity}
    (settled : SettledLogin login h outcome.claims existing mapped user)
    (same : identity.userId = user.userId) :
    Login login h (do
      let auth ← LoginM.service (login.authService.issueSessionForUserWithMetadata user.userId
        user.roles user.scopes (loginSession login.provider.config.providerKind mapped) {}
        login.metadata)
      pure { auth, claims := outcome.claims, externalIdentity := identity
             tokenResponse := outcome.tokenResponse, authorization := outcome.authorization }) := by
  have yields : Yields (fun payload => EarnedSession login.provider mapped user payload.user)
      (login.authService.issueSessionForUserWithMetadata user.userId user.roles user.scopes
        (loginSession login.provider.config.providerKind mapped) {} login.metadata) :=
    (issueSession_yields (EarnedSession.kept login.provider mapped user) login.metadata
      fun _ _ _ acceptance => earnedSession_of_accepted acceptance).mono fun _ signed => signed.fact
  refine service_part settled yields fun h' auth longer earned => ?_
  exact Succeeds.ok ⟨existing, mapped, user, settled.later longer, earned, same⟩

theorem storedIdentity_part {claims : ValidatedOidcClaims} {existing : Option ExternalIdentity}
    {mapped : MappedClaims} {user : ProvisionedExternalUser} {now : OffsetDateTime}
    {f : ExternalIdentity → LoginM OidcLoginResult}
    (resolved : ResolvedLogin login h claims existing mapped user)
    (same : ∀ identity ∈ existing, identity.userId = user.userId)
    (next : ∀ h' identity, SettledLogin login h' claims existing mapped user →
      identity.userId = user.userId → Login login h' (f identity)) :
    Login login h (storedIdentity claims existing user now >>= f : LoginM OidcLoginResult) := by
  cases existing with
  | some identity =>
      have known : identity.userId = user.userId := same identity rfl
      have granted : login.guard h (.inr (.inr (.updateExternalIdentityClaimsSnapshot
          identity.providerName identity.externalSubject now))) :=
        ⟨claims, identity, mapped, user, resolved, known, rfl, rfl⟩
      refine ⟨granted, fun (resp : AuthResult Unit) => ?_⟩
      rcases resp with e | _
      · exact Succeeds.error
      · exact next _ _ ⟨resolved.later (List.suffix_cons _ h), same, nofun⟩ known
  | none =>
      unfold storedIdentity
      dsimp only
      split
      case isTrue wanted =>
        have granted : login.guard h (.inr (.inr (.linkExternalIdentity
            (.ofClaims claims user.userId now)))) :=
          ⟨claims, mapped, user, now, resolved, wanted, rfl⟩
        refine ⟨granted, fun (resp : AuthResult Unit) => ?_⟩
        rcases resp with e | _
        · exact Succeeds.error
        · refine next _ _ ⟨resolved.later (List.suffix_cons _ h), same, fun _ _ => ?_⟩ rfl
          exact ⟨now, List.mem_cons_self⟩
      case isFalse unwanted =>
        exact next h _ ⟨resolved, same, fun _ wanted => absurd wanted unwanted⟩ rfl

theorem resolvedUser_upholds {outcome : OidcCallbackOutcome} {existing : Option ExternalIdentity}
    {mapped : MappedClaims} {user : ProvisionedExternalUser} (now : OffsetDateTime)
    (resolved : ResolvedLogin login h outcome.claims existing mapped user) :
    Login login h (login.provider.loginResolvedUser login.authService outcome existing mapped user
      now login.metadata) := by
  unfold OidcProvider.loginResolvedUser
  apply Fallible.Upholds.branch
  · exact fun _ => Succeeds.error
  intro agreed
  have same : ∀ identity ∈ existing, identity.userId = user.userId := by
    rintro identity rfl
    simpa using agreed
  exact storedIdentity_part resolved same fun h' identity settled same =>
    issued_upholds settled same

/-- One login, whatever the provider, the service and the host answer it. -/
theorem ExternalLogin.upholds (login : ExternalLogin) : Login login [] login.program := by
  unfold ExternalLogin.program OidcProvider.loginWithCallbackInMode
  refine callback_part fun past outcome path => callback_part fun clock now _ => ?_
  refine ⟨trivial, fun (found : AuthResult (Option ExternalIdentity)) => ?_⟩
  rcases found with e | existing
  · exact Succeeds.error
  refine ⟨trivial, fun (mapping : AuthResult MappedClaims) => ?_⟩
  rcases mapping with e | mapped
  · exact Succeeds.error
  refine ⟨trivial, fun (resolution : AuthResult ProvisionedExternalUser) => ?_⟩
  rcases resolution with e | user
  · exact Succeeds.error
  have within : ofProvider past <:+ ofProvider clock ++ (ofProvider past ++ []) := by
    rw [List.append_nil]
    exact List.suffix_append ..
  refine resolvedUser_upholds now ⟨⟨past, outcome, rfl, ?_, path⟩, ?_, List.mem_cons_self⟩
  · exact within.trans (List.suffix_append [_, _, _] _)
  · exact List.mem_cons_of_mem _ (List.mem_cons_of_mem _ List.mem_cons_self)

end Parts

end AgqlAuth
