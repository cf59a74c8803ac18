import AgqlAuth.Interaction.Sum
import AgqlAuth.OAuth.Oidc
import AgqlAuth.Service.Issue

/-!
# Login with an external identity

A validated callback becomes a session of a local user: the host maps the claims
and resolves the user, the link between the external identity and that user is
looked up and stored, and only then a session is issued.
-/

namespace AgqlAuth

open Interaction

/-- A stored link; the snapshot of the raw claims, which nothing reads, is left out. -/
structure ExternalIdentity where
  providerName : String
  externalSubject : String
  userId : String
  issuer : String
  tenantId : Option String
  providerUserId : Option String
  createdAt : OffsetDateTime
  updatedAt : OffsetDateTime
  deriving DecidableEq

structure MappedClaims where
  roles : List String := []
  scopes : List String := []
  /-- Assurance that the host accepts. -/
  assurance : Option SessionAssurance := none

/-- The local user that the host resolves an external identity to. -/
structure ProvisionedExternalUser where
  userId : String
  roles : List String
  scopes : List String
  /-- Whether to link an identity that has no link yet. -/
  linkExternalIdentity : Bool := true

inductive OidcLoginError where
  | auth (e : AuthError)
  | externalLoginRejected (detail : String)
  deriving DecidableEq

inductive LoginOp where
  | findExternalIdentity (providerName externalSubject : String)
  | linkExternalIdentity (identity : ExternalIdentity)
  | updateExternalIdentityClaimsSnapshot (providerName externalSubject : String)
      (updatedAt : OffsetDateTime)
  /-- The claims mapper of the host. -/
  | mapClaims (claims : ValidatedOidcClaims)
  /-- The user provisioner of the host. -/
  | resolveExternalUser (claims : ValidatedOidcClaims) (existing : Option ExternalIdentity)
      (mapped : MappedClaims)

def LoginOp.Resp : LoginOp → Type
  | .findExternalIdentity .. => AuthResult (Option ExternalIdentity)
  | .linkExternalIdentity _ => AuthResult Unit
  | .updateExternalIdentityClaimsSnapshot .. => AuthResult Unit
  | .mapClaims _ => AuthResult MappedClaims
  | .resolveExternalUser .. => AuthResult ProvisionedExternalUser

/-- The operations of the provider, of the service and of the host's accounts. -/
abbrev loginSignature : Signature :=
  oauthSignature.sum (authSignature.sum ⟨LoginOp, LoginOp.Resp⟩)

abbrev LoginEvent := Event loginSignature

abbrev LoginHistory := History loginSignature

abbrev LoginM (α : Type) := Fallible loginSignature OidcLoginError α

namespace LoginM

open Program

/-- A part of the provider. -/
def callback {α : Type} (p : OAuthM α) : LoginM α := Fallible.widen .auth p

/-- A part of the service. -/
def service {α : Type} (p : AuthM α) : LoginM α := Program.inr (Fallible.widen .auth p)

def findExternalIdentity (providerName externalSubject : String) :
    LoginM (Option ExternalIdentity) :=
  call (S := loginSignature) (.inr (.inr (.findExternalIdentity providerName externalSubject)))
    fun result : AuthResult _ => ret (result.mapError .auth)

def linkExternalIdentity (identity : ExternalIdentity) : LoginM Unit :=
  call (S := loginSignature) (.inr (.inr (.linkExternalIdentity identity)))
    fun result : AuthResult _ => ret (result.mapError .auth)

def updateExternalIdentityClaimsSnapshot (providerName externalSubject : String)
    (updatedAt : OffsetDateTime) : LoginM Unit :=
  call (S := loginSignature)
    (.inr (.inr (.updateExternalIdentityClaimsSnapshot providerName externalSubject updatedAt)))
    fun result : AuthResult _ => ret (result.mapError .auth)

def mapClaims (claims : ValidatedOidcClaims) : LoginM MappedClaims :=
  call (S := loginSignature) (.inr (.inr (.mapClaims claims)))
    fun result : AuthResult _ => ret (result.mapError .auth)

def resolveExternalUser (claims : ValidatedOidcClaims) (existing : Option ExternalIdentity)
    (mapped : MappedClaims) : LoginM ProvisionedExternalUser :=
  call (S := loginSignature) (.inr (.inr (.resolveExternalUser claims existing mapped)))
    fun result : AuthResult _ => ret (result.mapError .auth)

end LoginM

structure OidcLoginResult where
  auth : AuthPayload
  claims : ValidatedOidcClaims
  externalIdentity : ExternalIdentity
  tokenResponse : OidcTokenResponse
  authorization : OidcAuthorizationOutcome

/-- The identity of the claims as a link to a user. -/
def ExternalIdentity.ofClaims (claims : ValidatedOidcClaims) (userId : String)
    (now : OffsetDateTime) : ExternalIdentity where
  providerName := claims.providerName
  externalSubject := claims.externalSubject
  userId
  issuer := claims.issuer
  tenantId := claims.tenantId
  providerUserId := some (claims.objectId.getD claims.subject)
  createdAt := now
  updatedAt := now

/-- The stored link, or a new one that is stored if the host wants it. -/
def storedIdentity (claims : ValidatedOidcClaims) (existing : Option ExternalIdentity)
    (user : ProvisionedExternalUser) (now : OffsetDateTime) : LoginM ExternalIdentity :=
  match existing with
  | some identity => do
      LoginM.updateExternalIdentityClaimsSnapshot identity.providerName identity.externalSubject now
      pure { identity with updatedAt := now }
  | none =>
      if user.linkExternalIdentity then do
        LoginM.linkExternalIdentity (.ofClaims claims user.userId now)
        pure (.ofClaims claims user.userId now)
      else pure (.ofClaims claims user.userId now)

def loginAuthMethod : OidcProviderKind → AuthMethod
  | .microsoftEntra => .microsoftOidc
  | .generic => .oidc

/-- The session that the claims of a provider earn. -/
def loginSession (kind : OidcProviderKind) (mapped : MappedClaims) : SessionContext :=
  match mapped.assurance with
  | some assurance => (SessionContext.forAuthMethod (loginAuthMethod kind)).withAssurance assurance
  | none => .forAuthMethod (loginAuthMethod kind)

namespace OidcProvider

/-- The part after the user was resolved. -/
def loginResolvedUser (self : OidcProvider) (authService : AuthService)
    (outcome : OidcCallbackOutcome) (existing : Option ExternalIdentity) (mapped : MappedClaims)
    (user : ProvisionedExternalUser) (now : OffsetDateTime) (metadata : ClientMetadata) :
    LoginM OidcLoginResult :=
  if existing.any fun identity => identity.userId != user.userId then
    Fallible.fail (.externalLoginRejected
      "provisioner returned a different user for an existing external identity")
  else do
    let externalIdentity ← storedIdentity outcome.claims existing user now
    let auth ← LoginM.service (authService.issueSessionForUserWithMetadata user.userId user.roles
      user.scopes (loginSession self.config.providerKind mapped) {} metadata)
    pure {
      auth, claims := outcome.claims, externalIdentity, tokenResponse := outcome.tokenResponse
      authorization := outcome.authorization }

def loginWithCallbackInMode (self : OidcProvider) (authService : AuthService)
    (input : OidcCallbackInput) (deliveredMode : OAuthResponseMode) (metadata : ClientMetadata) :
    LoginM OidcLoginResult := do
  let outcome ← LoginM.callback (self.handleCallbackInMode input deliveredMode)
  let now ← LoginM.callback OAuthM.now
  let existing ← LoginM.findExternalIdentity outcome.claims.providerName
    outcome.claims.externalSubject
  let mapped ← LoginM.mapClaims outcome.claims
  let user ← LoginM.resolveExternalUser outcome.claims existing mapped
  self.loginResolvedUser authService outcome existing mapped user now metadata

def loginWithCallback (self : OidcProvider) (authService : AuthService)
    (input : OidcCallbackInput) (metadata : ClientMetadata) : LoginM OidcLoginResult :=
  self.loginWithCallbackInMode authService input .query metadata

end OidcProvider

end AgqlAuth
