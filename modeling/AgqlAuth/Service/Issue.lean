import AgqlAuth.Service.Effects

/-!
# Session and access-token issuance

`issue_tokens_only` and what it calls, and the two session entry points that
write a first refresh record.  The pure parts are separate definitions so that
the record a call commits can be named without the program around it.
-/

namespace AgqlAuth

/-- The five values `issue_tokens_only` returns. -/
structure IssuedTokens where
  refreshToken : String
  record : StoredRefreshToken
  accessToken : String
  accessTokenExpiresAt : OffsetDateTime
  user : AuthUser

def IssuedTokens.payload (issued : IssuedTokens) : AuthPayload where
  user := issued.user
  accessToken := issued.accessToken
  accessTokenExpiresAt := issued.accessTokenExpiresAt
  refreshToken := issued.refreshToken
  refreshTokenExpiresAt := issued.record.expiresAt

/-- The principal as it is stamped by access-token issuance. -/
def AuthUser.stamped (self : AuthUser) (jti : String) (expiresAt : OffsetDateTime) : AuthUser :=
  { self with
    tokenClaims := { self.tokenClaims with
      jti := some jti
      purpose := some accessTokenPurpose
      expiresAt := OffsetDateTime.fromUnixTimestamp expiresAt.unixTimestamp } }

/-- The principal of a user session, as `issue_tokens_only` marks it. -/
def AuthUser.forUserSession (self : AuthUser) : AuthUser :=
  { self with tokenClaims := { self.tokenClaims with grantKind := some .userSession } }

/-- The authorization roles a provider answer and a ceiling leave. -/
def AuthUser.withAuthorizationRoles (self : AuthUser) (provided : Option (List String))
    (ceiling : Option (List String)) : AuthUser :=
  let current := match provided with
    | none => self.tokenClaims.authorizationRoles
    | some additional => dedupeStable additional
  let kept := match ceiling with
    | none => current
    | some ceiling => current.filter (· ∈ ceiling)
  { self with tokenClaims := { self.tokenClaims with authorizationRoles := kept } }

/-- The metadata a refresh record keeps for later rotations. -/
def AuthUser.refreshableMetadata (self : AuthUser) : Option RefreshableTokenMetadata :=
  let metadata : RefreshableTokenMetadata := {
    tenantId := self.tokenClaims.tenantId
    organizationId := self.tokenClaims.organizationId
    actor := self.tokenClaims.actor
    correlationId := self.tokenClaims.correlationId }
  if metadata = {} then none else some metadata

def AuthUser.refreshRecord (user : AuthUser) (sessionFamilyId : Uuid) (metadata : ClientMetadata)
    (now expiresAt : OffsetDateTime) (grantSource : RefreshGrantSource) (id : Uuid)
    (tokenHash : String) : StoredRefreshToken where
  id
  userId := user.userId
  sessionId := user.sessionId
  sessionFamilyId
  grantSource
  authorizationRoles := user.tokenClaims.authorizationRoles
  roles := user.roles
  scopes := user.scopes
  session := user.session
  refreshableMetadata := user.refreshableMetadata
  tokenHash
  createdAt := now
  expiresAt
  lastUsedAt := none
  revokedAt := none
  replacedByTokenId := none
  userAgent := metadata.userAgent
  ipAddress := metadata.ipAddress

namespace AuthService

def accessTokenClaims (self : AuthService) (user : AuthUser) (scope : Option String)
    (legacyScopes : Option (List String)) (issuedAt expiresAt : OffsetDateTime)
    (audience : String) : AccessTokenClaims where
  typ := some accessTokenType
  sub := user.userId
  sid := user.sessionId.toString
  roles := user.roles
  authorizationRoles := user.tokenClaims.authorizationRoles
  scope
  legacyScopes
  ctx := user.session
  iss := self.config.issuer
  aud := audienceClaim audience
  exp := expiresAt.unixTimestamp
  iat := issuedAt.unixTimestamp
  nbf := none
  purpose := some accessTokenPurpose
  jti := user.tokenClaims.jti
  tenantId := user.tokenClaims.tenantId
  organizationId := user.tokenClaims.organizationId
  sessionFamilyId := user.tokenClaims.sessionFamilyId
  grantKind := user.tokenClaims.grantKind
  sessionVersion := user.tokenClaims.sessionVersion
  actor := user.tokenClaims.actor
  authTime := user.tokenClaims.authTime
  amr := user.tokenClaims.amr
  acr := user.tokenClaims.acr
  cnf := user.tokenClaims.cnf
  resourceType := user.tokenClaims.resourceType
  resourceId := user.tokenClaims.resourceId
  correlationId := user.tokenClaims.correlationId
  operation := user.tokenClaims.operation
  additional := user.tokenClaims.additional

def encodeLocalJwt (self : AuthService) (claims : AccessTokenClaims) : AuthResult String :=
  match self.encodeJwt claims with
  | .ok token => .ok token
  | .error detail => .error (.tokenCreation detail)

/-- The part of access-token issuance after the `jti` is known. -/
def signAccessToken (self : AuthService) (user : AuthUser) (issuedAt expiresAt : OffsetDateTime)
    (audience : String) : AuthResult String := do
  let (scope, legacyScopes) ←
    issuedScopeClaims user.scopes self.config.accessTokenScopeClaimFormat
  if !validAuthorizationRoleSet user.tokenClaims.authorizationRoles then
    throw (.tokenCreation "access-token authorization roles cannot be represented safely")
  else
    self.encodeLocalJwt
      (self.accessTokenClaims user scope legacyScopes issuedAt expiresAt audience)

/-- What was checked and encoded for an access token that was signed. -/
theorem signAccessToken_ok {svc : AuthService} {user : AuthUser}
    {issuedAt expiresAt : OffsetDateTime} {audience token : String}
    (signed : svc.signAccessToken user issuedAt expiresAt audience = .ok token) :
    ∃ scope legacyScopes,
      issuedScopeClaims user.scopes svc.config.accessTokenScopeClaimFormat =
        .ok (scope, legacyScopes) ∧
      validAuthorizationRoleSet user.tokenClaims.authorizationRoles = true ∧
      svc.encodeJwt (svc.accessTokenClaims user scope legacyScopes issuedAt expiresAt audience) =
        .ok token := by
  obtain ⟨⟨scope, legacyScopes⟩, checked, signed⟩ := Except.exists_of_bind_eq_ok signed
  refine ⟨scope, legacyScopes, checked, ?_⟩
  change (if _ then _ else _) = _ at signed
  split at signed
  · cases signed
  · rename_i valid
    refine ⟨by simpa using valid, ?_⟩
    unfold AuthService.encodeLocalJwt at signed
    split at signed
    · rename_i encoded
      cases signed
      exact encoded
    · cases signed

/-- The token id of an access token: the principal's own, or a fresh one. -/
def accessTokenId (authUser : AuthUser) : AuthM String :=
  match authUser.tokenClaims.jti with
  | some jti => pure jti
  | none => do
      let fresh ← newUuid
      pure fresh.toString

def issueAccessTokenWithUserForAudience (self : AuthService) (authUser : AuthUser)
    (issuedAt expiresAt : OffsetDateTime) (audience : String) : AuthM (String × AuthUser) := do
  let jti ← accessTokenId authUser
  let token ← liftResult
    (self.signAccessToken (authUser.stamped jti expiresAt) issuedAt expiresAt audience)
  pure (token, authUser.stamped jti expiresAt)

def issueAccessTokenWithUser (self : AuthService) (authUser : AuthUser)
    (issuedAt expiresAt : OffsetDateTime) : AuthM (String × AuthUser) :=
  self.issueAccessTokenWithUserForAudience authUser issuedAt expiresAt self.config.audience

/-- The answer of the additional-roles provider, if one is installed. -/
def providedAuthorizationRoles (self : AuthService) (authUser : AuthUser) :
    AuthM (Option (List String)) :=
  if self.hasAdditionalTokenRolesProvider then do
    let additional ← additionalTokenRoles authUser
    pure (some additional)
  else pure none

def issueTokensOnly (self : AuthService) (authUser : AuthUser) (sessionFamilyId : Uuid)
    (metadata : ClientMetadata) (now : OffsetDateTime) (grantSource : RefreshGrantSource)
    (authorizationRoleCeiling : Option (List String)) : AuthM IssuedTokens := do
  let provided ← self.providedAuthorizationRoles authUser.forUserSession
  let accessTokenExpiresAt ←
    liftResult (checkedJwtExpiry now self.config.accessTokenTtl "access-token ttl")
  let signed ← self.issueAccessTokenWithUser
    (authUser.forUserSession.withAuthorizationRoles provided authorizationRoleCeiling)
    now accessTokenExpiresAt
  let rawRefreshToken ← generateOpaqueToken
  let refreshTokenExpiresAt ←
    liftResult (checkedExpiry now self.config.refreshTokenTtl "refresh-token ttl")
  let id ← newUuid
  pure {
    refreshToken := rawRefreshToken
    record := signed.2.refreshRecord sessionFamilyId metadata now refreshTokenExpiresAt
      grantSource id (self.hashRefreshToken rawRefreshToken)
    accessToken := signed.1
    accessTokenExpiresAt
    user := signed.2 }

def issueAuthPayload (self : AuthService) (authUser : AuthUser) (sessionFamilyId : Uuid)
    (metadata : ClientMetadata) (grantSource : RefreshGrantSource) : AuthM AuthPayload := do
  let now ← AgqlAuth.now .system
  let issued ← self.issueTokensOnly authUser sessionFamilyId metadata now grantSource none
  insertRefreshToken issued.record
  pure issued.payload

/-- The principal of a host-issued session, once its identifiers are drawn. -/
def hostSessionUser (userId : String) (sessionId sessionFamilyId : Uuid)
    (roles scopes : List String) (session : SessionContext)
    (refreshableMetadata : RefreshableTokenMetadata) : AuthUser where
  userId
  sessionId
  roles := dedupeStable roles
  scopes := dedupeStable scopes
  session
  tokenClaims := {
    sessionFamilyId := some sessionFamilyId.toString
    tenantId := refreshableMetadata.tenantId
    organizationId := refreshableMetadata.organizationId
    actor := refreshableMetadata.actor
    authTime := session.assurance.map SessionAssurance.authTime
    amr := session.assurance.map (·.methods)
    acr := session.assurance.bind (·.acr)
    correlationId := refreshableMetadata.correlationId }

/-- Assurance supplied by the host is checked and fixes the MFA view. -/
def acceptHostSession (session : SessionContext) : AuthResult SessionContext :=
  match session.assurance with
  | none => .ok session
  | some assurance =>
      match assurance.validate with
      | .error e => .error (.invalidConfiguration e.toString)
      | .ok () => .ok { session with mfa := assurance.mfaState }

/-- The entry point every other host-issued session goes through. -/
def issueSessionForUserWithMetadata (self : AuthService) (userId : String)
    (roles scopes : List String) (session : SessionContext)
    (refreshableMetadata : RefreshableTokenMetadata) (metadata : ClientMetadata) :
    AuthM AuthPayload := do
  let session ← liftResult (acceptHostSession session)
  let sessionFamilyId ← newUuid
  let sessionId ← newUuid
  self.issueAuthPayload
    (hostSessionUser userId sessionId sessionFamilyId roles scopes session refreshableMetadata)
    sessionFamilyId metadata .host

end AuthService

end AgqlAuth
