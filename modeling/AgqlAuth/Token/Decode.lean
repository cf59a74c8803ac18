import AgqlAuth.Base.UuidText
import AgqlAuth.Model.Config
import AgqlAuth.Token.Claims
import AgqlAuth.Token.Library

/-!
# Decoding access tokens

The decoder that the service, the fixed-audience facade and the stand-alone
validator share.
-/

namespace AgqlAuth

open Json

/-- Claims a resource server insists on; by default none. -/
structure ClaimRequirements where
  requireJti : Bool := false
  requireTenantId : Bool := false
  requireOrganizationId : Bool := false
  requireCnf : Bool := false
  requirePurpose : Bool := false
  requireSessionFamilyId : Bool := false
  requireActor : Bool := false
  requireResourceBinding : Bool := false
  requireCorrelationId : Bool := false
  requiredGrantKind : Option AccessTokenGrantKind := none
  requireSessionVersion : Bool := false
  requireOperationBinding : Bool := false

inductive ClaimRequirementError where
  | missingJti
  | missingTenantId
  | missingOrganizationId
  | missingCnf
  | missingOrInvalidPurpose
  | missingSessionFamilyId
  | missingActor
  | missingResourceBinding
  | missingCorrelationId
  | missingOrInvalidGrantKind
  | missingSessionVersion
  | missingOperationBinding

/-- A value that is there and not blank. -/
def filled (value : Option String) : Bool := value.any fun text => !(trim text).isEmpty

def ClaimRequirements.validate (self : ClaimRequirements) (metadata : AccessTokenMetadata) :
    Except ClaimRequirementError Unit :=
  if self.requireJti && !filled metadata.jti then .error .missingJti
  else if self.requireTenantId && !filled metadata.tenantId then .error .missingTenantId
  else if self.requireOrganizationId && !filled metadata.organizationId then
    .error .missingOrganizationId
  else if self.requireCnf &&
      !(metadata.cnf.any fun cnf => cnf.x5tS256.isSome || cnf.jkt.isSome) then
    .error .missingCnf
  else if self.requirePurpose && metadata.purpose != some accessTokenPurpose then
    .error .missingOrInvalidPurpose
  else if self.requireSessionFamilyId && !filled metadata.sessionFamilyId then
    .error .missingSessionFamilyId
  else if self.requireActor && !filled (metadata.actor.map (·.sub)) then .error .missingActor
  else if self.requireResourceBinding &&
      !(filled metadata.resourceType && filled metadata.resourceId) then
    .error .missingResourceBinding
  else if self.requireCorrelationId && !filled metadata.correlationId then
    .error .missingCorrelationId
  else if self.requiredGrantKind.any fun kind => metadata.grantKind != some kind then
    .error .missingOrInvalidGrantKind
  else if self.requireSessionVersion && !filled metadata.sessionVersion then
    .error .missingSessionVersion
  else if self.requireOperationBinding &&
      !(filled (metadata.operation.map (·.operationName)) &&
        filled (metadata.operation.map (·.documentSha256))) then
    .error .missingOperationBinding
  else .ok ()

@[simp]
theorem ClaimRequirements.validate_default (metadata : AccessTokenMetadata) :
    ClaimRequirements.validate {} metadata = .ok () := rfl

/-- `split(' ')` of a `scope` claim, within the bounds of issuance. -/
def parseStandardScope (value : String) : AuthResult (List String) :=
  if value.isEmpty || maxAccessTokenScopeClaimLength < value.utf8ByteSize then
    .error .invalidAccessToken
  else
    let scopes := splitAtChar value ' '
    if validScopeSet scopes then .ok (dedupeStable scopes) else .error .invalidAccessToken

def parseLegacyScopes (scopes : List String) : AuthResult (List String) :=
  if validScopeSet scopes then .ok (dedupeStable scopes) else .error .invalidAccessToken

/-- Two parsed claims list the same scopes; the source compares them sorted and deduplicated. -/
def sameScopes (standard legacy : List String) : Bool :=
  standard.all (legacy.contains ·) && legacy.all (standard.contains ·)

def parseAccessTokenScopes (claims : AccessTokenClaims) (legacyPolicy : LegacyScopeClaims) :
    AuthResult (List String) := do
  let standard ← claims.scope.mapM parseStandardScope
  let legacy ← match claims.legacyScopes with
    | none => pure none
    | some scopes =>
        if legacyPolicy = .reject then throw .invalidAccessToken
        else some <$> parseLegacyScopes scopes
  match standard, legacy with
  | some standard, some legacy =>
      if sameScopes standard legacy then pure standard else throw .invalidAccessToken
  | some standard, none => pure standard
  | none, some legacy => pure legacy
  | none, none => pure []

/-- How a missing `purpose` claim is treated. -/
inductive PurposePolicy where
  | accessTokenOrLegacy
  | requireAccessToken
  deriving DecidableEq

structure AccessTokenDecodeConfig (lib : JwtLibrary) where
  decodingKey : lib.DecodingKey
  validation : Validation
  expectedKid : Option String
  leewaySeconds : Nat
  purposePolicy : PurposePolicy
  legacyScopeClaims : LegacyScopeClaims
  claimRequirements : ClaimRequirements
  allowedAlgorithms : List JwtAlgorithm

def AccessTokenDecodeConfig.forService {lib : JwtLibrary} (decodingKey : lib.DecodingKey)
    (validation : Validation) (expectedKid : Option String)
    (legacyScopeClaims : LegacyScopeClaims) : AccessTokenDecodeConfig lib where
  decodingKey
  validation
  expectedKid
  leewaySeconds := 0
  purposePolicy := .accessTokenOrLegacy
  legacyScopeClaims
  claimRequirements := {}
  allowedAlgorithms := validation.algorithms

def claimsToMetadata (claims : AccessTokenClaims) : AccessTokenMetadata where
  jti := claims.jti
  tenantId := claims.tenantId
  organizationId := claims.organizationId
  sessionFamilyId := claims.sessionFamilyId
  grantKind := claims.grantKind
  sessionVersion := claims.sessionVersion
  actor := claims.actor
  authTime := claims.authTime
  amr := claims.amr
  acr := claims.acr
  cnf := claims.cnf
  resourceType := claims.resourceType
  resourceId := claims.resourceId
  correlationId := claims.correlationId
  operation := claims.operation
  authorizationRoles := claims.authorizationRoles
  purpose := claims.purpose
  expiresAt := OffsetDateTime.fromUnixTimestamp claims.exp
  additional := claims.additional

/-- Every timestamp must be representable, the expiry ahead and `nbf` not. -/
def validateTimeClaims (claims : AccessTokenClaims) (leeway : Nat) (now : Int) : AuthResult Unit :=
  if [some claims.exp, some claims.iat, claims.nbf].any fun timestamp =>
      timestamp.any fun seconds => (OffsetDateTime.fromUnixTimestamp seconds).isNone then
    .error .invalidAccessToken
  else if claims.exp + leeway ≤ now then .error .accessTokenExpired
  else if claims.nbf.any fun nbf => decide (now + leeway < nbf) then .error .invalidAccessToken
  else .ok ()

def validateTypeAndPurpose (claims : AccessTokenClaims) (policy : PurposePolicy) :
    AuthResult Unit :=
  if claims.typ ≠ none ∧ claims.typ ≠ some accessTokenType then .error .invalidAccessToken
  else
    match policy with
    | .accessTokenOrLegacy =>
        if claims.purpose ≠ none ∧ claims.purpose ≠ some accessTokenPurpose then
          .error .invalidAccessToken
        else .ok ()
    | .requireAccessToken =>
        if claims.purpose ≠ some accessTokenPurpose then .error .invalidAccessToken else .ok ()

structure DecodedAccessTokenClaims where
  claims : AccessTokenClaims
  scopes : List String

/-- A key id is compared only where one is expected. -/
def kidExpected (expected actual : Option String) : Bool :=
  match expected with
  | none => true
  | some kid => actual == some kid

def mapAccessTokenDecodeError : JwtErrorKind → AuthError
  | .expiredSignature => .accessTokenExpired
  | .other => .invalidAccessToken

/-- The checks on claims that the library has let through. -/
def checkAccessTokenClaims {lib : JwtLibrary} (config : AccessTokenDecodeConfig lib) (now : Int)
    (claims : AccessTokenClaims) : AuthResult DecodedAccessTokenClaims := do
  validateTimeClaims claims config.leewaySeconds now
  validateTypeAndPurpose claims config.purposePolicy
  if (Uuid.parse claims.sid).isNone then throw .invalidAccessToken
  else do
    let scopes ← parseAccessTokenScopes claims config.legacyScopeClaims
    match config.claimRequirements.validate (claimsToMetadata claims) with
    | .error _ => throw .invalidAccessToken
    | .ok () => pure { claims, scopes }

/--
`decode_access_token_claims` at a reading of the configured clock, which decides
on the expiry and on `nbf` instead of the JWT library.
-/
def decodeAccessTokenClaims (lib : JwtLibrary) (token : String)
    (config : AccessTokenDecodeConfig lib) (now : OffsetDateTime) :
    AuthResult DecodedAccessTokenClaims :=
  match lib.decodeHeader token with
  | none => .error .invalidAccessToken
  | some header =>
      if header.alg ∉ config.allowedAlgorithms ∧ header.alg ∉ config.validation.algorithms then
        .error .invalidAccessToken
      else if !kidExpected config.expectedKid header.kid then .error .invalidAccessToken
      else
        let validation := { config.validation with validateExp := false, validateNbf := false }
        match lib.decode (AccessTokenClaims.ofJson lib.instant) token config.decodingKey validation
            now.unixTimestamp with
        | .error e => .error (mapAccessTokenDecodeError e)
        | .ok claims => checkAccessTokenClaims config now.unixTimestamp claims

def accessTokenClaimsToUser (decoded : DecodedAccessTokenClaims) : AuthResult AuthUser :=
  match Uuid.parse decoded.claims.sid with
  | none => .error .invalidAccessToken
  | some sessionId => .ok {
      userId := decoded.claims.sub
      sessionId
      roles := decoded.claims.roles
      scopes := decoded.scopes
      session := decoded.claims.ctx
      tokenClaims := claimsToMetadata decoded.claims }

/-- Decode and read the principal. -/
def authenticateWith (lib : JwtLibrary) (token : String) (config : AccessTokenDecodeConfig lib)
    (now : OffsetDateTime) : AuthResult AuthUser :=
  match decodeAccessTokenClaims lib token config now with
  | .error e => .error e
  | .ok decoded => accessTokenClaimsToUser decoded

/-- Past the header and the library only the checks on the claims remain. -/
theorem decodeAccessTokenClaims_eq_check {lib : JwtLibrary} {token : String}
    {config : AccessTokenDecodeConfig lib} {now : OffsetDateTime} {header : JwtHeader}
    {claims : AccessTokenClaims} (read : lib.decodeHeader token = some header)
    (listed : header.alg ∈ config.validation.algorithms)
    (known : kidExpected config.expectedKid header.kid = true)
    (decoded : lib.decode (AccessTokenClaims.ofJson lib.instant) token config.decodingKey
      { config.validation with validateExp := false, validateNbf := false } now.unixTimestamp =
        .ok claims) :
    decodeAccessTokenClaims lib token config now =
      checkAccessTokenClaims config now.unixTimestamp claims := by
  simp only [decodeAccessTokenClaims, read, decoded, known, listed]
  simp

structure Accepted (lib : JwtLibrary) (token : String) (config : AccessTokenDecodeConfig lib)
    (now : OffsetDateTime) (payload : JsonValue) (claims : AccessTokenClaims) : Prop where
  verified : lib.verify token config.decodingKey config.validation.algorithms = .ok payload
  typed : AccessTokenClaims.ofJson lib.instant payload = some claims
  valid : lib.validate { config.validation with validateExp := false, validateNbf := false }
    now.unixTimestamp payload = .ok ()
  timely : validateTimeClaims claims config.leewaySeconds now.unixTimestamp = .ok ()
  kind : validateTypeAndPurpose claims config.purposePolicy = .ok ()

theorem accepted_of_authenticateWith {lib : JwtLibrary} {token : String}
    {config : AccessTokenDecodeConfig lib} {now : OffsetDateTime} {user : AuthUser}
    (authenticated : authenticateWith lib token config now = .ok user) :
    ∃ payload claims, Accepted lib token config now payload claims := by
  unfold authenticateWith at authenticated
  split at authenticated
  · cases authenticated
  rename_i decoded accepted
  unfold decodeAccessTokenClaims at accepted
  split at accepted
  · cases accepted
  split at accepted
  · cases accepted
  split at accepted
  · cases accepted
  simp only at accepted
  split at accepted
  · cases accepted
  rename_i claims read
  obtain ⟨payload, verified, typed, valid⟩ := JwtLibrary.decode_ok read
  obtain ⟨⟨⟩, timely, accepted⟩ := Except.exists_of_bind_eq_ok accepted
  obtain ⟨⟨⟩, kind, -⟩ := Except.exists_of_bind_eq_ok accepted
  exact ⟨payload, claims, verified, typed, valid, timely, kind⟩

end AgqlAuth
