import AgqlAuth.Json.Codec
import AgqlAuth.Model.Session

/-!
# Access-token claims and refresh-token records
-/

namespace AgqlAuth

inductive AccessTokenGrantKind where
  | userSession
  | sessionless
  | sessionBoundDelegation
  deriving DecidableEq

structure ExactOperationBinding where
  operationName : String
  documentSha256 : String
  deriving DecidableEq

structure ActorIdentity where
  sub : String := ""
  amr : List String := []
  deriving DecidableEq

structure ConfirmationClaims where
  x5tS256 : Option String := none
  jkt : Option String := none
  deriving DecidableEq

/-- Optional standard claims carried by access tokens and exposed on principals. -/
structure AccessTokenMetadata where
  jti : Option String := none
  tenantId : Option String := none
  organizationId : Option String := none
  sessionFamilyId : Option String := none
  grantKind : Option AccessTokenGrantKind := none
  sessionVersion : Option String := none
  actor : Option ActorIdentity := none
  authTime : Option Int := none
  amr : Option (List String) := none
  acr : Option String := none
  cnf : Option ConfirmationClaims := none
  resourceType : Option String := none
  resourceId : Option String := none
  correlationId : Option String := none
  operation : Option ExactOperationBinding := none
  authorizationRoles : List String := []
  purpose : Option String := none
  expiresAt : Option OffsetDateTime := none
  additional : List (String × JsonValue) := []

structure AuthUser where
  userId : String
  sessionId : Uuid
  roles : List String
  scopes : List String
  session : SessionContext
  tokenClaims : AccessTokenMetadata

structure AccessTokenClaims where
  typ : Option String
  sub : String
  sid : String
  roles : List String
  authorizationRoles : List String
  scope : Option String
  legacyScopes : Option (List String)
  ctx : SessionContext
  iss : String
  aud : JsonValue
  exp : Int
  iat : Int
  nbf : Option Int
  purpose : Option String
  jti : Option String
  tenantId : Option String
  organizationId : Option String
  sessionFamilyId : Option String
  grantKind : Option AccessTokenGrantKind
  sessionVersion : Option String
  actor : Option ActorIdentity
  authTime : Option Int
  amr : Option (List String)
  acr : Option String
  cnf : Option ConfirmationClaims
  resourceType : Option String
  resourceId : Option String
  correlationId : Option String
  operation : Option ExactOperationBinding
  additional : List (String × JsonValue)

def accessTokenType : String := "access"
def accessTokenPurpose : String := "access_token"

def audienceClaim (audience : String) : JsonValue := .string audience

def maxAccessTokenAuthorizationRoles : Nat := 256
def maxAccessTokenAuthorizationRoleLength : Nat := 512
def maxAccessTokenScopes : Nat := 256
def maxAccessTokenScopeLength : Nat := 512
def maxAccessTokenScopeClaimLength : Nat := 16 * 1024

inductive AccessTokenScopeClaimFormat where
  | standard
  | legacyArray
  deriving DecidableEq

/--
The bytes allowed in a scope value.  Every byte of a multi-byte character is at
least `0x80`, so testing characters and testing bytes agree.
-/
def validScopeChar (c : Char) : Bool :=
  let n := c.toNat
  n == 0x21 || (0x23 ≤ n && n ≤ 0x5b) || (0x5d ≤ n && n ≤ 0x7e)

def validScopeToken (scope : String) : Bool :=
  !scope.isEmpty && scope.utf8ByteSize ≤ maxAccessTokenScopeLength &&
    scope.toList.all validScopeChar

def validScopeSet (scopes : List String) : Bool :=
  scopes.length ≤ maxAccessTokenScopes && scopes.all validScopeToken &&
    (scopes.map String.utf8ByteSize).sum + (scopes.length - 1) ≤ maxAccessTokenScopeClaimLength

/-- ASCII white space and ASCII control characters. -/
def asciiSpaceOrControl (c : Char) : Bool := c.toNat ≤ 0x20 || c.toNat == 0x7f

def validAuthorizationRoleSet (roles : List String) : Bool :=
  roles.length ≤ maxAccessTokenAuthorizationRoles &&
    roles.all fun role =>
      !role.isEmpty && role.utf8ByteSize ≤ maxAccessTokenAuthorizationRoleLength &&
        !role.toList.any asciiSpaceOrControl

/-- The `scope` and `scopes` claims issued for a scope list. -/
def issuedScopeClaims (scopes : List String) (format : AccessTokenScopeClaimFormat) :
    AuthResult (Option String × Option (List String)) :=
  if !validScopeSet scopes then
    .error (.tokenCreation
      "access-token scopes contain a value that cannot be represented safely")
  else
    .ok (match format with
      | .standard => (if scopes.isEmpty then none else some (" ".intercalate scopes), none)
      | .legacyArray => (none, some scopes))

structure StoredUser where
  id : String
  principal : String
  passwordHash : String
  roles : List String
  scopes : List String
  disabled : Bool
  deriving DecidableEq

structure ClientMetadata where
  ipAddress : Option String := none
  userAgent : Option String := none
  deriving DecidableEq

/-- The authority that must confirm a refreshable session's grants. -/
inductive RefreshGrantSource where
  | legacy
  | storedUser
  | host
  deriving DecidableEq

structure CurrentRefreshGrant where
  roles : List String
  scopes : List String
  deriving DecidableEq

/-- Token metadata that may be carried across refresh rotation. -/
structure RefreshableTokenMetadata where
  tenantId : Option String := none
  organizationId : Option String := none
  actor : Option ActorIdentity := none
  correlationId : Option String := none
  deriving DecidableEq

structure StepUpAuthentication where
  methods : List String := []
  acr : Option String := none
  context : Option String := none
  deriving DecidableEq

inductive RefreshTokenRevocationReason where
  | logout
  | rotation
  | replayDetected
  | adminRevoked
  | expired
  deriving DecidableEq

structure StoredRefreshToken where
  id : Uuid
  userId : String
  sessionId : Uuid
  sessionFamilyId : Uuid
  grantSource : RefreshGrantSource
  authorizationRoles : List String
  roles : List String
  scopes : List String
  session : SessionContext
  refreshableMetadata : Option RefreshableTokenMetadata
  tokenHash : String
  createdAt : OffsetDateTime
  expiresAt : OffsetDateTime
  lastUsedAt : Option OffsetDateTime
  revokedAt : Option OffsetDateTime
  replacedByTokenId : Option Uuid
  userAgent : Option String
  ipAddress : Option String
  deriving DecidableEq

namespace StoredRefreshToken

def isExpired (self : StoredRefreshToken) (now : OffsetDateTime) : Bool := self.expiresAt ≤ now

def isRevoked (self : StoredRefreshToken) : Bool := self.revokedAt.isSome

@[simp]
theorem isRevoked_eq_false {self : StoredRefreshToken} :
    self.isRevoked = false ↔ self.revokedAt = none := by
  simp [isRevoked]

end StoredRefreshToken

structure AuthPayload where
  user : AuthUser
  accessToken : String
  accessTokenExpiresAt : OffsetDateTime
  refreshToken : String
  refreshTokenExpiresAt : OffsetDateTime

def checkedExpiry (now : OffsetDateTime) (ttl : Duration) (name : String) :
    AuthResult OffsetDateTime :=
  if ttl ≤ Duration.zero then .error (.invalidConfiguration (name ++ " must be positive"))
  else
    match now.checkedAdd ttl with
    | none => .error (.invalidConfiguration (name ++ " exceeds the supported timestamp range"))
    | some expiry => .ok expiry

def checkedJwtExpiry (now : OffsetDateTime) (ttl : Duration) (name : String) :
    AuthResult OffsetDateTime :=
  match checkedExpiry now ttl name with
  | .error e => .error e
  | .ok expiry =>
      if expiry.unixTimestamp ≤ now.unixTimestamp then
        .error (.invalidConfiguration (name ++ " expires within the issuance second"))
      else .ok expiry

end AgqlAuth
