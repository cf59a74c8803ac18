import AgqlAuth.Json.OrderedMap
import AgqlAuth.Service.Issue

/-!
# Access tokens without a refresh token

The checks that every custom lifetime and custom claim goes through, and the
sessionless grant.
-/

namespace AgqlAuth

/-- Custom claims, a `BTreeMap` from names to JSON values. -/
abbrev ClaimMap := Json.OrderedMap String JsonValue

/-- A signed 64-bit number of seconds. -/
abbrev UnixSeconds := { seconds : Int // Json.FitsI64 seconds }

def reservedAccessTokenClaims : List String := [
  "typ", "token_type", "token_kind", "grant_kind", "sub", "subject", "subject_id", "user_id",
  "sid", "session_id", "session_version", "security_version", "roles", "role",
  "authorization_roles", "scope", "scopes", "ctx", "purpose", "iss", "aud", "audience", "exp",
  "expires_at", "iat", "issued_at", "nbf", "jti", "token_id", "tenant_id", "tenant", "tenantid",
  "organization_id", "session_family_id", "actor", "act", "azp", "authorized_party", "auth_time",
  "authentication_time", "amr", "acr", "cnf", "resource", "resource_type", "resource_id",
  "correlation_id", "correlationid", "operation", "operation_name", "operation_hash",
  "document_sha256"]

def isReservedAccessTokenClaim (key : String) : Bool :=
  reservedAccessTokenClaims.any fun reserved => eqIgnoreAsciiCase key reserved

/-- A custom claim name that issuance refuses. -/
def refusedClaimName (key : String) : Bool :=
  (trim key).isEmpty || isReservedAccessTokenClaim key

def validateAccessTokenTtlAndClaims (ttl : Option Duration) (additionalClaims : ClaimMap)
    (config : AuthConfig) : AuthResult Unit :=
  if ttl.any fun ttl => decide (ttl ≤ Duration.zero) then
    .error (.invalidConfiguration "access-token-only ttl must be greater than zero")
  else if ttl.any fun ttl => decide (config.maxAccessTokenTtl < ttl) then
    .error (.invalidConfiguration "access-token-only ttl exceeds configured maximum")
  else
    match additionalClaims.keys.find? refusedClaimName with
    | some key =>
        .error (.invalidConfiguration ("access-token-only custom claim '" ++ key ++ "' is reserved"))
    | none => .ok ()

theorem keys_of_validateAccessTokenTtlAndClaims {ttl : Option Duration}
    {additionalClaims : ClaimMap} {config : AuthConfig}
    (accepted : validateAccessTokenTtlAndClaims ttl additionalClaims config = .ok ()) :
    ∀ entry ∈ additionalClaims.entries, isReservedAccessTokenClaim entry.1 = false := by
  obtain ⟨-, accepted⟩ := Except.ite_error_eq_ok_iff.mp accepted
  obtain ⟨-, accepted⟩ := Except.ite_error_eq_ok_iff.mp accepted
  split at accepted
  · cases accepted
  rename_i unrefused
  intro entry mem
  have allowed := List.find?_eq_none.mp unrefused entry.1 (List.mem_map_of_mem mem)
  simp only [refusedClaimName, Bool.or_eq_true, not_or, Bool.not_eq_true] at allowed
  exact allowed.2

/-- A name that differs from every reserved one even in case is none of them. -/
theorem not_mem_reserved {key : String} (free : isReservedAccessTokenClaim key = false) :
    key ∉ reservedAccessTokenClaims := by
  intro mem
  have reserved : isReservedAccessTokenClaim key = true :=
    List.any_eq_true.mpr ⟨key, mem, by simp [eqIgnoreAsciiCase]⟩
  rw [reserved] at free
  cases free

structure AccessTokenOnlyRequest where
  userId : String
  roles : List String
  scopes : List String
  session : SessionContext
  ttl : Option Duration := none
  tenantId : Option String := none
  organizationId : Option String := none
  sessionFamilyId : Option String := none
  actor : Option ActorIdentity := none
  authTime : Option UnixSeconds := none
  amr : Option (List String) := none
  acr : Option String := none
  cnf : Option ConfirmationClaims := none
  resourceType : Option String := none
  resourceId : Option String := none
  correlationId : Option String := none
  additionalClaims : ClaimMap := .empty

structure AccessTokenOnlyGrant where
  accessToken : String
  accessTokenExpiresAt : OffsetDateTime
  user : AuthUser

def validateAccessTokenOnlyRequest (request : AccessTokenOnlyRequest) (config : AuthConfig) :
    AuthResult Unit :=
  if (trim request.userId).isEmpty then
    .error (.invalidConfiguration "access-token-only user_id must not be empty")
  else validateAccessTokenTtlAndClaims request.ttl request.additionalClaims config

/-- The principal of a sessionless grant, once its identifiers are drawn. -/
def AccessTokenOnlyRequest.principal (self : AccessTokenOnlyRequest) (jti : String)
    (sessionId : Uuid) : AuthUser where
  userId := self.userId
  sessionId
  roles := dedupeStable self.roles
  scopes := dedupeStable self.scopes
  session := self.session
  tokenClaims := {
    jti := some jti
    tenantId := self.tenantId
    organizationId := self.organizationId
    sessionFamilyId := self.sessionFamilyId
    grantKind := some .sessionless
    actor := self.actor
    authTime := self.authTime.map (·.val)
    amr := self.amr
    acr := self.acr
    cnf := self.cnf
    resourceType := self.resourceType
    resourceId := self.resourceId
    correlationId := self.correlationId
    purpose := some accessTokenPurpose
    additional := self.additionalClaims.entries }

/-- The second look at the lifetime, with the default filled in. -/
def checkAccessTokenOnlyTtl (ttl : Duration) (config : AuthConfig) : AuthResult Unit :=
  if ttl ≤ Duration.zero then
    .error (.invalidConfiguration "access-token-only ttl must be greater than zero")
  else if config.maxAccessTokenTtl < ttl then
    .error (.invalidConfiguration "access-token-only ttl exceeds configured maximum")
  else .ok ()

def AuthService.issueAccessTokenOnly (self : AuthService) (request : AccessTokenOnlyRequest) :
    AuthM AccessTokenOnlyGrant := do
  liftResult (validateAccessTokenOnlyRequest request self.config)
  let now ← AgqlAuth.now .system
  let ttl := request.ttl.getD self.config.accessTokenTtl
  liftResult (checkAccessTokenOnlyTtl ttl self.config)
  let jti ← newUuid
  let sessionId ← newUuid
  let accessTokenExpiresAt ← liftResult (checkedJwtExpiry now ttl "access-token-only ttl")
  let signed ← self.issueAccessTokenWithUser (request.principal jti.toString sessionId) now
    accessTokenExpiresAt
  pure {
    accessToken := signed.1
    accessTokenExpiresAt
    user := signed.2 }

end AgqlAuth
