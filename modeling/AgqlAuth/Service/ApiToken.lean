import AgqlAuth.Base.Encoding
import AgqlAuth.Credential.Bearer
import AgqlAuth.Interaction.Program
import AgqlAuth.Model.Config
import AgqlAuth.Model.Principal
import AgqlAuth.Scope.Match

/-!
# API tokens and combined authentication

`ApiTokenService` issues and authenticates opaque tokens; `CombinedAuth` tries a
header as a user access token and as an API token.  The user validator is a value
of the model, since one request asks it at most once.
-/

namespace AgqlAuth

open Interaction

structure StoredApiToken where
  id : Uuid
  tokenHash : String
  displayName : String
  subject : String
  principalKind : ApiTokenPrincipalKind
  scopes : List String
  audience : Option String
  resourceType : Option String
  resourceId : Option String
  createdAt : OffsetDateTime
  expiresAt : OffsetDateTime
  lastUsedAt : Option OffsetDateTime
  revokedAt : Option OffsetDateTime
  userAgent : Option String
  ipAddress : Option String

namespace StoredApiToken

def isExpired (self : StoredApiToken) (now : OffsetDateTime) : Bool := self.expiresAt ≤ now

def isRevoked (self : StoredApiToken) : Bool := self.revokedAt.isSome

def toPrincipal (self : StoredApiToken) : ApiTokenPrincipal where
  tokenId := self.id
  subject := self.subject
  principalKind := self.principalKind
  scopes := self.scopes
  audience := self.audience
  resourceType := self.resourceType
  resourceId := self.resourceId
  expiresAt := self.expiresAt

end StoredApiToken

structure ApiTokenIssueRequest where
  displayName : String
  subject : String
  principalKind : ApiTokenPrincipalKind
  scopes : List String
  ttl : Duration
  audience : Option String
  resourceType : Option String
  resourceId : Option String
  metadata : ClientMetadata

structure IssuedApiToken where
  tokenId : Uuid
  token : String
  displayName : String
  subject : String
  principalKind : ApiTokenPrincipalKind
  scopes : List String
  audience : Option String
  resourceType : Option String
  resourceId : Option String
  createdAt : OffsetDateTime
  expiresAt : OffsetDateTime

def validateIssueRequest (request : ApiTokenIssueRequest) : AuthResult Unit :=
  if (trim request.displayName).isEmpty then
    .error (.invalidConfiguration "api token display_name must not be empty")
  else if (trim request.subject).isEmpty then
    .error (.invalidConfiguration "api token subject must not be empty")
  else if (trim request.principalKind.value).isEmpty then
    .error (.invalidConfiguration "api token principal_kind must not be empty")
  else if request.ttl ≤ Duration.zero then
    .error (.invalidConfiguration "api token ttl must be greater than zero")
  else .ok ()

def validateTokenPrefix (tokenPrefix : String) : AuthResult Unit :=
  if (trim tokenPrefix).isEmpty then
    .error (.invalidConfiguration "api token prefix must not be empty")
  else if tokenPrefix.toList.any isWhitespace then
    .error (.invalidConfiguration "api token prefix must not contain whitespace")
  else if tokenPrefix.toList.contains '.' then
    .error (.invalidConfiguration "api token prefix must not contain '.'")
  else .ok ()

inductive ApiTokenOp where
  | now
  | newUuid
  /-- `OsRng.fill_bytes`. -/
  | fillBytes (length : Nat)
  | insertApiToken (token : StoredApiToken)
  | findApiTokenByHash (tokenHash : String)
  | touchApiToken (tokenId : Uuid) (usedAt : OffsetDateTime) (ipAddress userAgent : Option String)

def ApiTokenOp.Resp : ApiTokenOp → Type
  | .now => OffsetDateTime
  | .newUuid => Uuid
  | .fillBytes length => Vector UInt8 length
  | .insertApiToken _ => AuthResult Unit
  | .findApiTokenByHash _ => AuthResult (Option StoredApiToken)
  | .touchApiToken .. => AuthResult Unit

abbrev apiTokenSignature : Signature := ⟨ApiTokenOp, ApiTokenOp.Resp⟩

abbrev ApiTokenM (α : Type) := Fallible apiTokenSignature AuthError α

namespace ApiTokenM

open Program

def now : ApiTokenM OffsetDateTime := Fallible.perform (S := apiTokenSignature) ApiTokenOp.now

def newUuid : ApiTokenM Uuid := Fallible.perform (S := apiTokenSignature) ApiTokenOp.newUuid

def fillBytes (length : Nat) : ApiTokenM (Vector UInt8 length) :=
  Fallible.perform (S := apiTokenSignature) (.fillBytes length)

def insertApiToken (token : StoredApiToken) : ApiTokenM Unit :=
  call (S := apiTokenSignature) (.insertApiToken token) ret

def findApiTokenByHash (tokenHash : String) : ApiTokenM (Option StoredApiToken) :=
  call (S := apiTokenSignature) (.findApiTokenByHash tokenHash) ret

def touchApiToken (tokenId : Uuid) (usedAt : OffsetDateTime) (ipAddress userAgent : Option String) :
    ApiTokenM Unit :=
  call (S := apiTokenSignature) (.touchApiToken tokenId usedAt ipAddress userAgent) ret

end ApiTokenM

/-- A service has the default prefix or one that was validated. -/
structure ApiTokenService where
  hashApiToken : String → String
  tokenPrefix : String
  prefixValid : validateTokenPrefix tokenPrefix = .ok ()

namespace ApiTokenService

open ApiTokenM

def withPrefix (hashApiToken : String → String) (tokenPrefix : String) :
    AuthResult ApiTokenService :=
  match prefixValid : validateTokenPrefix tokenPrefix with
  | .ok () => .ok { hashApiToken, tokenPrefix, prefixValid }
  | .error e => .error e

def issueToken (self : ApiTokenService) (request : ApiTokenIssueRequest) :
    ApiTokenM IssuedApiToken := do
  Program.ret (validateIssueRequest request)
  let now ← now
  let expiresAt ← Program.ret (checkedExpiry now request.ttl "API-token ttl")
  let tokenId ← newUuid
  let bytes ← fillBytes 48
  let rawToken := self.tokenPrefix ++ base64UrlSafeNoPad bytes.toList
  insertApiToken {
    id := tokenId
    tokenHash := self.hashApiToken rawToken
    displayName := request.displayName
    subject := request.subject
    principalKind := request.principalKind
    scopes := request.scopes
    audience := request.audience
    resourceType := request.resourceType
    resourceId := request.resourceId
    createdAt := now
    expiresAt
    lastUsedAt := none
    revokedAt := none
    userAgent := request.metadata.userAgent
    ipAddress := request.metadata.ipAddress }
  pure {
    tokenId
    token := rawToken
    displayName := request.displayName
    subject := request.subject
    principalKind := request.principalKind
    scopes := request.scopes
    audience := request.audience
    resourceType := request.resourceType
    resourceId := request.resourceId
    createdAt := now
    expiresAt }

def authenticateToken (self : ApiTokenService) (token : String) (metadata : ClientMetadata) :
    ApiTokenM ApiTokenPrincipal := do
  if !startsWith token self.tokenPrefix then Fallible.fail .invalidApiToken
  else do
    match ← findApiTokenByHash (self.hashApiToken token) with
    | none => Fallible.fail .invalidApiToken
    | some stored =>
        if stored.isRevoked then Fallible.fail .apiTokenRevoked
        else do
          let now ← now
          if stored.isExpired now then Fallible.fail .apiTokenExpired
          else do
            let usedAt ← ApiTokenM.now
            touchApiToken stored.id usedAt metadata.ipAddress metadata.userAgent
            pure stored.toPrincipal

end ApiTokenService

/-- The `AccessTokenAuth` trait: what the validator makes of a header, and its matcher. -/
structure AccessTokenAuth where
  authenticateBearer : String → AuthResult AuthUser
  scopeMatcher : ScopeMatch

structure AuthRuntime where
  scopeMatcher : ScopeMatch

/-- The typed data of an `async-graphql` request. -/
structure RequestData where
  runtime : Option AuthRuntime := none
  principal : Option AuthPrincipal := none
  user : Option AuthUser := none
  apiToken : Option ApiTokenPrincipal := none

structure CombinedAuth where
  accessTokens : AccessTokenAuth
  apiTokens : ApiTokenService

def injectUser (request : RequestData) (runtime : AuthRuntime) (user : AuthUser) : RequestData :=
  { request with runtime := some runtime, principal := some (.user user), user := some user }

namespace CombinedAuth

/-- The part after the user validator. -/
def injectApiToken (self : CombinedAuth) (request : RequestData) (token : String)
    (metadata : ClientMetadata) : ApiTokenM RequestData := do
  let principal ← self.apiTokens.authenticateToken token metadata
  pure { request with
    runtime := some ⟨self.accessTokens.scopeMatcher⟩
    principal := some (.apiToken principal)
    apiToken := some principal }

def injectHttpAuth (self : CombinedAuth) (request : RequestData) (authorization : Option String)
    (metadata : ClientMetadata) : ApiTokenM RequestData :=
  match authorization with
  | none => pure request
  | some raw => do
      let token ← Program.ret (stripBearerPrefix raw)
      if token.toList.contains '.' then
        match self.accessTokens.authenticateBearer raw with
        | .ok user => pure (injectUser request ⟨self.accessTokens.scopeMatcher⟩ user)
        | .error .accessTokenExpired => Fallible.fail .accessTokenExpired
        | .error e =>
            if e = .invalidAccessToken ∧ startsWith token self.apiTokens.tokenPrefix then
              self.injectApiToken request token metadata
            else Fallible.fail e
      else self.injectApiToken request token metadata

end CombinedAuth

end AgqlAuth
