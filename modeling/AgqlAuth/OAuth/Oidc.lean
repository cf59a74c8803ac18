import AgqlAuth.OAuth.State

/-!
# The OpenID provider

Discovery, authorization requests, the code exchange, ID tokens and callbacks of
`OidcProvider`.
-/

namespace AgqlAuth

open Interaction OAuthM

inductive OidcProviderKind where
  | generic
  | microsoftEntra
  deriving DecidableEq

structure OidcProviderConfig where
  providerName : String
  providerKind : OidcProviderKind := .generic
  discoveryUrl : String
  clientId : String
  clientSecret : Option String := none
  redirectUri : String
  requestedScopes : List String := ["openid", "profile", "email"]
  requestOfflineAccess : Bool := false
  allowedTenants : List String := []
  allowedIssuers : List String := []
  allowConsumerAccounts : Bool := false
  discoveryCacheTtl : Duration := .hours 1
  allowedAdditionalAudiences : List String := []
  clockSkew : Duration := .seconds 60
  stateTtl : Duration := .minutes 10
  responseMode : OAuthResponseMode := .query
  tokenEndpointAuthMethod : TokenEndpointAuthMethod := .clientSecretPost
  hasClientJwt : Bool := false

def OidcProviderConfig.scopes (self : OidcProviderConfig) : List String :=
  if self.requestOfflineAccess && !self.requestedScopes.contains "offline_access" then
    self.requestedScopes ++ ["offline_access"]
  else self.requestedScopes

structure OidcProvider where
  config : OidcProviderConfig
  lib : OAuthLibrary

structure OidcAuthorizationRequest where
  authorizationUrl : String
  providerName : String
  state : String
  nonce : String
  codeVerifier : String
  codeChallenge : String
  authorizationPolicy : Option OidcAuthorizationPolicy
  expiresAt : OffsetDateTime

structure ValidatedOidcClaims where
  providerName : String
  issuer : String
  audiences : List String
  subject : String
  externalSubject : String
  expiresAt : OffsetDateTime
  notBefore : Option OffsetDateTime
  issuedAt : OffsetDateTime
  authTime : Option OffsetDateTime
  amr : Option (List String)
  acr : Option String
  acrs : Option (List String)
  nonce : String
  tenantId : Option String
  objectId : Option String

structure OidcAuthorizationOutcome where
  policy : Option OidcAuthorizationPolicy := none
  enforcedAuthTime : Option OffsetDateTime := none
  matchedAcr : Option String := none
  matchedAcrs : Option String := none

structure OidcCallbackOutcome where
  state : OAuthLoginState
  tokenResponse : OidcTokenResponse
  claims : ValidatedOidcClaims
  authorization : OidcAuthorizationOutcome

def tokenValidationError {α : Type} (detail : String) : AuthResult α :=
  .error (.oidcTokenValidation detail)

def stableExternalSubject (providerKind : OidcProviderKind) (issuer subject : String)
    (tenantId objectId : Option String) : String :=
  match providerKind, tenantId, objectId with
  | .microsoftEntra, some tenantId, some objectId => tenantId ++ ":" ++ objectId
  | _, _, _ => issuer ++ ":" ++ subject

/-- `str::replace`, with `skip` characters of a match still to pass. -/
def replaceChars (pattern replacement : List Char) : Nat → List Char → List Char
  | _, [] => []
  | skip + 1, _ :: rest => replaceChars pattern replacement skip rest
  | 0, c :: rest =>
      if pattern.isPrefixOf (c :: rest) then
        replacement ++ replaceChars pattern replacement (pattern.length - 1) rest
      else c :: replaceChars pattern replacement 0 rest

def replaceText (s pattern replacement : String) : String :=
  .ofList (replaceChars pattern.toList replacement.toList 0 s.toList)

def issuerPatternMatches (pattern issuer : String) (tenantId : Option String) : Bool :=
  pattern == issuer ||
    match tenantId with
    | none => false
    | some tenantId =>
        replaceText (replaceText pattern "\x7btenantid\x7d" tenantId) "\x7btid\x7d" tenantId ==
          issuer

def unixTimestampToDatetime (timestamp : Int) : AuthResult OffsetDateTime :=
  match OffsetDateTime.fromUnixTimestamp timestamp with
  | some instant => .ok instant
  | none => tokenValidationError "ID token timestamp is outside supported bounds"

def microsoftConsumerTenantId : String := "9188040d-6c67-4c5b-b112-36a304b66dad"

/-- `i64` arithmetic that is checked for overflow. -/
def checkedI64 (value : Int) (detail : String) : AuthResult Int :=
  if -(2 ^ 63) ≤ value ∧ value < 2 ^ 63 then .ok value else tokenValidationError detail

namespace OidcProvider

def issuerAllowed (self : OidcProvider) (issuer : String) (tenantId : Option String)
    (discovery : OidcDiscoveryDocument) : Bool :=
  let allowed := self.config.allowedIssuers
  let allowed :=
    if !discovery.issuer.isEmpty && !allowed.contains discovery.issuer then
      allowed ++ [discovery.issuer]
    else allowed
  allowed.any fun pattern => issuerPatternMatches pattern issuer tenantId

def validateAudiences (self : OidcProvider) (audiences : List String) (azp : Option String) :
    AuthResult Unit :=
  if azp.any (· != self.config.clientId) then
    tokenValidationError "ID token azp does not match client_id"
  else if audiences.length ≤ 1 then .ok ()
  else if azp != some self.config.clientId then
    tokenValidationError "multi-audience ID token is missing matching azp"
  else if audiences.any fun audience => audience != self.config.clientId &&
      !self.config.allowedAdditionalAudiences.contains audience then
    tokenValidationError "ID token contains an untrusted audience"
  else .ok ()

def validateTenant (self : OidcProvider) (tenantId : Option String) : AuthResult Unit :=
  match self.config.providerKind, tenantId with
  | .generic, _ => .ok ()
  | .microsoftEntra, none =>
      tokenValidationError "Microsoft Entra ID token is missing tid"
  | .microsoftEntra, some tid =>
      if !self.config.allowedTenants.isEmpty && !self.config.allowedTenants.contains tid then
        tokenValidationError "Microsoft Entra tenant is not allowed"
      else if tid == microsoftConsumerTenantId && !self.config.allowConsumerAccounts then
        tokenValidationError "Microsoft consumer accounts are not enabled"
      else .ok ()

def validateTimes (self : OidcProvider) (claims : RawOidcIdTokenClaims) (now : OffsetDateTime) :
    AuthResult Unit :=
  match now.checkedAdd self.config.clockSkew with
  | none => tokenValidationError "OIDC clock-skew arithmetic overflowed"
  | some latest =>
      if latest.unixTimestamp < claims.iat then
        tokenValidationError "ID token iat is in the future"
      else if claims.authTime.any (· < 0) then
        tokenValidationError "ID token auth_time must be a non-negative timestamp"
      else if claims.authTime.any (latest.unixTimestamp < ·) then
        tokenValidationError "ID token auth_time is in the future"
      else .ok ()

/-- The checks before the clock is read. -/
def validateIdentity (self : OidcProvider) (claims : RawOidcIdTokenClaims)
    (expectedNonce : String) (discovery : OidcDiscoveryDocument) : AuthResult String :=
  match claims.nonce with
  | none => tokenValidationError "ID token is missing nonce"
  | some nonce =>
      if nonce != expectedNonce then
        tokenValidationError "ID token nonce does not match authorization state"
      else do
        self.validateAudiences claims.aud claims.azp
        if !self.issuerAllowed claims.iss claims.tid discovery then
          tokenValidationError "ID token issuer is not allowed"
        self.validateTenant claims.tid
        pure nonce

/-- `validate_acrs`, where the claim is present. -/
def validateReturnedAcrs : Option (List String) → AuthResult Unit
  | none => .ok ()
  | some acrs => (validateValues "acrs" acrs true).mapError fun
      | .invalidOidcAuthorizationOptions detail =>
          .oidcTokenValidation ("invalid oidc authorization options: " ++ detail)
      | e => e

/-- The claims as they are handed out. -/
def normalizeClaims (self : OidcProvider) (claims : RawOidcIdTokenClaims) (nonce : String) :
    AuthResult ValidatedOidcClaims := do
  let authenticatedAt ← unixTimestampToDatetime (claims.authTime.getD claims.iat)
  let normalizedAssurance ←
    (SessionAssurance.new authenticatedAt (claims.amr.getD []) claims.acr none
      .unsatisfied).mapError fun e => AuthError.oidcTokenValidation e.toString
  validateReturnedAcrs claims.acrs
  let expiresAt ← unixTimestampToDatetime claims.exp
  let notBefore ← claims.nbf.mapM unixTimestampToDatetime
  let issuedAt ← unixTimestampToDatetime claims.iat
  let authTime ← claims.authTime.mapM unixTimestampToDatetime
  pure {
    providerName := self.config.providerName
    issuer := claims.iss
    audiences := claims.aud
    subject := claims.sub
    externalSubject := stableExternalSubject self.config.providerKind claims.iss claims.sub
      claims.tid claims.oid
    expiresAt
    notBefore
    issuedAt
    authTime
    amr := claims.amr.map fun _ => normalizedAssurance.methods
    acr := normalizedAssurance.acr
    acrs := claims.acrs
    nonce
    tenantId := claims.tid
    objectId := claims.oid }

def validateClaims (self : OidcProvider) (claims : RawOidcIdTokenClaims) (expectedNonce : String)
    (discovery : OidcDiscoveryDocument) : OAuthM ValidatedOidcClaims := do
  let nonce ← lift (self.validateIdentity claims expectedNonce discovery)
  let now ← OAuthM.now
  lift (self.validateTimes claims now)
  lift (self.normalizeClaims claims nonce)

def enforceAuthTime (self : OidcProvider) (policy : OidcAuthorizationPolicy)
    (claims : ValidatedOidcClaims) (now : OffsetDateTime) : AuthResult (Option OffsetDateTime) :=
  if policy.maxAgeSeconds.isSome || policy.essentialAuthTime then
    match claims.authTime with
    | none => tokenValidationError "bound authorization requires ID token auth_time"
    | some authTime => do
        let skew := self.config.clockSkew.wholeSeconds
        let latest ← checkedI64 (now.unixTimestamp + skew)
          "bound authorization future-skew arithmetic overflowed"
        if latest < authTime.unixTimestamp then
          tokenValidationError "bound authorization auth_time is in the future"
        match policy.maxAgeSeconds with
        | none => pure ()
        | some maxAge =>
            let maxAge ← checkedI64 maxAge "bound authorization max_age is invalid"
            let recent ← checkedI64 (now.unixTimestamp - maxAge)
              "bound authorization max-age arithmetic overflowed"
            let oldest ← checkedI64 (recent - skew)
              "bound authorization max-age arithmetic overflowed"
            if authTime.unixTimestamp < oldest then
              tokenValidationError "bound authorization auth_time is too old"
        pure (some authTime)
  else .ok none

def enforceAcr (policy : OidcAuthorizationPolicy) (claims : ValidatedOidcClaims) :
    AuthResult (Option String) :=
  if policy.essentialAcrValues.isEmpty then .ok none
  else
    match claims.acr with
    | none => tokenValidationError "bound authorization requires the standard acr claim"
    | some acr =>
        if !policy.essentialAcrValues.contains acr then
          tokenValidationError "bound authorization standard acr did not match"
        else .ok (some acr)

def enforceAcrs (policy : OidcAuthorizationPolicy) (claims : ValidatedOidcClaims) :
    AuthResult (Option String) :=
  match policy.essentialAcrsValue with
  | none => .ok none
  | some required =>
      match claims.acrs with
      | none => tokenValidationError "bound authorization requires the acrs claim"
      | some acrs =>
          if !acrs.contains required then
            tokenValidationError "bound authorization acrs did not match"
          else .ok (some required)

def enforceAuthorizationPolicy (self : OidcProvider) (policy : Option OidcAuthorizationPolicy)
    (claims : ValidatedOidcClaims) (now : OffsetDateTime) : AuthResult OidcAuthorizationOutcome :=
  match policy with
  | none => .ok {}
  | some policy => do
      let enforcedAuthTime ← self.enforceAuthTime policy claims now
      let matchedAcr ← enforceAcr policy claims
      let matchedAcrs ← enforceAcrs policy claims
      pure { policy := some policy, enforcedAuthTime, matchedAcr, matchedAcrs }

def discover (self : OidcProvider) : OAuthM OidcDiscoveryDocument := do
  let poisoned := AuthError.oidcDiscovery "discovery cache lock poisoned"
  let now ← OAuthM.now
  let cache ← expect poisoned (← readDiscoveryCache)
  match cache.filter fun cached => now < cached.expiresAt with
  | some cached => pure cached.document
  | none => do
      let raw ← (getJson self.config.discoveryUrl).orFail
        (.oidcDiscovery "provider discovery request failed")
      let document ← expect (.oidcDiscovery "provider discovery response was invalid")
        (self.lib.readDiscoveryDocument raw)
      let expiresAt ← expect (.oidcDiscovery "discovery cache expiry overflowed")
        (now.checkedAdd self.config.discoveryCacheTtl)
      let _written ← expect poisoned (← writeDiscoveryCache { document, expiresAt })
      pure document

def authorizationParameters (self : OidcProvider) (state nonce : String) (pkce : PkcePair)
    (policy : Option OidcAuthorizationPolicy) : AuthResult (List (String × String)) :=
  let parameters := [
    ("client_id", self.config.clientId),
    ("redirect_uri", self.config.redirectUri),
    ("response_type", "code"),
    ("response_mode", self.config.responseMode.asStr),
    ("scope", " ".intercalate self.config.scopes),
    ("state", state),
    ("nonce", nonce),
    ("code_challenge", pkce.codeChallenge),
    ("code_challenge_method", "S256")]
  match policy with
  | none => .ok parameters
  | some policy => do
      let claims ← policy.claimsParameter self.lib.jsonText
      let added := [
        ("prompt", policy.promptParameter),
        ("max_age", policy.maxAgeSeconds.map toString),
        ("acr_values", policy.acrValuesParameter),
        ("claims", claims)]
      pure (parameters ++ added.filterMap fun (name, value) => value.map (name, ·))

/-- The record stored for one authorization request. -/
def stateRecord (self : OidcProvider) (state nonce : String) (pkce : PkcePair)
    (policy : Option OidcAuthorizationPolicy) (now expiresAt : OffsetDateTime) :
    OAuthLoginState where
  providerName := self.config.providerName
  stateHash := self.lib.hashOAuthState state
  nonce
  codeVerifier := pkce.codeVerifier
  redirectUri := self.config.redirectUri
  scopes := self.config.scopes
  authorizationPolicy := policy
  responseMode := self.config.responseMode
  createdAt := now
  expiresAt
  consumedAt := none

def createAuthorizationRequestInner (self : OidcProvider)
    (policy : Option OidcAuthorizationPolicy) : OAuthM OidcAuthorizationRequest := do
  let discovery ← self.discover
  lift (ensureNoReservedAuthorizationParameters discovery.authorizationEndpoint)
  let state ← generateOAuthState
  let nonce ← generateOidcNonce
  let pkce ← generatePkcePair self.lib
  let now ← OAuthM.now
  let expiresAt ← expect (.invalidConfiguration "OIDC state expiry overflowed")
    (now.checkedAdd self.config.stateTtl)
  insertOAuthState (self.stateRecord state nonce pkce policy now expiresAt)
  let params ← lift (self.authorizationParameters state nonce pkce policy)
  pure {
    authorizationUrl := appendQuery discovery.authorizationEndpoint params
    providerName := self.config.providerName
    state
    nonce
    codeVerifier := pkce.codeVerifier
    codeChallenge := pkce.codeChallenge
    authorizationPolicy := policy
    expiresAt }

def createAuthorizationRequest (self : OidcProvider) : OAuthM OidcAuthorizationRequest :=
  self.createAuthorizationRequestInner none

def createAuthorizationRequestWithOptions (self : OidcProvider)
    (options : OidcAuthorizationOptions) : OAuthM OidcAuthorizationRequest := do
  let policy ← lift (options.validate self.lib.jsonText)
  self.createAuthorizationRequestInner (some policy)

/-- `raw.get("error")`: only an object has members. -/
def hasErrorMember : JsonValue → Bool
  | .object entries => entries.any fun entry => entry.1 == "error"
  | _ => false

def exchangeCode (self : OidcProvider) (code : String) (state : OAuthLoginState) :
    OAuthM OidcTokenResponse := do
  let discovery ← self.discover
  let now ← OAuthM.now
  let authentication ← (clientAuthentication self.config.tokenEndpointAuthMethod
    self.config.clientId self.config.clientSecret self.config.hasClientJwt
    discovery.tokenEndpoint now).orFail
      (.oidcTokenExchange "client authentication could not be prepared")
  let form := exchangeForm code state ++ authentication.form
  let headers :=
    if authentication.headers.isEmpty then [] else authentication.headers ++ [acceptJson]
  let raw ← (postFormJson discovery.tokenEndpoint headers form).orFail
    (.oidcTokenExchange "provider token endpoint request failed")
  if hasErrorMember raw then
    fail (.oidcTokenExchange "provider token endpoint returned an error")
  else do
    let tokenResponse ← expect (.oidcTokenExchange "provider token response was invalid")
      (self.lib.readTokenResponse raw)
    pure { tokenResponse with raw }

def validateIdToken (self : OidcProvider) (idToken expectedNonce : String) :
    OAuthM ValidatedOidcClaims := do
  let discovery ← self.discover
  let claims ← decodeIdToken idToken
  self.validateClaims claims expectedNonce discovery

/-- The checks on a consumed state. -/
def admitState (self : OidcProvider) (state : OAuthLoginState)
    (deliveredMode : OAuthResponseMode) (now : OffsetDateTime) : AuthResult Unit :=
  if state.isConsumed then .error .oauthStateReplayed
  else if state.isExpired now then .error .oauthStateExpired
  else if state.nonce.isEmpty then .error .invalidOAuthState
  else if state.responseMode ≠ deliveredMode then
    .error (.oidcCallback "authorization response mode does not match state")
  else
    match state.authorizationPolicy with
    | none => .ok ()
    | some policy =>
        (policy.validateStored self.lib.jsonText).mapError fun _ =>
          .oidcTokenValidation "stored authorization policy is invalid"

/-- The part after an admitted state. -/
def completeCallback (self : OidcProvider) (code : String) (state : OAuthLoginState) :
    OAuthM OidcCallbackOutcome := do
  let tokenResponse ← self.exchangeCode code state
  let claims ← self.validateIdToken tokenResponse.idToken state.nonce
  let now ← OAuthM.now
  let authorization ←
    lift (self.enforceAuthorizationPolicy state.authorizationPolicy claims now)
  pure { state, tokenResponse, claims, authorization }

def handleCallbackInMode (self : OidcProvider) (input : OidcCallbackInput)
    (deliveredMode : OAuthResponseMode) : OAuthM OidcCallbackOutcome :=
  if deliveredMode ≠ self.config.responseMode then
    fail (.oidcCallback "authorization response was delivered in an unexpected response mode")
  else if input.error.isSome then
    fail (.oidcCallback "provider returned an authorization error")
  else do
    let code ← expect (.oidcCallback "authorization callback is missing code") input.code
    let rawState ← expect .invalidOAuthState input.state
    let now ← OAuthM.now
    let consumed ← consumeOAuthState self.config.providerName
      (self.lib.hashOAuthState rawState) now
    let state ← expect .invalidOAuthState consumed
    lift (self.admitState state deliveredMode now)
    self.completeCallback code state

def handleCallback (self : OidcProvider) (input : OidcCallbackInput) :
    OAuthM OidcCallbackOutcome :=
  self.handleCallbackInMode input .query

end OidcProvider

end AgqlAuth
