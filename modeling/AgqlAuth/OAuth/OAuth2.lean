import AgqlAuth.OAuth.OAuth2Config

/-!
# The OAuth 2.0 provider

Authorization requests, the code exchange, the profile and callbacks of
`OAuth2Provider`, which shares the state store with the OpenID providers.
-/

namespace AgqlAuth

open Interaction OAuthM

structure OAuth2Provider where
  config : OAuth2ProviderConfig
  lib : OAuthLibrary

structure OAuth2AuthorizationRequest where
  authorizationUrl : String
  providerName : String
  state : String
  codeVerifier : String
  codeChallenge : String
  expiresAt : OffsetDateTime

structure OAuth2CallbackOutcome where
  state : OAuthLoginState
  tokenResponse : OAuth2TokenResponse
  profile : OAuth2UserProfile

def tokenExchangeError {α : Type} (detail : String) : AuthResult α :=
  .error (.oauthTokenExchange detail)

/-- `object.get(name)`. -/
def member (entries : List (String × JsonValue)) (name : String) : Option JsonValue :=
  (entries.find? fun entry => entry.1 == name).map Prod.snd

/-- A string member that passes `accepted`. -/
def acceptedString (entries : List (String × JsonValue)) (name detail : String)
    (accepted : String → Bool) : AuthResult String :=
  match member entries name with
  | some (.string value) => if accepted value then .ok value else tokenExchangeError detail
  | _ => tokenExchangeError detail

def optionalString (entries : List (String × JsonValue)) (name : String) :
    AuthResult (Option String) :=
  match member entries name with
  | none => .ok none
  | some .null => .ok none
  | some (.string value) => .ok (some value)
  | some _ => tokenExchangeError ("provider token response " ++ name ++ " has an invalid type")

def optionalExpiresIn (entries : List (String × JsonValue)) : AuthResult (Option Int) :=
  match member entries "expires_in" with
  | none => .ok none
  | some .null => .ok none
  | some value =>
      match Json.i64.read value with
      | some seconds => .ok (some seconds)
      | none => tokenExchangeError "provider token response expires_in has an invalid type"

def readOAuth2TokenResponse (raw : JsonValue) : AuthResult OAuth2TokenResponse :=
  match raw with
  | .object entries =>
      if (member entries "error").isSome then
        tokenExchangeError "provider token endpoint returned an error"
      else do
        let accessToken ← acceptedString entries "access_token"
          "provider token response is missing access_token" fun token => !token.isEmpty
        let tokenType ← acceptedString entries "token_type"
          "provider token response is not a bearer token" fun tokenType =>
            toAsciiLowercase tokenType == "bearer"
        let refreshToken ← optionalString entries "refresh_token"
        let scope ← optionalString entries "scope"
        let expiresIn ← optionalExpiresIn entries
        pure { accessToken, tokenType, refreshToken, expiresIn, scope, raw }
  | _ => tokenExchangeError "provider token response was not an object"

/-- A JSON boolean or the exact strings `"true"` and `"false"`. -/
def parseEmailVerified : JsonValue → Option Bool
  | .bool verified => some verified
  | .string verified =>
      if verified = "true" then some true else if verified = "false" then some false else none
  | _ => none

def pointerString (raw : JsonValue) (pointer : String) : Option String :=
  match raw.pointer pointer with
  | some (.string value) => if value.isEmpty then none else some value
  | _ => none

def profileSubject (raw : JsonValue) (pointer : String) : AuthResult String :=
  let subject := match raw.pointer pointer with
    | some (.string value) => some value
    | some (.number (.posInt n)) => some (toString n)
    | some (.number (.negInt n)) => some (toString n)
    | _ => none
  match subject with
  | none => .error .oauthMissingSubject
  | some subject =>
      if subject.isEmpty || (utf8Bytes subject).length > maxOAuth2SubjectLength ||
          subject.toList.any isControl then .error .oauthMissingSubject
      else .ok subject

namespace OAuth2VerifiedEmailList

/-- `is_true`. -/
def isTrue (entry : JsonValue) (pointer : String) : Bool :=
  (entry.pointer pointer).bind parseEmailVerified == some true

def isVerified (self : OAuth2VerifiedEmailList) (entry : JsonValue) : Bool :=
  isTrue entry self.verifiedPointer

def selects (self : OAuth2VerifiedEmailList) (entry : JsonValue) : Bool :=
  match self.selection with
  | .primaryVerified => self.primaryPointer.any (isTrue entry)
  | .firstVerified => true

def address (self : OAuth2VerifiedEmailList) (entry : JsonValue) : Option String :=
  pointerString entry self.emailPointer

def selected (self : OAuth2VerifiedEmailList) (entries : List JsonValue) : Option String :=
  ((entries.filter self.isVerified).filter self.selects).findSome? self.address

/-- The array of a response. -/
def entries (self : OAuth2VerifiedEmailList) (raw : JsonValue) : Option (List JsonValue) :=
  let target := match self.entriesPointer with
    | some pointer => raw.pointer pointer
    | none => some raw
  match target with
  | some (.array values) => some values
  | _ => none

/-- The part of `select_verified_email` after the response. -/
def select (self : OAuth2VerifiedEmailList) (raw : JsonValue) : AuthResult (Option String) :=
  match self.entries raw with
  | none => .error (.oauthUserInfo "provider email list response was not an array")
  | some entries =>
      if entries.length > maxOAuth2VerifiedEmailEntries then
        .error (.oauthUserInfo "provider email list response has too many entries")
      else .ok (self.selected entries)

end OAuth2VerifiedEmailList

namespace OAuth2ProfileMapping

def email (self : OAuth2ProfileMapping) (raw : JsonValue) : Option String :=
  self.emailPointer.bind (pointerString raw)

/-- What the userinfo response says of its own email. -/
def emailVerified (self : OAuth2ProfileMapping) (raw : JsonValue) : Option Bool :=
  if (self.email raw).isNone then none
  else
    match self.emailVerification with
    | .unknown => none
    | .pointer pointer => (raw.pointer pointer).bind parseEmailVerified
    | .providerVerifiesAll => (self.email raw).map fun _ => true

end OAuth2ProfileMapping

def JsonValue.isObject : JsonValue → Bool
  | .object _ => true
  | _ => false

namespace OAuth2Provider

def bearerGet (_self : OAuth2Provider) (url accessToken : String) : OAuthM JsonValue :=
  (getJsonWithHeaders url [("Authorization", "Bearer " ++ accessToken), acceptJson]).orFail
    (.oauthUserInfo "provider profile request failed")

def selectVerifiedEmail (self : OAuth2Provider) (list : OAuth2VerifiedEmailList)
    (accessToken : String) : OAuthM (Option String) := do
  let raw ← self.bearerGet list.endpoint accessToken
  lift (list.select raw)

/-- The email list is asked only where the userinfo response verified no email. -/
def listedEmail (self : OAuth2Provider) (emailVerified : Option Bool) (accessToken : String) :
    OAuthM (Option String) :=
  if emailVerified = some true then pure none
  else
    match self.config.verifiedEmailList with
    | none => pure none
    | some list => self.selectVerifiedEmail list accessToken

def fetchProfile (self : OAuth2Provider) (accessToken : String) : OAuthM OAuth2UserProfile := do
  let mapping := self.config.profile
  let raw ← self.bearerGet self.config.userinfoEndpoint accessToken
  if !raw.isObject then fail (.oauthUserInfo "provider userinfo response was not an object")
  else do
    let subject ← lift (profileSubject raw mapping.subjectPointer)
    let selected ← self.listedEmail (mapping.emailVerified raw) accessToken
    let (email, emailVerified) := match selected with
      | some selected => (some selected, some true)
      | none => (mapping.email raw, mapping.emailVerified raw)
    pure {
      providerName := self.config.providerName
      subject
      email
      emailVerified
      name := mapping.namePointer.bind (pointerString raw)
      picture := mapping.picturePointer.bind (pointerString raw)
      raw }

end OAuth2Provider

namespace OAuth2Provider

/-- The record stored for one authorization request. -/
def stateRecord (self : OAuth2Provider) (state : String) (pkce : PkcePair)
    (now expiresAt : OffsetDateTime) : OAuthLoginState where
  providerName := self.config.providerName
  stateHash := self.lib.hashOAuthState state
  nonce := ""
  codeVerifier := pkce.codeVerifier
  redirectUri := self.config.redirectUri
  scopes := self.config.scopes
  authorizationPolicy := none
  responseMode := .query
  createdAt := now
  expiresAt
  consumedAt := none

def authorizationParameters (self : OAuth2Provider) (state : String) (pkce : PkcePair) :
    List (String × String) :=
  [("client_id", self.config.clientId), ("redirect_uri", self.config.redirectUri),
    ("response_type", "code")] ++
  (if self.config.scopes.isEmpty then [] else [("scope", " ".intercalate self.config.scopes)]) ++
  [("state", state), ("code_challenge", pkce.codeChallenge), ("code_challenge_method", "S256")]

def createAuthorizationRequest (self : OAuth2Provider) : OAuthM OAuth2AuthorizationRequest := do
  let state ← generateOAuthState
  let pkce ← generatePkcePair self.lib
  let now ← OAuthM.now
  let expiresAt ← expect (.invalidConfiguration "OAuth 2.0 state expiry overflowed")
    (now.checkedAdd self.config.stateTtl)
  insertOAuthState (self.stateRecord state pkce now expiresAt)
  pure {
    authorizationUrl := appendQuery self.config.authorizationEndpoint
      (self.authorizationParameters state pkce)
    providerName := self.config.providerName
    state
    codeVerifier := pkce.codeVerifier
    codeChallenge := pkce.codeChallenge
    expiresAt }

def exchangeCode (self : OAuth2Provider) (code : String) (state : OAuthLoginState) :
    OAuthM OAuth2TokenResponse := do
  let now ← OAuthM.now
  let authentication ← (clientAuthentication self.config.tokenEndpointAuthMethod
    self.config.clientId self.config.clientSecret self.config.hasClientJwt
    self.config.tokenEndpoint now).orFail
      (.oauthTokenExchange "client authentication could not be prepared")
  let form := exchangeForm code state ++ authentication.form
  let raw ← (postFormJson self.config.tokenEndpoint (authentication.headers ++ [acceptJson])
    form).orFail (.oauthTokenExchange "provider token endpoint request failed")
  lift (readOAuth2TokenResponse raw)

/-- The checks on a consumed state. -/
def admitState (_self : OAuth2Provider) (state : OAuthLoginState) (now : OffsetDateTime) :
    AuthResult Unit :=
  if state.isConsumed then .error .oauthStateReplayed
  else if state.isExpired now then .error .oauthStateExpired
  else if !state.nonce.isEmpty || state.authorizationPolicy.isSome ||
      state.responseMode ≠ .query then .error .invalidOAuthState
  else .ok ()

/-- The part after an admitted state. -/
def completeCallback (self : OAuth2Provider) (code : String) (state : OAuthLoginState) :
    OAuthM OAuth2CallbackOutcome := do
  let tokenResponse ← self.exchangeCode code state
  let profile ← self.fetchProfile tokenResponse.accessToken
  pure { state, tokenResponse, profile }

def handleCallback (self : OAuth2Provider) (input : OidcCallbackInput) :
    OAuthM OAuth2CallbackOutcome :=
  if input.error.isSome then fail .oauthProviderError
  else do
    let code ← expect (.oauthCallback "authorization callback is missing code")
      (input.code.filter fun code => !code.isEmpty)
    let rawState ← expect .invalidOAuthState (input.state.filter fun state => !state.isEmpty)
    let now ← OAuthM.now
    let consumed ← consumeOAuthState self.config.providerName
      (self.lib.hashOAuthState rawState) now
    let state ← expect .invalidOAuthState consumed
    lift (self.admitState state now)
    self.completeCallback code state

end OAuth2Provider

end AgqlAuth
