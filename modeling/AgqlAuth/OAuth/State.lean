import AgqlAuth.Base.Encoding
import AgqlAuth.Interaction.Program
import AgqlAuth.OAuth.Policy

/-!
# Authorization state and the effects of a provider

The record that ties a callback to its authorization request, and everything a
provider reaches: its clock, random bytes, its caches, the HTTP client, the JWT
library and the state store.
-/

namespace AgqlAuth

open Interaction

inductive OAuthResponseMode where
  | query
  | formPost
  deriving DecidableEq

def OAuthResponseMode.asStr : OAuthResponseMode → String
  | query => "query"
  | formPost => "form_post"

/-- Stored authorization state; a plain OAuth 2.0 request has an empty nonce. -/
structure OAuthLoginState where
  providerName : String
  stateHash : String
  nonce : String
  codeVerifier : String
  redirectUri : String
  scopes : List String
  authorizationPolicy : Option OidcAuthorizationPolicy
  responseMode : OAuthResponseMode
  createdAt : OffsetDateTime
  expiresAt : OffsetDateTime
  consumedAt : Option OffsetDateTime
  deriving DecidableEq

namespace OAuthLoginState

def isExpired (self : OAuthLoginState) (now : OffsetDateTime) : Bool := self.expiresAt ≤ now

def isConsumed (self : OAuthLoginState) : Bool := self.consumedAt.isSome

end OAuthLoginState

structure OidcCallbackInput where
  code : Option String := none
  state : Option String := none
  error : Option String := none
  errorDescription : Option String := none

structure OidcDiscoveryDocument where
  issuer : String
  authorizationEndpoint : String
  tokenEndpoint : String
  jwksUri : String

structure CachedDiscovery where
  document : OidcDiscoveryDocument
  expiresAt : OffsetDateTime

structure OidcTokenResponse where
  accessToken : Option String
  refreshToken : Option String
  idToken : String
  tokenType : Option String
  expiresIn : Option Int
  scope : Option String
  raw : JsonValue

/-- The claims of an ID token as the JWT library hands them over. -/
structure RawOidcIdTokenClaims where
  iss : String
  /-- One audience or several. -/
  aud : List String
  sub : String
  exp : Int
  nbf : Option Int
  iat : Int
  authTime : Option Int
  amr : Option (List String)
  acr : Option String
  acrs : Option (List String)
  nonce : Option String
  azp : Option String
  tid : Option String
  oid : Option String

structure OAuth2TokenResponse where
  accessToken : String
  tokenType : String
  refreshToken : Option String
  expiresIn : Option Int
  scope : Option String
  raw : JsonValue

structure OAuth2UserProfile where
  providerName : String
  subject : String
  email : Option String
  emailVerified : Option Bool
  name : Option String
  picture : Option String
  raw : JsonValue

/-- The library functions of the providers. -/
structure OAuthLibrary where
  sha256 : String → List UInt8
  jsonText : JsonValue → String
  /-- The derived deserializers of the provider's answers. -/
  readDiscoveryDocument : JsonValue → Option OidcDiscoveryDocument
  readTokenResponse : JsonValue → Option OidcTokenResponse

namespace OAuthLibrary

def hashOAuthState (lib : OAuthLibrary) (state : String) : String :=
  .ofList ((lib.sha256 state).flatMap fun byte =>
    [Nat.digitChar (byte.toNat / 16), Nat.digitChar (byte.toNat % 16)])

def pkceS256Challenge (lib : OAuthLibrary) (codeVerifier : String) : String :=
  base64UrlSafeNoPad (lib.sha256 codeVerifier)

end OAuthLibrary

inductive OAuthOp where
  /-- The clock of the provider. -/
  | now
  | fillBytes (length : Nat)
  /-- What the discovery cache holds, if its lock is not poisoned. -/
  | readDiscoveryCache
  | writeDiscoveryCache (cached : CachedDiscovery)
  | getJson (url : String)
  | getJsonWithHeaders (url : String) (headers : List (String × String))
  | postFormJson (url : String) (headers form : List (String × String))
  | signClientJwt (now : OffsetDateTime) (defaultAudience : String) (includeJti : Bool)
  /-- The header, key, signature and time checks of an ID token, with the key requests. -/
  | decodeIdToken (idToken : String)
  | insertOAuthState (state : OAuthLoginState)
  | consumeOAuthState (providerName stateHash : String) (consumedAt : OffsetDateTime)

def OAuthOp.Resp : OAuthOp → Type
  | .now => OffsetDateTime
  | .fillBytes length => Vector UInt8 length
  | .readDiscoveryCache => Option (Option CachedDiscovery)
  | .writeDiscoveryCache _ => Option Unit
  | .getJson _ => AuthResult JsonValue
  | .getJsonWithHeaders .. => AuthResult JsonValue
  | .postFormJson .. => AuthResult JsonValue
  | .signClientJwt .. => AuthResult String
  | .decodeIdToken _ => AuthResult RawOidcIdTokenClaims
  | .insertOAuthState _ => AuthResult Unit
  | .consumeOAuthState .. => AuthResult (Option OAuthLoginState)

abbrev oauthSignature : Signature := ⟨OAuthOp, OAuthOp.Resp⟩

abbrev OAuthEvent := Event oauthSignature

abbrev OAuthHistory := History oauthSignature

abbrev OAuthM (α : Type) := Fallible oauthSignature AuthError α

namespace OAuthM

open Program

def fail {α : Type} (e : AuthError) : OAuthM α := Fallible.fail e

def lift {α : Type} (result : AuthResult α) : OAuthM α := ret result

/-- `ok_or`. -/
def expect {α : Type} (e : AuthError) : Option α → OAuthM α
  | none => fail e
  | some value => pure value

/-- `map_err` that drops the error. -/
def orFail {α : Type} (p : OAuthM α) (e : AuthError) : OAuthM α :=
  Program.bind p fun result => ret (result.mapError fun _ => e)

def now : OAuthM OffsetDateTime := Fallible.perform (S := oauthSignature) OAuthOp.now

def fillBytes (length : Nat) : OAuthM (Vector UInt8 length) :=
  Fallible.perform (S := oauthSignature) (.fillBytes length)

def readDiscoveryCache : OAuthM (Option (Option CachedDiscovery)) :=
  Fallible.perform (S := oauthSignature) OAuthOp.readDiscoveryCache

def writeDiscoveryCache (cached : CachedDiscovery) : OAuthM (Option Unit) :=
  Fallible.perform (S := oauthSignature) (.writeDiscoveryCache cached)

def getJson (url : String) : OAuthM JsonValue := call (S := oauthSignature) (.getJson url) ret

def getJsonWithHeaders (url : String) (headers : List (String × String)) : OAuthM JsonValue :=
  call (S := oauthSignature) (.getJsonWithHeaders url headers) ret

def postFormJson (url : String) (headers form : List (String × String)) : OAuthM JsonValue :=
  call (S := oauthSignature) (.postFormJson url headers form) ret

def signClientJwt (now : OffsetDateTime) (defaultAudience : String) (includeJti : Bool) :
    OAuthM String :=
  call (S := oauthSignature) (.signClientJwt now defaultAudience includeJti) ret

def decodeIdToken (idToken : String) : OAuthM RawOidcIdTokenClaims :=
  call (S := oauthSignature) (.decodeIdToken idToken) ret

def insertOAuthState (state : OAuthLoginState) : OAuthM Unit :=
  call (S := oauthSignature) (.insertOAuthState state) ret

def consumeOAuthState (providerName stateHash : String) (consumedAt : OffsetDateTime) :
    OAuthM (Option OAuthLoginState) :=
  call (S := oauthSignature) (.consumeOAuthState providerName stateHash consumedAt) ret

end OAuthM

def generateUrlsafeSecret : OAuthM String := do
  let bytes ← OAuthM.fillBytes 48
  pure (base64UrlSafeNoPad bytes.toList)

def generateOAuthState : OAuthM String := generateUrlsafeSecret

def generateOidcNonce : OAuthM String := generateUrlsafeSecret

structure PkcePair where
  codeVerifier : String
  codeChallenge : String

def generatePkcePair (lib : OAuthLibrary) : OAuthM PkcePair := do
  let bytes ← OAuthM.fillBytes 32
  let codeVerifier := base64UrlSafeNoPad bytes.toList
  pure { codeVerifier, codeChallenge := lib.pkceS256Challenge codeVerifier }

def reservedAuthorizationParameters : List String :=
  ["client_id", "redirect_uri", "response_type", "response_mode", "scope", "state", "nonce",
    "code_challenge", "code_challenge_method", "prompt", "max_age", "acr_values", "claims"]

/-- `str::split_once`. -/
def splitOnce (s : String) (separator : Char) : Option (String × String) :=
  let (before, after) := s.toList.span (· != separator)
  match after with
  | [] => none
  | _ :: after => some (.ofList before, .ofList after)

/--
The reserved names are ASCII, so the lossily decoded key is one of them exactly
when its bytes are.
-/
def ensureNoReservedAuthorizationParameters (endpoint : String) : AuthResult Unit :=
  match splitOnce endpoint '?' with
  | none => .ok ()
  | some (_, remainder) =>
      let query := (splitAtChar remainder '#').headD ""
      if (splitAtChar query '&').any fun pair =>
          let encodedKey := ((splitOnce pair '=').map Prod.fst).getD pair
          reservedAuthorizationParameters.any fun name =>
            utf8Bytes name == percentDecodeBytes (utf8Bytes encodedKey) then
        .error (.invalidOidcAuthorizationOptions
          "authorization endpoint contains a reserved query parameter")
      else .ok ()

/-- The bytes outside `QUERY_ENCODE_SET`. -/
def queryKept (byte : UInt8) : Bool :=
  asciiAlphanumeric byte || byte == 0x2D || byte == 0x2E || byte == 0x5F || byte == 0x7E

def appendQuery (baseUrl : String) (params : List (String × String)) : String :=
  let separator := if '?' ∈ baseUrl.toList then "&" else "?"
  let query := "&".intercalate (params.map fun (key, value) =>
    percentEncode queryKept key ++ "=" ++ percentEncode queryKept value)
  baseUrl ++ separator ++ query

inductive TokenEndpointAuthMethod where
  | clientSecretPost
  | clientSecretBasic
  | privateKeyJwt
  deriving DecidableEq

structure ClientAuthentication where
  headers : List (String × String) := []
  form : List (String × String) := []

def validateClientAuthentication (prefix_ : String) (method : TokenEndpointAuthMethod)
    (clientSecret : Option String) (hasClientJwt : Bool) : AuthResult Unit :=
  if clientSecret.isSome && hasClientJwt then
    .error (.invalidConfiguration
      (prefix_ ++ " must not configure both client_secret and client_jwt"))
  else
    match method with
    | .clientSecretPost => .ok ()
    | .clientSecretBasic =>
        if clientSecret.isNone && !hasClientJwt then
          .error (.invalidConfiguration
            (prefix_ ++ " client_secret_basic requires client_secret or client_jwt"))
        else .ok ()
    | .privateKeyJwt =>
        if !hasClientJwt then
          .error (.invalidConfiguration (prefix_ ++ " private_key_jwt requires client_jwt"))
        else .ok ()

/-- The bytes outside `FORM_COMPONENT_ENCODE_SET`. -/
def formComponentKept (byte : UInt8) : Bool := queryKept byte

def clientAssertionTypeJwtBearer : String :=
  "urn:ietf:params:oauth:client-assertion-type:jwt-bearer"

/-- The static secret, or a secret signed for this request. -/
def requestSecret (clientSecret : Option String) (hasClientJwt : Bool) (tokenEndpoint : String)
    (now : OffsetDateTime) : OAuthM (Option String) :=
  match clientSecret, hasClientJwt with
  | some secret, _ => pure (some secret)
  | none, true => do
      let signed ← OAuthM.signClientJwt now tokenEndpoint false
      pure (some signed)
  | none, false => pure none

def clientAuthentication (method : TokenEndpointAuthMethod) (clientId : String)
    (clientSecret : Option String) (hasClientJwt : Bool) (tokenEndpoint : String)
    (now : OffsetDateTime) : OAuthM ClientAuthentication :=
  match method with
  | .clientSecretPost => do
      let secret ← requestSecret clientSecret hasClientJwt tokenEndpoint now
      pure { form := ("client_id", clientId) ::
        match secret with
        | some secret => [("client_secret", secret)]
        | none => [] }
  | .clientSecretBasic => do
      match ← requestSecret clientSecret hasClientJwt tokenEndpoint now with
      | none =>
          OAuthM.fail (.invalidConfiguration "client_secret_basic requires a client secret")
      | some secret =>
          let credentials := percentEncode formComponentKept clientId ++ ":" ++
            percentEncode formComponentKept secret
          pure { headers :=
            [("Authorization", "Basic " ++ base64Standard (utf8Bytes credentials))] }
  | .privateKeyJwt =>
      if !hasClientJwt then
        OAuthM.fail (.invalidConfiguration "private_key_jwt requires client_jwt")
      else do
        let assertion ← OAuthM.signClientJwt now tokenEndpoint true
        pure { form := [("client_id", clientId),
          ("client_assertion_type", clientAssertionTypeJwtBearer),
          ("client_assertion", assertion)] }

def acceptJson : String × String := ("Accept", "application/json")

/-- The form fields that come from the consumed state. -/
def exchangeForm (code : String) (state : OAuthLoginState) : List (String × String) :=
  [("grant_type", "authorization_code"), ("code", code), ("redirect_uri", state.redirectUri),
    ("code_verifier", state.codeVerifier)]

end AgqlAuth
