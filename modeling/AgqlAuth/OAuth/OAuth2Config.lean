import AgqlAuth.Json.Paths
import AgqlAuth.OAuth.Endpoint
import AgqlAuth.OAuth.State

/-!
# Configuration of an OAuth 2.0 provider

The endpoints, the profile pointers and the verified-email list of a provider
without OpenID Connect, and what its validation accepts.
-/

namespace AgqlAuth

/-- Longest accepted provider subject, in bytes. -/
def maxOAuth2SubjectLength : Nat := 255

/-- Most entries inspected in a verified-email list response. -/
def maxOAuth2VerifiedEmailEntries : Nat := 100

inductive OAuth2EmailVerification where
  | unknown
  /-- A flag at this JSON pointer of the userinfo response. -/
  | pointer (pointer : String)
  | providerVerifiesAll

structure OAuth2ProfileMapping where
  subjectPointer : String := "/sub"
  emailPointer : Option String := some "/email"
  emailVerification : OAuth2EmailVerification := .pointer "/email_verified"
  namePointer : Option String := some "/name"
  picturePointer : Option String := some "/picture"

inductive OAuth2VerifiedEmailSelection where
  | primaryVerified
  | firstVerified
  deriving DecidableEq

structure OAuth2VerifiedEmailList where
  endpoint : String
  entriesPointer : Option String
  emailPointer : String
  verifiedPointer : String
  primaryPointer : Option String
  selection : OAuth2VerifiedEmailSelection

/-- A top-level array of entries, of which the primary verified one is selected. -/
def OAuth2VerifiedEmailList.primaryVerified (endpoint : String) : OAuth2VerifiedEmailList where
  endpoint
  entriesPointer := none
  emailPointer := "/email"
  verifiedPointer := "/verified"
  primaryPointer := some "/primary"
  selection := .primaryVerified

structure OAuth2ProviderConfig where
  providerName : String
  authorizationEndpoint : String
  tokenEndpoint : String
  userinfoEndpoint : String
  clientId : String
  clientSecret : Option String := none
  hasClientJwt : Bool := false
  tokenEndpointAuthMethod : TokenEndpointAuthMethod := .clientSecretPost
  redirectUri : String
  scopes : List String := []
  stateTtl : Duration := .minutes 10
  profile : OAuth2ProfileMapping := {}
  verifiedEmailList : Option OAuth2VerifiedEmailList := none

def invalidOAuth2Configuration {α : Type} (detail : String) : AuthResult α :=
  .error (.invalidConfiguration ("OAuth 2.0 " ++ detail))

def validatePointer (name pointer : String) : AuthResult Unit :=
  if (utf8Bytes pointer).length < 2 || pointer.toList.head? ≠ some '/' then
    invalidOAuth2Configuration (name ++ " must be a non-root JSON pointer")
  else .ok ()

/-- A pointer that may be left out. -/
def validateOptionalPointer (name : String) : Option String → AuthResult Unit
  | none => .ok ()
  | some pointer => validatePointer name pointer

namespace OAuth2VerifiedEmailList

def validate (self : OAuth2VerifiedEmailList) : AuthResult Unit := do
  validateEndpoint "verified_email_list.endpoint" self.endpoint
  validateOptionalPointer "verified_email_list.entries_pointer" self.entriesPointer
  validatePointer "verified_email_list.email_pointer" self.emailPointer
  validatePointer "verified_email_list.verified_pointer" self.verifiedPointer
  match self.primaryPointer, self.selection with
  | some pointer, _ => validatePointer "verified_email_list.primary_pointer" pointer
  | none, .primaryVerified =>
      invalidOAuth2Configuration "primary-verified email selection requires primary_pointer"
  | none, .firstVerified => .ok ()

end OAuth2VerifiedEmailList

namespace OAuth2ProviderConfig

def validateProfile (profile : OAuth2ProfileMapping) : AuthResult Unit := do
  validatePointer "subject_pointer" profile.subjectPointer
  validateOptionalPointer "email_pointer" profile.emailPointer
  validateOptionalPointer "name_pointer" profile.namePointer
  validateOptionalPointer "picture_pointer" profile.picturePointer
  match profile.emailVerification with
  | .pointer pointer => validatePointer "email_verification" pointer
  | _ => .ok ()

def validateRequired (name value : String) : AuthResult Unit :=
  if (trim value).isEmpty then invalidOAuth2Configuration (name ++ " must not be empty")
  else .ok ()

def validate (self : OAuth2ProviderConfig) : AuthResult Unit := do
  validateRequired "provider_name" self.providerName
  validateRequired "client_id" self.clientId
  validateRequired "redirect_uri" self.redirectUri
  validateEndpoint "authorization_endpoint" self.authorizationEndpoint
  validateEndpoint "token_endpoint" self.tokenEndpoint
  validateEndpoint "userinfo_endpoint" self.userinfoEndpoint
  (ensureNoReservedAuthorizationParameters self.authorizationEndpoint).mapError fun _ =>
    .invalidConfiguration
      "OAuth 2.0 authorization_endpoint contains a reserved query parameter"
  if self.clientSecret.any (·.isEmpty) then
    invalidOAuth2Configuration "client_secret must not be empty when set"
  else do
    validateClientAuthentication "OAuth 2.0" self.tokenEndpointAuthMethod self.clientSecret
      self.hasClientJwt
    if self.scopes.any fun scope =>
        scope.isEmpty || scope.toList.any fun c => isWhitespace c || isControl c then
      invalidOAuth2Configuration "scopes must be non-empty tokens without whitespace"
    else if self.stateTtl ≤ Duration.zero then
      invalidOAuth2Configuration "state_ttl must be greater than zero"
    else do
      validateProfile self.profile
      match self.verifiedEmailList with
      | none => .ok ()
      | some list => list.validate

end OAuth2ProviderConfig

end AgqlAuth
