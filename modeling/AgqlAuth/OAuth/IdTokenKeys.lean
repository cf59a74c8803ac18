import AgqlAuth.Interaction.Refine
import AgqlAuth.Interaction.Sum
import AgqlAuth.OAuth.Oidc
import AgqlAuth.Token.Spelled

/-!
# The keys of ID tokens

How `OidcProvider` finds the key that opens an ID token: the key set it caches,
the refresh that an unknown key id may force, and the checks on the key.  The
decoding of an ID token, one operation of the provider so far, is carried out
here.
-/

namespace AgqlAuth

open Interaction

inductive PublicKeyUse where
  | signature
  | encryption
  | other (name : String)
  deriving DecidableEq

inductive KeyOperations where
  | sign | verify
  | encrypt | decrypt
  | wrapKey | unwrapKey
  | deriveKey | deriveBits
  | other (name : String)
  deriving DecidableEq

/-- A key of the provider, with what it is meant for. -/
structure ProviderJwk (DecodingKey : Type) extends Jwk DecodingKey where
  publicKeyUse : Option PublicKeyUse
  keyOperations : Option (List KeyOperations)
  /-- The key algorithm by its name. -/
  keyAlgorithm : Option String

structure CachedJwks (DecodingKey : Type) where
  jwks : List (ProviderJwk DecodingKey)
  expiresAt : OffsetDateTime

inductive KeyOp (DecodingKey : Type) where
  /-- The time of the JWT library, in seconds. -/
  | systemTime
  | readJwksCache
  | writeJwksCache (cached : CachedJwks DecodingKey)
  /-- The section under the lock of the last forced refresh. -/
  | lockForcedRefresh (cooldown : Duration) (now : OffsetDateTime)

def KeyOp.Resp {DecodingKey : Type} : KeyOp DecodingKey → Type
  | .systemTime => Int
  | .readJwksCache => Option (Option (CachedJwks DecodingKey))
  | .writeJwksCache _ => Option Unit
  | .lockForcedRefresh .. => AuthResult Bool

abbrev keySignature (DecodingKey : Type) : Signature := ⟨KeyOp DecodingKey, KeyOp.Resp⟩

/-- What a provider reaches, the state of its keys included. -/
abbrev idTokenSignature (DecodingKey : Type) : Signature :=
  oauthSignature.sum (keySignature DecodingKey)

abbrev IdTokenM (DecodingKey α : Type) := Fallible (idTokenSignature DecodingKey) AuthError α

namespace IdTokenM

open Program

variable {DecodingKey α : Type}

def fail (e : AuthError) : IdTokenM DecodingKey α := Fallible.fail e

def lift (result : AuthResult α) : IdTokenM DecodingKey α := ret result

def expect (e : AuthError) : Option α → IdTokenM DecodingKey α
  | none => fail e
  | some value => pure value

/-- A part that leaves the keys alone. -/
def provider (p : OAuthM α) : IdTokenM DecodingKey α := Fallible.widen id p

def now : IdTokenM DecodingKey OffsetDateTime := provider OAuthM.now

def systemTime : IdTokenM DecodingKey Int :=
  Fallible.perform (S := idTokenSignature DecodingKey) (.inr .systemTime)

def readJwksCache : IdTokenM DecodingKey (Option (Option (CachedJwks DecodingKey))) :=
  Fallible.perform (S := idTokenSignature DecodingKey) (.inr .readJwksCache)

def writeJwksCache (cached : CachedJwks DecodingKey) : IdTokenM DecodingKey (Option Unit) :=
  Fallible.perform (S := idTokenSignature DecodingKey) (.inr (.writeJwksCache cached))

def lockForcedRefresh (cooldown : Duration) (now : OffsetDateTime) : IdTokenM DecodingKey Bool :=
  call (S := idTokenSignature DecodingKey) (.inr (.lockForcedRefresh cooldown now)) ret

end IdTokenM

section Jwk

variable {DecodingKey : Type}

/-- `JwkSet::find`. -/
def findJwk (jwks : List (ProviderJwk DecodingKey)) (kid : String) :
    Option (ProviderJwk DecodingKey) :=
  jwks.find? fun jwk => jwk.keyId == some kid

def validateJwkForHeader (jwk : ProviderJwk DecodingKey) (alg : JwtAlgorithm) : AuthResult Unit :=
  if jwk.publicKeyUse.any (· != .signature) then
    tokenValidationError "JWK is not marked for signature verification"
  else if jwk.keyOperations.any fun operations => !operations.contains .verify then
    tokenValidationError "JWK is not marked for verify operations"
  else if jwk.keyAlgorithm.any (· != alg.name) then
    tokenValidationError "JWK alg does not match ID token header alg"
  else .ok ()

end Jwk

/-- A provider with the settings of its keys. -/
structure OidcKeys (lib : JwtLibrary) where
  provider : OidcProvider
  jwksCacheTtl : Duration := .hours 1
  jwksForcedRefreshCooldown : Duration := .seconds 60
  allowedIdTokenAlgs : List String := ["RS256"]
  /-- The derived deserializers of a key set and of the claims. -/
  readJwkSet : JsonValue → Option (List (ProviderJwk lib.DecodingKey))
  readIdTokenClaims : JsonValue → Option RawOidcIdTokenClaims

/-- What the section under the lock answers when `last` was the last forced refresh. -/
def forcedRefreshAllowed (cooldown : Duration) (now : OffsetDateTime) :
    Option OffsetDateTime → AuthResult Bool
  | none => .ok true
  | some last =>
      match last.checkedAdd cooldown with
      | none => .error (.oidcDiscovery "forced JWKS refresh time arithmetic overflowed")
      | some next => .ok (next ≤ now)

def unknownKeyId : AuthError := .oidcTokenValidation "unknown key ID"

namespace OidcKeys

open IdTokenM

variable {lib : JwtLibrary}

def allowedAlgorithms (self : OidcKeys lib) : AuthResult (List JwtAlgorithm) :=
  self.allowedIdTokenAlgs.mapM fun alg =>
    match JwtAlgorithm.ofName alg with
    | some algorithm => .ok algorithm
    | none => .error (.invalidConfiguration ("unsupported OIDC ID token algorithm: " ++ alg))

def clockSkewSeconds (self : OidcKeys lib) : AuthResult Nat :=
  let seconds := self.provider.config.clockSkew.wholeSeconds
  if 0 ≤ seconds then .ok seconds.toNat
  else .error (.invalidConfiguration "OIDC clock_skew is too large")

def jwksPoisoned : AuthError := .oidcDiscovery "JWKS cache lock poisoned"

/-- Request the key set and cache it. -/
def fetchJwks (self : OidcKeys lib) (now : OffsetDateTime) :
    IdTokenM lib.DecodingKey (List (ProviderJwk lib.DecodingKey)) := do
  let discovery ← IdTokenM.provider self.provider.discover
  let raw ← IdTokenM.provider ((OAuthM.getJson discovery.jwksUri).orFail
    (.oidcDiscovery "provider JWKS request failed"))
  let jwks ← expect (.oidcDiscovery "provider JWKS response was invalid") (self.readJwkSet raw)
  let expiresAt ← expect (.oidcDiscovery "JWKS cache expiry overflowed")
    (now.checkedAdd self.jwksCacheTtl)
  let _written ← expect jwksPoisoned (← writeJwksCache { jwks, expiresAt })
  pure jwks

def jwks (self : OidcKeys lib) (forceRefresh : Bool) :
    IdTokenM lib.DecodingKey (List (ProviderJwk lib.DecodingKey)) := do
  let now ← IdTokenM.now
  if forceRefresh then self.fetchJwks now
  else do
    let cache ← expect jwksPoisoned (← readJwksCache)
    match cache.filter fun cached => now < cached.expiresAt with
    | some cached => pure cached.jwks
    | none => self.fetchJwks now

def jwkForKid (self : OidcKeys lib) (kid : String) (forceRefresh : Bool) :
    IdTokenM lib.DecodingKey (Option (ProviderJwk lib.DecodingKey)) := do
  let jwks ← self.jwks forceRefresh
  pure (findJwk jwks kid)

def allowForcedJwksRefresh (self : OidcKeys lib) : IdTokenM lib.DecodingKey Bool :=
  if self.jwksForcedRefreshCooldown = .zero then pure true
  else do
    let now ← IdTokenM.now
    lockForcedRefresh self.jwksForcedRefreshCooldown now

/-- The key of `kid`, after a refresh where one is allowed and needed. -/
def signingKey (self : OidcKeys lib) (kid : String) :
    IdTokenM lib.DecodingKey (ProviderJwk lib.DecodingKey) := do
  match ← self.jwkForKid kid false with
  | some jwk => pure jwk
  | none =>
      if ← self.allowForcedJwksRefresh then
        expect unknownKeyId (← self.jwkForKid kid true)
      else IdTokenM.fail unknownKeyId

def idTokenValidation (self : OidcKeys lib) (algorithms : List JwtAlgorithm) (leeway : Nat) :
    Validation where
  algorithms
  requiredSpecClaims := ["exp", "iss", "aud", "sub", "iat"]
  leeway
  validateNbf := true
  aud := some [self.provider.config.clientId]

/-- `validate_id_token` between discovery and the checks on the claims. -/
def decodeIdToken (self : OidcKeys lib) (idToken : String) :
    IdTokenM lib.DecodingKey RawOidcIdTokenClaims := do
  let header ← expect (.oidcTokenValidation "ID token header is invalid")
    (lib.decodeHeader idToken)
  let kid ← expect (.oidcTokenValidation "ID token header is missing kid") header.kid
  let algorithms ← IdTokenM.lift self.allowedAlgorithms
  if !algorithms.contains header.alg then
    IdTokenM.fail (.oidcTokenValidation
      ("ID token alg " ++ header.alg.name ++ " is not allowed"))
  else do
    let jwk ← self.signingKey kid
    IdTokenM.lift (validateJwkForHeader jwk header.alg)
    let key ← expect (.oidcTokenValidation "ID token verification key is invalid")
      jwk.decodingKey
    let leeway ← IdTokenM.lift self.clockSkewSeconds
    let now ← systemTime
    IdTokenM.lift ((lib.decode self.readIdTokenClaims idToken key
      (self.idTokenValidation algorithms leeway) now).mapError fun _ =>
        .oidcTokenValidation "ID token signature, time, or claim types are invalid")

/-- The operations of the provider, with the decoding of ID tokens carried out. -/
def carryOut (self : OidcKeys lib) :
    (op : oauthSignature.Op) → Program (idTokenSignature lib.DecodingKey) (oauthSignature.Resp op)
  | .decodeIdToken idToken => self.decodeIdToken idToken
  | op => .call (.inl op) .ret

end OidcKeys

inductive OidcCall where
  | authorize (options : Option OidcAuthorizationOptions)
  | validateIdToken (idToken expectedNonce : String)
  | handleCallback (input : OidcCallbackInput) (deliveredMode : OAuthResponseMode)

inductive OidcReturn where
  | request (request : OidcAuthorizationRequest)
  | claims (claims : ValidatedOidcClaims)
  | outcome (outcome : OidcCallbackOutcome)

namespace OidcCall

def program (self : OidcCall) (provider : OidcProvider) : OAuthM OidcReturn :=
  match self with
  | authorize none => do
      let request ← provider.createAuthorizationRequest
      pure (.request request)
  | authorize (some options) => do
      let request ← provider.createAuthorizationRequestWithOptions options
      pure (.request request)
  | validateIdToken idToken expectedNonce => do
      let claims ← provider.validateIdToken idToken expectedNonce
      pure (.claims claims)
  | handleCallback input deliveredMode => do
      let outcome ← provider.handleCallbackInMode input deliveredMode
      pure (.outcome outcome)

/-- The call with the keys of the provider. -/
def withKeys {lib : JwtLibrary} (self : OidcCall) (keys : OidcKeys lib) :
    IdTokenM lib.DecodingKey OidcReturn :=
  (self.program keys.provider).refine keys.carryOut

end OidcCall

end AgqlAuth
