import AgqlAuth.Token.Decode
import AgqlAuth.Validator.Keys

/-!
# The stand-alone validator

A resource server checks access tokens with an issuer, its audiences and a
resolver of keys, and no store.
-/

namespace AgqlAuth

inductive ValidatorKeyMaterial where
  | rs256PublicPem (publicKeyPem : String)
  | jwksJson (jwksJson : String)
  | hs256Secret (secret : String)

structure AccessTokenValidatorBuilder (lib : JwtLibrary) where
  issuer : Option String := none
  audiences : List String := []
  leewaySeconds : Option Nat := none
  keyId : Option String := none
  keyMaterial : Option ValidatorKeyMaterial := none
  keyResolver : Option (AccessTokenKeyResolver lib) := none
  acceptHs256 : Bool := false
  allowedAlgorithms : Option (List JwtAlgorithm) := none
  purposePolicy : PurposePolicy := .accessTokenOrLegacy
  legacyScopeClaims : LegacyScopeClaims := .accept
  claimRequirements : ClaimRequirements := {}

structure AccessTokenValidator (lib : JwtLibrary) where
  issuer : String
  audiences : List String
  leewaySeconds : Nat
  allowedAlgorithms : List JwtAlgorithm
  purposePolicy : PurposePolicy
  legacyScopeClaims : LegacyScopeClaims
  claimRequirements : ClaimRequirements
  keyResolver : AccessTokenKeyResolver lib
  expectedKid : Option String

def defaultMaxLeewaySeconds : Nat := 300

variable {lib : JwtLibrary}

def requiredNonEmpty (value : Option String) (name : String) : AuthResult String :=
  match value with
  | none => .error (.invalidConfiguration ("validator " ++ name ++ " is required"))
  | some value =>
      if (trim value).isEmpty then
        .error (.invalidConfiguration ("validator " ++ name ++ " must not be empty"))
      else .ok value

/--
`build_key_resolver`: the default algorithm, the resolver and the expected key id,
which a set of several keys needs before there is any token.
-/
def buildKeyResolver (keyMaterial : Option ValidatorKeyMaterial)
    (keyResolver : Option (AccessTokenKeyResolver lib)) (keyId : Option String)
    (acceptHs256 : Bool) (now : OffsetDateTime) :
    AuthResult (JwtAlgorithm × AccessTokenKeyResolver lib × Option String) :=
  match keyResolver, keyMaterial with
  | some resolver, _ =>
      let algorithm := match resolver now keyId with
        | .ok key => key.algorithm
        | .error _ => .rs256
      .ok (algorithm, resolver, keyId)
  | none, some (.rs256PublicPem publicKeyPem) => do
      let key ← StaticRs256Key.fromPem publicKeyPem keyId
      pure (.rs256, fun _ => key.resolve, keyId)
  | none, some (.jwksJson jwksJson) => do
      let keySet ← StaticJwksKeySet.fromJwksJson jwksJson
      match keyId, keySet.resolve keyId with
      | none, .error _ =>
          .error (.invalidConfiguration "validator key_id is required for multi-key JWKS")
      | some _, .error e => .error e
      | _, .ok _ => .ok (.rs256, fun _ => keySet.resolve, keyId)
  | none, some (.hs256Secret secret) =>
      if !acceptHs256 then
        .error (.invalidConfiguration "HS256 validation requires accept_hs256(true)")
      else if secret.utf8ByteSize < 32 then
        .error (.invalidConfiguration "HS256 secret must be at least 32 bytes")
      else do
        let key ← StaticHs256Key.fromSecret secret keyId
        pure (.hs256, fun _ => key.resolve, keyId)
  | none, none => .error (.invalidConfiguration "validator key material is required")

/-- What the validator allows; by default the algorithm of its key. -/
def chooseAlgorithms (allowedAlgorithms : Option (List JwtAlgorithm)) (acceptHs256 : Bool)
    (defaultAlgorithm : JwtAlgorithm) : AuthResult (List JwtAlgorithm) :=
  match allowedAlgorithms with
  | none => .ok [defaultAlgorithm]
  | some [] => .ok [defaultAlgorithm]
  | some algorithms =>
      if .hs256 ∈ algorithms ∧ !acceptHs256 then
        .error (.invalidConfiguration "HS256 must be enabled with accept_hs256(true)")
      else .ok algorithms

def AccessTokenValidatorBuilder.build (self : AccessTokenValidatorBuilder lib)
    (now : OffsetDateTime) : AuthResult (AccessTokenValidator lib) := do
  let issuer ← requiredNonEmpty self.issuer "issuer"
  if self.audiences.isEmpty || self.audiences.any fun audience => (trim audience).isEmpty then
    throw (.invalidConfiguration "validator audience is required")
  else if defaultMaxLeewaySeconds < self.leewaySeconds.getD 0 then
    throw (.invalidConfiguration "validator leeway_seconds must be <= 300")
  else do
    let (defaultAlgorithm, keyResolver, expectedKid) ←
      buildKeyResolver self.keyMaterial self.keyResolver self.keyId self.acceptHs256 now
    let allowedAlgorithms ←
      chooseAlgorithms self.allowedAlgorithms self.acceptHs256 defaultAlgorithm
    pure {
      issuer
      audiences := self.audiences
      leewaySeconds := self.leewaySeconds.getD 0
      allowedAlgorithms
      purposePolicy := self.purposePolicy
      legacyScopeClaims := self.legacyScopeClaims
      claimRequirements := self.claimRequirements
      keyResolver
      expectedKid }

namespace AccessTokenValidator

/-- The settings of one validator, for a key of the given algorithm. -/
def validation (self : AccessTokenValidator lib) (algorithm : JwtAlgorithm) : Validation :=
  { Validation.new algorithm with
    algorithms := self.allowedAlgorithms
    iss := some [self.issuer]
    aud := some self.audiences
    leeway := self.leewaySeconds
    validateExp := false
    validateNbf := false
    requiredSpecClaims :=
      (Validation.new algorithm).requiredSpecClaims ++ ["exp", "iat", "iss", "aud", "sub"] }

/-- The decoder for a key; the key id is already enforced, so it expects none. -/
def decodeConfig (self : AccessTokenValidator lib) (resolved : ResolvedKey lib) :
    AccessTokenDecodeConfig lib where
  decodingKey := resolved.decodingKey
  validation := self.validation resolved.algorithm
  expectedKid := none
  leewaySeconds := self.leewaySeconds
  purposePolicy := self.purposePolicy
  legacyScopeClaims := self.legacyScopeClaims
  claimRequirements := self.claimRequirements
  allowedAlgorithms := self.allowedAlgorithms

def decodeConfigForToken (self : AccessTokenValidator lib) (token : String)
    (now : OffsetDateTime) : AuthResult (AccessTokenDecodeConfig lib) :=
  match lib.decodeHeader token with
  | none => .error .invalidAccessToken
  | some header =>
      if header.alg ∉ self.allowedAlgorithms then .error .invalidAccessToken
      else if !kidExpected self.expectedKid header.kid then .error .invalidAccessToken
      else
        match self.keyResolver now header.kid with
        | .error e => .error e
        | .ok resolved =>
            if resolved.algorithm ∉ self.allowedAlgorithms then .error .invalidAccessToken
            else .ok (self.decodeConfig resolved)

def authenticateAccessToken (self : AccessTokenValidator lib) (token : String)
    (now : OffsetDateTime) : AuthResult AuthUser :=
  match self.decodeConfigForToken token now with
  | .error e => .error e
  | .ok config => authenticateWith lib token config now

end AccessTokenValidator

end AgqlAuth
