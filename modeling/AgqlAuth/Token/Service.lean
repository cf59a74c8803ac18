import AgqlAuth.Service.Issue
import AgqlAuth.Token.Decode

/-!
# The service and its key material

How the configured key signs, and how the service reads its own access tokens.
-/

namespace AgqlAuth

open Json

structure JwtKeyMaterial (lib : JwtLibrary) where
  encodingKey : lib.EncodingKey
  decodingKey : lib.DecodingKey
  validation : Validation
  algorithm : JwtAlgorithm
  keyId : Option String
  jwks : Option JsonValue

def minHs256SecretBytes : Nat := 32

/-- Settings for tokens of one issuer and any of the audiences. -/
def validationFor (algorithm : JwtAlgorithm) (issuer : String) (audiences : List String) :
    Validation :=
  { Validation.new algorithm with
    iss := some [issuer]
    aud := some audiences
    requiredSpecClaims :=
      (Validation.new algorithm).requiredSpecClaims ++ ["exp", "iat", "iss", "aud", "sub"] }

/-- The private key must sign what the public key verifies. -/
def validateRs256KeyPair (lib : JwtLibrary) (encodingKey : lib.EncodingKey)
    (decodingKey : lib.DecodingKey) (now : OffsetDateTime) : AuthResult Unit :=
  let probe : JsonValue := .object [
    ("sub", .string "agql-auth-key-validation"),
    ("exp", i64.write (now.unixTimestamp + 60))]
  match lib.encode { alg := .rs256 } probe encodingKey with
  | .error _ => .error (.invalidConfiguration "invalid RS256 private key PEM")
  | .ok token =>
      let validation := { Validation.new .rs256 with
        requiredSpecClaims := []
        validateExp := false
        validateAud := false }
      match lib.decode some token decodingKey validation now.unixTimestamp with
      | .error _ =>
          .error (.invalidConfiguration "RS256 private and public keys do not form a valid key pair")
      | .ok _ => .ok ()

def buildRs256Jwks (lib : JwtLibrary) (publicKeyPem keyId : String) : AuthResult JsonValue :=
  match lib.parseRsaPublicKey publicKeyPem with
  | none => .error (.invalidConfiguration "invalid RS256 public key PEM")
  | some publicKey => .ok (.object [
      ("keys", .array [.object [
        ("kty", .string "RSA"),
        ("use", .string "sig"),
        ("alg", .string "RS256"),
        ("kid", .string keyId),
        ("n", .string (base64UrlSafeNoPad publicKey.modulus)),
        ("e", .string (base64UrlSafeNoPad publicKey.exponent))]])])

def JwtSigningConfig.algorithm : JwtSigningConfig → JwtAlgorithm
  | .hs256 _ => .hs256
  | .rs256 .. => .rs256

namespace JwtKeyMaterial

variable {lib : JwtLibrary}

/-- `JwtKeyMaterial::from_config`, probing the key pair at `now`. -/
def fromConfig (lib : JwtLibrary) (config : AuthConfig) (now : OffsetDateTime) :
    AuthResult (JwtKeyMaterial lib) :=
  let algorithm := config.jwtSigning.algorithm
  let validation := validationFor algorithm config.issuer [config.audience]
  match config.jwtSigning with
  | .hs256 secret =>
      if secret.utf8ByteSize < minHs256SecretBytes then
        .error (.invalidConfiguration "HS256 secret must be at least 32 bytes")
      else .ok {
        encodingKey := lib.encodingKeyFromSecret secret
        decodingKey := lib.decodingKeyFromSecret secret
        validation
        algorithm
        keyId := none
        jwks := none }
  | .rs256 privateKeyPem publicKeyPem keyId =>
      if (trim keyId).isEmpty then
        .error (.invalidConfiguration "RS256 key_id must not be empty")
      else
        match lib.encodingKeyFromRsaPem privateKeyPem, lib.decodingKeyFromRsaPem publicKeyPem with
        | none, _ => .error (.invalidConfiguration "invalid RS256 private key PEM")
        | _, none => .error (.invalidConfiguration "invalid RS256 public key PEM")
        | some encodingKey, some decodingKey => do
            validateRs256KeyPair lib encodingKey decodingKey now
            let jwks ← buildRs256Jwks lib publicKeyPem keyId
            pure {
              encodingKey
              decodingKey
              validation
              algorithm
              keyId := some keyId
              jwks := some jwks }

/-- The header of every token of the service. -/
def header (self : JwtKeyMaterial lib) : JwtHeader where
  alg := self.algorithm
  kid := self.keyId

/-- `encode_local_jwt`, before its error is wrapped. -/
def encode (self : JwtKeyMaterial lib) (payload : JsonValue) : Except String String :=
  lib.encode self.header payload self.encodingKey

/-- The two ways to a key material. -/
inductive Origin (lib : JwtLibrary) (config : AuthConfig) (now : OffsetDateTime) :
    JwtKeyMaterial lib → Prop where
  | secret {secret : String} (signing : config.jwtSigning = .hs256 secret)
      (long : minHs256SecretBytes ≤ secret.utf8ByteSize) :
      Origin lib config now {
        encodingKey := lib.encodingKeyFromSecret secret
        decodingKey := lib.decodingKeyFromSecret secret
        validation := validationFor .hs256 config.issuer [config.audience]
        algorithm := .hs256
        keyId := none
        jwks := none }
  | keyPair {privateKeyPem publicKeyPem keyId : String} {encodingKey : lib.EncodingKey}
      {decodingKey : lib.DecodingKey} {jwks : JsonValue}
      (signing : config.jwtSigning = .rs256 privateKeyPem publicKeyPem keyId)
      (named : (trim keyId).isEmpty = false)
      (signs : lib.encodingKeyFromRsaPem privateKeyPem = some encodingKey)
      (verifies : lib.decodingKeyFromRsaPem publicKeyPem = some decodingKey)
      (probed : validateRs256KeyPair lib encodingKey decodingKey now = .ok ())
      (published : buildRs256Jwks lib publicKeyPem keyId = .ok jwks) :
      Origin lib config now {
        encodingKey
        decodingKey
        validation := validationFor .rs256 config.issuer [config.audience]
        algorithm := .rs256
        keyId := some keyId
        jwks := some jwks }

theorem origin_of_fromConfig {config : AuthConfig} {now : OffsetDateTime}
    {keys : JwtKeyMaterial lib} (configured : fromConfig lib config now = .ok keys) :
    Origin lib config now keys := by
  unfold fromConfig at configured
  cases signing : config.jwtSigning with
  | hs256 secret =>
      simp only [signing, JwtSigningConfig.algorithm] at configured
      split at configured
      · cases configured
      rename_i long
      cases configured
      exact .secret signing (not_lt.mp long)
  | rs256 privateKeyPem publicKeyPem keyId =>
      simp only [signing, JwtSigningConfig.algorithm] at configured
      split at configured
      · cases configured
      rename_i named
      split at configured
      · cases configured
      · cases configured
      rename_i encodingKey decodingKey signs verifies
      obtain ⟨⟨⟩, probed, configured⟩ := Except.exists_of_bind_eq_ok configured
      obtain ⟨jwks, published, configured⟩ := Except.exists_of_bind_eq_ok configured
      cases configured
      exact .keyPair signing (by simpa using named) signs verifies probed published

theorem validateRs256KeyPair_ok {encodingKey : lib.EncodingKey} {decodingKey : lib.DecodingKey}
    {now : OffsetDateTime} (probed : validateRs256KeyPair lib encodingKey decodingKey now = .ok ()) :
    ∃ header payload token read, header.alg = .rs256 ∧
      lib.encode header payload encodingKey = .ok token ∧
      lib.verify token decodingKey [.rs256] = .ok read := by
  unfold validateRs256KeyPair at probed
  simp only at probed
  split at probed
  · cases probed
  rename_i token encoded
  split at probed
  · cases probed
  rename_i decoded
  obtain ⟨read, verified, -, -⟩ := JwtLibrary.decode_ok decoded
  exact ⟨_, _, token, read, rfl, encoded, verified⟩

/-- The configured key opens what it has signed. -/
theorem Origin.verify {config : AuthConfig} {now : OffsetDateTime} {keys : JwtKeyMaterial lib}
    (origin : Origin lib config now keys) (faithful : lib.Faithful) {payload : JsonValue}
    {token : String} (encoded : keys.encode payload = .ok token) :
    lib.verify token keys.decodingKey [keys.algorithm] = .ok payload := by
  have verified : ∃ read, lib.verify token keys.decodingKey [keys.algorithm] = .ok read := by
    cases origin with
    | secret => exact faithful.secret rfl encoded
    | keyPair _ _ _ _ probed _ =>
        obtain ⟨_, _, _, _, alg, probe, read⟩ := validateRs256KeyPair_ok probed
        exact faithful.keyPair alg probe read rfl encoded
  obtain ⟨read, verified⟩ := verified
  rw [verified, faithful.payload encoded verified]

theorem Origin.validation_eq {config : AuthConfig} {now : OffsetDateTime}
    {keys : JwtKeyMaterial lib} (origin : Origin lib config now keys) :
    keys.validation = validationFor keys.algorithm config.issuer [config.audience] := by
  cases origin <;> rfl

end JwtKeyMaterial

/--
A service as `AuthService::new` builds it: its configuration was accepted and its
tokens are signed with the configured key.
-/
structure JwtService (lib : JwtLibrary) where
  auth : AuthService
  keys : JwtKeyMaterial lib
  builtAt : OffsetDateTime
  accepted : auth.config.validate builtAt = .ok ()
  configured : JwtKeyMaterial.fromConfig lib auth.config builtAt = .ok keys
  encodes : ∀ claims, auth.encodeJwt claims = keys.encode (claims.toJson lib.instant)

namespace JwtService

variable {lib : JwtLibrary}

theorem origin (self : JwtService lib) :
    JwtKeyMaterial.Origin lib self.auth.config self.builtAt self.keys :=
  JwtKeyMaterial.origin_of_fromConfig self.configured

def accessTokenDecodeConfig (self : JwtService lib) : AccessTokenDecodeConfig lib :=
  .forService self.keys.decodingKey self.keys.validation self.keys.keyId
    self.auth.config.legacyScopeClaims

def validationForAudience (self : JwtService lib) (audience : String) : Validation :=
  validationFor self.keys.algorithm self.auth.config.issuer [audience]

def validateLocalJwtHeader (self : JwtService lib) (token : String) : AuthResult Unit :=
  match lib.decodeHeader token with
  | none => .error .invalidAccessToken
  | some header =>
      if header.alg ≠ self.keys.algorithm then .error .invalidAccessToken
      else if !kidExpected self.keys.keyId header.kid then .error .invalidAccessToken
      else .ok ()

def authenticateAccessToken (self : JwtService lib) (token : String) (now : OffsetDateTime) :
    AuthResult AuthUser :=
  authenticateWith lib token self.accessTokenDecodeConfig now

/-- What the fixed-audience facade demands of a delegation. -/
def fixedAudienceRequirements : ClaimRequirements where
  requireJti := true
  requirePurpose := true
  requireActor := true
  requireResourceBinding := true
  requireCorrelationId := true
  requiredGrantKind := some .sessionBoundDelegation
  requireSessionVersion := true
  requireOperationBinding := true

def authenticateFixedAudienceAccessToken (self : JwtService lib) (token audience : String)
    (now : OffsetDateTime) : AuthResult AuthUser :=
  authenticateWith lib token
    { self.accessTokenDecodeConfig with
      validation := self.validationForAudience audience
      purposePolicy := .requireAccessToken
      claimRequirements := fixedAudienceRequirements }
    now

end JwtService

end AgqlAuth
