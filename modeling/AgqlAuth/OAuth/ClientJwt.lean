import AgqlAuth.Base.Base64
import AgqlAuth.Interaction.Yields
import AgqlAuth.OAuth.State
import AgqlAuth.Token.Library
import AgqlAuth.Token.Wire

/-!
# Signed client assertions

The private key with which a client signs a fresh JWT for every token request:
its claim template, the checks that the template goes through when a signer is
built, and the JWT of one request.
-/

namespace AgqlAuth

open Interaction Program Json OAuthM

inductive ClientJwtAlgorithm where
  | es256
  | es384
  | rs256
  | ps256
  deriving DecidableEq

def ClientJwtAlgorithm.jwtAlgorithm : ClientJwtAlgorithm → JwtAlgorithm
  | es256 => .es256
  | es384 => .es384
  | rs256 => .rs256
  | ps256 => .ps256

def maxClientJwtLifetimeSeconds : Int := 15777000

def defaultClientJwtIssuedAtSkewSeconds : Int := 30

def maxClientJwtIssuedAtSkewSeconds : Int := 300

theorem fits_defaultLifetime : -(2 ^ 63) ≤ (5 : Int) * 60 ∧ (5 : Int) * 60 < 2 ^ 63 := by decide

def defaultClientJwtLifetime : Duration := .minutes 5 fits_defaultLifetime

theorem fits_defaultIssuedAtSkew : -(2 ^ 63) ≤ defaultClientJwtIssuedAtSkewSeconds ∧
    defaultClientJwtIssuedAtSkewSeconds < 2 ^ 63 := by decide

def defaultIssuedAtSkew : Duration :=
  .seconds defaultClientJwtIssuedAtSkewSeconds fits_defaultIssuedAtSkew

structure ClientJwtClaims where
  keyId : Option String := none
  issuer : String
  subject : String
  /-- `none` stands for the token endpoint. -/
  audience : Option String := none
  lifetime : Duration := defaultClientJwtLifetime
  issuedAtSkew : Duration := defaultIssuedAtSkew
  deriving DecidableEq

namespace ClientJwtClaims

def new (issuer subject : String) : ClientJwtClaims := { issuer, subject }

def isBlank (value : Option String) : Bool := value.any fun text => (trim text).isEmpty

def validate (self : ClientJwtClaims) : AuthResult Unit :=
  if (trim self.issuer).isEmpty || (trim self.subject).isEmpty then
    .error (.invalidConfiguration "client JWT issuer and subject must not be empty")
  else if isBlank self.keyId then
    .error (.invalidConfiguration "client JWT key_id must not be empty when set")
  else if isBlank self.audience then
    .error (.invalidConfiguration "client JWT audience must not be empty when set")
  else if ¬(1 ≤ self.lifetime.wholeSeconds ∧
      self.lifetime.wholeSeconds ≤ maxClientJwtLifetimeSeconds) then
    .error (.invalidConfiguration
      "client JWT lifetime must be at least one second and at most the supported maximum")
  else if self.issuedAtSkew < .zero ∨
      .seconds maxClientJwtIssuedAtSkewSeconds < self.issuedAtSkew then
    .error (.invalidConfiguration
      "client JWT issued_at_skew must be between zero and the supported maximum")
  else if self.lifetime.wholeSeconds - self.issuedAtSkew.wholeSeconds < 1 then
    .error (.invalidConfiguration
      "client JWT lifetime must exceed issued_at_skew by at least one second")
  else .ok ()

/-- The whole seconds of an accepted template. -/
structure Bounded (claims : ClientJwtClaims) : Prop where
  lifetime : claims.lifetime.wholeSeconds ≤ maxClientJwtLifetimeSeconds
  backdated : 0 ≤ claims.issuedAtSkew.wholeSeconds
  skew : claims.issuedAtSkew.wholeSeconds ≤ maxClientJwtIssuedAtSkewSeconds
  usable : claims.issuedAtSkew.wholeSeconds < claims.lifetime.wholeSeconds

theorem bounded_of_validate {self : ClientJwtClaims} (accepted : self.validate = .ok ()) :
    self.Bounded := by
  simp only [validate, Except.ite_error_eq_ok_iff, not_not, not_or, not_lt] at accepted
  obtain ⟨-, -, -, ⟨-, lifetime⟩, ⟨natural, small⟩, usable, -⟩ := accepted
  have nanos : 0 ≤ self.issuedAtSkew.nanos := natural
  have bound : self.issuedAtSkew.nanos ≤ maxClientJwtIssuedAtSkewSeconds * nanosPerSecond := small
  have whole : self.issuedAtSkew.wholeSeconds = self.issuedAtSkew.nanos / nanosPerSecond :=
    Int.tdiv_eq_ediv_of_nonneg nanos
  constructor
  case lifetime => exact lifetime
  case backdated =>
    rw [whole]
    exact Int.ediv_nonneg nanos (by decide)
  case skew =>
    rw [whole]
    simp only [maxClientJwtIssuedAtSkewSeconds, nanosPerSecond] at bound ⊢
    omega
  case usable => omega

end ClientJwtClaims

structure ClientJwtPayload where
  iss : String
  sub : String
  aud : String
  iat : Int
  exp : Int
  jti : Option String
  deriving DecidableEq

namespace ClientJwtPayload

def fields : List String := ["iss", "sub", "aud", "iat", "exp", "jti"]

def slots (self : ClientJwtPayload) : Slots := [
  ("iss", some (string.write self.iss)),
  ("sub", some (string.write self.sub)),
  ("aud", some (string.write self.aud)),
  ("iat", some (i64.write self.iat)),
  ("exp", some (i64.write self.exp)),
  ("jti", self.jti.map string.write)]

def ofFields (entries : Entries) : Option ClientJwtPayload := do
  let iss ← required string entries "iss"
  let sub ← required string entries "sub"
  let aud ← required string entries "aud"
  let iat ← required i64 entries "iat"
  let exp ← required i64 entries "exp"
  let jti ← optional string entries "jti"
  some { iss, sub, aud, iat, exp, jti }

structure Fits (payload : ClientJwtPayload) : Prop where
  iat : FitsI64 payload.iat
  exp : FitsI64 payload.exp

theorem ofFields_slots {self : ClientJwtPayload} (fits : self.Fits) :
    ofFields self.slots.present = some self := by
  have names : self.slots.names = fields := rfl
  have written : WrittenFrom self.slots [] self.slots.present := .alone names (by decide)
  rw [ofFields,
    written.required_eq string 0 rfl trivial,
    written.required_eq string 1 rfl trivial,
    written.required_eq string 2 rfl trivial,
    written.required_eq i64 3 rfl fits.iat,
    written.required_eq i64 4 rfl fits.exp,
    written.optional_eq string 5 rfl fun _ _ => trivial]
  rfl

/-- The claims as a token endpoint reads them. -/
def json : Codec ClientJwtPayload := record fields 5 slots ofFields Fits ofFields_slots

end ClientJwtPayload

/-- A signer is built by `from_pem` alone, so that its template has been accepted. -/
structure ClientJwtSigner (lib : JwtLibrary) where
  algorithm : ClientJwtAlgorithm
  key : lib.EncodingKey
  claims : ClientJwtClaims
  accepted : claims.validate = .ok ()

/-- `checked_add` and `checked_sub` of `i64`. -/
def representable (exact : Int) : Option Int :=
  if -(2 ^ 63) ≤ exact ∧ exact < 2 ^ 63 then some exact else none

theorem representable_of_fits {exact : Int} (fits : FitsI64 exact) :
    representable exact = some exact :=
  if_pos fits

/-- `OffsetDateTime::UNIX_EPOCH`. -/
def OffsetDateTime.unixEpoch : OffsetDateTime := atSecond 0

namespace ClientJwtSigner

variable {lib : JwtLibrary}

def header (algorithm : ClientJwtAlgorithm) (claims : ClientJwtClaims) : JwtHeader where
  alg := algorithm.jwtAlgorithm
  kid := claims.keyId

def payload (claims : ClientJwtClaims) (defaultAudience : String) (iat exp : Int)
    (jti : Option String) : ClientJwtPayload where
  iss := claims.issuer
  sub := claims.subject
  aud := claims.audience.getD defaultAudience
  iat
  exp
  jti

def encodePayload (lib : JwtLibrary) (algorithm : ClientJwtAlgorithm) (key : lib.EncodingKey)
    (claims : ClientJwtClaims) (payload : ClientJwtPayload) : AuthResult String :=
  (lib.encode (header algorithm claims) (ClientJwtPayload.json.write payload) key).mapError fun _ =>
    .tokenCreation "client JWT signing failed"

/-- `sign`, before its key is in a signer. -/
def signWith (lib : JwtLibrary) (algorithm : ClientJwtAlgorithm) (key : lib.EncodingKey)
    (claims : ClientJwtClaims) (now : OffsetDateTime) (defaultAudience : String)
    (includeJti : Bool) : OAuthM String := do
  let iat ← expect (.tokenCreation "client JWT iat overflowed")
    (representable (now.unixTimestamp - claims.issuedAtSkew.wholeSeconds))
  let exp ← expect (.tokenCreation "client JWT expiry overflowed")
    (representable (iat + claims.lifetime.wholeSeconds))
  if includeJti then do
    let bytes ← fillBytes 32
    OAuthM.lift (encodePayload lib algorithm key claims
      (payload claims defaultAudience iat exp (some (base64UrlSafeNoPad bytes.toList))))
  else OAuthM.lift (encodePayload lib algorithm key claims
    (payload claims defaultAudience iat exp none))

def sign (self : ClientJwtSigner lib) (now : OffsetDateTime) (defaultAudience : String)
    (includeJti : Bool) : OAuthM String :=
  signWith lib self.algorithm self.key self.claims now defaultAudience includeJti

/-- `encodingKeyFromEcPem` is the library's parser of elliptic-curve keys. -/
def parseKey (lib : JwtLibrary) (encodingKeyFromEcPem : String → Option lib.EncodingKey)
    (algorithm : ClientJwtAlgorithm) (privateKeyPem : String) : Option lib.EncodingKey :=
  match algorithm with
  | .es256 | .es384 => encodingKeyFromEcPem privateKeyPem
  | .rs256 | .ps256 => lib.encodingKeyFromRsaPem privateKeyPem

/-- The probe signature draws no random bytes. -/
def fromPem (lib : JwtLibrary) (encodingKeyFromEcPem : String → Option lib.EncodingKey)
    (algorithm : ClientJwtAlgorithm) (privateKeyPem : String) (claims : ClientJwtClaims) :
    OAuthM (ClientJwtSigner lib) :=
  match accepted : claims.validate with
  | .error e => fail e
  | .ok () => do
      let key ← expect
        (.invalidConfiguration "client JWT private key is not a valid PEM key for the algorithm")
        (parseKey lib encodingKeyFromEcPem algorithm privateKeyPem)
      let _ ← (signWith lib algorithm key claims .unixEpoch "probe" false).orFail
        (.invalidConfiguration "client JWT private key does not match the algorithm")
      pure { algorithm, key, claims, accepted }

end ClientJwtSigner

end AgqlAuth
