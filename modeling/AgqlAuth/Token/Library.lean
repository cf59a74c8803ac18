import AgqlAuth.Base.Encoding
import AgqlAuth.Json.Record
import AgqlAuth.Model.Session

/-!
# The JWT library

What the service takes from its JWT library is one parameter of the model:
signing, the header pre-read, signature verification and claim validation, in
the order in which decoding calls them.
-/

namespace AgqlAuth

open Json

inductive JwtAlgorithm where
  | hs256 | hs384 | hs512
  | es256 | es384
  | rs256 | rs384 | rs512
  | ps256 | ps384 | ps512
  | edDSA
  deriving DecidableEq

structure JwtHeader where
  alg : JwtAlgorithm
  kid : Option String := none

/-- Validation settings; a new value validates the expiry and the audience. -/
structure Validation where
  algorithms : List JwtAlgorithm
  requiredSpecClaims : List String := ["exp"]
  leeway : Nat := 60
  validateExp : Bool := true
  validateNbf : Bool := false
  validateAud : Bool := true
  aud : Option (List String) := none
  iss : Option (List String) := none

def Validation.new (algorithm : JwtAlgorithm) : Validation where
  algorithms := [algorithm]

inductive JwtErrorKind where
  | expiredSignature
  | other

/-- One key of a JWKS document; `decodingKey` is `none` where the library has no use for it. -/
structure Jwk (DecodingKey : Type) where
  keyId : Option String
  decodingKey : Option DecodingKey

structure RsaPublicKey where
  modulus : List UInt8
  exponent : List UInt8

structure JwtLibrary where
  EncodingKey : Type
  DecodingKey : Type
  encodingKeyFromSecret : String → EncodingKey
  decodingKeyFromSecret : String → DecodingKey
  encodingKeyFromRsaPem : String → Option EncodingKey
  decodingKeyFromRsaPem : String → Option DecodingKey
  /-- `serde_json::from_str::<JwkSet>` and `DecodingKey::from_jwk` of its keys. -/
  parseJwks : String → Option (List (Jwk DecodingKey))
  parseRsaPublicKey : String → Option RsaPublicKey
  encode : JwtHeader → JsonValue → EncodingKey → Except String String
  decodeHeader : String → Option JwtHeader
  /-- The payload of a token whose signature is good under one of the algorithms. -/
  verify : String → DecodingKey → List JwtAlgorithm → Except JwtErrorKind JsonValue
  /-- The registered claims against the settings, at a time in seconds. -/
  validate : Validation → Int → JsonValue → Except JwtErrorKind Unit
  /-- The serializer of instants. -/
  instant : Codec OffsetDateTime

namespace JwtLibrary

/-- `decode::<T>`: the signature, then the type, then the registered claims. -/
def decode (lib : JwtLibrary) {α : Type} (read : JsonValue → Option α) (token : String)
    (key : lib.DecodingKey) (validation : Validation) (now : Int) : Except JwtErrorKind α :=
  match lib.verify token key validation.algorithms with
  | .error e => .error e
  | .ok payload =>
      match read payload with
      | none => .error .other
      | some claims =>
          match lib.validate validation now payload with
          | .error e => .error e
          | .ok () => .ok claims

/-- What a successful decoding has gone through. -/
theorem decode_ok {lib : JwtLibrary} {α : Type} {read : JsonValue → Option α} {token : String}
    {key : lib.DecodingKey} {validation : Validation} {now : Int} {claims : α}
    (decoded : lib.decode read token key validation now = .ok claims) :
    ∃ payload, lib.verify token key validation.algorithms = .ok payload ∧
      read payload = some claims ∧ lib.validate validation now payload = .ok () := by
  unfold decode at decoded
  split at decoded
  · cases decoded
  rename_i payload verified
  split at decoded
  · cases decoded
  rename_i claims' typed
  split at decoded
  · cases decoded
  rename_i valid
  cases decoded
  exact ⟨payload, verified, typed, valid⟩

theorem decode_eq {lib : JwtLibrary} {α : Type} {read : JsonValue → Option α} {token : String}
    {key : lib.DecodingKey} {validation : Validation} {now : Int} {payload : JsonValue} {claims : α}
    (verified : lib.verify token key validation.algorithms = .ok payload)
    (typed : read payload = some claims) (valid : lib.validate validation now payload = .ok ()) :
    lib.decode read token key validation now = .ok claims := by
  rw [decode, verified]
  simp only [typed, valid]

theorem decode_congr {lib : JwtLibrary} {α : Type} {read : JsonValue → Option α} {token : String}
    {key key' : lib.DecodingKey} {validation validation' : Validation} {now : Int}
    (verifies : lib.verify token key validation.algorithms =
      lib.verify token key' validation'.algorithms)
    (validates : ∀ payload, lib.validate validation now payload =
      lib.validate validation' now payload) :
    lib.decode read token key validation now = lib.decode read token key' validation' now := by
  simp only [decode, verifies, validates]

end JwtLibrary

/-- The registered claims meet settings that leave the times to the caller, with this expiry. -/
structure Meets (validation : Validation) (entries : Entries) (exp : Int) : Prop where
  untimed : validation.validateExp = false ∧ validation.validateNbf = false
  required : ∀ name ∈ validation.requiredSpecClaims, name ∈ ["exp", "iat", "iss", "aud", "sub"]
  issuer : ∃ issuers, validation.iss = some issuers ∧
    ∃ issuer ∈ issuers, occurrences "iss" entries = [.string issuer]
  audience : ∃ audiences, validation.aud = some audiences ∧
    ∃ audience ∈ audiences, occurrences "aud" entries = [.string audience]
  subject : ∃ subject, occurrences "sub" entries = [.string subject]
  expiry : occurrences "exp" entries = [i64.write exp]
  issuedAt : ∃ seconds, occurrences "iat" entries = [i64.write seconds]

/-- The `aud` claim is `audience` or a list that holds it. -/
def NamesAudience (entries : Entries) (audience : String) : Prop :=
  occurrences "aud" entries = [.string audience] ∨
    ∃ values, occurrences "aud" entries = [.array values] ∧ .string audience ∈ values

/-- The library takes this second for an expiry, and accepts what meets the settings. -/
def JwtLibrary.ReadsExpiry (lib : JwtLibrary) (exp : Int) : Prop :=
  ∀ (validation : Validation) (now : Int) (entries : Entries), Meets validation entries exp →
    lib.validate validation now (.object entries) = .ok ()

/-- The library is a faithful channel: what was signed is what is read, and nothing else. -/
structure JwtLibrary.Faithful (lib : JwtLibrary) : Prop where
  instants : ∀ t, lib.instant.Fits t
  header : ∀ {header payload key token}, lib.encode header payload key = .ok token →
    lib.decodeHeader token = some header
  payload : ∀ {header payload key token key' algorithms read},
    lib.encode header payload key = .ok token → lib.verify token key' algorithms = .ok read →
      read = payload
  secret : ∀ {header payload secret token}, header.alg = .hs256 →
    lib.encode header payload (lib.encodingKeyFromSecret secret) = .ok token →
      ∃ read, lib.verify token (lib.decodingKeyFromSecret secret) [.hs256] = .ok read
  /-- A pair of RSA keys that has verified one token verifies all. -/
  keyPair : ∀ {key key' header header' payload payload' token token' read},
    header.alg = .rs256 → lib.encode header payload key = .ok token →
      lib.verify token key' [.rs256] = .ok read →
        header'.alg = .rs256 → lib.encode header' payload' key = .ok token' →
          ∃ read', lib.verify token' key' [.rs256] = .ok read'
  /-- A library may read the `exp` claim as an unsigned number. -/
  accepts : ∀ {exp}, 0 ≤ exp → lib.ReadsExpiry exp
  audience : ∀ {validation now entries audiences}, validation.validateAud = true →
    "aud" ∈ validation.requiredSpecClaims → validation.aud = some audiences →
      lib.validate validation now (.object entries) = .ok () →
        ∃ audience ∈ audiences, NamesAudience entries audience

inductive AlgorithmFamily where
  | hmac
  | rsa
  | ec
  | ed
  deriving DecidableEq

def JwtAlgorithm.family : JwtAlgorithm → AlgorithmFamily
  | .hs256 | .hs384 | .hs512 => .hmac
  | .rs256 | .rs384 | .rs512 | .ps256 | .ps384 | .ps512 => .rsa
  | .es256 | .es384 => .ec
  | .edDSA => .ed

/-- The library takes every listed algorithm that fits the family of the key. -/
structure JwtLibrary.ByFamily (lib : JwtLibrary) (family : lib.DecodingKey → AlgorithmFamily) :
    Prop where
  fits : ∀ {token key algorithms payload header}, lib.verify token key algorithms = .ok payload →
    lib.decodeHeader token = some header → header.alg.family = family key
  /-- Whoever holds the key signs any payload under any algorithm of the family. -/
  signs : ∀ key header payload, header.alg.family = family key →
    ∃ token, lib.decodeHeader token = some header ∧
      ∀ algorithms, header.alg ∈ algorithms → lib.verify token key algorithms = .ok payload

end AgqlAuth
