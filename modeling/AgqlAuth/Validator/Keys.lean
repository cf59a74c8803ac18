import AgqlAuth.Token.Library
import Mathlib.Data.List.AList

/-!
# Keys of a resource server

The static resolvers that find the key for the key id of a token.
-/

namespace AgqlAuth

structure ResolvedKey (lib : JwtLibrary) where
  decodingKey : lib.DecodingKey
  algorithm : JwtAlgorithm
  kid : Option String

/-- What a resolver answers about a key id at the time of the call. -/
abbrev AccessTokenKeyResolver (lib : JwtLibrary) :=
  OffsetDateTime → Option String → AuthResult (ResolvedKey lib)

/-- Both sides name a key, and not the same one. -/
def otherKid (expected actual : Option String) : Bool :=
  match expected, actual with
  | some expected, some actual => expected != actual
  | _, _ => false

variable {lib : JwtLibrary}

structure StaticRs256Key (lib : JwtLibrary) where
  decodingKey : lib.DecodingKey
  kid : Option String

namespace StaticRs256Key

def fromPem (publicKeyPem : String) (kid : Option String) : AuthResult (StaticRs256Key lib) :=
  match lib.decodingKeyFromRsaPem publicKeyPem with
  | none => .error (.invalidConfiguration "invalid RS256 public key PEM")
  | some decodingKey => .ok { decodingKey, kid }

def resolve (self : StaticRs256Key lib) (kid : Option String) : AuthResult (ResolvedKey lib) :=
  if otherKid self.kid kid then .error .invalidAccessToken
  else if self.kid.isSome ∧ kid.isNone then .error .invalidAccessToken
  else .ok { decodingKey := self.decodingKey, algorithm := .rs256, kid := self.kid }

theorem resolve_eq {self : StaticRs256Key lib} {kid : Option String} (same : self.kid = kid) :
    self.resolve kid = .ok { decodingKey := self.decodingKey, algorithm := .rs256, kid } := by
  subst same
  cases known : self.kid <;> simp [resolve, otherKid, known]

end StaticRs256Key

structure StaticHs256Key (lib : JwtLibrary) where
  decodingKey : lib.DecodingKey
  kid : Option String

namespace StaticHs256Key

def fromSecret (secret : String) (kid : Option String) : AuthResult (StaticHs256Key lib) :=
  if secret.utf8ByteSize < 32 then
    .error (.invalidConfiguration "HS256 secret must be at least 32 bytes")
  else .ok { decodingKey := lib.decodingKeyFromSecret secret, kid }

/-- Unlike an RS256 key, a named secret also opens tokens without a key id. -/
def resolve (self : StaticHs256Key lib) (kid : Option String) : AuthResult (ResolvedKey lib) :=
  if otherKid self.kid kid then .error .invalidAccessToken
  else .ok { decodingKey := self.decodingKey, algorithm := .hs256, kid := self.kid }

theorem resolve_eq {self : StaticHs256Key lib} (unnamed : self.kid = none) (kid : Option String) :
    self.resolve kid =
      .ok { decodingKey := self.decodingKey, algorithm := .hs256, kid := none } := by
  simp [resolve, otherKid, unnamed]

end StaticHs256Key

abbrev KeysByKid (lib : JwtLibrary) := AList fun _ : String => lib.DecodingKey

structure StaticJwksKeySet (lib : JwtLibrary) where
  keysByKid : KeysByKid lib
  singleKey : Option (Option String × lib.DecodingKey)

namespace StaticJwksKeySet

/-- `DecodingKey::from_jwk`, with its error wrapped. -/
def decodingKeyFromJwk (jwk : Jwk lib.DecodingKey) : AuthResult lib.DecodingKey :=
  match jwk.decodingKey with
  | none => .error (.invalidConfiguration "unsupported JWKS key")
  | some key => .ok key

/-- The keys that have a key id; of two with the same one the later stays. -/
def collectKeys (keysByKid : KeysByKid lib) :
    List (Jwk lib.DecodingKey) → AuthResult (KeysByKid lib)
  | [] => .ok keysByKid
  | jwk :: keys => do
      let key ← decodingKeyFromJwk jwk
      match jwk.keyId with
      | none => collectKeys keysByKid keys
      | some kid => collectKeys (keysByKid.insert kid key) keys

def fromJwksJson (jwksJson : String) : AuthResult (StaticJwksKeySet lib) :=
  match lib.parseJwks jwksJson with
  | none => .error (.invalidConfiguration "invalid JWKS JSON document")
  | some [] => .error (.invalidConfiguration "JWKS document contains no keys")
  | some keys => do
      let keysByKid ← collectKeys ∅ keys
      match keys with
      | [jwk] => do
          let key ← decodingKeyFromJwk jwk
          pure { keysByKid, singleKey := some (jwk.keyId, key) }
      | _ => pure { keysByKid, singleKey := none }

def resolve (self : StaticJwksKeySet lib) (kid : Option String) : AuthResult (ResolvedKey lib) :=
  match kid with
  | some kid =>
      match self.keysByKid.lookup kid with
      | some key => .ok { decodingKey := key, algorithm := .rs256, kid := some kid }
      | none => .error .invalidAccessToken
  | none =>
      match self.singleKey with
      | some (kid, key) => .ok { decodingKey := key, algorithm := .rs256, kid }
      | none => .error .invalidAccessToken

/-- A set that answers for a key id has the key it answers with. -/
theorem resolve_ok {self : StaticJwksKeySet lib} {kid : String} {resolved : ResolvedKey lib}
    (answered : self.resolve (some kid) = .ok resolved) :
    self.keysByKid.lookup kid = some resolved.decodingKey ∧ resolved.algorithm = .rs256 := by
  unfold resolve at answered
  simp only at answered
  split at answered
  · rename_i key found
    cases answered
    exact ⟨found, rfl⟩
  · cases answered

end StaticJwksKeySet

end AgqlAuth
