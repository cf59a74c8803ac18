import AgqlAuth.Json.Codec
import AgqlAuth.Model.Session

/-!
# Authorization policies

What a host may ask of an OpenID provider, and the normalized policy that is
bound to the state of one authorization request.
-/

namespace AgqlAuth

def maxOidcMaxAgeSeconds : Nat := 31536000
def maxOidcAuthorizationValues : Nat := 16
def maxOidcAuthorizationValueLength : Nat := 256
def maxOidcAuthorizationTotalValueLength : Nat := 2048
def maxOidcClaimsRequestLength : Nat := 4096

inductive OidcPrompt where
  | none
  | login
  | consent
  | selectAccount
  deriving DecidableEq

def OidcPrompt.asStr : OidcPrompt → String
  | none => "none"
  | login => "login"
  | consent => "consent"
  | selectAccount => "select_account"

inductive OidcIdTokenClaimRequest where
  | essentialAuthTime
  | essentialAcr (values : List String)
  | essentialAcrs (value : String)

structure OidcAuthorizationOptions where
  prompt : List OidcPrompt := []
  maxAge : Option Int := none
  acrValues : List String := []
  idTokenClaims : List OidcIdTokenClaimRequest := []

structure OidcAuthorizationPolicy where
  version : Nat
  prompt : List OidcPrompt
  maxAgeSeconds : Option Nat
  acrValues : List String
  essentialAuthTime : Bool
  essentialAcrValues : List String
  essentialAcrsValue : Option String
  deriving DecidableEq

def invalidAuthorizationOptions {α : Type} (detail : String) : AuthResult α :=
  .error (.invalidOidcAuthorizationOptions detail)

/-- The loop of `validate_values`, after the values of `seen` with `total` bytes. -/
def validateValuesFrom (label : String) : List String → Nat → List String → AuthResult Unit
  | _, _, [] => .ok ()
  | seen, total, value :: rest =>
      if value.isEmpty || trim value != value ||
          value.toList.any (fun c => isControl c || isWhitespace c) then
        invalidAuthorizationOptions
          (label ++ " contains a blank, control, or noncanonical value")
      else if maxOidcAuthorizationValueLength < value.utf8ByteSize then
        invalidAuthorizationOptions (label ++ " contains an oversized value")
      else if maxOidcAuthorizationTotalValueLength < total + value.utf8ByteSize then
        invalidAuthorizationOptions (label ++ " exceeds the aggregate size limit")
      else if value ∈ seen then
        invalidAuthorizationOptions (label ++ " contains a duplicate value")
      else validateValuesFrom label (value :: seen) (total + value.utf8ByteSize) rest

def validateValues (label : String) (values : List String) (requireNonempty : Bool) :
    AuthResult Unit :=
  if requireNonempty && values.isEmpty then
    invalidAuthorizationOptions (label ++ " must contain a value")
  else if maxOidcAuthorizationValues < values.length then
    invalidAuthorizationOptions (label ++ " contains too many values")
  else validateValuesFrom label [] 0 values

namespace OidcAuthorizationPolicy

def promptParameter (self : OidcAuthorizationPolicy) : Option String :=
  if self.prompt.isEmpty then none else some (" ".intercalate (self.prompt.map OidcPrompt.asStr))

def acrValuesParameter (self : OidcAuthorizationPolicy) : Option String :=
  if self.acrValues.isEmpty then none else some (" ".intercalate self.acrValues)

/-- The members of the `id_token` request; a JSON map keeps its keys in order. -/
def idTokenRequest (self : OidcAuthorizationPolicy) : List (String × JsonValue) :=
  (if self.essentialAcrValues.isEmpty then []
    else [("acr", .object [("essential", .bool true),
      ("values", .array (self.essentialAcrValues.map .string))])]) ++
  (match self.essentialAcrsValue with
    | none => []
    | some value => [("acrs", .object [("essential", .bool true), ("value", .string value)])]) ++
  (if self.essentialAuthTime then [("auth_time", .object [("essential", .bool true)])] else [])

/-- `jsonText` is `serde_json::to_string`, which does not fail on a JSON value. -/
def claimsParameter (jsonText : JsonValue → String) (self : OidcAuthorizationPolicy) :
    AuthResult (Option String) :=
  if !self.essentialAuthTime && self.essentialAcrValues.isEmpty &&
      self.essentialAcrsValue.isNone then .ok none
  else
    let serialized := jsonText (.object [("id_token", .object self.idTokenRequest)])
    if maxOidcClaimsRequestLength < serialized.utf8ByteSize then
      invalidAuthorizationOptions "claims request exceeds the size limit"
    else .ok (some serialized)

def validateStoredVersion (self : OidcAuthorizationPolicy) : AuthResult Unit :=
  match self.version, self.essentialAcrsValue with
  | 1, some _ =>
      invalidAuthorizationOptions "stored version 1 policy contains an acrs requirement"
  | 1, none => .ok ()
  | 2, none =>
      invalidAuthorizationOptions "stored version 2 policy is missing its acrs requirement"
  | 2, some _ => .ok ()
  | _, _ => invalidAuthorizationOptions "stored authorization policy version is unsupported"

def validateStored (jsonText : JsonValue → String) (self : OidcAuthorizationPolicy) :
    AuthResult Unit := do
  self.validateStoredVersion
  if self.maxAgeSeconds.any (maxOidcMaxAgeSeconds < ·) then
    invalidAuthorizationOptions "stored max_age exceeds the finite limit"
  if maxOidcAuthorizationValues < self.prompt.length then
    invalidAuthorizationOptions "stored policy has too many prompt values"
  if ¬self.prompt.Nodup then
    invalidAuthorizationOptions "stored policy has duplicate prompt values"
  if OidcPrompt.none ∈ self.prompt ∧ self.prompt.length ≠ 1 then
    invalidAuthorizationOptions "stored prompt none has an invalid combination"
  validateValues "stored acr_values" self.acrValues false
  validateValues "stored essential acr" self.essentialAcrValues (!self.essentialAcrValues.isEmpty)
  match self.essentialAcrsValue with
  | none => pure ()
  | some value => validateValues "stored essential acrs" [value] true
  if !self.acrValues.isEmpty && !self.essentialAcrValues.isEmpty then
    invalidAuthorizationOptions "stored policy combines voluntary and essential acr requests"
  let _serialized ← self.claimsParameter jsonText

end OidcAuthorizationPolicy

/-- The essential claims read so far. -/
structure EssentialClaims where
  authTime : Bool := false
  acrValues : List String := []
  acrsValue : Option String := none

def readEssentialClaim (read : EssentialClaims) :
    OidcIdTokenClaimRequest → AuthResult EssentialClaims
  | .essentialAuthTime =>
      if read.authTime then invalidAuthorizationOptions "duplicate auth_time claim requirement"
      else .ok { read with authTime := true }
  | .essentialAcr values =>
      if !read.acrValues.isEmpty then
        invalidAuthorizationOptions "duplicate acr claim requirement"
      else do
        validateValues "essential acr" values true
        pure { read with acrValues := values }
  | .essentialAcrs value =>
      if read.acrsValue.isSome then
        invalidAuthorizationOptions "duplicate acrs claim requirement"
      else do
        validateValues "essential acrs" [value] true
        pure { read with acrsValue := some value }

def validateMaxAge : Option Int → AuthResult (Option Nat)
  | none => .ok none
  | some value =>
      if value < 0 then invalidAuthorizationOptions "max_age must be non-negative"
      else if (maxOidcMaxAgeSeconds : Int) < value then
        invalidAuthorizationOptions "max_age exceeds the finite limit"
      else .ok (some value.toNat)

/-- `OidcAuthorizationPolicy::try_from`. -/
def OidcAuthorizationOptions.validate (jsonText : JsonValue → String)
    (self : OidcAuthorizationOptions) : AuthResult OidcAuthorizationPolicy := do
  if maxOidcAuthorizationValues < self.prompt.length then
    invalidAuthorizationOptions "too many prompt values"
  if ¬self.prompt.Nodup then invalidAuthorizationOptions "duplicate prompt value"
  if OidcPrompt.none ∈ self.prompt ∧ self.prompt.length ≠ 1 then
    invalidAuthorizationOptions "prompt none cannot be combined with another prompt"
  let maxAgeSeconds ← validateMaxAge self.maxAge
  validateValues "acr_values" self.acrValues false
  let essential ← self.idTokenClaims.foldlM readEssentialClaim {}
  if !self.acrValues.isEmpty && !essential.acrValues.isEmpty then
    invalidAuthorizationOptions "acr_values and an essential acr claim cannot be combined"
  let policy : OidcAuthorizationPolicy := {
    version := if essential.acrsValue.isSome then 2 else 1
    prompt := self.prompt
    maxAgeSeconds
    acrValues := self.acrValues
    essentialAuthTime := essential.authTime
    essentialAcrValues := essential.acrValues
    essentialAcrsValue := essential.acrsValue }
  let _serialized ← policy.claimsParameter jsonText
  pure policy

end AgqlAuth
