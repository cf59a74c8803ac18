import AgqlAuth.Service.Grant
import AgqlAuth.Token.Service

/-!
# Purpose tokens and password-reset tokens

The two other kinds of token that a service signs with its key.
-/

namespace AgqlAuth

open Json

def purposeTokenType : String := "purpose_token"

structure PurposeTokenClaims where
  typ : String
  sub : String
  sid : Option String
  scopes : List String
  purpose : String
  iss : String
  aud : String
  exp : Int
  iat : Int
  custom : Entries

namespace PurposeTokenClaims

def fields : List String :=
  ["typ", "sub", "sid", "scopes", "purpose", "iss", "aud", "exp", "iat"]

def slots (self : PurposeTokenClaims) : Slots := [
  ("typ", some (string.write self.typ)),
  ("sub", some (string.write self.sub)),
  ("sid", self.sid.map string.write),
  ("scopes", some ((list string).write self.scopes)),
  ("purpose", some (string.write self.purpose)),
  ("iss", some (string.write self.iss)),
  ("aud", some (string.write self.aud)),
  ("exp", some (i64.write self.exp)),
  ("iat", some (i64.write self.iat))]

def entries (self : PurposeTokenClaims) : Entries := self.slots.present ++ self.custom

def toJson (self : PurposeTokenClaims) : JsonValue := .object self.entries

def ofEntries (entries : Entries) : Option PurposeTokenClaims := do
  let typ ← required string entries "typ"
  let sub ← required string entries "sub"
  let sid ← optional string entries "sid"
  let scopes ← defaulted (list string) [] entries "scopes"
  let purpose ← required string entries "purpose"
  let iss ← required string entries "iss"
  let aud ← required string entries "aud"
  let exp ← required i64 entries "exp"
  let iat ← required i64 entries "iat"
  some {
    typ, sub, sid, scopes, purpose, iss, aud, exp, iat
    custom := collectEntries (unnamed fields entries) }

def ofJson (payload : JsonValue) : Option PurposeTokenClaims := (entriesOf payload).bind ofEntries

theorem writtenFrom (self : PurposeTokenClaims)
    (unreserved : ∀ entry ∈ self.custom, entry.1 ∉ fields) :
    WrittenFrom self.slots self.custom self.entries where
  distinct := by
    have names : self.slots.names = fields := rfl
    rw [names]
    decide
  apart := unreserved
  entries_eq := rfl

end PurposeTokenClaims

structure PurposeTokenIssueRequest where
  subject : String
  purpose : String
  audience : String
  ttl : Duration
  sessionId : Option Uuid := none
  scopes : List String := []
  claims : ClaimMap := .empty

structure IssuedPurposeToken where
  token : String
  subject : String
  purpose : String
  audience : String
  sessionId : Option Uuid
  scopes : List String
  claims : ClaimMap
  expiresAt : OffsetDateTime

structure PurposeTokenValidation where
  purpose : String
  audience : String

structure VerifiedPurposeToken where
  subject : String
  purpose : String
  audience : String
  sessionId : Option Uuid
  scopes : List String
  claims : Entries
  issuedAt : OffsetDateTime
  expiresAt : OffsetDateTime

def reservedPurposeTokenClaims : List String :=
  ["typ", "sub", "sid", "scopes", "purpose", "iss", "aud", "exp", "iat"]

/-- The first custom claim that is blank or reserved decides the error. -/
def checkPurposeClaimNames : List String → AuthResult Unit
  | [] => .ok ()
  | key :: rest =>
      if (trim key).isEmpty then
        .error (.invalidConfiguration "purpose token custom claim name must not be empty")
      else if reservedPurposeTokenClaims.contains key then
        .error (.invalidConfiguration ("purpose token custom claim '" ++ key ++ "' is reserved"))
      else checkPurposeClaimNames rest

def validatePurposeTokenIssueRequest (request : PurposeTokenIssueRequest) : AuthResult Unit :=
  if (trim request.subject).isEmpty then
    .error (.invalidConfiguration "purpose token subject must not be empty")
  else if (trim request.purpose).isEmpty then
    .error (.invalidConfiguration "purpose token purpose must not be empty")
  else if (trim request.audience).isEmpty then
    .error (.invalidConfiguration "purpose token audience must not be empty")
  else if request.ttl ≤ Duration.zero then
    .error (.invalidConfiguration "purpose token ttl must be greater than zero")
  else checkPurposeClaimNames request.claims.keys

theorem unreserved_of_checkPurposeClaimNames {keys : List String}
    (accepted : checkPurposeClaimNames keys = .ok ()) :
    ∀ key ∈ keys, key ∉ PurposeTokenClaims.fields := by
  induction keys with
  | nil => simp
  | cons key rest ih =>
      simp only [checkPurposeClaimNames, Except.ite_error_eq_ok_iff] at accepted
      obtain ⟨-, free, accepted⟩ := accepted
      intro name mem
      rcases List.mem_cons.mp mem with rfl | mem
      · simpa [reservedPurposeTokenClaims, PurposeTokenClaims.fields] using free
      · exact ih accepted name mem

theorem custom_unreserved {request : PurposeTokenIssueRequest}
    (accepted : validatePurposeTokenIssueRequest request = .ok ()) :
    ∀ entry ∈ request.claims.entries, entry.1 ∉ PurposeTokenClaims.fields := by
  simp only [validatePurposeTokenIssueRequest, Except.ite_error_eq_ok_iff] at accepted
  obtain ⟨-, -, -, -, accepted⟩ := accepted
  intro entry mem
  exact unreserved_of_checkPurposeClaimNames accepted entry.1 (List.mem_map_of_mem mem)

def PurposeTokenIssueRequest.toClaims (self : PurposeTokenIssueRequest) (issuer : String)
    (issuedAt expiresAt : OffsetDateTime) : PurposeTokenClaims where
  typ := purposeTokenType
  sub := self.subject
  sid := self.sessionId.map (·.toString)
  scopes := self.scopes
  purpose := self.purpose
  iss := issuer
  aud := self.audience
  exp := expiresAt.unixTimestamp
  iat := issuedAt.unixTimestamp
  custom := self.claims.entries

def mapPurposeTokenDecodeError : JwtErrorKind → AuthError
  | .expiredSignature => .purposeTokenExpired
  | .other => .invalidPurposeToken

def passwordResetTokenType : String := "password_reset"
def passwordResetTokenPurpose : String := "password_reset"

structure PasswordResetTokenClaims where
  sub : String
  jti : String
  typ : Option String
  purpose : String
  iss : String
  aud : String
  exp : Int
  iat : Int

namespace PasswordResetTokenClaims

def fields : List String := ["sub", "jti", "typ", "purpose", "iss", "aud", "exp", "iat"]

def slots (self : PasswordResetTokenClaims) : Slots := [
  ("sub", some (string.write self.sub)),
  ("jti", some (string.write self.jti)),
  ("typ", self.typ.map string.write),
  ("purpose", some (string.write self.purpose)),
  ("iss", some (string.write self.iss)),
  ("aud", some (string.write self.aud)),
  ("exp", some (i64.write self.exp)),
  ("iat", some (i64.write self.iat))]

def entries (self : PasswordResetTokenClaims) : Entries := self.slots.present

def toJson (self : PasswordResetTokenClaims) : JsonValue := .object self.entries

def ofEntries (entries : Entries) : Option PasswordResetTokenClaims := do
  let sub ← required string entries "sub"
  let jti ← required string entries "jti"
  let typ ← optional string entries "typ"
  let purpose ← required string entries "purpose"
  let iss ← required string entries "iss"
  let aud ← required string entries "aud"
  let exp ← required i64 entries "exp"
  let iat ← required i64 entries "iat"
  some { sub, jti, typ, purpose, iss, aud, exp, iat }

def ofJson (payload : JsonValue) : Option PasswordResetTokenClaims :=
  (fieldsOf fields 8 payload).bind ofEntries

theorem writtenFrom (self : PasswordResetTokenClaims) :
    WrittenFrom self.slots [] self.entries :=
  .alone (show _ = fields from rfl) (by decide)

end PasswordResetTokenClaims

structure PasswordResetToken where
  userId : String
  tokenId : Uuid
  token : String
  expiresAt : OffsetDateTime

structure VerifiedPasswordResetToken where
  userId : String
  tokenId : Uuid
  issuedAt : OffsetDateTime
  expiresAt : OffsetDateTime

def mapPasswordResetDecodeError : JwtErrorKind → AuthError
  | .expiredSignature => .passwordResetTokenExpired
  | .other => .invalidPasswordResetToken

namespace JwtService

variable {lib : JwtLibrary}

/-- `encode_local_jwt` of any claim set. -/
def encodeLocalJwt (self : JwtService lib) (payload : JsonValue) : AuthResult String :=
  match self.keys.encode payload with
  | .ok token => .ok token
  | .error detail => .error (.tokenCreation detail)

theorem encode_of_encodeLocalJwt {svc : JwtService lib} {payload : JsonValue} {token : String}
    (encoded : svc.encodeLocalJwt payload = .ok token) : svc.keys.encode payload = .ok token := by
  unfold encodeLocalJwt at encoded
  split at encoded
  · rename_i encode_eq
    cases encoded
    exact encode_eq
  · cases encoded

def issuePurposeToken (self : JwtService lib) (request : PurposeTokenIssueRequest)
    (issuedAt : OffsetDateTime) : AuthResult IssuedPurposeToken := do
  validatePurposeTokenIssueRequest request
  if self.auth.fixedDelegationAudience.any fun reserved =>
      eqIgnoreAsciiCase reserved request.audience then
    throw .forbidden
  else do
    let expiresAt ← checkedJwtExpiry issuedAt request.ttl "purpose-token ttl"
    let token ← self.encodeLocalJwt
      (request.toClaims self.auth.config.issuer issuedAt expiresAt).toJson
    pure {
      token
      subject := request.subject
      purpose := request.purpose
      audience := request.audience
      sessionId := request.sessionId
      scopes := request.scopes
      claims := request.claims
      expiresAt }

/-- The checks on decoded purpose claims. -/
def verifyPurposeClaims (claims : PurposeTokenClaims) (expected : PurposeTokenValidation)
    (now : OffsetDateTime) : AuthResult VerifiedPurposeToken :=
  if claims.exp ≤ now.unixTimestamp then .error .purposeTokenExpired
  else if claims.typ ≠ purposeTokenType ∨ claims.purpose ≠ expected.purpose ∨
      claims.aud ≠ expected.audience then .error .invalidPurposeToken
  else
    match claims.sid.mapM Uuid.parse, OffsetDateTime.fromUnixTimestamp claims.iat,
      OffsetDateTime.fromUnixTimestamp claims.exp with
    | some sessionId, some issuedAt, some expiresAt => .ok {
        subject := claims.sub
        purpose := claims.purpose
        audience := claims.aud
        sessionId
        scopes := claims.scopes
        claims := claims.custom
        issuedAt
        expiresAt }
    | _, _, _ => .error .invalidPurposeToken

/-- The library reads the clock at `validatedAt`, the service then at `now`. -/
def authenticatePurposeToken (self : JwtService lib) (token : String)
    (expected : PurposeTokenValidation) (validatedAt : Int) (now : OffsetDateTime) :
    AuthResult VerifiedPurposeToken :=
  if (trim expected.purpose).isEmpty || (trim expected.audience).isEmpty then
    .error .invalidPurposeToken
  else
    match self.validateLocalJwtHeader token with
    | .error _ => .error .invalidPurposeToken
    | .ok () =>
        match lib.decode PurposeTokenClaims.ofJson token self.keys.decodingKey
            (self.validationForAudience expected.audience) validatedAt with
        | .error e => .error (mapPurposeTokenDecodeError e)
        | .ok claims => verifyPurposeClaims claims expected now

/-- The part after the identifier was drawn. -/
def signPasswordResetToken (self : JwtService lib) (userId : String)
    (issuedAt expiresAt : OffsetDateTime) (tokenId : Uuid) : AuthResult PasswordResetToken := do
  let claims : PasswordResetTokenClaims := {
    sub := userId
    jti := tokenId.toString
    typ := some passwordResetTokenType
    purpose := passwordResetTokenPurpose
    iss := self.auth.config.issuer
    aud := self.auth.config.audience
    exp := expiresAt.unixTimestamp
    iat := issuedAt.unixTimestamp }
  let token ← self.encodeLocalJwt claims.toJson
  pure { userId, tokenId, token, expiresAt }

def issuePasswordResetTokenWithTtl (self : JwtService lib) (userId : String) (ttl : Duration)
    (issuedAt : OffsetDateTime) (tokenId : Uuid) : AuthResult PasswordResetToken := do
  let expiresAt ← checkedJwtExpiry issuedAt ttl "password-reset ttl"
  self.signPasswordResetToken userId issuedAt expiresAt tokenId

/-- The checks on decoded password-reset claims. -/
def verifyPasswordResetClaims (claims : PasswordResetTokenClaims) (now : OffsetDateTime) :
    AuthResult VerifiedPasswordResetToken :=
  if (claims.typ ≠ none ∧ claims.typ ≠ some passwordResetTokenType) ∨
      claims.purpose ≠ passwordResetTokenPurpose then .error .invalidPasswordResetToken
  else
    match Uuid.parse claims.jti, OffsetDateTime.fromUnixTimestamp claims.iat,
      OffsetDateTime.fromUnixTimestamp claims.exp with
    | some tokenId, some issuedAt, some expiresAt =>
        if expiresAt ≤ now then .error .passwordResetTokenExpired
        else .ok { userId := claims.sub, tokenId, issuedAt, expiresAt }
    | _, _, _ => .error .invalidPasswordResetToken

def authenticatePasswordResetToken (self : JwtService lib) (token : String) (validatedAt : Int)
    (now : OffsetDateTime) : AuthResult VerifiedPasswordResetToken :=
  match self.validateLocalJwtHeader token with
  | .error _ => .error .invalidPasswordResetToken
  | .ok () =>
      match lib.decode PasswordResetTokenClaims.ofJson token self.keys.decodingKey
          self.keys.validation validatedAt with
      | .error e => .error (mapPasswordResetDecodeError e)
      | .ok claims => verifyPasswordResetClaims claims now

end JwtService

end AgqlAuth
