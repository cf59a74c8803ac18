import AgqlAuth.Token.RoundTrip
import AgqlAuth.Token.Separation

/-!
# Purpose and password-reset tokens authenticate

Both kinds are read with the expiry check of the JWT library, which allows some
leeway, and then with a check of the service that allows none.  Until its last
second a token gives back what it was issued for, and afterwards it is expired.
-/

namespace AgqlAuth

open Json

/--
Documented expiry validation of the JWT library, once the other registered claims
are met: `exp` may lie in the past by the leeway.
-/
def JwtLibrary.ChecksExpiry (lib : JwtLibrary) : Prop :=
  ∀ (validation : Validation) (now exp : Int) (entries : Entries),
    validation.validateExp = true → validation.validateNbf = false →
    Meets { validation with validateExp := false, validateNbf := false } entries exp →
    FitsI64 exp → 0 ≤ exp → validation.leeway ≤ now →
      lib.validate validation now (.object entries) =
        if exp < now - validation.leeway then .error .expiredSignature else .ok ()

theorem tableLibrary_checksExpiry (table : List TableEntry) :
    (tableLibrary table).ChecksExpiry := by
  intro validation now exp entries timed _ meets fits _ _
  have untimed := validateRegistered_of_meets now meets
  have read : claimsUnexpired entries (now - validation.leeway) =
      decide (now - validation.leeway ≤ exp) := by
    rw [claimsUnexpired, meets.expiry]
    simp only [i64, readI64_writeI64 fits, Option.any_some]
  simp only [tableLibrary, validateRegistered, timed, read, Bool.true_and] at untimed ⊢
  simp only [Bool.false_and, Bool.false_eq_true, if_false] at untimed
  split at untimed
  · cases untimed
  rename_i present
  rw [if_neg present]
  by_cases expired : exp < now - validation.leeway
  · simp [expired, not_le.mpr expired]
  · rw [if_neg expired, decide_eq_true (not_lt.mp expired)]
    simpa using untimed

section Local

variable {lib : JwtLibrary} {svc : JwtService lib} {entries : Entries}
variable {audience subject token : String} {iat exp : Int}

/-- The registered claims of a token the service signs for `audience`. -/
structure Registered (svc : JwtService lib) (audience : String) (iat exp : Int)
    (entries : Entries) : Prop where
  iss : occurrences "iss" entries = [.string svc.auth.config.issuer]
  aud : occurrences "aud" entries = [.string audience]
  sub : ∃ subject, occurrences "sub" entries = [.string subject]
  exp : occurrences "exp" entries = [i64.write exp]
  iat : occurrences "iat" entries = [i64.write iat]

theorem Registered.meets (registered : Registered svc audience iat exp entries) :
    Meets { svc.validationForAudience audience with validateExp := false, validateNbf := false }
      entries exp where
  untimed := ⟨rfl, rfl⟩
  required := by simp [JwtService.validationForAudience, validationFor, Validation.new]
  issuer := ⟨_, rfl, svc.auth.config.issuer, List.mem_cons_self, registered.iss⟩
  audience := ⟨_, rfl, audience, List.mem_cons_self, registered.aud⟩
  subject := registered.sub
  expiry := registered.exp
  issuedAt := ⟨iat, registered.iat⟩

/-- The service's own header is expected. -/
theorem validateLocalJwtHeader_of_encode (faithful : lib.Faithful) {payload : JsonValue}
    (encoded : svc.keys.encode payload = .ok token) :
    svc.validateLocalJwtHeader token = .ok () := by
  have kid : kidExpected svc.keys.keyId svc.keys.header.kid = true := kidExpected_self _
  have alg : svc.keys.header.alg = svc.keys.algorithm := rfl
  rw [JwtService.validateLocalJwtHeader, faithful.header encoded]
  simp only [alg, kid, ne_eq, not_true_eq_false, if_false, Bool.not_true, Bool.false_eq_true]

/-- What the service signed decodes, up to the leeway after its expiry. -/
theorem decode_of_encode (faithful : lib.Faithful) (checks : lib.ChecksExpiry) {α : Type}
    {read : JsonValue → Option α} {claims : α}
    (encoded : svc.keys.encode (.object entries) = .ok token)
    (registered : Registered svc audience iat exp entries) (fits : FitsI64 exp) (epoch : 0 ≤ exp)
    (typed : read (.object entries) = some claims) {now : Int} (recent : 60 ≤ now) :
    lib.decode read token svc.keys.decodingKey (svc.validationForAudience audience) now =
      if exp < now - 60 then .error .expiredSignature else .ok claims := by
  have verified := svc.origin.verify faithful encoded
  have checked := checks (svc.validationForAudience audience) now exp entries rfl rfl
    registered.meets fits epoch recent
  have leeway : ((svc.validationForAudience audience).leeway : Int) = 60 := rfl
  rw [leeway] at checked
  rw [JwtLibrary.decode, show (svc.validationForAudience audience).algorithms = [svc.keys.algorithm]
    from rfl, verified]
  simp only [typed, checked]
  by_cases expired : exp < now - 60
  · simp only [if_pos expired]
  · simp only [if_neg expired]

/-- A token for one audience is not decoded for another. -/
theorem decode_of_other_audience (faithful : lib.Faithful) {α : Type}
    (read : JsonValue → Option α)
    (encoded : svc.keys.encode (.object entries) = .ok token)
    (registered : Registered svc audience iat exp entries) {other : String}
    (apart : other ≠ audience) (now : Int) :
    ∃ e, lib.decode read token svc.keys.decodingKey (svc.validationForAudience other) now =
      .error e := by
  cases outcome : lib.decode read token svc.keys.decodingKey (svc.validationForAudience other) now with
  | error e => exact ⟨e, rfl⟩
  | ok claims =>
      obtain ⟨payload, verified, -, valid⟩ := JwtLibrary.decode_ok outcome
      have opened := svc.origin.verify faithful encoded
      obtain rfl : payload = .object entries := by
        rw [show (svc.validationForAudience other).algorithms = [svc.keys.algorithm] from rfl,
          opened] at verified
        exact (Except.ok.inj verified).symm
      obtain ⟨named, mem, names⟩ := faithful.audience rfl (audience_required svc other) rfl valid
      obtain rfl := List.mem_singleton.mp mem
      rcases names with text | ⟨values, array, -⟩
      · rw [registered.aud] at text
        injection text with text
        injection text with same
        exact absurd same.symm apart
      · rw [registered.aud] at array
        injection array with array
        cases array

end Local

theorem OffsetDateTime.second_lower (t : OffsetDateTime) :
    minUnixNanos ≤ t.unixTimestamp * nanosPerSecond := by
  have lower := t.lower
  simp only [minUnixNanos, nanosPerSecond, OffsetDateTime.unixTimestamp] at *
  omega

theorem OffsetDateTime.second_upper (t : OffsetDateTime) :
    t.unixTimestamp * nanosPerSecond ≤ maxUnixNanos := by
  have upper := t.upper
  simp only [maxUnixNanos, nanosPerSecond, OffsetDateTime.unixTimestamp] at *
  omega

/-- The instant that a timestamp claim names. -/
def OffsetDateTime.second (t : OffsetDateTime) : OffsetDateTime where
  unixNanos := t.unixTimestamp * nanosPerSecond
  lower := t.second_lower
  upper := t.second_upper

theorem fromUnixTimestamp_second (t : OffsetDateTime) :
    OffsetDateTime.fromUnixTimestamp t.unixTimestamp = some t.second :=
  dif_pos ⟨t.second.lower, t.second.upper⟩

/-- An instant is past a whole second once its own second is. -/
theorem second_le_iff {t now : OffsetDateTime} :
    t.second ≤ now ↔ t.unixTimestamp ≤ now.unixTimestamp := by
  change t.unixTimestamp * nanosPerSecond ≤ now.unixNanos ↔ _
  simp only [nanosPerSecond, OffsetDateTime.unixTimestamp]
  omega

theorem unixTimestamp_lt_of_checkedJwtExpiry {issuedAt expiresAt : OffsetDateTime} {ttl : Duration}
    {name : String} (checked : checkedJwtExpiry issuedAt ttl name = .ok expiresAt) :
    issuedAt.unixTimestamp < expiresAt.unixTimestamp := by
  unfold checkedJwtExpiry at checked
  split at checked
  · cases checked
  · split at checked
    · cases checked
    · rename_i later
      cases checked
      exact not_le.mp later

namespace PurposeTokenClaims

/-- Claims with no reserved custom name read back as they were written. -/
theorem ofJson_toJson {self : PurposeTokenClaims} (exp : FitsI64 self.exp) (iat : FitsI64 self.iat)
    (ascending : Ascending self.custom) (unreserved : ∀ entry ∈ self.custom, entry.1 ∉ fields) :
    ofJson self.toJson = some self := by
  have written := writtenFrom self unreserved
  have custom : collectEntries (unnamed fields self.entries) = self.custom := by
    have rest := written.unnamed_eq
    rw [show self.slots.names = fields from rfl] at rest
    rw [rest, collectEntries_of_ascending ascending]
  change ofEntries self.entries = _
  rw [ofEntries, custom,
    written.required_eq string 0 rfl trivial,
    written.required_eq string 1 rfl trivial,
    written.optional_eq string 2 rfl fun _ _ => trivial,
    written.defaulted_eq (list string) 3 rfl fun _ _ => trivial,
    written.required_eq string 4 rfl trivial,
    written.required_eq string 5 rfl trivial,
    written.required_eq string 6 rfl trivial,
    written.required_eq i64 7 rfl exp,
    written.required_eq i64 8 rfl iat]
  rfl

end PurposeTokenClaims

section Purpose

variable {lib : JwtLibrary} {svc : JwtService lib} {request : PurposeTokenIssueRequest}
variable {issuedAt : OffsetDateTime} {issued : IssuedPurposeToken}

/-- What issuing a purpose token signs and returns. -/
structure SignedPurpose (svc : JwtService lib) (request : PurposeTokenIssueRequest)
    (issuedAt : OffsetDateTime) (issued : IssuedPurposeToken) : Prop where
  named : (trim request.purpose).isEmpty = false ∧ (trim request.audience).isEmpty = false
  unreserved : ∀ entry ∈ request.claims.entries, entry.1 ∉ PurposeTokenClaims.fields
  later : issuedAt.unixTimestamp < issued.expiresAt.unixTimestamp
  encoded : svc.keys.encode
    (request.toClaims svc.auth.config.issuer issuedAt issued.expiresAt).toJson = .ok issued.token

theorem signedPurpose_of_issue (call : svc.issuePurposeToken request issuedAt = .ok issued) :
    SignedPurpose svc request issuedAt issued := by
  obtain ⟨⟨⟩, accepted, call⟩ := Except.exists_of_bind_eq_ok call
  obtain ⟨-, call⟩ := Except.ite_error_eq_ok_iff.mp call
  obtain ⟨expiresAt, checked, call⟩ := Except.exists_of_bind_eq_ok call
  obtain ⟨token, encoded, call⟩ := Except.exists_of_bind_eq_ok call
  cases call
  have unreserved := custom_unreserved accepted
  simp only [validatePurposeTokenIssueRequest, Except.ite_error_eq_ok_iff] at accepted
  obtain ⟨-, purpose, audience, -, -⟩ := accepted
  exact {
    named := ⟨by simpa using purpose, by simpa using audience⟩
    unreserved
    later := unixTimestamp_lt_of_checkedJwtExpiry checked
    encoded := JwtService.encode_of_encodeLocalJwt encoded }

/-- The principal a purpose token gives back. -/
def PurposeTokenIssueRequest.verified (self : PurposeTokenIssueRequest)
    (issuedAt expiresAt : OffsetDateTime) : VerifiedPurposeToken where
  subject := self.subject
  purpose := self.purpose
  audience := self.audience
  sessionId := self.sessionId
  scopes := self.scopes
  claims := self.claims.entries
  issuedAt := issuedAt.second
  expiresAt := expiresAt.second

theorem SignedPurpose.registered (signed : SignedPurpose svc request issuedAt issued) :
    Registered svc request.audience issuedAt.unixTimestamp issued.expiresAt.unixTimestamp
      (request.toClaims svc.auth.config.issuer issuedAt issued.expiresAt).entries := by
  have written := (request.toClaims svc.auth.config.issuer issuedAt issued.expiresAt).writtenFrom
    signed.unreserved
  exact {
    iss := written.occurrences_eq (List.mem_of_getElem? (i := 5) rfl)
    aud := written.occurrences_eq (List.mem_of_getElem? (i := 6) rfl)
    sub := ⟨_, written.occurrences_eq (List.mem_of_getElem? (i := 1) rfl)⟩
    exp := written.occurrences_eq (List.mem_of_getElem? (i := 7) rfl)
    iat := written.occurrences_eq (List.mem_of_getElem? (i := 8) rfl) }

theorem mapM_parse_toString (id : Option Uuid) :
    (id.map (·.toString)).mapM Uuid.parse = some id := by
  cases id with
  | none => rfl
  | some id =>
      change (Uuid.parse id.toString).map some = _
      rw [Uuid.parse_toString]
      rfl

/-- The service's own checks on the claims it wrote. -/
theorem verifyPurposeClaims_toClaims {issuer : String} {expiresAt : OffsetDateTime}
    (expected : PurposeTokenValidation) (now : OffsetDateTime) :
    JwtService.verifyPurposeClaims (request.toClaims issuer issuedAt expiresAt) expected now =
      if expiresAt.unixTimestamp ≤ now.unixTimestamp then .error .purposeTokenExpired
      else if request.purpose ≠ expected.purpose ∨ request.audience ≠ expected.audience then
        .error .invalidPurposeToken
      else .ok (request.verified issuedAt expiresAt) := by
  have sid := mapM_parse_toString request.sessionId
  have iat := fromUnixTimestamp_second issuedAt
  have exp := fromUnixTimestamp_second expiresAt
  simp only [JwtService.verifyPurposeClaims, PurposeTokenIssueRequest.toClaims, ne_eq, not_true_eq_false,
    false_or, sid, iat, exp]
  rfl

/--
Round trip of a purpose token.  A reader that expects its purpose and audience
gets the request back until the second of the expiry and is told that it expired
from then on, whatever the leeway of the JWT library; any other reader gets an
error.
-/
theorem purpose_token_round_trip (faithful : lib.Faithful) (checks : lib.ChecksExpiry)
    (call : svc.issuePurposeToken request issuedAt = .ok issued)
    (epoch : 0 ≤ issuedAt.unixTimestamp) (expected : PurposeTokenValidation)
    {validatedAt : Int} {now : OffsetDateTime} (recent : 60 ≤ validatedAt)
    (ticked : validatedAt ≤ now.unixTimestamp) :
    (expected.purpose = request.purpose → expected.audience = request.audience →
      svc.authenticatePurposeToken issued.token expected validatedAt now =
        if issued.expiresAt.unixTimestamp ≤ now.unixTimestamp then .error .purposeTokenExpired
        else .ok (request.verified issuedAt issued.expiresAt)) ∧
      (expected.purpose ≠ request.purpose ∨ expected.audience ≠ request.audience →
        ∃ e, svc.authenticatePurposeToken issued.token expected validatedAt now = .error e) := by
  have signed := signedPurpose_of_issue call
  have header := validateLocalJwtHeader_of_encode faithful signed.encoded
  have typed : PurposeTokenClaims.ofJson
      (request.toClaims svc.auth.config.issuer issuedAt issued.expiresAt).toJson = some _ :=
    PurposeTokenClaims.ofJson_toJson (fitsI64_unixTimestamp issued.expiresAt)
      (fitsI64_unixTimestamp issuedAt) request.claims.ascending signed.unreserved
  have later := signed.later
  have decoded := decode_of_encode faithful checks signed.encoded signed.registered
    (fitsI64_unixTimestamp _) (by omega) typed recent
  obtain ⟨purpose, audience⟩ := expected
  constructor
  · rintro rfl rfl
    have named : ((trim request.purpose).isEmpty || (trim request.audience).isEmpty) = false := by
      rw [signed.named.1, signed.named.2]
      rfl
    simp only [JwtService.authenticatePurposeToken, named, Bool.false_eq_true, if_false, header,
      decoded]
    by_cases expired : issued.expiresAt.unixTimestamp < validatedAt - 60
    · have passed : issued.expiresAt.unixTimestamp ≤ now.unixTimestamp := by omega
      simp only [if_pos expired, if_pos passed]
      rfl
    · simp only [if_neg expired, verifyPurposeClaims_toClaims, ne_eq, not_true_eq_false, or_self,
        if_false]
  · intro apart
    unfold JwtService.authenticatePurposeToken
    split
    · exact ⟨_, rfl⟩
    rw [header]
    by_cases same : audience = request.audience
    · subst same
      have other : request.purpose ≠ purpose := fun same => apart.resolve_right (not_not.mpr rfl) same.symm
      simp only [decoded]
      by_cases expired : issued.expiresAt.unixTimestamp < validatedAt - 60
      · simp only [if_pos expired]
        exact ⟨_, rfl⟩
      · simp only [if_neg expired, verifyPurposeClaims_toClaims]
        split
        · exact ⟨_, rfl⟩
        · exact ⟨_, if_pos (.inl other)⟩
    · obtain ⟨e, refused⟩ := decode_of_other_audience faithful PurposeTokenClaims.ofJson
        signed.encoded signed.registered same validatedAt
      simp only [refused]
      exact ⟨_, rfl⟩

end Purpose

/-- The token of the imitating request, read on time and after its expiry. -/
theorem purpose_token_round_trip_of_imitation :
    ∃ issued, (secretService imitationTable).issuePurposeToken imitation askedAt = .ok issued ∧
      ∀ now : OffsetDateTime, 60 ≤ now.unixTimestamp →
        (secretService imitationTable).authenticatePurposeToken issued.token
            { purpose := passwordResetTokenPurpose, audience := "app" } now.unixTimestamp now =
          if issued.expiresAt.unixTimestamp ≤ now.unixTimestamp then .error .purposeTokenExpired
          else .ok (imitation.verified askedAt issued.expiresAt) := by
  obtain ⟨issued, call⟩ : ∃ issued,
      (secretService imitationTable).issuePurposeToken imitation askedAt = .ok issued := ⟨_, rfl⟩
  refine ⟨issued, call, fun now recent => ?_⟩
  exact (purpose_token_round_trip (tableLibrary_faithful imitationTable)
    (tableLibrary_checksExpiry imitationTable) call (by decide)
    { purpose := passwordResetTokenPurpose, audience := "app" } recent le_rfl).1 rfl rfl

namespace PasswordResetTokenClaims

theorem ofJson_toJson {self : PasswordResetTokenClaims} (exp : FitsI64 self.exp)
    (iat : FitsI64 self.iat) : ofJson self.toJson = some self := by
  have written := writtenFrom self
  change ofEntries self.entries = _
  rw [ofEntries,
    written.required_eq string 0 rfl trivial,
    written.required_eq string 1 rfl trivial,
    written.optional_eq string 2 rfl fun _ _ => trivial,
    written.required_eq string 3 rfl trivial,
    written.required_eq string 4 rfl trivial,
    written.required_eq string 5 rfl trivial,
    written.required_eq i64 6 rfl exp,
    written.required_eq i64 7 rfl iat]
  rfl

end PasswordResetTokenClaims

section PasswordReset

variable {lib : JwtLibrary} {svc : JwtService lib} {userId : String} {ttl : Duration}
variable {issuedAt : OffsetDateTime} {tokenId : Uuid} {issued : PasswordResetToken}

def resetClaims (svc : JwtService lib) (userId : String) (tokenId : Uuid)
    (issuedAt expiresAt : OffsetDateTime) : PasswordResetTokenClaims where
  sub := userId
  jti := tokenId.toString
  typ := some passwordResetTokenType
  purpose := passwordResetTokenPurpose
  iss := svc.auth.config.issuer
  aud := svc.auth.config.audience
  exp := expiresAt.unixTimestamp
  iat := issuedAt.unixTimestamp

/-- What a reset token gives back. -/
def VerifiedPasswordResetToken.of (userId : String) (tokenId : Uuid)
    (issuedAt expiresAt : OffsetDateTime) : VerifiedPasswordResetToken where
  userId
  tokenId
  issuedAt := issuedAt.second
  expiresAt := expiresAt.second

/-- What issuing a reset token signs and returns. -/
structure SignedReset (svc : JwtService lib) (userId : String) (tokenId : Uuid)
    (issuedAt : OffsetDateTime) (issued : PasswordResetToken) : Prop where
  userId_eq : issued.userId = userId
  tokenId_eq : issued.tokenId = tokenId
  later : issuedAt.unixTimestamp < issued.expiresAt.unixTimestamp
  encoded : svc.keys.encode (resetClaims svc userId tokenId issuedAt issued.expiresAt).toJson =
    .ok issued.token

theorem signedReset_of_issue
    (call : svc.issuePasswordResetTokenWithTtl userId ttl issuedAt tokenId = .ok issued) :
    SignedReset svc userId tokenId issuedAt issued := by
  obtain ⟨expiresAt, checked, call⟩ := Except.exists_of_bind_eq_ok call
  obtain ⟨token, encoded, call⟩ := Except.exists_of_bind_eq_ok call
  cases call
  exact {
    userId_eq := rfl
    tokenId_eq := rfl
    later := unixTimestamp_lt_of_checkedJwtExpiry checked
    encoded := JwtService.encode_of_encodeLocalJwt encoded }

theorem registered_resetClaims (expiresAt : OffsetDateTime) :
    Registered svc svc.auth.config.audience issuedAt.unixTimestamp expiresAt.unixTimestamp
      (resetClaims svc userId tokenId issuedAt expiresAt).entries := by
  have written := (resetClaims svc userId tokenId issuedAt expiresAt).writtenFrom
  exact {
    iss := written.occurrences_eq (List.mem_of_getElem? (i := 4) rfl)
    aud := written.occurrences_eq (List.mem_of_getElem? (i := 5) rfl)
    sub := ⟨_, written.occurrences_eq (List.mem_of_getElem? (i := 0) rfl)⟩
    exp := written.occurrences_eq (List.mem_of_getElem? (i := 6) rfl)
    iat := written.occurrences_eq (List.mem_of_getElem? (i := 7) rfl) }

theorem verifyPasswordResetClaims_resetClaims {expiresAt : OffsetDateTime} (now : OffsetDateTime) :
    JwtService.verifyPasswordResetClaims (resetClaims svc userId tokenId issuedAt expiresAt) now =
      if expiresAt.unixTimestamp ≤ now.unixTimestamp then .error .passwordResetTokenExpired
      else .ok (.of userId tokenId issuedAt expiresAt) := by
  have jti := Uuid.parse_toString tokenId
  have iat := fromUnixTimestamp_second issuedAt
  have exp := fromUnixTimestamp_second expiresAt
  simp only [JwtService.verifyPasswordResetClaims, resetClaims, ne_eq, not_true_eq_false, and_false,
    or_self, if_false, jti, iat, exp, second_le_iff]
  rfl

/--
Round trip of a reset token: the user and the token id it was issued for, until
the second of its expiry.
-/
theorem password_reset_token_round_trip (faithful : lib.Faithful) (checks : lib.ChecksExpiry)
    (call : svc.issuePasswordResetTokenWithTtl userId ttl issuedAt tokenId = .ok issued)
    (epoch : 0 ≤ issuedAt.unixTimestamp) {validatedAt : Int} {now : OffsetDateTime}
    (recent : 60 ≤ validatedAt) (ticked : validatedAt ≤ now.unixTimestamp) :
    svc.authenticatePasswordResetToken issued.token validatedAt now =
      if issued.expiresAt.unixTimestamp ≤ now.unixTimestamp then .error .passwordResetTokenExpired
      else .ok (.of userId tokenId issuedAt issued.expiresAt) := by
  have signed := signedReset_of_issue call
  have header := validateLocalJwtHeader_of_encode faithful signed.encoded
  have typed : PasswordResetTokenClaims.ofJson
      (resetClaims svc userId tokenId issuedAt issued.expiresAt).toJson = some _ :=
    PasswordResetTokenClaims.ofJson_toJson (fitsI64_unixTimestamp issued.expiresAt)
      (fitsI64_unixTimestamp issuedAt)
  have later := signed.later
  have decoded := decode_of_encode faithful checks signed.encoded
    (registered_resetClaims issued.expiresAt) (fitsI64_unixTimestamp _) (by omega) typed recent
  have validation : svc.keys.validation =
      svc.validationForAudience svc.auth.config.audience := svc.origin.validation_eq
  simp only [JwtService.authenticatePasswordResetToken, header, validation, decoded]
  by_cases expired : issued.expiresAt.unixTimestamp < validatedAt - 60
  · have passed : issued.expiresAt.unixTimestamp ≤ now.unixTimestamp := by omega
    simp only [if_pos expired, if_pos passed]
    rfl
  · simp only [if_neg expired, verifyPasswordResetClaims_resetClaims]

/-- Whatever the clocks said, a reset token that is accepted gives back what it was issued for. -/
theorem eq_of_authenticatePasswordResetToken (faithful : lib.Faithful)
    (signed : SignedReset svc userId tokenId issuedAt issued) {validatedAt : Int}
    {now : OffsetDateTime} {verified : VerifiedPasswordResetToken}
    (accepted : svc.authenticatePasswordResetToken issued.token validatedAt now = .ok verified) :
    verified = .of userId tokenId issuedAt issued.expiresAt ∧
      now.unixTimestamp < issued.expiresAt.unixTimestamp := by
  have typed : PasswordResetTokenClaims.ofJson
      (resetClaims svc userId tokenId issuedAt issued.expiresAt).toJson = some _ :=
    PasswordResetTokenClaims.ofJson_toJson (fitsI64_unixTimestamp issued.expiresAt)
      (fitsI64_unixTimestamp issuedAt)
  unfold JwtService.authenticatePasswordResetToken at accepted
  split at accepted
  · cases accepted
  split at accepted
  · cases accepted
  rename_i claims decoded
  obtain ⟨payload, verifies, read, -⟩ := JwtLibrary.decode_ok decoded
  rw [faithful.payload signed.encoded verifies, typed] at read
  cases read
  rw [verifyPasswordResetClaims_resetClaims] at accepted
  split at accepted
  · cases accepted
  · rename_i live
    cases accepted
    exact ⟨rfl, not_le.mp live⟩

end PasswordReset

def hourExpiry : OffsetDateTime := .atSecond 3660

def resetTable : List TableEntry := [{
  header := { alg := .hs256 }
  payload := PasswordResetTokenClaims.toJson {
    sub := "user-1"
    jti := Uuid.toString ⟨7⟩
    typ := some passwordResetTokenType
    purpose := passwordResetTokenPurpose
    iss := "issuer"
    aud := "app"
    exp := hourExpiry.unixTimestamp
    iat := askedAt.unixTimestamp }
  key := sharedSecret }]

theorem password_reset_token_round_trip_of_hour :
    ∃ issued, (secretService resetTable).issuePasswordResetTokenWithTtl "user-1" (.ofSeconds 3600)
        askedAt ⟨7⟩ = .ok issued ∧
      ∀ now : OffsetDateTime, 60 ≤ now.unixTimestamp →
        (secretService resetTable).authenticatePasswordResetToken issued.token
            now.unixTimestamp now =
          if issued.expiresAt.unixTimestamp ≤ now.unixTimestamp then
            .error .passwordResetTokenExpired
          else .ok (.of "user-1" ⟨7⟩ askedAt issued.expiresAt) := by
  obtain ⟨issued, call⟩ : ∃ issued, (secretService resetTable).issuePasswordResetTokenWithTtl
      "user-1" (.ofSeconds 3600) askedAt ⟨7⟩ = .ok issued := ⟨_, rfl⟩
  refine ⟨issued, call, fun now recent => ?_⟩
  exact password_reset_token_round_trip (tableLibrary_faithful resetTable)
    (tableLibrary_checksExpiry resetTable) call (by decide) recent le_rfl

end AgqlAuth
