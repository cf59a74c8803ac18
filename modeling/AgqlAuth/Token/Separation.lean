import AgqlAuth.Token.FixedAudience
import AgqlAuth.Token.Purpose
import AgqlAuth.Token.RoundTrip

/-!
# Kinds of token are kept apart

All kinds are signed with one key under one issuer.  What tells them apart is in
the payload: its `typ`, its `purpose` and its `aud`, which no custom claim can
imitate.
-/

namespace AgqlAuth

open Interaction Program Json

inductive TokenKind where
  | access
  | delegation (audience : String)
  | purpose (purpose audience : String)
  | passwordReset

namespace TokenKind

def typ : TokenKind → String
  | .access | .delegation _ => accessTokenType
  | .purpose .. => purposeTokenType
  | .passwordReset => passwordResetTokenType

def purposeClaim : TokenKind → String
  | .access | .delegation _ => accessTokenPurpose
  | .purpose asked _ => asked
  | .passwordReset => passwordResetTokenPurpose

def audienceOf (normal : String) : TokenKind → String
  | .access | .passwordReset => normal
  | .delegation audience | .purpose _ audience => audience

/-- Two kinds are typed as access tokens; they differ in their audience. -/
theorem of_typ_access {kind : TokenKind} (typ : kind.typ = accessTokenType) :
    kind = .access ∨ ∃ audience, kind = .delegation audience := by
  cases kind with
  | access => exact .inl rfl
  | delegation audience => exact .inr ⟨audience, rfl⟩
  | purpose => exact absurd typ (show purposeTokenType ≠ accessTokenType by decide)
  | passwordReset => exact absurd typ (show passwordResetTokenType ≠ accessTokenType by decide)

theorem of_typ_purpose {kind : TokenKind} (typ : kind.typ = purposeTokenType) :
    ∃ asked audience, kind = .purpose asked audience := by
  cases kind with
  | access => exact absurd typ (show accessTokenType ≠ purposeTokenType by decide)
  | delegation => exact absurd typ (show accessTokenType ≠ purposeTokenType by decide)
  | purpose asked audience => exact ⟨asked, audience, rfl⟩
  | passwordReset => exact absurd typ (show passwordResetTokenType ≠ purposeTokenType by decide)

theorem of_typ_passwordReset {kind : TokenKind} (typ : kind.typ = passwordResetTokenType) :
    kind = .passwordReset := by
  cases kind with
  | access => exact absurd typ (show accessTokenType ≠ passwordResetTokenType by decide)
  | delegation => exact absurd typ (show accessTokenType ≠ passwordResetTokenType by decide)
  | purpose => exact absurd typ (show purposeTokenType ≠ passwordResetTokenType by decide)
  | passwordReset => rfl

end TokenKind

/-- The claims by which a payload is told apart. -/
structure Marked (entries : Entries) (typ purpose audience : String) : Prop where
  typ : occurrences "typ" entries = [.string typ]
  purpose : occurrences "purpose" entries = [.string purpose]
  audience : occurrences "aud" entries = [.string audience]

/-- `token` carries the marks of its kind. -/
def CarriesMarks {lib : JwtLibrary} (svc : JwtService lib) (kind : TokenKind) (token : String) :
    Prop :=
  ∃ entries, svc.keys.encode (.object entries) = .ok token ∧
    Marked entries kind.typ kind.purposeClaim (kind.audienceOf svc.auth.config.audience)

/-- The tokens a service issues, by kind. -/
inductive IssuedToken {lib : JwtLibrary} (svc : JwtService lib) : TokenKind → String → Prop where
  | access {token : String} {expiresAt : OffsetDateTime} {user : AuthUser}
      (issued : IssuedAccess svc.auth token expiresAt user) : IssuedToken svc .access token
  | delegation {facade : FixedAudienceDelegation} (of : FacadeOf svc facade)
      {request : SessionBoundAccessTokenOnlyRequest} {h : DelegationHistory}
      {grant : AccessTokenOnlyGrant}
      (call : Path (facade.issueSessionBoundAccessTokenOnly (some svc.auth) request) h
        (ret (.ok grant))) :
      IssuedToken svc (.delegation facade.audience) grant.accessToken
  | purpose {request : PurposeTokenIssueRequest} {issuedAt : OffsetDateTime}
      {issued : IssuedPurposeToken}
      (call : svc.issuePurposeToken request issuedAt = .ok issued) :
      IssuedToken svc (.purpose request.purpose request.audience) issued.token
  | passwordReset {userId : String} {ttl : Duration} {issuedAt : OffsetDateTime} {tokenId : Uuid}
      {issued : PasswordResetToken}
      (call : svc.issuePasswordResetTokenWithTtl userId ttl issuedAt tokenId = .ok issued) :
      IssuedToken svc .passwordReset issued.token

section Issue

variable {lib : JwtLibrary} {svc : JwtService lib}

/-- A signed access token is marked for the audience it was signed for. -/
theorem marked_of_signAccessToken {user : AuthUser} {issuedAt expiresAt : OffsetDateTime}
    {audience token : String}
    (unreserved : ∀ entry ∈ user.tokenClaims.additional, entry.1 ∉ AccessTokenClaims.fields)
    (signed : svc.auth.signAccessToken user issuedAt expiresAt audience = .ok token) :
    ∃ entries, svc.keys.encode (.object entries) = .ok token ∧
      Marked entries accessTokenType accessTokenPurpose audience := by
  obtain ⟨scope, legacyScopes, -, -, encoded⟩ := AuthService.signAccessToken_ok signed
  rw [svc.encodes] at encoded
  refine ⟨_, encoded, ?_⟩
  have written :=
    (svc.auth.accessTokenClaims user scope legacyScopes issuedAt expiresAt audience).writtenFrom
      lib.instant unreserved
  exact {
    typ := written.occurrences_eq (List.mem_of_getElem? (i := 0) rfl)
    purpose := written.occurrences_eq (List.mem_of_getElem? (i := 13) rfl)
    audience := written.occurrences_eq (List.mem_of_getElem? (i := 9) rfl) }

theorem IssuedFromRead.marked {request : SessionBoundAccessTokenOnlyRequest}
    {audience jti : String} {second : VerifiedActiveUserSession} {now : OffsetDateTime}
    {grant : AccessTokenOnlyGrant}
    (issued : IssuedFromRead svc.auth request audience second now jti grant) :
    ∃ entries, svc.keys.encode (.object entries) = .ok grant.accessToken ∧
      Marked entries accessTokenType accessTokenPurpose audience := by
  obtain ⟨⟨⟩, claims, -⟩ := Except.exists_of_bind_eq_ok issued.valid
  refine marked_of_signAccessToken ?_ issued.delegated.signed
  rw [issued.delegated.user_eq]
  exact unreserved_of_validate claims

theorem issuePurposeToken_ok {request : PurposeTokenIssueRequest} {issuedAt : OffsetDateTime}
    {issued : IssuedPurposeToken} (call : svc.issuePurposeToken request issuedAt = .ok issued) :
    (svc.auth.fixedDelegationAudience.any fun reserved =>
        eqIgnoreAsciiCase reserved request.audience) = false ∧
      ∃ entries, svc.keys.encode (.object entries) = .ok issued.token ∧
        Marked entries purposeTokenType request.purpose request.audience := by
  obtain ⟨⟨⟩, accepted, call⟩ := Except.exists_of_bind_eq_ok call
  obtain ⟨free, call⟩ := Except.ite_error_eq_ok_iff.mp call
  obtain ⟨expiresAt, -, call⟩ := Except.exists_of_bind_eq_ok call
  obtain ⟨token, encoded, call⟩ := Except.exists_of_bind_eq_ok call
  cases call
  refine ⟨by simpa using free, _, JwtService.encode_of_encodeLocalJwt encoded, ?_⟩
  have written := (request.toClaims svc.auth.config.issuer issuedAt expiresAt).writtenFrom
    (custom_unreserved accepted)
  exact {
    typ := written.occurrences_eq (List.mem_of_getElem? (i := 0) rfl)
    purpose := written.occurrences_eq (List.mem_of_getElem? (i := 4) rfl)
    audience := written.occurrences_eq (List.mem_of_getElem? (i := 6) rfl) }

theorem issuePasswordResetToken_ok {userId : String} {ttl : Duration}
    {issuedAt : OffsetDateTime} {tokenId : Uuid} {issued : PasswordResetToken}
    (call : svc.issuePasswordResetTokenWithTtl userId ttl issuedAt tokenId = .ok issued) :
    ∃ entries, svc.keys.encode (.object entries) = .ok issued.token ∧
      Marked entries passwordResetTokenType passwordResetTokenPurpose svc.auth.config.audience := by
  obtain ⟨expiresAt, -, call⟩ := Except.exists_of_bind_eq_ok call
  obtain ⟨token, encoded, call⟩ := Except.exists_of_bind_eq_ok call
  cases call
  refine ⟨_, JwtService.encode_of_encodeLocalJwt encoded, ?_⟩
  have written := PasswordResetTokenClaims.writtenFrom {
    sub := userId
    jti := tokenId.toString
    typ := some passwordResetTokenType
    purpose := passwordResetTokenPurpose
    iss := svc.auth.config.issuer
    aud := svc.auth.config.audience
    exp := expiresAt.unixTimestamp
    iat := issuedAt.unixTimestamp }
  exact {
    typ := written.occurrences_eq (List.mem_of_getElem? (i := 2) rfl)
    purpose := written.occurrences_eq (List.mem_of_getElem? (i := 3) rfl)
    audience := written.occurrences_eq (List.mem_of_getElem? (i := 5) rfl) }

theorem facade_issued {facade : FixedAudienceDelegation} {owner : AuthService}
    {request : SessionBoundAccessTokenOnlyRequest} {h : DelegationHistory}
    {grant : AccessTokenOnlyGrant}
    (call : Path (facade.issueSessionBoundAccessTokenOnly (some owner) request) h
      (ret (.ok grant))) :
    request.fixedAudience = some facade.audience ∧ ∃ second now id,
      IssuedFromRead owner request facade.audience second now (Uuid.toString id) grant := by
  by_cases bound : request.fixedAudience = some facade.audience
  · have forAudience : Path (owner.issueSessionBoundAccessTokenOnlyForAudience request
        facade.audience) h (ret (.ok grant)) := by
      simpa [FixedAudienceDelegation.issueSessionBoundAccessTokenOnly, bound] using call
    obtain ⟨second, now, id, -, issued⟩ :=
      (issueSessionBoundAccessTokenOnlyForAudience_upholds owner request
        facade.audience).post_of_path forAudience grant rfl
    exact ⟨bound, second, now, id, issued⟩
  · have refused : Yields (fun _ : AccessTokenOnlyGrant => False)
        (facade.issueSessionBoundAccessTokenOnly (some owner) request) := by
      simp only [FixedAudienceDelegation.issueSessionBoundAccessTokenOnly, if_pos bound]
      exact .fail
    exact (refused.of_path call).elim

/-- Every issued token carries the marks of its kind. -/
theorem IssuedToken.carriesMarks {kind : TokenKind} {token : String}
    (issued : IssuedToken svc kind token) : CarriesMarks svc kind token := by
  cases issued with
  | access issued =>
      obtain ⟨issuedAt, signed⟩ := issued.signedFor.signed
      exact marked_of_signAccessToken issued.signedFor.recoverable.unreserved signed
  | delegation of call =>
      obtain ⟨-, second, now, jti, issued⟩ := facade_issued call
      exact issued.marked
  | purpose call => exact (issuePurposeToken_ok call).2
  | passwordReset call => exact issuePasswordResetToken_ok call

end Issue

section Read

variable {lib : JwtLibrary} {svc : JwtService lib} {entries : Entries}
variable {typ purpose audience token : String}

/-- A text claim that is there reads as itself. -/
theorem required_text {name text known : String} (marked : occurrences name entries = [.string text])
    (read : required string entries name = some known) : known = text := by
  rw [Json.required, marked] at read
  exact (Option.some.inj read).symm

theorem optional_text {name text : String} {known : Option String}
    (marked : occurrences name entries = [.string text])
    (read : optional string entries name = some known) : known = some text := by
  rw [Json.optional, marked] at read
  exact (Option.some.inj read).symm

theorem AccessTokenClaims.typ_of_ofEntries {instant : Codec OffsetDateTime}
    {claims : AccessTokenClaims} (read : AccessTokenClaims.ofEntries instant entries = some claims) :
    optional string entries "typ" = some claims.typ := by
  obtain ⟨typ, typ_eq, read⟩ := Option.bind_eq_some_iff.mp read
  iterate 28 obtain ⟨_, -, read⟩ := Option.bind_eq_some_iff.mp read
  cases read
  exact typ_eq

theorem PurposeTokenClaims.marks_of_ofEntries {claims : PurposeTokenClaims}
    (read : PurposeTokenClaims.ofEntries entries = some claims) :
    required string entries "typ" = some claims.typ ∧
      required string entries "purpose" = some claims.purpose ∧
      required string entries "aud" = some claims.aud := by
  obtain ⟨typ, typ_eq, read⟩ := Option.bind_eq_some_iff.mp read
  obtain ⟨sub, -, read⟩ := Option.bind_eq_some_iff.mp read
  obtain ⟨sid, -, read⟩ := Option.bind_eq_some_iff.mp read
  obtain ⟨scopes, -, read⟩ := Option.bind_eq_some_iff.mp read
  obtain ⟨purpose, purpose_eq, read⟩ := Option.bind_eq_some_iff.mp read
  obtain ⟨iss, -, read⟩ := Option.bind_eq_some_iff.mp read
  obtain ⟨aud, aud_eq, read⟩ := Option.bind_eq_some_iff.mp read
  obtain ⟨exp, -, read⟩ := Option.bind_eq_some_iff.mp read
  obtain ⟨iat, -, read⟩ := Option.bind_eq_some_iff.mp read
  cases read
  exact ⟨typ_eq, purpose_eq, aud_eq⟩

theorem PasswordResetTokenClaims.typ_of_ofEntries {claims : PasswordResetTokenClaims}
    (read : PasswordResetTokenClaims.ofEntries entries = some claims) :
    optional string entries "typ" = some claims.typ := by
  obtain ⟨sub, -, read⟩ := Option.bind_eq_some_iff.mp read
  obtain ⟨jti, -, read⟩ := Option.bind_eq_some_iff.mp read
  obtain ⟨typ, typ_eq, read⟩ := Option.bind_eq_some_iff.mp read
  iterate 5 obtain ⟨_, -, read⟩ := Option.bind_eq_some_iff.mp read
  cases read
  exact typ_eq

theorem audience_required (svc : JwtService lib) (expected : String) :
    "aud" ∈ (svc.validationForAudience expected).requiredSpecClaims := by
  simp [JwtService.validationForAudience, validationFor]

/-- Settings for one audience let through only a payload that names it. -/
theorem audience_eq_of_validate (faithful : lib.Faithful) (marked : Marked entries typ purpose audience)
    {validation : Validation} {now : Int} {expected : String}
    (checked : validation.validateAud = true) (required : "aud" ∈ validation.requiredSpecClaims)
    (aud : validation.aud = some [expected])
    (valid : lib.validate validation now (.object entries) = .ok ()) : audience = expected := by
  obtain ⟨named, mem, names⟩ := faithful.audience checked required aud valid
  obtain rfl := List.mem_singleton.mp mem
  rcases names with text | ⟨values, array, -⟩
  · rw [marked.audience] at text
    simpa using text
  · rw [marked.audience] at array
    cases array

/-- A decoder of access tokens accepts only payloads marked as such, for its audience. -/
theorem access_of_authenticateWith (faithful : lib.Faithful)
    (encoded : svc.keys.encode (.object entries) = .ok token)
    (marked : Marked entries typ purpose audience) {config : AccessTokenDecodeConfig lib}
    {expected : String} {now : OffsetDateTime} {user : AuthUser}
    (settings : config.validation = svc.validationForAudience expected)
    (authenticated : authenticateWith lib token config now = .ok user) :
    typ = accessTokenType ∧ audience = expected := by
  obtain ⟨payload, claims, accepted⟩ := accepted_of_authenticateWith authenticated
  obtain rfl := faithful.payload encoded accepted.verified
  have read := optional_text marked.typ (AccessTokenClaims.typ_of_ofEntries accepted.typed)
  have kind := accepted.kind
  obtain ⟨allowed, -⟩ := Except.ite_error_eq_ok_iff.mp kind
  refine ⟨?_, audience_eq_of_validate faithful marked ?_ ?_ ?_ accepted.valid⟩
  · rw [read] at allowed
    simpa using allowed
  · rw [settings]
    rfl
  · rw [settings]
    exact audience_required svc expected
  · rw [settings]
    rfl

theorem purpose_of_authenticate (faithful : lib.Faithful)
    (encoded : svc.keys.encode (.object entries) = .ok token)
    (marked : Marked entries typ purpose audience) {expected : PurposeTokenValidation}
    {validatedAt : Int} {now : OffsetDateTime} {verified : VerifiedPurposeToken}
    (authenticated : svc.authenticatePurposeToken token expected validatedAt now = .ok verified) :
    typ = purposeTokenType ∧ purpose = expected.purpose ∧ audience = expected.audience := by
  obtain ⟨-, authenticated⟩ := Except.ite_error_eq_ok_iff.mp authenticated
  split at authenticated
  · cases authenticated
  split at authenticated
  · cases authenticated
  rename_i claims decoded
  obtain ⟨payload, verified, typed, -⟩ := JwtLibrary.decode_ok decoded
  obtain rfl := faithful.payload encoded verified
  obtain ⟨typ_eq, purpose_eq, aud_eq⟩ := PurposeTokenClaims.marks_of_ofEntries typed
  obtain ⟨-, authenticated⟩ := Except.ite_error_eq_ok_iff.mp authenticated
  obtain ⟨expected_eq, -⟩ := Except.ite_error_eq_ok_iff.mp authenticated
  simp only [not_or, not_not] at expected_eq
  rw [← required_text marked.typ typ_eq, ← required_text marked.purpose purpose_eq,
    ← required_text marked.audience aud_eq]
  exact expected_eq

theorem passwordReset_of_authenticate (faithful : lib.Faithful)
    (encoded : svc.keys.encode (.object entries) = .ok token)
    (marked : Marked entries typ purpose audience) {validatedAt : Int} {now : OffsetDateTime}
    {verified : VerifiedPasswordResetToken}
    (authenticated : svc.authenticatePasswordResetToken token validatedAt now = .ok verified) :
    typ = passwordResetTokenType := by
  unfold JwtService.authenticatePasswordResetToken at authenticated
  split at authenticated
  · cases authenticated
  split at authenticated
  · cases authenticated
  rename_i claims decoded
  obtain ⟨payload, verified, typed, -⟩ := JwtLibrary.decode_ok decoded
  obtain rfl := faithful.payload encoded verified
  have read := optional_text marked.typ (PasswordResetTokenClaims.typ_of_ofEntries typed)
  obtain ⟨allowed, -⟩ := Except.ite_error_eq_ok_iff.mp authenticated
  rw [read] at allowed
  simp only [not_or, not_and, not_not] at allowed
  exact Option.some.inj (allowed.1 (by simp))

end Read

/-- Whoever accepts a token expects a token of its kind. -/
structure Separated {lib : JwtLibrary} (svc : JwtService lib) (kind : TokenKind) (token : String) :
    Prop where
  access : ∀ now user, svc.authenticateAccessToken token now = .ok user → kind = .access
  purpose : ∀ expected validatedAt now verified,
    svc.authenticatePurposeToken token expected validatedAt now = .ok verified →
      kind = .purpose expected.purpose expected.audience
  passwordReset : ∀ validatedAt now verified,
    svc.authenticatePasswordResetToken token validatedAt now = .ok verified → kind = .passwordReset
  delegation : ∀ facade, FacadeOf svc facade → ∀ now user,
    facade.authenticateAccessToken (some svc) token now = .ok user →
      kind = .delegation facade.audience

/--
No authenticator accepts a token of another kind, whatever purpose and audience it
expects, whatever the caller put into a purpose token and at whatever time.
-/
theorem token_kinds_separate {lib : JwtLibrary} (faithful : lib.Faithful) (svc : JwtService lib)
    {kind : TokenKind} {token : String} (issued : IssuedToken svc kind token) :
    Separated svc kind token := by
  obtain ⟨entries, encoded, marked⟩ := issued.carriesMarks
  constructor
  case access =>
    intro now user authenticated
    obtain ⟨typ, aud⟩ := access_of_authenticateWith faithful encoded marked
      svc.origin.validation_eq authenticated
    rcases TokenKind.of_typ_access typ with rfl | ⟨audience, rfl⟩
    · rfl
    · cases issued with
      | delegation of => exact (of.ne_normal aud).elim
  case purpose =>
    intro expected validatedAt now verified authenticated
    obtain ⟨typ, purpose, aud⟩ := purpose_of_authenticate faithful encoded marked authenticated
    obtain ⟨asked, audience, rfl⟩ := TokenKind.of_typ_purpose typ
    exact congrArg₂ TokenKind.purpose purpose aud
  case passwordReset =>
    intro validatedAt now verified authenticated
    exact TokenKind.of_typ_passwordReset
      (passwordReset_of_authenticate faithful encoded marked authenticated)
  case delegation =>
    intro facade of now user authenticated
    obtain ⟨typ, aud⟩ := access_of_authenticateWith faithful encoded marked rfl authenticated
    rcases TokenKind.of_typ_access typ with rfl | ⟨audience, rfl⟩
    · exact (of.ne_normal aud.symm).elim
    · exact congrArg TokenKind.delegation aud

/-- It asks for the purpose and the audience of a reset token and adds its token id. -/
def imitation : PurposeTokenIssueRequest where
  subject := "user-1"
  purpose := passwordResetTokenPurpose
  audience := "app"
  ttl := .ofSeconds 300
  claims := (.empty : ClaimMap).insert "jti" (.string (Uuid.toString ⟨7⟩))

def imitationTable : List TableEntry := [{
  header := { alg := .hs256 }
  payload := (imitation.toClaims "issuer" askedAt grantExpiry).toJson
  key := sharedSecret }]

theorem imitation_separated :
    ∃ issued, (secretService imitationTable).issuePurposeToken imitation askedAt = .ok issued ∧
      ((secretService imitationTable).authenticatePurposeToken issued.token
        { purpose := passwordResetTokenPurpose, audience := "app" } 60 askedAt).isOk = true ∧
      Separated (secretService imitationTable) (.purpose passwordResetTokenPurpose "app")
        issued.token := by
  obtain ⟨issued, call, accepted⟩ : ∃ issued,
      (secretService imitationTable).issuePurposeToken imitation askedAt = .ok issued ∧
        ((secretService imitationTable).authenticatePurposeToken issued.token
          { purpose := passwordResetTokenPurpose, audience := "app" } 60 askedAt).isOk = true :=
    ⟨_, rfl, by decide +kernel⟩
  exact ⟨issued, call, accepted, token_kinds_separate (tableLibrary_faithful imitationTable)
    (secretService imitationTable) (.purpose call)⟩

end AgqlAuth
