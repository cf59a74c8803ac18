import AgqlAuth.Token.Issued
import AgqlAuth.Token.Service

/-!
# Reading back what was signed

A decoder set up for the key, the issuer and the audience of a token recovers the
principal it was signed for, until the token expires.
-/

namespace AgqlAuth

open Json

theorem space_not_mem_of_valid {scope : String} (valid : validScopeToken scope = true) :
    ' ' ∉ scope.toList := by
  intro mem
  simp only [validScopeToken, Bool.and_eq_true, List.all_eq_true] at valid
  have allowed := valid.2 ' ' mem
  simp [validScopeChar] at allowed

theorem splitAtChar_scopes {scopes : List String} (nonempty : scopes ≠ [])
    (valid : ∀ scope ∈ scopes, validScopeToken scope = true) :
    splitAtChar (" ".intercalate scopes) ' ' = scopes :=
  splitAtChar_intercalate (fun scope listed => space_not_mem_of_valid (valid scope listed)) nonempty

theorem utf8ByteSize_intercalate (scopes : List String) :
    (" ".intercalate scopes).utf8ByteSize =
      (scopes.map String.utf8ByteSize).sum + (scopes.length - 1) := by
  induction scopes with
  | nil => rfl
  | cons first rest ih =>
      cases rest with
      | nil => simp
      | cons second rest =>
          have space : " ".utf8ByteSize = 1 := rfl
          rw [String.intercalate_cons_cons, String.utf8ByteSize_append, String.utf8ByteSize_append,
            ih, space]
          simp only [List.map_cons, List.sum_cons, List.length_cons]
          omega

theorem intercalate_ne_empty {scopes : List String} (nonempty : scopes ≠ [])
    (valid : ∀ scope ∈ scopes, validScopeToken scope = true) :
    (" ".intercalate scopes).isEmpty = false := by
  cases empty : (" ".intercalate scopes).isEmpty with
  | false => rfl
  | true =>
      have split := splitAtChar_scopes nonempty valid
      rw [String.isEmpty_iff.mp empty] at split
      have blank : "" ∈ scopes := by
        rw [← split]
        decide
      have filled := valid "" blank
      simp [validScopeToken] at filled

theorem parseStandardScope_intercalate {scopes : List String} (nonempty : scopes ≠ [])
    (valid : validScopeSet scopes = true) (nodup : scopes.Nodup) :
    parseStandardScope (" ".intercalate scopes) = .ok scopes := by
  have tokens := valid
  simp only [validScopeSet, Bool.and_eq_true, List.all_eq_true, decide_eq_true_eq] at tokens
  obtain ⟨⟨-, tokens⟩, size⟩ := tokens
  rw [← utf8ByteSize_intercalate] at size
  simp only [parseStandardScope, intercalate_ne_empty nonempty tokens, Bool.false_or,
    decide_eq_true_eq, splitAtChar_scopes nonempty tokens, if_neg (not_lt.mpr size),
    if_pos valid, dedupeStable_eq_self nodup]

/-- Issued scope claims parse to the scopes they were issued for. -/
theorem parseAccessTokenScopes_issued {claims : AccessTokenClaims} {scopes : List String}
    {format : AccessTokenScopeClaimFormat} {policy : LegacyScopeClaims}
    (issued : issuedScopeClaims scopes format = .ok (claims.scope, claims.legacyScopes))
    (nodup : scopes.Nodup) (migrating : ¬(format = .legacyArray ∧ policy = .reject)) :
    parseAccessTokenScopes claims policy = .ok scopes := by
  unfold issuedScopeClaims at issued
  split at issued
  · cases issued
  rename_i valid
  replace valid : validScopeSet scopes = true := by simpa using valid
  obtain ⟨scope, legacyScopes⟩ := Prod.mk.inj (Except.ok.inj issued).symm
  unfold parseAccessTokenScopes
  rw [scope, legacyScopes]
  cases format with
  | standard =>
      by_cases empty : scopes = []
      · subst empty
        rfl
      · rw [if_neg (by simpa using empty)]
        simp only [Option.mapM_some, parseStandardScope_intercalate empty valid nodup]
        rfl
  | legacyArray =>
      have accepting : policy ≠ .reject := fun rejecting => migrating ⟨rfl, rejecting⟩
      simp only [Option.mapM_none, if_neg accepting, parseLegacyScopes, if_pos valid,
        dedupeStable_eq_self nodup]
      rfl

/-- Legacy arrays are only issued where they are accepted. -/
theorem migrating_of_validate {config : AuthConfig} {now : OffsetDateTime}
    (accepted : config.validate now = .ok ()) :
    ¬(config.accessTokenScopeClaimFormat = .legacyArray ∧ config.legacyScopeClaims = .reject) := by
  intro rejecting
  unfold AuthConfig.validate at accepted
  simp only [if_pos rejecting] at accepted
  obtain ⟨_, -, accepted⟩ := Except.exists_of_bind_eq_ok accepted
  split at accepted
  case isTrue => cases accepted
  case isFalse =>
    obtain ⟨_, -, accepted⟩ := Except.exists_of_bind_eq_ok accepted
    obtain ⟨_, -, accepted⟩ := Except.exists_of_bind_eq_ok accepted
    obtain ⟨_, -, accepted⟩ := Except.exists_of_bind_eq_ok accepted
    split at accepted
    · cases accepted
    · cases accepted

/-- The second of an instant is itself an instant. -/
theorem fromUnixTimestamp_unixTimestamp (t : OffsetDateTime) :
    ∃ second, OffsetDateTime.fromUnixTimestamp t.unixTimestamp = some second := by
  have lower := t.lower
  have upper := t.upper
  have bounds : minUnixNanos ≤ t.unixTimestamp * nanosPerSecond ∧
      t.unixTimestamp * nanosPerSecond ≤ maxUnixNanos := by
    simp only [minUnixNanos, maxUnixNanos, nanosPerSecond, OffsetDateTime.unixTimestamp] at *
    omega
  exact ⟨_, dif_pos bounds⟩

theorem validateTimeClaims_issued {claims : AccessTokenClaims} {issuedAt expiresAt : OffsetDateTime}
    (exp : claims.exp = expiresAt.unixTimestamp) (iat : claims.iat = issuedAt.unixTimestamp)
    (nbf : claims.nbf = none) (now : Int) :
    validateTimeClaims claims 0 now =
      if expiresAt.unixTimestamp ≤ now then .error .accessTokenExpired else .ok () := by
  obtain ⟨expiry, expiry_eq⟩ := fromUnixTimestamp_unixTimestamp expiresAt
  obtain ⟨issuance, issuance_eq⟩ := fromUnixTimestamp_unixTimestamp issuedAt
  simp [validateTimeClaims, exp, iat, nbf, expiry_eq, issuance_eq]

variable {lib : JwtLibrary} {svc : JwtService lib} {user : AuthUser}
variable {audience token : String} {expiresAt : OffsetDateTime}

/-- The decoder is set up for the tokens that `svc` signs for `audience`. -/
structure ReadsFor (svc : JwtService lib) (audience : String) (config : AccessTokenDecodeConfig lib) :
    Prop where
  key : config.decodingKey = svc.keys.decodingKey
  validation : config.validation = svc.validationForAudience audience
  kid : config.expectedKid = svc.keys.keyId
  leeway : config.leewaySeconds = 0
  legacy : config.legacyScopeClaims = svc.auth.config.legacyScopeClaims

theorem readsFor_service (svc : JwtService lib) :
    ReadsFor svc svc.auth.config.audience svc.accessTokenDecodeConfig where
  key := rfl
  validation := svc.origin.validation_eq
  kid := rfl
  leeway := rfl
  legacy := rfl

/-- The claims of a signed token, as they were written. -/
structure SignedClaims (svc : JwtService lib) (audience token : String)
    (expiresAt : OffsetDateTime) (user : AuthUser) (issuedAt : OffsetDateTime)
    (claims : AccessTokenClaims) : Prop where
  claims_eq : claims = svc.auth.accessTokenClaims user claims.scope claims.legacyScopes issuedAt
    expiresAt audience
  readable : claims.Readable lib.instant
  scopes : parseAccessTokenScopes claims svc.auth.config.legacyScopeClaims = .ok user.scopes
  metadata : claimsToMetadata claims = user.tokenClaims
  encoded : svc.keys.encode (claims.toJson lib.instant) = .ok token

theorem SignedFor.claims (faithful : lib.Faithful)
    (signed : SignedFor svc.auth audience token expiresAt user) :
    ∃ issuedAt claims, SignedClaims svc audience token expiresAt user issuedAt claims := by
  obtain ⟨issuedAt, signing⟩ := signed.signed
  obtain ⟨scope, legacyScopes, scopes, roles, encoded⟩ := AuthService.signAccessToken_ok signing
  refine ⟨issuedAt, svc.auth.accessTokenClaims user scope legacyScopes issuedAt expiresAt audience,
    rfl, ?_, ?_, ?_, ?_⟩
  · exact {
      roles_valid := roles
      roles_nodup := signed.recoverable.authorizationRoles
      instants := fun _ _ => faithful.instants _
      exp := fitsI64_unixTimestamp expiresAt
      iat := fitsI64_unixTimestamp issuedAt
      nbf := nofun
      authTime := signed.recoverable.authTime
      ascending := signed.recoverable.ascending
      unreserved := signed.recoverable.unreserved }
  · exact parseAccessTokenScopes_issued scopes signed.recoverable.scopes
      (migrating_of_validate svc.accepted)
  · have purpose := signed.purpose
    have expiry := signed.expiry
    simp only [claimsToMetadata, AuthService.accessTokenClaims, ← purpose, ← expiry]
  · rw [← svc.encodes]
    exact encoded

/-- The registered claims of a signed token are what its own decoder asks for. -/
theorem SignedClaims.meets {issuedAt : OffsetDateTime} {claims : AccessTokenClaims}
    (signed : SignedClaims svc audience token expiresAt user issuedAt claims) :
    Meets { svc.validationForAudience audience with validateExp := false, validateNbf := false }
      (claims.entries lib.instant) claims.exp := by
  have written := claims.writtenFrom lib.instant signed.readable.unreserved
  have iss : claims.iss = svc.auth.config.issuer := by rw [signed.claims_eq]; rfl
  have aud : claims.aud = .string audience := by rw [signed.claims_eq]; rfl
  exact {
    untimed := ⟨rfl, rfl⟩
    required := by simp [JwtService.validationForAudience, validationFor, Validation.new]
    issuer := ⟨_, rfl, svc.auth.config.issuer, List.mem_cons_self, by
      rw [written.occurrences_eq (List.mem_of_getElem? (i := 8) rfl), iss]
      rfl⟩
    audience := ⟨_, rfl, audience, List.mem_cons_self, by
      rw [written.occurrences_eq (List.mem_of_getElem? (i := 9) rfl), aud]
      rfl⟩
    subject := ⟨_, written.occurrences_eq (List.mem_of_getElem? (i := 1) rfl)⟩
    expiry := written.occurrences_eq (List.mem_of_getElem? (i := 10) rfl)
    issuedAt := ⟨_, written.occurrences_eq (List.mem_of_getElem? (i := 11) rfl)⟩ }

theorem kidExpected_self (kid : Option String) : kidExpected kid kid = true := by
  cases kid with
  | none => rfl
  | some kid => exact beq_self_eq_true (some kid)

theorem SignedClaims.typed {issuedAt : OffsetDateTime} {claims : AccessTokenClaims}
    (signed : SignedClaims svc audience token expiresAt user issuedAt claims)
    (policy : PurposePolicy) : validateTypeAndPurpose claims policy = .ok () := by
  have typ : claims.typ = some accessTokenType := by
    rw [signed.claims_eq]
    rfl
  have purpose : claims.purpose = some accessTokenPurpose := by
    rw [signed.claims_eq]
    rfl
  unfold validateTypeAndPurpose
  rw [if_neg fun other => other.2 typ]
  cases policy with
  | accessTokenOrLegacy => exact if_neg fun other => other.2 purpose
  | requireAccessToken => exact if_neg fun other => other purpose

theorem SignedClaims.exp_eq {issuedAt : OffsetDateTime} {claims : AccessTokenClaims}
    (signed : SignedClaims svc audience token expiresAt user issuedAt claims) :
    claims.exp = expiresAt.unixTimestamp := by
  rw [signed.claims_eq]
  rfl

/-- The checks of the shared decoder leave only the expiry. -/
theorem SignedClaims.check_eq {issuedAt : OffsetDateTime} {claims : AccessTokenClaims}
    (signed : SignedClaims svc audience token expiresAt user issuedAt claims)
    {config : AccessTokenDecodeConfig lib} (reads : ReadsFor svc audience config)
    (requirements : config.claimRequirements.validate user.tokenClaims = .ok ()) (now : Int) :
    checkAccessTokenClaims config now claims =
      if expiresAt.unixTimestamp ≤ now then .error .accessTokenExpired
      else .ok { claims, scopes := user.scopes } := by
  have exp := signed.exp_eq
  have iat : claims.iat = issuedAt.unixTimestamp := by
    rw [signed.claims_eq]
    rfl
  have nbf : claims.nbf = none := by
    rw [signed.claims_eq]
    rfl
  have sid : Uuid.parse claims.sid = some user.sessionId := by
    rw [signed.claims_eq]
    exact Uuid.parse_toString user.sessionId
  unfold checkAccessTokenClaims
  rw [reads.leeway, validateTimeClaims_issued exp iat nbf, signed.typed, sid, reads.legacy,
    signed.scopes, signed.metadata, requirements]
  split
  case isTrue => rfl
  case isFalse => rfl

theorem SignedClaims.toUser {issuedAt : OffsetDateTime} {claims : AccessTokenClaims}
    (signed : SignedClaims svc audience token expiresAt user issuedAt claims) :
    accessTokenClaimsToUser { claims, scopes := user.scopes } = .ok user := by
  have sid : Uuid.parse claims.sid = some user.sessionId := by
    rw [signed.claims_eq]
    exact Uuid.parse_toString user.sessionId
  have metadata := signed.metadata
  have identity : claims.sub = user.userId ∧ claims.roles = user.roles ∧
      claims.ctx = user.session := by
    rw [signed.claims_eq]
    exact ⟨rfl, rfl, rfl⟩
  simp only [accessTokenClaimsToUser, sid, metadata, identity]

/-- Once the library accepts the registered claims, only the expiry decides. -/
theorem SignedClaims.authenticateWith_eq (faithful : lib.Faithful) {issuedAt : OffsetDateTime}
    {claims : AccessTokenClaims}
    (signed : SignedClaims svc audience token expiresAt user issuedAt claims)
    {config : AccessTokenDecodeConfig lib} (reads : ReadsFor svc audience config)
    (requirements : config.claimRequirements.validate user.tokenClaims = .ok ())
    {now : OffsetDateTime}
    (valid : lib.validate { config.validation with validateExp := false, validateNbf := false }
      now.unixTimestamp (claims.toJson lib.instant) = .ok ()) :
    authenticateWith lib token config now =
      if expiresAt.unixTimestamp ≤ now.unixTimestamp then .error .accessTokenExpired
      else .ok user := by
  have header := faithful.header signed.encoded
  have verified := svc.origin.verify faithful signed.encoded
  have decoded : lib.decode (AccessTokenClaims.ofJson lib.instant) token config.decodingKey
      { config.validation with validateExp := false, validateNbf := false } now.unixTimestamp =
        .ok claims := by
    rw [reads.validation] at valid
    rw [reads.key, reads.validation]
    exact JwtLibrary.decode_eq verified (AccessTokenClaims.ofJson_toJson signed.readable) valid
  have named : svc.keys.header.alg ∈ config.validation.algorithms := by
    rw [reads.validation]
    exact List.mem_cons_self
  have kid : kidExpected config.expectedKid svc.keys.header.kid = true := by
    rw [reads.kid]
    exact kidExpected_self svc.keys.keyId
  have checked := signed.check_eq reads requirements now.unixTimestamp
  rw [authenticateWith, decodeAccessTokenClaims_eq_check header named kid decoded, checked]
  by_cases expired : expiresAt.unixTimestamp ≤ now.unixTimestamp
  · rw [if_pos expired, if_pos expired]
  · rw [if_neg expired, if_neg expired]
    exact signed.toUser

/-- A decoder set up for a token gives back its principal until it expires. -/
theorem SignedFor.authenticateWith_eq (faithful : lib.Faithful)
    (signed : SignedFor svc.auth audience token expiresAt user)
    {config : AccessTokenDecodeConfig lib} (reads : ReadsFor svc audience config)
    (requirements : config.claimRequirements.validate user.tokenClaims = .ok ())
    (expiry : 0 ≤ expiresAt.unixTimestamp ∨ lib.ReadsExpiry expiresAt.unixTimestamp)
    (now : OffsetDateTime) :
    authenticateWith lib token config now =
      if expiresAt.unixTimestamp ≤ now.unixTimestamp then .error .accessTokenExpired
      else .ok user := by
  obtain ⟨issuedAt, claims, written⟩ := signed.claims faithful
  have readable : lib.ReadsExpiry expiresAt.unixTimestamp := expiry.elim faithful.accepts id
  refine written.authenticateWith_eq faithful reads requirements ?_
  rw [reads.validation]
  exact readable _ now.unixTimestamp _ (written.exp_eq ▸ written.meets)

/-- Whatever the library makes of the expiry, nothing but the live principal comes back. -/
theorem SignedFor.of_authenticateWith (faithful : lib.Faithful)
    (signed : SignedFor svc.auth audience token expiresAt user)
    {config : AccessTokenDecodeConfig lib} (reads : ReadsFor svc audience config)
    (requirements : config.claimRequirements.validate user.tokenClaims = .ok ())
    {now : OffsetDateTime} {decoded : AuthUser}
    (authenticated : authenticateWith lib token config now = .ok decoded) :
    now.unixTimestamp < expiresAt.unixTimestamp ∧ decoded = user := by
  obtain ⟨issuedAt, claims, written⟩ := signed.claims faithful
  obtain ⟨payload, _, accepted⟩ := accepted_of_authenticateWith authenticated
  obtain rfl : payload = claims.toJson lib.instant :=
    faithful.payload written.encoded accepted.verified
  rw [written.authenticateWith_eq faithful reads requirements accepted.valid] at authenticated
  split at authenticated
  case isTrue => cases authenticated
  case isFalse live =>
    cases authenticated
    exact ⟨not_le.mp live, rfl⟩

end AgqlAuth
