import AgqlAuth.Token.Recovery
import AgqlAuth.Token.Spelled
import AgqlAuth.Validator.Builder

/-!
# The algorithm of the resolved key

A resolver answers with a key and the algorithm it may be used with.  The
validator checks that algorithm and the one of the header against its list, and
gives the library the list: whether it binds the two depends on the families of
what is listed.
-/

namespace AgqlAuth

section Binding

variable {lib : JwtLibrary} {validator : AccessTokenValidator lib} {token : String}
variable {now : OffsetDateTime} {kid : Option String} {resolved : ResolvedKey lib}

namespace AccessTokenValidator

/-- The validator goes on with this key for tokens of this key id. -/
structure Uses (validator : AccessTokenValidator lib) (now : OffsetDateTime) (kid : Option String)
    (resolved : ResolvedKey lib) : Prop where
  expected : kidExpected validator.expectedKid kid = true
  answered : validator.keyResolver now kid = .ok resolved
  allowed : resolved.algorithm ∈ validator.allowedAlgorithms
  /-- Some expiry is still ahead. -/
  live : ∃ expiry : OffsetDateTime,
    now.unixTimestamp < expiry.unixTimestamp + validator.leewaySeconds

/-- An expiry ahead can be put off to the epoch. -/
theorem Uses.exists_expiry_from_epoch (uses : validator.Uses now kid resolved) :
    ∃ expiry : OffsetDateTime, 0 ≤ expiry.unixTimestamp ∧
      now.unixTimestamp < expiry.unixTimestamp + validator.leewaySeconds := by
  obtain ⟨expiry, live⟩ := uses.live
  rcases le_or_gt 0 expiry.unixTimestamp with epoch | before
  · exact ⟨expiry, epoch, live⟩
  · have zero : OffsetDateTime.unixTimestamp (.atSecond 0) = 0 := by decide
    refine ⟨.atSecond 0, zero.ge, ?_⟩
    omega

end AccessTokenValidator

theorem expiry_of_validateTimeClaims {claims : AccessTokenClaims} {leeway : Nat} {seconds : Int}
    (timely : validateTimeClaims claims leeway seconds = .ok ()) :
    ∃ expiry : OffsetDateTime, seconds < expiry.unixTimestamp + leeway := by
  obtain ⟨representable, timely⟩ := Except.ite_error_eq_ok_iff.mp timely
  obtain ⟨live, -⟩ := Except.ite_error_eq_ok_iff.mp timely
  cases read : OffsetDateTime.fromUnixTimestamp claims.exp with
  | none => simp [read] at representable
  | some expiry =>
      refine ⟨expiry, ?_⟩
      rw [OffsetDateTime.unixTimestamp_of_fromUnixTimestamp read]
      exact not_le.mp live

/-- What the validator has gone through with an accepted token. -/
theorem uses_of_authenticateAccessToken {user : AuthUser} {header : JwtHeader}
    (authenticated : validator.authenticateAccessToken token now = .ok user)
    (read : lib.decodeHeader token = some header)
    (answered : validator.keyResolver now header.kid = .ok resolved) :
    header.alg ∈ validator.allowedAlgorithms ∧ validator.Uses now header.kid resolved ∧
      ∃ payload, lib.verify token resolved.decodingKey validator.allowedAlgorithms = .ok payload := by
  unfold AccessTokenValidator.authenticateAccessToken at authenticated
  unfold AccessTokenValidator.decodeConfigForToken at authenticated
  simp only [read, answered] at authenticated
  split at authenticated
  case h_1 => cases authenticated
  case h_2 config decided =>
    obtain ⟨listed, decided⟩ := Except.ite_error_eq_ok_iff.mp decided
    obtain ⟨expected, decided⟩ := Except.ite_error_eq_ok_iff.mp decided
    obtain ⟨allowed, decided⟩ := Except.ite_error_eq_ok_iff.mp decided
    cases decided
    obtain ⟨payload, claims, accepted⟩ := accepted_of_authenticateWith authenticated
    refine ⟨not_not.mp listed, ?_, payload, accepted.verified⟩
    constructor
    case expected => simpa using expected
    case answered => exact answered
    case allowed => exact not_not.mp allowed
    case live => exact expiry_of_validateTimeClaims accepted.timely

/-- Claims that name whatever a resource server may insist on. -/
def AccessTokenValidator.fullClaims (self : AccessTokenValidator lib) (audience : String)
    (expiry : OffsetDateTime) : AccessTokenClaims where
  typ := some accessTokenType
  sub := "subject"
  sid := Uuid.toString ⟨0⟩
  roles := []
  authorizationRoles := []
  scope := none
  legacyScopes := none
  ctx := {}
  iss := self.issuer
  aud := audienceClaim audience
  exp := expiry.unixTimestamp
  iat := expiry.unixTimestamp
  nbf := none
  purpose := some accessTokenPurpose
  jti := some "id"
  tenantId := some "tenant"
  organizationId := some "organization"
  sessionFamilyId := some "family"
  grantKind := self.claimRequirements.requiredGrantKind
  sessionVersion := some "version"
  actor := some { sub := "actor" }
  authTime := none
  amr := none
  acr := none
  cnf := some { jkt := some "thumbprint" }
  resourceType := some "type"
  resourceId := some "resource"
  correlationId := some "correlation"
  operation := some { operationName := "name", documentSha256 := "digest" }
  additional := []

theorem fullClaims_readable (faithful : lib.Faithful) (audience : String)
    (expiry : OffsetDateTime) : (validator.fullClaims audience expiry).Readable lib.instant where
  roles_valid := rfl
  roles_nodup := List.nodup_nil
  instants _ _ := faithful.instants _
  exp := fitsI64_unixTimestamp expiry
  iat := fitsI64_unixTimestamp expiry
  nbf := nofun
  authTime := nofun
  ascending := .nil
  unreserved := nofun

theorem fullClaims_meets {audience : String} (mem : audience ∈ validator.audiences)
    (algorithm : JwtAlgorithm) (expiry : OffsetDateTime) :
    Meets { validator.validation algorithm with validateExp := false, validateNbf := false }
      ((validator.fullClaims audience expiry).entries lib.instant) expiry.unixTimestamp := by
  have written := (validator.fullClaims audience expiry).writtenFrom lib.instant nofun
  exact {
    untimed := ⟨rfl, rfl⟩
    required := by simp [AccessTokenValidator.validation, Validation.new]
    issuer := ⟨_, rfl, validator.issuer, List.mem_cons_self,
      written.occurrences_eq (List.mem_of_getElem? (i := 8) rfl)⟩
    audience := ⟨_, rfl, audience, mem,
      written.occurrences_eq (List.mem_of_getElem? (i := 9) rfl)⟩
    subject := ⟨_, written.occurrences_eq (List.mem_of_getElem? (i := 1) rfl)⟩
    expiry := written.occurrences_eq (List.mem_of_getElem? (i := 10) rfl)
    issuedAt := ⟨_, written.occurrences_eq (List.mem_of_getElem? (i := 11) rfl)⟩ }

theorem fullClaims_requirements (audience : String) (expiry : OffsetDateTime) :
    validator.claimRequirements.validate
      (claimsToMetadata (validator.fullClaims audience expiry)) = .ok () := by
  have named : ∀ text ∈ ["id", "tenant", "organization", "family", "version", "actor", "type",
      "resource", "correlation", "name", "digest"], filled (some text) = true := by
    decide
  simp only [List.mem_cons, List.not_mem_nil, or_false, forall_eq_or_imp, forall_eq] at named
  cases kind : validator.claimRequirements.requiredGrantKind <;>
    simp [ClaimRequirements.validate, claimsToMetadata, AccessTokenValidator.fullClaims, named, kind]

theorem fullClaims_check {audience : String} {expiry : OffsetDateTime}
    (live : now.unixTimestamp < expiry.unixTimestamp + validator.leewaySeconds)
    (resolved : ResolvedKey lib) :
    checkAccessTokenClaims (validator.decodeConfig resolved) now.unixTimestamp
        (validator.fullClaims audience expiry) =
      .ok { claims := validator.fullClaims audience expiry, scopes := [] } := by
  have timely : validateTimeClaims (validator.fullClaims audience expiry) validator.leewaySeconds
      now.unixTimestamp = .ok () := by
    obtain ⟨second, read⟩ := fromUnixTimestamp_unixTimestamp expiry
    simp [validateTimeClaims, AccessTokenValidator.fullClaims, read, not_le.mpr live]
  have kind : validateTypeAndPurpose (validator.fullClaims audience expiry)
      validator.purposePolicy = .ok () := by
    cases validator.purposePolicy <;> rfl
  have sid : Uuid.parse (validator.fullClaims audience expiry).sid = some ⟨0⟩ :=
    Uuid.parse_toString ⟨0⟩
  unfold checkAccessTokenClaims
  simp only [AccessTokenValidator.decodeConfig, timely, kind, sid, fullClaims_requirements]
  rfl

/-- Whoever holds a key that the validator uses has a token for each fitting algorithm. -/
theorem exists_accepted_token {family : lib.DecodingKey → AlgorithmFamily}
    (faithful : lib.Faithful) (relied : lib.ByFamily family) (served : validator.audiences ≠ [])
    (uses : validator.Uses now kid resolved) (alg : JwtAlgorithm)
    (listed : alg ∈ validator.allowedAlgorithms)
    (fitting : alg.family = family resolved.decodingKey) :
    ∃ token user, validator.authenticateAccessToken token now = .ok user ∧
      lib.decodeHeader token = some { alg, kid } := by
  obtain ⟨audience, mem⟩ := List.exists_mem_of_ne_nil _ served
  obtain ⟨expiry, epoch, live⟩ := uses.exists_expiry_from_epoch
  obtain ⟨token, read, verifies⟩ := relied.signs resolved.decodingKey { alg, kid }
    ((validator.fullClaims audience expiry).toJson lib.instant) fitting
  have found : validator.decodeConfigForToken token now = .ok (validator.decodeConfig resolved) := by
    simp [AccessTokenValidator.decodeConfigForToken, read, listed, uses.expected, uses.answered,
      uses.allowed]
  have decoded : lib.decode (AccessTokenClaims.ofJson lib.instant) token resolved.decodingKey
      { validator.validation resolved.algorithm with validateExp := false, validateNbf := false }
      now.unixTimestamp = .ok (validator.fullClaims audience expiry) :=
    JwtLibrary.decode_eq (verifies _ listed)
      (AccessTokenClaims.ofJson_toJson (fullClaims_readable faithful audience expiry))
      (faithful.accepts epoch _ now.unixTimestamp _
        (fullClaims_meets mem resolved.algorithm expiry))
  have checked : decodeAccessTokenClaims lib token (validator.decodeConfig resolved) now = _ :=
    decodeAccessTokenClaims_eq_check read listed rfl decoded
  rw [fullClaims_check live] at checked
  refine ⟨token, ?_, ?_, read⟩
  · exact {
      userId := "subject"
      sessionId := ⟨0⟩
      roles := []
      scopes := []
      session := {}
      tokenClaims := claimsToMetadata (validator.fullClaims audience expiry) }
  · have sid : Uuid.parse (validator.fullClaims audience expiry).sid = some ⟨0⟩ :=
      Uuid.parse_toString ⟨0⟩
    simp only [AccessTokenValidator.authenticateAccessToken, found, authenticateWith, checked,
      accessTokenClaimsToUser, sid]
    rfl

theorem audiences_of_build {builder : AccessTokenValidatorBuilder lib} {builtAt : OffsetDateTime}
    (built : builder.build builtAt = .ok validator) : validator.audiences ≠ [] := by
  unfold AccessTokenValidatorBuilder.build at built
  obtain ⟨issuer, -, built⟩ := Except.exists_of_bind_eq_ok built
  obtain ⟨served, built⟩ := Except.ite_error_eq_ok_iff.mp built
  obtain ⟨-, built⟩ := Except.ite_error_eq_ok_iff.mp built
  obtain ⟨⟨algorithm, resolver, expectedKid⟩, -, built⟩ := Except.exists_of_bind_eq_ok built
  obtain ⟨allowed, -, built⟩ := Except.exists_of_bind_eq_ok built
  cases built
  rintro (empty : builder.audiences = [])
  simp [empty] at served

/--
Every accepted token was signed under the algorithm of the key the resolver
returned, exactly if no other listed algorithm fits the family of a key that the
validator uses.
-/
theorem algorithm_bound_iff {family : lib.DecodingKey → AlgorithmFamily}
    (faithful : lib.Faithful) (relied : lib.ByFamily family)
    {builder : AccessTokenValidatorBuilder lib} {builtAt : OffsetDateTime}
    (built : builder.build builtAt = .ok validator) :
    (∀ token now user header resolved,
        validator.authenticateAccessToken token now = .ok user →
        lib.decodeHeader token = some header →
        validator.keyResolver now header.kid = .ok resolved →
        header.alg = resolved.algorithm) ↔
      ∀ now kid resolved, validator.Uses now kid resolved →
        ∀ alg ∈ validator.allowedAlgorithms, alg.family = family resolved.decodingKey →
          alg = resolved.algorithm := by
  constructor
  · intro bound now kid resolved uses alg listed fitting
    obtain ⟨token, user, authenticated, read⟩ :=
      exists_accepted_token faithful relied (audiences_of_build built) uses alg listed fitting
    exact bound token now user _ resolved authenticated read uses.answered
  · intro single token now user header resolved authenticated read answered
    obtain ⟨listed, uses, payload, verified⟩ :=
      uses_of_authenticateAccessToken authenticated read answered
    exact single now header.kid resolved uses header.alg listed (relied.fits verified read)

end Binding

/-- A resource server with one RSA key. -/
def pemBuilder (allowedAlgorithms : Option (List JwtAlgorithm)) :
    AccessTokenValidatorBuilder spelledLibrary where
  issuer := some "issuer"
  audiences := ["app"]
  keyMaterial := some (.rs256PublicPem "key")
  allowedAlgorithms

def pemKey : ResolvedKey spelledLibrary where
  decodingKey := (.rsa, "key")
  algorithm := .rs256
  kid := none

/-- What building gives for lists without HS256. -/
def pemValidator (allowedAlgorithms : List JwtAlgorithm) :
    AccessTokenValidator spelledLibrary where
  issuer := "issuer"
  audiences := ["app"]
  leewaySeconds := 0
  allowedAlgorithms
  purposePolicy := .accessTokenOrLegacy
  legacyScopeClaims := .accept
  claimRequirements := {}
  keyResolver _ kid := StaticRs256Key.resolve { decodingKey := (.rsa, "key"), kid := none } kid
  expectedKid := none

theorem pemValidator_uses (allowed : List JwtAlgorithm) (listed : .rs256 ∈ allowed) :
    (pemValidator allowed).Uses askedAt none pemKey where
  expected := rfl
  answered := rfl
  allowed := listed
  live := by
    have ahead : askedAt.unixTimestamp < OffsetDateTime.unixTimestamp (.atSecond 360) + (0 : Nat) := by
      decide
    exact ⟨.atSecond 360, ahead⟩

/-- The key may be used with RS256, and a token under RS384 is accepted. -/
theorem rs384_accepted_for_rs256_key :
    ∃ validator, (pemBuilder (some [.rs256, .rs384])).build askedAt = .ok validator ∧
      ∃ token user header resolved,
        validator.authenticateAccessToken token askedAt = .ok user ∧
        spelledLibrary.decodeHeader token = some header ∧
        validator.keyResolver askedAt header.kid = .ok resolved ∧
        header.alg = .rs384 ∧ resolved.algorithm = .rs256 := by
  have uses := pemValidator_uses [.rs256, .rs384] (by decide)
  obtain ⟨token, user, authenticated, read⟩ :=
    exists_accepted_token spelledLibrary_faithful spelledLibrary_byFamily (by decide) uses .rs384
      (by decide) rfl
  exact ⟨pemValidator [.rs256, .rs384], rfl, token, user, _, pemKey, authenticated, read, rfl,
    rfl, rfl⟩

/-- By default the key's own algorithm is the only one, and the two are bound. -/
theorem default_list_bound :
    ∃ validator, (pemBuilder none).build askedAt = .ok validator ∧
      ∀ token now user header resolved,
        validator.authenticateAccessToken token now = .ok user →
        spelledLibrary.decodeHeader token = some header →
        validator.keyResolver now header.kid = .ok resolved →
        header.alg = resolved.algorithm := by
  have built : (pemBuilder none).build askedAt = .ok (pemValidator [.rs256]) := rfl
  refine ⟨pemValidator [.rs256], built, ?_⟩
  refine (algorithm_bound_iff spelledLibrary_faithful spelledLibrary_byFamily built).mpr ?_
  intro now kid resolved uses alg listed fitting
  have own : resolved.algorithm ∈ [JwtAlgorithm.rs256] := uses.allowed
  have only : alg ∈ [JwtAlgorithm.rs256] := listed
  rw [List.mem_singleton.mp only, List.mem_singleton.mp own]

end AgqlAuth
