import AgqlAuth.Token.RoundTrip
import AgqlAuth.Validator.Builder

/-!
# Service and validator agree

A validator that was built like a service takes the decisions of that service.
-/

namespace AgqlAuth

/-- The leeway is for the times: where they are not checked, it does not matter. -/
def JwtLibrary.LeewayForTimes (lib : JwtLibrary) : Prop :=
  ∀ (validation : Validation) (leeway : Nat) (now : Int) (payload : JsonValue),
    validation.validateExp = false → validation.validateNbf = false →
      lib.validate { validation with leeway } now payload = lib.validate validation now payload

/-- The public half of the key that the service signs with. -/
inductive SameKeyMaterial (lib : JwtLibrary) : JwtSigningConfig → ValidatorKeyMaterial → Prop where
  | secret (secret : String) : SameKeyMaterial lib (.hs256 secret) (.hs256Secret secret)
  | publicKey (privateKeyPem publicKeyPem keyId : String) :
      SameKeyMaterial lib (.rs256 privateKeyPem publicKeyPem keyId) (.rs256PublicPem publicKeyPem)
  /-- A document that lists the public key under the key id. -/
  | document {privateKeyPem publicKeyPem keyId jwksJson : String}
      (lists : ∀ keySet listed key, StaticJwksKeySet.fromJwksJson jwksJson = .ok keySet →
        keySet.keysByKid.lookup keyId = some listed →
        lib.decodingKeyFromRsaPem publicKeyPem = some key →
        ∀ token algorithms, lib.verify token listed algorithms = lib.verify token key algorithms) :
      SameKeyMaterial lib (.rs256 privateKeyPem publicKeyPem keyId) (.jwksJson jwksJson)

/-- The builder has the settings of the service, and its own defaults otherwise. -/
structure BuiltFor {lib : JwtLibrary} (svc : JwtService lib)
    (builder : AccessTokenValidatorBuilder lib) : Prop where
  issuer : builder.issuer = some svc.auth.config.issuer
  audiences : builder.audiences = [svc.auth.config.audience]
  keyMaterial : ∃ material, builder.keyMaterial = some material ∧
    SameKeyMaterial lib svc.auth.config.jwtSigning material
  keyId : builder.keyId = svc.keys.keyId
  legacyScopeClaims : builder.legacyScopeClaims = svc.auth.config.legacyScopeClaims
  purposePolicy : builder.purposePolicy = .accessTokenOrLegacy
  claimRequirements : builder.claimRequirements = {}
  leewaySeconds : builder.leewaySeconds.getD 0 = 0
  keyResolver : builder.keyResolver = none
  allowedAlgorithms : builder.allowedAlgorithms = none

section Agreement

variable {lib : JwtLibrary} {svc : JwtService lib} {builder : AccessTokenValidatorBuilder lib}
variable {validator : AccessTokenValidator lib} {token : String} {now : OffsetDateTime}

/-- For every key id the service takes, the resolver has a key that opens the same tokens. -/
def Resolves (resolver : AccessTokenKeyResolver lib) (keys : JwtKeyMaterial lib) : Prop :=
  ∀ now kid, kidExpected keys.keyId kid = true →
    ∃ resolved, resolver now kid = .ok resolved ∧ resolved.algorithm = keys.algorithm ∧
      ∀ token algorithms, lib.verify token resolved.decodingKey algorithms =
        lib.verify token keys.decodingKey algorithms

theorem kid_of_expected {expected : String} {actual : Option String}
    (known : kidExpected (some expected) actual = true) : actual = some expected := by
  simpa [kidExpected] using known

theorem resolves_of_build {config : AuthConfig} {keys : JwtKeyMaterial lib}
    {material : ValidatorKeyMaterial} {acceptHs256 : Bool} {builtAt : OffsetDateTime}
    {algorithm : JwtAlgorithm} {resolver : AccessTokenKeyResolver lib}
    {expectedKid : Option String} (origin : JwtKeyMaterial.Origin lib config builtAt keys)
    (same : SameKeyMaterial lib config.jwtSigning material)
    (built : buildKeyResolver (some material) none keys.keyId acceptHs256 now =
      .ok (algorithm, resolver, expectedKid)) :
    algorithm = keys.algorithm ∧ expectedKid = keys.keyId ∧ Resolves resolver keys := by
  cases origin with
  | secret signing long =>
      rw [signing] at same
      cases same
      unfold buildKeyResolver at built
      simp only at built
      obtain ⟨-, built⟩ := Except.ite_error_eq_ok_iff.mp built
      obtain ⟨-, built⟩ := Except.ite_error_eq_ok_iff.mp built
      obtain ⟨key, made, built⟩ := Except.exists_of_bind_eq_ok built
      cases built
      obtain ⟨-, made⟩ := Except.ite_error_eq_ok_iff.mp made
      cases made
      refine ⟨rfl, rfl, fun now kid _ => ⟨_, StaticHs256Key.resolve_eq rfl kid, rfl, ?_⟩⟩
      intro token algorithms
      rfl
  | keyPair signing named signs verifies probed published =>
      rw [signing] at same
      cases same with
      | publicKey =>
          obtain ⟨key, made, built⟩ := Except.exists_of_bind_eq_ok built
          cases built
          unfold StaticRs256Key.fromPem at made
          rw [verifies] at made
          cases made
          refine ⟨rfl, rfl, fun now kid known => ?_⟩
          obtain rfl := kid_of_expected known
          refine ⟨_, StaticRs256Key.resolve_eq rfl, rfl, ?_⟩
          intro token algorithms
          rfl
      | document lists =>
          obtain ⟨keySet, made, built⟩ := Except.exists_of_bind_eq_ok built
          simp only at built
          split at built
          · cases built
          · cases built
          rename_i resolved answered
          cases built
          obtain ⟨listed, rs256⟩ := StaticJwksKeySet.resolve_ok answered
          refine ⟨rfl, rfl, fun now kid known => ?_⟩
          obtain rfl := kid_of_expected known
          exact ⟨resolved, answered, rs256, lists keySet _ _ made listed verifies⟩

/-- What building establishes. -/
structure ServesFor (svc : JwtService lib) (validator : AccessTokenValidator lib) : Prop where
  issuer : validator.issuer = svc.auth.config.issuer
  audiences : validator.audiences = [svc.auth.config.audience]
  leewaySeconds : validator.leewaySeconds = 0
  allowedAlgorithms : validator.allowedAlgorithms = [svc.keys.algorithm]
  purposePolicy : validator.purposePolicy = .accessTokenOrLegacy
  legacyScopeClaims : validator.legacyScopeClaims = svc.auth.config.legacyScopeClaims
  claimRequirements : validator.claimRequirements = {}
  expectedKid : validator.expectedKid = svc.keys.keyId
  resolves : Resolves validator.keyResolver svc.keys

theorem servesFor_of_build (alike : BuiltFor svc builder)
    (built : builder.build now = .ok validator) : ServesFor svc validator := by
  obtain ⟨material, given, same⟩ := alike.keyMaterial
  unfold AccessTokenValidatorBuilder.build at built
  rw [alike.issuer, alike.keyResolver, alike.allowedAlgorithms, alike.keyId, given] at built
  obtain ⟨issuer, named, built⟩ := Except.exists_of_bind_eq_ok built
  unfold requiredNonEmpty at named
  simp only at named
  obtain ⟨-, named⟩ := Except.ite_error_eq_ok_iff.mp named
  cases named
  obtain ⟨-, built⟩ := Except.ite_error_eq_ok_iff.mp built
  obtain ⟨-, built⟩ := Except.ite_error_eq_ok_iff.mp built
  obtain ⟨⟨algorithm, resolver, expectedKid⟩, resolved, built⟩ :=
    Except.exists_of_bind_eq_ok built
  obtain ⟨rfl, rfl, resolves⟩ := resolves_of_build svc.origin same resolved
  obtain ⟨allowed, chosen, built⟩ := Except.exists_of_bind_eq_ok built
  cases chosen
  cases built
  exact {
    issuer := rfl
    audiences := alike.audiences
    leewaySeconds := alike.leewaySeconds
    allowedAlgorithms := rfl
    purposePolicy := alike.purposePolicy
    legacyScopeClaims := alike.legacyScopeClaims
    claimRequirements := alike.claimRequirements
    expectedKid := rfl
    resolves }

/-- Two decoders that open the same tokens and check the same about their claims. -/
structure ReadAlike (config config' : AccessTokenDecodeConfig lib) : Prop where
  algorithms : config.validation.algorithms = config'.validation.algorithms
  verifies : ∀ token algorithms, lib.verify token config.decodingKey algorithms =
    lib.verify token config'.decodingKey algorithms
  validates : ∀ now payload,
    lib.validate { config.validation with validateExp := false, validateNbf := false } now payload =
      lib.validate { config'.validation with validateExp := false, validateNbf := false } now payload
  leewaySeconds : config.leewaySeconds = config'.leewaySeconds
  purposePolicy : config.purposePolicy = config'.purposePolicy
  legacyScopeClaims : config.legacyScopeClaims = config'.legacyScopeClaims
  claimRequirements : config.claimRequirements = config'.claimRequirements

/-- The header lets the decoder go on. -/
def Admits (config : AccessTokenDecodeConfig lib) (header : JwtHeader) : Prop :=
  header.alg ∈ config.allowedAlgorithms ∧ kidExpected config.expectedKid header.kid = true

variable {config config' : AccessTokenDecodeConfig lib} {header : JwtHeader}

theorem ReadAlike.decode_eq (alike : ReadAlike config config') {α : Type}
    (read : JsonValue → Option α) (token : String) (now : Int) :
    lib.decode read token config.decodingKey
        { config.validation with validateExp := false, validateNbf := false } now =
      lib.decode read token config'.decodingKey
        { config'.validation with validateExp := false, validateNbf := false } now := by
  refine JwtLibrary.decode_congr ?_ (alike.validates now)
  rw [alike.verifies, alike.algorithms]

theorem ReadAlike.check_eq (alike : ReadAlike config config') (now : Int)
    (claims : AccessTokenClaims) :
    checkAccessTokenClaims config now claims = checkAccessTokenClaims config' now claims := by
  unfold checkAccessTokenClaims
  rw [alike.leewaySeconds, alike.purposePolicy, alike.legacyScopeClaims, alike.claimRequirements]

/-- Once both let the header through, they decide alike. -/
theorem ReadAlike.authenticateWith_eq (alike : ReadAlike config config')
    (read : lib.decodeHeader token = some header) (admits : Admits config header)
    (admits' : Admits config' header) :
    authenticateWith lib token config now = authenticateWith lib token config' now := by
  unfold authenticateWith decodeAccessTokenClaims
  rw [read]
  simp only [admits.1, admits.2, admits'.1, admits'.2, not_true, false_and, Bool.not_true,
    Bool.false_eq_true, if_false, alike.decode_eq, alike.check_eq]

theorem service_algorithms (svc : JwtService lib) :
    svc.keys.validation.algorithms = [svc.keys.algorithm] := by
  rw [svc.origin.validation_eq]
  rfl

/-- The header is one of the tokens that the service signs. -/
def OwnHeader (svc : JwtService lib) (header : JwtHeader) : Prop :=
  header.alg = svc.keys.algorithm ∧ kidExpected svc.keys.keyId header.kid = true

theorem OwnHeader.admits (own : OwnHeader svc header) :
    Admits svc.accessTokenDecodeConfig header := by
  refine ⟨?_, own.2⟩
  change header.alg ∈ svc.keys.validation.algorithms
  rw [service_algorithms, List.mem_singleton]
  exact own.1

theorem service_refuses (read : lib.decodeHeader token = some header)
    (foreign : ¬OwnHeader svc header) :
    svc.authenticateAccessToken token now = .error .invalidAccessToken := by
  unfold JwtService.authenticateAccessToken authenticateWith decodeAccessTokenClaims
  rw [read]
  by_cases alg : header.alg = svc.keys.algorithm
  · have unknown : kidExpected svc.keys.keyId header.kid = false := by
      simpa [OwnHeader, alg] using foreign
    simp [JwtService.accessTokenDecodeConfig, AccessTokenDecodeConfig.forService, unknown]
  · simp [JwtService.accessTokenDecodeConfig, AccessTokenDecodeConfig.forService,
      service_algorithms, alg]

namespace ServesFor

theorem refuses (serves : ServesFor svc validator) (read : lib.decodeHeader token = some header)
    (foreign : ¬OwnHeader svc header) :
    validator.decodeConfigForToken token now = .error .invalidAccessToken := by
  unfold AccessTokenValidator.decodeConfigForToken
  rw [read, serves.allowedAlgorithms, serves.expectedKid]
  by_cases alg : header.alg = svc.keys.algorithm
  · have unknown : kidExpected svc.keys.keyId header.kid = false := by
      simpa [OwnHeader, alg] using foreign
    simp [alg, unknown]
  · simp [alg]

/-- The settings differ in the leeway only. -/
theorem readAlike (leeways : lib.LeewayForTimes) (serves : ServesFor svc validator)
    {resolved : ResolvedKey lib} (algorithm : resolved.algorithm = svc.keys.algorithm)
    (verifies : ∀ token algorithms, lib.verify token resolved.decodingKey algorithms =
      lib.verify token svc.keys.decodingKey algorithms) :
    ReadAlike (validator.decodeConfig resolved) svc.accessTokenDecodeConfig := by
  have settings : (validator.decodeConfig resolved).validation =
      { svc.keys.validation with leeway := 0, validateExp := false, validateNbf := false } := by
    rw [svc.origin.validation_eq, AccessTokenValidator.decodeConfig,
      AccessTokenValidator.validation, algorithm, serves.issuer, serves.audiences,
      serves.leewaySeconds, serves.allowedAlgorithms]
    rfl
  constructor
  case algorithms =>
    rw [settings]
    rfl
  case verifies => exact verifies
  case validates =>
    intro now payload
    rw [settings]
    exact leeways { svc.keys.validation with validateExp := false, validateNbf := false } 0 now
      payload rfl rfl
  case leewaySeconds => exact serves.leewaySeconds
  case purposePolicy => exact serves.purposePolicy
  case legacyScopeClaims => exact serves.legacyScopeClaims
  case claimRequirements => exact serves.claimRequirements

theorem admits (serves : ServesFor svc validator) (own : OwnHeader svc header)
    (resolved : ResolvedKey lib) : Admits (validator.decodeConfig resolved) header := by
  refine ⟨?_, rfl⟩
  change header.alg ∈ validator.allowedAlgorithms
  rw [serves.allowedAlgorithms, List.mem_singleton]
  exact own.1

/-- For the service's own header the validator finds a key and reads as the service does. -/
theorem decodeConfig_of_own (serves : ServesFor svc validator)
    (read : lib.decodeHeader token = some header) (own : OwnHeader svc header)
    (now : OffsetDateTime) :
    ∃ resolved, validator.decodeConfigForToken token now = .ok (validator.decodeConfig resolved) ∧
      resolved.algorithm = svc.keys.algorithm ∧
      ∀ token algorithms, lib.verify token resolved.decodingKey algorithms =
        lib.verify token svc.keys.decodingKey algorithms := by
  obtain ⟨resolved, answered, algorithm, verifies⟩ := serves.resolves now header.kid own.2
  refine ⟨resolved, ?_, algorithm, verifies⟩
  unfold AccessTokenValidator.decodeConfigForToken
  rw [read, serves.allowedAlgorithms, serves.expectedKid]
  simp [own.1, own.2, answered, algorithm]

end ServesFor

/--
A validator with the issuer, the audience, the key material and the settings of a
service answers every token, at every time, as the service does.
-/
theorem service_validator_agree (leeways : lib.LeewayForTimes) (svc : JwtService lib)
    {builder : AccessTokenValidatorBuilder lib} (alike : BuiltFor svc builder)
    {builtAt : OffsetDateTime} {validator : AccessTokenValidator lib}
    (built : builder.build builtAt = .ok validator) (token : String) (now : OffsetDateTime) :
    validator.authenticateAccessToken token now = svc.authenticateAccessToken token now := by
  have serves := servesFor_of_build alike built
  unfold AccessTokenValidator.authenticateAccessToken
  cases read : lib.decodeHeader token with
  | none =>
      simp [AccessTokenValidator.decodeConfigForToken, JwtService.authenticateAccessToken,
        authenticateWith, decodeAccessTokenClaims, read]
  | some header =>
      by_cases own : OwnHeader svc header
      · obtain ⟨resolved, found, algorithm, verifies⟩ := serves.decodeConfig_of_own read own now
        rw [found]
        exact (serves.readAlike leeways algorithm verifies).authenticateWith_eq read
          (serves.admits own resolved) own.admits
      · rw [serves.refuses read own, service_refuses read own]

end Agreement

theorem tableLibrary_leeway (table : List TableEntry) : (tableLibrary table).LeewayForTimes := by
  intro validation leeway now payload untimed _
  cases payload <;> simp [tableLibrary, validateRegistered, untimed]

def secretBuilder (table : List TableEntry) : AccessTokenValidatorBuilder (tableLibrary table) where
  issuer := some "issuer"
  audiences := ["app"]
  keyMaterial := some (.hs256Secret sharedSecret)
  acceptHs256 := true

theorem secretBuilder_builtFor (table : List TableEntry) :
    BuiltFor (secretService table) (secretBuilder table) where
  issuer := rfl
  audiences := rfl
  keyMaterial := ⟨_, rfl, .secret sharedSecret⟩
  keyId := rfl
  legacyScopeClaims := rfl
  purposePolicy := rfl
  claimRequirements := rfl
  leewaySeconds := rfl
  keyResolver := rfl
  allowedAlgorithms := rfl

/-- The server takes the tokens of the service, and only those. -/
theorem secret_server_agrees :
    ∃ validator, (secretBuilder grantTable).build askedAt = .ok validator ∧
      (validator.authenticateAccessToken (tableToken 0) askedAt).isOk = true ∧
      ∀ token now, validator.authenticateAccessToken token now =
        (secretService grantTable).authenticateAccessToken token now := by
  obtain ⟨validator, built⟩ : ∃ validator,
      (secretBuilder grantTable).build askedAt = .ok validator := ⟨_, rfl⟩
  have agrees := service_validator_agree (tableLibrary_leeway grantTable)
    (secretService grantTable) (secretBuilder_builtFor grantTable) built
  refine ⟨validator, built, ?_, agrees⟩
  rw [agrees]
  decide +kernel

end AgqlAuth
