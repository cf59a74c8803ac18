import AgqlAuth.OAuth.Oidc

/-!
# Authorization policies are what options validate to

The policies that the two validators accept are the same: one predicate describes
both, and every policy of it comes from options.
-/

namespace AgqlAuth

/-- A value that may be requested or returned. -/
structure CanonicalValue (value : String) : Prop where
  nonempty : value ≠ ""
  trimmed : trim value = value
  plain : ∀ c ∈ value.toList, isControl c = false ∧ isWhitespace c = false
  short : value.utf8ByteSize ≤ maxOidcAuthorizationValueLength

/-- A list of values within the limits. -/
structure ContextValues (values : List String) : Prop where
  few : values.length ≤ maxOidcAuthorizationValues
  canonical : ∀ value ∈ values, CanonicalValue value
  distinct : values.Nodup
  total : (values.map String.utf8ByteSize).sum ≤ maxOidcAuthorizationTotalValueLength

theorem ContextValues.nil : ContextValues [] := by
  constructor <;> simp

theorem guarded_eq_ok {α : Type} {c : Prop} [Decidable c] {detail : String}
    {rest : AuthResult α} {value : α} :
    (if c then invalidAuthorizationOptions detail else rest) = .ok value ↔
      ¬c ∧ rest = .ok value :=
  Except.ite_error_eq_ok_iff

/-- A check that ends the validation is followed by the rest. -/
theorem checked_eq_ok {α : Type} {c : Prop} [Decidable c] {detail : String}
    {next : Unit → AuthResult α} {rest : AuthResult α} {value : α} :
    (if c then (invalidAuthorizationOptions detail >>= next) else rest) = .ok value ↔
      ¬c ∧ rest = .ok value :=
  Except.ite_error_eq_ok_iff

theorem canonicalValue_iff {value : String} :
    ¬(value.isEmpty || trim value != value ||
        value.toList.any (fun c => isControl c || isWhitespace c)) = true ∧
      ¬maxOidcAuthorizationValueLength < value.utf8ByteSize ↔ CanonicalValue value := by
  simp only [Bool.or_eq_true, not_or, not_lt, bne_iff_ne, ne_eq, not_not, String.isEmpty_iff,
    List.any_eq_true, not_exists, not_and, Bool.not_eq_true]
  constructor
  · rintro ⟨⟨⟨nonempty, trimmed⟩, plain⟩, short⟩
    exact ⟨nonempty, trimmed, plain, short⟩
  · rintro ⟨nonempty, trimmed, plain, short⟩
    exact ⟨⟨⟨nonempty, trimmed⟩, plain⟩, short⟩

/-- The loop goes through exactly when every value is canonical and new and the sum fits. -/
theorem validateValuesFrom_eq_ok (label : String) (values : List String) :
    ∀ seen total, total ≤ maxOidcAuthorizationTotalValueLength →
      (validateValuesFrom label seen total values = .ok () ↔
        (∀ value ∈ values, CanonicalValue value ∧ value ∉ seen) ∧ values.Nodup ∧
          total + (values.map String.utf8ByteSize).sum ≤
            maxOidcAuthorizationTotalValueLength) := by
  induction values with
  | nil =>
      intro seen total bounded
      simp [validateValuesFrom, bounded]
  | cons value rest ih =>
      intro seen total bounded
      rw [validateValuesFrom, guarded_eq_ok, guarded_eq_ok, guarded_eq_ok, guarded_eq_ok,
        ← and_assoc, canonicalValue_iff, List.map_cons, List.sum_cons, ← Nat.add_assoc]
      constructor
      · rintro ⟨canonical, fits, fresh, scanned⟩
        obtain ⟨each, distinct, sum⟩ := (ih _ _ (not_lt.mp fits)).mp scanned
        refine ⟨fun other mem => ?_, List.nodup_cons.mpr ⟨fun again => ?_, distinct⟩, sum⟩
        · rcases List.mem_cons.mp mem with rfl | later
          · exact ⟨canonical, fresh⟩
          · exact ⟨(each other later).1,
              fun old => (each other later).2 (List.mem_cons_of_mem _ old)⟩
        · exact (each value again).2 List.mem_cons_self
      · rintro ⟨each, distinct, sum⟩
        obtain ⟨canonical, fresh⟩ := each value List.mem_cons_self
        obtain ⟨apart, distinct⟩ := List.nodup_cons.mp distinct
        have fits : total + value.utf8ByteSize ≤ maxOidcAuthorizationTotalValueLength :=
          (Nat.le_add_right ..).trans sum
        refine ⟨canonical, not_lt.mpr fits, fresh, (ih _ _ fits).mpr ⟨?_, distinct, sum⟩⟩
        intro other mem
        obtain ⟨canonical', fresh'⟩ := each other (List.mem_cons_of_mem _ mem)
        refine ⟨canonical', fun known => ?_⟩
        rcases List.mem_cons.mp known with rfl | old
        · exact apart mem
        · exact fresh' old

theorem validateValues_eq_ok {label : String} {values : List String} {requireNonempty : Bool} :
    validateValues label values requireNonempty = .ok () ↔
      (requireNonempty = true → values ≠ []) ∧ ContextValues values := by
  rw [validateValues, guarded_eq_ok, guarded_eq_ok,
    validateValuesFrom_eq_ok label values [] 0 (Nat.zero_le _), Nat.zero_add]
  simp only [Bool.and_eq_true, not_and, List.isEmpty_iff, not_lt]
  constructor
  · rintro ⟨required, few, each, distinct, total⟩
    exact ⟨required, few, fun value mem => (each value mem).1, distinct, total⟩
  · rintro ⟨required, values⟩
    exact ⟨required, values.few, fun value mem => ⟨values.canonical value mem, List.not_mem_nil⟩,
      values.distinct, values.total⟩

/-- What both validators accept. -/
structure ValidPolicy (jsonText : JsonValue → String) (policy : OidcAuthorizationPolicy) :
    Prop where
  version : policy.version = if policy.essentialAcrsValue.isSome then 2 else 1
  maxAge : ∀ maxAge ∈ policy.maxAgeSeconds, maxAge ≤ maxOidcMaxAgeSeconds
  few : policy.prompt.length ≤ maxOidcAuthorizationValues
  distinct : policy.prompt.Nodup
  alone : OidcPrompt.none ∈ policy.prompt → policy.prompt.length = 1
  acrValues : ContextValues policy.acrValues
  essentialAcr : ContextValues policy.essentialAcrValues
  essentialAcrs : ∀ value ∈ policy.essentialAcrsValue, ContextValues [value]
  exclusive : policy.acrValues = [] ∨ policy.essentialAcrValues = []
  serialized : ∃ text, policy.claimsParameter jsonText = .ok text

section Stored

variable {jsonText : JsonValue → String} {policy : OidcAuthorizationPolicy}

theorem validateStoredVersion_eq_ok :
    policy.validateStoredVersion = .ok () ↔
      policy.version = if policy.essentialAcrsValue.isSome then 2 else 1 := by
  unfold OidcAuthorizationPolicy.validateStoredVersion
  cases policy.essentialAcrsValue <;> rcases policy.version with _ | _ | _ | other <;>
    simp [invalidAuthorizationOptions]

theorem exclusive_iff {acrValues essentialAcrValues : List String} :
    ¬(!acrValues.isEmpty && !essentialAcrValues.isEmpty) = true ↔
      acrValues = [] ∨ essentialAcrValues = [] := by
  cases acrValues <;> cases essentialAcrValues <;> simp

theorem maxAge_iff {maxAge : Option Nat} :
    ¬maxAge.any (maxOidcMaxAgeSeconds < ·) = true ↔
      ∀ seconds ∈ maxAge, seconds ≤ maxOidcMaxAgeSeconds := by
  cases maxAge <;> simp

/-- The validator of stored policies accepts exactly the valid ones. -/
theorem validateStored_eq_ok : policy.validateStored jsonText = .ok () ↔
    ValidPolicy jsonText policy := by
  have nonempty : (!policy.essentialAcrValues.isEmpty) = true → policy.essentialAcrValues ≠ [] := by
    simp
  constructor
  · intro accepted
    cases acrs : policy.essentialAcrsValue with
    | none =>
        simp only [OidcAuthorizationPolicy.validateStored, acrs, checked_eq_ok,
          Except.bind_eq_ok_iff, exclusive_iff, maxAge_iff, not_lt, not_not] at accepted
        obtain ⟨_, version, maxAge, few, distinct, alone, _, acrValues, _, essentialAcr, exclusive,
          text, serialized, -⟩ := accepted
        exact {
          version := validateStoredVersion_eq_ok.mp version
          maxAge
          few
          distinct
          alone := fun mem => not_not.mp fun several => alone ⟨mem, several⟩
          acrValues := (validateValues_eq_ok.mp acrValues).2
          essentialAcr := (validateValues_eq_ok.mp essentialAcr).2
          essentialAcrs := fun value present => by rw [acrs] at present; cases present
          exclusive
          serialized := ⟨text, serialized⟩ }
    | some value =>
        simp only [OidcAuthorizationPolicy.validateStored, acrs, checked_eq_ok,
          Except.bind_eq_ok_iff, exclusive_iff, maxAge_iff, not_lt, not_not] at accepted
        obtain ⟨_, version, maxAge, few, distinct, alone, _, acrValues, _, essentialAcr, _,
          essentialAcrs, exclusive, text, serialized, -⟩ := accepted
        exact {
          version := validateStoredVersion_eq_ok.mp version
          maxAge
          few
          distinct
          alone := fun mem => not_not.mp fun several => alone ⟨mem, several⟩
          acrValues := (validateValues_eq_ok.mp acrValues).2
          essentialAcr := (validateValues_eq_ok.mp essentialAcr).2
          essentialAcrs := fun other present => by
            rw [acrs] at present
            cases present
            exact (validateValues_eq_ok.mp essentialAcrs).2
          exclusive
          serialized := ⟨text, serialized⟩ }
  · intro valid
    obtain ⟨text, serialized⟩ := valid.serialized
    have version := validateStoredVersion_eq_ok.mpr valid.version
    have alone : ¬(OidcPrompt.none ∈ policy.prompt ∧ policy.prompt.length ≠ 1) :=
      fun several => several.2 (valid.alone several.1)
    have acrValues : validateValues "stored acr_values" policy.acrValues false = .ok () :=
      validateValues_eq_ok.mpr ⟨nofun, valid.acrValues⟩
    have essentialAcr : validateValues "stored essential acr" policy.essentialAcrValues
        (!policy.essentialAcrValues.isEmpty) = .ok () :=
      validateValues_eq_ok.mpr ⟨nonempty, valid.essentialAcr⟩
    cases acrs : policy.essentialAcrsValue with
    | none =>
        simp only [OidcAuthorizationPolicy.validateStored, acrs, checked_eq_ok,
          Except.bind_eq_ok_iff, exclusive_iff, maxAge_iff, not_lt, not_not]
        exact ⟨(), version, valid.maxAge, valid.few, valid.distinct, alone, (), acrValues, (),
          essentialAcr, valid.exclusive, text, serialized, rfl⟩
    | some value =>
        have essentialAcrs : validateValues "stored essential acrs" [value] true = .ok () :=
          validateValues_eq_ok.mpr ⟨by simp, valid.essentialAcrs value acrs⟩
        simp only [OidcAuthorizationPolicy.validateStored, acrs, checked_eq_ok,
          Except.bind_eq_ok_iff, exclusive_iff, maxAge_iff, not_lt, not_not]
        exact ⟨(), version, valid.maxAge, valid.few, valid.distinct, alone, (), acrValues, (),
          essentialAcr, (), essentialAcrs, valid.exclusive, text, serialized, rfl⟩

end Stored

/-- The essential claims that were read are within the limits. -/
structure ReadClaims (read : EssentialClaims) : Prop where
  acrValues : ContextValues read.acrValues
  acrsValue : ∀ value ∈ read.acrsValue, ContextValues [value]

theorem ReadClaims.start : ReadClaims {} := by
  refine ⟨.nil, ?_⟩
  rintro value ⟨⟩

theorem ReadClaims.step {read next : EssentialClaims} {claim : OidcIdTokenClaimRequest}
    (claims : ReadClaims read) (accepted : readEssentialClaim read claim = .ok next) :
    ReadClaims next := by
  cases claim with
  | essentialAuthTime =>
      obtain ⟨-, taken⟩ := guarded_eq_ok.mp accepted
      cases taken
      exact ⟨claims.acrValues, claims.acrsValue⟩
  | essentialAcr values =>
      obtain ⟨-, taken⟩ := guarded_eq_ok.mp accepted
      obtain ⟨⟨⟩, valid, taken⟩ := Except.exists_of_bind_eq_ok taken
      cases taken
      exact ⟨(validateValues_eq_ok.mp valid).2, claims.acrsValue⟩
  | essentialAcrs value =>
      obtain ⟨-, taken⟩ := guarded_eq_ok.mp accepted
      obtain ⟨⟨⟩, valid, taken⟩ := Except.exists_of_bind_eq_ok taken
      cases taken
      refine ⟨claims.acrValues, ?_⟩
      rintro other ⟨⟩
      exact (validateValues_eq_ok.mp valid).2

theorem ReadClaims.fold {claims : List OidcIdTokenClaimRequest} :
    ∀ {read next : EssentialClaims}, ReadClaims read →
      claims.foldlM readEssentialClaim read = .ok next → ReadClaims next := by
  induction claims with
  | nil =>
      rintro read next sound ⟨⟩
      exact sound
  | cons claim rest ih =>
      intro read next sound folded
      obtain ⟨between, taken, folded⟩ := Except.exists_of_bind_eq_ok folded
      exact ih (sound.step taken) folded

theorem validateMaxAge_bound {maxAge : Option Int} {seconds : Option Nat}
    (accepted : validateMaxAge maxAge = .ok seconds) :
    ∀ value ∈ seconds, value ≤ maxOidcMaxAgeSeconds := by
  cases maxAge with
  | none =>
      cases accepted
      rintro value ⟨⟩
  | some value =>
      obtain ⟨-, bounded⟩ := guarded_eq_ok.mp accepted
      obtain ⟨least, taken⟩ := guarded_eq_ok.mp bounded
      cases taken
      rintro _ ⟨⟩
      omega

/-- The options that a policy comes from. -/
def OidcAuthorizationPolicy.toOptions (self : OidcAuthorizationPolicy) :
    OidcAuthorizationOptions where
  prompt := self.prompt
  maxAge := self.maxAgeSeconds.map Int.ofNat
  acrValues := self.acrValues
  idTokenClaims :=
    (if self.essentialAuthTime then [.essentialAuthTime] else []) ++
    (if self.essentialAcrValues.isEmpty then [] else [.essentialAcr self.essentialAcrValues]) ++
    (self.essentialAcrsValue.map .essentialAcrs).toList

section Options

variable {jsonText : JsonValue → String} {policy : OidcAuthorizationPolicy}

/-- What options validate to is valid. -/
theorem valid_of_validate {options : OidcAuthorizationOptions}
    (accepted : options.validate jsonText = .ok policy) : ValidPolicy jsonText policy := by
  simp only [OidcAuthorizationOptions.validate, checked_eq_ok, Except.bind_eq_ok_iff,
    exclusive_iff, not_lt, not_not] at accepted
  obtain ⟨few, distinct, alone, maxAge, bounded, _, acrValues, essential, folded, exclusive, text,
    serialized, built⟩ := accepted
  have read := ReadClaims.fold .start folded
  cases built
  exact {
    version := rfl
    maxAge := validateMaxAge_bound bounded
    few
    distinct
    alone := fun mem => not_not.mp fun several => alone ⟨mem, several⟩
    acrValues := (validateValues_eq_ok.mp acrValues).2
    essentialAcr := read.acrValues
    essentialAcrs := read.acrsValue
    exclusive
    serialized := ⟨text, serialized⟩ }

theorem fold_toOptions (valid : ValidPolicy jsonText policy) :
    policy.toOptions.idTokenClaims.foldlM readEssentialClaim {} =
      .ok ⟨policy.essentialAuthTime, policy.essentialAcrValues, policy.essentialAcrsValue⟩ := by
  have authTime : (if policy.essentialAuthTime then [OidcIdTokenClaimRequest.essentialAuthTime]
      else []).foldlM readEssentialClaim {} =
        (.ok ⟨policy.essentialAuthTime, [], none⟩ : AuthResult EssentialClaims) := by
    cases policy.essentialAuthTime <;> rfl
  have acr : (if policy.essentialAcrValues.isEmpty then []
      else [OidcIdTokenClaimRequest.essentialAcr policy.essentialAcrValues]).foldlM
        readEssentialClaim ⟨policy.essentialAuthTime, [], none⟩ =
      .ok ⟨policy.essentialAuthTime, policy.essentialAcrValues, none⟩ := by
    cases values : policy.essentialAcrValues with
    | nil => rfl
    | cons first rest =>
        have accepted : validateValues "essential acr" (first :: rest) true = .ok () :=
          validateValues_eq_ok.mpr ⟨by simp, values ▸ valid.essentialAcr⟩
        simp [readEssentialClaim, accepted]
  have acrs : (policy.essentialAcrsValue.map OidcIdTokenClaimRequest.essentialAcrs).toList.foldlM
      readEssentialClaim ⟨policy.essentialAuthTime, policy.essentialAcrValues, none⟩ =
      .ok ⟨policy.essentialAuthTime, policy.essentialAcrValues, policy.essentialAcrsValue⟩ := by
    cases value : policy.essentialAcrsValue with
    | none => rfl
    | some required =>
        have accepted : validateValues "essential acrs" [required] true = .ok () :=
          validateValues_eq_ok.mpr ⟨by simp, valid.essentialAcrs required value⟩
        simp [readEssentialClaim, accepted]
  rw [OidcAuthorizationPolicy.toOptions, List.foldlM_append, List.foldlM_append, authTime]
  refine Except.bind_eq_ok_iff.mpr ⟨_, Except.bind_eq_ok_iff.mpr ⟨_, rfl, acr⟩, acrs⟩

theorem validateMaxAge_toOptions (valid : ValidPolicy jsonText policy) :
    validateMaxAge policy.toOptions.maxAge = .ok policy.maxAgeSeconds := by
  cases maxAge : policy.maxAgeSeconds with
  | none => simp [OidcAuthorizationPolicy.toOptions, maxAge, validateMaxAge]
  | some seconds =>
      have bound := valid.maxAge seconds maxAge
      have options : policy.toOptions.maxAge = some (seconds : Int) := by
        simp [OidcAuthorizationPolicy.toOptions, maxAge]
      rw [options, validateMaxAge, if_neg (by omega), if_neg (by omega), Int.toNat_natCast]

/-- A valid policy is what its options validate to. -/
theorem validate_toOptions (valid : ValidPolicy jsonText policy) :
    policy.toOptions.validate jsonText = .ok policy := by
  obtain ⟨text, serialized⟩ := valid.serialized
  have acrValues : validateValues "acr_values" policy.acrValues false = .ok () :=
    validateValues_eq_ok.mpr ⟨nofun, valid.acrValues⟩
  have rebuilt : OidcAuthorizationPolicy.mk
      (if policy.essentialAcrsValue.isSome then 2 else 1) policy.prompt policy.maxAgeSeconds
      policy.acrValues policy.essentialAuthTime policy.essentialAcrValues
      policy.essentialAcrsValue = policy := by
    rw [← valid.version]
  simp only [OidcAuthorizationOptions.validate, checked_eq_ok, Except.bind_eq_ok_iff,
    exclusive_iff, not_lt, not_not]
  refine ⟨valid.few, valid.distinct, fun several => several.2 (valid.alone several.1), _,
    validateMaxAge_toOptions valid, (), acrValues, _, fold_toOptions valid, valid.exclusive, text,
    ?_, congrArg Except.ok rebuilt⟩
  exact (congrArg _ rebuilt).trans serialized

end Options

def RequiresAuthTime (policy : OidcAuthorizationPolicy) : Prop :=
  policy.maxAgeSeconds.isSome = true ∨ policy.essentialAuthTime = true

/-- The bounds on the authentication time that are computed fit an `i64`. -/
structure RepresentableBounds (policy : OidcAuthorizationPolicy) (now : OffsetDateTime)
    (skew : Int) : Prop where
  latest : RequiresAuthTime policy →
    -(2 ^ 63) ≤ now.unixTimestamp + skew ∧ now.unixTimestamp + skew < 2 ^ 63
  oldest : ∀ maxAge ∈ policy.maxAgeSeconds, -(2 ^ 63) ≤ now.unixTimestamp - maxAge - skew ∧
    now.unixTimestamp - maxAge - skew < 2 ^ 63

/-- The claims meet every requirement of the policy. -/
structure MeetsPolicy (policy : OidcAuthorizationPolicy) (claims : ValidatedOidcClaims)
    (now : OffsetDateTime) (skew : Int) : Prop where
  authTime : RequiresAuthTime policy → ∃ authTime, claims.authTime = some authTime ∧
    authTime.unixTimestamp ≤ now.unixTimestamp + skew ∧
    ∀ maxAge ∈ policy.maxAgeSeconds, now.unixTimestamp - maxAge - skew ≤ authTime.unixTimestamp
  acr : policy.essentialAcrValues ≠ [] →
    ∃ acr, claims.acr = some acr ∧ acr ∈ policy.essentialAcrValues
  acrs : ∀ required ∈ policy.essentialAcrsValue, ∃ acrs, claims.acrs = some acrs ∧ required ∈ acrs

section Enforcement

variable {policy : OidcAuthorizationPolicy} {claims : ValidatedOidcClaims} {now : OffsetDateTime}

theorem checkedI64_of_fits {value : Int} (fits : -(2 ^ 63) ≤ value ∧ value < 2 ^ 63)
    (detail : String) : checkedI64 value detail = .ok value := if_pos fits

theorem rejected_eq_ok {α : Type} {c : Prop} [Decidable c] {detail : String}
    {next : Unit → AuthResult α} {rest : AuthResult α} {value : α} :
    (if c then (tokenValidationError detail >>= next) else rest) = .ok value ↔
      ¬c ∧ rest = .ok value :=
  Except.ite_error_eq_ok_iff

/-- A year before any instant is still within an `i64` of seconds. -/
theorem fits_sub_maxAge (now : OffsetDateTime) {maxAge : Nat}
    (bound : maxAge ≤ maxOidcMaxAgeSeconds) :
    -(2 ^ 63) ≤ now.unixTimestamp - maxAge ∧ now.unixTimestamp - maxAge < 2 ^ 63 := by
  have lower := now.lower
  have upper := now.upper
  simp only [OffsetDateTime.unixTimestamp, nanosPerSecond, minUnixNanos, maxUnixNanos,
    maxOidcMaxAgeSeconds] at *
  omega

theorem enforceAuthTime_ok_iff {provider : OidcProvider}
    (bounded : ∀ maxAge ∈ policy.maxAgeSeconds, maxAge ≤ maxOidcMaxAgeSeconds)
    (bounds : RepresentableBounds policy now provider.config.clockSkew.wholeSeconds) :
    (∃ enforced, provider.enforceAuthTime policy claims now = .ok enforced) ↔
      (RequiresAuthTime policy → ∃ authTime, claims.authTime = some authTime ∧
        authTime.unixTimestamp ≤ now.unixTimestamp + provider.config.clockSkew.wholeSeconds ∧
        ∀ maxAge ∈ policy.maxAgeSeconds,
          now.unixTimestamp - maxAge - provider.config.clockSkew.wholeSeconds ≤
            authTime.unixTimestamp) := by
  by_cases required : RequiresAuthTime policy
  · have asked : (policy.maxAgeSeconds.isSome || policy.essentialAuthTime) = true :=
      (Bool.or_eq_true ..).mpr required
    rw [OidcProvider.enforceAuthTime, if_pos asked]
    cases present : claims.authTime with
    | none => simp [tokenValidationError, required]
    | some authTime =>
        have latest := checkedI64_of_fits (bounds.latest required)
        cases maxAge : policy.maxAgeSeconds with
        | none =>
            simp only [latest, Except.bind_eq_ok_iff, rejected_eq_ok, not_lt]
            constructor
            · rintro ⟨enforced, _, ⟨⟩, timely, -⟩ _
              exact ⟨authTime, rfl, timely, nofun⟩
            · intro met
              obtain ⟨_, ⟨⟩, timely, -⟩ := met required
              exact ⟨_, _, rfl, timely, rfl⟩
        | some seconds =>
            have bound := bounded seconds maxAge
            have fits : -(2 ^ 63) ≤ (seconds : Int) ∧ (seconds : Int) < 2 ^ 63 := by
              simp only [maxOidcMaxAgeSeconds] at bound
              omega
            have age := checkedI64_of_fits fits
            have recent := checkedI64_of_fits (fits_sub_maxAge now bound)
            have oldest := checkedI64_of_fits (bounds.oldest seconds maxAge)
            simp only [latest, age, Except.bind_eq_ok_iff, rejected_eq_ok, not_lt]
            constructor
            · rintro ⟨enforced, _, ⟨⟩, timely, _, ⟨⟩, _, early, _, earliest, old, -⟩ _
              cases (recent _).symm.trans early
              cases (oldest _).symm.trans earliest
              refine ⟨authTime, rfl, timely, ?_⟩
              rintro _ ⟨⟩
              exact old
            · intro met
              obtain ⟨_, ⟨⟩, timely, old⟩ := met required
              exact ⟨_, _, rfl, timely, _, rfl, _, recent _, _, oldest _, old seconds rfl, rfl⟩
  · have unasked : ¬(policy.maxAgeSeconds.isSome || policy.essentialAuthTime) = true :=
      fun asked => required ((Bool.or_eq_true ..).mp asked)
    rw [OidcProvider.enforceAuthTime, if_neg unasked]
    exact ⟨fun _ asked => absurd asked required, fun _ => ⟨_, rfl⟩⟩

theorem enforceAcr_ok_iff : (∃ matched, OidcProvider.enforceAcr policy claims = .ok matched) ↔
    (policy.essentialAcrValues ≠ [] →
      ∃ acr, claims.acr = some acr ∧ acr ∈ policy.essentialAcrValues) := by
  unfold OidcProvider.enforceAcr
  by_cases empty : policy.essentialAcrValues = []
  · simp [empty]
  · cases claims.acr with
    | none => simp [empty, tokenValidationError]
    | some acr =>
        by_cases allowed : acr ∈ policy.essentialAcrValues
        · simp [empty, allowed]
        · simp [empty, allowed, tokenValidationError]

theorem enforceAcrs_ok_iff : (∃ matched, OidcProvider.enforceAcrs policy claims = .ok matched) ↔
    ∀ required ∈ policy.essentialAcrsValue,
      ∃ acrs, claims.acrs = some acrs ∧ required ∈ acrs := by
  unfold OidcProvider.enforceAcrs
  cases policy.essentialAcrsValue with
  | none => simp
  | some required =>
      cases claims.acrs with
      | none => simp [tokenValidationError]
      | some acrs =>
          by_cases returned : required ∈ acrs
          · simp [returned]
          · simp [returned, tokenValidationError]

/-- A policy is enforced exactly on the claims that meet it. -/
theorem enforceAuthorizationPolicy_ok_iff {provider : OidcProvider}
    (bounded : ∀ maxAge ∈ policy.maxAgeSeconds, maxAge ≤ maxOidcMaxAgeSeconds)
    (bounds : RepresentableBounds policy now provider.config.clockSkew.wholeSeconds) :
    (∃ outcome, provider.enforceAuthorizationPolicy (some policy) claims now = .ok outcome) ↔
      MeetsPolicy policy claims now provider.config.clockSkew.wholeSeconds := by
  constructor
  · rintro ⟨outcome, enforced⟩
    obtain ⟨authTime, timed, enforced⟩ := Except.exists_of_bind_eq_ok enforced
    obtain ⟨acr, matched, enforced⟩ := Except.exists_of_bind_eq_ok enforced
    obtain ⟨acrs, returned, -⟩ := Except.exists_of_bind_eq_ok enforced
    exact {
      authTime := (enforceAuthTime_ok_iff bounded bounds).mp ⟨authTime, timed⟩
      acr := enforceAcr_ok_iff.mp ⟨acr, matched⟩
      acrs := enforceAcrs_ok_iff.mp ⟨acrs, returned⟩ }
  · intro meets
    obtain ⟨authTime, timed⟩ := (enforceAuthTime_ok_iff bounded bounds).mpr meets.authTime
    obtain ⟨acr, matched⟩ := enforceAcr_ok_iff.mpr meets.acr
    obtain ⟨acrs, returned⟩ := enforceAcrs_ok_iff.mpr meets.acrs
    exists {
      policy := some policy
      enforcedAuthTime := authTime
      matchedAcr := acr
      matchedAcrs := acrs }
    simp only [OidcProvider.enforceAuthorizationPolicy, timed, matched, returned]
    rfl

end Enforcement

/--
The stored policies that are accepted are those that options validate to, and an
accepted policy is enforced exactly on the claims that meet it.
-/
theorem authorization_policy_round_trip :
    (∀ jsonText (options : OidcAuthorizationOptions) policy,
      options.validate jsonText = .ok policy → policy.validateStored jsonText = .ok ()) ∧
    (∀ jsonText (policy : OidcAuthorizationPolicy), policy.validateStored jsonText = .ok () →
      ∃ options : OidcAuthorizationOptions, options.validate jsonText = .ok policy) ∧
    ∀ (provider : OidcProvider) (policy : OidcAuthorizationPolicy) claims now,
      policy.validateStored provider.lib.jsonText = .ok () →
      RepresentableBounds policy now provider.config.clockSkew.wholeSeconds →
      ((∃ outcome, provider.enforceAuthorizationPolicy (some policy) claims now = .ok outcome) ↔
        MeetsPolicy policy claims now provider.config.clockSkew.wholeSeconds) := by
  refine ⟨fun _ _ _ accepted => validateStored_eq_ok.mpr (valid_of_validate accepted),
    fun _ policy accepted =>
      ⟨policy.toOptions, validate_toOptions (validateStored_eq_ok.mp accepted)⟩, ?_⟩
  intro provider policy claims now accepted bounds
  exact enforceAuthorizationPolicy_ok_iff (validateStored_eq_ok.mp accepted).maxAge bounds

/-- A login of the last five minutes in the context `mfa`. -/
def mfaOptions : OidcAuthorizationOptions where
  prompt := [.login]
  maxAge := some 300
  idTokenClaims := [.essentialAcr ["mfa", "phr"]]

def mfaPolicy : OidcAuthorizationPolicy where
  version := 1
  prompt := [.login]
  maxAgeSeconds := some 300
  acrValues := []
  essentialAuthTime := false
  essentialAcrValues := ["mfa", "phr"]
  essentialAcrsValue := none

def mfaProvider : OidcProvider where
  config := {
    providerName := "acme"
    discoveryUrl := "https://acme.test/.well-known/openid-configuration"
    clientId := "client"
    redirectUri := "https://app.test/callback"
    discoveryCacheTtl := .ofSeconds 3600
    clockSkew := .ofSeconds 60
    stateTtl := .ofSeconds 600 }
  lib := {
    sha256 _ := []
    jsonText _ := "claims"
    readDiscoveryDocument _ := none
    readTokenResponse _ := none }

/-- An authentication in the thousandth second. -/
def mfaClaims : ValidatedOidcClaims where
  providerName := "acme"
  issuer := "https://acme.test"
  audiences := ["client"]
  subject := "ada"
  externalSubject := "https://acme.test:ada"
  expiresAt := .atSecond 2000
  notBefore := none
  issuedAt := .atSecond 1000
  authTime := some (.atSecond 1000)
  amr := none
  acr := some "phr"
  acrs := none
  nonce := "n"
  tenantId := none
  objectId := none

/-- The policy is stored as it was validated, and the login is too old a second too late. -/
theorem mfaPolicy_round_trip :
    mfaOptions.validate mfaProvider.lib.jsonText = .ok mfaPolicy ∧
      mfaPolicy.validateStored mfaProvider.lib.jsonText = .ok () ∧
      (∃ options : OidcAuthorizationOptions,
        options.validate mfaProvider.lib.jsonText = .ok mfaPolicy) ∧
      (∃ outcome, mfaProvider.enforceAuthorizationPolicy (some mfaPolicy) mfaClaims
        (.atSecond 1360) = .ok outcome) ∧
      ¬∃ outcome, mfaProvider.enforceAuthorizationPolicy (some mfaPolicy) mfaClaims
        (.atSecond 1361) = .ok outcome := by
  obtain ⟨stores, restores, enforces⟩ := authorization_policy_round_trip
  have validated : mfaOptions.validate mfaProvider.lib.jsonText = .ok mfaPolicy := by
    decide +kernel
  have stored := stores _ _ _ validated
  have bounds : ∀ now : OffsetDateTime, 0 ≤ now.unixTimestamp → now.unixTimestamp ≤ 2000 →
      RepresentableBounds mfaPolicy now mfaProvider.config.clockSkew.wholeSeconds := by
    intro now lower upper
    have skew : mfaProvider.config.clockSkew.wholeSeconds = 60 := rfl
    constructor
    · intro _
      omega
    · rintro _ ⟨⟩
      omega
  refine ⟨validated, stored, restores _ _ stored, ?_, ?_⟩
  · refine (enforces mfaProvider mfaPolicy mfaClaims _ stored
      (bounds _ (by decide) (by decide))).mpr ?_
    constructor
    · intro _
      refine ⟨_, rfl, by decide, ?_⟩
      rintro _ ⟨⟩
      decide
    · exact fun _ => ⟨"phr", rfl, by decide⟩
    · nofun
  · intro accepted
    have meets := (enforces mfaProvider mfaPolicy mfaClaims _ stored
      (bounds _ (by decide) (by decide))).mp accepted
    obtain ⟨authTime, same, -, recent⟩ := meets.authTime (.inl rfl)
    cases same
    exact absurd (recent 300 rfl) (by decide)

end AgqlAuth
