import AgqlAuth.Base.Text
import AgqlAuth.Base.Time

/-!
# Errors, assurance and session context
-/

namespace AgqlAuth

/-- The errors raised by the modelled operations; strings are diagnostics. -/
inductive AuthError where
  | invalidCredentials
  | forbidden
  | invalidBearerToken
  | invalidAccessToken
  | accessTokenExpired
  | tokenRevoked
  | invalidPurposeToken
  | purposeTokenExpired
  | invalidApiToken
  | apiTokenExpired
  | apiTokenRevoked
  | invalidRefreshToken
  | refreshTokenExpired
  | refreshTokenReplayDetected
  | userDisabled
  | invalidPasswordResetToken
  | passwordResetTokenExpired
  | authThrottled (retryAfterSeconds : Int)
  | authLocked (retryAfterSeconds : Int)
  | invalidLoginChallenge
  | loginChallengeExpired
  | loginChallengeReplayed
  | loginChallengeAttemptsExhausted
  | invalidLoginCode
  | invalidTotpCode
  | totpCodeReplayed
  | invalidTotpSecret
  | invalidOAuthState
  | oauthStateExpired
  | oauthStateReplayed
  | oidcDiscovery (detail : String)
  | oidcTokenExchange (detail : String)
  | oidcCallback (detail : String)
  | invalidOidcAuthorizationOptions (detail : String)
  | oidcTokenValidation (detail : String)
  | oauthProviderError
  | oauthCallback (detail : String)
  | oauthTokenExchange (detail : String)
  | oauthUserInfo (detail : String)
  | oauthMissingSubject
  | invalidConfiguration (detail : String)
  | tokenCreation (detail : String)
  | passwordHashing (detail : String)
  | store (detail : String)
  | authServiceUnavailable
  deriving DecidableEq

abbrev AuthResult := Except AuthError

/-- A chain of fallible steps that succeeds has succeeded in each. -/
theorem Except.exists_of_bind_eq_ok {ε α β : Type} {x : Except ε α} {f : α → Except ε β} {b : β}
    (succeeded : (x >>= f) = .ok b) : ∃ a, x = .ok a ∧ f a = .ok b := by
  cases x with
  | error e => cases succeeded
  | ok a => exact ⟨a, rfl, succeeded⟩

theorem Except.bind_eq_ok_iff {ε α β : Type} {x : Except ε α} {f : α → Except ε β} {b : β} :
    (x >>= f) = .ok b ↔ ∃ a, x = .ok a ∧ f a = .ok b := by
  refine ⟨Except.exists_of_bind_eq_ok, ?_⟩
  rintro ⟨a, rfl, succeeded⟩
  exact succeeded

/-- A step behind a check succeeds where the check lets it through. -/
theorem Except.ite_error_eq_ok_iff {ε α : Type} {c : Prop} [Decidable c] {e : ε}
    {x : Except ε α} {a : α} : (if c then .error e else x) = .ok a ↔ ¬c ∧ x = .ok a := by
  by_cases holds : c
  · rw [if_pos holds]
    constructor
    · rintro ⟨⟩
    · rintro ⟨fails, -⟩
      exact absurd holds fails
  · rw [if_neg holds]
    exact ⟨fun succeeded => ⟨holds, succeeded⟩, fun succeeded => succeeded.2⟩

/-- A chain of fallible steps that fails has failed in one. -/
theorem Except.error_of_bind {ε α β : Type} {x : Except ε α} {f : α → Except ε β} {e : ε}
    (failed : (x >>= f) = .error e) : x = .error e ∨ ∃ a, x = .ok a ∧ f a = .error e := by
  cases x with
  | error e' =>
      cases failed
      exact .inl rfl
  | ok a => exact .inr ⟨a, rfl, failed⟩

/-- The results of a map that succeeds are those of its values. -/
theorem Except.mem_of_mapM_eq_ok {ε α β : Type} {f : α → Except ε β} (values : List α) :
    ∀ results, values.mapM f = .ok results →
      ∀ result, result ∈ results ↔ ∃ value ∈ values, f value = .ok result := by
  induction values with
  | nil =>
      intro results mapped
      cases mapped
      simp
  | cons value rest ih =>
      intro results mapped result
      rw [List.mapM_cons] at mapped
      obtain ⟨first, found, after⟩ := Except.exists_of_bind_eq_ok mapped
      obtain ⟨others, later, built⟩ := Except.exists_of_bind_eq_ok after
      cases built
      rw [List.mem_cons, ih others later, List.exists_mem_cons_iff, found, Except.ok.injEq,
        eq_comm]

theorem Except.forall_of_mapM_eq_ok {ε α β : Type} {f : α → Except ε β} (values : List α) :
    ∀ results, values.mapM f = .ok results → ∀ value ∈ values, ∃ result, f value = .ok result := by
  induction values with
  | nil => simp
  | cons value rest ih =>
      intro results mapped
      rw [List.mapM_cons] at mapped
      obtain ⟨first, found, after⟩ := Except.exists_of_bind_eq_ok mapped
      obtain ⟨others, later, -⟩ := Except.exists_of_bind_eq_ok after
      exact List.forall_mem_cons.mpr ⟨⟨first, found⟩, ih others later⟩

/-- A failing map names the first value whose lookup fails. -/
theorem Except.mapM_eq_error_iff {ε α β : Type} {f : α → Except ε β} {e : ε} (values : List α) :
    values.mapM f = .error e ↔ ∃ before value after, values = before ++ value :: after ∧
      (∀ earlier ∈ before, ∃ result, f earlier = .ok result) ∧ f value = .error e := by
  induction values with
  | nil =>
      constructor
      · intro failed
        cases failed
      · rintro ⟨before, value, after, split, -⟩
        simp at split
  | cons first rest ih =>
      rw [List.mapM_cons]
      cases found : f first with
      | error e' =>
          constructor
          · intro failed
            cases failed
            exact ⟨[], first, rest, rfl, by simp, found⟩
          · rintro ⟨before, value, after, split, earlier, failed⟩
            cases before with
            | nil =>
                cases split
                cases found.symm.trans failed
                rfl
            | cons other before =>
                cases split
                obtain ⟨result, impossible⟩ := earlier _ List.mem_cons_self
                rw [found] at impossible
                cases impossible
      | ok result =>
          constructor
          · intro failed
            have later : rest.mapM f = .error e := by
              rcases Except.error_of_bind failed with impossible | ⟨_, _, failed⟩
              · cases impossible
              · rcases Except.error_of_bind failed with failed | ⟨_, _, impossible⟩
                · exact failed
                · cases impossible
            obtain ⟨before, value, after, rfl, earlier, failed⟩ := ih.mp later
            exact ⟨first :: before, value, after, rfl,
              List.forall_mem_cons.mpr ⟨⟨result, found⟩, earlier⟩, failed⟩
          · rintro ⟨before, value, after, split, earlier, failed⟩
            cases before with
            | nil =>
                cases split
                rw [found] at failed
                cases failed
            | cons other before =>
                cases split
                have later := ih.mpr ⟨before, value, after, rfl,
                  fun known mem => earlier known (List.mem_cons_of_mem _ mem), failed⟩
                rw [later]
                rfl

inductive MfaAcceptance where
  | unsatisfied
  | satisfied
  deriving DecidableEq

inductive MfaFactor where
  | totp
  deriving DecidableEq

structure MfaState where
  satisfied : Bool := false
  methods : List MfaFactor := []
  deriving DecidableEq

/-- Host-accepted authentication facts bound to one refreshable session. -/
structure SessionAssurance where
  authenticatedAt : OffsetDateTime
  methods : List String
  acr : Option String
  context : Option String
  mfa : MfaAcceptance
  deriving DecidableEq

inductive AssuranceInputError where
  | tooManyMethods
  | invalidMethod
  | methodsNotNormalized
  | invalidContext (field : String)
  deriving DecidableEq

def AssuranceInputError.toString : AssuranceInputError → String
  | .tooManyMethods => "too many authentication methods"
  | .invalidMethod => "invalid authentication method"
  | .methodsNotNormalized => "authentication methods are not normalized"
  | .invalidContext field => "invalid assurance " ++ field

def maxAssuranceMethods : Nat := 16
def maxAssuranceMethodLength : Nat := 64
def maxAssuranceContextLength : Nat := 256

/-- The loop of `normalize_methods`, after `count` accepted inputs. -/
def normalizeMethodsFrom : Nat → List String → List String → Except AssuranceInputError (List String)
  | _, normalized, [] => .ok normalized
  | count, normalized, method :: rest =>
      if count + 1 > maxAssuranceMethods then .error .tooManyMethods
      else
        let method := toAsciiLowercase (trim method)
        if method.isEmpty || method.utf8ByteSize > maxAssuranceMethodLength then
          .error .invalidMethod
        else if method ∈ normalized then normalizeMethodsFrom (count + 1) normalized rest
        else normalizeMethodsFrom (count + 1) (normalized ++ [method]) rest

def normalizeMethods (methods : List String) : Except AssuranceInputError (List String) :=
  normalizeMethodsFrom 0 [] methods

/-- A method as `normalize_methods` leaves it. -/
structure NormalMethod (method : String) : Prop where
  normal : toAsciiLowercase (trim method) = method
  present : method.isEmpty = false
  short : method.utf8ByteSize ≤ maxAssuranceMethodLength

theorem NormalMethod.of_accepted {method : String}
    (accepted : ¬((toAsciiLowercase (trim method)).isEmpty ||
      (toAsciiLowercase (trim method)).utf8ByteSize > maxAssuranceMethodLength) = true) :
    NormalMethod (toAsciiLowercase (trim method)) := by
  simp only [Bool.or_eq_true, decide_eq_true_eq, not_or, Bool.not_eq_true, not_lt] at accepted
  exact {
    normal := by rw [trim_toAsciiLowercase, trim_trim, toAsciiLowercase_idem]
    present := accepted.1
    short := accepted.2 }

/-- What is collected stays normal, free of repetition and within the limit. -/
theorem normalizeMethodsFrom_normal {count : Nat} {normalized methods result : List String}
    (collected : normalizeMethodsFrom count normalized methods = .ok result)
    (normal : ∀ method ∈ normalized, NormalMethod method) (nodup : normalized.Nodup)
    (counted : normalized.length ≤ count) (within : count ≤ maxAssuranceMethods) :
    (∀ method ∈ result, NormalMethod method) ∧ result.Nodup ∧
      result.length ≤ maxAssuranceMethods := by
  induction methods generalizing count normalized with
  | nil =>
      cases collected
      exact ⟨normal, nodup, by omega⟩
  | cons method rest ih =>
      unfold normalizeMethodsFrom at collected
      split at collected
      case isTrue => cases collected
      case isFalse room =>
        dsimp only at collected
        split at collected
        case isTrue => cases collected
        case isFalse accepted =>
          split at collected
          case isTrue => exact ih collected normal nodup (by omega) (by omega)
          case isFalse fresh =>
            apply ih collected
            · simpa [or_imp, forall_and] using ⟨normal, NormalMethod.of_accepted accepted⟩
            · rw [List.nodup_append]
              refine ⟨nodup, by simp, ?_⟩
              rintro known mem other single rfl
              exact fresh (List.mem_singleton.mp single ▸ mem)
            · simp only [List.length_append, List.length_cons, List.length_nil]
              omega
            · omega

/-- Normal methods are collected as they are. -/
theorem normalizeMethodsFrom_self {count : Nat} {normalized methods : List String}
    (normal : ∀ method ∈ methods, NormalMethod method) (nodup : (normalized ++ methods).Nodup)
    (within : count + methods.length ≤ maxAssuranceMethods) :
    normalizeMethodsFrom count normalized methods = .ok (normalized ++ methods) := by
  induction methods generalizing count normalized with
  | nil => simp [normalizeMethodsFrom]
  | cons method rest ih =>
      rw [List.forall_mem_cons] at normal
      obtain ⟨⟨same, present, short⟩, others⟩ := normal
      have fresh : method ∉ normalized := fun mem =>
        (List.nodup_append.mp nodup).2.2 method mem method (by simp) rfl
      rw [List.length_cons] at within
      have next := @ih (count + 1) (normalized ++ [method]) others (by simpa using nodup) (by omega)
      have room : ¬count + 1 > maxAssuranceMethods := by omega
      simpa [normalizeMethodsFrom, room, same, present, short.not_gt, fresh] using next

def validateOptionalValue (field : String) : Option String → Except AssuranceInputError Unit
  | none => .ok ()
  | some value =>
      if (trim value).isEmpty || value.utf8ByteSize > maxAssuranceContextLength then
        .error (.invalidContext field)
      else .ok ()

namespace SessionAssurance

def new (authenticatedAt : OffsetDateTime) (methods : List String) (acr context : Option String)
    (mfa : MfaAcceptance) : Except AssuranceInputError SessionAssurance := do
  let methods ← normalizeMethods methods
  validateOptionalValue "acr" acr
  validateOptionalValue "context" context
  pure { authenticatedAt, methods, acr, context, mfa }

def validate (self : SessionAssurance) : Except AssuranceInputError Unit := do
  if self.methods.length > maxAssuranceMethods then throw .tooManyMethods
  let normalized ← normalizeMethods self.methods
  if normalized ≠ self.methods then throw .methodsNotNormalized
  validateOptionalValue "acr" self.acr
  validateOptionalValue "context" self.context

/-- Assurance that was accepted when it was built is accepted whenever it is checked. -/
theorem validate_of_new {authenticatedAt : OffsetDateTime} {methods : List String}
    {acr context : Option String} {mfa : MfaAcceptance} {assurance : SessionAssurance}
    (built : new authenticatedAt methods acr context mfa = .ok assurance) :
    assurance.validate = .ok () := by
  obtain ⟨normalized, collected, built⟩ := Except.exists_of_bind_eq_ok built
  obtain ⟨⟨⟩, acr_ok, built⟩ := Except.exists_of_bind_eq_ok built
  obtain ⟨⟨⟩, context_ok, built⟩ := Except.exists_of_bind_eq_ok built
  cases built
  obtain ⟨normal, nodup, within⟩ :=
    normalizeMethodsFrom_normal collected (by simp) List.nodup_nil (by simp) (by simp)
  have again : normalizeMethods normalized = .ok normalized :=
    normalizeMethodsFrom_self normal (by simpa using nodup) (by omega)
  simp [validate, within.not_gt, again, acr_ok, context_ok, bind, Except.bind]

def authTime (self : SessionAssurance) : Int := self.authenticatedAt.unixTimestamp

def mfaState (self : SessionAssurance) : MfaState :=
  { satisfied := self.mfa = .satisfied, methods := [] }

end SessionAssurance

inductive AuthMethod where
  | password
  | emailCode
  | smsCode
  | totpStepUp
  | serviceToken
  | oidc
  | microsoftOidc
  deriving DecidableEq

structure ActiveScope where
  tenantId : Option String := none
  organizationId : Option String := none
  catalogId : Option String := none
  deriving DecidableEq

structure SessionContext where
  authMethod : AuthMethod := .password
  mfa : MfaState := {}
  assurance : Option SessionAssurance := none
  activeScope : Option ActiveScope := none
  deriving DecidableEq

namespace SessionContext

def forAuthMethod (authMethod : AuthMethod) : SessionContext := { authMethod }

/-- Attach assurance and keep the compatibility MFA view aligned. -/
def withAssurance (self : SessionContext) (assurance : SessionAssurance) : SessionContext :=
  { self with mfa := assurance.mfaState, assurance := some assurance }

end SessionContext

end AgqlAuth
