import AgqlAuth.Model.Token

/-!
# Configuration and abuse-protection state
-/

namespace AgqlAuth

inductive AuthRateLimitFlow where
  | passwordLogin
  | loginCodeVerification
  | totpVerification
  | passwordResetTokenConsumption
  | passwordResetRequest
  | loginCodeRequest
  deriving DecidableEq

def AuthRateLimitFlow.asStr : AuthRateLimitFlow → String
  | .passwordLogin => "password_login"
  | .loginCodeVerification => "login_code_verification"
  | .totpVerification => "totp_verification"
  | .passwordResetTokenConsumption => "password_reset_token_consumption"
  | .passwordResetRequest => "password_reset_request"
  | .loginCodeRequest => "login_code_request"

inductive AuthRateLimitBucket where
  | principal
  | client
  deriving DecidableEq

def AuthRateLimitBucket.asStr : AuthRateLimitBucket → String
  | .principal => "principal"
  | .client => "client"

structure AuthRateLimitKey where
  flow : AuthRateLimitFlow
  bucket : AuthRateLimitBucket
  valueHash : String
  deriving DecidableEq

abbrev maxU32 : Nat := 2 ^ 32 - 1

theorem one_le_maxU32 : 1 ≤ maxU32 := by decide

/-- Persisted abuse-protection state; `attempts` is a `u32`. -/
structure AuthRateLimitState where
  key : AuthRateLimitKey
  attempts : Nat
  attempts_le : attempts ≤ maxU32
  firstAttemptAt : OffsetDateTime
  lastAttemptAt : OffsetDateTime
  backoffUntil : Option OffsetDateTime
  lockedUntil : Option OffsetDateTime
  expiresAt : OffsetDateTime
  deriving DecidableEq

structure AuthRateLimitSnapshot where
  state : AuthRateLimitState
  revision : Uuid
  deriving DecidableEq

/-- Exponential-backoff and lockout policy; both thresholds are `u32`. -/
structure AuthRateLimitPolicy where
  enabled : Bool
  window : Duration
  backoffAfterAttempts : Nat
  maxAttemptsBeforeLockout : Nat
  baseBackoff : Duration
  maxBackoff : Duration
  lockoutDuration : Duration
  stateTtl : Duration
  backoffAfterAttempts_le : backoffAfterAttempts ≤ maxU32
  maxAttemptsBeforeLockout_le : maxAttemptsBeforeLockout ≤ maxU32
  deriving DecidableEq

namespace AuthRateLimitPolicy

def validate (self : AuthRateLimitPolicy) (name : String) : AuthResult Unit :=
  if !self.enabled then .ok ()
  else if self.window ≤ Duration.zero then
    .error (.invalidConfiguration (name ++ " window must be greater than zero"))
  else if self.backoffAfterAttempts = 0 then
    .error (.invalidConfiguration (name ++ " backoff_after_attempts must be greater than zero"))
  else if self.maxAttemptsBeforeLockout = 0 then
    .error (.invalidConfiguration
      (name ++ " max_attempts_before_lockout must be greater than zero"))
  else if self.backoffAfterAttempts > self.maxAttemptsBeforeLockout then
    .error (.invalidConfiguration
      (name ++ " backoff_after_attempts must not exceed max_attempts_before_lockout"))
  else if self.baseBackoff < Duration.zero ∨ self.maxBackoff < Duration.zero ∨
      self.lockoutDuration < Duration.zero then
    .error (.invalidConfiguration (name ++ " durations must not be negative"))
  else if self.maxBackoff < self.baseBackoff then
    .error (.invalidConfiguration (name ++ " max_backoff must not be less than base_backoff"))
  else if self.stateTtl ≤ Duration.zero then
    .error (.invalidConfiguration (name ++ " state_ttl must be greater than zero"))
  else .ok ()

/-- What an enabled policy satisfies once `validate` has accepted it. -/
structure Valid (policy : AuthRateLimitPolicy) : Prop where
  window_pos : Duration.zero < policy.window
  backoffAfter_pos : 0 < policy.backoffAfterAttempts
  maxAttempts_pos : 0 < policy.maxAttemptsBeforeLockout
  backoffAfter_le : policy.backoffAfterAttempts ≤ policy.maxAttemptsBeforeLockout
  baseBackoff_nonneg : Duration.zero ≤ policy.baseBackoff
  maxBackoff_nonneg : Duration.zero ≤ policy.maxBackoff
  lockout_nonneg : Duration.zero ≤ policy.lockoutDuration
  baseBackoff_le : policy.baseBackoff ≤ policy.maxBackoff
  stateTtl_pos : Duration.zero < policy.stateTtl

theorem valid_of_validate {self : AuthRateLimitPolicy} {name : String}
    (enabled : self.enabled = true) (accepted : self.validate name = .ok ()) : self.Valid := by
  simp only [validate, enabled, Bool.not_true, Bool.false_eq_true, if_false,
    Except.ite_error_eq_ok_iff] at accepted
  obtain ⟨window, backoff, lockout, order, durations, backoffs, ttl, -⟩ := accepted
  obtain ⟨base, most, lock⟩ := not_or.mp durations |>.imp_right not_or.mp
  exact {
    window_pos := not_le.mp window
    backoffAfter_pos := Nat.pos_of_ne_zero backoff
    maxAttempts_pos := Nat.pos_of_ne_zero lockout
    backoffAfter_le := Nat.le_of_not_lt order
    baseBackoff_nonneg := not_lt.mp base
    maxBackoff_nonneg := not_lt.mp most
    lockout_nonneg := not_lt.mp lock
    baseBackoff_le := not_lt.mp backoffs
    stateTtl_pos := not_le.mp ttl }

end AuthRateLimitPolicy

structure AuthRateLimitConfig where
  credential : AuthRateLimitPolicy
  request : AuthRateLimitPolicy
  deriving DecidableEq

def AuthRateLimitConfig.validate (self : AuthRateLimitConfig) : AuthResult Unit :=
  match self.credential.validate "credential rate limit" with
  | .error e => .error e
  | .ok () => self.request.validate "request rate limit"

/-- The policies a host gets unless it configures its own. -/
def AuthRateLimitConfig.default : AuthRateLimitConfig where
  credential := {
    enabled := true
    window := .minutes 15
    backoffAfterAttempts := 3
    maxAttemptsBeforeLockout := 10
    baseBackoff := .seconds 1
    maxBackoff := .minutes 5
    lockoutDuration := .minutes 15
    stateTtl := .hours 1
    backoffAfterAttempts_le := by decide
    maxAttemptsBeforeLockout_le := by decide }
  request := {
    enabled := true
    window := .hours 1
    backoffAfterAttempts := 1
    maxAttemptsBeforeLockout := 5
    baseBackoff := .minutes 1
    maxBackoff := .hours 1
    lockoutDuration := .hours 1
    stateTtl := .hours 6
    backoffAfterAttempts_le := one_le_maxU32
    maxAttemptsBeforeLockout_le := by decide }

/-- Signing of local JWTs; the legacy `jwt_secret` mirror is not authoritative. -/
inductive JwtSigningConfig where
  | hs256 (secret : String)
  | rs256 (privateKeyPem publicKeyPem keyId : String)
  deriving DecidableEq

/-- Whether validation accepts the pre-0.14 `scopes` array. -/
inductive LegacyScopeClaims where
  | accept
  | reject
  deriving DecidableEq

structure AuthConfig where
  issuer : String
  audience : String
  accessTokenTtl : Duration
  refreshTokenTtl : Duration
  accessTokenScopeClaimFormat : AccessTokenScopeClaimFormat
  rateLimits : AuthRateLimitConfig
  jwtSigning : JwtSigningConfig := .hs256 ""
  maxAccessTokenTtl : Duration := .hours 24
  /-- Ceiling of an access token delegated from an existing session. -/
  maxSessionBoundDelegationTtl : Duration := .minutes 15
  legacyScopeClaims : LegacyScopeClaims := .accept

/-- `AuthConfig::validate` at the clock reading `now`. -/
def AuthConfig.validate (self : AuthConfig) (now : OffsetDateTime) : AuthResult Unit := do
  self.rateLimits.validate
  if (trim self.issuer).isEmpty || (trim self.audience).isEmpty then
    throw (.invalidConfiguration "issuer and audience must not be empty")
  let _ ← checkedExpiry now self.accessTokenTtl "access-token ttl"
  let _ ← checkedExpiry now self.maxAccessTokenTtl "access-token maximum ttl"
  let _ ← checkedExpiry now self.refreshTokenTtl "refresh-token ttl"
  if self.maxSessionBoundDelegationTtl ≤ Duration.zero ∨
      self.maxAccessTokenTtl < self.maxSessionBoundDelegationTtl then
    throw (.invalidConfiguration
      "session-bound delegation ttl ceiling must be positive and not exceed the access-token maximum")
  if self.accessTokenScopeClaimFormat = .legacyArray ∧ self.legacyScopeClaims = .reject then
    throw (.invalidConfiguration
      "legacy scope issuance requires legacy scope validation during migration")

end AgqlAuth
