import AgqlAuth.Interaction.Sum
import AgqlAuth.Service.RateLimit

/-!
# TOTP codes

Generation and verification of time-based codes, alone and with the one-time
consumption of the accepted step.  HMAC-SHA1 and the base32 decoder are those of
the library; `i64` additions that could overflow are explicit.
-/

namespace AgqlAuth

open Interaction

structure TotpOptions where
  digits : UInt32 := 6
  periodSeconds : UInt64 := 30
  allowedSkew : UInt64 := 1
  deriving DecidableEq

/-- The cryptography the codes rest on. -/
structure TotpLibrary where
  hmacSha1 : List UInt8 → List UInt8 → Vector UInt8 20
  /-- `BASE32_NOPAD.decode`. -/
  decodeBase32 : String → Option (List UInt8)

def validateTotpOptions (options : TotpOptions) : AuthResult Unit :=
  if ¬(6 ≤ options.digits ∧ options.digits ≤ 8) then
    .error (.invalidConfiguration "totp digits must be between 6 and 8")
  else if options.periodSeconds = 0 then
    .error (.invalidConfiguration "totp period must be greater than zero")
  else .ok ()

/-- `u64::to_be_bytes`. -/
def toBeBytes (n : UInt64) : List UInt8 :=
  (List.range 8).reverse.map fun i => (n >>> (8 * i).toUInt64).toUInt8

theorem lowNibble_lt (byte : UInt8) : (byte &&& 0x0f).toNat < 16 := by
  rw [UInt8.toNat_and]
  exact Nat.lt_of_le_of_lt Nat.and_le_right (by decide)

/-- Dynamic truncation: 31 bits of the digest from the offset that its last byte gives. -/
def truncateDigest (digest : Vector UInt8 20) : UInt32 :=
  let offset := (digest[19] &&& 0x0f).toNat
  have bound : offset < 16 := lowNibble_lt digest[19]
  (digest[offset].toUInt32 &&& 0x7f) <<< 24 ||| digest[offset + 1].toUInt32 <<< 16 |||
    digest[offset + 2].toUInt32 <<< 8 ||| digest[offset + 3].toUInt32

/-- `u32::checked_pow` of ten. -/
def checkedPowTen (digits : UInt32) : Option UInt32 :=
  if 10 ^ digits.toNat < 2 ^ 32 then some (UInt32.ofNat (10 ^ digits.toNat)) else none

/-- `format!("{:0width$}")`. -/
def zeroPadded (width n : Nat) : String :=
  .ofList (List.replicate (width - (Nat.toDigits 10 n).length) '0' ++ Nat.toDigits 10 n)

def generateTotpCodeForStep (lib : TotpLibrary) (secret : List UInt8) (step : UInt64)
    (digits : UInt32) : AuthResult String :=
  let digest := lib.hmacSha1 secret (toBeBytes step)
  match checkedPowTen digits with
  | none => .error (.invalidConfiguration "invalid totp digits")
  | some modulo => .ok (zeroPadded digits.toNat (truncateDigest digest % modulo).toNat)

def totpStep (now : OffsetDateTime) (periodSeconds : UInt64) : AuthResult Int :=
  if periodSeconds.toNat < 2 ^ 63 then .ok (now.unixTimestamp.tdiv periodSeconds.toNat)
  else .error (.invalidConfiguration "totp period is too large")

def decodeBase32Secret (lib : TotpLibrary) (secretBase32 : String) : AuthResult (List UInt8) :=
  match lib.decodeBase32 secretBase32 with
  | none => .error .invalidTotpSecret
  | some secret => .ok secret

/-- What the loop of `verify_totp_code_step` runs over. -/
structure TotpWindow where
  secret : List UInt8
  currentStep : Int
  skew : Nat

def totpWindow (lib : TotpLibrary) (secretBase32 code : String) (options : TotpOptions)
    (now : OffsetDateTime) : AuthResult TotpWindow := do
  validateTotpOptions options
  if !code.toList.all Char.isDigit then .error .invalidTotpCode
  else do
    let secret ← decodeBase32Secret lib secretBase32
    let currentStep ← totpStep now options.periodSeconds
    if options.allowedSkew.toNat < 2 ^ 63 then
      .ok { secret, currentStep, skew := options.allowedSkew.toNat }
    else .error (.invalidConfiguration "invalid totp skew")

/-- The loop, `remaining` offsets from `offset` on; `none` where the addition overflows. -/
def scanTotpSteps (lib : TotpLibrary) (window : TotpWindow) (code : String) (digits : UInt32) :
    Nat → Int → Option (AuthResult Int)
  | 0, _ => some (.error .invalidTotpCode)
  | remaining + 1, offset =>
      let step := window.currentStep + offset
      if ¬(-(2 ^ 63) ≤ step ∧ step < 2 ^ 63) then none
      else if step < 0 then scanTotpSteps lib window code digits remaining (offset + 1)
      else
        match generateTotpCodeForStep lib window.secret (UInt64.ofNat step.toNat) digits with
        | .error e => some (.error e)
        | .ok expected =>
            if expected = code then some (.ok step)
            else scanTotpSteps lib window code digits remaining (offset + 1)

def verifyTotpCodeStep (lib : TotpLibrary) (secretBase32 code : String) (options : TotpOptions)
    (now : OffsetDateTime) : Option (AuthResult Int) :=
  match totpWindow lib secretBase32 code options now with
  | .error e => some (.error e)
  | .ok window =>
      scanTotpSteps lib window code options.digits (2 * window.skew + 1) (-(window.skew : Int))

inductive TotpOp where
  /-- Consume a step of a principal's factor; the store answers whether it was unused. -/
  | consumeTotpStep (principalId : String) (factorId : Option String) (step : Int)
      (consumedAt : OffsetDateTime)
  /-- An arithmetic overflow, from which a checked build does not come back. -/
  | overflow

def TotpOp.Resp : TotpOp → Type
  | .consumeTotpStep .. => AuthResult Bool
  | .overflow => Empty

abbrev totpSignature : Signature := authSignature.sum ⟨TotpOp, TotpOp.Resp⟩

abbrev TotpEvent := Event totpSignature

abbrev TotpHistory := History totpSignature

abbrev TotpM (α : Type) := Fallible totpSignature AuthError α

namespace TotpM

open Program

/-- A part that needs no replay store. -/
def auth {α : Type} (p : AuthM α) : TotpM α := Program.inl p

def fail {α : Type} (e : AuthError) : TotpM α := Fallible.fail e

def consumeTotpStep (principalId : String) (factorId : Option String) (step : Int)
    (consumedAt : OffsetDateTime) : TotpM Bool :=
  call (S := totpSignature) (.inr (.consumeTotpStep principalId factorId step consumedAt)) ret

def overflow {α : Type} : TotpM α :=
  call (S := totpSignature) (.inr .overflow) fun impossible : Empty => impossible.elim

end TotpM

namespace AuthService

open TotpM

/-- Charge a wrong code to the rate limits; other failures are not charged. -/
def rejectTotpCode (self : AuthService) (rateLimitKeys : List AuthRateLimitKey)
    (failure : AuthError) : TotpM Unit :=
  if failure = .invalidTotpCode then do
    auth (recordRateLimitAttempt self.config.rateLimits.credential rateLimitKeys)
    fail failure
  else fail failure

def verifyTotpCodeForPrincipal (self : AuthService) (lib : TotpLibrary)
    (principalId secretBase32 code : String)
    (options : TotpOptions) (now : OffsetDateTime) (metadata : ClientMetadata) : TotpM Unit := do
  let rateLimitKeys := self.rateLimitKeys .totpVerification (some principalId) metadata
  let rateLimitPermit ←
    auth (rejectIfRateLimited self.config.rateLimits.credential rateLimitKeys)
  match verifyTotpCodeStep lib secretBase32 code options now with
  | none => overflow
  | some (.error e) => self.rejectTotpCode rateLimitKeys e
  | some (.ok _) =>
      auth (clearRateLimitAttempts self.config.rateLimits.credential rateLimitPermit)

/-- The part after an accepted step. -/
def consumeAcceptedStep (self : AuthService) (principalId : String) (factorId : Option String)
    (rateLimitKeys : List AuthRateLimitKey) (rateLimitPermit : RateLimitPermit) (step : Int)
    (now : OffsetDateTime) : TotpM Unit := do
  let consumed ← consumeTotpStep principalId factorId step now
  if consumed then
    auth (clearRateLimitAttempts self.config.rateLimits.credential rateLimitPermit)
  else do
    auth (recordRateLimitAttempt self.config.rateLimits.credential rateLimitKeys)
    fail .totpCodeReplayed

def verifyTotpCodeWithReplayStoreAndMetadata (self : AuthService) (lib : TotpLibrary)
    (principalId : String) (factorId : Option String) (secretBase32 code : String)
    (options : TotpOptions) (now : OffsetDateTime) (metadata : ClientMetadata) : TotpM Unit := do
  let rateLimitKeys := self.rateLimitKeys .totpVerification (some principalId) metadata
  let rateLimitPermit ←
    auth (rejectIfRateLimited self.config.rateLimits.credential rateLimitKeys)
  match verifyTotpCodeStep lib secretBase32 code options now with
  | none => overflow
  | some (.error e) => self.rejectTotpCode rateLimitKeys e
  | some (.ok step) =>
      self.consumeAcceptedStep principalId factorId rateLimitKeys rateLimitPermit step now

end AuthService

end AgqlAuth
