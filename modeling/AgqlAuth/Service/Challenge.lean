import AgqlAuth.Interaction.Sum
import AgqlAuth.Service.RateLimit

/-!
# Login challenges

Creation and verification of one-time login codes.  The challenge store, the
challenge clock and the password pool stand next to the other effects of the
service.
-/

namespace AgqlAuth

open Interaction

structure StoredLoginChallenge where
  id : Uuid
  principal : String
  codeHash : String
  createdAt : OffsetDateTime
  expiresAt : OffsetDateTime
  attempts : Nat
  maxAttempts : Nat
  consumedAt : Option OffsetDateTime
  channel : Option String
  deriving DecidableEq

namespace StoredLoginChallenge

def isExpired (self : StoredLoginChallenge) (now : OffsetDateTime) : Bool := self.expiresAt ≤ now

def isConsumed (self : StoredLoginChallenge) : Bool := self.consumedAt.isSome

def attemptsExhausted (self : StoredLoginChallenge) : Bool := self.maxAttempts ≤ self.attempts

end StoredLoginChallenge

structure LoginChallengeOptions where
  codeLength : Nat := 6
  ttl : Duration := .minutes 10
  maxAttempts : Nat := 5
  channel : Option String := none

/-- The challenge as it is returned for delivery, with the raw code. -/
structure IssuedLoginChallenge where
  challengeId : Uuid
  principal : String
  code : String
  expiresAt : OffsetDateTime
  maxAttempts : Nat
  channel : Option String

structure VerifiedLoginChallenge where
  challengeId : Uuid
  principal : String
  verifiedAt : OffsetDateTime
  channel : Option String

def validateLoginChallengeOptions (options : LoginChallengeOptions) : AuthResult Unit :=
  if options.codeLength = 0 then
    .error (.invalidConfiguration "login challenge code length must be greater than zero")
  else if options.maxAttempts = 0 then
    .error (.invalidConfiguration "login challenge max_attempts must be greater than zero")
  else if options.ttl ≤ Duration.zero then
    .error (.invalidConfiguration "login challenge ttl must be greater than zero")
  else .ok ()

inductive ChallengeOp where
  /-- The login challenge clock. -/
  | now
  | generateNumericCode (length : Nat)
  | hashPassword (password : String)
  /-- Hand a job to the bounded password pool. -/
  | submitPasswordWork
  | insertLoginChallenge (challenge : StoredLoginChallenge)
  | findLoginChallenge (challengeId : Uuid)
  | reserveLoginChallengeAttempt (challengeId : Uuid) (attemptedAt : OffsetDateTime)
  | consumeLoginChallenge (challengeId : Uuid) (consumedAt : OffsetDateTime)

def ChallengeOp.Resp : ChallengeOp → Type
  | .now => OffsetDateTime
  | .generateNumericCode _ => String
  | .hashPassword _ => AuthResult String
  | .submitPasswordWork => AuthResult Unit
  | .insertLoginChallenge _ => AuthResult Unit
  | .findLoginChallenge _ => AuthResult (Option StoredLoginChallenge)
  | .reserveLoginChallengeAttempt .. => AuthResult StoredLoginChallenge
  | .consumeLoginChallenge .. => AuthResult Bool

abbrev challengeSignature : Signature := authSignature.sum ⟨ChallengeOp, ChallengeOp.Resp⟩

abbrev ChallengeEvent := Event challengeSignature

abbrev ChallengeHistory := History challengeSignature

abbrev ChallengeM (α : Type) := Fallible challengeSignature AuthError α

namespace ChallengeM

open Program

/-- A part that needs no challenge effect. -/
def auth {α : Type} (p : AuthM α) : ChallengeM α := Program.inl p

def fail {α : Type} (e : AuthError) : ChallengeM α := Fallible.fail e

def lift {α : Type} (result : AuthResult α) : ChallengeM α := ret result

def now : ChallengeM OffsetDateTime := Fallible.perform (S := challengeSignature) (.inr .now)

def generateNumericCode (length : Nat) : ChallengeM String :=
  Fallible.perform (S := challengeSignature) (.inr (.generateNumericCode length))

def hashPassword (password : String) : ChallengeM String :=
  call (S := challengeSignature) (.inr (.hashPassword password)) ret

/-- The pool's answer is handed back, it does not end the call. -/
def submitPasswordWork : ChallengeM (Except AuthError Unit) :=
  Fallible.perform (S := challengeSignature) (.inr .submitPasswordWork)

def insertLoginChallenge (challenge : StoredLoginChallenge) : ChallengeM Unit :=
  call (S := challengeSignature) (.inr (.insertLoginChallenge challenge)) ret

def findLoginChallenge (challengeId : Uuid) : ChallengeM (Option StoredLoginChallenge) :=
  call (S := challengeSignature) (.inr (.findLoginChallenge challengeId)) ret

def reserveLoginChallengeAttempt (challengeId : Uuid) (attemptedAt : OffsetDateTime) :
    ChallengeM StoredLoginChallenge :=
  call (S := challengeSignature)
    (.inr (.reserveLoginChallengeAttempt challengeId attemptedAt)) ret

def consumeLoginChallenge (challengeId : Uuid) (consumedAt : OffsetDateTime) : ChallengeM Bool :=
  call (S := challengeSignature) (.inr (.consumeLoginChallenge challengeId consumedAt)) ret

end ChallengeM

/-- The fields no store operation may change. -/
def sameChallengeDefinition (a b : StoredLoginChallenge) : Bool :=
  a.id == b.id && a.principal == b.principal && a.codeHash == b.codeHash &&
    a.createdAt == b.createdAt && a.expiresAt == b.expiresAt &&
    a.maxAttempts == b.maxAttempts && a.channel == b.channel

namespace AuthService

open ChallengeM

def createLoginChallenge (_self : AuthService) (principal : String)
    (options : LoginChallengeOptions) : ChallengeM IssuedLoginChallenge := do
  lift (validateLoginChallengeOptions options)
  let code ← generateNumericCode options.codeLength
  let codeHash ← hashPassword code
  let now ← ChallengeM.now
  let id ← auth newUuid
  let expiresAt ← lift (checkedExpiry now options.ttl "login challenge ttl")
  insertLoginChallenge {
    id
    principal
    codeHash
    createdAt := now
    expiresAt
    attempts := 0
    maxAttempts := options.maxAttempts
    consumedAt := none
    channel := options.channel }
  pure {
    challengeId := id
    principal
    code
    expiresAt
    maxAttempts := options.maxAttempts
    channel := options.channel }

/-- `verify_password_async_before`: the job looks at the clock before it starts to verify. -/
def verifyPasswordAsyncBefore (password passwordHash : String) (expiry : OffsetDateTime) :
    ChallengeM (AuthResult Unit) := do
  match ← submitPasswordWork with
  | .error e => pure (.error e)
  | .ok () => do
      let now ← ChallengeM.now
      if expiry ≤ now then pure (.error .loginChallengeExpired)
      else auth (verifyPassword password passwordHash)

/-- Charge a failed verification to the rate limits, then fail. -/
def rejectLoginCode (self : AuthService) (rateLimitKeys : List AuthRateLimitKey)
    (failure : AuthError) : ChallengeM VerifiedLoginChallenge := do
  auth (recordRateLimitAttempt self.config.rateLimits.credential rateLimitKeys)
  fail failure

/-- The part after a correct code. -/
def consumeVerifiedChallenge (self : AuthService) (challengeId : Uuid)
    (rateLimitKeys : List AuthRateLimitKey) (rateLimitPermit : RateLimitPermit)
    (reserved : StoredLoginChallenge) (verifiedAt : OffsetDateTime) :
    ChallengeM VerifiedLoginChallenge := do
  let consumed ← consumeLoginChallenge challengeId verifiedAt
  let now ← ChallengeM.now
  if reserved.isExpired now then fail .loginChallengeExpired
  else if !consumed then self.rejectLoginCode rateLimitKeys .loginChallengeReplayed
  else do
    auth (clearRateLimitAttempts self.config.rateLimits.credential rateLimitPermit)
    let verifiedAt ← ChallengeM.now
    if reserved.isExpired verifiedAt then fail .loginChallengeExpired
    else pure {
      challengeId
      principal := reserved.principal
      verifiedAt
      channel := reserved.channel }

/-- The part after an admitted attempt. -/
def verifyReservedChallenge (self : AuthService) (challengeId : Uuid) (code : String)
    (rateLimitKeys : List AuthRateLimitKey) (rateLimitPermit : RateLimitPermit)
    (reserved : StoredLoginChallenge) : ChallengeM VerifiedLoginChallenge := do
  let now ← ChallengeM.now
  if reserved.isExpired now then fail .loginChallengeExpired
  else do
    let verified ← verifyPasswordAsyncBefore code reserved.codeHash reserved.expiresAt
    let verifiedAt ← ChallengeM.now
    if reserved.isExpired verifiedAt then fail .loginChallengeExpired
    else
      match verified with
      | .error .authServiceUnavailable => fail .authServiceUnavailable
      | .error .loginChallengeExpired => fail .loginChallengeExpired
      | .error _ =>
          self.rejectLoginCode rateLimitKeys
            (if reserved.maxAttempts ≤ reserved.attempts then .loginChallengeAttemptsExhausted
              else .invalidLoginCode)
      | .ok () =>
          self.consumeVerifiedChallenge challengeId rateLimitKeys rateLimitPermit reserved
            verifiedAt

def verifyLoginChallengeWithMetadata (self : AuthService) (challengeId : Uuid) (code : String)
    (metadata : ClientMetadata) : ChallengeM VerifiedLoginChallenge := do
  let clientKeys := self.rateLimitKeys .loginCodeVerification none metadata
  let _permit ← auth (rejectIfRateLimited self.config.rateLimits.credential clientKeys)
  match ← findLoginChallenge challengeId with
  | none => fail .invalidLoginChallenge
  | some challenge => do
      let rateLimitKeys :=
        self.rateLimitKeys .loginCodeVerification (some challenge.principal) metadata
      let rateLimitPermit ←
        auth (rejectIfRateLimited self.config.rateLimits.credential rateLimitKeys)
      let now ← ChallengeM.now
      if challenge.isConsumed then fail .loginChallengeReplayed
      else if challenge.isExpired now then fail .loginChallengeExpired
      else if challenge.attemptsExhausted then fail .loginChallengeAttemptsExhausted
      else do
        let attemptedAt ← ChallengeM.now
        let reserved ← reserveLoginChallengeAttempt challengeId attemptedAt
        if !sameChallengeDefinition challenge reserved || reserved.isConsumed ||
            reserved.attempts ≤ challenge.attempts || reserved.maxAttempts < reserved.attempts then
          fail .authServiceUnavailable
        else
          self.verifyReservedChallenge challengeId code rateLimitKeys rateLimitPermit reserved

end AuthService

end AgqlAuth
