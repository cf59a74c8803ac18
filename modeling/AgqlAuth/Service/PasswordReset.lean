import AgqlAuth.Interaction.Sum
import AgqlAuth.Service.RateLimit
import AgqlAuth.Token.Purpose

/-!
# Password-reset tokens in use

A reset token is recorded when it is issued and consumed when it is redeemed.  The
record stands next to the other effects of the service; redeeming is rate limited.
-/

namespace AgqlAuth

open Interaction

/-- The errors of this flow: one of its own besides those of the service. -/
inductive PasswordResetError where
  | auth (error : AuthError)
  | passwordResetTokenReplayed
  deriving DecidableEq

inductive PasswordResetOp where
  | insertPasswordResetToken (tokenId : Uuid) (userId : String) (expiresAt : OffsetDateTime)
  /-- The store answers whether this is the first use. -/
  | consumePasswordResetToken (tokenId : Uuid) (consumedAt : OffsetDateTime)

def PasswordResetOp.Resp : PasswordResetOp → Type
  | .insertPasswordResetToken .. => AuthResult Unit
  | .consumePasswordResetToken .. => AuthResult Bool

abbrev resetSignature : Signature := authSignature.sum ⟨PasswordResetOp, PasswordResetOp.Resp⟩

abbrev ResetEvent := Event resetSignature

abbrev ResetHistory := History resetSignature

abbrev ResetM (α : Type) := Fallible resetSignature PasswordResetError α

namespace ResetM

open Program

/-- A part that needs no reset store. -/
def service {α : Type} (p : AuthM α) : ResetM α := Fallible.widen .auth p

def lift {α : Type} (result : AuthResult α) : ResetM α := ret (result.mapError .auth)

def fail {α : Type} (e : PasswordResetError) : ResetM α := Fallible.fail e

def insertPasswordResetToken (tokenId : Uuid) (userId : String) (expiresAt : OffsetDateTime) :
    ResetM Unit :=
  call (S := resetSignature) (.inr (.insertPasswordResetToken tokenId userId expiresAt))
    fun result : AuthResult Unit => lift result

def consumePasswordResetToken (tokenId : Uuid) (consumedAt : OffsetDateTime) : ResetM Bool :=
  call (S := resetSignature) (.inr (.consumePasswordResetToken tokenId consumedAt))
    fun result : AuthResult Bool => lift result

end ResetM

namespace JwtService

open ResetM

variable {lib : JwtLibrary}

/-- No identifier is drawn for a lifetime that is refused. -/
def issuePasswordResetTokenWithStore (self : JwtService lib) (userId : String) (ttl : Duration) :
    ResetM PasswordResetToken := do
  let issuedAt ← service (AgqlAuth.now .system)
  let expiresAt ← lift (checkedJwtExpiry issuedAt ttl "password-reset ttl")
  let tokenId ← service newUuid
  let issued ← lift (self.signPasswordResetToken userId issuedAt expiresAt tokenId)
  insertPasswordResetToken issued.tokenId issued.userId issued.expiresAt
  pure issued

/-- The part after the token was validated. -/
def consumeVerifiedPasswordResetToken (self : JwtService lib) (metadata : ClientMetadata)
    (verified : VerifiedPasswordResetToken) : ResetM VerifiedPasswordResetToken := do
  let rateLimitKeys := self.auth.rateLimitKeys .passwordResetTokenConsumption
    (some verified.userId) metadata
  let rateLimitPermit ←
    service (rejectIfRateLimited self.auth.config.rateLimits.credential rateLimitKeys)
  let consumedAt ← service (AgqlAuth.now .system)
  let consumed ← consumePasswordResetToken verified.tokenId consumedAt
  if consumed then do
    service (clearRateLimitAttempts self.auth.config.rateLimits.credential rateLimitPermit)
    pure verified
  else do
    service (recordRateLimitAttempt self.auth.config.rateLimits.credential rateLimitKeys)
    fail .passwordResetTokenReplayed

/-- The JWT library reads the clock before the service does. -/
def consumePasswordResetTokenWithMetadata (self : JwtService lib) (token : String)
    (metadata : ClientMetadata) : ResetM VerifiedPasswordResetToken := do
  let clientKeys := self.auth.rateLimitKeys .passwordResetTokenConsumption none metadata
  let _admitted ← service (rejectIfRateLimited self.auth.config.rateLimits.credential clientKeys)
  let validatedAt ← service (AgqlAuth.now .system)
  let now ← service (AgqlAuth.now .system)
  match self.authenticatePasswordResetToken token validatedAt.unixTimestamp now with
  | .error e => do
      service (recordRateLimitAttempt self.auth.config.rateLimits.credential clientKeys)
      fail (.auth e)
  | .ok verified => self.consumeVerifiedPasswordResetToken metadata verified

end JwtService

end AgqlAuth
