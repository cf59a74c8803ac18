import AgqlAuth.Service.Issue
import AgqlAuth.Service.RateLimit

/-!
# Password login
-/

namespace AgqlAuth

namespace AuthService

def dummyPasswordHash : String :=
  "$argon2id$v=19$m=19456,t=2,p=1$YWdxbC1hdXRoLWR1bW15LXNsdA$8ClNuSX6M3l/dalOcz8a117s1wLv/AbzbJiKA7dS4Ak"

/-- Spend the fixed password work of an attempt that cannot succeed, then fail. -/
def rejectWithDummyWork (self : AuthService) (password : String)
    (rateLimitKeys : List AuthRateLimitKey) (failure : AuthError) : AuthM AuthPayload := do
  match ← verifyPassword password dummyPasswordHash with
  | .ok () | .error .invalidCredentials => do
      recordRateLimitAttempt self.config.rateLimits.credential rateLimitKeys
      throwAuth failure
  | .error e => throwAuth e

/-- The principal of a password session, once its identifiers are drawn. -/
def passwordSessionUser (user : StoredUser) (sessionId sessionFamilyId : Uuid) : AuthUser where
  userId := user.id
  sessionId
  roles := dedupeStable user.roles
  scopes := dedupeStable user.scopes
  session := .forAuthMethod .password
  tokenClaims := { sessionFamilyId := some sessionFamilyId.toString }

/-- Re-read the user after the password check and open the session. -/
def openPasswordSession (self : AuthService) (user : StoredUser) (metadata : ClientMetadata) :
    AuthM AuthPayload := do
  match ← findUserById user.id with
  | none => throwAuth .invalidCredentials
  | some current =>
      if current.id ≠ user.id then throwAuth .authServiceUnavailable
      else if current.disabled then throwAuth .userDisabled
      else if current.passwordHash ≠ user.passwordHash then throwAuth .invalidCredentials
      else do
        let sessionId ← newUuid
        let sessionFamilyId ← newUuid
        self.issueAuthPayload (passwordSessionUser current sessionId sessionFamilyId)
          sessionFamilyId metadata .storedUser

def login (self : AuthService) (principal password : String) (metadata : ClientMetadata) :
    AuthM AuthPayload := do
  let rateLimitKeys := self.rateLimitKeys .passwordLogin (some principal) metadata
  let rateLimitPermit ← rejectIfRateLimited self.config.rateLimits.credential rateLimitKeys
  match ← findUserByPrincipal principal with
  | none => self.rejectWithDummyWork password rateLimitKeys .invalidCredentials
  | some user =>
      if user.disabled then self.rejectWithDummyWork password rateLimitKeys .userDisabled
      else do
        match ← verifyPassword password user.passwordHash with
        | .error .authServiceUnavailable => throwAuth .authServiceUnavailable
        | .error e => do
            recordRateLimitAttempt self.config.rateLimits.credential rateLimitKeys
            throwAuth e
        | .ok () => do
            clearRateLimitAttempts self.config.rateLimits.credential rateLimitPermit
            self.openPasswordSession user metadata

end AuthService

end AgqlAuth
