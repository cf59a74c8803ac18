import AgqlAuth.Interaction.Program
import AgqlAuth.Model.Config
import AgqlAuth.Scope.Match

/-!
# The service and its effects

Everything `AuthService` awaits or draws from outside is an operation of one
signature: store calls, host hooks, clock readings and fresh random values.
The methods of the service are programs over that signature, so their store
calls are the only points where other calls can interleave.
-/

namespace AgqlAuth

open Interaction

/-- The injected clocks; `system` is `OffsetDateTime::now_utc`. -/
inductive ClockSource where
  | system
  | refreshRotation
  | rateLimit
  | stepUp
  deriving DecidableEq

/-- One accepted reuse of a superseded refresh token. -/
structure RefreshReuseGraceEvent where
  sessionFamilyId : Uuid
  sessionId : Uuid
  userId : String
  presentedTokenId : Uuid
  presentedRevokedAt : OffsetDateTime
  supersededTokenId : Uuid
  replacementTokenId : Uuid
  occurredAt : OffsetDateTime
  ipAddress : Option String
  userAgent : Option String

inductive AuthOp where
  | now (clock : ClockSource)
  | newUuid
  | generateOpaqueToken
  | verifyPassword (password passwordHash : String)
  | findUserByPrincipal (principal : String)
  | findUserById (userId : String)
  | currentGrant (previous : StoredRefreshToken) (user : StoredUser)
  | additionalTokenRoles (user : AuthUser)
  | refreshReuseGranted (event : RefreshReuseGraceEvent)
  | insertRefreshToken (token : StoredRefreshToken)
  | findRefreshTokenByHash (tokenHash : String)
  | revokeRefreshToken (tokenId : Uuid) (revokedAt : OffsetDateTime)
      (replacedByTokenId : Option Uuid) (reason : RefreshTokenRevocationReason)
  | revokeRefreshTokenFamily (sessionFamilyId : Uuid) (revokedAt : OffsetDateTime)
      (reason : RefreshTokenRevocationReason)
  | touchRefreshToken (tokenId : Uuid) (usedAt : OffsetDateTime)
      (ipAddress userAgent : Option String)
  | rotateRefreshToken (currentTokenId : Uuid) (replacement : StoredRefreshToken)
      (rotatedAt : OffsetDateTime) (ipAddress userAgent : Option String)
  | findLiveRefreshTokensInFamily (sessionFamilyId : Uuid)
  | findAuthRateLimitState (key : AuthRateLimitKey)
  | compareExchangeAuthRateLimitState (key : AuthRateLimitKey) (expectedRevision : Option Uuid)
      (replacement : AuthRateLimitSnapshot)
  | clearAuthRateLimitState (key : AuthRateLimitKey) (expectedRevision : Option Uuid)

def AuthOp.Resp : AuthOp → Type
  | .now _ => OffsetDateTime
  | .newUuid => Uuid
  | .generateOpaqueToken => String
  | .verifyPassword .. => AuthResult Unit
  | .findUserByPrincipal _ => AuthResult (Option StoredUser)
  | .findUserById _ => AuthResult (Option StoredUser)
  | .currentGrant .. => AuthResult CurrentRefreshGrant
  | .additionalTokenRoles _ => AuthResult (List String)
  | .refreshReuseGranted _ => Unit
  | .insertRefreshToken _ => AuthResult Unit
  | .findRefreshTokenByHash _ => AuthResult (Option StoredRefreshToken)
  | .revokeRefreshToken .. => AuthResult Unit
  | .revokeRefreshTokenFamily .. => AuthResult Unit
  | .touchRefreshToken .. => AuthResult Unit
  | .rotateRefreshToken .. => AuthResult Bool
  | .findLiveRefreshTokensInFamily _ => AuthResult (Option (List StoredRefreshToken))
  | .findAuthRateLimitState _ => AuthResult (Option AuthRateLimitSnapshot)
  | .compareExchangeAuthRateLimitState .. => AuthResult Bool
  | .clearAuthRateLimitState .. => AuthResult Bool

abbrev authSignature : Signature := ⟨AuthOp, AuthOp.Resp⟩

abbrev AuthEvent := Event authSignature

abbrev AuthHistory := History authSignature

/-- `Uuid::new_v4` answered `id`. -/
def drew (id : Uuid) : AuthEvent := ⟨.newUuid, id⟩

/-- The identifier an event drew. -/
def drawnUuid : AuthEvent → Option Uuid
  | ⟨.newUuid, id⟩ => some id
  | _ => none

/-- An `async fn` of the service returning `AuthResult`. -/
abbrev AuthM (α : Type) := Fallible authSignature AuthError α

def throwAuth {α : Type} (e : AuthError) : AuthM α := Fallible.fail e

/-- Continue with a pure result. -/
def liftResult {α : Type} (result : AuthResult α) : AuthM α := Program.ret result

section Await

open Program

def now (clock : ClockSource) : AuthM OffsetDateTime :=
  Fallible.perform (S := authSignature) (.now clock)

def newUuid : AuthM Uuid := Fallible.perform (S := authSignature) .newUuid

def generateOpaqueToken : AuthM String := Fallible.perform (S := authSignature) .generateOpaqueToken

def verifyPassword (password passwordHash : String) : AuthM (Except AuthError Unit) :=
  Fallible.perform (S := authSignature) (.verifyPassword password passwordHash)

def findUserByPrincipal (principal : String) : AuthM (Option StoredUser) :=
  call (S := authSignature) (.findUserByPrincipal principal) ret

def findUserById (userId : String) : AuthM (Option StoredUser) :=
  call (S := authSignature) (.findUserById userId) ret

def currentGrant (previous : StoredRefreshToken) (user : StoredUser) : AuthM CurrentRefreshGrant :=
  call (S := authSignature) (.currentGrant previous user) ret

def additionalTokenRoles (user : AuthUser) : AuthM (List String) :=
  call (S := authSignature) (.additionalTokenRoles user) ret

def refreshReuseGranted (event : RefreshReuseGraceEvent) : AuthM Unit :=
  Fallible.perform (S := authSignature) (.refreshReuseGranted event)

def insertRefreshToken (token : StoredRefreshToken) : AuthM Unit :=
  call (S := authSignature) (.insertRefreshToken token) ret

def findRefreshTokenByHash (tokenHash : String) : AuthM (Option StoredRefreshToken) :=
  call (S := authSignature) (.findRefreshTokenByHash tokenHash) ret

def revokeRefreshToken (tokenId : Uuid) (revokedAt : OffsetDateTime)
    (replacedByTokenId : Option Uuid) (reason : RefreshTokenRevocationReason) : AuthM Unit :=
  call (S := authSignature) (.revokeRefreshToken tokenId revokedAt replacedByTokenId reason) ret

def revokeRefreshTokenFamily (sessionFamilyId : Uuid) (revokedAt : OffsetDateTime)
    (reason : RefreshTokenRevocationReason) : AuthM Unit :=
  call (S := authSignature) (.revokeRefreshTokenFamily sessionFamilyId revokedAt reason) ret

def touchRefreshToken (tokenId : Uuid) (usedAt : OffsetDateTime)
    (ipAddress userAgent : Option String) : AuthM Unit :=
  call (S := authSignature) (.touchRefreshToken tokenId usedAt ipAddress userAgent) ret

def rotateRefreshToken (currentTokenId : Uuid) (replacement : StoredRefreshToken)
    (rotatedAt : OffsetDateTime) (ipAddress userAgent : Option String) : AuthM Bool :=
  call (S := authSignature)
    (.rotateRefreshToken currentTokenId replacement rotatedAt ipAddress userAgent) ret

def findLiveRefreshTokensInFamily (sessionFamilyId : Uuid) :
    AuthM (Option (List StoredRefreshToken)) :=
  call (S := authSignature) (.findLiveRefreshTokensInFamily sessionFamilyId) ret

def findAuthRateLimitState (key : AuthRateLimitKey) : AuthM (Option AuthRateLimitSnapshot) :=
  call (S := authSignature) (.findAuthRateLimitState key) ret

def compareExchangeAuthRateLimitState (key : AuthRateLimitKey) (expectedRevision : Option Uuid)
    (replacement : AuthRateLimitSnapshot) : AuthM Bool :=
  call (S := authSignature)
    (.compareExchangeAuthRateLimitState key expectedRevision replacement) ret

def clearAuthRateLimitState (key : AuthRateLimitKey) (expectedRevision : Option Uuid) :
    AuthM Bool :=
  call (S := authSignature) (.clearAuthRateLimitState key expectedRevision) ret

end Await

/-- The configured service; host hooks appear as whether they are installed. -/
structure AuthService where
  config : AuthConfig
  /-- `encode` of the JWT library under the configured key. -/
  encodeJwt : AccessTokenClaims → Except String String
  /-- `hash_opaque_token`, the hexadecimal SHA-256 digest. -/
  hashOpaqueToken : String → String
  hasAdditionalTokenRolesProvider : Bool
  hasRefreshGrantAuthority : Bool
  refreshReuseGrace : Option Duration
  hasRefreshReuseGraceObserver : Bool
  scopeMatcher : ScopeMatch := exactScopeMatch
  hasActiveUserSessionResolver : Bool := false
  /-- The audience reserved for the delegation facade, once there is one. -/
  fixedDelegationAudience : Option String := none

namespace AuthService

def hashRefreshToken (self : AuthService) (token : String) : String := self.hashOpaqueToken token

def maxRefreshReuseGrace : Duration := Duration.seconds 30

/-- A service without hooks; tokens are hashed by the identity and all encode alike. -/
def bare (rateLimits : AuthRateLimitConfig) : AuthService where
  config := {
    issuer := "issuer"
    audience := "app"
    accessTokenTtl := .ofSeconds 300
    refreshTokenTtl := .ofSeconds 3600
    accessTokenScopeClaimFormat := .standard
    rateLimits
    maxAccessTokenTtl := .ofSeconds 86400
    maxSessionBoundDelegationTtl := .ofSeconds 900 }
  encodeJwt _ := .ok "jwt"
  hashOpaqueToken := id
  hasAdditionalTokenRolesProvider := false
  hasRefreshGrantAuthority := false
  refreshReuseGrace := none
  hasRefreshReuseGraceObserver := false

def withScopeMatcher (self : AuthService) (scopeMatcher : ScopeMatch) : AuthService :=
  { self with scopeMatcher }

/-- The only way to enable the reuse grace. -/
def withRefreshReuseGrace (self : AuthService) (window : Duration) : AuthResult AuthService :=
  if window ≤ Duration.zero ∨ maxRefreshReuseGrace < window ∨
      self.config.refreshTokenTtl ≤ window then
    .error (.invalidConfiguration
      "refresh reuse grace must be positive, at most 30 seconds and shorter than the refresh-token ttl")
  else .ok { self with refreshReuseGrace := some window }

end AuthService

end AgqlAuth
