import AgqlAuth.Service.Issue

/-!
# Refresh, step-up and logout

`rotate_session`, the reuse-grace path it falls back to, and `logout`.
-/

namespace AgqlAuth

/-- Whether `token` was superseded by rotation less than `window` ago. -/
def supersededWithin (token : StoredRefreshToken) (now : OffsetDateTime) (window : Duration) :
    Bool :=
  match token.revokedAt with
  | none => false
  | some revokedAt =>
      token.replacedByTokenId.isSome && !token.isExpired now &&
        decide ((now.since revokedAt).abs < window)

/-- Whether `newest` can be replaced on behalf of `presented`. -/
def canReplaceNewest (presented newest : StoredRefreshToken) (now : OffsetDateTime) : Bool :=
  newest.id != presented.id && !newest.isRevoked && !newest.isExpired now &&
    newest.sessionFamilyId == presented.sessionFamilyId &&
    newest.sessionId == presented.sessionId &&
    newest.userId == presented.userId &&
    newest.grantSource == presented.grantSource

def maxRefreshReuseGraceRetries : Nat := 32

/-- Keep what is in `current` and, on a grace reuse, in the newest token's list. -/
def narrowGrant (source : List String) (current newest : Option (List String)) : List String :=
  (source.filter fun value => current.all fun allowed => value ∈ allowed).filter
    fun value => newest.all fun allowed => value ∈ allowed

/-- The session context a rotation carries forward. -/
def rotatedSession (source : StoredRefreshToken) (assuranceOverride : Option SessionAssurance) :
    SessionContext :=
  match assuranceOverride with
  | none => source.session
  | some assurance => source.session.withAssurance assurance

/-- The principal `prepare_rotation` hands to token issuance. -/
def rotatedUser (source : StoredRefreshToken) (newest : Option StoredRefreshToken)
    (user : StoredUser) (currentGrant : CurrentRefreshGrant)
    (assuranceOverride : Option SessionAssurance) : AuthUser :=
  let session := rotatedSession source assuranceOverride
  let refreshableMetadata := source.refreshableMetadata.getD {}
  { userId := user.id
    sessionId := source.sessionId
    roles := dedupeStable
      (narrowGrant source.roles (some currentGrant.roles) (newest.map (·.roles)))
    scopes := dedupeStable
      (narrowGrant source.scopes (some currentGrant.scopes) (newest.map (·.scopes)))
    session
    tokenClaims := {
      sessionFamilyId := some source.sessionFamilyId.toString
      tenantId := refreshableMetadata.tenantId
      organizationId := refreshableMetadata.organizationId
      actor := refreshableMetadata.actor
      authTime := session.assurance.map SessionAssurance.authTime
      amr := session.assurance.map (·.methods)
      acr := session.assurance.bind (·.acr)
      correlationId := refreshableMetadata.correlationId } }

def authorizationRoleCeiling (source : StoredRefreshToken) (newest : Option StoredRefreshToken) :
    List String :=
  narrowGrant source.authorizationRoles none (newest.map (·.authorizationRoles))

namespace AuthService

/-- The grants the session's authority confirms now. -/
def currentRefreshGrant (self : AuthService) (source : StoredRefreshToken)
    (newest : Option StoredRefreshToken) (user : StoredUser) : AuthM CurrentRefreshGrant :=
  match source.grantSource with
  | .storedUser => pure { roles := user.roles, scopes := user.scopes }
  | .host =>
      if self.hasRefreshGrantAuthority then currentGrant (newest.getD source) user
      else throwAuth .forbidden
  | .legacy => throwAuth .forbidden

def prepareRotation (self : AuthService) (source : StoredRefreshToken)
    (newest : Option StoredRefreshToken) (metadata : ClientMetadata)
    (assuranceOverride : Option SessionAssurance) (now : OffsetDateTime) :
    AuthM IssuedTokens := do
  match ← findUserById source.userId with
  | none => throwAuth .invalidRefreshToken
  | some user =>
      if user.disabled then throwAuth .userDisabled
      else do
        let currentGrant ← self.currentRefreshGrant source newest user
        self.issueTokensOnly (rotatedUser source newest user currentGrant assuranceOverride)
          source.sessionFamilyId metadata now source.grantSource
          (some (authorizationRoleCeiling source newest))

/-- Tell the installed observer, if any, about an accepted reuse. -/
def observeReuse (self : AuthService) (presented newest replacement : StoredRefreshToken)
    (metadata : ClientMetadata) (now : OffsetDateTime) : AuthM Unit :=
  match self.hasRefreshReuseGraceObserver, presented.revokedAt with
  | true, some presentedRevokedAt =>
      refreshReuseGranted {
        sessionFamilyId := presented.sessionFamilyId
        sessionId := presented.sessionId
        userId := presented.userId
        presentedTokenId := presented.id
        presentedRevokedAt
        supersededTokenId := newest.id
        replacementTokenId := replacement.id
        occurredAt := now
        ipAddress := metadata.ipAddress
        userAgent := metadata.userAgent }
  | _, _ => pure ()

/--
The retry loop of `reissue_within_reuse_grace`.  A family without exactly one live
record (unsupported, revoked or out of contract) is not reissued.
-/
def reissueWithin (self : AuthService) (presented : StoredRefreshToken)
    (metadata : ClientMetadata) (assuranceOverride : Option SessionAssurance)
    (window : Duration) : Nat → AuthM (Option AuthPayload)
  | 0 => throwAuth (.store "refresh reuse grace retry limit exceeded")
  | retries + 1 => do
      let now ← AgqlAuth.now .refreshRotation
      if !supersededWithin presented now window then pure none
      else do
        match ← findLiveRefreshTokensInFamily presented.sessionFamilyId with
        | some [newest] =>
            if !canReplaceNewest presented newest now then pure none
            else do
              let issued ←
                self.prepareRotation presented (some newest) metadata assuranceOverride now
              let replaced ← rotateRefreshToken newest.id issued.record now metadata.ipAddress
                metadata.userAgent
              if !replaced then
                self.reissueWithin presented metadata assuranceOverride window retries
              else do
                self.observeReuse presented newest issued.record metadata now
                pure (some issued.payload)
        | _ => pure none

def reissueWithinReuseGrace (self : AuthService) (presented : StoredRefreshToken)
    (metadata : ClientMetadata) (assuranceOverride : Option SessionAssurance) :
    AuthM (Option AuthPayload) :=
  match self.refreshReuseGrace with
  | none => pure none
  | some window =>
      self.reissueWithin presented metadata assuranceOverride window maxRefreshReuseGraceRetries

/-- Return the reissued payload, or treat the presented token as replayed. -/
def acceptOrRejectReplay (sessionFamilyId : Uuid) (now : OffsetDateTime) :
    Option AuthPayload → AuthM AuthPayload
  | some payload => pure payload
  | none => do
      revokeRefreshTokenFamily sessionFamilyId now .replayDetected
      throwAuth .refreshTokenReplayDetected

/-- The second read of a call whose rotation lost its race. -/
def reissueAfterLostRace (self : AuthService) (tokenHash : String) (metadata : ClientMetadata)
    (assuranceOverride : Option SessionAssurance) : AuthM (Option AuthPayload) := do
  if self.refreshReuseGrace.isSome then do
    match ← findRefreshTokenByHash tokenHash with
    | none => pure none
    | some current => self.reissueWithinReuseGrace current metadata assuranceOverride
  else pure none

def rotateSession (self : AuthService) (refreshToken : String) (metadata : ClientMetadata)
    (assuranceOverride : Option SessionAssurance) : AuthM AuthPayload := do
  let now ← AgqlAuth.now .refreshRotation
  let tokenHash := self.hashRefreshToken refreshToken
  match ← findRefreshTokenByHash tokenHash with
  | none => throwAuth .invalidRefreshToken
  | some existing =>
      if existing.isRevoked then do
        let reissued ← self.reissueWithinReuseGrace existing metadata assuranceOverride
        acceptOrRejectReplay existing.sessionFamilyId now reissued
      else if existing.isExpired now then do
        revokeRefreshToken existing.id now none .expired
        throwAuth .refreshTokenExpired
      else do
        let issued ← self.prepareRotation existing none metadata assuranceOverride now
        let rotated ← rotateRefreshToken existing.id issued.record now metadata.ipAddress
          metadata.userAgent
        if !rotated then do
          let reissued ← self.reissueAfterLostRace tokenHash metadata assuranceOverride
          acceptOrRejectReplay existing.sessionFamilyId now reissued
        else pure issued.payload

def refresh (self : AuthService) (refreshToken : String) (metadata : ClientMetadata) :
    AuthM AuthPayload :=
  self.rotateSession refreshToken metadata none

/-- The assurance a host-verified step-up establishes. -/
def stepUpAssurance (now : OffsetDateTime) (stepUp : StepUpAuthentication) :
    AuthResult SessionAssurance :=
  match SessionAssurance.new now stepUp.methods stepUp.acr stepUp.context .satisfied with
  | .ok assurance => .ok assurance
  | .error e => .error (.invalidConfiguration e.toString)

def stepUpSession (self : AuthService) (refreshToken : String) (stepUp : StepUpAuthentication)
    (metadata : ClientMetadata) : AuthM AuthPayload := do
  let now ← AgqlAuth.now .stepUp
  let assurance ← liftResult (stepUpAssurance now stepUp)
  self.rotateSession refreshToken metadata (some assurance)

/--
With the reuse grace a revoked record is left alone, since some stores would move
its `revoked_at`.
-/
def logout (self : AuthService) (refreshToken : String) (revokeFamily : Bool) : AuthM Unit := do
  let now ← AgqlAuth.now .system
  let tokenHash := self.hashRefreshToken refreshToken
  match ← findRefreshTokenByHash tokenHash with
  | none => pure ()
  | some existing =>
      if revokeFamily then revokeRefreshTokenFamily existing.sessionFamilyId now .logout
      else if self.refreshReuseGrace.isSome && existing.isRevoked then pure ()
      else revokeRefreshToken existing.id now none .logout

end AuthService

end AgqlAuth
