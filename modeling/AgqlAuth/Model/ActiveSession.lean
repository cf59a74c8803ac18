import AgqlAuth.Model.Principal

/-!
# Verified active sessions

The answer of a host that reads the authoritative record of a user session.
-/

namespace AgqlAuth

/-- The earlier of the two deadlines of a session; the idle one is optional. -/
def effectiveExpiry (absoluteExpiresAt : OffsetDateTime)
    (idleExpiresAt : Option OffsetDateTime) : OffsetDateTime :=
  match idleExpiresAt with
  | none => absoluteExpiresAt
  | some idle => min idle absoluteExpiresAt

theorem effectiveExpiry_le_absolute (absoluteExpiresAt : OffsetDateTime)
    (idleExpiresAt : Option OffsetDateTime) :
    effectiveExpiry absoluteExpiresAt idleExpiresAt ≤ absoluteExpiresAt := by
  cases idleExpiresAt with
  | none => exact le_refl _
  | some idle => exact min_le_right _ _

theorem effectiveExpiry_le_idle (absoluteExpiresAt : OffsetDateTime)
    {idleExpiresAt : Option OffsetDateTime} {idle : OffsetDateTime}
    (known : idle ∈ idleExpiresAt) : effectiveExpiry absoluteExpiresAt idleExpiresAt ≤ idle := by
  obtain rfl := Option.mem_def.mp known
  exact min_le_left _ _

/-- `session_version.trim().is_empty() || session_version.len() > MAX_SESSION_VERSION_LENGTH`. -/
def invalidSessionVersion (sessionVersion : String) : Bool :=
  (trim sessionVersion).isEmpty || maxSessionVersionLength < sessionVersion.utf8ByteSize

/-- The record read is one of the session that `reference` names, at `sessionVersion`. -/
structure AuthoritativeRecord (reference : PrincipalReference) (user : AuthUser)
    (sessionVersion : String) (effectiveExpiresAt verifiedAt : OffsetDateTime) : Prop where
  kind : reference.kind = .userSession
  version : invalidSessionVersion sessionVersion = false
  expected : ∀ version ∈ reference.sessionVersion, version = sessionVersion
  subject : reference.subject = user.userId
  sessionId : reference.sessionId = some user.sessionId.toString
  sessionFamilyId : reference.sessionFamilyId = user.tokenClaims.sessionFamilyId
  tenantId : reference.tenantId = user.tokenClaims.tenantId
  live : verifiedAt < effectiveExpiresAt

/--
A verified snapshot of an active session.  Its fields are private in the source,
so every value was built by `from_authoritative_record`.
-/
structure VerifiedActiveUserSession where
  reference : PrincipalReference
  user : AuthUser
  sessionVersion : String
  absoluteExpiresAt : OffsetDateTime
  idleExpiresAt : Option OffsetDateTime
  verifiedAt : OffsetDateTime
  verified : AuthoritativeRecord reference user sessionVersion
    (effectiveExpiry absoluteExpiresAt idleExpiresAt) verifiedAt
  stamped : user.tokenClaims.sessionVersion = some sessionVersion

namespace VerifiedActiveUserSession

def effectiveExpiresAt (self : VerifiedActiveUserSession) : OffsetDateTime :=
  effectiveExpiry self.absoluteExpiresAt self.idleExpiresAt

/-- Whether a record describes the session `reference` asks for. -/
def sameSession (reference : PrincipalReference) (user : AuthUser) : Bool :=
  let current := (AuthPrincipal.user user).reference
  reference.subject == current.subject && reference.sessionId == current.sessionId &&
    reference.sessionFamilyId == current.sessionFamilyId && reference.tenantId == current.tenantId

def fromAuthoritativeRecord (reference : PrincipalReference) (user : AuthUser)
    (sessionVersion : String) (absoluteExpiresAt : OffsetDateTime)
    (idleExpiresAt : Option OffsetDateTime) (verifiedAt : OffsetDateTime) :
    AuthResult VerifiedActiveUserSession :=
  if kind : reference.kind ≠ .userSession then .error .forbidden
  else if version : invalidSessionVersion sessionVersion = true then
    .error (.invalidConfiguration "authoritative session version is invalid")
  else if expected : (reference.sessionVersion.any fun expected => expected != sessionVersion) = true
  then .error .forbidden
  else if same : sameSession reference user = false then .error .forbidden
  else if live : effectiveExpiry absoluteExpiresAt idleExpiresAt ≤ verifiedAt then
    .error .accessTokenExpired
  else .ok {
    reference
    user := { user with
      tokenClaims := { user.tokenClaims with sessionVersion := some sessionVersion } }
    sessionVersion
    absoluteExpiresAt
    idleExpiresAt
    verifiedAt
    verified := by
      simp only [sameSession, AuthPrincipal.reference, Bool.not_eq_false, Bool.and_eq_true,
        beq_iff_eq] at same
      obtain ⟨⟨⟨subject, sessionId⟩, sessionFamilyId⟩, tenantId⟩ := same
      exact {
        kind := not_not.mp kind
        version := by simpa using version
        expected := by
          intro known mem
          rw [Option.mem_def.mp mem] at expected
          simpa using expected
        subject
        sessionId
        sessionFamilyId
        tenantId
        live := not_le.mp live }
    stamped := rfl }

end VerifiedActiveUserSession

end AgqlAuth
