import AgqlAuth.Interaction.Sum
import AgqlAuth.Model.ActiveSession
import AgqlAuth.Service.Grant

/-!
# Session-bound delegation

A delegation is prepared against one read of the authoritative session and
issued against a second.
-/

namespace AgqlAuth

open Interaction

/-- The mandatory bindings of one delegated operation. -/
structure SessionBoundDelegationBinding where
  actor : ActorIdentity
  resourceType : String
  resourceId : String
  correlationId : String
  operation : ExactOperationBinding

/-- The opaque request a prepared delegation is issued from. -/
structure SessionBoundAccessTokenOnlyRequest where
  reference : PrincipalReference
  roles : List String
  scopes : List String
  binding : SessionBoundDelegationBinding
  ttl : Option Duration := none
  cnf : Option ConfirmationClaims := none
  additionalClaims : ClaimMap := .empty
  /-- Set by the fixed-audience facade only. -/
  fixedAudience : Option String := none

namespace SessionBoundAccessTokenOnlyRequest

def fromPreparedReference (reference : PrincipalReference) (roles scopes : List String)
    (binding : SessionBoundDelegationBinding) : SessionBoundAccessTokenOnlyRequest where
  reference
  roles := dedupeStable roles
  scopes := dedupeStable scopes
  binding

def withTtl (self : SessionBoundAccessTokenOnlyRequest) (ttl : Duration) :
    SessionBoundAccessTokenOnlyRequest :=
  { self with ttl := some ttl }

def withConfirmation (self : SessionBoundAccessTokenOnlyRequest)
    (confirmation : ConfirmationClaims) : SessionBoundAccessTokenOnlyRequest :=
  { self with cnf := some confirmation }

def withClaim (self : SessionBoundAccessTokenOnlyRequest) (key : String) (value : JsonValue) :
    SessionBoundAccessTokenOnlyRequest :=
  { self with additionalClaims := self.additionalClaims.insert key value }

end SessionBoundAccessTokenOnlyRequest

def validDelegationBindingValue (value : String) : Bool :=
  !(trim value).isEmpty && value.utf8ByteSize ≤ 1024

def validateSessionBoundAccessTokenOnlyRequest (request : SessionBoundAccessTokenOnlyRequest)
    (config : AuthConfig) : AuthResult Unit := do
  validateAccessTokenTtlAndClaims request.ttl request.additionalClaims config
  if request.reference.kind ≠ .userSession ∨ notOrdinary request.reference.grantKind then
    throw .forbidden
  else if !validDelegationBindingValue request.binding.actor.sub then
    throw (.invalidConfiguration
      "session-bound access-token-only actor subject must not be empty")
  else if request.cnf.any fun cnf => cnf.x5tS256.isNone && cnf.jkt.isNone then
    throw (.invalidConfiguration
      "session-bound access-token-only confirmation must contain a binding")
  else if !validDelegationBindingValue request.binding.resourceType ||
      !validDelegationBindingValue request.binding.resourceId then
    throw (.invalidConfiguration
      "session-bound access-token-only resource binding must contain a bounded type and id")
  else if !validDelegationBindingValue request.binding.correlationId then
    throw (.invalidConfiguration
      "session-bound access-token-only correlation_id must not be empty")
  else if !validDelegationBindingValue request.binding.operation.operationName ||
      !validDelegationBindingValue request.binding.operation.documentSha256 then
    throw (.invalidConfiguration
      "session-bound access-token-only exact operation binding is invalid")

/-- Whether the request asks for more than the session has, or drops one of its bindings. -/
def AuthService.validateSessionBoundCurrentAuthority (self : AuthService) (current : AuthUser)
    (request : SessionBoundAccessTokenOnlyRequest) : AuthResult Unit :=
  if (request.roles.any fun role => !current.roles.contains role) ||
      (request.scopes.any fun scope => !self.scopeMatcher.hasScope current.scopes scope) ||
      (current.tokenClaims.actor.any fun actor => actor != request.binding.actor) ||
      (current.tokenClaims.cnf.any fun confirmation => request.cnf != some confirmation) ||
      (current.tokenClaims.resourceType.any fun resourceType =>
        resourceType != request.binding.resourceType) ||
      (current.tokenClaims.resourceId.any fun resourceId =>
        resourceId != request.binding.resourceId) then
    .error .forbidden
  else .ok ()

/-- What the check establishes about a request it lets through. -/
structure WithinCurrentAuthority (svc : AuthService) (current : AuthUser)
    (request : SessionBoundAccessTokenOnlyRequest) : Prop where
  roles : ∀ role ∈ request.roles, role ∈ current.roles
  scopes : ∀ scope ∈ request.scopes, svc.scopeMatcher.hasScope current.scopes scope = true
  actor : ∀ actor ∈ current.tokenClaims.actor, request.binding.actor = actor
  cnf : ∀ confirmation ∈ current.tokenClaims.cnf, request.cnf = some confirmation
  resourceType : ∀ type ∈ current.tokenClaims.resourceType, request.binding.resourceType = type
  resourceId : ∀ id ∈ current.tokenClaims.resourceId, request.binding.resourceId = id

theorem any_ne_eq_false {α : Type} [DecidableEq α] {bound : Option α} {asked : α} :
    (bound.any fun value => value != asked) = false ↔ ∀ value ∈ bound, asked = value := by
  cases bound with
  | none => simp
  | some value =>
      rw [Option.any_some, bne_eq_false_iff_eq]
      constructor
      · rintro rfl _ ⟨⟩
        rfl
      · intro same
        exact (same value rfl).symm

theorem withinCurrentAuthority_of_validate {svc : AuthService} {current : AuthUser}
    {request : SessionBoundAccessTokenOnlyRequest}
    (accepted : svc.validateSessionBoundCurrentAuthority current request = .ok ()) :
    WithinCurrentAuthority svc current request := by
  unfold AuthService.validateSessionBoundCurrentAuthority at accepted
  split at accepted
  · cases accepted
  · rename_i allowed
    simp only [Bool.not_eq_true, Bool.or_eq_false_iff] at allowed
    obtain ⟨⟨⟨⟨⟨roles, scopes⟩, actor⟩, cnf⟩, resourceType⟩, resourceId⟩ := allowed
    refine ⟨?_, ?_, any_ne_eq_false.mp actor, ?_, any_ne_eq_false.mp resourceType,
      any_ne_eq_false.mp resourceId⟩
    · simpa using roles
    · simpa using scopes
    · cases bound : current.tokenClaims.cnf with
      | none => simp
      | some confirmation =>
          rw [bound] at cnf
          simpa using cnf

/-- The read of the host's active-session resolver. -/
inductive SessionOp where
  | resolveActiveUserSession (reference : PrincipalReference)

def SessionOp.Resp : SessionOp → Type
  | .resolveActiveUserSession _ => AuthResult VerifiedActiveUserSession

abbrev delegationSignature : Signature := authSignature.sum ⟨SessionOp, SessionOp.Resp⟩

abbrev DelegationHistory := History delegationSignature

abbrev DelegationM (α : Type) := Fallible delegationSignature AuthError α

namespace DelegationM

open Program

/-- A part that does not ask the resolver. -/
def auth {α : Type} (p : AuthM α) : DelegationM α := Program.inl p

def fail {α : Type} (e : AuthError) : DelegationM α := Fallible.fail e

def lift {α : Type} (result : AuthResult α) : DelegationM α := ret result

def resolveActiveUserSession (reference : PrincipalReference) :
    DelegationM VerifiedActiveUserSession :=
  call (S := delegationSignature) (.inr (.resolveActiveUserSession reference)) ret

end DelegationM

/-- The earliest of the requested, the configured and the session's own deadline. -/
def delegationExpiry (now : OffsetDateTime) (ttl ceiling : Duration)
    (sessionExpiresAt : OffsetDateTime) : AuthResult OffsetDateTime :=
  match now.checkedAdd ttl with
  | none =>
      .error (.invalidConfiguration "session-bound delegation ttl calculation overflowed")
  | some requestedExpiresAt =>
      match now.checkedAdd ceiling with
      | none =>
          .error (.invalidConfiguration "session-bound delegation ceiling calculation overflowed")
      | some delegationCeiling =>
          let expiresAt := min (min requestedExpiresAt delegationCeiling) sessionExpiresAt
          if expiresAt.unixTimestamp ≤ now.unixTimestamp then .error .accessTokenExpired
          else .ok expiresAt

/-- The principal of a delegated token: the session's identity, the request's authority. -/
def SessionBoundAccessTokenOnlyRequest.principal (self : SessionBoundAccessTokenOnlyRequest)
    (verified : VerifiedActiveUserSession) (jti : String) : AuthUser where
  userId := verified.user.userId
  sessionId := verified.user.sessionId
  roles := self.roles
  scopes := self.scopes
  session := verified.user.session
  tokenClaims := {
    jti := some jti
    tenantId := verified.user.tokenClaims.tenantId
    organizationId := verified.user.tokenClaims.organizationId
    sessionFamilyId := verified.user.tokenClaims.sessionFamilyId
    grantKind := some .sessionBoundDelegation
    sessionVersion := some verified.sessionVersion
    actor := some self.binding.actor
    authTime := verified.user.session.assurance.map SessionAssurance.authTime
    amr := verified.user.session.assurance.map (·.methods)
    acr := verified.user.session.assurance.bind (·.acr)
    cnf := self.cnf
    resourceType := some self.binding.resourceType
    resourceId := some self.binding.resourceId
    correlationId := some self.binding.correlationId
    operation := some self.binding.operation
    purpose := some accessTokenPurpose
    additional := self.additionalClaims.entries }

namespace AuthService

open DelegationM

def missingResolver : AuthError :=
  .invalidConfiguration "session-bound delegation requires an active-user-session resolver"

/-- One read of the session that `reference` names; an answer about another is refused. -/
def readActiveUserSession (self : AuthService) (reference : PrincipalReference) :
    DelegationM VerifiedActiveUserSession := do
  if !self.hasActiveUserSessionResolver then fail missingResolver
  else do
    let verified ← resolveActiveUserSession reference
    if verified.reference ≠ reference then fail .forbidden
    else pure verified

def prepareSessionBoundAccessTokenOnly (self : AuthService) (resolved : ResolvedPrincipal)
    (roles scopes : List String) (binding : SessionBoundDelegationBinding) :
    DelegationM SessionBoundAccessTokenOnlyRequest :=
  match resolved.principal with
  | .apiToken _ => fail .forbidden
  | .user sourceUser =>
      if resolved.reference.kind ≠ .userSession ∨ notOrdinary resolved.reference.grantKind ∨
          notOrdinary sourceUser.tokenClaims.grantKind then fail .forbidden
      else do
        let verified ← self.readActiveUserSession resolved.reference
        let request := SessionBoundAccessTokenOnlyRequest.fromPreparedReference
          { resolved.reference with
            grantKind := some .userSession
            sessionVersion := some verified.sessionVersion }
          roles scopes binding
        lift (validateSessionBoundAccessTokenOnlyRequest request self.config)
        lift (self.validateSessionBoundCurrentAuthority verified.user request)
        pure request

/-- The parent of a fixed-audience delegation must be a current, enabled user. -/
def requireEnabledDelegationParent (subject : String) : AuthM Unit := do
  match ← findUserById subject with
  | none => throwAuth .forbidden
  | some user =>
      if user.id ≠ subject then throwAuth .authServiceUnavailable
      else if user.disabled then throwAuth .userDisabled
      else pure ()

/-- The part of issuance after the second read and its checks. -/
def signDelegation (self : AuthService) (request : SessionBoundAccessTokenOnlyRequest)
    (verified : VerifiedActiveUserSession) (audience : String) : AuthM AccessTokenOnlyGrant := do
  let now ← AgqlAuth.now .system
  let accessTokenExpiresAt ← liftResult (delegationExpiry now
    (request.ttl.getD self.config.accessTokenTtl) self.config.maxSessionBoundDelegationTtl
    verified.effectiveExpiresAt)
  let jti ← newUuid
  let signed ← self.issueAccessTokenWithUserForAudience (request.principal verified jti.toString)
    now accessTokenExpiresAt audience
  pure {
    accessToken := signed.1
    accessTokenExpiresAt
    user := signed.2 }

def issueSessionBoundAccessTokenOnlyForAudience (self : AuthService)
    (request : SessionBoundAccessTokenOnlyRequest) (audience : String) :
    DelegationM AccessTokenOnlyGrant := do
  lift (validateSessionBoundAccessTokenOnlyRequest request self.config)
  let verified ← self.readActiveUserSession request.reference
  lift (self.validateSessionBoundCurrentAuthority verified.user request)
  if request.fixedAudience.isSome then do
    auth (requireEnabledDelegationParent verified.user.userId)
    auth (self.signDelegation request verified audience)
  else auth (self.signDelegation request verified audience)

def issueSessionBoundAccessTokenOnly (self : AuthService)
    (request : SessionBoundAccessTokenOnlyRequest) : DelegationM AccessTokenOnlyGrant :=
  if request.fixedAudience.isSome then fail .forbidden
  else self.issueSessionBoundAccessTokenOnlyForAudience request self.config.audience

end AuthService

end AgqlAuth
