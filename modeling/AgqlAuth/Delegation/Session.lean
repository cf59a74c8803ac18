import AgqlAuth.Delegation.Authority
import AgqlAuth.Delegation.Revalidation
import AgqlAuth.Service.Delegate

/-!
# Delegation is bound to one unchanged session

Whatever happens to the session between preparation and issuance, a delegated
token belongs to the session of both reads and carries no more than the second
read grants.
-/

namespace AgqlAuth

open Interaction Program

/-- The resolver answered the read of `reference` with `verified`. -/
def readSession (reference : PrincipalReference) (verified : VerifiedActiveUserSession) :
    Event delegationSignature :=
  ⟨.inr (.resolveActiveUserSession reference),
    (.ok verified : AuthResult VerifiedActiveUserSession)⟩

theorem readActiveUserSession_upholds {svc : AuthService} {reference : PrincipalReference}
    {h : DelegationHistory} {post : DelegationHistory → AuthResult VerifiedActiveUserSession → Prop}
    (ok : ∀ verified, verified.reference = reference →
      post (readSession reference verified :: h) (.ok verified))
    (error : ∀ late e, post (late ++ h) (.error e)) :
    Upholds (Unlicensed delegationSignature) post h (svc.readActiveUserSession reference) := by
  unfold AuthService.readActiveUserSession
  refine Fallible.Upholds.branch (fun _ => error [] _) fun _ => ?_
  refine Fallible.Upholds.bind (.await trivial fun answer => ?_)
  cases answer with
  | error e => exact error [_] e
  | ok verified =>
      refine Fallible.Upholds.resume ?_
      refine Fallible.Upholds.branch (fun _ => error [_] _) fun same => ?_
      exact ok verified (not_not.mp same)

/-- What a prepared request was prepared from. -/
structure PreparedFrom (svc : AuthService) (resolved : ResolvedPrincipal) (roles scopes : List String)
    (binding : SessionBoundDelegationBinding) (first : VerifiedActiveUserSession)
    (request : SessionBoundAccessTokenOnlyRequest) : Prop where
  session : resolved.reference.kind = .userSession
  source : notOrdinary resolved.reference.grantKind = false ∧
    notOrdinary resolved.principal.reference.grantKind = false
  read : first.reference = resolved.reference
  request_eq : request = .fromPreparedReference
    { resolved.reference with
      grantKind := some .userSession
      sessionVersion := some first.sessionVersion }
    roles scopes binding
  valid : validateSessionBoundAccessTokenOnlyRequest request svc.config = .ok ()
  within : svc.validateSessionBoundCurrentAuthority first.user request = .ok ()

theorem prepareSessionBoundAccessTokenOnly_upholds (svc : AuthService)
    (resolved : ResolvedPrincipal) (roles scopes : List String)
    (binding : SessionBoundDelegationBinding) :
    Upholds (Unlicensed delegationSignature)
      (Succeeds fun h request => ∃ first, h = [readSession resolved.reference first] ∧
        PreparedFrom svc resolved roles scopes binding first request)
      [] (svc.prepareSessionBoundAccessTokenOnly resolved roles scopes binding) := by
  unfold AuthService.prepareSessionBoundAccessTokenOnly
  split
  · exact .error
  rename_i sourceUser source
  refine Fallible.Upholds.branch (fun _ => .error) fun ordinary => ?_
  obtain ⟨session, ordinary⟩ := not_or.mp ordinary
  obtain ⟨reference, principal⟩ := not_or.mp ordinary
  refine Fallible.Upholds.bind (readActiveUserSession_upholds ?_ fun _ _ => .error)
  intro first read
  refine Fallible.Upholds.resume ?_
  refine Fallible.Upholds.lift_bind (fun _ valid => ?_) (fun _ _ => .error)
  refine Fallible.Upholds.lift_bind (fun _ within => ?_) (fun _ _ => .error)
  refine .ok ⟨first, rfl, ?_⟩
  exact {
    session := not_not.mp session
    source := by
      rw [source]
      exact ⟨Bool.not_eq_true _ ▸ reference, Bool.not_eq_true _ ▸ principal⟩
    read
    request_eq := rfl
    valid
    within }

/-- The holder of an opaque request may only set its lifetime, confirmation and claims. -/
inductive Tailored (prepared : SessionBoundAccessTokenOnlyRequest) :
    SessionBoundAccessTokenOnlyRequest → Prop where
  | prepared : Tailored prepared prepared
  | ttl {request : SessionBoundAccessTokenOnlyRequest} (tailored : Tailored prepared request)
      (ttl : Duration) : Tailored prepared (request.withTtl ttl)
  | confirmation {request : SessionBoundAccessTokenOnlyRequest}
      (tailored : Tailored prepared request) (cnf : ConfirmationClaims) :
      Tailored prepared (request.withConfirmation cnf)
  | claim {request : SessionBoundAccessTokenOnlyRequest} (tailored : Tailored prepared request)
      (key : String) (value : JsonValue) : Tailored prepared (request.withClaim key value)

/-- What no builder touches. -/
structure SameCore (prepared request : SessionBoundAccessTokenOnlyRequest) : Prop where
  reference : request.reference = prepared.reference
  roles : request.roles = prepared.roles
  scopes : request.scopes = prepared.scopes
  binding : request.binding = prepared.binding
  fixedAudience : request.fixedAudience = prepared.fixedAudience

theorem Tailored.sameCore {prepared request : SessionBoundAccessTokenOnlyRequest}
    (tailored : Tailored prepared request) : SameCore prepared request := by
  induction tailored with
  | prepared => exact ⟨rfl, rfl, rfl, rfl, rfl⟩
  | ttl _ _ ih => exact ⟨ih.reference, ih.roles, ih.scopes, ih.binding, ih.fixedAudience⟩
  | confirmation _ _ ih => exact ⟨ih.reference, ih.roles, ih.scopes, ih.binding, ih.fixedAudience⟩
  | claim _ _ _ ih => exact ⟨ih.reference, ih.roles, ih.scopes, ih.binding, ih.fixedAudience⟩

/-- How the token of a delegation was made after the second read. -/
structure SignedDelegation (svc : AuthService) (request : SessionBoundAccessTokenOnlyRequest)
    (second : VerifiedActiveUserSession) (audience : String) (now : OffsetDateTime)
    (jti : String) (grant : AccessTokenOnlyGrant) : Prop where
  expiry : delegationExpiry now (request.ttl.getD svc.config.accessTokenTtl)
    svc.config.maxSessionBoundDelegationTtl second.effectiveExpiresAt =
      .ok grant.accessTokenExpiresAt
  user_eq : grant.user = (request.principal second jti).stamped jti grant.accessTokenExpiresAt
  signed : svc.signAccessToken grant.user now grant.accessTokenExpiresAt audience =
    .ok grant.accessToken

/-- The clock was read, then the token id drawn. -/
def signingEvents (now : OffsetDateTime) (id : Uuid) : AuthHistory :=
  [drew id, ⟨.now .system, now⟩]

/-- The principal brings its own token id, so that issuance draws none. -/
theorem signDelegation_upholds (svc : AuthService) (request : SessionBoundAccessTokenOnlyRequest)
    (second : VerifiedActiveUserSession) (audience : String) :
    Upholds (Unlicensed authSignature)
      (Succeeds fun h grant => ∃ now id, h = signingEvents now id ∧
        SignedDelegation svc request second audience now id.toString grant)
      [] (svc.signDelegation request second audience) := by
  unfold AuthService.signDelegation
  refine Fallible.Upholds.perform_bind trivial fun now => ?_
  refine Fallible.Upholds.lift_bind (fun expiresAt expiry => ?_) (fun _ _ => .error)
  refine Fallible.Upholds.perform_bind trivial fun id => ?_
  unfold AuthService.issueAccessTokenWithUserForAudience
  refine Fallible.Upholds.bind ?_
  refine Fallible.Upholds.lift_bind (fun jti drawn => ?_) (fun _ _ => .error)
  obtain rfl : id.toString = jti := Except.ok.inj drawn
  refine Fallible.Upholds.lift_bind (fun token signed => ?_) (fun _ _ => .error)
  refine Fallible.Upholds.resume (.ok ⟨now, id, rfl, ?_⟩)
  exact {
    expiry
    user_eq := rfl
    signed }

theorem requireEnabledDelegationParent_upholds (subject : String) :
    Upholds (Unlicensed authSignature)
      (Succeeds fun h _ => ∃ user, h = [⟨.findUserById subject,
        (.ok (some user) : AuthResult (Option StoredUser))⟩])
      [] (AuthService.requireEnabledDelegationParent subject) := by
  unfold AuthService.requireEnabledDelegationParent
  refine Fallible.Upholds.bind (.await trivial fun answer => ?_)
  rcases answer with e | _ | user
  · exact Fallible.Upholds.stop .error
  · exact Fallible.Upholds.resume .error
  · refine Fallible.Upholds.resume ?_
    refine Fallible.Upholds.branch (fun _ => .error) fun _ => ?_
    refine Fallible.Upholds.branch (fun _ => .error) fun _ => ?_
    exact .ok ⟨user, rfl⟩

/-- What an issued delegation was issued from. -/
structure IssuedFromRead (svc : AuthService) (request : SessionBoundAccessTokenOnlyRequest)
    (audience : String) (second : VerifiedActiveUserSession) (now : OffsetDateTime) (jti : String)
    (grant : AccessTokenOnlyGrant) : Prop where
  valid : validateSessionBoundAccessTokenOnlyRequest request svc.config = .ok ()
  read : second.reference = request.reference
  within : WithinCurrentAuthority svc second.user request
  delegated : SignedDelegation svc request second audience now jti grant

/-- The events of an issuance: the second read, perhaps the parent user, clock and token id. -/
def IssuedAlong (request : SessionBoundAccessTokenOnlyRequest) (second : VerifiedActiveUserSession)
    (now : OffsetDateTime) (id : Uuid) (h : DelegationHistory) : Prop :=
  ∃ parent : AuthHistory, (request.fixedAudience = none → parent = []) ∧
    h = (signingEvents now id ++ parent).map liftEvent ++ [readSession request.reference second]

theorem issueSessionBoundAccessTokenOnlyForAudience_upholds (svc : AuthService)
    (request : SessionBoundAccessTokenOnlyRequest) (audience : String) :
    Upholds (Unlicensed delegationSignature)
      (Succeeds fun h grant => ∃ second now id, IssuedAlong request second now id h ∧
        IssuedFromRead svc request audience second now id.toString grant)
      [] (svc.issueSessionBoundAccessTokenOnlyForAudience request audience) := by
  unfold AuthService.issueSessionBoundAccessTokenOnlyForAudience
  refine Fallible.Upholds.lift_bind (fun _ valid => ?_) (fun _ _ => .error)
  refine Fallible.Upholds.bind (readActiveUserSession_upholds ?_ fun _ _ => .error)
  intro second read
  refine Fallible.Upholds.resume ?_
  refine Fallible.Upholds.lift_bind (fun _ within => ?_) (fun _ _ => .error)
  have issued : ∀ parent : AuthHistory, (request.fixedAudience = none → parent = []) →
      Upholds (Unlicensed delegationSignature)
        (Succeeds fun h grant => ∃ second now id, IssuedAlong request second now id h ∧
          IssuedFromRead svc request audience second now id.toString grant)
        (parent.map liftEvent ++ [readSession request.reference second])
        (DelegationM.auth (svc.signDelegation request second audience)) := by
    intro parent parentless
    refine upholds_inl ((signDelegation_upholds svc request second audience).mono
      (fun _ _ _ => trivial) fun late result signed => ?_)
    intro grant returned
    obtain ⟨now, id, rfl, delegated⟩ := signed grant returned
    refine ⟨second, now, id, ⟨parent, parentless, ?_⟩, ?_⟩
    · rw [List.map_append, List.append_assoc]
    · exact {
        valid
        read
        within := withinCurrentAuthority_of_validate within
        delegated }
  refine Fallible.Upholds.branch (fun fixed => ?_) (fun _ => issued [] fun _ => rfl)
  refine Fallible.Upholds.bind (upholds_inl ?_)
  refine (requireEnabledDelegationParent_upholds second.user.userId).mono
    (fun _ _ _ => trivial) fun late result enabled => ?_
  cases result with
  | error e => exact .error
  | ok value =>
      refine issued late fun none => ?_
      rw [none] at fixed
      cases fixed

/-- The owner issues only what no facade prepared, and reads no parent user. -/
theorem issueSessionBoundAccessTokenOnly_upholds (svc : AuthService)
    (request : SessionBoundAccessTokenOnlyRequest) :
    Upholds (Unlicensed delegationSignature)
      (Succeeds fun h grant => request.fixedAudience = none ∧ ∃ second now id,
        h = (signingEvents now id).map liftEvent ++ [readSession request.reference second] ∧
          IssuedFromRead svc request svc.config.audience second now id.toString grant)
      [] (svc.issueSessionBoundAccessTokenOnly request) := by
  unfold AuthService.issueSessionBoundAccessTokenOnly
  refine Fallible.Upholds.branch (fun _ => .error) fun unfixed => ?_
  refine (issueSessionBoundAccessTokenOnlyForAudience_upholds svc request
    svc.config.audience).mono (fun _ _ _ => trivial) fun h result succeeded => ?_
  intro grant returned
  obtain ⟨second, now, id, ⟨parent, parentless, rfl⟩, issuedFrom⟩ := succeeded grant returned
  have owned : request.fixedAudience = none := by simpa using unfixed
  rw [parentless owned, List.append_nil]
  exact ⟨owned, second, now, id, rfl, issuedFrom⟩

/-- The instant at which a claim's whole second begins, in nanoseconds. -/
abbrev claimNanos (seconds : Int) : Int := seconds * nanosPerSecond

/-- What ties the token of a delegation to the two reads of its session. -/
structure BoundToSession (svc : AuthService) (resolved : ResolvedPrincipal)
    (request : SessionBoundAccessTokenOnlyRequest) (first second : VerifiedActiveUserSession)
    (now : OffsetDateTime) (claims : AccessTokenClaims) : Prop where
  /-- The source credential is an ordinary session. -/
  source : resolved.reference.grantKind ≠ some .sessionless ∧
    resolved.reference.grantKind ≠ some .sessionBoundDelegation ∧
    resolved.principal.reference.grantKind ≠ some .sessionless ∧
    resolved.principal.reference.grantKind ≠ some .sessionBoundDelegation
  subject : first.user.userId = second.user.userId ∧ claims.sub = second.user.userId
  sessionId : first.user.sessionId = second.user.sessionId ∧
    claims.sid = second.user.sessionId.toString
  sessionFamilyId : first.user.tokenClaims.sessionFamilyId =
      second.user.tokenClaims.sessionFamilyId ∧
    claims.sessionFamilyId = second.user.tokenClaims.sessionFamilyId
  tenantId : first.user.tokenClaims.tenantId = second.user.tokenClaims.tenantId ∧
    claims.tenantId = second.user.tokenClaims.tenantId
  sessionVersion : first.sessionVersion = second.sessionVersion ∧
    claims.sessionVersion = some second.sessionVersion
  roles : ∀ role ∈ claims.roles, role ∈ second.user.roles
  actor : ∀ actor ∈ second.user.tokenClaims.actor, claims.actor = some actor
  cnf : ∀ confirmation ∈ second.user.tokenClaims.cnf, claims.cnf = some confirmation
  resourceType : ∀ type ∈ second.user.tokenClaims.resourceType, claims.resourceType = some type
  resourceId : ∀ id ∈ second.user.tokenClaims.resourceId, claims.resourceId = some id
  unexpired : now.unixTimestamp < claims.exp
  withinTtl : claimNanos claims.exp ≤
    now.unixNanos + (request.ttl.getD svc.config.accessTokenTtl).nanos
  withinCeiling : claimNanos claims.exp ≤
    now.unixNanos + svc.config.maxSessionBoundDelegationTtl.nanos
  withinAbsolute : claimNanos claims.exp ≤ second.absoluteExpiresAt.unixNanos
  withinIdle : ∀ idle ∈ second.idleExpiresAt, claimNanos claims.exp ≤ idle.unixNanos

theorem claimNanos_unixTimestamp_le (t : OffsetDateTime) :
    claimNanos t.unixTimestamp ≤ t.unixNanos := by
  simp only [claimNanos, OffsetDateTime.unixTimestamp, nanosPerSecond]
  omega

/-- The deadline of a delegation respects all four bounds and ends in a later second. -/
theorem delegationExpiry_ok {now sessionExpiresAt expiresAt : OffsetDateTime}
    {ttl ceiling : Duration} (ok : delegationExpiry now ttl ceiling sessionExpiresAt = .ok expiresAt) :
    now.unixTimestamp < expiresAt.unixTimestamp ∧
      expiresAt.unixNanos ≤ now.unixNanos + ttl.nanos ∧
      expiresAt.unixNanos ≤ now.unixNanos + ceiling.nanos ∧ expiresAt ≤ sessionExpiresAt := by
  unfold delegationExpiry at ok
  split at ok
  · cases ok
  rename_i requested requested_eq
  split at ok
  · cases ok
  rename_i highest highest_eq
  simp only at ok
  split at ok
  · cases ok
  rename_i later
  obtain rfl := Except.ok.inj ok
  refine ⟨not_le.mp later, ?_, ?_, min_le_right _ _⟩
  · rw [← OffsetDateTime.checkedAdd_eq_some requested_eq, ← OffsetDateTime.le_iff]
    exact (min_le_left _ _).trans (min_le_left _ _)
  · rw [← OffsetDateTime.checkedAdd_eq_some highest_eq, ← OffsetDateTime.le_iff]
    exact (min_le_left _ _).trans (min_le_right _ _)

theorem boundToSession {svc : AuthService} {resolved : ResolvedPrincipal}
    {roles scopes : List String} {binding : SessionBoundDelegationBinding}
    {first second : VerifiedActiveUserSession}
    {prepared request : SessionBoundAccessTokenOnlyRequest} {audience jti : String}
    {now : OffsetDateTime} {grant : AccessTokenOnlyGrant}
    (preparedFrom : PreparedFrom svc resolved roles scopes binding first prepared)
    (core : SameCore prepared request)
    (issuedFrom : IssuedFromRead svc request audience second now jti grant) :
    ∃ claims, svc.encodeJwt claims = .ok grant.accessToken ∧ claims.roles = grant.user.roles ∧
      BoundToSession svc resolved request first second now claims := by
  obtain ⟨scope, legacyScopes, -, -, encoded⟩ :=
    AuthService.signAccessToken_ok issuedFrom.delegated.signed
  have reference : second.reference = prepared.reference := issuedFrom.read.trans core.reference
  rw [preparedFrom.request_eq] at reference
  have before := first.verified
  have after := second.verified
  rw [preparedFrom.read] at before
  rw [reference] at after
  have sameSession : first.user.sessionId.toString = second.user.sessionId.toString :=
    Option.some.inj (before.sessionId.symm.trans after.sessionId)
  have sameVersion : first.sessionVersion = second.sessionVersion := after.expected _ rfl
  obtain ⟨unexpired, ttl, ceiling, session⟩ := delegationExpiry_ok issuedFrom.delegated.expiry
  have second_begins := claimNanos_unixTimestamp_le grant.accessTokenExpiresAt
  have sourceReference := notOrdinary_eq_false.mp preparedFrom.source.1
  have sourcePrincipal := notOrdinary_eq_false.mp preparedFrom.source.2
  refine ⟨_, encoded, rfl, ?_⟩
  rw [issuedFrom.delegated.user_eq]
  exact {
    source := ⟨sourceReference.1, sourceReference.2, sourcePrincipal.1, sourcePrincipal.2⟩
    subject := ⟨before.subject.symm.trans after.subject, rfl⟩
    sessionId := ⟨Uuid.toString_injective sameSession, rfl⟩
    sessionFamilyId := ⟨before.sessionFamilyId.symm.trans after.sessionFamilyId, rfl⟩
    tenantId := ⟨before.tenantId.symm.trans after.tenantId, rfl⟩
    sessionVersion := ⟨sameVersion, rfl⟩
    roles := issuedFrom.within.roles
    actor := fun actor known => congrArg some (issuedFrom.within.actor actor known)
    cnf := issuedFrom.within.cnf
    resourceType := fun type known => congrArg some (issuedFrom.within.resourceType type known)
    resourceId := fun id known => congrArg some (issuedFrom.within.resourceId id known)
    unexpired
    withinTtl := second_begins.trans ttl
    withinCeiling := second_begins.trans ceiling
    withinAbsolute := second_begins.trans
      (session.trans (effectiveExpiry_le_absolute _ second.idleExpiresAt))
    withinIdle := fun idle known =>
      second_begins.trans (session.trans (effectiveExpiry_le_idle second.absoluteExpiresAt known)) }

/--
A delegation that is prepared against one read of the session and issued against
another belongs to the session, and the version of it, that both reads showed,
and stays within what the second read grants, however the session changed.
-/
theorem delegation_bound_to_session (svc : AuthService) (resolved : ResolvedPrincipal)
    (roles scopes : List String) (binding : SessionBoundDelegationBinding)
    (prepared request : SessionBoundAccessTokenOnlyRequest) (grant : AccessTokenOnlyGrant)
    (preparation issuance : DelegationHistory)
    (preparing : Path (svc.prepareSessionBoundAccessTokenOnly resolved roles scopes binding)
      preparation (ret (.ok prepared)))
    (tailored : Tailored prepared request)
    (issuing : Path (svc.issueSessionBoundAccessTokenOnly request) issuance (ret (.ok grant))) :
    ∃ first second now id, preparation = [readSession resolved.reference first] ∧
      issuance = (signingEvents now id).map liftEvent ++ [readSession request.reference second] ∧
      ∃ claims, svc.encodeJwt claims = .ok grant.accessToken ∧ claims.roles = grant.user.roles ∧
        BoundToSession svc resolved request first second now claims := by
  obtain ⟨first, events, preparedFrom⟩ :=
    (prepareSessionBoundAccessTokenOnly_upholds svc resolved roles scopes binding).post_of_path
      preparing prepared rfl
  obtain ⟨-, second, now, id, events', issuedFrom⟩ :=
    (issueSessionBoundAccessTokenOnly_upholds svc request).post_of_path issuing grant rfl
  exact ⟨first, second, now, id, events, events',
    boundToSession preparedFrom tailored.sameCore issuedFrom⟩

def sessionService : AuthService :=
  { delegatingService with hasActiveUserSessionResolver := true }

/-- A login token of the session, without a version. -/
def sourceSession : AuthUser := sessionWithScopes ["orders.*"]

def sourcePrincipal : ResolvedPrincipal where
  reference := (AuthPrincipal.user sourceSession).reference
  principal := .user sourceSession
  resolvedAt := askedAt
  currentSessionAuthority := false
  matched := by decide

/-- Every read finds the session at version `v1`; it idles out before its tokens would. -/
def sessionAnswer : (op : delegationSignature.Op) → Option (delegationSignature.Resp op)
  | .inr (.resolveActiveUserSession reference) =>
      some (VerifiedActiveUserSession.fromAuthoritativeRecord reference sourceSession "v1"
        (.atSecond 900) (some (.atSecond 90)) askedAt)
  | .inl (.now _) => some askedAt
  | .inl .newUuid => some (⟨7⟩ : Uuid)
  | _ => none

def ordersBinding : SessionBoundDelegationBinding := (requestForScopes []).binding

def ordersRequest : SessionBoundAccessTokenOnlyRequest :=
  .fromPreparedReference
    { sourcePrincipal.reference with
      grantKind := some .userSession
      sessionVersion := some "v1" }
    [] ["orders.read"] ordersBinding

/-- A delegation for five minutes, which the idle deadline cuts to half a minute. -/
theorem idle_session_bounds_delegation :
    ∃ grant preparation issuance,
      Path (sessionService.prepareSessionBoundAccessTokenOnly sourcePrincipal [] ["orders.read"]
        ordersBinding) preparation (ret (.ok ordersRequest)) ∧
      Path (sessionService.issueSessionBoundAccessTokenOnly (ordersRequest.withTtl (.minutes 5)))
        issuance (ret (.ok grant)) ∧
      grant.accessTokenExpiresAt.unixTimestamp = 90 ∧
      ∃ first second now id,
        preparation = [readSession sourcePrincipal.reference first] ∧
        issuance = (signingEvents now id).map liftEvent ++
          [readSession (ordersRequest.withTtl (.minutes 5)).reference second] ∧
        ∃ claims, sessionService.encodeJwt claims = .ok grant.accessToken ∧
          claims.roles = grant.user.roles ∧ BoundToSession sessionService sourcePrincipal
            (ordersRequest.withTtl (.minutes 5)) first second now claims := by
  obtain ⟨preparation, prepared⟩ : ∃ preparation,
      (sessionService.prepareSessionBoundAccessTokenOnly sourcePrincipal [] ["orders.read"]
        ordersBinding).finish sessionAnswer [] = some (preparation, .ok ordersRequest) := ⟨_, rfl⟩
  obtain ⟨issuance, issued, issuing, expiry⟩ := exists_path_of_finish
    (sessionService.issueSessionBoundAccessTokenOnly (ordersRequest.withTtl (.minutes 5)))
    sessionAnswer
    (fun issued => issued.toOption.any fun grant => grant.accessTokenExpiresAt.unixTimestamp == 90)
    (by decide +kernel)
  have preparing := Path.finish .start prepared
  rcases issued with e | grant
  · cases expiry
  replace expiry : grant.accessTokenExpiresAt.unixTimestamp = 90 := by
    simpa [Except.toOption] using expiry
  exact ⟨grant, preparation, issuance, preparing, issuing, expiry,
    delegation_bound_to_session sessionService sourcePrincipal [] ["orders.read"] ordersBinding
      ordersRequest _ grant preparation issuance preparing (.ttl .prepared _) issuing⟩

end AgqlAuth
