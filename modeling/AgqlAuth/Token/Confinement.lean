import AgqlAuth.Delegation.Session
import AgqlAuth.Token.Separation

/-!
# The reserved audience stays with its facade

An owner and its facade issue in any order, on requests that they or the owners
and facades of other services have prepared.  Only the facade, on a request that
some facade has prepared for the same audience, puts that audience into a token.
-/

namespace AgqlAuth

open Interaction Program Json

/-- Who prepared a request: the owner or its facade, or another owner or its facade. -/
inductive Preparer where
  | owner
  | facade
  | otherOwner
  | otherFacade (audience : String)
  deriving DecidableEq

/-- What a call handed out: a token of the owner, or one the facade issued from a request. -/
inductive Issuance where
  | owner (token : String)
  | facade (preparer : Preparer) (grant : AccessTokenOnlyGrant)

def Issuance.token : Issuance → String
  | .owner token => token
  | .facade _ grant => grant.accessToken

/-- The requests in circulation, each with who prepared it, and the tokens issued so far. -/
structure Desk where
  requests : List (Preparer × SessionBoundAccessTokenOnlyRequest) := []
  issued : List Issuance := []

section Runs

variable {lib : JwtLibrary}

/--
One successful call on the owner or on the facade, or a request that comes in from
elsewhere.  The facade compares only the audience that a request is bound to.
-/
inductive DeskStep (owner : JwtService lib) (facade : FixedAudienceDelegation) :
    Desk → Desk → Prop where
  | ownerPrepares {desk : Desk} {resolved : ResolvedPrincipal} {roles scopes : List String}
      {binding : SessionBoundDelegationBinding} {h : DelegationHistory}
      {request : SessionBoundAccessTokenOnlyRequest}
      (call : Path (owner.auth.prepareSessionBoundAccessTokenOnly resolved roles scopes binding) h
        (ret (.ok request))) :
      DeskStep owner facade desk { desk with requests := (.owner, request) :: desk.requests }
  | facadePrepares {desk : Desk} {resolved : ResolvedPrincipal} {roles scopes : List String}
      {binding : SessionBoundDelegationBinding} {h : DelegationHistory}
      {request : SessionBoundAccessTokenOnlyRequest}
      (call : Path (facade.prepareSessionBoundAccessTokenOnly (some owner.auth) resolved roles
        scopes binding) h (ret (.ok request))) :
      DeskStep owner facade desk { desk with requests := (.facade, request) :: desk.requests }
  | otherOwnerPrepares {desk : Desk} {other : JwtService lib} {resolved : ResolvedPrincipal}
      {roles scopes : List String} {binding : SessionBoundDelegationBinding}
      {h : DelegationHistory} {request : SessionBoundAccessTokenOnlyRequest}
      (call : Path (other.auth.prepareSessionBoundAccessTokenOnly resolved roles scopes binding) h
        (ret (.ok request))) :
      DeskStep owner facade desk { desk with requests := (.otherOwner, request) :: desk.requests }
  | otherFacadePrepares {desk : Desk} {source other : JwtService lib} {audience : String}
      {elsewhere : FixedAudienceDelegation} {resolved : ResolvedPrincipal}
      {roles scopes : List String} {binding : SessionBoundDelegationBinding}
      {h : DelegationHistory} {request : SessionBoundAccessTokenOnlyRequest}
      (shared : source.intoSharedWithFixedAudienceDelegation audience = .ok (other, elsewhere))
      (call : Path (elsewhere.prepareSessionBoundAccessTokenOnly (some other.auth) resolved roles
        scopes binding) h (ret (.ok request))) :
      DeskStep owner facade desk
        { desk with requests := (.otherFacade elsewhere.audience, request) :: desk.requests }
  | tailors {desk : Desk} {preparer : Preparer}
      {prepared request : SessionBoundAccessTokenOnlyRequest}
      (held : (preparer, prepared) ∈ desk.requests) (tailored : Tailored prepared request) :
      DeskStep owner facade desk { desk with requests := (preparer, request) :: desk.requests }
  | ownerDelegates {desk : Desk} {preparer : Preparer}
      {request : SessionBoundAccessTokenOnlyRequest} {h : DelegationHistory}
      {grant : AccessTokenOnlyGrant} (held : (preparer, request) ∈ desk.requests)
      (call : Path (owner.auth.issueSessionBoundAccessTokenOnly request) h (ret (.ok grant))) :
      DeskStep owner facade desk { desk with issued := .owner grant.accessToken :: desk.issued }
  | facadeDelegates {desk : Desk} {preparer : Preparer}
      {request : SessionBoundAccessTokenOnlyRequest} {h : DelegationHistory}
      {grant : AccessTokenOnlyGrant} (held : (preparer, request) ∈ desk.requests)
      (call : Path (facade.issueSessionBoundAccessTokenOnly (some owner.auth) request) h
        (ret (.ok grant))) :
      DeskStep owner facade desk { desk with issued := .facade preparer grant :: desk.issued }
  | access {desk : Desk} {token : String} {expiresAt : OffsetDateTime} {user : AuthUser}
      (issued : IssuedAccess owner.auth token expiresAt user) :
      DeskStep owner facade desk { desk with issued := .owner token :: desk.issued }
  | purpose {desk : Desk} {request : PurposeTokenIssueRequest} {issuedAt : OffsetDateTime}
      {issued : IssuedPurposeToken}
      (call : owner.issuePurposeToken request issuedAt = .ok issued) :
      DeskStep owner facade desk { desk with issued := .owner issued.token :: desk.issued }
  | passwordReset {desk : Desk} {userId : String} {ttl : Duration} {issuedAt : OffsetDateTime}
      {tokenId : Uuid} {issued : PasswordResetToken}
      (call : owner.issuePasswordResetTokenWithTtl userId ttl issuedAt tokenId = .ok issued) :
      DeskStep owner facade desk { desk with issued := .owner issued.token :: desk.issued }

/-- The desks that a sequence of calls leads to. -/
inductive DeskReachable (owner : JwtService lib) (facade : FixedAudienceDelegation) :
    Desk → Prop where
  | start : DeskReachable owner facade {}
  | step {desk desk' : Desk} (reached : DeskReachable owner facade desk)
      (step : DeskStep owner facade desk desk') : DeskReachable owner facade desk'

/-- The audience a preparer binds its requests to. -/
def Preparer.binds (facade : FixedAudienceDelegation) : Preparer → Option String
  | .owner | .otherOwner => none
  | .facade => some facade.audience
  | .otherFacade audience => some audience

/-- A request as it is prepared for `audience`, or for the normal one. -/
structure RequestedFor (audience : Option String) (request : SessionBoundAccessTokenOnlyRequest) :
    Prop where
  bound : request.fixedAudience = audience
  scopes : request.scopes.Nodup

abbrev WellPrepared (facade : FixedAudienceDelegation) (preparer : Preparer)
    (request : SessionBoundAccessTokenOnlyRequest) : Prop :=
  RequestedFor (preparer.binds facade) request

variable {owner : JwtService lib} {facade : FixedAudienceDelegation}

theorem prepare_yields (svc : AuthService) (resolved : ResolvedPrincipal)
    (roles scopes : List String) (binding : SessionBoundDelegationBinding) :
    Yields (RequestedFor none)
      (svc.prepareSessionBoundAccessTokenOnly resolved roles scopes binding) := by
  unfold AuthService.prepareSessionBoundAccessTokenOnly
  split
  · exact .fail
  refine .branch (fun _ => .fail) fun _ => ?_
  refine .after fun verified => .after fun _ => .after fun _ => ?_
  exact ⟨rfl, nodup_dedupeStable scopes⟩

theorem facade_prepare_yields (facade : FixedAudienceDelegation) (svc : AuthService)
    (resolved : ResolvedPrincipal) (roles scopes : List String)
    (binding : SessionBoundDelegationBinding) :
    Yields (RequestedFor (some facade.audience))
      (facade.prepareSessionBoundAccessTokenOnly (some svc) resolved roles scopes binding) := by
  unfold FixedAudienceDelegation.prepareSessionBoundAccessTokenOnly
  have prepares : Yields (RequestedFor none)
      (svc.prepareSessionBoundAccessTokenOnly resolved roles scopes binding) :=
    prepare_yields svc resolved roles scopes binding
  refine .bind prepares fun request prepared => ?_
  refine .after fun _ => ?_
  exact ⟨rfl, prepared.scopes⟩

theorem RequestedFor.tailored {audience : Option String}
    {prepared request : SessionBoundAccessTokenOnlyRequest}
    (well : RequestedFor audience prepared) (tailored : Tailored prepared request) :
    RequestedFor audience request := by
  have core := tailored.sameCore
  exact ⟨core.fixedAudience.trans well.bound, core.scopes ▸ well.scopes⟩

/-- The bindings that an accepted request has. -/
structure FullyBound (binding : SessionBoundDelegationBinding) : Prop where
  actor : (trim binding.actor.sub).isEmpty = false
  resourceType : (trim binding.resourceType).isEmpty = false
  resourceId : (trim binding.resourceId).isEmpty = false
  correlationId : (trim binding.correlationId).isEmpty = false
  operationName : (trim binding.operation.operationName).isEmpty = false
  documentSha256 : (trim binding.operation.documentSha256).isEmpty = false

theorem fullyBound_of_validate {request : SessionBoundAccessTokenOnlyRequest}
    {config : AuthConfig}
    (accepted : validateSessionBoundAccessTokenOnlyRequest request config = .ok ()) :
    FullyBound request.binding := by
  obtain ⟨⟨⟩, -, accepted⟩ := Except.exists_of_bind_eq_ok accepted
  obtain ⟨-, accepted⟩ := Except.ite_error_eq_ok_iff.mp accepted
  obtain ⟨actor, accepted⟩ := Except.ite_error_eq_ok_iff.mp accepted
  obtain ⟨-, accepted⟩ := Except.ite_error_eq_ok_iff.mp accepted
  obtain ⟨resource, accepted⟩ := Except.ite_error_eq_ok_iff.mp accepted
  obtain ⟨correlationId, accepted⟩ := Except.ite_error_eq_ok_iff.mp accepted
  obtain ⟨operation, -⟩ := Except.ite_error_eq_ok_iff.mp accepted
  simp only [validDelegationBindingValue, Bool.not_and, Bool.not_not, Bool.or_eq_true, not_or,
    Bool.not_eq_true] at actor resource correlationId operation
  exact ⟨actor.1, resource.1.1, resource.2.1, correlationId.1, operation.1.1, operation.2.1⟩

theorem IssuedFromRead.meetsRequirements {svc : AuthService}
    {request : SessionBoundAccessTokenOnlyRequest} {audience : String} {id : Uuid}
    {second : VerifiedActiveUserSession} {now : OffsetDateTime} {grant : AccessTokenOnlyGrant}
    (issued : IssuedFromRead svc request audience second now id.toString grant) :
    JwtService.fixedAudienceRequirements.validate grant.user.tokenClaims = .ok () := by
  have bound := fullyBound_of_validate issued.valid
  have version : (trim second.sessionVersion).isEmpty = false := by
    have checked := second.verified.version
    simp only [invalidSessionVersion, Bool.or_eq_false_iff] at checked
    exact checked.1
  rw [issued.delegated.user_eq]
  simp [ClaimRequirements.validate, JwtService.fixedAudienceRequirements, filled, AuthUser.stamped,
    SessionBoundAccessTokenOnlyRequest.principal, bound.actor, bound.resourceType, bound.resourceId,
    bound.correlationId, bound.operationName, bound.documentSha256, version, Uuid.trim_toString]

/-- The owner signed the token for an audience that is not the reserved one in any case. -/
def OwnerToken (owner : JwtService lib) (facade : FixedAudienceDelegation) (token : String) :
    Prop :=
  ∃ entries typ purpose audience, owner.keys.encode (.object entries) = .ok token ∧
    Marked entries typ purpose audience ∧ eqIgnoreAsciiCase audience facade.audience = false

/-- The facade signed the token for its audience, from a request prepared for it. -/
structure FacadeToken (owner : JwtService lib) (facade : FixedAudienceDelegation)
    (preparer : Preparer) (grant : AccessTokenOnlyGrant) : Prop where
  preparer : preparer.binds facade = some facade.audience
  marked : ∃ entries, owner.keys.encode (.object entries) = .ok grant.accessToken ∧
    Marked entries accessTokenType accessTokenPurpose facade.audience
  signed : SignedGrant owner.auth facade.audience grant
  bound : JwtService.fixedAudienceRequirements.validate grant.user.tokenClaims = .ok ()

def Issuance.Kept (owner : JwtService lib) (facade : FixedAudienceDelegation) : Issuance → Prop
  | .owner token => OwnerToken owner facade token
  | .facade preparer grant => FacadeToken owner facade preparer grant

theorem ownerToken_of_normal (of : FacadeOf owner facade) {token typ purpose : String}
    (marked : ∃ entries, owner.keys.encode (.object entries) = .ok token ∧
      Marked entries typ purpose owner.auth.config.audience) : OwnerToken owner facade token := by
  obtain ⟨entries, encoded, marked⟩ := marked
  refine ⟨entries, typ, purpose, _, encoded, marked, ?_⟩
  rw [eqIgnoreAsciiCase_comm]
  exact of.apart

theorem ownerToken_of_purpose (of : FacadeOf owner facade) {request : PurposeTokenIssueRequest}
    {issuedAt : OffsetDateTime} {issued : IssuedPurposeToken}
    (call : owner.issuePurposeToken request issuedAt = .ok issued) :
    OwnerToken owner facade issued.token := by
  obtain ⟨free, entries, encoded, marked⟩ := issuePurposeToken_ok call
  refine ⟨entries, _, _, _, encoded, marked, ?_⟩
  rw [of.reserved, Option.any_some] at free
  rw [eqIgnoreAsciiCase_comm]
  exact free

theorem facadeToken_of_call {preparer : Preparer} {request : SessionBoundAccessTokenOnlyRequest}
    {h : DelegationHistory} {grant : AccessTokenOnlyGrant}
    (well : WellPrepared facade preparer request)
    (call : Path (facade.issueSessionBoundAccessTokenOnly (some owner.auth) request) h
      (ret (.ok grant))) : FacadeToken owner facade preparer grant := by
  obtain ⟨bound, second, now, id, issued⟩ := facade_issued call
  exact {
    preparer := well.bound.symm.trans bound
    marked := issued.marked
    signed := issued.signedGrant well.scopes
    bound := issued.meetsRequirements }

/-- Requests in circulation keep their mark, and issued tokens their audience. -/
structure DeskInvariant (owner : JwtService lib) (facade : FixedAudienceDelegation) (desk : Desk) :
    Prop where
  requests : ∀ held ∈ desk.requests, WellPrepared facade held.1 held.2
  issued : ∀ issuance ∈ desk.issued, issuance.Kept owner facade

theorem DeskInvariant.step (of : FacadeOf owner facade) {desk desk' : Desk}
    (invariant : DeskInvariant owner facade desk) (step : DeskStep owner facade desk desk') :
    DeskInvariant owner facade desk' := by
  obtain ⟨requests, issued⟩ := invariant
  cases step with
  | ownerPrepares call | otherOwnerPrepares call =>
      exact ⟨List.forall_mem_cons.mpr ⟨(prepare_yields _ _ _ _ _).of_path call, requests⟩, issued⟩
  | facadePrepares call | otherFacadePrepares _ call =>
      exact ⟨List.forall_mem_cons.mpr ⟨(facade_prepare_yields _ _ _ _ _ _).of_path call, requests⟩,
        issued⟩
  | tailors held tailored =>
      exact ⟨List.forall_mem_cons.mpr ⟨(requests _ held).tailored tailored, requests⟩, issued⟩
  | ownerDelegates held call =>
      obtain ⟨-, second, now, id, -, issuedFrom⟩ :=
        (issueSessionBoundAccessTokenOnly_upholds owner.auth _).post_of_path call _ rfl
      exact ⟨requests,
        List.forall_mem_cons.mpr ⟨ownerToken_of_normal of issuedFrom.marked, issued⟩⟩
  | facadeDelegates held call =>
      exact ⟨requests,
        List.forall_mem_cons.mpr ⟨facadeToken_of_call (requests _ held) call, issued⟩⟩
  | access token =>
      exact ⟨requests, List.forall_mem_cons.mpr
        ⟨ownerToken_of_normal of (IssuedToken.access token).carriesMarks, issued⟩⟩
  | purpose call =>
      exact ⟨requests, List.forall_mem_cons.mpr ⟨ownerToken_of_purpose of call, issued⟩⟩
  | passwordReset call =>
      exact ⟨requests, List.forall_mem_cons.mpr
        ⟨ownerToken_of_normal of (issuePasswordResetToken_ok call), issued⟩⟩

theorem deskInvariant (of : FacadeOf owner facade) {desk : Desk}
    (reached : DeskReachable owner facade desk) : DeskInvariant owner facade desk := by
  induction reached with
  | start => exact ⟨by simp, by simp⟩
  | step _ step ih => exact ih.step of step

/-! ## Confinement -/

/-- The audience claim of a token is the reserved one, in any case, exactly if `reserved`. -/
def ReservedExactly (owner : JwtService lib) (facade : FixedAudienceDelegation)
    (issuance : Issuance) (reserved : Prop) : Prop :=
  ∃ entries audience, owner.keys.encode (.object entries) = .ok issuance.token ∧
    occurrences "aud" entries = [.string audience] ∧
    (eqIgnoreAsciiCase audience facade.audience = true ↔ reserved)

/-- What the reserved audience of a token tells about the token. -/
structure Confined (owner : JwtService lib) (facade : FixedAudienceDelegation)
    (issuance : Issuance) : Prop where
  /-- The facade issued the token from a request that a facade prepared for its audience. -/
  audience : ReservedExactly owner facade issuance (∃ preparer grant,
    issuance = .facade preparer grant ∧ preparer.binds facade = some facade.audience)
  accepted : ∀ preparer grant, issuance = .facade preparer grant →
    ∃ claims, owner.auth.encodeJwt claims = .ok grant.accessToken ∧
      (0 ≤ claims.exp ∨ lib.ReadsExpiry claims.exp →
        ∀ now : OffsetDateTime, now.unixTimestamp < claims.exp →
          facade.authenticateAccessToken (some owner) grant.accessToken now = .ok grant.user)
  rejected : ∀ preparer grant, issuance = .facade preparer grant →
    ∀ now user, owner.authenticateAccessToken grant.accessToken now ≠ .ok user

theorem FacadeToken.accepted (faithful : lib.Faithful) {preparer : Preparer}
    {grant : AccessTokenOnlyGrant} (token : FacadeToken owner facade preparer grant) :
    ∃ claims, owner.auth.encodeJwt claims = .ok grant.accessToken ∧
      (0 ≤ claims.exp ∨ lib.ReadsExpiry claims.exp →
        ∀ now : OffsetDateTime, now.unixTimestamp < claims.exp →
          facade.authenticateAccessToken (some owner) grant.accessToken now = .ok grant.user) := by
  obtain ⟨issuedAt, claims, written⟩ := token.signed.claims faithful
  refine ⟨claims, ?_, ?_⟩
  · rw [owner.encodes]
    exact written.encoded
  · rw [written.exp_eq]
    intro readable now live
    have reads : ReadsFor owner facade.audience { owner.accessTokenDecodeConfig with
        validation := owner.validationForAudience facade.audience
        purposePolicy := .requireAccessToken
        claimRequirements := JwtService.fixedAudienceRequirements } := ⟨rfl, rfl, rfl, rfl, rfl⟩
    have authenticated :=
      SignedFor.authenticateWith_eq faithful token.signed reads token.bound readable now
    rw [if_neg (not_le.mpr live)] at authenticated
    exact authenticated

/--
On an owner and the facade that reserves an audience with it, after any sequence
of calls: a token carries the reserved audience, in any case, exactly if the
facade issued it from a request that a facade prepared for the same audience; the
facade accepts such a token until it expires, and the owner never does.
-/
theorem fixed_audience_confinement (faithful : lib.Faithful) {source : JwtService lib}
    {audience : String}
    (shared : source.intoSharedWithFixedAudienceDelegation audience = .ok (owner, facade))
    {desk : Desk} (reached : DeskReachable owner facade desk) :
    ∀ issuance ∈ desk.issued, Confined owner facade issuance := by
  have of := facadeOf_of_reservation shared
  intro issuance mem
  have kept := (deskInvariant of reached).issued issuance mem
  cases issuance with
  | owner token =>
      obtain ⟨entries, typ, purpose, aud, encoded, marked, apart⟩ := kept
      exact {
        audience := ⟨entries, aud, encoded, marked.audience, by simp [apart]⟩
        accepted := by intro preparer grant same; cases same
        rejected := by intro preparer grant same; cases same }
  | facade preparer grant =>
      obtain ⟨entries, encoded, marked⟩ := kept.marked
      constructor
      case audience =>
        refine ⟨entries, facade.audience, encoded, marked.audience, ?_⟩
        exact ⟨fun _ => ⟨preparer, grant, rfl, kept.preparer⟩, fun _ => by simp [eqIgnoreAsciiCase]⟩
      case accepted =>
        rintro _ _ ⟨⟩
        exact kept.accepted faithful
      case rejected =>
        rintro _ _ ⟨⟩ now user authenticated
        obtain ⟨-, named⟩ := access_of_authenticateWith faithful encoded marked
          owner.origin.validation_eq authenticated
        exact of.ne_normal named

end Runs

/-- A bare service that signs with a key pair. -/
def pairConfig : AuthConfig :=
  { secretConfig with jwtSigning := .rs256 "private pair" "public pair" "key-1" }

theorem pairConfig_validate : pairConfig.validate askedAt = .ok () := by
  decide +kernel

/-- The request as the facade binds it, and the read of its session. -/
def receiverRequest : SessionBoundAccessTokenOnlyRequest :=
  { ordersRequest with fixedAudience := some "receiver" }

/-- The user of the session is known and enabled. -/
def receiverAnswer : (op : delegationSignature.Op) → Option (delegationSignature.Resp op)
  | .inl (.findUserById id) => some (Except.ok (some ({
      id, principal := "ada", passwordHash := "", roles := [], scopes := [], disabled := false } :
        StoredUser)))
  | op => sessionAnswer op

def receiverExpiry : OffsetDateTime := .atSecond 90

def receiverPayload : JsonValue :=
  match VerifiedActiveUserSession.fromAuthoritativeRecord receiverRequest.reference sourceSession
    "v1" receiverExpiry none askedAt with
  | .error _ => .null
  | .ok verified =>
      ({ AuthService.bare .default with config := pairConfig }.accessTokenClaims
        ((receiverRequest.principal verified (Uuid.toString ⟨7⟩)).stamped (Uuid.toString ⟨7⟩)
          receiverExpiry)
        (some "orders.read") none askedAt receiverExpiry "receiver").toJson tableInstant

/-- The probe of the key pair, and the delegation for the receiver. -/
def receiverTable : List TableEntry := [
  { header := { alg := .rs256 }
    payload := .object [
      ("sub", .string "agql-auth-key-validation"), ("exp", i64.write (askedAt.unixTimestamp + 60))]
    key := "pair" },
  { header := { alg := .rs256, kid := some "key-1" }
    payload := receiverPayload
    key := "pair" }]

def pairKeys : JwtKeyMaterial (tableLibrary receiverTable) where
  encodingKey := "pair"
  decodingKey := "pair"
  validation := validationFor .rs256 "issuer" ["app"]
  algorithm := .rs256
  keyId := some "key-1"
  jwks := (buildRs256Jwks (tableLibrary receiverTable) "public pair" "key-1").toOption

theorem pairKeys_configured :
    JwtKeyMaterial.fromConfig (tableLibrary receiverTable) pairConfig askedAt = .ok pairKeys := by
  rfl

def pairService : JwtService (tableLibrary receiverTable) where
  auth := { sessionService with
    config := pairConfig
    encodeJwt := fun claims => pairKeys.encode (claims.toJson tableInstant) }
  keys := pairKeys
  builtAt := askedAt
  accepted := pairConfig_validate
  configured := pairKeys_configured
  encodes _ := rfl

def receiver : FixedAudienceDelegation := { audience := "receiver" }

theorem pairService_shared : pairService.intoSharedWithFixedAudienceDelegation "receiver" =
    .ok (pairService.reserving "receiver", receiver) := rfl

/-- The answers let the facade issue from the request, whoever prepared it. -/
theorem receiver_issues : ∃ h grant,
    Path (receiver.issueSessionBoundAccessTokenOnly (some (pairService.reserving "receiver").auth)
      receiverRequest) h (ret (.ok grant)) := by
  obtain ⟨issuance, issued, issuing, passed⟩ := exists_path_of_finish
    (receiver.issueSessionBoundAccessTokenOnly (some (pairService.reserving "receiver").auth)
      receiverRequest)
    receiverAnswer (fun issued => issued.toOption.isSome) (by decide +kernel)
  rcases issued with e | grant
  · cases passed
  · exact ⟨issuance, grant, issuing⟩

theorem receiver_confined :
    ∃ desk grant, DeskReachable (pairService.reserving "receiver") receiver desk ∧
      Issuance.facade .facade grant ∈ desk.issued ∧
      ∀ issuance ∈ desk.issued, Confined (pairService.reserving "receiver") receiver issuance := by
  obtain ⟨preparation, prepared⟩ : ∃ preparation,
      (receiver.prepareSessionBoundAccessTokenOnly (some (pairService.reserving "receiver").auth)
        sourcePrincipal [] ["orders.read"] ordersBinding).finish receiverAnswer [] =
        some (preparation, .ok receiverRequest) := ⟨_, rfl⟩
  have preparing := Path.finish .start prepared
  obtain ⟨h, grant, issuing⟩ := receiver_issues
  have reached : DeskReachable (pairService.reserving "receiver") receiver
      { requests := [(.facade, receiverRequest)], issued := [.facade .facade grant] } :=
    .step (.step .start (.facadePrepares preparing)) (.facadeDelegates List.mem_cons_self issuing)
  exact ⟨_, grant, reached, by simp,
    fixed_audience_confinement (tableLibrary_faithful receiverTable) pairService_shared reached⟩

/-- The owner that the pair's service replaced, with another key id. -/
def retiredConfig : AuthConfig :=
  { secretConfig with jwtSigning := .rs256 "private pair" "public pair" "key-0" }

theorem retiredConfig_validate : retiredConfig.validate askedAt = .ok () := by
  decide +kernel

def retiredKeys : JwtKeyMaterial (tableLibrary receiverTable) where
  encodingKey := "pair"
  decodingKey := "pair"
  validation := validationFor .rs256 "issuer" ["app"]
  algorithm := .rs256
  keyId := some "key-0"
  jwks := (buildRs256Jwks (tableLibrary receiverTable) "public pair" "key-0").toOption

theorem retiredKeys_configured :
    JwtKeyMaterial.fromConfig (tableLibrary receiverTable) retiredConfig askedAt =
      .ok retiredKeys := by
  rfl

def retiredService : JwtService (tableLibrary receiverTable) where
  auth := { sessionService with
    config := retiredConfig
    encodeJwt := fun claims => retiredKeys.encode (claims.toJson tableInstant) }
  keys := retiredKeys
  builtAt := askedAt
  accepted := retiredConfig_validate
  configured := retiredKeys_configured
  encodes _ := rfl

/--
The new facade issues from a request that the facade of the replaced owner has
prepared, and the token carries the audience of both.
-/
theorem replaced_facade_request_issued :
    pairService.intoSharedWithFixedAudienceDelegation "receiver" =
        .ok (pairService.reserving "receiver", receiver) ∧
      ∃ desk issuance, DeskReachable (pairService.reserving "receiver") receiver desk ∧
        issuance ∈ desk.issued ∧
        ¬ReservedExactly (pairService.reserving "receiver") receiver issuance
          (∃ grant, issuance = .facade .facade grant) := by
  refine ⟨pairService_shared, ?_⟩
  obtain ⟨preparation, prepared⟩ : ∃ preparation,
      (receiver.prepareSessionBoundAccessTokenOnly (some (retiredService.reserving "receiver").auth)
        sourcePrincipal [] ["orders.read"] ordersBinding).finish receiverAnswer [] =
        some (preparation, .ok receiverRequest) := ⟨_, rfl⟩
  have preparing := Path.finish .start prepared
  have shared : retiredService.intoSharedWithFixedAudienceDelegation "receiver" =
      .ok (retiredService.reserving "receiver", receiver) := rfl
  obtain ⟨h, grant, issuing⟩ := receiver_issues
  have reached : DeskReachable (pairService.reserving "receiver") receiver {
      requests := [(.otherFacade "receiver", receiverRequest)]
      issued := [.facade (.otherFacade "receiver") grant] } :=
    .step (.step .start (.otherFacadePrepares shared preparing))
      (.facadeDelegates List.mem_cons_self issuing)
  refine ⟨_, .facade (.otherFacade "receiver") grant, reached, by simp, ?_⟩
  rintro ⟨entries, audience, encoded, named, exactly⟩
  obtain ⟨-, second, now, id, issued⟩ := facade_issued issuing
  obtain ⟨entries', encoded', marked⟩ : ∃ entries',
      (pairService.reserving "receiver").keys.encode (.object entries') = .ok grant.accessToken ∧
        Marked entries' accessTokenType accessTokenPurpose receiver.audience := issued.marked
  obtain rfl : entries = entries' := by
    have same := payload_of_token encoded encoded'
    cases same
    rfl
  have reserved : audience = receiver.audience := by
    have both := named.symm.trans marked.audience
    cases both
    rfl
  obtain ⟨own, same⟩ := exactly.mp (by simp [reserved, eqIgnoreAsciiCase])
  cases same

end AgqlAuth
