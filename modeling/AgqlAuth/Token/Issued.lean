import AgqlAuth.Delegation.Session
import AgqlAuth.Interaction.Yields
import AgqlAuth.Service.Login
import AgqlAuth.Service.Rotate
import AgqlAuth.Token.Claims

/-!
# What every issuance path signs

Each path that returns an access token has signed it for exactly the principal it
returns, and that principal can be read back from its claims.
-/

namespace AgqlAuth

open Interaction Program

/-- Nothing of the principal is lost or repeated when its claims are written and read. -/
structure Recoverable (user : AuthUser) : Prop where
  scopes : user.scopes.Nodup
  authorizationRoles : user.tokenClaims.authorizationRoles.Nodup
  authTime : ∀ seconds ∈ user.tokenClaims.authTime, Json.FitsI64 seconds
  ascending : Json.Ascending user.tokenClaims.additional
  unreserved : ∀ entry ∈ user.tokenClaims.additional, entry.1 ∉ AccessTokenClaims.fields

theorem fitsI64_authTime {assurance : Option SessionAssurance} :
    ∀ seconds ∈ assurance.map SessionAssurance.authTime, Json.FitsI64 seconds := by
  intro seconds mem
  obtain ⟨known, -, rfl⟩ := Option.map_eq_some_iff.mp mem
  exact fitsI64_unixTimestamp known.authenticatedAt

/-- Every claim of the typed fields is reserved. -/
theorem fields_reserved : ∀ name ∈ AccessTokenClaims.fields, name ∈ reservedAccessTokenClaims := by
  decide

theorem unreserved_of_validate {ttl : Option Duration} {additionalClaims : ClaimMap}
    {config : AuthConfig}
    (accepted : validateAccessTokenTtlAndClaims ttl additionalClaims config = .ok ()) :
    ∀ entry ∈ additionalClaims.entries, entry.1 ∉ AccessTokenClaims.fields := by
  intro entry mem typed
  exact not_mem_reserved (keys_of_validateAccessTokenTtlAndClaims accepted entry mem)
    (fields_reserved entry.1 typed)

namespace Recoverable

variable {user : AuthUser}

theorem stamped (recoverable : Recoverable user) (jti : String) (expiresAt : OffsetDateTime) :
    Recoverable (user.stamped jti expiresAt) :=
  ⟨recoverable.scopes, recoverable.authorizationRoles, recoverable.authTime, recoverable.ascending,
    recoverable.unreserved⟩

theorem forUserSession (recoverable : Recoverable user) : Recoverable user.forUserSession :=
  ⟨recoverable.scopes, recoverable.authorizationRoles, recoverable.authTime, recoverable.ascending,
    recoverable.unreserved⟩

theorem withAuthorizationRoles (recoverable : Recoverable user)
    (provided ceiling : Option (List String)) :
    Recoverable (user.withAuthorizationRoles provided ceiling) where
  scopes := recoverable.scopes
  authorizationRoles := by
    cases provided with
    | none =>
        cases ceiling with
        | none => exact recoverable.authorizationRoles
        | some ceiling => exact recoverable.authorizationRoles.filter _
    | some additional =>
        cases ceiling with
        | none => exact nodup_dedupeStable additional
        | some ceiling => exact (nodup_dedupeStable additional).filter _
  authTime := recoverable.authTime
  ascending := recoverable.ascending
  unreserved := recoverable.unreserved

/-- A principal without authorization roles or custom claims. -/
theorem plain {user : AuthUser} (scopes : user.scopes.Nodup)
    (authorizationRoles : user.tokenClaims.authorizationRoles = [])
    (authTime : ∀ seconds ∈ user.tokenClaims.authTime, Json.FitsI64 seconds)
    (additional : user.tokenClaims.additional = []) : Recoverable user where
  scopes
  authorizationRoles := by simp [authorizationRoles]
  authTime
  ascending := by simp [additional, Json.Ascending]
  unreserved := by simp [additional]

end Recoverable

theorem rotatedUser_recoverable (source : StoredRefreshToken) (newest : Option StoredRefreshToken)
    (user : StoredUser) (grant : CurrentRefreshGrant)
    (assuranceOverride : Option SessionAssurance) :
    Recoverable (rotatedUser source newest user grant assuranceOverride) := by
  have authTime := @fitsI64_authTime (rotatedSession source assuranceOverride).assurance
  exact .plain (nodup_dedupeStable _) rfl authTime rfl

/-- `token` was signed for exactly `user`, at some instant of issuance. -/
structure SignedFor (svc : AuthService) (audience token : String) (expiresAt : OffsetDateTime)
    (user : AuthUser) : Prop where
  recoverable : Recoverable user
  purpose : user.tokenClaims.purpose = some accessTokenPurpose
  expiry : user.tokenClaims.expiresAt = OffsetDateTime.fromUnixTimestamp expiresAt.unixTimestamp
  signed : ∃ issuedAt, svc.signAccessToken user issuedAt expiresAt audience = .ok token

/-- The access token of a payload. -/
def SignedPayload (svc : AuthService) (payload : AuthPayload) : Prop :=
  SignedFor svc svc.config.audience payload.accessToken payload.accessTokenExpiresAt payload.user

def SignedGrant (svc : AuthService) (audience : String) (grant : AccessTokenOnlyGrant) : Prop :=
  SignedFor svc audience grant.accessToken grant.accessTokenExpiresAt grant.user

/-- A fact about principals that the marks of issuance leave alone. -/
structure KeptByIssuance (fact : AuthUser → Prop) : Prop where
  stamped : ∀ {user}, fact user → ∀ jti expiresAt, fact (user.stamped jti expiresAt)
  forUserSession : ∀ {user}, fact user → fact user.forUserSession
  withAuthorizationRoles : ∀ {user}, fact user → ∀ provided ceiling,
    fact (user.withAuthorizationRoles provided ceiling)

theorem Recoverable.kept : KeptByIssuance Recoverable :=
  ⟨Recoverable.stamped, Recoverable.forUserSession, Recoverable.withAuthorizationRoles⟩

/-- `token` was signed for `user`, of whom `fact` holds. -/
structure SignedWith (fact : AuthUser → Prop) (svc : AuthService) (audience token : String)
    (expiresAt : OffsetDateTime) (user : AuthUser) : Prop where
  fact : fact user
  purpose : user.tokenClaims.purpose = some accessTokenPurpose
  expiry : user.tokenClaims.expiresAt = OffsetDateTime.fromUnixTimestamp expiresAt.unixTimestamp
  signed : ∃ issuedAt, svc.signAccessToken user issuedAt expiresAt audience = .ok token

theorem SignedWith.signedFor {svc : AuthService} {audience token : String}
    {expiresAt : OffsetDateTime} {user : AuthUser}
    (known : SignedWith Recoverable svc audience token expiresAt user) :
    SignedFor svc audience token expiresAt user :=
  ⟨known.fact, known.purpose, known.expiry, known.signed⟩

def SignedPayloadWith (fact : AuthUser → Prop) (svc : AuthService) (payload : AuthPayload) : Prop :=
  SignedWith fact svc svc.config.audience payload.accessToken payload.accessTokenExpiresAt
    payload.user

section Paths

variable {svc : AuthService} {authUser : AuthUser}

theorem liftResult_yields {α : Type} {result : AuthResult α} :
    Yields (fun value => result = .ok value) (liftResult result) :=
  .of_ret fun _ same => same

section Facts

variable {fact : AuthUser → Prop} (kept : KeptByIssuance fact)
include kept

theorem issueAccessTokenWithUserForAudience_yields (holds : fact authUser)
    (issuedAt expiresAt : OffsetDateTime) (audience : String) :
    Yields (fun issued => SignedWith fact svc audience issued.1 expiresAt issued.2)
      (svc.issueAccessTokenWithUserForAudience authUser issuedAt expiresAt audience) := by
  unfold AuthService.issueAccessTokenWithUserForAudience
  refine .after fun jti => ?_
  refine .bind liftResult_yields fun token signed => ?_
  exact {
    fact := kept.stamped holds jti expiresAt
    purpose := rfl
    expiry := rfl
    signed := ⟨issuedAt, signed⟩ }

theorem issueTokensOnly_yields (holds : fact authUser) (sessionFamilyId : Uuid)
    (metadata : ClientMetadata) (now : OffsetDateTime) (grantSource : RefreshGrantSource)
    (ceiling : Option (List String)) :
    Yields (fun issued => SignedPayloadWith fact svc issued.payload)
      (svc.issueTokensOnly authUser sessionFamilyId metadata now grantSource ceiling) := by
  unfold AuthService.issueTokensOnly
  refine .after fun provided => .after fun expiresAt => ?_
  refine .bind (issueAccessTokenWithUserForAudience_yields kept
    (kept.withAuthorizationRoles (kept.forUserSession holds) provided ceiling) now expiresAt
    svc.config.audience) fun signed issued => ?_
  refine .after fun raw => .after fun refreshExpiresAt => .after fun id => ?_
  exact issued

theorem issueAuthPayload_yields (holds : fact authUser) (sessionFamilyId : Uuid)
    (metadata : ClientMetadata) (grantSource : RefreshGrantSource) :
    Yields (SignedPayloadWith fact svc)
      (svc.issueAuthPayload authUser sessionFamilyId metadata grantSource) := by
  unfold AuthService.issueAuthPayload
  refine .after fun now => ?_
  refine .bind (issueTokensOnly_yields kept holds sessionFamilyId metadata now grantSource none)
    fun issued signed => ?_
  refine .after fun _ => ?_
  exact signed

theorem issueSession_yields {userId : String} {roles scopes : List String}
    {session : SessionContext} {refreshableMetadata : RefreshableTokenMetadata}
    (metadata : ClientMetadata)
    (holds : ∀ accepted sessionId sessionFamilyId,
      AuthService.acceptHostSession session = .ok accepted →
        fact (AuthService.hostSessionUser userId sessionId sessionFamilyId roles scopes accepted
          refreshableMetadata)) :
    Yields (SignedPayloadWith fact svc) (svc.issueSessionForUserWithMetadata userId roles scopes
      session refreshableMetadata metadata) := by
  unfold AuthService.issueSessionForUserWithMetadata
  refine .bind liftResult_yields fun accepted acceptance => ?_
  refine .after fun sessionFamilyId => .after fun sessionId => ?_
  exact issueAuthPayload_yields kept (holds accepted sessionId sessionFamilyId acceptance)
    sessionFamilyId metadata .host

section Rotation

variable {assuranceOverride : Option SessionAssurance}
  (holds : ∀ source newest user grant, fact (rotatedUser source newest user grant assuranceOverride))
include holds

theorem prepareRotation_yields (source : StoredRefreshToken) (newest : Option StoredRefreshToken)
    (metadata : ClientMetadata) (now : OffsetDateTime) :
    Yields (fun issued => SignedPayloadWith fact svc issued.payload)
      (svc.prepareRotation source newest metadata assuranceOverride now) := by
  unfold AuthService.prepareRotation
  refine .after fun found => ?_
  split
  · exact .fail
  · refine .branch (fun _ => .fail) fun _ => ?_
    refine .after fun grant => ?_
    exact issueTokensOnly_yields kept (holds source newest _ grant) _ metadata now _ _

omit kept holds in
/-- No reissue, no token. -/
theorem unreissued_yields :
    Yields (fun reissued => ∀ payload ∈ reissued, SignedPayloadWith fact svc payload)
      (pure none : AuthM (Option AuthPayload)) := by
  intro payload mem
  cases mem

theorem reissueWithin_yields (presented : StoredRefreshToken) (metadata : ClientMetadata)
    (window : Duration) (retries : Nat) :
    Yields (fun reissued => ∀ payload ∈ reissued, SignedPayloadWith fact svc payload)
      (svc.reissueWithin presented metadata assuranceOverride window retries) := by
  induction retries with
  | zero => exact .fail
  | succ retries ih =>
      unfold AuthService.reissueWithin
      refine .after fun now => ?_
      refine .branch (fun _ => unreissued_yields) fun _ => ?_
      refine .after fun live => ?_
      split
      case h_2 => exact unreissued_yields
      case h_1 =>
        refine .branch (fun _ => unreissued_yields) fun _ => ?_
        refine .bind (prepareRotation_yields kept holds presented _ metadata now)
          fun issued signed => ?_
        refine .after fun replaced => ?_
        refine .branch (fun _ => ih) fun _ => ?_
        refine .after fun _ => ?_
        rintro payload ⟨⟩
        exact signed

theorem reissueWithinReuseGrace_yields (presented : StoredRefreshToken)
    (metadata : ClientMetadata) :
    Yields (fun reissued => ∀ payload ∈ reissued, SignedPayloadWith fact svc payload)
      (svc.reissueWithinReuseGrace presented metadata assuranceOverride) := by
  unfold AuthService.reissueWithinReuseGrace
  split
  · exact unreissued_yields
  · exact reissueWithin_yields kept holds presented metadata _ _

theorem reissueAfterLostRace_yields (tokenHash : String) (metadata : ClientMetadata) :
    Yields (fun reissued => ∀ payload ∈ reissued, SignedPayloadWith fact svc payload)
      (svc.reissueAfterLostRace tokenHash metadata assuranceOverride) := by
  unfold AuthService.reissueAfterLostRace
  refine .branch (fun _ => ?_) (fun _ => unreissued_yields)
  refine .after fun found => ?_
  split
  · exact unreissued_yields
  · exact reissueWithinReuseGrace_yields kept holds _ metadata

omit kept holds in
theorem acceptOrRejectReplay_yields {reissued : Option AuthPayload} (sessionFamilyId : Uuid)
    (now : OffsetDateTime) (signed : ∀ payload ∈ reissued, SignedPayloadWith fact svc payload) :
    Yields (SignedPayloadWith fact svc)
      (AuthService.acceptOrRejectReplay sessionFamilyId now reissued) := by
  cases reissued with
  | none => exact .after fun _ => .fail
  | some payload => exact signed payload rfl

theorem rotateSession_yields (refreshToken : String) (metadata : ClientMetadata) :
    Yields (SignedPayloadWith fact svc)
      (svc.rotateSession refreshToken metadata assuranceOverride) := by
  unfold AuthService.rotateSession
  refine .after fun now => .after fun found => ?_
  split
  · exact .fail
  · refine .branch (fun _ => ?_) fun _ => ?_
    · exact .bind (reissueWithinReuseGrace_yields kept holds _ metadata)
        fun reissued signed => acceptOrRejectReplay_yields _ now signed
    refine .branch (fun _ => .after fun _ => .fail) fun _ => ?_
    refine .bind (prepareRotation_yields kept holds _ none metadata now)
      fun issued signed => ?_
    refine .after fun rotated => ?_
    refine .branch (fun _ => ?_) fun _ => signed
    exact .bind (reissueAfterLostRace_yields kept holds _ metadata)
      fun reissued signed => acceptOrRejectReplay_yields _ now signed

end Rotation

theorem stepUpSession_yields (refreshToken : String) (stepUp : StepUpAuthentication)
    (metadata : ClientMetadata)
    (holds : ∀ assurance source newest user grant,
      fact (rotatedUser source newest user grant (some assurance))) :
    Yields (SignedPayloadWith fact svc) (svc.stepUpSession refreshToken stepUp metadata) := by
  unfold AuthService.stepUpSession
  refine .after fun now => .after fun assurance => ?_
  exact rotateSession_yields kept (holds assurance) refreshToken metadata

end Facts

/-- Whatever signs for recoverable principals signs payloads that can be read back. -/
theorem signed_of_recoverable {p : AuthM AuthPayload}
    (known : Yields (SignedPayloadWith Recoverable svc) p) : Yields (SignedPayload svc) p :=
  known.mono fun _ known => known.signedFor

theorem openPasswordSession_yields (user : StoredUser) (metadata : ClientMetadata) :
    Yields (SignedPayload svc) (svc.openPasswordSession user metadata) := by
  unfold AuthService.openPasswordSession
  refine .after fun found => ?_
  split
  case h_1 => exact .fail
  case h_2 current =>
    refine .branch (fun _ => .fail) fun _ => ?_
    refine .branch (fun _ => .fail) fun _ => ?_
    refine .branch (fun _ => .fail) fun _ => ?_
    refine .after fun sessionId => .after fun sessionFamilyId => ?_
    have recoverable :
        Recoverable (AuthService.passwordSessionUser current sessionId sessionFamilyId) :=
      .plain (nodup_dedupeStable _) rfl (by simp [AuthService.passwordSessionUser]) rfl
    exact signed_of_recoverable
      (issueAuthPayload_yields Recoverable.kept recoverable sessionFamilyId metadata .storedUser)

theorem rejectWithDummyWork_yields (password : String) (rateLimitKeys : List AuthRateLimitKey)
    (failure : AuthError) :
    Yields (SignedPayload svc) (svc.rejectWithDummyWork password rateLimitKeys failure) := by
  unfold AuthService.rejectWithDummyWork
  refine .after fun verdict => ?_
  split
  · exact .after fun _ => .fail
  · exact .after fun _ => .fail
  · exact .fail

theorem login_yields (principal password : String) (metadata : ClientMetadata) :
    Yields (SignedPayload svc) (svc.login principal password metadata) := by
  unfold AuthService.login
  refine .after fun permit => .after fun found => ?_
  split
  · exact rejectWithDummyWork_yields password _ _
  · refine .branch (fun _ => rejectWithDummyWork_yields password _ _) fun _ => ?_
    refine .after fun verdict => ?_
    split
    · exact .fail
    · exact .after fun _ => .fail
    · exact .after fun _ => openPasswordSession_yields _ metadata

theorem issueAccessTokenOnly_yields (request : AccessTokenOnlyRequest) :
    Yields (SignedGrant svc svc.config.audience) (svc.issueAccessTokenOnly request) := by
  unfold AuthService.issueAccessTokenOnly
  apply Yields.bind liftResult_yields
  intro _ accepted
  have claims : validateAccessTokenTtlAndClaims request.ttl request.additionalClaims svc.config =
      .ok () := by
    unfold validateAccessTokenOnlyRequest at accepted
    split at accepted
    · cases accepted
    · exact accepted
  refine .after fun now => .after fun _ => .after fun jti => .after fun sessionId =>
    .after fun expiresAt => ?_
  have recoverable : Recoverable (request.principal jti.toString sessionId) := {
    scopes := nodup_dedupeStable request.scopes
    authorizationRoles := List.nodup_nil
    authTime := by
      intro seconds mem
      obtain ⟨known, -, rfl⟩ := Option.map_eq_some_iff.mp mem
      exact known.property
    ascending := request.additionalClaims.ascending
    unreserved := unreserved_of_validate claims }
  refine .bind (issueAccessTokenWithUserForAudience_yields Recoverable.kept recoverable now
    expiresAt svc.config.audience) fun signed issued => ?_
  exact issued.signedFor

end Paths

/-- The core of a delegation request: what its preparation fixed. -/
theorem IssuedFromRead.signedGrant {svc : AuthService}
    {request : SessionBoundAccessTokenOnlyRequest} {audience jti : String}
    {second : VerifiedActiveUserSession} {now : OffsetDateTime} {grant : AccessTokenOnlyGrant}
    (issued : IssuedFromRead svc request audience second now jti grant)
    (scopes : request.scopes.Nodup) : SignedGrant svc audience grant := by
  obtain ⟨⟨⟩, claims, -⟩ := Except.exists_of_bind_eq_ok issued.valid
  have recoverable : Recoverable (request.principal second jti) := {
    scopes
    authorizationRoles := List.nodup_nil
    authTime := fitsI64_authTime
    ascending := request.additionalClaims.ascending
    unreserved := unreserved_of_validate claims }
  have stamped := issued.delegated.user_eq
  exact {
    recoverable := stamped ▸ recoverable.stamped jti grant.accessTokenExpiresAt
    purpose := by rw [stamped]; rfl
    expiry := by rw [stamped]; rfl
    signed := ⟨now, issued.delegated.signed⟩ }

end AgqlAuth
