import AgqlAuth.Assurance.RecentMfa
import AgqlAuth.Token.RoundTrip

/-!
# Sessions with accepted MFA

A session carries the time of its assurance twice: in the session context to the
nanosecond, and in the `auth_time` claim to the second.  The status projection
compares whole seconds, a recent-MFA policy compares instants.
-/

namespace AgqlAuth

open Interaction Program

structure SessionAssuranceStatus where
  authenticated : Bool
  authenticatedAt : Option OffsetDateTime
  mfaSatisfied : Bool
  deriving DecidableEq

/-- The claims of the token as `SessionAssuranceStatus::from_user` compares them. -/
def claimsConsistent (user : AuthUser) (assurance : SessionAssurance) : Bool :=
  user.tokenClaims.authTime == some assurance.authTime &&
    user.tokenClaims.amr == some assurance.methods && user.tokenClaims.acr == assurance.acr

def SessionAssuranceStatus.fromUser : Option AuthUser → SessionAssuranceStatus
  | none => { authenticated := false, authenticatedAt := none, mfaSatisfied := false }
  | some user =>
      let assurance := user.session.assurance.filter fun assurance =>
        assurance.validate.isOk && claimsConsistent user assurance
      { authenticated := true
        authenticatedAt := assurance.map (·.authenticatedAt)
        mfaSatisfied := assurance.any fun value =>
          value.mfa == .satisfied && user.session.mfa.satisfied }

/-- The authentication was accepted on a whole second. -/
def SessionAssurance.WholeSecond (self : SessionAssurance) : Prop :=
  self.authenticatedAt.unixNanos % nanosPerSecond = 0

theorem SessionAssurance.wholeSecond_iff {assurance : SessionAssurance} :
    assurance.WholeSecond ↔
      OffsetDateTime.fromUnixTimestamp assurance.authTime = some assurance.authenticatedAt := by
  obtain ⟨second, second_eq⟩ := fromUnixTimestamp_unixTimestamp assurance.authenticatedAt
  have nanos : second.unixNanos =
      assurance.authenticatedAt.unixNanos / nanosPerSecond * nanosPerSecond := by
    unfold OffsetDateTime.fromUnixTimestamp at second_eq
    split at second_eq
    · cases second_eq
      rfl
    · cases second_eq
  rw [SessionAssurance.authTime, second_eq, Option.some.injEq,
    ← OffsetDateTime.unixNanos_injective.eq_iff, nanos, SessionAssurance.WholeSecond]
  simp only [nanosPerSecond]
  omega

theorem claimsConsistent_iff {user : AuthUser} {assurance : SessionAssurance} :
    claimsConsistent user assurance = true ↔
      user.tokenClaims.authTime = some assurance.authTime ∧
        user.tokenClaims.amr = some assurance.methods ∧ user.tokenClaims.acr = assurance.acr := by
  simp [claimsConsistent, and_assoc]

/-- The instant a token claims, once the policy has compared it, is the session's own. -/
theorem claimsAgree_iff {user : AuthUser} {assurance : SessionAssurance}
    {authTime : OffsetDateTime} :
    RecentMfaPolicy.ClaimsAgree user assurance authTime ↔
      assurance.WholeSecond ∧ claimsConsistent user assurance = true ∧
        authTime = assurance.authenticatedAt := by
  rw [SessionAssurance.wholeSecond_iff, claimsConsistent_iff]
  constructor
  · rintro ⟨claimed, rfl, sameMethods, sameAcr⟩
    obtain ⟨seconds, present, represented⟩ := Option.bind_eq_some_iff.mp claimed
    have whole : assurance.authTime = seconds := by
      unfold OffsetDateTime.fromUnixTimestamp at represented
      split at represented
      · have nanos := congrArg OffsetDateTime.unixNanos (Option.some.inj represented)
        simp only [SessionAssurance.authTime, OffsetDateTime.unixTimestamp, ← nanos]
        exact Int.mul_ediv_cancel seconds (by decide)
      · cases represented
    subst whole
    exact ⟨represented, ⟨present, sameMethods, sameAcr⟩, rfl⟩
  · rintro ⟨whole, ⟨present, sameMethods, sameAcr⟩, rfl⟩
    exact {
      claimed := by rw [present]; exact whole
      sameTime := rfl
      sameMethods
      sameAcr }

/-- The two comparisons differ on claims that are right to the second and not to the instant. -/
theorem comparisons_agree_iff {user : AuthUser} {assurance : SessionAssurance} :
    (RecentMfaPolicy.claimedTime user assurance).isOk = claimsConsistent user assurance ↔
      assurance.WholeSecond ∨ claimsConsistent user assurance = false := by
  have accepted : (RecentMfaPolicy.claimedTime user assurance).isOk = true ↔
      assurance.WholeSecond ∧ claimsConsistent user assurance = true := by
    cases claimed : RecentMfaPolicy.claimedTime user assurance with
    | ok authTime =>
        have agree := claimsAgree_iff.mp (RecentMfaPolicy.claimedTime_ok.mp claimed)
        simp [Except.isOk, Except.toBool, agree.1, agree.2.1]
    | error denial =>
        simp only [Except.isOk, Except.toBool, Bool.false_eq_true, false_iff]
        rintro ⟨whole, consistent⟩
        have agree := claimsAgree_iff.mpr ⟨whole, consistent, rfl⟩
        cases claimed.symm.trans (RecentMfaPolicy.claimedTime_ok.mpr agree)
  rw [Bool.eq_iff_iff, accepted, Bool.eq_false_iff]
  tauto

/-- The claims restate the session's assurance. -/
structure RestatesAssurance (user : AuthUser) : Prop where
  authTime : user.tokenClaims.authTime = user.session.assurance.map SessionAssurance.authTime
  amr : user.tokenClaims.amr = user.session.assurance.map (·.methods)
  acr : user.tokenClaims.acr = user.session.assurance.bind (·.acr)

/-- The session rests on `assurance`, and the claims restate it. -/
structure RestsOn (assurance : SessionAssurance) (user : AuthUser) : Prop where
  recorded : user.session.assurance = some assurance
  mfa : user.session.mfa = assurance.mfaState
  restated : RestatesAssurance user

theorem RestatesAssurance.kept : KeptByIssuance RestatesAssurance where
  stamped restated _ _ := ⟨restated.authTime, restated.amr, restated.acr⟩
  forUserSession restated := ⟨restated.authTime, restated.amr, restated.acr⟩
  withAuthorizationRoles restated _ _ := ⟨restated.authTime, restated.amr, restated.acr⟩

theorem RestsOn.kept (assurance : SessionAssurance) : KeptByIssuance (RestsOn assurance) where
  stamped rests jti expiresAt :=
    ⟨rests.recorded, rests.mfa, RestatesAssurance.kept.stamped rests.restated jti expiresAt⟩
  forUserSession rests :=
    ⟨rests.recorded, rests.mfa, RestatesAssurance.kept.forUserSession rests.restated⟩
  withAuthorizationRoles rests provided ceiling :=
    ⟨rests.recorded, rests.mfa,
      RestatesAssurance.kept.withAuthorizationRoles rests.restated provided ceiling⟩

theorem RestsOn.consistent {assurance : SessionAssurance} {user : AuthUser}
    (rests : RestsOn assurance user) : claimsConsistent user assurance = true := by
  obtain ⟨recorded, -, authTime, amr, acr⟩ := rests
  rw [recorded] at authTime amr acr
  exact claimsConsistent_iff.mpr ⟨authTime, amr, acr⟩

/-- The assurance a host supplies is taken over, with the MFA view that goes with it. -/
theorem acceptHostSession_ok {session accepted : SessionContext} {assurance : SessionAssurance}
    (supplied : session.assurance = some assurance)
    (acceptance : AuthService.acceptHostSession session = .ok accepted) :
    accepted.assurance = some assurance ∧ accepted.mfa = assurance.mfaState := by
  unfold AuthService.acceptHostSession at acceptance
  rw [supplied] at acceptance
  dsimp only at acceptance
  split at acceptance
  · cases acceptance
  · cases acceptance
    exact ⟨rfl, rfl⟩

variable {svc : AuthService}

theorem issueSession_restsOn {userId : String} {roles scopes : List String}
    {session : SessionContext} {refreshableMetadata : RefreshableTokenMetadata}
    {metadata : ClientMetadata} {assurance : SessionAssurance}
    (supplied : session.assurance = some assurance) :
    Yields (SignedPayloadWith (RestsOn assurance) svc) (svc.issueSessionForUserWithMetadata userId
      roles scopes session refreshableMetadata metadata) := by
  apply issueSession_yields (RestsOn.kept assurance)
  intro accepted sessionId sessionFamilyId acceptance
  obtain ⟨recorded, mfa⟩ := acceptHostSession_ok supplied acceptance
  exact ⟨recorded, mfa, rfl, rfl, rfl⟩

/-- A step-up rests on the assurance it established from its reading of the clock. -/
theorem stepUpSession_restsOn {refreshToken : String} {stepUp : StepUpAuthentication}
    {metadata : ClientMetadata} {h : AuthHistory} {payload : AuthPayload}
    (call : Path (svc.stepUpSession refreshToken stepUp metadata) h (ret (.ok payload))) :
    ∃ now assurance, h.getLast? = some ⟨.now .stepUp, now⟩ ∧
      AuthService.stepUpAssurance now stepUp = .ok assurance ∧ RestsOn assurance payload.user := by
  have upholds : Upholds (S := authSignature) (fun _ _ => True)
      (fun h result => ∀ payload, result = .ok payload → ∃ now assurance,
        h.getLast? = some ⟨.now .stepUp, now⟩ ∧
          AuthService.stepUpAssurance now stepUp = .ok assurance ∧
            RestsOn assurance payload.user) []
      (svc.stepUpSession refreshToken stepUp metadata) := by
    apply Fallible.Upholds.perform_bind trivial
    intro now
    apply Fallible.Upholds.lift_bind
    · intro assurance established
      have rotated : Yields (SignedPayloadWith (RestsOn assurance) svc)
          (svc.rotateSession refreshToken metadata (some assurance)) :=
        rotateSession_yields (RestsOn.kept assurance)
          (fun _ _ _ _ => ⟨rfl, rfl, rfl, rfl, rfl⟩) refreshToken metadata
      refine (rotated.upholds _).suffix.mono (fun _ _ _ => trivial) ?_
      rintro h result ⟨⟨late, rfl⟩, signed⟩ payload returned
      exact ⟨now, assurance, List.getLast?_concat .., established, (signed payload returned).fact⟩
    · intro e refused payload returned
      cases returned
  exact upholds.post_of_path call payload rfl

/--
The access tokens of sessions that rest on `assurance`: issued with it, stepped up
to it, or refreshed since.  A refresh carries the session context on.
-/
inductive AssuredAccess (svc : AuthService) (assurance : SessionAssurance) :
    String → OffsetDateTime → AuthUser → Prop where
  | issued {userId : String} {roles scopes : List String} {session : SessionContext}
      {refreshable : RefreshableTokenMetadata} {metadata : ClientMetadata} {h : AuthHistory}
      {payload : AuthPayload} (supplied : session.assurance = some assurance)
      (call : Path (svc.issueSessionForUserWithMetadata userId roles scopes session refreshable
        metadata) h (ret (.ok payload))) :
      AssuredAccess svc assurance payload.accessToken payload.accessTokenExpiresAt payload.user
  | steppedUp {refreshToken : String} {stepUp : StepUpAuthentication} {metadata : ClientMetadata}
      {h : AuthHistory} {payload : AuthPayload} {now : OffsetDateTime}
      (call : Path (svc.stepUpSession refreshToken stepUp metadata) h (ret (.ok payload)))
      (read : h.getLast? = some ⟨.now .stepUp, now⟩)
      (established : AuthService.stepUpAssurance now stepUp = .ok assurance) :
      AssuredAccess svc assurance payload.accessToken payload.accessTokenExpiresAt payload.user
  | refreshed {earlierToken : String} {earlierExpiry : OffsetDateTime} {earlierUser : AuthUser}
      (earlier : AssuredAccess svc assurance earlierToken earlierExpiry earlierUser)
      {refreshToken : String} {metadata : ClientMetadata} {h : AuthHistory} {payload : AuthPayload}
      (call : Path (svc.refresh refreshToken metadata) h (ret (.ok payload)))
      (continued : payload.user.session = earlierUser.session) :
      AssuredAccess svc assurance payload.accessToken payload.accessTokenExpiresAt payload.user

namespace AssuredAccess

variable {assurance : SessionAssurance} {token : String} {expiresAt : OffsetDateTime}
  {user : AuthUser}

theorem issuedAccess (assured : AssuredAccess svc assurance token expiresAt user) :
    IssuedAccess svc token expiresAt user := by
  cases assured with
  | issued supplied call => exact .hostSession call
  | steppedUp call read established => exact .stepUp call
  | refreshed earlier call continued => exact .refresh call

theorem restsOn (assured : AssuredAccess svc assurance token expiresAt user) :
    RestsOn assurance user := by
  induction assured with
  | issued supplied call => exact ((issueSession_restsOn supplied).of_path call).fact
  | steppedUp call read established =>
      obtain ⟨now, known, again, known_eq, rests⟩ := stepUpSession_restsOn call
      cases Option.some.inj (read.symm.trans again)
      obtain rfl : known = assurance := Except.ok.inj (known_eq.symm.trans established)
      exact rests
  | refreshed earlier call continued ih =>
      have restated : SignedPayloadWith RestatesAssurance svc _ :=
        (rotateSession_yields RestatesAssurance.kept
          (fun _ _ _ _ => ⟨rfl, rfl, rfl⟩) _ _).of_path call
      exact ⟨by rw [continued]; exact ih.recorded, by rw [continued]; exact ih.mfa, restated.fact⟩

end AssuredAccess

theorem SessionAssurance.mfa_of_new {authenticatedAt : OffsetDateTime} {methods : List String}
    {acr context : Option String} {mfa : MfaAcceptance} {assurance : SessionAssurance}
    (built : SessionAssurance.new authenticatedAt methods acr context mfa = .ok assurance) :
    assurance.mfa = mfa := by
  obtain ⟨normalized, -, built⟩ := Except.exists_of_bind_eq_ok built
  obtain ⟨⟨⟩, -, built⟩ := Except.exists_of_bind_eq_ok built
  obtain ⟨⟨⟩, -, built⟩ := Except.exists_of_bind_eq_ok built
  cases built
  rfl

theorem RecentMfaPolicy.allows_of_empty {policy : RecentMfaPolicy} {assurance : SessionAssurance}
    (anyAmr : policy.allowedAmr = []) (anyAcr : policy.allowedAcr = []) :
    policy.Allows assurance := by
  unfold Allows
  cases policy.matchMode with
  | all => exact ⟨fun configured => absurd anyAmr configured, fun configured => absurd anyAcr configured⟩
  | any => exact .inl ⟨anyAmr, anyAcr⟩

/-- Of a user that rests on accepted MFA a policy without allowlists asks nothing but the time. -/
theorem RestsOn.accepts_iff {policy : RecentMfaPolicy} {user : AuthUser}
    {assurance : SessionAssurance} {now : OffsetDateTime} (rests : RestsOn assurance user)
    (valid : assurance.validate = .ok ()) (satisfied : assurance.mfa = .satisfied)
    (anyAmr : policy.allowedAmr = []) (anyAcr : policy.allowedAcr = [])
    (recent : policy.Recent assurance.authenticatedAt now) :
    (∃ known authTime, policy.Accepts user now known authTime) ↔
      assurance.WholeSecond ∧ policy.NonNegative := by
  constructor
  · rintro ⟨known, authTime, accepts⟩
    obtain rfl : known = assurance :=
      Option.some.inj (accepts.assured.recorded.symm.trans rests.recorded)
    exact ⟨(claimsAgree_iff.mp accepts.agree).1, accepts.assured.nonNegative⟩
  · rintro ⟨whole, nonNegative⟩
    refine ⟨assurance, assurance.authenticatedAt, ?_, ?_, recent⟩
    · exact {
        nonNegative
        recorded := rests.recorded
        valid
        accepted := satisfied
        sessionAccepted := by rw [rests.mfa]; exact decide_eq_true satisfied
        allowed := RecentMfaPolicy.allows_of_empty anyAmr anyAcr }
    · exact claimsAgree_iff.mpr ⟨whole, rests.consistent, rfl⟩

/--
Within its window a policy without allowlists lets in exactly the sessions whose MFA
was accepted on a whole second, unless one of its durations is negative; and the two
comparisons of the claims agree unless the claims are right only to the second.
-/
theorem accepted_mfa_usable_iff {lib : JwtLibrary} (faithful : lib.Faithful) (svc : JwtService lib)
    {authenticatedAt : OffsetDateTime} {methods : List String} {acr context : Option String}
    {assurance : SessionAssurance}
    (accepted : SessionAssurance.new authenticatedAt methods acr context .satisfied =
      .ok assurance) :
    (∀ token expiresAt issuedUser, AssuredAccess svc.auth assurance token expiresAt issuedUser →
      ∀ decodedAt user, svc.authenticateAccessToken token decodedAt = .ok user →
      ∀ (policy : RecentMfaPolicy) requirement now,
        policy.allowedAmr = [] → policy.allowedAcr = [] →
        policy.Representable user now → policy.Recent assurance.authenticatedAt now →
        ((policy.evaluateRequirement requirement (some user) now).state = .satisfied ↔
          assurance.WholeSecond ∧ policy.NonNegative)) ∧
    ∀ user known,
      ((RecentMfaPolicy.claimedTime user known).isOk = claimsConsistent user known ↔
        known.WholeSecond ∨ claimsConsistent user known = false) := by
  refine ⟨?_, fun user known => comparisons_agree_iff⟩
  intro token expiresAt issuedUser assured decodedAt user decoded policy requirement now anyAmr
    anyAcr representable recent
  obtain ⟨-, rfl⟩ := assured.issuedAccess.signedFor.of_authenticateWith faithful
    (readsFor_service svc) (ClaimRequirements.validate_default _) decoded
  have satisfied : assurance.mfa = .satisfied := SessionAssurance.mfa_of_new accepted
  rw [RecentMfaPolicy.satisfied_iff_accepts representable]
  exact assured.restsOn.accepts_iff (SessionAssurance.validate_of_new accepted) satisfied anyAmr
    anyAcr recent

/-- One minute and a half second. -/
def halfPastMinute : OffsetDateTime := ⟨60 * nanosPerSecond + 500000000, by decide, by decide⟩

def totpAcceptedAt (authenticatedAt : OffsetDateTime) : SessionAssurance where
  authenticatedAt
  methods := ["totp"]
  acr := none
  context := none
  mfa := .satisfied

def assuredSession (authenticatedAt : OffsetDateTime) : SessionContext :=
  { assurance := some (totpAcceptedAt authenticatedAt) }

def assuredUser (authenticatedAt : OffsetDateTime) : AuthUser :=
  (AuthService.hostSessionUser "ada" ⟨7⟩ ⟨7⟩ [] []
    (.withAssurance {} (totpAcceptedAt authenticatedAt)) {}).forUserSession.stamped
    (Uuid.toString ⟨7⟩) grantExpiry

def assuredTable (authenticatedAt : OffsetDateTime) : List TableEntry := [{
  header := { alg := .hs256 }
  payload := ({ AuthService.bare .default with config := secretConfig }.accessTokenClaims
    (assuredUser authenticatedAt) none none askedAt grantExpiry "app").toJson tableInstant
  key := sharedSecret }]

/-- The clock stands still, every identifier drawn is the same and the store accepts. -/
def hostAnswer : (op : AuthOp) → Option (AuthOp.Resp op)
  | .now _ => some askedAt
  | .newUuid => some (⟨7⟩ : Uuid)
  | .generateOpaqueToken => some "refresh"
  | .insertRefreshToken _ => some (.ok () : AuthResult Unit)
  | _ => none

def anyRecentMfa : RecentMfaPolicy where
  maximumAge := .ofSeconds 300
  clockSkew := .ofSeconds 30
  allowedAmr := []
  allowedAcr := []
  matchMode := .all

/-- What the policy answers at second 61, with the deadline in range, and the status. -/
def answeredAs (state : AssuranceEvaluationState) (user : AuthUser) : Bool :=
  (anyRecentMfa.evaluateRequirement recentRequirement (some user) (.atSecond 61)).state == state &&
    (SessionAssuranceStatus.fromUser (some user)).mfaSatisfied &&
    (user.tokenClaims.authTime.bind OffsetDateTime.fromUnixTimestamp).all fun authTime =>
      (authTime.checkedAdd anyRecentMfa.maximumAge).isSome

theorem representable_of_answeredAs {state : AssuranceEvaluationState} {user : AuthUser}
    (answered : answeredAs state user = true) :
    anyRecentMfa.Representable user (.atSecond 61) := by
  simp only [answeredAs, Bool.and_eq_true, Option.all_eq_true] at answered
  exact ⟨by decide +kernel, by decide +kernel, answered.2⟩

/-- A session is issued for `authenticatedAt`, decoded and evaluated. -/
def sessionAnswered (authenticatedAt : OffsetDateTime) (state : AssuranceEvaluationState)
    (issued : AuthResult AuthPayload) : Bool :=
  issued.toOption.any fun payload =>
    ((secretService (assuredTable authenticatedAt)).authenticateAccessToken payload.accessToken
      askedAt).toOption.any (answeredAs state)

theorem exists_session_answered {authenticatedAt : OffsetDateTime} {state : AssuranceEvaluationState}
    {h : AuthHistory} {issued : AuthResult AuthPayload}
    (path : Path ((secretService (assuredTable authenticatedAt)).auth.issueSessionForUserWithMetadata
      "ada" [] [] (assuredSession authenticatedAt) {} {}) h (ret issued))
    (answered : sessionAnswered authenticatedAt state issued = true) :
    ∃ token expiresAt issuedUser user,
      AssuredAccess (secretService (assuredTable authenticatedAt)).auth
        (totpAcceptedAt authenticatedAt) token expiresAt issuedUser ∧
      (secretService (assuredTable authenticatedAt)).authenticateAccessToken token askedAt =
        .ok user ∧
      answeredAs state user = true := by
  cases issued with
  | error e => cases answered
  | ok payload =>
      unfold sessionAnswered at answered
      cases decoded : (secretService (assuredTable authenticatedAt)).authenticateAccessToken
        payload.accessToken askedAt with
      | error e => simp [Except.toOption, decoded] at answered
      | ok user =>
          simp only [Except.toOption, decoded, Option.any_some] at answered
          exact ⟨_, _, _, user, .issued rfl path, decoded, answered⟩

/--
The session of an authentication accepted between two seconds is signed in with MFA
for the status projection, and must step up for a policy that allows its age.
-/
theorem mid_second_mfa_refused :
    SessionAssurance.new halfPastMinute ["TOTP "] none none .satisfied =
        .ok (totpAcceptedAt halfPastMinute) ∧
      anyRecentMfa.Recent halfPastMinute (.atSecond 61) ∧
      ∃ token expiresAt issuedUser user,
        AssuredAccess (secretService (assuredTable halfPastMinute)).auth
          (totpAcceptedAt halfPastMinute) token expiresAt issuedUser ∧
        (secretService (assuredTable halfPastMinute)).authenticateAccessToken token askedAt =
          .ok user ∧
        anyRecentMfa.Representable user (.atSecond 61) ∧
        (anyRecentMfa.evaluateRequirement recentRequirement (some user) (.atSecond 61)).state =
          .stepUpRequired .assuranceRequired ∧
        (SessionAssuranceStatus.fromUser (some user)).mfaSatisfied = true := by
  refine ⟨by rfl, ⟨by decide, by decide⟩, ?_⟩
  obtain ⟨h, issued, path, passed⟩ := exists_path_of_finish
    ((secretService (assuredTable halfPastMinute)).auth.issueSessionForUserWithMetadata "ada" [] []
      (assuredSession halfPastMinute) {} {}) hostAnswer
    (sessionAnswered halfPastMinute (.stepUpRequired .assuranceRequired)) (by decide +kernel)
  obtain ⟨token, expiresAt, issuedUser, user, assured, decoded, answered⟩ :=
    exists_session_answered path passed
  have representable := representable_of_answeredAs answered
  simp only [answeredAs, Bool.and_eq_true, beq_iff_eq] at answered
  exact ⟨token, expiresAt, issuedUser, user, assured, decoded, representable, answered.1.1,
    answered.1.2⟩

theorem whole_second_mfa_usable :
    ∃ token expiresAt issuedUser user,
      AssuredAccess (secretService (assuredTable askedAt)).auth (totpAcceptedAt askedAt) token
        expiresAt issuedUser ∧
      (secretService (assuredTable askedAt)).authenticateAccessToken token askedAt = .ok user ∧
      ((anyRecentMfa.evaluateRequirement recentRequirement (some user) (.atSecond 61)).state =
        .satisfied ↔ (totpAcceptedAt askedAt).WholeSecond ∧ anyRecentMfa.NonNegative) := by
  obtain ⟨h, issued, path, passed⟩ := exists_path_of_finish
    ((secretService (assuredTable askedAt)).auth.issueSessionForUserWithMetadata "ada" [] []
      (assuredSession askedAt) {} {}) hostAnswer (sessionAnswered askedAt .satisfied)
    (by decide +kernel)
  obtain ⟨token, expiresAt, issuedUser, user, assured, decoded, answered⟩ :=
    exists_session_answered path passed
  have accepted : SessionAssurance.new askedAt ["totp"] none none .satisfied =
      .ok (totpAcceptedAt askedAt) := by rfl
  refine ⟨token, expiresAt, issuedUser, user, assured, decoded, ?_⟩
  exact (accepted_mfa_usable_iff (tableLibrary_faithful (assuredTable askedAt))
    (secretService (assuredTable askedAt)) accepted).1 token expiresAt issuedUser assured askedAt
    user decoded anyRecentMfa recentRequirement (.atSecond 61) rfl rfl
    (representable_of_answeredAs answered) ⟨by decide, by decide⟩

end AgqlAuth
