import AgqlAuth.RateLimit.LoginPhases

/-!
# The exits of a login

A login ends in one of its phases.  Each exit keeps the whole history of the
login, cut where one phase hands over to the next.
-/

namespace AgqlAuth

open Interaction Program

/-- The arguments of `login`. -/
structure PasswordLogin where
  principal : String
  password : String
  metadata : ClientMetadata

namespace PasswordLogin

def program (svc : AuthService) (login : PasswordLogin) : AuthM AuthPayload :=
  svc.login login.principal login.password login.metadata

def ownKeys (svc : AuthService) (login : PasswordLogin) : List AuthRateLimitKey :=
  svc.rateLimitKeys .passwordLogin (some login.principal) login.metadata

/-- The keys the login is accounted on: none if the controls are disabled. -/
def keys (svc : AuthService) (login : PasswordLogin) : List AuthRateLimitKey :=
  countedKeys svc.config.rateLimits.credential (login.ownKeys svc)

end PasswordLogin

/-- The user store answered the read by principal. -/
def principalRead (login : PasswordLogin) (answer : AuthResult (Option StoredUser)) : AuthEvent :=
  ⟨.findUserByPrincipal login.principal, answer⟩

/-- The password executor answered. -/
def passwordChecked (login : PasswordLogin) (passwordHash : String) (answer : AuthResult Unit) :
    AuthEvent :=
  ⟨.verifyPassword login.password passwordHash, answer⟩

/-- The user store answered the read by id. -/
def userReread (user : StoredUser) (answer : AuthResult (Option StoredUser)) : AuthEvent :=
  ⟨.findUserById user.id, answer⟩

/-- The second read shows the verified user, still enabled and with the same hash. -/
structure StillVerified (user current : StoredUser) : Prop where
  same : current.id = user.id
  enabled : current.disabled = false
  hash : current.passwordHash = user.passwordHash

/-- The payload is that of a session of `current`. -/
structure SessionOf (current : StoredUser) (payload : AuthPayload) : Prop where
  userId : payload.user.userId = current.id
  roles : payload.user.roles = dedupeStable current.roles
  scopes : payload.user.scopes = dedupeStable current.scopes

/-- Why the second read turns the login away. -/
inductive TurnedAway (user : StoredUser) : Option StoredUser → AuthError → Prop where
  | missing : TurnedAway user none .invalidCredentials
  | other {current : StoredUser} (other : current.id ≠ user.id) :
      TurnedAway user (some current) .authServiceUnavailable
  | disabled {current : StoredUser} (same : current.id = user.id)
      (disabled : current.disabled = true) : TurnedAway user (some current) .userDisabled
  | rehashed {current : StoredUser} (same : current.id = user.id)
      (changed : current.passwordHash ≠ user.passwordHash) :
      TurnedAway user (some current) .invalidCredentials

/-- What issuing the session of `current` did to reach its result. -/
structure SessionIssuing (current : StoredUser) (h : AuthHistory)
    (result : AuthResult AuthPayload) : Prop where
  only : Only openingOp h
  failed : ErrorsReported h result
  surfaced : Surfaces h result
  unwritten : ∀ e, result = .error e →
    Only readingOp h ∨ ∃ record, (⟨.insertRefreshToken record, .error e⟩ : AuthEvent) ∈ h
  session : ∀ payload, result = .ok payload → SessionOf current payload

/-- How opening the session of a verified user ends. -/
inductive SessionOpening (user : StoredUser) : AuthHistory → AuthResult AuthPayload → Prop where
  | unread {e : AuthError} : SessionOpening user [userReread user (.error e)] (.error e)
  | turnedAway {answer : Option StoredUser} {e : AuthError} (away : TurnedAway user answer e) :
      SessionOpening user [userReread user (.ok answer)] (.error e)
  | issued {current : StoredUser} {sessionFamilyId sessionId : Uuid} {late : AuthHistory}
      {result : AuthResult AuthPayload} (verified : StillVerified user current)
      (issuing : SessionIssuing current late result) :
      SessionOpening user (late ++ [⟨.newUuid, sessionFamilyId⟩, ⟨.newUuid, sessionId⟩,
        userReread user (.ok (some current))]) result

section Opening

variable {svc : AuthService} {user : StoredUser} {metadata : ClientMetadata}

theorem openingOp_of_issuanceOp {op : AuthOp} (issuance : issuanceOp op = true) :
    openingOp op = true := by
  cases op <;> first | rfl | exact issuance | cases issuance

theorem readingOp_of_issuanceOp {op : AuthOp} (issuance : issuanceOp op = true) :
    readingOp op = true := by
  cases op <;> first | rfl | cases issuance

theorem IssuedFrom.sessionOf {current : StoredUser} {sessionId sessionFamilyId : Uuid}
    {now : OffsetDateTime} {h : AuthHistory} {issued : IssuedTokens}
    (from_ : IssuedFrom svc (AuthService.passwordSessionUser current sessionId sessionFamilyId)
      sessionFamilyId metadata now .storedUser none h issued) : SessionOf current issued.payload := by
  obtain ⟨⟨provided, jti, stamped⟩, -, -⟩ := from_
  have delivered : issued.payload.user = issued.user := rfl
  constructor <;> (rw [delivered, stamped]; rfl)

theorem issueAuthPayload_issues {current : StoredUser} {sessionId sessionFamilyId : Uuid} :
    Upholds (S := authSignature) (Unlicensed authSignature) (SessionIssuing current) []
      (svc.issueAuthPayload (AuthService.passwordSessionUser current sessionId sessionFamilyId)
        sessionFamilyId metadata .storedUser) := by
  have issued : Upholds (S := authSignature) (Unlicensed authSignature)
      (fun h result => Only openingOp h ∧ ErrorsReported h result ∧
        (∀ e, result = .error e → Only readingOp h ∨
          ∃ record, (⟨.insertRefreshToken record, .error e⟩ : AuthEvent) ∈ h) ∧
        ∀ payload, result = .ok payload → SessionOf current payload) []
      (svc.issueAuthPayload (AuthService.passwordSessionUser current sessionId sessionFamilyId)
        sessionFamilyId metadata .storedUser) := by
    apply Fallible.Upholds.perform_bind trivial
    intro now
    have opening {late : AuthHistory} (issuance : Only issuanceOp late) :
        Only openingOp (late ++ [⟨.now .system, now⟩]) :=
      (issuance.mono openingOp_of_issuanceOp).append (.cons rfl .nil)
    apply Fallible.Upholds.bind
    refine issueTokensOnly_upholds (fun _ _ _ => trivial) ?_ ?_
    · intro late issued issuance from_ _
      apply Fallible.Upholds.bind
      apply Upholds.await trivial
      intro resp
      have only : Only openingOp (⟨.insertRefreshToken issued.record, resp⟩ ::
          (late ++ [⟨.now .system, now⟩])) := .cons rfl (opening issuance)
      rcases resp with e | _
      · refine ⟨only, .error (.answered rfl), ?_, ?_⟩
        · rintro _ ⟨⟩
          exact .inr ⟨issued.record, List.mem_cons_self⟩
        · rintro _ ⟨⟩
      · refine ⟨only, .ok, ?_, ?_⟩
        · rintro _ ⟨⟩
        · rintro _ ⟨⟩
          exact from_.sessionOf
    · intro late e issuance reported
      refine ⟨opening issuance, .error (reported.mono (List.subset_append_left late _)), ?_, ?_⟩
      · rintro _ ⟨⟩
        exact .inl ((issuance.mono readingOp_of_issuanceOp).append (.cons rfl .nil))
      · rintro _ ⟨⟩
  refine (issued.and (issueAuthPayload_surfaces .nil)).mono (fun _ _ _ => trivial) ?_
  rintro h result ⟨⟨only, failed, unwritten, session⟩, surfaced⟩
  exact ⟨only, failed, surfaced, unwritten, session⟩

theorem openPasswordSession_opens :
    Upholds (S := authSignature) (Unlicensed authSignature) (SessionOpening user) []
      (svc.openPasswordSession user metadata) := by
  apply Fallible.Upholds.bind
  apply Upholds.await trivial
  intro resp
  rcases resp with e | _ | current
  · exact SessionOpening.unread
  · exact SessionOpening.turnedAway .missing
  · apply Fallible.Upholds.resume
    apply Fallible.Upholds.branch
    · intro other
      exact SessionOpening.turnedAway (.other other)
    · intro same
      have same : current.id = user.id := not_not.mp same
      apply Fallible.Upholds.branch
      · intro disabled
        exact SessionOpening.turnedAway (.disabled same disabled)
      · intro enabled
        have enabled : current.disabled = false := by simpa using enabled
        apply Fallible.Upholds.branch
        · intro changed
          exact SessionOpening.turnedAway (.rehashed same changed)
        · intro hash
          have verified : StillVerified user current := ⟨same, enabled, not_not.mp hash⟩
          apply Fallible.Upholds.perform_bind trivial
          intro sessionId
          apply Fallible.Upholds.perform_bind trivial
          intro sessionFamilyId
          refine issueAuthPayload_issues.after.mono (fun _ _ _ => trivial) ?_
          rintro _ result ⟨late, rfl, issuing⟩
          exact .issued verified issuing

end Opening

/-- The login was admitted and has read the user its principal names. -/
def AdmittedRead (svc : AuthService) (login : PasswordLogin) (h : AuthHistory)
    (permit : RateLimitPermit) (found : Option StoredUser) : Prop :=
  ∃ admission, h = principalRead login (.ok found) :: admission ∧
    AdmissionCheck svc.config.rateLimits.credential (login.ownKeys svc) admission (.ok permit)

/-- How a login ends. -/
inductive LoginExit (svc : AuthService) (login : PasswordLogin) :
    AuthHistory → AuthResult AuthPayload → Prop where
  | rejected {h : AuthHistory} {e : AuthError}
      (check : AdmissionCheck svc.config.rateLimits.credential (login.ownKeys svc) h (.error e)) :
      LoginExit svc login h (.error e)
  | unread {h : AuthHistory} {permit : RateLimitPermit} {e : AuthError}
      (check : AdmissionCheck svc.config.rateLimits.credential (login.ownKeys svc) h (.ok permit)) :
      LoginExit svc login (principalRead login (.error e) :: h) (.error e)
  | unverified {h : AuthHistory} {permit : RateLimitPermit} {found : Option StoredUser}
      {passwordHash : String} {e : AuthError} (read : AdmittedRead svc login h permit found)
      (other : e ≠ .invalidCredentials) :
      LoginExit svc login (passwordChecked login passwordHash (.error e) :: h) (.error e)
  | counted {h late : AuthHistory} {permit : RateLimitPermit} {found : Option StoredUser}
      {passwordHash : String} {answer : AuthResult Unit} {recorded : AuthResult Unit}
      {e : AuthError} (read : AdmittedRead svc login h permit found)
      (available : answer ≠ .error .authServiceUnavailable)
      (recording : FailureRecording svc.config.rateLimits.credential (login.ownKeys svc) late
        recorded)
      (outcome : recorded = .error e ∨ recorded = .ok () ∧
        (e = .invalidCredentials ∨ e = .userDisabled ∨ answer = .error e)) :
      LoginExit svc login (late ++ passwordChecked login passwordHash answer :: h) (.error e)
  | uncleared {h late : AuthHistory} {permit : RateLimitPermit} {user : StoredUser}
      {e : AuthError} (read : AdmittedRead svc login h permit (some user))
      (clearing : CounterClearing svc.config.rateLimits.credential permit late (.error e)) :
      LoginExit svc login (late ++ passwordChecked login user.passwordHash (.ok ()) :: h) (.error e)
  | reopened {h late final : AuthHistory} {permit : RateLimitPermit} {user : StoredUser}
      {result : AuthResult AuthPayload} (read : AdmittedRead svc login h permit (some user))
      (clearing : CounterClearing svc.config.rateLimits.credential permit late (.ok ()))
      (opening : SessionOpening user final result) :
      LoginExit svc login
        (final ++ (late ++ passwordChecked login user.passwordHash (.ok ()) :: h)) result

section Login

variable {svc : AuthService} {login : PasswordLogin}

theorem recordFailure_exits {h : AuthHistory} {permit : RateLimitPermit}
    {found : Option StoredUser} {passwordHash : String} {e : AuthError} (answer : AuthResult Unit)
    (read : AdmittedRead svc login h permit found)
    (available : answer ≠ .error .authServiceUnavailable)
    (verdict : e = .invalidCredentials ∨ e = .userDisabled ∨ answer = .error e) :
    Upholds (S := authSignature) (Unlicensed authSignature) (LoginExit svc login)
      (passwordChecked login passwordHash answer :: h)
      (do
        recordRateLimitAttempt svc.config.rateLimits.credential (login.ownKeys svc)
        throwAuth e : AuthM AuthPayload) := by
  apply Fallible.Upholds.bind
  refine (recordRateLimitAttempt_records _).after.mono (fun _ _ _ => trivial) ?_
  rintro _ (e' | _) ⟨late, rfl, recording⟩
  · exact LoginExit.counted read available recording (.inl rfl)
  · exact LoginExit.counted read available recording (.inr ⟨rfl, verdict⟩)

theorem rejectWithDummyWork_exits {h : AuthHistory} {permit : RateLimitPermit}
    {found : Option StoredUser} {e : AuthError} (read : AdmittedRead svc login h permit found)
    (verdict : e = .invalidCredentials ∨ e = .userDisabled) :
    Upholds (S := authSignature) (Unlicensed authSignature) (LoginExit svc login) h
      (svc.rejectWithDummyWork login.password (login.ownKeys svc) e) := by
  have verdict {answer : AuthResult Unit} :
      e = .invalidCredentials ∨ e = .userDisabled ∨ answer = .error e := by
    rw [← or_assoc]
    exact .inl verdict
  apply Fallible.Upholds.perform_bind trivial
  intro verified
  rcases verified with e' | _
  · cases e' with
    | invalidCredentials =>
        exact recordFailure_exits (.error .invalidCredentials) read nofun verdict
    | _ => exact LoginExit.unverified read nofun
  · exact recordFailure_exits (.ok ()) read nofun verdict

theorem verifiedLogin_exits {h : AuthHistory} {permit : RateLimitPermit} {user : StoredUser}
    (read : AdmittedRead svc login h permit (some user)) :
    Upholds (S := authSignature) (Unlicensed authSignature) (LoginExit svc login)
      (passwordChecked login user.passwordHash (.ok ()) :: h)
      (do
        clearRateLimitAttempts svc.config.rateLimits.credential permit
        svc.openPasswordSession user login.metadata : AuthM AuthPayload) := by
  apply Fallible.Upholds.bind
  refine (clearRateLimitAttempts_clears permit).after.mono (fun _ _ _ => trivial) ?_
  rintro _ (e | _) ⟨late, rfl, clearing⟩
  · exact LoginExit.uncleared read clearing
  · refine openPasswordSession_opens.after.mono (fun _ _ _ => trivial) ?_
    rintro _ result ⟨final, rfl, opening⟩
    exact .reopened read clearing opening

theorem login_exits :
    Upholds (S := authSignature) (Unlicensed authSignature) (LoginExit svc login) []
      (login.program svc) := by
  apply Fallible.Upholds.bind
  refine (rejectIfRateLimited_checks _).mono (fun _ _ _ => trivial) ?_
  rintro h (e | permit) check
  · exact LoginExit.rejected check
  · apply Fallible.Upholds.bind
    apply Upholds.await trivial
    intro resp
    rcases resp with e | _ | user
    · exact LoginExit.unread check
    · have read : AdmittedRead svc login (principalRead login (.ok none) :: h) permit none :=
        ⟨h, rfl, check⟩
      exact rejectWithDummyWork_exits read (.inl rfl)
    · have read : AdmittedRead svc login (principalRead login (.ok (some user)) :: h) permit
          (some user) := ⟨h, rfl, check⟩
      apply Fallible.Upholds.resume
      apply Fallible.Upholds.branch
      · intro _
        exact rejectWithDummyWork_exits read (.inr rfl)
      · intro _
        apply Fallible.Upholds.perform_bind trivial
        intro verified
        rcases verified with e | _
        · cases e with
          | authServiceUnavailable => exact LoginExit.unverified read nofun
          | _ => exact recordFailure_exits (.error _) read nofun (.inr (.inr rfl))
        · exact verifiedLogin_exits read

end Login

end AgqlAuth
