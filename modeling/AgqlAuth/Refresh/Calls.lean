import AgqlAuth.Refresh.Rotation
import AgqlAuth.Service.Login

/-!
# The calls on a refresh store

Every call that reaches a refresh store: the two ways to open a session, refresh
and step-up, logout, and the host's own revocations and use records.  Each is
verified once, under arbitrary answers.
-/

namespace AgqlAuth

open Interaction Program

section RateLimiting

/-- The operations of the abuse-protection loops. -/
def rateLimitOp : AuthOp → Bool
  | .now _ | .newUuid | .findAuthRateLimitState _ | .compareExchangeAuthRateLimitState ..
  | .clearAuthRateLimitState .. => true
  | _ => false

abbrev RateLimiting {α : Type} (p : AuthM α) : Prop :=
  Issues (S := authSignature) (fun op => rateLimitOp op = true) p

theorem now_rateLimiting (clock : ClockSource) : RateLimiting (AgqlAuth.now clock) :=
  ⟨rfl, fun _ => trivial⟩

theorem newUuid_rateLimiting : RateLimiting newUuid := ⟨rfl, fun _ => trivial⟩

theorem findAuthRateLimitState_rateLimiting (key : AuthRateLimitKey) :
    RateLimiting (findAuthRateLimitState key) :=
  ⟨rfl, fun _ => trivial⟩

theorem compareExchangeAuthRateLimitState_rateLimiting (key : AuthRateLimitKey)
    (expected : Option Uuid) (replacement : AuthRateLimitSnapshot) :
    RateLimiting (compareExchangeAuthRateLimitState key expected replacement) :=
  ⟨rfl, fun _ => trivial⟩

theorem clearAuthRateLimitState_rateLimiting (key : AuthRateLimitKey) (expected : Option Uuid) :
    RateLimiting (clearAuthRateLimitState key expected) :=
  ⟨rfl, fun _ => trivial⟩

theorem rateLimiting_liftResult {α : Type} (result : AuthResult α) :
    RateLimiting (liftResult result) := trivial

theorem recordRateLimitAttemptForKeyWithin_rateLimiting (policy : AuthRateLimitPolicy)
    (key : AuthRateLimitKey) (now : OffsetDateTime) (enforceBeforeRecord : Bool) (retries : Nat) :
    RateLimiting
      (recordRateLimitAttemptForKeyWithin policy key now enforceBeforeRecord retries) := by
  induction retries with
  | zero => trivial
  | succ retries ih =>
      unfold recordRateLimitAttemptForKeyWithin
      apply Fallible.Issues.bind (findAuthRateLimitState_rateLimiting key)
      intro current
      refine Fallible.Issues.branch (rateLimiting_liftResult (.ok _)) ?_
      apply Fallible.Issues.bind (rateLimiting_liftResult _)
      intro next
      apply Fallible.Issues.bind newUuid_rateLimiting
      intro revision
      apply Fallible.Issues.bind (compareExchangeAuthRateLimitState_rateLimiting ..)
      intro committed
      exact Fallible.Issues.branch trivial ih

theorem recordAttempts_rateLimiting (policy : AuthRateLimitPolicy) (now : OffsetDateTime)
    (keys : List AuthRateLimitKey) : RateLimiting (recordAttempts policy now keys) := by
  induction keys with
  | nil => trivial
  | cons key keys ih =>
      apply Fallible.Issues.bind (recordRateLimitAttemptForKeyWithin_rateLimiting ..)
      intro outcome
      cases outcome with
      | recorded => exact ih
      | denied => trivial

theorem recordRateLimitAttempt_rateLimiting (policy : AuthRateLimitPolicy)
    (keys : List AuthRateLimitKey) : RateLimiting (recordRateLimitAttempt policy keys) := by
  refine Fallible.Issues.branch (rateLimiting_liftResult (.ok _)) ?_
  apply Fallible.Issues.bind (now_rateLimiting .rateLimit)
  intro now
  exact recordAttempts_rateLimiting policy now keys

theorem scanRateLimits_rateLimiting (now : OffsetDateTime) (scan : RateLimitScan)
    (keys : List AuthRateLimitKey) : RateLimiting (scanRateLimits now scan keys) := by
  induction keys generalizing scan with
  | nil => trivial
  | cons key keys ih =>
      apply Fallible.Issues.bind (findAuthRateLimitState_rateLimiting key)
      intro snapshot
      exact ih _

theorem rejectIfRateLimited_rateLimiting (policy : AuthRateLimitPolicy)
    (keys : List AuthRateLimitKey) : RateLimiting (rejectIfRateLimited policy keys) := by
  refine Fallible.Issues.branch (rateLimiting_liftResult (.ok _)) ?_
  apply Fallible.Issues.bind (now_rateLimiting .rateLimit)
  intro now
  apply Fallible.Issues.bind (scanRateLimits_rateLimiting now {} keys)
  intro scan
  trivial

theorem clearObservations_rateLimiting (observations : List RateLimitObservation) :
    RateLimiting (clearObservations observations) := by
  induction observations with
  | nil => trivial
  | cons observation rest ih =>
      apply Fallible.Issues.bind (clearAuthRateLimitState_rateLimiting ..)
      intro cleared
      exact ih

theorem clearRateLimitAttempts_rateLimiting (policy : AuthRateLimitPolicy)
    (permit : RateLimitPermit) : RateLimiting (clearRateLimitAttempts policy permit) :=
  Fallible.Issues.branch trivial (clearObservations_rateLimiting permit)

theorem bystanderOp_of_rateLimitOp {op : AuthOp} (limiting : rateLimitOp op = true) :
    bystanderOp op = true := by
  cases op <;> first | rfl | cases limiting

end RateLimiting

/-! ## Calls -/

inductive RefreshCall where
  | login (principal password : String) (metadata : ClientMetadata)
  | issueSession (userId : String) (roles scopes : List String) (session : SessionContext)
      (refreshableMetadata : RefreshableTokenMetadata) (metadata : ClientMetadata)
  | refresh (refreshToken : String) (metadata : ClientMetadata)
  | stepUp (refreshToken : String) (request : StepUpAuthentication) (metadata : ClientMetadata)
  | logout (refreshToken : String) (revokeFamily : Bool)
  /-- The host revokes a family through its own store. -/
  | adminRevokeFamily (sessionFamilyId : Uuid) (revokedAt : OffsetDateTime)
      (reason : RefreshTokenRevocationReason)
  /-- The host records a use outside rotation. -/
  | touch (tokenId : Uuid) (usedAt : OffsetDateTime) (ipAddress userAgent : Option String)

namespace RefreshCall

/-- What a call returns: the payload of the calls that have one. -/
abbrev Result := AuthResult (Option AuthPayload)

def program (svc : AuthService) : RefreshCall → AuthM (Option AuthPayload)
  | login principal password metadata => do
      let payload ← svc.login principal password metadata
      pure (some payload)
  | issueSession userId roles scopes session refreshableMetadata metadata => do
      let payload ← svc.issueSessionForUserWithMetadata userId roles scopes session
        refreshableMetadata metadata
      pure (some payload)
  | refresh refreshToken metadata => do
      let payload ← svc.refresh refreshToken metadata
      pure (some payload)
  | stepUp refreshToken request metadata => do
      let payload ← svc.stepUpSession refreshToken request metadata
      pure (some payload)
  | logout refreshToken revokeFamily => do
      svc.logout refreshToken revokeFamily
      pure none
  | adminRevokeFamily sessionFamilyId revokedAt reason => do
      revokeRefreshTokenFamily sessionFamilyId revokedAt reason
      pure none
  | touch tokenId usedAt ipAddress userAgent => do
      touchRefreshToken tokenId usedAt ipAddress userAgent
      pure none

/-- The session context a call opens a session with. -/
def issuanceContext : RefreshCall → Option SessionContext
  | login .. => some (.forAuthMethod .password)
  | issueSession _ _ _ session _ _ =>
      match AuthService.acceptHostSession session with
      | .ok accepted => some accepted
      | .error _ => none
  | _ => none

/-- The raw token a refresh or step-up presents. -/
def presentedToken : RefreshCall → Option String
  | refresh refreshToken _ | stepUp refreshToken _ _ => some refreshToken
  | _ => none

/-- `call` presents `refreshToken` and establishes `assurance`, if it is a step-up. -/
inductive Presents : RefreshCall → AuthHistory → String → Option SessionAssurance → Prop where
  | refresh {h : AuthHistory} (refreshToken : String) (metadata : ClientMetadata) :
      Presents (.refresh refreshToken metadata) h refreshToken none
  | stepUp {h : AuthHistory} (refreshToken : String) {request : StepUpAuthentication}
      (metadata : ClientMetadata) {now : OffsetDateTime} {assurance : SessionAssurance}
      (reading : h.getLast? = some ⟨.now .stepUp, now⟩)
      (established : AuthService.stepUpAssurance now request = .ok assurance) :
      Presents (.stepUp refreshToken request metadata) h refreshToken (some assurance)

/-- A call establishes one assurance, fixed by its first clock reading. -/
theorem Presents.unique {call : RefreshCall} {h : AuthHistory} {refreshToken refreshToken' : String}
    {assuranceOverride assuranceOverride' : Option SessionAssurance}
    (first : Presents call h refreshToken assuranceOverride)
    (second : Presents call h refreshToken' assuranceOverride') :
    assuranceOverride = assuranceOverride' := by
  cases first with
  | refresh => cases second; rfl
  | stepUp _ _ reading established =>
      cases second with
      | stepUp _ _ reading' established' =>
          cases reading.symm.trans reading'
          cases established.symm.trans established'
          rfl

end RefreshCall

/-- What a call knows when it asks the store to insert a session's first record. -/
structure SessionPlan (call : RefreshCall) (h : AuthHistory) (record : StoredRefreshToken) :
    Prop where
  unwritten : writes h = []
  drawn : drew record.id ∈ h
  family_drawn : drew record.sessionFamilyId ∈ h
  live : record.revokedAt = none
  unlinked : record.replacedByTokenId = none
  metadata : record.refreshableMetadata ≠ some {}
  context : call.issuanceContext = some record.session

/-- The operations a call may issue. -/
def callGuard (svc : AuthService) (call : RefreshCall) (h : AuthHistory) : AuthOp → Prop
  | .insertRefreshToken record => SessionPlan call h record
  | .rotateRefreshToken currentTokenId record now _ _ =>
      ∃ refreshToken assuranceOverride source newest user grant,
        call.Presents h refreshToken assuranceOverride ∧
          RotationPlan svc refreshToken assuranceOverride h currentTokenId record now source
            newest user grant
  | .revokeRefreshToken _ _ replacedByTokenId _ => replacedByTokenId = none
  | _ => True

/-- How a call ends. -/
def callPost (svc : AuthService) (call : RefreshCall) (h : AuthHistory) :
    RefreshCall.Result → Prop
  | .ok (some payload) =>
      match call.presentedToken with
      | some refreshToken => RotationOutcome svc refreshToken h (.ok payload)
      | none => ∃ record, writes h = [.inserted record] ∧ Delivered svc record payload
  | .ok none => call.presentedToken = none
  | .error e => ∀ refreshToken ∈ call.presentedToken,
      RotationOutcome svc refreshToken h (.error e)

section Verified

variable {svc : AuthService} {call : RefreshCall} {h : AuthHistory}

theorem callGuard_bystander (h : AuthHistory) (op : AuthOp) (bystander : bystanderOp op = true) :
    callGuard svc call h op := by
  cases op <;> trivial

theorem callGuard_of_rotationGuard {refreshToken : String}
    {assuranceOverride : Option SessionAssurance} {op : AuthOp}
    (presents : call.Presents h refreshToken assuranceOverride)
    (allowed : rotationGuard svc refreshToken assuranceOverride h op) :
    callGuard svc call h op := by
  cases op with
  | rotateRefreshToken currentTokenId record now ipAddress userAgent =>
      obtain ⟨source, newest, user, grant, plan⟩ := allowed
      exact ⟨refreshToken, assuranceOverride, source, newest, user, grant, presents, plan⟩
  | revokeRefreshToken tokenId revokedAt replacedByTokenId reason => exact allowed
  | insertRefreshToken token => exact allowed.elim
  | _ => trivial

theorem callPost_of_outcome {refreshToken : String} {result : AuthResult AuthPayload}
    (presented : call.presentedToken = some refreshToken)
    (outcome : RotationOutcome svc refreshToken h result) :
    Fallible.Continues (callGuard svc call) (callPost svc call)
      (fun payload => (pure (some payload) : AuthM (Option AuthPayload))) h result := by
  cases result with
  | ok payload =>
      change (match call.presentedToken with | some _ => _ | none => _)
      rw [presented]
      exact outcome
  | error e =>
      intro refreshToken' presented'
      cases presented.symm.trans presented'
      exact outcome

theorem refresh_upholds (refreshToken : String) (metadata : ClientMetadata) :
    Upholds (S := authSignature) (callGuard svc (.refresh refreshToken metadata))
      (callPost svc (.refresh refreshToken metadata)) []
      (RefreshCall.program svc (.refresh refreshToken metadata)) := by
  apply Fallible.Upholds.bind
  refine (rotateSession_upholds rfl).mono ?_ ?_
  · intro h op allowed
    exact callGuard_of_rotationGuard (.refresh refreshToken metadata) allowed
  · intro h result outcome
    exact callPost_of_outcome rfl outcome

/-- A step-up ends like a rotation, also when its assurance is refused. -/
theorem stepUpSession_upholds (refreshToken : String) (request : StepUpAuthentication)
    (metadata : ClientMetadata) :
    Upholds (S := authSignature) (callGuard svc (.stepUp refreshToken request metadata))
      (RotationOutcome svc refreshToken) [] (svc.stepUpSession refreshToken request metadata) := by
  apply Fallible.Upholds.perform_bind trivial
  intro now
  apply Fallible.Upholds.lift_bind
  · intro assurance established
    refine (rotateSession_upholds rfl).suffix.mono ?_ ?_
    · intro h op allowed
      have reading : h.getLast? = some ⟨.now .stepUp, now⟩ := by
        obtain ⟨late, rfl⟩ := allowed.1
        exact List.getLast?_concat ..
      exact callGuard_of_rotationGuard (.stepUp refreshToken metadata reading established)
        allowed.2
    · intro h result outcome
      exact outcome.2
  · intro e refused
    exact .unresolved rfl (stepUpAssurance_error refused) rfl

theorem stepUp_upholds (refreshToken : String) (request : StepUpAuthentication)
    (metadata : ClientMetadata) :
    Upholds (S := authSignature) (callGuard svc (.stepUp refreshToken request metadata))
      (callPost svc (.stepUp refreshToken request metadata)) []
      (RefreshCall.program svc (.stepUp refreshToken request metadata)) := by
  apply Fallible.Upholds.bind
  refine (stepUpSession_upholds refreshToken request metadata).mono (fun _ _ hg => hg) ?_
  intro h result outcome
  exact callPost_of_outcome rfl outcome

/-- An issuing call inserts the one record it delivers. -/
def Opens (svc : AuthService) (h : AuthHistory) : AuthResult AuthPayload → Prop
  | .ok payload => ∃ record, writes h = [.inserted record] ∧ Delivered svc record payload
  | .error _ => True

theorem refreshableMetadata_ne_default (user : AuthUser) :
    user.refreshableMetadata ≠ some {} := by
  intro same
  unfold AuthUser.refreshableMetadata at same
  dsimp only at same
  split at same
  · cases same
  · rename_i other
    exact other (Option.some.inj same)

theorem IssuedFrom.sessionPlan {authUser : AuthUser} {fam : Uuid} {metadata : ClientMetadata}
    {now : OffsetDateTime} {grantSource : RefreshGrantSource} {issued : IssuedTokens}
    (from_ : IssuedFrom svc authUser fam metadata now grantSource none h issued)
    (unwritten : writes h = []) (family_drawn : drew fam ∈ h)
    (context : call.issuanceContext = some authUser.session) :
    SessionPlan call h issued.record := by
  obtain ⟨⟨provided, jti, huser⟩, hrecord, drawn⟩ := from_
  constructor
  case unwritten => exact unwritten
  case drawn => exact drawn
  case family_drawn =>
    rw [hrecord]
    exact family_drawn
  case live =>
    rw [hrecord]
    rfl
  case unlinked =>
    rw [hrecord]
    rfl
  case metadata =>
    rw [hrecord]
    exact refreshableMetadata_ne_default issued.user
  case context =>
    rw [hrecord, huser]
    exact context

theorem issueAuthPayload_upholds {authUser : AuthUser} {fam : Uuid} {metadata : ClientMetadata}
    {grantSource : RefreshGrantSource} (unwritten : writes h = [])
    (family_drawn : drew fam ∈ h)
    (named : authUser.tokenClaims.sessionFamilyId = some fam.toString)
    (context : call.issuanceContext = some authUser.session) :
    Upholds (S := authSignature) (callGuard svc call) (Opens svc) h
      (svc.issueAuthPayload authUser fam metadata grantSource) := by
  apply Fallible.Upholds.perform_bind trivial
  intro now
  apply Fallible.Upholds.bind
  apply issueTokensOnly_upholds fun h op issuance => callGuard_bystander h op
    (bystanderOp_of_preparationOp (preparationOp_of_issuanceOp issuance))
  · intro late issued issuance from_ _
    have bystander := (issuance.mono preparationOp_of_issuanceOp).mono bystanderOp_of_preparationOp
    have still_unwritten : writes (late ++ (⟨.now .system, now⟩ :: h)) = [] := by
      rw [bystander.writes_append]
      exact unwritten
    apply Fallible.Upholds.bind
    apply Upholds.await
    · have family_drawn : drew fam ∈ late ++ (⟨.now .system, now⟩ :: h) :=
        List.mem_append_right late (List.mem_cons_of_mem _ family_drawn)
      exact from_.sessionPlan still_unwritten family_drawn context
    · intro resp
      rcases resp with e | _
      · trivial
      · exact ⟨issued.record, writes_first rfl still_unwritten, from_.delivered named⟩
  · intro late e issuance failure
    trivial

theorem callPost_of_opens {result : AuthResult AuthPayload} (opening : call.presentedToken = none)
    (opens : Opens svc h result) :
    Fallible.Continues (callGuard svc call) (callPost svc call)
      (fun payload => (pure (some payload) : AuthM (Option AuthPayload))) h result := by
  cases result with
  | ok payload =>
      change (match call.presentedToken with | some _ => _ | none => _)
      rw [opening]
      exact opens
  | error e =>
      intro refreshToken presented
      cases opening.symm.trans presented

theorem issueSession_upholds (userId : String) (roles scopes : List String)
    (session : SessionContext) (refreshableMetadata : RefreshableTokenMetadata)
    (metadata : ClientMetadata) :
    Upholds (S := authSignature)
      (callGuard svc (.issueSession userId roles scopes session refreshableMetadata metadata))
      (Opens svc) []
      (svc.issueSessionForUserWithMetadata userId roles scopes session refreshableMetadata
        metadata) := by
  apply Fallible.Upholds.lift_bind
  · intro accepted acceptance
    apply Fallible.Upholds.perform_bind trivial
    intro sessionFamilyId
    apply Fallible.Upholds.perform_bind trivial
    intro sessionId
    apply issueAuthPayload_upholds
    · rfl
    · exact List.mem_cons_of_mem _ List.mem_cons_self
    · rfl
    · simp only [RefreshCall.issuanceContext, acceptance]
      rfl
  · intro e refused
    trivial

section Login

variable {principal password : String} {metadata : ClientMetadata}

/-- Rate limiting in front of a continuation that only needs an unwritten history. -/
theorem rateLimiting_upholds {α β : Type} {p : AuthM α} {f : α → AuthM β}
    {post : AuthHistory → AuthResult β → Prop} (limiting : RateLimiting p)
    (unwritten : writes h = []) (error : ∀ h e, post h (.error e))
    (next : ∀ h value, writes h = [] → Upholds (callGuard svc call) post h (f value)) :
    Upholds (S := authSignature) (callGuard svc call) post h (p >>= f : AuthM β) := by
  apply Fallible.Upholds.bind
  apply Issues.upholds limiting
  · intro h op allowed
    exact callGuard_bystander h op (bystanderOp_of_rateLimitOp allowed)
  · intro late result limited
    have bystander : Only bystanderOp late := fun e mem => bystanderOp_of_rateLimitOp (limited e mem)
    cases result with
    | ok value =>
        apply next
        rw [bystander.writes_append]
        exact unwritten
    | error e => exact error _ e

theorem rejectWithDummyWork_upholds {rateLimitKeys : List AuthRateLimitKey} {failure : AuthError}
    (unwritten : writes h = []) :
    Upholds (S := authSignature) (callGuard svc call) (Opens svc) h
      (svc.rejectWithDummyWork password rateLimitKeys failure) := by
  have recorded : ∀ h, writes h = [] →
      Upholds (S := authSignature) (callGuard svc call) (Opens svc) h
        (do
          recordRateLimitAttempt svc.config.rateLimits.credential rateLimitKeys
          throwAuth failure : AuthM AuthPayload) := by
    intro h unwritten
    exact rateLimiting_upholds (recordRateLimitAttempt_rateLimiting ..) unwritten
      (fun _ _ => trivial) fun _ _ _ => trivial
  apply Fallible.Upholds.perform_bind trivial
  intro verified
  rcases verified with e | _
  · cases e with
    | invalidCredentials => exact recorded _ unwritten
    | _ => trivial
  · exact recorded _ unwritten

theorem openPasswordSession_upholds {user : StoredUser} (unwritten : writes h = []) :
    Upholds (S := authSignature) (callGuard svc (.login principal password metadata))
      (Opens svc) h (svc.openPasswordSession user metadata) := by
  apply Fallible.Upholds.bind
  apply Upholds.await trivial
  intro resp
  rcases resp with e | _ | current
  · trivial
  · trivial
  · refine Fallible.Upholds.branch ?_ fun _ => Fallible.Upholds.branch ?_ fun _ =>
      Fallible.Upholds.branch ?_ fun _ => ?_
    · intro _
      trivial
    · intro _
      trivial
    · intro _
      trivial
    · apply Fallible.Upholds.perform_bind trivial
      intro sessionId
      apply Fallible.Upholds.perform_bind trivial
      intro sessionFamilyId
      apply issueAuthPayload_upholds
      · exact unwritten
      · exact List.mem_cons_self
      · rfl
      · rfl

theorem login_upholds :
    Upholds (S := authSignature) (callGuard svc (.login principal password metadata))
      (Opens svc) [] (svc.login principal password metadata) := by
  apply rateLimiting_upholds (rejectIfRateLimited_rateLimiting ..) rfl fun _ _ => trivial
  intro h permit unwritten
  apply Fallible.Upholds.bind
  apply Upholds.await trivial
  intro resp
  rcases resp with e | _ | user
  · trivial
  · exact rejectWithDummyWork_upholds unwritten
  · apply Fallible.Upholds.branch
    · intro _
      exact rejectWithDummyWork_upholds unwritten
    · intro _
      apply Fallible.Upholds.perform_bind trivial
      intro verified
      have recorded : ∀ h e, writes h = [] →
          Upholds (S := authSignature) (callGuard svc (.login principal password metadata))
            (Opens svc) h
            (do
              recordRateLimitAttempt svc.config.rateLimits.credential
                (svc.rateLimitKeys .passwordLogin (some principal) metadata)
              throwAuth e : AuthM AuthPayload) := by
        intro h e unwritten
        exact rateLimiting_upholds (recordRateLimitAttempt_rateLimiting ..) unwritten
          (fun _ _ => trivial) fun _ _ _ => trivial
      rcases verified with e | ⟨⟩
      · cases e with
        | authServiceUnavailable => trivial
        | _ => exact recorded _ _ unwritten
      · apply rateLimiting_upholds (clearRateLimitAttempts_rateLimiting ..)
        · exact unwritten
        · intro _ _
          trivial
        · intro h _ unwritten
          exact openPasswordSession_upholds unwritten

end Login

theorem logout_upholds (refreshToken : String) (revokeFamily : Bool) :
    Upholds (S := authSignature) (callGuard svc (.logout refreshToken revokeFamily))
      (fun _ _ => True) [] (svc.logout refreshToken revokeFamily) := by
  apply Fallible.Upholds.perform_bind trivial
  intro now
  apply Fallible.Upholds.bind
  apply Upholds.await trivial
  intro resp
  rcases resp with e | _ | existing
  · trivial
  · trivial
  · apply Fallible.Upholds.branch
    · intro _
      exact Upholds.await trivial fun _ => trivial
    · intro _
      apply Fallible.Upholds.branch
      · intro _
        trivial
      · intro _
        exact Upholds.await rfl fun _ => trivial

/-- Every call keeps its guard and ends as described, whatever it is answered. -/
theorem RefreshCall.verified (svc : AuthService) (call : RefreshCall) :
    Upholds (S := authSignature) (callGuard svc call) (callPost svc call) []
      (call.program svc) := by
  cases call with
  | login principal password metadata =>
      apply Fallible.Upholds.bind
      exact login_upholds.mono (fun _ _ hg => hg) fun _ _ opens => callPost_of_opens rfl opens
  | issueSession userId roles scopes session refreshableMetadata metadata =>
      apply Fallible.Upholds.bind
      exact (issueSession_upholds ..).mono (fun _ _ hg => hg)
        fun _ _ opens => callPost_of_opens rfl opens
  | refresh refreshToken metadata => exact refresh_upholds refreshToken metadata
  | stepUp refreshToken request metadata => exact stepUp_upholds refreshToken request metadata
  | logout refreshToken revokeFamily =>
      apply Fallible.Upholds.bind
      refine (logout_upholds refreshToken revokeFamily).mono (fun _ _ hg => hg) ?_
      rintro h (e | _) _
      · nofun
      · rfl
  | adminRevokeFamily sessionFamilyId revokedAt reason =>
      apply Fallible.Upholds.bind
      apply Upholds.await trivial
      rintro (e | _)
      · nofun
      · rfl
  | touch tokenId usedAt ipAddress userAgent =>
      apply Fallible.Upholds.bind
      apply Upholds.await trivial
      rintro (e | _)
      · nofun
      · rfl

end Verified

end AgqlAuth
