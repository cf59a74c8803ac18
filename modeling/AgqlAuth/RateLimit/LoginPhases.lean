import AgqlAuth.RateLimit.Calls
import AgqlAuth.RateLimit.Counting
import AgqlAuth.Refresh.Issuance

/-!
# The phases of a login

Admission, recording a failure, clearing the counters and opening the session
are described one by one, each from an empty history: which operations it
issues, and where an error it ends with came from.
-/

namespace AgqlAuth

open Interaction Program

/-- The operations that change no store. -/
def readingOp : AuthOp → Bool
  | .compareExchangeAuthRateLimitState .. | .clearAuthRateLimitState .. | .insertRefreshToken _
  | .revokeRefreshToken .. | .revokeRefreshTokenFamily .. | .touchRefreshToken ..
  | .rotateRefreshToken .. | .refreshReuseGranted _ => false
  | _ => true

/-- The reads of an admission check. -/
def admissionOp : AuthOp → Bool
  | .now .rateLimit | .findAuthRateLimitState _ => true
  | _ => false

def recordingOp : AuthOp → Bool
  | .newUuid | .compareExchangeAuthRateLimitState .. => true
  | op => admissionOp op

def clearingOp : AuthOp → Bool
  | .clearAuthRateLimitState .. => true
  | _ => false

/-- What follows the second reading of the user. -/
def openingOp : AuthOp → Bool
  | .now .system | .insertRefreshToken _ => true
  | op => issuanceOp op

/-- A result that is an error is one that was reported, or internal. -/
def ErrorsReported {α : Type} (h : AuthHistory) (result : AuthResult α) : Prop :=
  ∀ e, result = .error e → Reported h e

theorem ErrorsReported.ok {α : Type} {h : AuthHistory} {value : α} :
    ErrorsReported h (.ok value : AuthResult α) := by
  intro e failed
  cases failed

theorem ErrorsReported.error {α : Type} {h : AuthHistory} {e : AuthError}
    (reported : Reported h e) : ErrorsReported h (.error e : AuthResult α) := by
  intro e' failed
  cases failed
  exact reported

theorem Reported.answered {h : AuthHistory} {event : AuthEvent} {e : AuthError}
    (answered : errorOf event = some e) : Reported (event :: h) e :=
  .inl ⟨event, List.mem_cons_self, answered⟩

/-- No operation answered with an error. -/
def NoErrors (h : AuthHistory) : Prop := ∀ event ∈ h, errorOf event = none

theorem NoErrors.nil : NoErrors [] := by
  intro event mem
  cases mem

theorem NoErrors.cons {h : AuthHistory} {event : AuthEvent} (silent : errorOf event = none)
    (quiet : NoErrors h) : NoErrors (event :: h) := by
  intro event' mem
  rcases List.mem_cons.mp mem with rfl | mem
  · exact silent
  · exact quiet event' mem

/-- An operation that answered with an error ended the program, with that error. -/
def Surfaces {α : Type} (h : AuthHistory) (result : AuthResult α) : Prop :=
  ∀ event ∈ h, ∀ e, errorOf event = some e → result = .error e

abbrev SurfacesFrom {α : Type} (h : AuthHistory) (p : AuthM α) : Prop :=
  Upholds (S := authSignature) (Unlicensed authSignature) Surfaces h p

section Surfacing

variable {α β : Type} {h : AuthHistory}

theorem Surfaces.of_quiet {result : AuthResult α} (quiet : NoErrors h) : Surfaces h result := by
  intro event mem e reported
  cases (quiet event mem).symm.trans reported

theorem Surfaces.quiet {value : α} (surfaces : Surfaces h (.ok value : AuthResult α)) :
    NoErrors h := by
  intro event mem
  cases reported : errorOf event with
  | none => rfl
  | some e => cases surfaces event mem e reported

theorem Surfaces.answered {event : AuthEvent} {e : AuthError} (quiet : NoErrors h)
    (reported : errorOf event = some e) : Surfaces (event :: h) (.error e : AuthResult α) := by
  intro event' mem e' reported'
  rcases List.mem_cons.mp mem with rfl | mem
  · cases reported.symm.trans reported'
    rfl
  · cases (quiet event' mem).symm.trans reported'

theorem SurfacesFrom.bind {p : AuthM α} {f : α → AuthM β} (first : SurfacesFrom h p)
    (second : ∀ {h value}, NoErrors h → SurfacesFrom h (f value)) :
    SurfacesFrom h (p >>= f : AuthM β) := by
  apply Fallible.Upholds.bind
  refine first.mono (fun _ _ hg => hg) ?_
  rintro h (e | value) surfaces
  · intro event mem e' reported
    cases surfaces event mem e' reported
    rfl
  · exact second surfaces.quiet

theorem SurfacesFrom.lift {result : AuthResult α} (quiet : NoErrors h) :
    SurfacesFrom h (ret result : AuthM α) :=
  Surfaces.of_quiet quiet

theorem SurfacesFrom.perform {op : AuthOp} (silent : ∀ resp, errorOf ⟨op, resp⟩ = none)
    (quiet : NoErrors h) : SurfacesFrom h (Fallible.perform (S := authSignature) op) :=
  ⟨trivial, fun resp => Surfaces.of_quiet (quiet.cons (silent resp))⟩

end Surfacing

theorem Overflowed.isInternal {e : AuthError} (overflowed : Overflowed e) :
    e.isInternal = true := by
  obtain ⟨operation, rfl⟩ := overflowed
  rfl

section Phases

variable {policy : AuthRateLimitPolicy} {now : OffsetDateTime} {h : AuthHistory}

abbrev ReportsErrors {α : Type} (h : AuthHistory) (p : AuthM α) : Prop :=
  Upholds (S := authSignature) (Unlicensed authSignature) ErrorsReported h p

theorem scanRateLimits_reads (keys : List AuthRateLimitKey) (scan : RateLimitScan) :
    Issues (S := authSignature) (fun op => admissionOp op = true) (scanRateLimits now scan keys) := by
  induction keys generalizing scan with
  | nil => trivial
  | cons key keys ih => exact Fallible.Issues.bind ⟨rfl, fun _ => trivial⟩ fun snapshot => ih _

theorem rejectIfRateLimited_reads (keys : List AuthRateLimitKey) :
    Issues (S := authSignature) (fun op => admissionOp op = true)
      (rejectIfRateLimited policy keys) := by
  refine Fallible.Issues.branch trivial ?_
  refine Fallible.Issues.bind ⟨rfl, fun _ => trivial⟩ fun now => ?_
  exact Fallible.Issues.bind (scanRateLimits_reads keys _) fun scan => trivial

/-- The scan remembers one observation for each key. -/
theorem scanRateLimits_observes (keys : List AuthRateLimitKey) :
    ∀ {scan : RateLimitScan} {h : AuthHistory},
      Upholds (S := authSignature) (Unlicensed authSignature)
        (fun h result => ErrorsReported h result ∧ ∀ scan', result = .ok scan' →
          scan'.observations.map (·.key) = scan.observations.map (·.key) ++ keys) h
        (scanRateLimits now scan keys) := by
  induction keys with
  | nil =>
      intro scan h
      refine ⟨.ok, ?_⟩
      rintro _ ⟨⟩
      rw [List.append_nil]
  | cons key keys ih =>
      intro scan h
      apply Fallible.Upholds.bind
      apply Upholds.await trivial
      intro resp
      rcases resp with e | current
      · refine ⟨.error (.answered rfl), ?_⟩
        rintro _ ⟨⟩
      · apply Fallible.Upholds.resume
        refine ih.mono (fun _ _ hg => hg) ?_
        rintro h result ⟨reported, observed⟩
        refine ⟨reported, fun scan' returned => ?_⟩
        rw [observed scan' returned, RateLimitScan.observe_observations]
        simp

/-- What the admission check did to reach its result. -/
structure AdmissionCheck (policy : AuthRateLimitPolicy) (keys : List AuthRateLimitKey)
    (h : AuthHistory) (result : AuthResult RateLimitPermit) : Prop where
  only : Only admissionOp h
  failed : ∀ e, result = .error e →
    Reported h e ∨ ∃ seconds, e = .authLocked seconds ∨ e = .authThrottled seconds
  observed : ∀ permit, result = .ok permit → permit.map (·.key) = countedKeys policy keys

theorem RateLimitScan.decide_error {scan : RateLimitScan} {e : AuthError}
    (rejected : scan.decide now = .error e) :
    ∃ seconds, e = .authLocked seconds ∨ e = .authThrottled seconds := by
  unfold RateLimitScan.decide at rejected
  split at rejected
  · cases rejected
    exact ⟨_, .inl rfl⟩
  · split at rejected
    · cases rejected
      exact ⟨_, .inr rfl⟩
    · cases rejected

theorem RateLimitScan.decide_ok {scan : RateLimitScan} {permit : RateLimitPermit}
    (admitted : scan.decide now = .ok permit) : permit = scan.observations := by
  unfold RateLimitScan.decide at admitted
  split at admitted
  · cases admitted
  · split at admitted
    · cases admitted
    · cases admitted
      rfl

theorem rejectIfRateLimited_checks (keys : List AuthRateLimitKey) :
    Upholds (S := authSignature) (Unlicensed authSignature) (AdmissionCheck policy keys) []
      (rejectIfRateLimited policy keys) := by
  have decided : Upholds (S := authSignature) (Unlicensed authSignature)
      (fun h result => (∀ e, result = .error e →
          Reported h e ∨ ∃ seconds, e = .authLocked seconds ∨ e = .authThrottled seconds) ∧
        ∀ permit, result = .ok permit → permit.map (·.key) = countedKeys policy keys) []
      (rejectIfRateLimited policy keys) := by
    apply Fallible.Upholds.branch
    · intro idle
      refine ⟨?_, ?_⟩
      · rintro _ ⟨⟩
      · rintro _ ⟨⟩
        rw [countedKeys_idle idle, List.map_nil]
    · intro active
      rw [countedKeys_enabled active]
      apply Fallible.Upholds.perform_bind trivial
      intro now
      apply Fallible.Upholds.bind
      refine (scanRateLimits_observes keys).mono (fun _ _ hg => hg) ?_
      rintro h (e | scan) ⟨reported, observed⟩
      · refine ⟨?_, ?_⟩
        · rintro _ ⟨⟩
          exact .inl (reported e rfl)
        · rintro _ ⟨⟩
      · refine ⟨fun e rejected => .inr (RateLimitScan.decide_error rejected), ?_⟩
        intro permit admitted
        rw [RateLimitScan.decide_ok admitted, observed scan rfl]
        rfl
  refine ((rejectIfRateLimited_reads keys).upholds_only.and decided).mono (fun _ _ _ => trivial) ?_
  rintro h result ⟨only, failed, observed⟩
  exact ⟨only, failed, observed⟩

theorem recordRateLimitAttemptForKeyWithin_issues (key : AuthRateLimitKey) (enforced : Bool)
    (retries : Nat) :
    Issues (S := authSignature) (fun op => recordingOp op = true)
      (recordRateLimitAttemptForKeyWithin policy key now enforced retries) := by
  induction retries with
  | zero => trivial
  | succ retries ih =>
      refine Fallible.Issues.bind ⟨rfl, fun _ => trivial⟩ fun current => ?_
      refine Fallible.Issues.branch trivial ?_
      refine Fallible.Issues.bind trivial fun next => ?_
      refine Fallible.Issues.bind ⟨rfl, fun _ => trivial⟩ fun revision => ?_
      refine Fallible.Issues.bind ⟨rfl, fun _ => trivial⟩ fun committed => ?_
      exact Fallible.Issues.branch trivial ih

theorem recordAttempts_issues (keys : List AuthRateLimitKey) :
    Issues (S := authSignature) (fun op => recordingOp op = true)
      (recordAttempts policy now keys) := by
  induction keys with
  | nil => trivial
  | cons key keys ih =>
      refine Fallible.Issues.bind (recordRateLimitAttemptForKeyWithin_issues key false _) ?_
      rintro (_ | _)
      · exact ih
      · trivial

theorem recordRateLimitAttempt_issues (keys : List AuthRateLimitKey) :
    Issues (S := authSignature) (fun op => recordingOp op = true)
      (recordRateLimitAttempt policy keys) := by
  refine Fallible.Issues.branch trivial ?_
  exact Fallible.Issues.bind ⟨rfl, fun _ => trivial⟩ fun now => recordAttempts_issues keys

theorem recordRateLimitAttemptForKeyWithin_reports (key : AuthRateLimitKey) (enforced : Bool)
    (retries : Nat) :
    ∀ {h : AuthHistory},
      ReportsErrors h (recordRateLimitAttemptForKeyWithin policy key now enforced retries) := by
  induction retries with
  | zero =>
      intro h
      exact ErrorsReported.error (.inr rfl)
  | succ retries ih =>
      intro h
      apply Fallible.Upholds.bind
      apply Upholds.await trivial
      intro resp
      rcases resp with e | current
      · exact ErrorsReported.error (.answered rfl)
      · apply Fallible.Upholds.branch
        · intro _
          exact ErrorsReported.ok
        · intro _
          apply Fallible.Upholds.lift_bind
          · intro next _
            apply Fallible.Upholds.perform_bind trivial
            intro revision
            apply Fallible.Upholds.bind
            apply Upholds.await trivial
            intro resp
            rcases resp with e | _ | _
            · exact ErrorsReported.error (.answered rfl)
            · exact ih
            · exact ErrorsReported.ok
          · intro e failed
            exact ErrorsReported.error (.inr (nextRateLimitState_error failed).isInternal)

theorem recordAttempts_reports (keys : List AuthRateLimitKey) :
    ∀ {h : AuthHistory}, ReportsErrors h (recordAttempts policy now keys) := by
  induction keys with
  | nil =>
      intro h
      exact ErrorsReported.ok
  | cons key keys ih =>
      intro h
      apply Fallible.Upholds.bind
      refine (recordRateLimitAttemptForKeyWithin_reports key false _).mono (fun _ _ hg => hg) ?_
      rintro h (e | _ | _) reported
      · exact ErrorsReported.error (reported e rfl)
      · exact ih
      · exact ErrorsReported.error (.inr rfl)

theorem recordRateLimitAttempt_reports (keys : List AuthRateLimitKey) :
    ReportsErrors h (recordRateLimitAttempt policy keys) := by
  apply Fallible.Upholds.branch
  · intro _
    exact ErrorsReported.ok
  · intro _
    apply Fallible.Upholds.perform_bind trivial
    intro now
    exact recordAttempts_reports keys

/-- What recording a failure did to reach its result. -/
structure FailureRecording (policy : AuthRateLimitPolicy) (keys : List AuthRateLimitKey)
    (h : AuthHistory) (result : AuthResult Unit) : Prop where
  only : Only recordingOp h
  failed : ErrorsReported h result
  counted : result = .ok () → committedKeys h = countedKeys policy keys

theorem recordRateLimitAttempt_records (keys : List AuthRateLimitKey) :
    Upholds (S := authSignature) (Unlicensed authSignature) (FailureRecording policy keys) []
      (recordRateLimitAttempt policy keys) := by
  refine (((recordRateLimitAttempt_issues keys).upholds_only.and
    (recordRateLimitAttempt_reports keys)).and (recordRateLimitAttempt_upholds rfl)).mono
      (fun _ _ _ => trivial) ?_
  rintro h result ⟨⟨only, failed⟩, counted⟩
  refine ⟨only, failed, fun returned => ?_⟩
  rwa [if_pos returned] at counted

/-- What clearing a permit did to reach its result. -/
structure CounterClearing (policy : AuthRateLimitPolicy) (permit : RateLimitPermit)
    (h : AuthHistory) (result : AuthResult Unit) : Prop where
  only : Only clearingOp h
  failed : ErrorsReported h result
  idle : permit = [] → h = []
  asked : permit ≠ [] → policy.enabled = true → h ≠ []

theorem clearObservations_issues (permit : RateLimitPermit) :
    Issues (S := authSignature) (fun op => clearingOp op = true) (clearObservations permit) := by
  induction permit with
  | nil => trivial
  | cons observation permit ih => exact Fallible.Issues.bind ⟨rfl, fun _ => trivial⟩ fun _ => ih

theorem clearObservations_reports (permit : RateLimitPermit) :
    ∀ {h : AuthHistory}, ReportsErrors h (clearObservations permit) := by
  induction permit with
  | nil =>
      intro h
      exact ErrorsReported.ok
  | cons observation permit ih =>
      intro h
      apply Fallible.Upholds.bind
      apply Upholds.await trivial
      intro resp
      rcases resp with e | cleared
      · exact ErrorsReported.error (.answered rfl)
      · exact ih

theorem clearObservations_asks {permit : RateLimitPermit} (nonempty : permit ≠ []) :
    Upholds (S := authSignature) (Unlicensed authSignature) (fun h _ => h ≠ []) []
      (clearObservations permit) := by
  cases permit with
  | nil => exact absurd rfl nonempty
  | cons observation permit =>
      apply Fallible.Upholds.bind
      apply Upholds.await trivial
      intro resp
      rcases resp with e | cleared
      · exact List.cons_ne_nil _ _
      · apply Fallible.Upholds.resume
        refine (clearObservations_reports permit).suffix.mono (fun _ _ _ => trivial) ?_
        rintro h result ⟨longer, -⟩ rfl
        exact List.cons_ne_nil _ _ (List.suffix_nil.mp longer)

theorem clearRateLimitAttempts_clears (permit : RateLimitPermit) :
    Upholds (S := authSignature) (Unlicensed authSignature) (CounterClearing policy permit) []
      (clearRateLimitAttempts policy permit) := by
  apply Fallible.Upholds.branch
  · intro idle
    refine ⟨.nil, .ok, fun _ => rfl, fun nonempty enabled => ?_⟩
    simp [enabled, nonempty] at idle
  · intro active
    have nonempty : permit ≠ [] := by
      rintro rfl
      simp at active
    refine (((clearObservations_issues permit).upholds_only.and
      (clearObservations_reports permit)).and (clearObservations_asks nonempty)).mono
        (fun _ _ _ => trivial) ?_
    rintro h result ⟨⟨only, failed⟩, asked⟩
    exact ⟨only, failed, fun empty => absurd empty nonempty, fun _ _ => asked⟩

section Issuance

variable {svc : AuthService} {authUser : AuthUser} {metadata : ClientMetadata}

theorem providedAuthorizationRoles_surfaces (quiet : NoErrors h) :
    SurfacesFrom h (svc.providedAuthorizationRoles authUser) := by
  apply Fallible.Upholds.branch
  · intro _
    apply Fallible.Upholds.bind
    apply Upholds.await trivial
    intro resp
    rcases resp with e | additional
    · exact Surfaces.answered quiet rfl
    · exact Surfaces.of_quiet (quiet.cons rfl)
  · intro _
    exact SurfacesFrom.lift quiet

theorem issueAccessTokenWithUser_surfaces {issuedAt expiresAt : OffsetDateTime} (quiet : NoErrors h) :
    SurfacesFrom h (svc.issueAccessTokenWithUser authUser issuedAt expiresAt) := by
  refine SurfacesFrom.bind ?_ fun quiet => SurfacesFrom.bind (.lift quiet) fun quiet => .lift quiet
  unfold AuthService.accessTokenId
  split
  · exact SurfacesFrom.lift quiet
  · exact SurfacesFrom.bind (.perform (fun _ => rfl) quiet) fun quiet => .lift quiet

theorem issueTokensOnly_surfaces {sessionFamilyId : Uuid} {grantSource : RefreshGrantSource}
    {ceiling : Option (List String)} (quiet : NoErrors h) :
    SurfacesFrom h
      (svc.issueTokensOnly authUser sessionFamilyId metadata now grantSource ceiling) := by
  refine SurfacesFrom.bind (providedAuthorizationRoles_surfaces quiet) fun quiet => ?_
  refine SurfacesFrom.bind (.lift quiet) fun quiet => ?_
  refine SurfacesFrom.bind (issueAccessTokenWithUser_surfaces quiet) fun quiet => ?_
  refine SurfacesFrom.bind (.perform (fun _ => rfl) quiet) fun quiet => ?_
  refine SurfacesFrom.bind (.lift quiet) fun quiet => ?_
  exact SurfacesFrom.bind (.perform (fun _ => rfl) quiet) fun quiet => .lift quiet

theorem issueAuthPayload_surfaces {sessionFamilyId : Uuid} {grantSource : RefreshGrantSource}
    (quiet : NoErrors h) :
    SurfacesFrom h (svc.issueAuthPayload authUser sessionFamilyId metadata grantSource) := by
  refine SurfacesFrom.bind (.perform (fun _ => rfl) quiet) fun quiet => ?_
  refine SurfacesFrom.bind (issueTokensOnly_surfaces quiet) fun quiet => ?_
  refine SurfacesFrom.bind ?_ fun quiet => .lift quiet
  apply Upholds.await trivial
  intro resp
  rcases resp with e | _
  · exact Surfaces.answered quiet rfl
  · exact Surfaces.of_quiet (quiet.cons rfl)

end Issuance

end Phases

end AgqlAuth
