import AgqlAuth.Refresh.Calls
import AgqlAuth.Service.Challenge

/-!
# What one challenge verification guarantees

Under arbitrary answers a verification starts at most one code check, only after
its own admission and against the admitted hash; it consumes only after that
check succeeded, and succeeds only after it consumed, before the expiry.
-/

namespace AgqlAuth

open Interaction Program

section Events

/-- The store admitted an attempt and showed `reserved`. -/
def admittedAttempt (challengeId : Uuid) (attemptedAt : OffsetDateTime)
    (reserved : StoredLoginChallenge) : ChallengeEvent :=
  ⟨.inr (.reserveLoginChallengeAttempt challengeId attemptedAt),
    (.ok reserved : AuthResult StoredLoginChallenge)⟩

/-- The code was verified against the hash. -/
def verifiedCode (code codeHash : String) : ChallengeEvent :=
  ⟨.inl (.verifyPassword code codeHash), (.ok () : AuthResult Unit)⟩

def consumedChallenge (challengeId : Uuid) (consumedAt : OffsetDateTime) : ChallengeEvent :=
  ⟨.inr (.consumeLoginChallenge challengeId consumedAt), (.ok true : AuthResult Bool)⟩

/-- Whether the operation starts to verify a code. -/
def startsVerification : challengeSignature.Op → Bool
  | .inl (.verifyPassword ..) => true
  | _ => false

end Events

/-- No verification was started yet. -/
def Unstarted (h : ChallengeHistory) : Prop := ∀ e ∈ h, startsVerification e.op = false

theorem Unstarted.nil : Unstarted [] := by
  intro e mem
  cases mem

theorem Unstarted.cons {e : ChallengeEvent} {h : ChallengeHistory}
    (other : startsVerification e.op = false) (unstarted : Unstarted h) : Unstarted (e :: h) := by
  intro e' mem
  rcases List.mem_cons.mp mem with rfl | mem
  · exact other
  · exact unstarted e' mem

theorem Unstarted.append {late h : ChallengeHistory} (later : Unstarted late)
    (unstarted : Unstarted h) : Unstarted (late ++ h) := by
  intro e mem
  rcases List.mem_append.mp mem with mem | mem
  · exact later e mem
  · exact unstarted e mem

/-- The operations a verification of `challengeId` with `code` may issue. -/
def verificationGuard (challengeId : Uuid) (code : String) (h : ChallengeHistory) :
    challengeSignature.Op → Prop
  | .inl (.verifyPassword password codeHash) =>
      Unstarted h ∧ password = code ∧ ∃ attemptedAt reserved,
        admittedAttempt challengeId attemptedAt reserved ∈ h ∧ codeHash = reserved.codeHash
  | .inr (.insertLoginChallenge _) => False
  | .inr (.reserveLoginChallengeAttempt reservedId _) => reservedId = challengeId
  | .inr (.consumeLoginChallenge consumedId consumedAt) =>
      consumedId = challengeId ∧ ∃ attemptedAt reserved,
        admittedAttempt challengeId attemptedAt reserved ∈ h ∧
          verifiedCode code reserved.codeHash ∈ h ∧ consumedAt < reserved.expiresAt
  | _ => True

/-- What a call that returns `verified` has done. -/
structure VerifiedBy (challengeId : Uuid) (code : String) (h : ChallengeHistory)
    (reserved : StoredLoginChallenge) (verified : VerifiedLoginChallenge) : Prop where
  admitted : ∃ attemptedAt, admittedAttempt challengeId attemptedAt reserved ∈ h
  checked : verifiedCode code reserved.codeHash ∈ h
  consumed : ∃ consumedAt, consumedChallenge challengeId consumedAt ∈ h
  unexpired : verified.verifiedAt < reserved.expiresAt
  challengeId : verified.challengeId = challengeId
  principal : verified.principal = reserved.principal
  channel : verified.channel = reserved.channel

def verificationPost (challengeId : Uuid) (code : String) (h : ChallengeHistory) :
    AuthResult VerifiedLoginChallenge → Prop
  | .ok verified => ∃ reserved, VerifiedBy challengeId code h reserved verified
  | .error _ => True

section Verified

variable {svc : AuthService} {challengeId : Uuid} {code : String} {h : ChallengeHistory}
variable {rateLimitKeys : List AuthRateLimitKey} {rateLimitPermit : RateLimitPermit}
variable {reserved : StoredLoginChallenge}

abbrev Verifies (challengeId : Uuid) (code : String) (h : ChallengeHistory)
    (p : ChallengeM VerifiedLoginChallenge) : Prop :=
  Upholds (S := challengeSignature) (verificationGuard challengeId code)
    (verificationPost challengeId code) h p

/-- Rate limiting starts no verification and decides nothing about the challenge. -/
theorem rateLimiting_verifies {α : Type} {p : AuthM α} {f : α → ChallengeM VerifiedLoginChallenge}
    (limiting : RateLimiting p)
    (next : ∀ late value, Unstarted late → Verifies challengeId code (late ++ h) (f value)) :
    Verifies challengeId code h (ChallengeM.auth p >>= f : ChallengeM VerifiedLoginChallenge) := by
  apply Fallible.Upholds.bind
  have issues : Issues (S := challengeSignature)
      (fun op => ∃ limited, op = .inl limited ∧ rateLimitOp limited = true)
      (ChallengeM.auth p) :=
    issues_inl (S := authSignature) limiting fun op limited => ⟨op, rfl, limited⟩
  apply issues.upholds
  · rintro h _ ⟨op, rfl, limited⟩
    cases op <;> trivial
  · intro late result only
    have unstarted : Unstarted late := by
      intro e mem
      obtain ⟨op, same, limited⟩ := only e mem
      rw [same]
      cases op <;> first | rfl | cases limited
    cases result with
    | ok value => exact next late value unstarted
    | error e => trivial

theorem rejectLoginCode_verifies (failure : AuthError) :
    Verifies challengeId code h (svc.rejectLoginCode rateLimitKeys failure) :=
  rateLimiting_verifies (recordRateLimitAttempt_rateLimiting ..) fun _ _ _ => trivial

theorem not_expired {challenge : StoredLoginChallenge} {now : OffsetDateTime}
    (unexpired : ¬challenge.isExpired now = true) : now < challenge.expiresAt := by
  simpa [StoredLoginChallenge.isExpired] using unexpired

theorem consumeVerifiedChallenge_verifies (attemptedAt : OffsetDateTime)
    {verifiedAt : OffsetDateTime}
    (admitted : admittedAttempt challengeId attemptedAt reserved ∈ h)
    (checked : verifiedCode code reserved.codeHash ∈ h)
    (unexpired : verifiedAt < reserved.expiresAt) :
    Verifies challengeId code h
      (svc.consumeVerifiedChallenge challengeId rateLimitKeys rateLimitPermit reserved
        verifiedAt) := by
  apply Fallible.Upholds.bind
  apply Upholds.await
  · exact ⟨rfl, attemptedAt, reserved, admitted, checked, unexpired⟩
  · intro resp
    cases resp with
    | error e => trivial
    | ok consumed =>
        apply Fallible.Upholds.resume
        apply Fallible.Upholds.perform_bind trivial
        intro now
        apply Fallible.Upholds.branch
        · intro _
          trivial
        · intro _
          cases consumed with
          | false => exact rejectLoginCode_verifies .loginChallengeReplayed
          | true =>
              apply rateLimiting_verifies (clearRateLimitAttempts_rateLimiting ..)
              intro late _ _
              apply Fallible.Upholds.perform_bind trivial
              intro verifiedAgain
              apply Fallible.Upholds.branch
              · intro _
                trivial
              · intro still
                refine ⟨reserved, ⟨attemptedAt, ?_⟩, ?_, ⟨verifiedAt, ?_⟩, not_expired still, rfl,
                  rfl, rfl⟩
                · simp [admitted]
                · simp [checked]
                · simp [consumedChallenge]

/-- The part of a verification after the password job, whatever the job answered. -/
def settleVerification (svc : AuthService) (challengeId : Uuid)
    (rateLimitKeys : List AuthRateLimitKey) (rateLimitPermit : RateLimitPermit)
    (reserved : StoredLoginChallenge) (verified : AuthResult Unit) :
    ChallengeM VerifiedLoginChallenge := do
  let verifiedAt ← ChallengeM.now
  if reserved.isExpired verifiedAt then ChallengeM.fail .loginChallengeExpired
  else
    match verified with
    | .error .authServiceUnavailable => ChallengeM.fail .authServiceUnavailable
    | .error .loginChallengeExpired => ChallengeM.fail .loginChallengeExpired
    | .error _ =>
        svc.rejectLoginCode rateLimitKeys
          (if reserved.maxAttempts ≤ reserved.attempts then
            .loginChallengeAttemptsExhausted else .invalidLoginCode)
    | .ok () =>
        svc.consumeVerifiedChallenge challengeId rateLimitKeys rateLimitPermit reserved verifiedAt

theorem settleVerification_verifies (attemptedAt : OffsetDateTime)
    (admitted : admittedAttempt challengeId attemptedAt reserved ∈ h) (late : ChallengeHistory)
    (verified : AuthResult Unit)
    (checked : verified = .ok () → verifiedCode code reserved.codeHash ∈ late) :
    Verifies challengeId code (late ++ h)
      (settleVerification svc challengeId rateLimitKeys rateLimitPermit reserved verified) := by
  apply Fallible.Upholds.perform_bind trivial
  intro verifiedAt
  apply Fallible.Upholds.branch
  · intro _
    trivial
  · intro still
    rcases verified with e | ⟨⟩
    · cases e with
      | authServiceUnavailable => trivial
      | loginChallengeExpired => trivial
      | _ => exact rejectLoginCode_verifies _
    · apply consumeVerifiedChallenge_verifies attemptedAt
      · simp [admitted]
      · simp [checked rfl]
      · exact not_expired still

theorem verifyReservedChallenge_verifies (attemptedAt : OffsetDateTime)
    (admitted : admittedAttempt challengeId attemptedAt reserved ∈ h) (unstarted : Unstarted h) :
    Verifies challengeId code h
      (svc.verifyReservedChallenge challengeId code rateLimitKeys rateLimitPermit reserved) := by
  apply Fallible.Upholds.perform_bind trivial
  intro now
  apply Fallible.Upholds.branch
  · intro _
    trivial
  · intro _
    have continued : ∀ (late : ChallengeHistory) (verified : AuthResult Unit),
        (verified = .ok () → verifiedCode code reserved.codeHash ∈ late) →
        Verifies challengeId code (late ++ h)
          (settleVerification svc challengeId rateLimitKeys rateLimitPermit reserved verified) :=
      settleVerification_verifies attemptedAt admitted
    apply Fallible.Upholds.bind
    apply Fallible.Upholds.perform_bind trivial
    rintro (e | ⟨⟩)
    · exact continued [_, _] (.error e) nofun
    · apply Fallible.Upholds.perform_bind trivial
      intro started
      apply Fallible.Upholds.branch
      · intro _
        exact continued [_, _, _] (.error .loginChallengeExpired) nofun
      · intro _
        apply Upholds.await
        · refine ⟨?_, rfl, attemptedAt, reserved, ?_, rfl⟩
          · exact .cons rfl (.cons rfl (.cons rfl unstarted))
          · simp [admitted]
        · intro resp
          refine continued [_, _, _, _] resp ?_
          rintro rfl
          exact List.mem_cons_self

theorem verifyLoginChallenge_verifies (metadata : ClientMetadata) :
    Verifies challengeId code []
      (svc.verifyLoginChallengeWithMetadata challengeId code metadata) := by
  apply rateLimiting_verifies (rejectIfRateLimited_rateLimiting ..)
  intro late _ unstarted
  apply Fallible.Upholds.bind
  apply Upholds.await trivial
  intro resp
  have unstarted : Unstarted (⟨.inr (.findLoginChallenge challengeId), resp⟩ :: (late ++ [])) :=
    .cons rfl (unstarted.append .nil)
  rcases resp with e | _ | challenge
  · trivial
  · trivial
  · apply rateLimiting_verifies (rejectIfRateLimited_rateLimiting ..)
    intro later _ later_unstarted
    have unstarted := later_unstarted.append unstarted
    apply Fallible.Upholds.perform_bind trivial
    intro now
    refine Fallible.Upholds.branch (fun _ => trivial) fun _ =>
      Fallible.Upholds.branch (fun _ => trivial) fun _ =>
        Fallible.Upholds.branch (fun _ => trivial) fun _ => ?_
    apply Fallible.Upholds.perform_bind trivial
    intro attemptedAt
    apply Fallible.Upholds.bind
    apply Upholds.await rfl
    intro resp
    cases resp with
    | error e => trivial
    | ok reserved =>
        apply Fallible.Upholds.branch
        · intro _
          trivial
        · intro _
          apply verifyReservedChallenge_verifies attemptedAt
          · exact List.mem_cons_self
          · exact .cons rfl (.cons rfl (.cons rfl unstarted))

end Verified

end AgqlAuth
