import AgqlAuth.Assurance.Policy

/-!
# When recent MFA is satisfied

The ordered denials of a policy come down to one condition, and the deadline it
reports is the last instant at which that condition still holds.
-/

namespace AgqlAuth

namespace RecentMfaPolicy

/-- Some accepted method is on the AMR allowlist. -/
def AllowsMethods (self : RecentMfaPolicy) (assurance : SessionAssurance) : Prop :=
  ∃ method ∈ assurance.methods, method ∈ self.allowedAmr

/-- The accepted ACR is on the ACR allowlist. -/
def AllowsAcr (self : RecentMfaPolicy) (assurance : SessionAssurance) : Prop :=
  ∃ acr ∈ assurance.acr, acr ∈ self.allowedAcr

/-- The allowlists that are configured match, all of them or one of them. -/
def Allows (self : RecentMfaPolicy) (assurance : SessionAssurance) : Prop :=
  match self.matchMode with
  | .all =>
      (self.allowedAmr ≠ [] → self.AllowsMethods assurance) ∧
        (self.allowedAcr ≠ [] → self.AllowsAcr assurance)
  | .any =>
      self.allowedAmr = [] ∧ self.allowedAcr = [] ∨
        self.AllowsMethods assurance ∨ self.AllowsAcr assurance

/-- The claims of the token as the policy compares them with the session's assurance. -/
structure ClaimsAgree (user : AuthUser) (assurance : SessionAssurance) (authTime : OffsetDateTime) :
    Prop where
  claimed : user.tokenClaims.authTime.bind OffsetDateTime.fromUnixTimestamp = some authTime
  sameTime : authTime = assurance.authenticatedAt
  sameMethods : user.tokenClaims.amr = some assurance.methods
  sameAcr : user.tokenClaims.acr = assurance.acr

/-- `authTime` lies in `[now - maximum_age, now + clock_skew]`. -/
structure Recent (policy : RecentMfaPolicy) (authTime now : OffsetDateTime) : Prop where
  notOlder : now.unixNanos - policy.maximumAge.nanos ≤ authTime.unixNanos
  notLater : authTime.unixNanos ≤ now.unixNanos + policy.clockSkew.nanos

structure NonNegative (policy : RecentMfaPolicy) : Prop where
  maximumAge : 0 ≤ policy.maximumAge.nanos
  clockSkew : 0 ≤ policy.clockSkew.nanos

/-- The session's assurance meets everything but the token's claims and the clock. -/
structure AcceptsAssurance (policy : RecentMfaPolicy) (user : AuthUser)
    (assurance : SessionAssurance) : Prop where
  nonNegative : policy.NonNegative
  recorded : user.session.assurance = some assurance
  valid : assurance.validate = .ok ()
  accepted : assurance.mfa = .satisfied
  sessionAccepted : user.session.mfa.satisfied = true
  allowed : policy.Allows assurance

/-- All that makes recent MFA satisfied for `user` at `now`. -/
structure Accepts (policy : RecentMfaPolicy) (user : AuthUser) (now : OffsetDateTime)
    (assurance : SessionAssurance) (authTime : OffsetDateTime) : Prop where
  assured : policy.AcceptsAssurance user assurance
  agree : ClaimsAgree user assurance authTime
  recent : policy.Recent authTime now

/-- The three computed instants exist; the last one needs a claimed `auth_time`. -/
structure Representable (policy : RecentMfaPolicy) (user : AuthUser) (now : OffsetDateTime) :
    Prop where
  latest : (now.checkedAdd policy.clockSkew).isSome
  oldest : (now.checkedSub policy.maximumAge).isSome
  deadline : ∀ authTime, user.tokenClaims.authTime.bind OffsetDateTime.fromUnixTimestamp =
    some authTime → (authTime.checkedAdd policy.maximumAge).isSome

variable {policy : RecentMfaPolicy} {user : AuthUser} {assurance : SessionAssurance}

theorem amrMatches_iff : policy.amrMatches assurance = true ↔ policy.AllowsMethods assurance := by
  simp [amrMatches, AllowsMethods]

theorem acrMatches_iff : policy.acrMatches assurance = true ↔ policy.AllowsAcr assurance := by
  cases assurance with
  | mk _ _ acr _ _ => cases acr <;> simp [acrMatches, AllowsAcr]

theorem AllowsMethods.configured (allowed : policy.AllowsMethods assurance) :
    policy.allowedAmr ≠ [] := by
  obtain ⟨method, -, mem⟩ := allowed
  exact List.ne_nil_of_mem mem

theorem AllowsAcr.configured (allowed : policy.AllowsAcr assurance) : policy.allowedAcr ≠ [] := by
  obtain ⟨acr, -, mem⟩ := allowed
  exact List.ne_nil_of_mem mem

theorem allowlistsMatch_iff :
    policy.allowlistsMatch assurance = true ↔ policy.Allows assurance := by
  unfold allowlistsMatch Allows
  cases policy.matchMode with
  | all => simp [amrMatches_iff, acrMatches_iff, Classical.or_iff_not_imp_left]
  | any =>
      have methods := @AllowsMethods.configured policy assurance
      have acr := @AllowsAcr.configured policy assurance
      simp only [Bool.or_eq_true, Bool.and_eq_true, Bool.not_eq_true', List.isEmpty_eq_false_iff,
        Bool.not_eq_false', List.isEmpty_iff, amrMatches_iff, acrMatches_iff]
      tauto

theorem nonNegative_iff :
    policy.NonNegative ↔ ¬(policy.maximumAge < .zero ∨ policy.clockSkew < .zero) := by
  simp only [Duration.lt_iff, not_or, not_lt]
  exact ⟨fun both => ⟨both.maximumAge, both.clockSkew⟩, fun both => ⟨both.1, both.2⟩⟩

theorem acceptedAssurance_ok :
    policy.acceptedAssurance user = .ok assurance ↔ policy.AcceptsAssurance user assurance := by
  constructor
  · intro accepted
    unfold acceptedAssurance at accepted
    split at accepted
    case isTrue => cases accepted
    case isFalse nonNegative =>
      split at accepted
      case h_1 => cases accepted
      case h_2 known recorded =>
        split at accepted
        case h_1 => cases accepted
        case h_2 valid =>
          split at accepted
          case isTrue => cases accepted
          case isFalse mfa =>
            split at accepted
            case isTrue => cases accepted
            case isFalse allowed =>
              cases accepted
              rw [not_or, not_not, Bool.not_eq_false] at mfa
              rw [Bool.not_eq_false] at allowed
              exact {
                nonNegative := nonNegative_iff.mpr nonNegative
                recorded
                valid
                accepted := mfa.1
                sessionAccepted := mfa.2
                allowed := allowlistsMatch_iff.mp allowed }
  · intro accepted
    unfold acceptedAssurance
    rw [if_neg (nonNegative_iff.mp accepted.nonNegative)]
    simp [accepted.recorded, accepted.valid, accepted.accepted, accepted.sessionAccepted,
      allowlistsMatch_iff.mpr accepted.allowed]

theorem claimedTime_ok {authTime : OffsetDateTime} :
    claimedTime user assurance = .ok authTime ↔ ClaimsAgree user assurance authTime := by
  constructor
  · intro claimed
    unfold claimedTime at claimed
    split at claimed
    case h_1 => cases claimed
    case h_2 seconds present =>
      split at claimed
      case h_1 => cases claimed
      case h_2 time represented =>
        split at claimed
        case isTrue => cases claimed
        case isFalse agree =>
          cases claimed
          simp only [not_or, not_not] at agree
          obtain ⟨sameTime, sameMethods, sameAcr⟩ := agree
          exact {
            claimed := by rw [present]; exact represented
            sameTime
            sameMethods
            sameAcr }
  · intro agree
    obtain ⟨seconds, present, represented⟩ := Option.bind_eq_some_iff.mp agree.claimed
    simp [claimedTime, present, represented, agree.sameTime, agree.sameMethods, agree.sameAcr]

/-- The deadline of an `auth_time` that is recent; an older or later one has none. -/
theorem satisfiedUntil_ok {authTime now deadline : OffsetDateTime}
    (latest : (now.checkedAdd policy.clockSkew).isSome)
    (oldest : (now.checkedSub policy.maximumAge).isSome) :
    policy.satisfiedUntil authTime now = .ok deadline ↔
      policy.Recent authTime now ∧ authTime.checkedAdd policy.maximumAge = some deadline := by
  obtain ⟨last, last_eq⟩ := Option.isSome_iff_exists.mp latest
  obtain ⟨first, first_eq⟩ := Option.isSome_iff_exists.mp oldest
  have lastNanos := OffsetDateTime.checkedAdd_eq_some last_eq
  have firstNanos := OffsetDateTime.checkedSub_eq_some first_eq
  have recent_iff : policy.Recent authTime now ↔ ¬last < authTime ∧ ¬authTime < first := by
    simp only [OffsetDateTime.lt_iff, lastNanos, firstNanos, not_lt]
    exact ⟨fun recent => ⟨recent.notLater, recent.notOlder⟩, fun both => ⟨both.2, both.1⟩⟩
  unfold satisfiedUntil
  rw [last_eq, first_eq, recent_iff]
  by_cases later : last < authTime
  · simp [later]
  · by_cases older : authTime < first
    · simp [later, older]
    · cases authTime.checkedAdd policy.maximumAge <;> simp [later, older]

theorem evaluateAt_ok {now authTime deadline : OffsetDateTime}
    (representable : policy.Representable user now) :
    policy.evaluateAt user now = .ok (authTime, deadline) ↔
      (∃ assurance, policy.Accepts user now assurance authTime) ∧
        authTime.checkedAdd policy.maximumAge = some deadline := by
  have last_step := @satisfiedUntil_ok policy authTime now deadline representable.latest
    representable.oldest
  constructor
  · intro evaluated
    obtain ⟨assurance, assured, evaluated⟩ := Except.exists_of_bind_eq_ok evaluated
    obtain ⟨time, claimed, evaluated⟩ := Except.exists_of_bind_eq_ok evaluated
    obtain ⟨limit, satisfied, evaluated⟩ := Except.exists_of_bind_eq_ok evaluated
    cases evaluated
    obtain ⟨recent, added⟩ := last_step.mp satisfied
    exact ⟨⟨assurance, acceptedAssurance_ok.mp assured, claimedTime_ok.mp claimed, recent⟩, added⟩
  · rintro ⟨⟨assurance, accepts⟩, added⟩
    have satisfied := last_step.mpr ⟨accepts.recent, added⟩
    unfold evaluateAt
    rw [acceptedAssurance_ok.mpr accepts.assured]
    change (claimedTime user assurance >>= _) = _
    rw [claimedTime_ok.mpr accepts.agree]
    change (policy.satisfiedUntil authTime now >>= _) = _
    rw [satisfied]
    rfl

end RecentMfaPolicy

/--
`evaluate` decides by `policy`: it is satisfied exactly when the policy accepts the
user, and while time goes on it stays satisfied up to the deadline it reported.
-/
structure DecidesBy (policy : RecentMfaPolicy) (user : Option AuthUser)
    (evaluate : OffsetDateTime → AssuranceEvaluation) : Prop where
  satisfied_iff : ∀ now, (∀ session ∈ user, policy.Representable session now) →
    ((evaluate now).state = .satisfied ↔
      ∃ session assurance authTime,
        user = some session ∧ policy.Accepts session now assurance authTime)
  reported : ∀ now, (evaluate now).state = .satisfied →
    ∃ deadline, (evaluate now).satisfiedUntil = some deadline
  deadline_iff : ∀ now deadline, (∀ session ∈ user, policy.Representable session now) →
    (evaluate now).state = .satisfied → (evaluate now).satisfiedUntil = some deadline →
    ∀ later, now ≤ later → (∀ session ∈ user, policy.Representable session later) →
      ((evaluate later).state = .satisfied ↔ later ≤ deadline)

namespace RecentMfaPolicy

variable {policy : RecentMfaPolicy} {requirement : AssuranceRequirement} {now : OffsetDateTime}

/-- A satisfied evaluation comes from an `evaluate_at` that returned. -/
theorem evaluateRequirement_satisfied {user : Option AuthUser}
    (satisfied : (policy.evaluateRequirement requirement user now).state = .satisfied) :
    ∃ session authTime deadline, user = some session ∧
      policy.evaluateAt session now = .ok (authTime, deadline) ∧
      (policy.evaluateRequirement requirement user now).satisfiedUntil = some deadline := by
  cases user with
  | none => cases satisfied
  | some session =>
      cases evaluated : policy.evaluateAt session now with
      | ok times =>
          refine ⟨session, times.1, times.2, rfl, evaluated, ?_⟩
          simp [evaluateRequirement, evaluated]
      | error denial =>
          simp only [evaluateRequirement, evaluated] at satisfied
          split at satisfied <;> cases satisfied

theorem satisfied_of_evaluateAt {session : AuthUser} {authTime deadline : OffsetDateTime}
    (evaluated : policy.evaluateAt session now = .ok (authTime, deadline)) :
    (policy.evaluateRequirement requirement (some session) now).state = .satisfied := by
  simp [evaluateRequirement, evaluated]

theorem satisfied_iff_accepts {session : AuthUser}
    (representable : policy.Representable session now) :
    (policy.evaluateRequirement requirement (some session) now).state = .satisfied ↔
      ∃ assurance authTime, policy.Accepts session now assurance authTime := by
  constructor
  · intro satisfied
    obtain ⟨user, authTime, deadline, ⟨⟩, evaluated, -⟩ := evaluateRequirement_satisfied satisfied
    obtain ⟨⟨assurance, accepts⟩, -⟩ := (evaluateAt_ok representable).mp evaluated
    exact ⟨assurance, authTime, accepts⟩
  · rintro ⟨assurance, authTime, accepts⟩
    obtain ⟨deadline, added⟩ :=
      Option.isSome_iff_exists.mp (representable.deadline authTime accepts.agree.claimed)
    exact satisfied_of_evaluateAt
      ((evaluateAt_ok representable).mpr ⟨⟨assurance, accepts⟩, added⟩)

/-- The claimed `auth_time` is one value, so only the window moves with the clock. -/
theorem accepts_later_iff {session : AuthUser} {assurance : SessionAssurance}
    {authTime deadline later : OffsetDateTime}
    (accepts : policy.Accepts session now assurance authTime)
    (added : authTime.checkedAdd policy.maximumAge = some deadline) (after : now ≤ later) :
    (∃ known time, policy.Accepts session later known time) ↔ later ≤ deadline := by
  have deadlineNanos := OffsetDateTime.checkedAdd_eq_some added
  rw [OffsetDateTime.le_iff] at after ⊢
  constructor
  · rintro ⟨known, time, still⟩
    obtain rfl : time = authTime :=
      Option.some.inj (still.agree.claimed.symm.trans accepts.agree.claimed)
    have notOlder := still.recent.notOlder
    omega
  · intro inTime
    have notLater := accepts.recent.notLater
    exact ⟨assurance, authTime, accepts.assured, accepts.agree, by omega, by omega⟩

theorem evaluateRequirement_decides (policy : RecentMfaPolicy) (requirement : AssuranceRequirement)
    (user : Option AuthUser) :
    DecidesBy policy user (policy.evaluateRequirement requirement user) where
  satisfied_iff := by
    intro now representable
    cases user with
    | none => simp [evaluateRequirement]
    | some session => simpa using satisfied_iff_accepts (representable session rfl)
  reported := by
    intro now satisfied
    obtain ⟨-, -, deadline, -, -, reported⟩ := evaluateRequirement_satisfied satisfied
    exact ⟨deadline, reported⟩
  deadline_iff := by
    intro now deadline representable satisfied reported later after representableLater
    obtain ⟨session, authTime, limit, rfl, evaluated, limit_eq⟩ :=
      evaluateRequirement_satisfied satisfied
    obtain rfl : deadline = limit := Option.some.inj (reported.symm.trans limit_eq)
    obtain ⟨⟨assurance, accepts⟩, added⟩ :=
      (evaluateAt_ok (representable session rfl)).mp evaluated
    rw [satisfied_iff_accepts (representableLater session rfl)]
    exact accepts_later_iff accepts added after

end RecentMfaPolicy

namespace AssurancePolicySet

variable {policies : AssurancePolicySet} {requirement : AssuranceRequirement}
  {user : Option AuthUser}

theorem evaluate_of_get {policy : RecentMfaPolicy}
    (configured : policies.get requirement.policyId = some policy) :
    policies.evaluate requirement user = policy.evaluateRequirement requirement user := by
  funext now
  simp [evaluate, configured]

/-- An unknown policy fails closed. -/
theorem evaluate_of_missing (missing : policies.get requirement.policyId = none)
    (now : OffsetDateTime) :
    (policies.evaluate requirement user now).state = .forbidden .assurancePolicyError := by
  simp [evaluate, missing]

end AssurancePolicySet

/--
A policy, alone or looked up in a set, decides by its own condition; a set without
the policy satisfies nobody.
-/
theorem recent_mfa_decides (requirement : AssuranceRequirement) (user : Option AuthUser) :
    (∀ policy : RecentMfaPolicy,
      DecidesBy policy user (policy.evaluateRequirement requirement user)) ∧
    ∀ policies : AssurancePolicySet,
      (∀ policy, policies.get requirement.policyId = some policy →
        DecidesBy policy user (policies.evaluate requirement user)) ∧
      (policies.get requirement.policyId = none →
        ∀ now, (policies.evaluate requirement user now).state ≠ .satisfied) := by
  refine ⟨fun policy => policy.evaluateRequirement_decides requirement user, fun policies => ?_⟩
  constructor
  · intro policy configured
    rw [AssurancePolicySet.evaluate_of_get configured]
    exact policy.evaluateRequirement_decides requirement user
  · intro missing now satisfied
    rw [AssurancePolicySet.evaluate_of_missing missing] at satisfied
    cases satisfied

def recentRequirement : AssuranceRequirement := ⟨⟨"interactive.recent-auth", by decide⟩⟩

def recentPolicy : RecentMfaPolicy where
  maximumAge := .ofSeconds 300
  clockSkew := .ofSeconds 30
  allowedAmr := ["totp"]
  allowedAcr := []
  matchMode := .all

def recentPolicies : AssurancePolicySet :=
  (AssurancePolicySet.insert {} recentRequirement.policyId recentPolicy).1

def totpAssurance : SessionAssurance where
  authenticatedAt := .atSecond 60
  methods := ["pwd", "totp"]
  acr := none
  context := none
  mfa := .satisfied

def totpUser : AuthUser where
  userId := "ada"
  sessionId := ⟨7⟩
  roles := []
  scopes := []
  session := SessionContext.withAssurance {} totpAssurance
  tokenClaims := { authTime := some 60, amr := some ["pwd", "totp"] }

theorem totpUser_representable {now : OffsetDateTime}
    (latest : (now.checkedAdd recentPolicy.clockSkew).isSome)
    (oldest : (now.checkedSub recentPolicy.maximumAge).isSome) :
    ∀ session ∈ some totpUser, recentPolicy.Representable session now := by
  rintro session ⟨⟩
  refine ⟨latest, oldest, fun authTime claimed => ?_⟩
  obtain rfl : authTime = .atSecond 60 := Option.some.inj (claimed.symm.trans (by decide +kernel))
  decide +kernel

/-- Accepted at second 60, the user is let in until second 360. -/
theorem totpUser_decided :
    (recentPolicies.evaluate recentRequirement totpUser (.atSecond 100)).state = .satisfied ∧
      ((recentPolicies.evaluate recentRequirement totpUser (.atSecond 361)).state = .satisfied ↔
        OffsetDateTime.atSecond 361 ≤ .atSecond 360) := by
  have satisfied :
      (recentPolicies.evaluate recentRequirement totpUser (.atSecond 100)).state = .satisfied := by
    decide +kernel
  have decides := ((recent_mfa_decides recentRequirement (some totpUser)).2 recentPolicies).1
    recentPolicy rfl
  refine ⟨satisfied, ?_⟩
  exact decides.deadline_iff (.atSecond 100) (.atSecond 360)
    (totpUser_representable (by decide +kernel) (by decide +kernel)) satisfied (by decide +kernel)
    (.atSecond 361) (by decide +kernel)
    (totpUser_representable (by decide +kernel) (by decide +kernel))

end AgqlAuth
