import AgqlAuth.Service.RateLimit

/-!
# One counted attempt

What a successful `next_rate_limit_state` has computed, part by part.
-/

namespace AgqlAuth

variable {key : AuthRateLimitKey} {current : Option AuthRateLimitState}
variable {policy : AuthRateLimitPolicy} {now : OffsetDateTime}
variable {next : AuthRateLimitState}

theorem checkedRateLimitTimeAdd_ok {value sum : OffsetDateTime} {duration : Duration}
    {operation : String} (added : checkedRateLimitTimeAdd value duration operation = .ok sum) :
    sum.unixNanos = value.unixNanos + duration.nanos := by
  unfold checkedRateLimitTimeAdd at added
  split at added
  · rename_i result
    cases added
    exact OffsetDateTime.checkedAdd_eq_some result
  · cases added

/-- The parts of a state that counted one more attempt at `now`. -/
structure Counted (key : AuthRateLimitKey) (current : Option AuthRateLimitState)
    (policy : AuthRateLimitPolicy) (now : OffsetDateTime) (next : AuthRateLimitState) : Prop where
  key : next.key = key
  last : next.lastAttemptAt = now
  count : ∃ resetWindow, resetsWindow current policy now = .ok resetWindow ∧
    next.attempts = (countAttempt current resetWindow now).1 ∧
    next.firstAttemptAt = (countAttempt current resetWindow now).2
  restricted : restrictions policy next.attempts now = .ok (next.backoffUntil, next.lockedUntil)
  expiry : stateExpiry policy next.firstAttemptAt now next.backoffUntil next.lockedUntil =
    .ok next.expiresAt

theorem counted_of_nextRateLimitState (computed : nextRateLimitState key current policy now = .ok next) :
    Counted key current policy now next := by
  obtain ⟨resetWindow, window, computed⟩ := Except.exists_of_bind_eq_ok computed
  obtain ⟨until_, restricted, computed⟩ := Except.exists_of_bind_eq_ok computed
  obtain ⟨expiresAt, expiry, computed⟩ := Except.exists_of_bind_eq_ok computed
  cases computed
  exact ⟨rfl, rfl, ⟨resetWindow, window, rfl, rfl⟩, restricted, expiry⟩

theorem le_maxTime (current : OffsetDateTime) (candidate : OffsetDateTime) :
    current ≤ maxTime (some current) candidate ∧ candidate ≤ maxTime (some current) candidate := by
  unfold maxTime
  dsimp only
  split
  · exact ⟨le_rfl, ‹_›⟩
  · rename_i later
    exact ⟨(not_le.mp later).le, le_rfl⟩

/-- A state outlives every restriction it carries. -/
theorem stateExpiry_ge {firstAttemptAt expiresAt : OffsetDateTime}
    {backoffUntil lockedUntil : Option OffsetDateTime}
    (expiry : stateExpiry policy firstAttemptAt now backoffUntil lockedUntil = .ok expiresAt) :
    (∀ until_ ∈ backoffUntil, until_ ≤ expiresAt) ∧ ∀ until_ ∈ lockedUntil, until_ ≤ expiresAt := by
  obtain ⟨ttlEnd, -, expiry⟩ := Except.exists_of_bind_eq_ok expiry
  obtain ⟨windowEnd, -, expiry⟩ := Except.exists_of_bind_eq_ok expiry
  cases expiry
  cases backoffUntil with
  | none =>
      cases lockedUntil with
      | none => simp
      | some locked => simpa using (le_maxTime _ locked).2
  | some backoff =>
      cases lockedUntil with
      | none => simpa using (le_maxTime _ backoff).2
      | some locked =>
          refine ⟨?_, by simpa using (le_maxTime _ locked).2⟩
          rintro _ ⟨⟩
          exact (le_maxTime _ backoff).2.trans (le_maxTime _ locked).1

/-- A state is locked exactly when its count has reached the limit. -/
theorem Counted.locked (counted : Counted key current policy now next) :
    if policy.maxAttemptsBeforeLockout ≤ next.attempts then
      ∃ until_, next.lockedUntil = some until_ ∧
        until_.unixNanos = now.unixNanos + policy.lockoutDuration.nanos
    else next.lockedUntil = none := by
  have restricted := counted.restricted
  unfold restrictions at restricted
  split at restricted
  · rename_i reached
    rw [if_pos reached]
    split at restricted
    · cases restricted
    · rename_i until_ added
      obtain ⟨-, locked⟩ := Prod.mk.inj (Except.ok.inj restricted)
      exact ⟨until_, locked.symm, checkedRateLimitTimeAdd_ok added⟩
  · rename_i below
    rw [if_neg below]
    split at restricted
    · split at restricted
      · cases restricted
      · exact (Prod.mk.inj (Except.ok.inj restricted)).2.symm
    · exact (Prod.mk.inj (Except.ok.inj restricted)).2.symm

theorem Counted.of_locked (counted : Counted key current policy now next)
    {until_ : OffsetDateTime} (locked : next.lockedUntil = some until_) :
    policy.maxAttemptsBeforeLockout ≤ next.attempts ∧
      until_.unixNanos = now.unixNanos + policy.lockoutDuration.nanos := by
  have facts := counted.locked
  split at facts
  · rename_i reached
    obtain ⟨until', locked', sum⟩ := facts
    cases locked.symm.trans locked'
    exact ⟨reached, sum⟩
  · cases facts.symm.trans locked

/-- The window of a state is still open at `now`. -/
def windowOpen (policy : AuthRateLimitPolicy) (state : AuthRateLimitState) (now : OffsetDateTime) :
    Prop :=
  now.unixNanos < state.firstAttemptAt.unixNanos + policy.window.nanos

/-- Before a state expires, only the end of its window starts a new count. -/
theorem Counted.attempts_eq {state : AuthRateLimitState}
    (counted : Counted key (some state) policy now next) (unexpired : now < state.expiresAt) :
    (windowOpen policy state now ∧ next.attempts = min (state.attempts + 1) maxU32) ∨
      (¬ windowOpen policy state now ∧ next.attempts = 1) := by
  obtain ⟨resetWindow, window, attempts, -⟩ := counted.count
  unfold resetsWindow at window
  simp only [not_le.mpr unexpired, if_false] at window
  split at window
  · cases window
  · rename_i windowEnd added
    have sum := checkedRateLimitTimeAdd_ok added
    have decided := Except.ok.inj window
    unfold windowOpen
    cases resetWindow with
    | false =>
        have earlier : ¬ windowEnd ≤ now := of_decide_eq_false decided
        rw [OffsetDateTime.le_iff, sum] at earlier
        exact .inl ⟨not_le.mp earlier, attempts⟩
    | true =>
        have later : windowEnd ≤ now := of_decide_eq_true decided
        rw [OffsetDateTime.le_iff, sum] at later
        exact .inr ⟨not_lt.mpr later, attempts⟩

end AgqlAuth
