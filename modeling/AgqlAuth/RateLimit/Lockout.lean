import AgqlAuth.RateLimit.Counters
import AgqlAuth.RateLimit.Transition

/-!
# Active lockouts

A failure that was admitted before a lock was set still counts after it.  The
lock survives it only while the counting window is open and if the failure's
clock reading is not behind the stored one.
-/

namespace AgqlAuth

open Interaction

variable {ι : Type} [DecidableEq ι]

/-- The next state is locked for at least as long. -/
def LockKept (until_ : OffsetDateTime) (next : AuthRateLimitState) : Prop :=
  ∃ later, next.lockedUntil = some later ∧ until_ ≤ later

/-- The condition on the stored state and the clock reading under which a lock survives. -/
def KeepsLock (policy : AuthRateLimitPolicy) (stored : AuthRateLimitState)
    (now : OffsetDateTime) : Prop :=
  (policy.maxAttemptsBeforeLockout = 1 ∨ windowOpen policy stored now) ∧
    stored.lastAttemptAt ≤ now

section Transition

variable {key : AuthRateLimitKey} {policy : AuthRateLimitPolicy} {now reading : OffsetDateTime}
variable {current : Option AuthRateLimitState} {stored next : AuthRateLimitState}
variable {until_ : OffsetDateTime}

theorem Counted.until_le_expiresAt (counted : Counted key current policy now next)
    (locked : next.lockedUntil = some until_) : until_ ≤ next.expiresAt :=
  (stateExpiry_ge counted.expiry).2 until_ locked

/-- Counting onto an active lock: exactly when the lock survives. -/
theorem lockKept_iff (valid : policy.Valid) (before : Counted key current policy reading stored)
    (locked : stored.lockedUntil = some until_) (active : now < until_)
    (counted : Counted key (some stored) policy now next) :
    LockKept until_ next ↔ KeepsLock policy stored now := by
  obtain ⟨reached, until_eq⟩ := before.of_locked locked
  have unexpired : now < stored.expiresAt := active.trans_le (before.until_le_expiresAt locked)
  have bound := policy.maxAttemptsBeforeLockout_le
  have positive := valid.maxAttempts_pos
  have facts := counted.locked
  have later_iff : ∀ later : OffsetDateTime,
      later.unixNanos = now.unixNanos + policy.lockoutDuration.nanos →
        (until_ ≤ later ↔ stored.lastAttemptAt ≤ now) := by
    intro later sum
    rw [OffsetDateTime.le_iff, OffsetDateTime.le_iff, before.last, until_eq, sum]
    omega
  have kept_iff : LockKept until_ next ↔
      policy.maxAttemptsBeforeLockout ≤ next.attempts ∧ stored.lastAttemptAt ≤ now := by
    split at facts
    · rename_i at_limit
      obtain ⟨later, relocked, sum⟩ := facts
      constructor
      · rintro ⟨later', relocked', ordered⟩
        cases relocked.symm.trans relocked'
        exact ⟨at_limit, (later_iff later sum).mp ordered⟩
      · rintro ⟨-, ordered⟩
        exact ⟨later, relocked, (later_iff later sum).mpr ordered⟩
    · rename_i below
      constructor
      · rintro ⟨later, relocked, -⟩
        cases facts.symm.trans relocked
      · rintro ⟨at_limit, -⟩
        exact absurd at_limit below
  rw [kept_iff]
  refine and_congr_left fun _ => ?_
  rcases counted.attempts_eq unexpired with ⟨opened, attempts⟩ | ⟨closed, attempts⟩
  · have at_limit : policy.maxAttemptsBeforeLockout ≤ next.attempts := by omega
    exact iff_of_true at_limit (.inr opened)
  · rw [attempts]
    constructor
    · intro at_limit
      exact .inl (by omega)
    · rintro (single | opened)
      · omega
      · exact absurd opened closed

end Transition

/--
Somewhere in a run a failure read at `now` was committed onto `stored`, locked
until a later time, and left `next`.
-/
structure LockedCommit (calls : RateLimitPool ι) (c : RateLimitConfig ι)
    (stored next : AuthRateLimitSnapshot) (now until_ : OffsetDateTime) : Prop where
  commits : ∃ late i key early,
    c.trace = late ++ (i, committedState key (some stored.revision) next) :: early ∧
    (calls.attempts key early).head?.map (·.snapshot) = some stored ∧
    rateClock (Trace.of i early) = some now
  locked : stored.state.lockedUntil = some until_
  active : now < until_

/--
In every run of calls under one enabled, accepted policy, a failure committed
onto an active lock keeps it for at least as long exactly if the policy locks at
the first attempt or the window is still open at the failure's clock reading,
and that reading is not earlier than the last one counted.
-/
theorem active_lockout_kept_iff {calls : RateLimitPool ι} {c : RateLimitConfig ι}
    {policy : AuthRateLimitPolicy} (name : String) (enabled : policy.enabled = true)
    (accepted : policy.validate name = .ok ()) (uniform : ∀ i, calls.policy i = policy)
    (reached : RateLimitReachable calls c) :
    ∀ stored next now until_, LockedCommit calls c stored next now until_ →
      (LockKept until_ next.state ↔ KeepsLock policy stored.state now) := by
  rintro stored next now until_ ⟨⟨late, i, key, early, share, onto, reading⟩, locked, active⟩
  have valid := AuthRateLimitPolicy.valid_of_validate enabled accepted
  obtain ⟨w, w', reached_before, edge, -, -⟩ := reached.split share
  have sound := rateLimitSound_of_reachable reached_before
  obtain ⟨current, now', computed, present⟩ := (rateLimit_step edge).computed sound rfl
  cases reading.symm.trans computed.clock
  obtain ⟨read, rfl, same⟩ := Option.map_eq_some_iff.mp computed.expected.symm
  obtain ⟨older, head, rfl⟩ := Option.map_eq_some_iff.mp onto
  obtain ⟨newest, head', rfl⟩ := Option.map_eq_some_iff.mp (sound.stored (present read rfl))
  cases head.symm.trans head'
  have mem := List.mem_of_head? head
  obtain ⟨before, reading', earlier⟩ := (lineage_of_reachable reached_before key).computed mem
  have older_policy : older.policy = policy := by
    obtain ⟨_, j, _, _, _, -, -, -, rfl⟩ := mem_attempts mem
    exact uniform j
  have counted_before := counted_of_nextRateLimitState earlier.computed
  have counted := counted_of_nextRateLimitState computed.computed
  rw [older_policy] at counted_before
  have own_policy : (calls.attempt early i ⟨key, some older.snapshot.revision, next⟩).policy =
    policy := uniform i
  rw [own_policy] at counted
  exact lockKept_iff valid counted_before locked active counted

/-- Two failures within a minute lock for five. -/
def briefWindow : AuthRateLimitPolicy where
  enabled := true
  window := .ofSeconds 60
  backoffAfterAttempts := 1
  maxAttemptsBeforeLockout := 2
  baseBackoff := .zero
  maxBackoff := .zero
  lockoutDuration := .ofSeconds 300
  stateTtl := .ofSeconds 3600
  backoffAfterAttempts_le := one_le_maxU32
  maxAttemptsBeforeLockout_le := by decide

/-- Failing logins for one principal. -/
def failingLogins : RateLimitPool Nat := fun _ =>
  (limitedService briefWindow, .credential .passwordLogin (some "ada") {} (.decided false))

/--
Login 2 is admitted first.  Logins 0 and 1 fail and set the lock, login 3 is
turned away by it, and then the failure of login 2 is counted.
-/
def lateFailureRun : Running (rateLimitHost 16384 (steadyClock 5)) failingLogins.program :=
  Running.start.schedule ([2, 2] ++ List.replicate 6 0 ++ List.replicate 6 1 ++ [3, 3] ++
    [2, 2, 2, 2])

theorem lateFailureRun_commit :
    ∃ stored next now until_, LockedCommit failingLogins lateFailureRun.config stored next now
      until_ ∧ next.state.lockedUntil = none :=
  ⟨_, _, _, _, ⟨⟨[], 2, _, _, rfl, rfl, rfl⟩, rfl, by decide⟩, rfl⟩

theorem lateFailureRun_lockKept_iff :
    ∃ stored next now until_, LockedCommit failingLogins lateFailureRun.config stored next now
      until_ ∧ (LockKept until_ next.state ↔ KeepsLock briefWindow stored.state now) := by
  obtain ⟨stored, next, now, until_, commit, -⟩ := lateFailureRun_commit
  exact ⟨stored, next, now, until_, commit, active_lockout_kept_iff "credential rate limit" rfl rfl
    (fun _ => rfl) lateFailureRun.reached stored next now until_ commit⟩

/-- The late failure of an accepted policy drops a lock that had minutes to run. -/
theorem active_lockout_dropped :
    briefWindow.enabled = true ∧ briefWindow.validate "credential rate limit" = .ok () ∧
      RateLimitReachable failingLogins lateFailureRun.config ∧
      ¬ ∀ stored next now until_, LockedCommit failingLogins lateFailureRun.config stored next now
        until_ → LockKept until_ next.state := by
  refine ⟨rfl, rfl, lateFailureRun.reached, fun kept => ?_⟩
  obtain ⟨stored, next, now, until_, commit, unlocked⟩ := lateFailureRun_commit
  obtain ⟨later, locked, -⟩ := kept stored next now until_ commit
  cases unlocked.symm.trans locked

end AgqlAuth
