import AgqlAuth.RateLimit.Transition

/-!
# What attempts add up to

The state of a key after any sequence of attempts, against the window of those
attempts kept as a list of instants.  Lists of instants are newest first.
-/

namespace AgqlAuth

/-- The attempts of the last window: one at or after the end of a window opens the next. -/
def currentWindow (span : Duration) : List OffsetDateTime → List OffsetDateTime
  | [] => []
  | now :: earlier =>
      if (currentWindow span earlier).getLast?.any fun first =>
          now.unixNanos < first.unixNanos + span.nanos then
        now :: currentWindow span earlier
      else [now]

section Windows

variable {span : Duration} {now first : OffsetDateTime} {earlier : List OffsetDateTime}

theorem currentWindow_joined (opened : (currentWindow span earlier).getLast? = some first)
    (within : now.unixNanos < first.unixNanos + span.nanos) :
    currentWindow span (now :: earlier) = now :: currentWindow span earlier := by
  simp [currentWindow, opened, within]

theorem currentWindow_opened (opened : (currentWindow span earlier).getLast? = some first)
    (ended : first.unixNanos + span.nanos ≤ now.unixNanos) :
    currentWindow span (now :: earlier) = [now] := by
  simp [currentWindow, opened, ended.not_gt]

@[simp]
theorem currentWindow_singleton : currentWindow span [now] = [now] := by
  simp [currentWindow]

end Windows

/-- The state of a key and the attempts it counted. -/
structure AttemptLog where
  state : Option AuthRateLimitState
  counted : List OffsetDateTime

/-- One attempt; an error leaves the stored state alone. -/
def AttemptLog.attempt (key : AuthRateLimitKey) (policy : AuthRateLimitPolicy)
    (now : OffsetDateTime) (log : AttemptLog) : AttemptLog :=
  match nextRateLimitState key log.state policy now with
  | .ok next => { state := some next, counted := now :: log.counted }
  | .error _ => log

/-- All attempts, from absence. -/
def attemptAll (key : AuthRateLimitKey) (policy : AuthRateLimitPolicy)
    (times : List OffsetDateTime) : AttemptLog :=
  times.foldr (AttemptLog.attempt key policy) { state := none, counted := [] }

/-- What the state of a key says about the attempts it counted. -/
structure StateAccounts (policy : AuthRateLimitPolicy) (counted : List OffsetDateTime)
    (state : AuthRateLimitState) : Prop where
  positive : 1 ≤ state.attempts
  exclusive : state.backoffUntil = none ∨ state.lockedUntil = none
  ttl_le : state.lastAttemptAt.unixNanos + policy.stateTtl.nanos ≤ state.expiresAt.unixNanos
  window_le : state.firstAttemptAt.unixNanos + policy.window.nanos ≤ state.expiresAt.unixNanos
  backoff_le : ∀ deadline ∈ state.backoffUntil, deadline ≤ state.expiresAt
  lockout_le : ∀ deadline ∈ state.lockedUntil, deadline ≤ state.expiresAt
  last : counted.head? = some state.lastAttemptAt
  first : (currentWindow policy.window counted).getLast? = some state.firstAttemptAt
  attempts : state.attempts = min (currentWindow policy.window counted).length maxU32
  within : ∀ time ∈ currentWindow policy.window counted,
    time.unixNanos < state.firstAttemptAt.unixNanos + policy.window.nanos
  locked_iff : state.lockedUntil.isSome ↔ policy.maxAttemptsBeforeLockout ≤ state.attempts
  windowEnd : (state.firstAttemptAt.checkedAdd policy.window).isSome

/-- From `expires_at` on, neither a window nor a restriction of the state is left. -/
structure Spent (policy : AuthRateLimitPolicy) (state : AuthRateLimitState) (now : OffsetDateTime) :
    Prop where
  window : ¬windowOpen policy state now
  backoff : ∀ deadline ∈ state.backoffUntil, deadline ≤ now
  lockout : ∀ deadline ∈ state.lockedUntil, deadline ≤ now

/-- The computed instants of an attempt at the head of `counted` exist. -/
structure AttemptRepresentable (policy : AuthRateLimitPolicy) (counted : List OffsetDateTime)
    (now : OffsetDateTime) : Prop where
  ttl : (now.checkedAdd policy.stateTtl).isSome
  window : ∀ first ∈ (currentWindow policy.window counted).getLast?,
    (first.checkedAdd policy.window).isSome
  lockout : policy.maxAttemptsBeforeLockout ≤
      min (currentWindow policy.window counted).length maxU32 →
    (now.checkedAdd policy.lockoutDuration).isSome
  backoff : min (currentWindow policy.window counted).length maxU32 <
      policy.maxAttemptsBeforeLockout →
    policy.backoffAfterAttempts ≤ min (currentWindow policy.window counted).length maxU32 →
    (now.checkedAdd (backoffDuration policy
      (min (currentWindow policy.window counted).length maxU32))).isSome

variable {key : AuthRateLimitKey} {policy : AuthRateLimitPolicy} {now : OffsetDateTime}

/-- An error of the abuse-protection arithmetic, which names the operation that overflowed. -/
def Overflowed (e : AuthError) : Prop :=
  ∃ operation : String, e = .invalidConfiguration (operation ++ " arithmetic overflowed")

theorem checkedRateLimitTimeAdd_error {value : OffsetDateTime} {duration : Duration}
    {operation : String} {e : AuthError}
    (failed : checkedRateLimitTimeAdd value duration operation = .error e) : Overflowed e := by
  unfold checkedRateLimitTimeAdd at failed
  split at failed
  · cases failed
  · cases failed
    exact ⟨operation, rfl⟩

theorem resetsWindow_error {current : Option AuthRateLimitState} {e : AuthError}
    (failed : resetsWindow current policy now = .error e) : Overflowed e := by
  unfold resetsWindow at failed
  split at failed
  case h_1 => cases failed
  case h_2 =>
    split at failed
    case isTrue => cases failed
    case isFalse =>
      split at failed
      case h_1 overflow =>
        cases failed
        exact checkedRateLimitTimeAdd_error overflow
      case h_2 => cases failed

theorem restrictions_isOk {attempts : Nat} :
    (∃ deadlines, restrictions policy attempts now = .ok deadlines) ↔
      (policy.maxAttemptsBeforeLockout ≤ attempts →
        (now.checkedAdd policy.lockoutDuration).isSome) ∧
      (attempts < policy.maxAttemptsBeforeLockout → policy.backoffAfterAttempts ≤ attempts →
        (now.checkedAdd (backoffDuration policy attempts)).isSome) := by
  unfold restrictions checkedRateLimitTimeAdd
  by_cases reached : policy.maxAttemptsBeforeLockout ≤ attempts
  · have below : ¬attempts < policy.maxAttemptsBeforeLockout := by omega
    cases now.checkedAdd policy.lockoutDuration <;> simp [reached, below]
  · have below : attempts < policy.maxAttemptsBeforeLockout := by omega
    by_cases slowed : policy.backoffAfterAttempts ≤ attempts
    · cases now.checkedAdd (backoffDuration policy attempts) <;> simp [reached, below, slowed]
    · simp [reached, slowed]

theorem restrictions_exclusive {attempts : Nat} {backoffUntil lockedUntil : Option OffsetDateTime}
    (restricted : restrictions policy attempts now = .ok (backoffUntil, lockedUntil)) :
    backoffUntil = none ∨ lockedUntil = none := by
  unfold restrictions at restricted
  split at restricted
  case isTrue =>
    split at restricted
    case h_1 => cases restricted
    case h_2 =>
      cases restricted
      exact .inl rfl
  case isFalse =>
    split at restricted
    case isTrue =>
      split at restricted
      case h_1 => cases restricted
      case h_2 =>
        cases restricted
        exact .inr rfl
    case isFalse =>
      cases restricted
      exact .inl rfl

theorem restrictions_error {attempts : Nat} {e : AuthError}
    (failed : restrictions policy attempts now = .error e) : Overflowed e := by
  unfold restrictions at failed
  split at failed
  case isTrue =>
    split at failed
    case h_1 overflow =>
      cases failed
      exact checkedRateLimitTimeAdd_error overflow
    case h_2 => cases failed
  case isFalse =>
    split at failed
    case isTrue =>
      split at failed
      case h_1 overflow =>
        cases failed
        exact checkedRateLimitTimeAdd_error overflow
      case h_2 => cases failed
    case isFalse => cases failed

theorem stateExpiry_isOk {firstAttemptAt : OffsetDateTime}
    {backoffUntil lockedUntil : Option OffsetDateTime} :
    (∃ expiresAt, stateExpiry policy firstAttemptAt now backoffUntil lockedUntil = .ok expiresAt) ↔
      (now.checkedAdd policy.stateTtl).isSome ∧
        (firstAttemptAt.checkedAdd policy.window).isSome := by
  unfold stateExpiry checkedRateLimitTimeAdd
  cases now.checkedAdd policy.stateTtl <;> cases firstAttemptAt.checkedAdd policy.window <;>
    simp [bind, Except.bind, pure, Except.pure]

theorem stateExpiry_error {firstAttemptAt : OffsetDateTime}
    {backoffUntil lockedUntil : Option OffsetDateTime} {e : AuthError}
    (failed : stateExpiry policy firstAttemptAt now backoffUntil lockedUntil = .error e) :
    Overflowed e := by
  unfold stateExpiry at failed
  rcases Except.error_of_bind failed with ttl | ⟨ttlEnd, -, failed⟩
  · exact checkedRateLimitTimeAdd_error ttl
  · rcases Except.error_of_bind failed with window | ⟨windowEnd, -, failed⟩
    · exact checkedRateLimitTimeAdd_error window
    · cases failed

/-- A state outlives its lifetime after the last attempt and the window it counts in. -/
theorem stateExpiry_after {firstAttemptAt expiresAt : OffsetDateTime}
    {backoffUntil lockedUntil : Option OffsetDateTime}
    (expiry : stateExpiry policy firstAttemptAt now backoffUntil lockedUntil = .ok expiresAt) :
    now.unixNanos + policy.stateTtl.nanos ≤ expiresAt.unixNanos ∧
      firstAttemptAt.unixNanos + policy.window.nanos ≤ expiresAt.unixNanos := by
  obtain ⟨ttlEnd, ttl, expiry⟩ := Except.exists_of_bind_eq_ok expiry
  obtain ⟨windowEnd, window, expiry⟩ := Except.exists_of_bind_eq_ok expiry
  rw [← checkedRateLimitTimeAdd_ok ttl, ← checkedRateLimitTimeAdd_ok window,
    ← OffsetDateTime.le_iff, ← OffsetDateTime.le_iff]
  have both := le_maxTime ttlEnd windowEnd
  have kept : maxTime (some ttlEnd) windowEnd ≤ expiresAt := by
    cases expiry
    cases backoffUntil with
    | none =>
        cases lockedUntil with
        | none => exact le_rfl
        | some locked => exact (le_maxTime _ locked).1
    | some backoff =>
        cases lockedUntil with
        | none => exact (le_maxTime _ backoff).1
        | some locked => exact (le_maxTime _ backoff).1.trans (le_maxTime _ locked).1
  exact ⟨both.1.trans kept, both.2.trans kept⟩

theorem nextRateLimitState_error {current : Option AuthRateLimitState} {e : AuthError}
    (failed : nextRateLimitState key current policy now = .error e) : Overflowed e := by
  unfold nextRateLimitState at failed
  rcases Except.error_of_bind failed with window | ⟨resetWindow, -, failed⟩
  · exact resetsWindow_error window
  · rcases Except.error_of_bind failed with restricted | ⟨deadlines, -, failed⟩
    · exact restrictions_error restricted
    · rcases Except.error_of_bind failed with expiry | ⟨expiresAt, -, failed⟩
      · exact stateExpiry_error expiry
      · cases failed

structure AttemptLog.Accounts (policy : AuthRateLimitPolicy) (log : AttemptLog) : Prop where
  absent : log.state = none → log.counted = []
  present : ∀ state, log.state = some state → StateAccounts policy log.counted state

/-- What `countAttempt` makes of a log is the window of the attempts with one more. -/
structure CountsWindow (policy : AuthRateLimitPolicy) (counted : List OffsetDateTime)
    (attempts : Nat) (firstAttemptAt : OffsetDateTime) : Prop where
  attempts : attempts = min (currentWindow policy.window counted).length maxU32
  first : (currentWindow policy.window counted).getLast? = some firstAttemptAt
  within : ∀ time ∈ currentWindow policy.window counted,
    time.unixNanos < firstAttemptAt.unixNanos + policy.window.nanos

theorem countsWindow_opened (valid : policy.Valid) {counted : List OffsetDateTime}
    (opened : currentWindow policy.window counted = [now]) : CountsWindow policy counted 1 now := by
  have positive : 0 < policy.window.nanos := valid.window_pos
  constructor
  · simp [opened, one_le_maxU32]
  · simp [opened]
  · simpa [opened] using positive

namespace AttemptLog.Accounts

variable {log : AttemptLog}

/-- An attempt counts in the window that the counted attempts say is open. -/
theorem counts (accounts : log.Accounts policy) (valid : policy.Valid) (now : OffsetDateTime) :
    ∃ resetWindow, resetsWindow log.state policy now = .ok resetWindow ∧
      CountsWindow policy (now :: log.counted) (countAttempt log.state resetWindow now).1
        (countAttempt log.state resetWindow now).2 := by
  cases known : log.state with
  | none =>
      have opened : currentWindow policy.window (now :: log.counted) = [now] := by
        rw [accounts.absent known, currentWindow_singleton]
      exact ⟨true, rfl, countsWindow_opened valid opened⟩
  | some state =>
      have account := accounts.present state known
      obtain ⟨windowEnd, added⟩ := Option.isSome_iff_exists.mp account.windowEnd
      have end_eq := OffsetDateTime.checkedAdd_eq_some added
      have decided : resetsWindow (some state) policy now =
          .ok (decide (state.firstAttemptAt.unixNanos + policy.window.nanos ≤ now.unixNanos)) := by
        unfold resetsWindow checkedRateLimitTimeAdd
        by_cases expired : state.expiresAt ≤ now
        · have ended : state.firstAttemptAt.unixNanos + policy.window.nanos ≤ now.unixNanos :=
            account.window_le.trans expired
          simp [expired, ended]
        · simp [expired, added, OffsetDateTime.le_iff, end_eq]
      refine ⟨_, decided, ?_⟩
      by_cases ended : state.firstAttemptAt.unixNanos + policy.window.nanos ≤ now.unixNanos
      · rw [decide_eq_true ended]
        exact countsWindow_opened valid (currentWindow_opened account.first ended)
      · rw [decide_eq_false ended]
        have joined := currentWindow_joined account.first (not_le.mp ended)
        constructor
        · simp only [countAttempt, joined, List.length_cons, account.attempts]
          omega
        · rw [joined, List.getLast?_cons, account.first]
          rfl
        · rw [joined]
          simpa [countAttempt] using ⟨not_le.mp ended, account.within⟩

theorem initial (policy : AuthRateLimitPolicy) :
    AttemptLog.Accounts policy { state := none, counted := [] } :=
  ⟨fun _ => rfl, fun _ impossible => by cases impossible⟩

/-- A counted attempt leaves a state that accounts for it. -/
theorem next (accounts : log.Accounts policy) (valid : policy.Valid) {next : AuthRateLimitState}
    (computed : nextRateLimitState key log.state policy now = .ok next) :
    StateAccounts policy (now :: log.counted) next := by
  have counted := counted_of_nextRateLimitState computed
  obtain ⟨resetWindow, window, attempts_eq, first_eq⟩ := counted.count
  obtain ⟨decided, window', counts⟩ := accounts.counts valid now
  cases window.symm.trans window'
  rw [← attempts_eq, ← first_eq] at counts
  have after := stateExpiry_after counted.expiry
  have kept := stateExpiry_ge counted.expiry
  have represented := stateExpiry_isOk.mp ⟨_, counted.expiry⟩
  have nonempty : 0 < (currentWindow policy.window (now :: log.counted)).length := by
    rw [List.length_pos_iff]
    intro empty
    have first := counts.first
    rw [empty] at first
    cases first
  exact {
    positive := by
      rw [counts.attempts]
      exact le_min nonempty one_le_maxU32
    exclusive := restrictions_exclusive counted.restricted
    ttl_le := by rw [counted.last]; exact after.1
    window_le := after.2
    backoff_le := kept.1
    lockout_le := kept.2
    last := by rw [counted.last]; rfl
    first := counts.first
    attempts := counts.attempts
    within := counts.within
    locked_iff := by
      have locked := counted.locked
      split at locked
      case isTrue reached =>
        obtain ⟨deadline, locked, -⟩ := locked
        simp [locked, reached]
      case isFalse below => simp [locked, below]
    windowEnd := represented.2 }

theorem attempt (accounts : log.Accounts policy) (valid : policy.Valid) (key : AuthRateLimitKey)
    (now : OffsetDateTime) : (log.attempt key policy now).Accounts policy := by
  unfold AttemptLog.attempt
  split
  case h_1 next computed =>
    refine ⟨fun missing => (Option.some_ne_none _ missing).elim, ?_⟩
    rintro state ⟨⟩
    exact accounts.next valid computed
  case h_2 => exact accounts

/-- An attempt is counted exactly when its instants exist. -/
theorem computes_iff (accounts : log.Accounts policy) (valid : policy.Valid)
    (key : AuthRateLimitKey) (now : OffsetDateTime) :
    (∃ next, nextRateLimitState key log.state policy now = .ok next) ↔
      AttemptRepresentable policy (now :: log.counted) now := by
  obtain ⟨resetWindow, window, counts⟩ := accounts.counts valid now
  have restricted := @restrictions_isOk policy now (countAttempt log.state resetWindow now).1
  constructor
  · rintro ⟨next, computed⟩
    have counted := counted_of_nextRateLimitState computed
    obtain ⟨resetWindow', window', attempts_eq, first_eq⟩ := counted.count
    cases window.symm.trans window'
    have represented := stateExpiry_isOk.mp ⟨_, counted.expiry⟩
    have deadlines := restrictions_isOk.mp ⟨_, counted.restricted⟩
    rw [attempts_eq, counts.attempts] at deadlines
    exact {
      ttl := represented.1
      window := by
        intro first mem
        obtain rfl : first = next.firstAttemptAt :=
          Option.some.inj ((Option.mem_def.mp mem).symm.trans (first_eq ▸ counts.first))
        exact represented.2
      lockout := deadlines.1
      backoff := deadlines.2 }
  · intro represented
    rw [counts.attempts] at restricted
    obtain ⟨deadlines, restrict⟩ := restricted.mpr ⟨represented.lockout, represented.backoff⟩
    have sums := @stateExpiry_isOk policy now (countAttempt log.state resetWindow now).2
      deadlines.1 deadlines.2
    obtain ⟨expiresAt, expiry⟩ := sums.mpr ⟨represented.ttl, represented.window _ counts.first⟩
    rw [← counts.attempts] at restrict
    unfold nextRateLimitState
    rw [window]
    change ∃ next, (restrictions policy (countAttempt log.state resetWindow now).1 now >>= _) = _
    rw [restrict]
    change ∃ next, (stateExpiry policy (countAttempt log.state resetWindow now).2 now deadlines.1
      deadlines.2 >>= _) = _
    rw [expiry]
    exact ⟨_, rfl⟩

end AttemptLog.Accounts

/-- Every state reached accounts for the attempts it counted. -/
theorem attemptAll_accounts (valid : policy.Valid) (key : AuthRateLimitKey)
    (times : List OffsetDateTime) : (attemptAll key policy times).Accounts policy := by
  induction times with
  | nil => exact .initial policy
  | cons now earlier ih => exact ih.attempt valid key now

theorem StateAccounts.spent {counted : List OffsetDateTime} {state : AuthRateLimitState}
    (account : StateAccounts policy counted state) (expired : state.expiresAt ≤ now) :
    Spent policy state now where
  window := not_lt.mpr (account.window_le.trans expired)
  backoff deadline mem := (account.backoff_le deadline mem).trans expired
  lockout deadline mem := (account.lockout_le deadline mem).trans expired

/--
Whatever attempts a key has seen, in whatever order of the clock, its state accounts
for them, has nothing left to say from its expiry on, and a further attempt is
counted exactly when its instants exist; otherwise it is an error and stores nothing.
-/
theorem rate_limit_states_account {policy : AuthRateLimitPolicy} {name : String}
    (enabled : policy.enabled = true) (accepted : policy.validate name = .ok ())
    (key : AuthRateLimitKey) (times : List OffsetDateTime) :
    (∀ state, (attemptAll key policy times).state = some state →
      StateAccounts policy (attemptAll key policy times).counted state ∧
        ∀ now, state.expiresAt ≤ now → Spent policy state now) ∧
    ∀ now,
      (AttemptRepresentable policy (now :: (attemptAll key policy times).counted) now →
        (attemptAll key policy (now :: times)).counted =
          now :: (attemptAll key policy times).counted) ∧
      (¬AttemptRepresentable policy (now :: (attemptAll key policy times).counted) now →
        (∃ e, nextRateLimitState key (attemptAll key policy times).state policy now = .error e ∧
          Overflowed e) ∧
        attemptAll key policy (now :: times) = attemptAll key policy times) := by
  have valid := AuthRateLimitPolicy.valid_of_validate enabled accepted
  have accounts := attemptAll_accounts valid key times
  constructor
  · intro state known
    have account := accounts.present state known
    exact ⟨account, fun now expired => account.spent expired⟩
  · intro now
    have computes := accounts.computes_iff valid key now
    have stepped : attemptAll key policy (now :: times) =
        (attemptAll key policy times).attempt key policy now := rfl
    rw [← computes, stepped, AttemptLog.attempt]
    cases computed : nextRateLimitState key (attemptAll key policy times).state policy now with
    | ok next => exact ⟨fun _ => rfl, fun refused => (refused ⟨next, rfl⟩).elim⟩
    | error e =>
        refine ⟨fun counted => ?_, fun _ => ⟨⟨e, rfl, nextRateLimitState_error computed⟩, rfl⟩⟩
        obtain ⟨next, impossible⟩ := counted
        cases impossible

def briefKey : AuthRateLimitKey where
  flow := .passwordLogin
  bucket := .principal
  valueHash := "ada"

theorem two_le_maxU32 : 2 ≤ maxU32 := by decide

/-- A lock after the second failure, and state that is kept for no longer than needed. -/
def minuteWindow : AuthRateLimitPolicy where
  enabled := true
  window := .ofSeconds 60
  backoffAfterAttempts := 1
  maxAttemptsBeforeLockout := 2
  baseBackoff := .ofSeconds 5
  maxBackoff := .ofSeconds 20
  lockoutDuration := .ofSeconds 90
  stateTtl := .ofSeconds 1
  backoffAfterAttempts_le := one_le_maxU32
  maxAttemptsBeforeLockout_le := two_le_maxU32

/-- Three failures in two windows: the state counts the last two, and keeps its lock. -/
theorem minuteWindow_accounts :
    ∃ state, (attemptAll briefKey minuteWindow [.atSecond 70, .atSecond 65, .atSecond 0]).state =
        some state ∧ state.attempts = 2 ∧ state.lockedUntil = some (.atSecond 160) ∧
      StateAccounts minuteWindow [.atSecond 70, .atSecond 65, .atSecond 0] state := by
  have reached : ((attemptAll briefKey minuteWindow
      [.atSecond 70, .atSecond 65, .atSecond 0]).state.any fun state =>
        state.attempts = 2 && state.lockedUntil = some (.atSecond 160)) = true ∧
      (attemptAll briefKey minuteWindow [.atSecond 70, .atSecond 65, .atSecond 0]).counted =
        [.atSecond 70, .atSecond 65, .atSecond 0] := by
    decide +kernel
  obtain ⟨stored, counted⟩ := reached
  obtain ⟨state, known, facts⟩ := (Option.any_eq_true _ _).mp stored
  simp only [Bool.and_eq_true, decide_eq_true_eq] at facts
  have accepted : minuteWindow.validate "rate limit" = .ok () := by rfl
  have accounts := (rate_limit_states_account rfl accepted briefKey
    [.atSecond 70, .atSecond 65, .atSecond 0]).1 state known
  rw [counted] at accounts
  exact ⟨state, known, facts.1, facts.2, accounts.1⟩

end AgqlAuth
