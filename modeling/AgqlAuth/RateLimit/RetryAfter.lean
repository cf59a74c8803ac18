import AgqlAuth.RateLimit.Counting
import Mathlib.Order.Bounds.Basic

/-!
# Retry-after

The admission check on fixed stored states, and when the wait it reports is long
enough.
-/

namespace AgqlAuth

open Interaction Program

abbrev StoredStates := AuthRateLimitKey → Option AuthRateLimitSnapshot

/-- The clock stands at `now` and every read finds what is stored. -/
def storedAnswers (stored : StoredStates) (now : OffsetDateTime) :
    (op : AuthOp) → Option (AuthOp.Resp op)
  | .now .rateLimit => some now
  | .findAuthRateLimitState key => some (.ok (stored key) : AuthResult _)
  | _ => none

/-- What `reject_if_rate_limited` answers at `now`. -/
def checkStored (policy : AuthRateLimitPolicy) (keys : List AuthRateLimitKey)
    (stored : StoredStates) (now : OffsetDateTime) : Option (AuthResult RateLimitPermit) :=
  ((rejectIfRateLimited policy keys).finish (storedAnswers stored now) []).map Prod.snd

def scanStored (stored : StoredStates) (now : OffsetDateTime) (scan : RateLimitScan)
    (keys : List AuthRateLimitKey) : RateLimitScan :=
  keys.foldl (fun scan key => scan.observe key now (stored key)) scan

section Check

variable {policy : AuthRateLimitPolicy} {keys : List AuthRateLimitKey} {stored : StoredStates}
  {now : OffsetDateTime}

theorem scanRateLimits_stored (scan : RateLimitScan) (keys : List AuthRateLimitKey)
    (f : RateLimitScan → AuthM RateLimitPermit) (h : AuthHistory) :
    ∃ late, (scanRateLimits now scan keys >>= f : AuthM RateLimitPermit).finish
        (storedAnswers stored now) h =
      (f (scanStored stored now scan keys)).finish (storedAnswers stored now) late := by
  induction keys generalizing scan h with
  | nil => exact ⟨h, rfl⟩
  | cons key keys ih =>
      obtain ⟨late, same⟩ := ih (scan.observe key now (stored key))
        (⟨.findAuthRateLimitState key, .ok (stored key)⟩ :: h)
      exact ⟨late, same⟩

theorem checkStored_eq :
    checkStored policy keys stored now =
      if (!policy.enabled || keys.isEmpty) = true then some (.ok [])
      else some ((scanStored stored now {} keys).decide now) := by
  unfold checkStored rejectIfRateLimited
  split
  · rfl
  · obtain ⟨late, same⟩ := @scanRateLimits_stored stored now {} keys
      (fun scan => liftResult (scan.decide now)) [⟨.now .rateLimit, now⟩]
    change Option.map Prod.snd ((scanRateLimits now {} keys >>= _ : AuthM _).finish _ _) = _
    rw [same]
    rfl

end Check

/-- The lock in force at `now`. -/
def AuthRateLimitState.activeLock (state : AuthRateLimitState) (now : OffsetDateTime) :
    Option OffsetDateTime :=
  if state.expiresAt ≤ now then none else state.lockedUntil.filter (now < ·)

/-- The backoff in force at `now`; a lock in force hides it. -/
def AuthRateLimitState.activeBackoff (state : AuthRateLimitState) (now : OffsetDateTime) :
    Option OffsetDateTime :=
  if state.expiresAt ≤ now then none
  else if (state.lockedUntil.filter (now < ·)).isSome then none
  else state.backoffUntil.filter (now < ·)

/-- The locks in force among the listed keys. -/
def activeLocks (stored : StoredStates) (now : OffsetDateTime) (keys : List AuthRateLimitKey) :
    List OffsetDateTime :=
  keys.filterMap fun key => (stored key).bind fun snapshot => snapshot.state.activeLock now

def activeBackoffs (stored : StoredStates) (now : OffsetDateTime) (keys : List AuthRateLimitKey) :
    List OffsetDateTime :=
  keys.filterMap fun key => (stored key).bind fun snapshot => snapshot.state.activeBackoff now

/-- The time the check reports: the latest lock, or without a lock the latest backoff. -/
def Reports (stored : StoredStates) (now : OffsetDateTime) (keys : List AuthRateLimitKey)
    (reported : OffsetDateTime) : Prop :=
  IsGreatest {deadline | deadline ∈ activeLocks stored now keys} reported ∨
    activeLocks stored now keys = [] ∧
      IsGreatest {deadline | deadline ∈ activeBackoffs stored now keys} reported

/-- The latest of a known instant and the listed ones. -/
def latestFrom (known : Option OffsetDateTime) (deadlines : List OffsetDateTime) :
    Option OffsetDateTime :=
  deadlines.foldl (fun known deadline => some (maxTime known deadline)) known

section Latest

variable {stored : StoredStates} {now : OffsetDateTime}

theorem latestFrom_some (known : OffsetDateTime) (deadlines : List OffsetDateTime) :
    ∃ latest, latestFrom (some known) deadlines = some latest ∧
      IsGreatest {deadline | deadline ∈ known :: deadlines} latest := by
  induction deadlines generalizing known with
  | nil => exact ⟨known, rfl, by simp [IsGreatest, upperBounds]⟩
  | cons deadline rest ih =>
      obtain ⟨latest, folded, greatest⟩ := ih (max deadline known)
      refine ⟨latest, folded, ?_, ?_⟩
      · rcases List.mem_cons.mp greatest.1 with rfl | mem
        · rcases max_choice deadline known with same | same <;> simp [same]
        · simp [mem]
      · intro other mem
        have bounds := greatest.2 (List.mem_cons_self : max deadline known ∈ _)
        rcases List.mem_cons.mp mem with rfl | mem
        · exact (le_max_right _ _).trans bounds
        · rcases List.mem_cons.mp mem with rfl | mem
          · exact (le_max_left _ _).trans bounds
          · exact greatest.2 (List.mem_cons_of_mem _ mem)

theorem latestFrom_none {deadlines : List OffsetDateTime} :
    (latestFrom none deadlines = none ∧ deadlines = []) ∨
      ∃ latest, latestFrom none deadlines = some latest ∧
        IsGreatest {deadline | deadline ∈ deadlines} latest := by
  cases deadlines with
  | nil => exact .inl ⟨rfl, rfl⟩
  | cons deadline rest => exact .inr (latestFrom_some deadline rest)

/-- One observation raises the lock or the backoff by what is in force. -/
theorem observe_deadlines (scan : RateLimitScan) (key : AuthRateLimitKey)
    (snapshot : Option AuthRateLimitSnapshot) :
    (scan.observe key now snapshot).lockedUntil =
        latestFrom scan.lockedUntil
          (snapshot.bind fun snapshot => snapshot.state.activeLock now).toList ∧
      (scan.observe key now snapshot).backoffUntil =
        latestFrom scan.backoffUntil
          (snapshot.bind fun snapshot => snapshot.state.activeBackoff now).toList := by
  cases snapshot with
  | none => exact ⟨rfl, rfl⟩
  | some snapshot =>
      simp only [RateLimitScan.observe, Option.bind_some, AuthRateLimitState.activeLock,
        AuthRateLimitState.activeBackoff]
      by_cases expired : snapshot.state.expiresAt ≤ now
      · simp [expired, latestFrom]
      · cases snapshot.state.lockedUntil.filter (now < ·) with
        | some lock => simp [expired, latestFrom]
        | none =>
            cases snapshot.state.backoffUntil.filter (now < ·) <;> simp [expired, latestFrom]

theorem scanStored_deadlines (scan : RateLimitScan) (keys : List AuthRateLimitKey) :
    (scanStored stored now scan keys).lockedUntil =
        latestFrom scan.lockedUntil (activeLocks stored now keys) ∧
      (scanStored stored now scan keys).backoffUntil =
        latestFrom scan.backoffUntil (activeBackoffs stored now keys) := by
  induction keys generalizing scan with
  | nil => exact ⟨rfl, rfl⟩
  | cons key keys ih =>
      obtain ⟨locked, slowed⟩ := @observe_deadlines now scan key (stored key)
      obtain ⟨laterLocked, laterSlowed⟩ := ih (scan.observe key now (stored key))
      have split : ∀ (o : Option OffsetDateTime) (known : Option OffsetDateTime) rest,
          latestFrom (latestFrom known o.toList) rest = latestFrom known (o.toList ++ rest) := by
        intro o known rest
        simp [latestFrom]
      constructor
      · change (scanStored stored now (scan.observe key now (stored key)) keys).lockedUntil = _
        rw [laterLocked, locked, split]
        congr 1
        simp only [activeLocks, List.filterMap_cons]
        cases (stored key).bind fun snapshot => snapshot.state.activeLock now <;> rfl
      · change (scanStored stored now (scan.observe key now (stored key)) keys).backoffUntil = _
        rw [laterSlowed, slowed, split]
        congr 1
        simp only [activeBackoffs, List.filterMap_cons]
        cases (stored key).bind fun snapshot => snapshot.state.activeBackoff now <;> rfl

end Latest

/-- A lock or a backoff of the state, whichever is in force when. -/
def AuthRateLimitState.LimitedUntil (state : AuthRateLimitState) (deadline : OffsetDateTime) :
    Prop :=
  state.lockedUntil = some deadline ∨ state.backoffUntil = some deadline

/-- Every restriction of the listed states, cut off at the state's expiry, has ended. -/
def AllEnded (stored : StoredStates) (keys : List AuthRateLimitKey) (now : OffsetDateTime) : Prop :=
  ∀ key ∈ keys, ∀ snapshot, stored key = some snapshot →
    ∀ deadline, snapshot.state.LimitedUntil deadline →
      min deadline snapshot.state.expiresAt ≤ now

section Admits

variable {policy : AuthRateLimitPolicy} {keys : List AuthRateLimitKey} {stored : StoredStates}
  {now : OffsetDateTime}

theorem inactive_iff {state : AuthRateLimitState} :
    state.activeLock now = none ∧ state.activeBackoff now = none ↔
      ∀ deadline, state.LimitedUntil deadline → min deadline state.expiresAt ≤ now := by
  unfold AuthRateLimitState.activeLock AuthRateLimitState.activeBackoff
    AuthRateLimitState.LimitedUntil
  by_cases expired : state.expiresAt ≤ now
  · simp [expired]
  · simp only [expired, if_false, min_le_iff, or_false]
    cases state.lockedUntil with
    | none => cases state.backoffUntil <;> simp
    | some lock =>
        by_cases locked : now < lock
        · simp [Option.filter, locked]
        · cases state.backoffUntil <;>
          simp [Option.filter, locked, not_lt.mp locked, or_imp, forall_and]

theorem allEnded_iff :
    activeLocks stored now keys = [] ∧ activeBackoffs stored now keys = [] ↔
      AllEnded stored keys now := by
  unfold activeLocks activeBackoffs AllEnded
  rw [List.filterMap_eq_nil_iff, List.filterMap_eq_nil_iff]
  constructor
  · rintro ⟨unlocked, unhindered⟩ key mem snapshot known
    have none_locked := unlocked key mem
    have none_slowed := unhindered key mem
    rw [known, Option.bind_some] at none_locked none_slowed
    exact inactive_iff.mp ⟨none_locked, none_slowed⟩
  · intro ended
    have inactive : ∀ key ∈ keys, ∀ snapshot, stored key = some snapshot →
        snapshot.state.activeLock now = none ∧ snapshot.state.activeBackoff now = none :=
      fun key mem snapshot known => inactive_iff.mpr (ended key mem snapshot known)
    constructor
    · intro key mem
      cases known : stored key with
      | none => rfl
      | some snapshot => exact (inactive key mem snapshot known).1
    · intro key mem
      cases known : stored key with
      | none => rfl
      | some snapshot => exact (inactive key mem snapshot known).2

/-- The check fails on the greatest of what is in force, and otherwise admits. -/
theorem decide_cases :
    (AllEnded stored keys now ∧
      ∃ permit, (scanStored stored now {} keys).decide now = .ok permit) ∨
    ∃ reported, Reports stored now keys reported ∧
      ((scanStored stored now {} keys).decide now =
          .error (.authLocked (retryAfterSeconds now reported)) ∨
        (scanStored stored now {} keys).decide now =
          .error (.authThrottled (retryAfterSeconds now reported))) := by
  obtain ⟨locked, slowed⟩ := @scanStored_deadlines stored now {} keys
  unfold RateLimitScan.decide
  rw [locked, slowed]
  rcases @latestFrom_none (activeLocks stored now keys) with
    ⟨no_lock, unlocked⟩ | ⟨latest, lock, greatest⟩
  · rcases @latestFrom_none (activeBackoffs stored now keys) with
      ⟨no_backoff, unhindered⟩ | ⟨latest, backoff, greatest⟩
    · refine .inl ⟨allEnded_iff.mp ⟨unlocked, unhindered⟩, ?_⟩
      simp only [no_lock, no_backoff]
      exact ⟨_, rfl⟩
    · refine .inr ⟨latest, .inr ⟨unlocked, greatest⟩, .inr ?_⟩
      simp only [no_lock, backoff]
  · refine .inr ⟨latest, .inl greatest, .inl ?_⟩
    simp only [lock]

/-- A check that is not switched off admits exactly when every restriction has ended. -/
theorem checkStored_admits_iff (active : (!policy.enabled || keys.isEmpty) = false) :
    (∃ permit, checkStored policy keys stored now = some (.ok permit)) ↔
      AllEnded stored keys now := by
  rw [checkStored_eq, active, if_neg Bool.false_ne_true]
  constructor
  · rintro ⟨permit, admitted⟩
    rcases @decide_cases keys stored now with ⟨ended, -⟩ | ⟨reported, -, rejected | rejected⟩
    · exact ended
    · rw [rejected] at admitted
      cases admitted
    · rw [rejected] at admitted
      cases admitted
  · intro ended
    rcases @decide_cases keys stored now with ⟨-, permit, admitted⟩ | ⟨reported, reports, -⟩
    · exact ⟨permit, by rw [admitted]⟩
    · obtain ⟨unlocked, unhindered⟩ := allEnded_iff.mpr ended
      rcases reports with greatest | ⟨-, greatest⟩
      · have mem := greatest.1
        rw [unlocked] at mem
        cases mem
      · have mem := greatest.1
        rw [unhindered] at mem
        cases mem

end Admits

/--
The restriction ends within the second after `now`, or as far into its second as
`now` is when the whole second of the reported time begins.
-/
def EndsInTime (now reported deadline : OffsetDateTime) : Prop :=
  deadline.unixNanos ≤ now.unixNanos + nanosPerSecond ∨
    deadline.unixNanos ≤ reported.unixTimestamp * nanosPerSecond + now.unixNanos % nanosPerSecond

theorem endsInTime_iff {now reported deadline : OffsetDateTime} :
    EndsInTime now reported deadline ↔
      deadline.unixNanos ≤ now.unixNanos + retryAfterSeconds now reported * nanosPerSecond := by
  unfold EndsInTime retryAfterSeconds OffsetDateTime.unixTimestamp nanosPerSecond
  omega

/-- A check that holds at every instant from some time on holds from that time on. -/
theorem ended_iff_ended_later {wait : Int} (positive : 1 ≤ wait) {now deadline : OffsetDateTime} :
    (∀ later : OffsetDateTime, now.unixNanos + wait * nanosPerSecond ≤ later.unixNanos →
      deadline ≤ later) ↔ deadline.unixNanos ≤ now.unixNanos + wait * nanosPerSecond := by
  constructor
  · intro ended
    by_contra beyond
    rw [not_le] at beyond
    have lower := now.lower
    have upper := deadline.upper
    have after : now.unixNanos ≤ now.unixNanos + wait * nanosPerSecond := by
      simp only [nanosPerSecond]
      omega
    exact absurd (ended ⟨now.unixNanos + wait * nanosPerSecond, lower.trans after,
      beyond.le.trans upper⟩ le_rfl) (not_le.mpr beyond)
  · intro ends later after
    exact OffsetDateTime.le_iff.mpr (ends.trans after)

/--
A rejected caller is told to wait at least a second; it is admitted whenever it comes
back after that wait exactly when every restriction of the listed states ends in time
for the reported one.
-/
theorem retry_after_sufficient_iff {policy : AuthRateLimitPolicy} {keys : List AuthRateLimitKey}
    {stored : StoredStates} {now : OffsetDateTime} {wait : Int}
    (rejected : checkStored policy keys stored now = some (.error (.authLocked wait)) ∨
      checkStored policy keys stored now = some (.error (.authThrottled wait))) :
    ∃ reported, Reports stored now keys reported ∧
      ((1 ≤ wait ∧ ∀ later : OffsetDateTime,
          now.unixNanos + wait * nanosPerSecond ≤ later.unixNanos →
            ∃ permit, checkStored policy keys stored later = some (.ok permit)) ↔
        ∀ key ∈ keys, ∀ snapshot, stored key = some snapshot →
          ∀ deadline, snapshot.state.LimitedUntil deadline →
            EndsInTime now reported (min deadline snapshot.state.expiresAt)) := by
  have active : (!policy.enabled || keys.isEmpty) = false := by
    rw [checkStored_eq] at rejected
    by_contra off
    rw [Bool.not_eq_false] at off
    rw [if_pos off] at rejected
    rcases rejected with impossible | impossible <;> cases impossible
  obtain ⟨reported, reports, wait_eq⟩ : ∃ reported, Reports stored now keys reported ∧
      wait = retryAfterSeconds now reported := by
    rw [checkStored_eq, active, if_neg Bool.false_ne_true] at rejected
    rcases @decide_cases keys stored now with
      ⟨-, permit, admitted⟩ | ⟨reported, reports, locked | slowed⟩
    · rw [admitted] at rejected
      rcases rejected with impossible | impossible <;> cases impossible
    · rw [locked] at rejected
      rcases rejected with same | impossible
      · cases same
        exact ⟨reported, reports, rfl⟩
      · cases impossible
    · rw [slowed] at rejected
      rcases rejected with impossible | same
      · cases impossible
      · cases same
        exact ⟨reported, reports, rfl⟩
  have positive : 1 ≤ wait := by
    rw [wait_eq]
    exact le_max_right _ _
  refine ⟨reported, reports, ?_⟩
  simp only [checkStored_admits_iff active, AllEnded, endsInTime_iff, ← wait_eq,
    ← ended_iff_ended_later positive]
  constructor
  · rintro ⟨-, admitted⟩ key mem snapshot known deadline limited later after
    exact admitted later after key mem snapshot known deadline limited
  · intro ended
    exact ⟨positive, fun later after key mem snapshot known deadline limited =>
      ended key mem snapshot known deadline limited later after⟩

/-- A tenth of a second past second 10. -/
def tenPointOne : OffsetDateTime := ⟨10100000000, by decide, by decide⟩

def elevenPointOne : OffsetDateTime := ⟨11100000000, by decide, by decide⟩

def elevenPointNine : OffsetDateTime := ⟨11900000000, by decide, by decide⟩

def lockedStates (lockedUntil : OffsetDateTime) : StoredStates := fun key => some {
  state := {
    key
    attempts := 2
    attempts_le := two_le_maxU32
    firstAttemptAt := .atSecond 0
    lastAttemptAt := .atSecond 0
    backoffUntil := none
    lockedUntil := some lockedUntil
    expiresAt := .atSecond 60 }
  revision := ⟨1⟩ }

/-- Told to wait a second, the caller comes back to the same lock. -/
theorem late_lock_outlasts_wait :
    checkStored minuteWindow [briefKey] (lockedStates elevenPointNine) tenPointOne =
        some (.error (.authLocked 1)) ∧
      tenPointOne.unixNanos + 1 * nanosPerSecond ≤ elevenPointOne.unixNanos ∧
      checkStored minuteWindow [briefKey] (lockedStates elevenPointNine) elevenPointOne =
        some (.error (.authLocked 1)) :=
  ⟨rfl, by decide, rfl⟩

theorem early_lock_ends_in_time :
    ∃ reported, Reports (lockedStates (.atSecond 11)) tenPointOne [briefKey] reported ∧
      ((1 ≤ (1 : Int) ∧ ∀ later : OffsetDateTime,
          tenPointOne.unixNanos + 1 * nanosPerSecond ≤ later.unixNanos →
            ∃ permit, checkStored minuteWindow [briefKey] (lockedStates (.atSecond 11)) later =
              some (.ok permit)) ↔
        ∀ key ∈ [briefKey], ∀ snapshot, lockedStates (.atSecond 11) key = some snapshot →
          ∀ deadline, snapshot.state.LimitedUntil deadline →
            EndsInTime tenPointOne reported (min deadline snapshot.state.expiresAt)) :=
  retry_after_sufficient_iff (.inl rfl)

end AgqlAuth
