import AgqlAuth.RateLimit.Counters
import AgqlAuth.RateLimit.Transition

/-!
# Admission of requests

A request is admitted by counting it: the decision and the count are one
compare-and-swap, so every admitted request was counted onto a state that did
not restrict it.
-/

namespace AgqlAuth

open Interaction

variable {ι : Type} [DecidableEq ι]

/-- Neither a lock nor a backoff of the state reaches past `now`. -/
structure Unrestricted (state : AuthRateLimitState) (now : OffsetDateTime) : Prop where
  locked : ∀ until_ ∈ state.lockedUntil, until_ ≤ now
  backoff : ∀ until_ ∈ state.backoffUntil, until_ ≤ now

theorem Unrestricted.mono {state : AuthRateLimitState} {now later : OffsetDateTime}
    (unrestricted : Unrestricted state now) (ordered : now ≤ later) :
    Unrestricted state later where
  locked until_ mem := (unrestricted.locked until_ mem).trans ordered
  backoff until_ mem := (unrestricted.backoff until_ mem).trans ordered

theorem filter_until {until_ : Option OffsetDateTime} {now : OffsetDateTime} :
    until_.filter (now < ·) = none ↔ ∀ time ∈ until_, time ≤ now := by
  cases until_ with
  | none => simp
  | some time => simp [Option.filter_eq_none_iff]

/-- What `active_rate_limit_error` lets through. -/
theorem activeRateLimitError_eq_none {state : AuthRateLimitState} {now : OffsetDateTime}
    (allowed : activeRateLimitError state now = none) :
    state.expiresAt ≤ now ∨ Unrestricted state now := by
  unfold activeRateLimitError at allowed
  split at allowed
  · exact .inl ‹_›
  · split at allowed
    · cases allowed
    · rename_i unlocked
      refine .inr ⟨filter_until.mp unlocked, filter_until.mp ?_⟩
      exact Option.map_eq_none_iff.mp allowed

/-- A state restricts nothing once it has expired. -/
theorem Counted.unrestricted_of_expired {key : AuthRateLimitKey}
    {current : Option AuthRateLimitState} {policy : AuthRateLimitPolicy}
    {reading now : OffsetDateTime} {state : AuthRateLimitState}
    (counted : Counted key current policy reading state) (expired : state.expiresAt ≤ now) :
    Unrestricted state now where
  locked until_ mem := ((stateExpiry_ge counted.expiry).2 until_ mem).trans expired
  backoff until_ mem := ((stateExpiry_ge counted.expiry).1 until_ mem).trans expired

section Requests

variable {key : AuthRateLimitKey} {newer older : RateLimitAttempt}
variable {attempts rest : List RateLimitAttempt}

/--
Clock readings do not decrease in commit order.  The readings of the store count
too: a state it gave up was expired at the reading of the commit that found the
key absent.  Attempts counted in one window never find the key absent.
-/
structure OrderedClocks (attempts : List RateLimitAttempt) : Prop where
  readings : attempts.Pairwise fun newer older =>
    ∀ earlier ∈ older.clock, ∀ later ∈ newer.clock, earlier ≤ later
  reclaimed : attempts.IsChain fun newer older => newer.expectedRevision = none →
    ∀ now ∈ newer.clock, older.snapshot.state.expiresAt ≤ now

theorem OrderedClocks.tail {a : RateLimitAttempt} (ordered : OrderedClocks (a :: attempts)) :
    OrderedClocks attempts where
  readings := (List.pairwise_cons.mp ordered.readings).2
  reclaimed := ordered.reclaimed.of_cons

theorem orderedClocks_pair {newer older : RateLimitAttempt} {before now : OffsetDateTime}
    {revision : Uuid} (clock_before : older.clock = some before) (clock : newer.clock = some now)
    (ordered : before ≤ now) (present : newer.expectedRevision = some revision) :
    OrderedClocks [newer, older] where
  readings := by simp [clock_before, clock, ordered]
  reclaimed := by simp [present]

theorem Lineage.suffix (late : List RateLimitAttempt) (lineage : Lineage key (late ++ attempts)) :
    Lineage key attempts := by
  induction late with
  | nil => exact lineage
  | cons a late ih => exact ih lineage.tail

/-- An attempt waited for what the attempt before it set. -/
theorem Lineage.waited (lineage : Lineage key (newer :: older :: rest))
    (enforced : newer.enforced = true)
    (expired : newer.expectedRevision = none →
      ∀ now ∈ newer.clock, older.snapshot.state.expiresAt ≤ now)
    {now : OffsetDateTime} (clock : newer.clock = some now) :
    Unrestricted older.snapshot.state now := by
  obtain ⟨current, reading, earlier⟩ := lineage.tail.computed List.mem_cons_self
  have counted := counted_of_nextRateLimitState earlier.computed
  cases lineage with
  | opened computed _ => exact counted.unrestricted_of_expired (expired computed.expected now clock)
  | extended computed _ =>
      cases clock.symm.trans computed.clock
      rcases activeRateLimitError_eq_none (computed.admitted enforced _ rfl) with expired | free
      · exact counted.unrestricted_of_expired expired
      · exact free

/-- Over any number of attempts in between. -/
theorem Lineage.separated {between : List RateLimitAttempt}
    (lineage : Lineage key (newer :: (between ++ older :: rest)))
    (enforced : ∀ a ∈ newer :: between, a.enforced = true)
    (ordered : OrderedClocks (newer :: (between ++ [older])))
    {now : OffsetDateTime} (clock : newer.clock = some now) :
    Unrestricted older.snapshot.state now := by
  induction between generalizing newer now with
  | nil =>
      exact lineage.waited (enforced newer List.mem_cons_self)
        (List.isChain_cons_cons.mp ordered.reclaimed).1 clock
  | cons b between ih =>
      obtain ⟨current, reading, computed⟩ := lineage.tail.computed List.mem_cons_self
      have waited := ih lineage.tail (fun a mem => enforced a (List.mem_cons_of_mem _ mem))
        ordered.tail computed.clock
      have later := (List.pairwise_cons.mp ordered.readings).1 b List.mem_cons_self
      exact waited.mono (later reading computed.clock now clock)

end Requests

/-- The calls that ask to be admitted. -/
def RateLimitCall.isRequest : RateLimitCall → Bool
  | passwordResetRequest .. | loginCodeRequest .. => true
  | _ => false

theorem RateLimitCall.enforced_of_isRequest {call : RateLimitCall}
    (request : call.isRequest = true) : call.enforced = true := by
  cases call <;> first | rfl | cases request

section Runs

variable {calls : RateLimitPool ι} {c : RateLimitConfig ι}

theorem enforced_of_mem (requests : ∀ i, (calls i).2.isRequest = true) (key : AuthRateLimitKey)
    (t : RateLimitTrace ι) {a : RateLimitAttempt} (mem : a ∈ calls.attempts key t) :
    a.enforced = true := by
  obtain ⟨_, i, _, _, _, -, -, -, rfl⟩ := mem_attempts mem
  exact RateLimitCall.enforced_of_isRequest (requests i)

/-- What a request was counted onto: nothing, or a state that did not restrict it. -/
def AdmittedOnto (calls : RateLimitPool ι) (early : RateLimitTrace ι) (key : AuthRateLimitKey)
    (expectedRevision : Option Uuid) (now : OffsetDateTime) : Prop :=
  expectedRevision = none ∨ ∃ stored,
    (calls.attempts key early).head?.map (·.snapshot) = some stored ∧
    expectedRevision = some stored.revision ∧
    (stored.state.expiresAt ≤ now ∨ Unrestricted stored.state now)

theorem admittedOnto_of_commit (reached : RateLimitReachable calls c)
    {late early : RateLimitTrace ι} {i : ι} {key : AuthRateLimitKey} {expectedRevision : Option Uuid}
    {snapshot : AuthRateLimitSnapshot} (request : (calls i).2.isRequest = true)
    (share : c.trace = late ++ (i, committedState key expectedRevision snapshot) :: early) :
    ∃ now, rateClock (Trace.of i early) = some now ∧
      AdmittedOnto calls early key expectedRevision now := by
  obtain ⟨w, w', reached_before, edge, -, -⟩ := reached.split share
  have sound := rateLimitSound_of_reachable reached_before
  obtain ⟨current, now, computed, present⟩ := (rateLimit_step edge).computed sound rfl
  refine ⟨now, computed.clock, ?_⟩
  cases current with
  | none => exact .inl computed.expected
  | some stored =>
      refine .inr ⟨stored, sound.stored (present stored rfl), computed.expected, ?_⟩
      exact activeRateLimitError_eq_none
        (computed.admitted (RateLimitCall.enforced_of_isRequest request) stored rfl)

/--
Admission is linear on every key.  In every run of requests, one that returned
`true` was counted exactly once on each of its keys, one that returned `false`
was not counted on the key that denied it, and every count was made on an absent
state or one that was expired or unrestricted at the request's own clock
reading.  If clock readings do not decrease in commit order, a request counted
after another one waited for the lock or backoff that one set.
-/
theorem request_admission_linear (requests : ∀ i, (calls i).2.isRequest = true)
    (reached : RateLimitReachable calls c) :
    (∀ i, Returned calls.program c i (.ok .recorded) →
      CountedOnce ((calls i).2.keys (calls i).1) (c.trace.of i)) ∧
    (∀ i, Returned calls.program c i (.ok .denied) →
      CountedUpTo ((calls i).2.keys (calls i).1) (c.trace.of i)) ∧
    (∀ late i key expectedRevision snapshot early,
      c.trace = late ++ (i, committedState key expectedRevision snapshot) :: early →
      ∃ now, rateClock (Trace.of i early) = some now ∧
        AdmittedOnto calls early key expectedRevision now) ∧
    ∀ key late newer between older rest now,
      calls.attempts key c.trace = late ++ newer :: (between ++ older :: rest) →
      OrderedClocks (newer :: (between ++ [older])) → newer.clock = some now →
      Unrestricted older.snapshot.state now := by
  refine ⟨?_, ?_, ?_, ?_⟩
  · intro i returned
    exact accounted_of_post
      ((RateLimitCall.verified (calls i).1 (calls i).2).post_of_path returned)
  · intro i returned
    exact accounted_of_post
      ((RateLimitCall.verified (calls i).1 (calls i).2).post_of_path returned)
  · intro late i key expectedRevision snapshot early share
    exact admittedOnto_of_commit reached (requests i) share
  · intro key late newer between older rest now listed ordered clock
    have lineage := lineage_of_reachable reached key
    rw [listed] at lineage
    refine Lineage.separated (lineage.suffix late) ?_ ordered clock
    intro a mem
    apply enforced_of_mem requests key c.trace
    rw [listed]
    exact List.mem_append_right late (List.mem_append_left (older :: rest) mem)

end Runs

/-- Password-reset requests for one principal. -/
def resetRequests : RateLimitPool Nat := fun _ =>
  (limitedService AuthRateLimitConfig.default.request, .passwordResetRequest "ada" {})

def resetKey : AuthRateLimitKey :=
  (limitedService AuthRateLimitConfig.default.request).rateLimitKey .passwordResetRequest
    .principal "ada"

/-- Requests 0 and 1 race, and request 2 comes after the backoff of the winner. -/
def resetRequestRun : Running (rateLimitHost 16384 (steadyClock 15)) resetRequests.program :=
  Running.start.schedule [0, 0, 1, 1, 0, 1, 0, 1, 1, 2, 2, 2, 2]

theorem resetRequestRun_attempts :
    ∃ newer older now, resetRequests.attempts resetKey resetRequestRun.config.trace =
        [newer, older] ∧ OrderedClocks [newer, older] ∧ newer.clock = some now ∧
      older.snapshot.state.backoffUntil.isSome = true := by
  refine ⟨_, _, _, rfl, orderedClocks_pair rfl rfl ?_ rfl, rfl, rfl⟩
  decide

theorem raced_requests_admitted_apart :
    CountedOnce [resetKey] (resetRequestRun.config.trace.of 0) ∧
      CountedUpTo [resetKey] (resetRequestRun.config.trace.of 1) ∧
      ∃ newer older now, resetRequests.attempts resetKey resetRequestRun.config.trace =
          [newer, older] ∧ newer.clock = some now ∧
        older.snapshot.state.backoffUntil.isSome = true ∧
        Unrestricted older.snapshot.state now := by
  obtain ⟨newer, older, now, listed, ordered, clock, backoff⟩ := resetRequestRun_attempts
  obtain ⟨admitted, denied, -, apart⟩ :=
    request_admission_linear (fun _ => rfl) resetRequestRun.reached
  exact ⟨admitted 0 (Running.returned_of_result? rfl), denied 1 (Running.returned_of_result? rfl),
    newer, older, now, listed, clock, backoff,
    apart resetKey [] newer [] older [] now listed ordered clock⟩

end AgqlAuth
