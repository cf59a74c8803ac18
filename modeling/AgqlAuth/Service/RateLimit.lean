import AgqlAuth.Service.Effects

/-!
# Abuse protection

The pure window, backoff and lockout transition, and the read, compare-and-swap
and conditional-clear loops that apply it to a shared store.
-/

namespace AgqlAuth

def checkedRateLimitTimeAdd (value : OffsetDateTime) (duration : Duration) (operation : String) :
    AuthResult OffsetDateTime :=
  match value.checkedAdd duration with
  | some sum => .ok sum
  | none => .error (.invalidConfiguration (operation ++ " arithmetic overflowed"))

def maxTime (current : Option OffsetDateTime) (candidate : OffsetDateTime) : OffsetDateTime :=
  match current with
  | some current => if candidate ≤ current then current else candidate
  | none => candidate

/-- `i32::saturating_mul` by two. -/
def saturatingDouble (multiplier : Int) : Int := max (-(2 ^ 31)) (min (multiplier * 2) (2 ^ 31 - 1))

/-- The loop of `backoff_duration` and the value after it. -/
def backoffFrom (policy : AuthRateLimitPolicy) : Nat → Int → Duration
  | 0, multiplier => min ((policy.baseBackoff.checkedMul multiplier).getD policy.maxBackoff)
      policy.maxBackoff
  | remaining + 1, multiplier =>
      let multiplier := saturatingDouble multiplier
      match policy.baseBackoff.checkedMul multiplier with
      | none => policy.maxBackoff
      | some candidate =>
          if policy.maxBackoff ≤ candidate then policy.maxBackoff
          else backoffFrom policy remaining multiplier

def backoffDuration (policy : AuthRateLimitPolicy) (attempts : Nat) : Duration :=
  if policy.baseBackoff = Duration.zero then Duration.zero
  else backoffFrom policy (min (attempts - policy.backoffAfterAttempts) 30) 1

/-- Whether an attempt at `now` opens a new counting window. -/
def resetsWindow (current : Option AuthRateLimitState) (policy : AuthRateLimitPolicy)
    (now : OffsetDateTime) : AuthResult Bool :=
  match current with
  | none => .ok true
  | some state =>
      if state.expiresAt ≤ now then .ok true
      else
        match checkedRateLimitTimeAdd state.firstAttemptAt policy.window "rate-limit window end" with
        | .error e => .error e
        | .ok windowEnd => .ok (decide (windowEnd ≤ now))

/-- The attempt count and the first attempt of the window after one more attempt. -/
def countAttempt (current : Option AuthRateLimitState) (resetWindow : Bool)
    (now : OffsetDateTime) : Nat × OffsetDateTime :=
  match resetWindow, current with
  | false, some state => (min (state.attempts + 1) maxU32, state.firstAttemptAt)
  | _, _ => (1, now)

theorem countAttempt_le (current : Option AuthRateLimitState) (resetWindow : Bool)
    (now : OffsetDateTime) : (countAttempt current resetWindow now).1 ≤ maxU32 := by
  unfold countAttempt
  split
  · exact Nat.min_le_right _ _
  · show 1 ≤ maxU32
    decide

/-- `(backoff_until, locked_until)` for an attempt count. -/
def restrictions (policy : AuthRateLimitPolicy) (attempts : Nat) (now : OffsetDateTime) :
    AuthResult (Option OffsetDateTime × Option OffsetDateTime) :=
  if policy.maxAttemptsBeforeLockout ≤ attempts then
    match checkedRateLimitTimeAdd now policy.lockoutDuration "rate-limit lockout end" with
    | .error e => .error e
    | .ok until_ => .ok (none, some until_)
  else if policy.backoffAfterAttempts ≤ attempts then
    match checkedRateLimitTimeAdd now (backoffDuration policy attempts) "rate-limit backoff end" with
    | .error e => .error e
    | .ok until_ => .ok (some until_, none)
  else .ok (none, none)

/-- The first instant at which a store may delete the state. -/
def stateExpiry (policy : AuthRateLimitPolicy) (firstAttemptAt now : OffsetDateTime)
    (backoffUntil lockedUntil : Option OffsetDateTime) : AuthResult OffsetDateTime := do
  let expiresAt ← checkedRateLimitTimeAdd now policy.stateTtl "rate-limit state expiry"
  let windowEnd ← checkedRateLimitTimeAdd firstAttemptAt policy.window "rate-limit window end"
  let expiresAt := maxTime (some expiresAt) windowEnd
  let expiresAt := match backoffUntil with
    | some until_ => maxTime (some expiresAt) until_
    | none => expiresAt
  pure (match lockedUntil with
    | some until_ => maxTime (some expiresAt) until_
    | none => expiresAt)

def nextRateLimitState (key : AuthRateLimitKey) (current : Option AuthRateLimitState)
    (policy : AuthRateLimitPolicy) (now : OffsetDateTime) : AuthResult AuthRateLimitState := do
  let resetWindow ← resetsWindow current policy now
  let counted := countAttempt current resetWindow now
  let until_ ← restrictions policy counted.1 now
  let expiresAt ← stateExpiry policy counted.2 now until_.1 until_.2
  pure {
    key
    attempts := counted.1
    attempts_le := countAttempt_le current resetWindow now
    firstAttemptAt := counted.2
    lastAttemptAt := now
    backoffUntil := until_.1
    lockedUntil := until_.2
    expiresAt }

def retryAfterSeconds (now until_ : OffsetDateTime) : Int :=
  max (until_.unixTimestamp - now.unixTimestamp) 1

/-- The lock or backoff in force at `now`. -/
def activeRateLimitError (state : AuthRateLimitState) (now : OffsetDateTime) : Option AuthError :=
  if state.expiresAt ≤ now then none
  else
    match state.lockedUntil.filter (now < ·) with
    | some until_ => some (.authLocked (retryAfterSeconds now until_))
    | none =>
        (state.backoffUntil.filter (now < ·)).map fun until_ =>
          .authThrottled (retryAfterSeconds now until_)

def normalizePrincipalBucket (value : String) : Option String :=
  let normalized := toAsciiLowercase (trim value)
  if normalized.isEmpty then none else some normalized

def normalizeClientBucket (value : String) : Option String :=
  let normalized := trim value
  if normalized.isEmpty then none else some normalized

namespace AuthService

def hashRateLimitValue (self : AuthService) (value : String) : String := self.hashOpaqueToken value

def rateLimitKey (self : AuthService) (flow : AuthRateLimitFlow) (bucket : AuthRateLimitBucket)
    (normalizedValue : String) : AuthRateLimitKey where
  valueHash := self.hashRateLimitValue
    (flow.asStr ++ ":" ++ bucket.asStr ++ ":" ++ normalizedValue)
  flow
  bucket

def rateLimitKeys (self : AuthService) (flow : AuthRateLimitFlow) (principal : Option String)
    (metadata : ClientMetadata) : List AuthRateLimitKey :=
  let principalKeys := match principal.bind normalizePrincipalBucket with
    | some principal => [self.rateLimitKey flow .principal principal]
    | none => []
  let clientKeys := match metadata.ipAddress.bind normalizeClientBucket with
    | some client => [self.rateLimitKey flow .client client]
    | none => []
  principalKeys ++ clientKeys

end AuthService

inductive RateLimitRecordOutcome where
  | recorded
  | denied
  deriving DecidableEq

/-- The revision a key had at its admission check. -/
structure RateLimitObservation where
  key : AuthRateLimitKey
  revision : Option Uuid

abbrev RateLimitPermit := List RateLimitObservation

def maxRateLimitCasRetries : Nat := 256

/-- The read, compute, compare-and-swap loop. -/
def recordRateLimitAttemptForKeyWithin (policy : AuthRateLimitPolicy) (key : AuthRateLimitKey)
    (now : OffsetDateTime) (enforceBeforeRecord : Bool) : Nat → AuthM RateLimitRecordOutcome
  | 0 => throwAuth (.store "rate-limit compare-and-swap retry limit exceeded")
  | retries + 1 => do
      let current ← findAuthRateLimitState key
      if enforceBeforeRecord &&
          current.any fun snapshot => (activeRateLimitError snapshot.state now).isSome then
        pure .denied
      else do
        let next ← liftResult
          (nextRateLimitState key (current.map (·.state)) policy now)
        let revision ← newUuid
        let committed ← compareExchangeAuthRateLimitState key (current.map (·.revision))
          { state := next, revision }
        if committed then pure .recorded
        else recordRateLimitAttemptForKeyWithin policy key now enforceBeforeRecord retries

def recordRateLimitAttemptForKey (policy : AuthRateLimitPolicy) (key : AuthRateLimitKey)
    (now : OffsetDateTime) (enforceBeforeRecord : Bool) : AuthM RateLimitRecordOutcome :=
  recordRateLimitAttemptForKeyWithin policy key now enforceBeforeRecord maxRateLimitCasRetries

/-- The key loop of `record_rate_limit_attempt`. -/
def recordAttempts (policy : AuthRateLimitPolicy) (now : OffsetDateTime) :
    List AuthRateLimitKey → AuthM Unit
  | [] => pure ()
  | key :: keys => do
      match ← recordRateLimitAttemptForKey policy key now false with
      | .recorded => recordAttempts policy now keys
      | .denied => throwAuth (.store "credential failure recording was unexpectedly denied")

def recordRateLimitAttempt (policy : AuthRateLimitPolicy) (keys : List AuthRateLimitKey) :
    AuthM Unit := do
  if !policy.enabled || keys.isEmpty then pure ()
  else do
    let now ← AgqlAuth.now .rateLimit
    recordAttempts policy now keys

/-- The key loop of `record_rate_limit_request_if_allowed`. -/
def recordRequests (policy : AuthRateLimitPolicy) (now : OffsetDateTime) :
    List AuthRateLimitKey → AuthM Bool
  | [] => pure true
  | key :: keys => do
      match ← recordRateLimitAttemptForKey policy key now true with
      | .recorded => recordRequests policy now keys
      | .denied => pure false

def recordRateLimitRequestIfAllowed (policy : AuthRateLimitPolicy)
    (keys : List AuthRateLimitKey) : AuthM Bool := do
  if !policy.enabled || keys.isEmpty then pure true
  else do
    let now ← AgqlAuth.now .rateLimit
    recordRequests policy now keys

/-- What the admission check has seen so far. -/
structure RateLimitScan where
  lockedUntil : Option OffsetDateTime := none
  backoffUntil : Option OffsetDateTime := none
  observations : List RateLimitObservation := []

/-- Account for one observed snapshot. -/
def RateLimitScan.observe (self : RateLimitScan) (key : AuthRateLimitKey) (now : OffsetDateTime)
    (snapshot : Option AuthRateLimitSnapshot) : RateLimitScan :=
  let observations :=
    self.observations ++ [{ key, revision := snapshot.map (·.revision) }]
  match snapshot with
  | none => { self with observations }
  | some snapshot =>
      if snapshot.state.expiresAt ≤ now then { self with observations }
      else
        match snapshot.state.lockedUntil.filter (now < ·) with
        | some until_ =>
            { self with observations, lockedUntil := some (maxTime self.lockedUntil until_) }
        | none =>
            match snapshot.state.backoffUntil.filter (now < ·) with
            | some until_ =>
                { self with observations, backoffUntil := some (maxTime self.backoffUntil until_) }
            | none => { self with observations }

/-- The key loop of `reject_if_rate_limited`. -/
def scanRateLimits (now : OffsetDateTime) (scan : RateLimitScan) :
    List AuthRateLimitKey → AuthM RateLimitScan
  | [] => pure scan
  | key :: keys => do
      let snapshot ← findAuthRateLimitState key
      scanRateLimits now (scan.observe key now snapshot) keys

def RateLimitScan.decide (self : RateLimitScan) (now : OffsetDateTime) :
    AuthResult RateLimitPermit :=
  match self.lockedUntil with
  | some until_ => .error (.authLocked (retryAfterSeconds now until_))
  | none =>
      match self.backoffUntil with
      | some until_ => .error (.authThrottled (retryAfterSeconds now until_))
      | none => .ok self.observations

def rejectIfRateLimited (policy : AuthRateLimitPolicy) (keys : List AuthRateLimitKey) :
    AuthM RateLimitPermit := do
  if !policy.enabled || keys.isEmpty then pure []
  else do
    let now ← AgqlAuth.now .rateLimit
    let scan ← scanRateLimits now {} keys
    liftResult (scan.decide now)

/-- The loop of `clear_rate_limit_attempts`; a conflict is not an error. -/
def clearObservations : List RateLimitObservation → AuthM Unit
  | [] => pure ()
  | observation :: rest => do
      let _cleared ← clearAuthRateLimitState observation.key observation.revision
      clearObservations rest

def clearRateLimitAttempts (policy : AuthRateLimitPolicy) (permit : RateLimitPermit) :
    AuthM Unit := do
  if !policy.enabled || permit.isEmpty then pure ()
  else clearObservations permit

namespace AuthService

def recordRequestRateLimit (self : AuthService) (flow : AuthRateLimitFlow) (principal : String)
    (metadata : ClientMetadata) : AuthM Bool :=
  recordRateLimitRequestIfAllowed self.config.rateLimits.request
    (self.rateLimitKeys flow (some principal) metadata)

def shouldProcessPasswordResetRequest (self : AuthService) (principal : String)
    (metadata : ClientMetadata) : AuthM Bool :=
  self.recordRequestRateLimit .passwordResetRequest principal metadata

def shouldProcessLoginCodeRequest (self : AuthService) (principal : String)
    (metadata : ClientMetadata) : AuthM Bool :=
  self.recordRequestRateLimit .loginCodeRequest principal metadata

end AuthService

end AgqlAuth
