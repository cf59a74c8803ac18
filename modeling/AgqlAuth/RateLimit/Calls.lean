import AgqlAuth.Service.Login

/-!
# The calls on a rate-limit store

Recording failures, recording requests, and credential flows that check
admission first and then clear or record.  Each is verified once, under
arbitrary answers: which compare-and-swaps and clears it may ask for, and which
of its keys it has counted when it returns.
-/

namespace AgqlAuth

open Interaction Program

/-- The latest reading of the rate-limit clock. -/
def rateClock : AuthHistory → Option OffsetDateTime
  | [] => none
  | ⟨.now .rateLimit, now⟩ :: _ => some now
  | _ :: h => rateClock h

/-- The store answered `current` when asked for `key`. -/
def observedState (key : AuthRateLimitKey) (current : Option AuthRateLimitSnapshot) : AuthEvent :=
  ⟨.findAuthRateLimitState key, (.ok current : AuthResult (Option AuthRateLimitSnapshot))⟩

/-- The store committed `replacement` over the expected revision. -/
def committedState (key : AuthRateLimitKey) (expectedRevision : Option Uuid)
    (replacement : AuthRateLimitSnapshot) : AuthEvent :=
  ⟨.compareExchangeAuthRateLimitState key expectedRevision replacement,
    (.ok true : AuthResult Bool)⟩

/-- The store cleared the expected revision. -/
def clearedState (key : AuthRateLimitKey) (expectedRevision : Option Uuid) : AuthEvent :=
  ⟨.clearAuthRateLimitState key expectedRevision, (.ok true : AuthResult Bool)⟩

/-- One committed compare-and-swap. -/
structure CommittedUpdate where
  key : AuthRateLimitKey
  expectedRevision : Option Uuid
  snapshot : AuthRateLimitSnapshot

def commitOf : AuthEvent → Option CommittedUpdate
  | ⟨.compareExchangeAuthRateLimitState key expectedRevision snapshot,
      (.ok true : AuthResult Bool)⟩ => some ⟨key, expectedRevision, snapshot⟩
  | _ => none

def committedKey (e : AuthEvent) : Option AuthRateLimitKey := (commitOf e).map (·.key)

/-- The keys a call has counted, in order. -/
def committedKeys (h : AuthHistory) : List AuthRateLimitKey := (h.filterMap committedKey).reverse

section Histories

variable {h late : AuthHistory} {e : AuthEvent} {key : AuthRateLimitKey}

theorem committedKeys_cons_none (uncommitted : committedKey e = none) :
    committedKeys (e :: h) = committedKeys h := by
  rw [committedKeys, List.filterMap_cons_none uncommitted]
  rfl

theorem committedKeys_cons_some (committed : committedKey e = some key) :
    committedKeys (e :: h) = committedKeys h ++ [key] := by
  rw [committedKeys, List.filterMap_cons_some committed, List.reverse_cons]
  rfl

/-- Operations that neither count, clear nor read the rate-limit clock. -/
def outsideOp : AuthOp → Bool
  | .now .rateLimit | .findAuthRateLimitState _ | .compareExchangeAuthRateLimitState ..
  | .clearAuthRateLimitState .. => false
  | _ => true

/-- Only a compare-and-swap that was answered `true` commits. -/
theorem eq_committedState {update : CommittedUpdate} (commit : commitOf e = some update) :
    e = committedState update.key update.expectedRevision update.snapshot := by
  obtain ⟨op, resp⟩ := e
  cases op with
  | compareExchangeAuthRateLimitState key expectedRevision snapshot =>
      rcases resp with _ | _ | _
      · cases commit
      · cases commit
      · cases commit
        rfl
  | _ => cases commit

theorem committedKey_outside (outside : outsideOp e.op = true) : committedKey e = none := by
  obtain ⟨op, resp⟩ := e
  cases op <;> first | rfl | cases outside

theorem committedKeys_outside (outside : ∀ e ∈ late, outsideOp e.op = true) :
    committedKeys (late ++ h) = committedKeys h := by
  induction late with
  | nil => rfl
  | cons e late ih =>
      rw [List.cons_append,
        committedKeys_cons_none (committedKey_outside (outside e List.mem_cons_self))]
      exact ih fun e' mem => outside e' (List.mem_cons_of_mem e mem)

end Histories

/-- What a call knows when it asks the store to replace a state. -/
structure UpdatePlan (policy : AuthRateLimitPolicy) (enforced : Bool) (h : AuthHistory)
    (key : AuthRateLimitKey) (expectedRevision : Option Uuid)
    (replacement : AuthRateLimitSnapshot) (current : Option AuthRateLimitSnapshot)
    (now : OffsetDateTime) : Prop where
  drawn : h.head? = some (drew replacement.revision)
  read : observedState key current ∈ h
  expected : expectedRevision = current.map (·.revision)
  clock : rateClock h = some now
  computed : nextRateLimitState key (current.map (·.state)) policy now = .ok replacement.state
  admitted : enforced = true → ∀ snapshot ∈ current,
    activeRateLimitError snapshot.state now = none

/-- The operations a call may issue; `enforced` calls do not count while restricted. -/
def rateLimitGuard (policy : AuthRateLimitPolicy) (enforced : Bool) (h : AuthHistory) :
    AuthOp → Prop
  | .compareExchangeAuthRateLimitState key expectedRevision replacement =>
      ∃ current now, UpdatePlan policy enforced h key expectedRevision replacement current now
  | .clearAuthRateLimitState key expectedRevision =>
      ∃ current, observedState key current ∈ h ∧ expectedRevision = current.map (·.revision)
  | _ => True

theorem rateLimitGuard_outside {policy : AuthRateLimitPolicy} {enforced : Bool} (h : AuthHistory)
    (op : AuthOp) (outside : outsideOp op = true) : rateLimitGuard policy enforced h op := by
  cases op <;> trivial

section Loops

variable {policy : AuthRateLimitPolicy} {enforced : Bool} {now : OffsetDateTime}
variable {key : AuthRateLimitKey} {keys before : List AuthRateLimitKey} {h : AuthHistory}

/-- One key is counted exactly when the loop reports it recorded. -/
def CountsKey (now : OffsetDateTime) (before : List AuthRateLimitKey) (key : AuthRateLimitKey)
    (h : AuthHistory) (result : AuthResult RateLimitRecordOutcome) : Prop :=
  rateClock h = some now ∧
    committedKeys h = before ++ if result = .ok .recorded then [key] else []

theorem CountsKey.uncounted {result : AuthResult RateLimitRecordOutcome}
    (clock : rateClock h = some now) (uncounted : committedKeys h = before)
    (unrecorded : result ≠ .ok .recorded) : CountsKey now before key h result :=
  ⟨clock, by rw [if_neg unrecorded, List.append_nil, uncounted]⟩

/-- Counting stopped at a key, which is not counted. -/
def StoppedAt (before keys : List AuthRateLimitKey) (h : AuthHistory) : Prop :=
  ∃ done key rest, keys = done ++ key :: rest ∧ committedKeys h = before ++ done

theorem StoppedAt.cons (stopped : StoppedAt (before ++ [key]) keys h) :
    StoppedAt before (key :: keys) h := by
  obtain ⟨done, last, rest, rfl, counted⟩ := stopped
  refine ⟨key :: done, last, rest, rfl, ?_⟩
  rw [counted, List.append_assoc]
  rfl

theorem StoppedAt.first (uncounted : committedKeys h = before) :
    StoppedAt before (key :: keys) h :=
  ⟨[], key, keys, rfl, by rw [uncounted, List.append_nil]⟩

theorem recordRateLimitAttemptForKeyWithin_upholds (retries : Nat) :
    ∀ {h : AuthHistory}, rateClock h = some now → committedKeys h = before →
      Upholds (S := authSignature) (rateLimitGuard policy enforced) (CountsKey now before key) h
        (recordRateLimitAttemptForKeyWithin policy key now enforced retries) := by
  induction retries with
  | zero =>
      intro h clock uncounted
      exact .uncounted clock uncounted nofun
  | succ retries ih =>
      intro h clock uncounted
      unfold recordRateLimitAttemptForKeyWithin
      apply Fallible.Upholds.bind
      apply Upholds.await trivial
      intro resp
      rcases resp with e | current
      · exact .uncounted clock uncounted nofun
      · apply Fallible.Upholds.branch
        · intro _
          exact .uncounted clock uncounted nofun
        · intro unrestricted
          apply Fallible.Upholds.lift_bind
          · intro next computed
            apply Fallible.Upholds.perform_bind trivial
            intro revision
            apply Fallible.Upholds.bind
            apply Upholds.await
            · refine ⟨current, now, rfl, List.mem_cons_of_mem _ List.mem_cons_self, rfl, clock,
                computed, ?_⟩
              rintro rfl snapshot rfl
              simpa using unrestricted
            · intro resp
              rcases resp with e | _ | _
              · exact .uncounted clock uncounted nofun
              · exact ih clock uncounted
              · refine ⟨clock, ?_⟩
                rw [if_pos rfl, ← uncounted]
                exact committedKeys_cons_some rfl
          · intro e _
            exact .uncounted clock uncounted nofun

/-- What the rest of a key loop has done, seen from before its first key. -/
theorem counted_or_stopped_cons {before keys : List AuthRateLimitKey} {key : AuthRateLimitKey}
    {h : AuthHistory} {done : Prop} [Decidable done]
    (outcome : if done then committedKeys h = before ++ key :: keys
      else StoppedAt (before ++ [key]) keys h) :
    if done then committedKeys h = before ++ key :: keys else StoppedAt before (key :: keys) h := by
  split at outcome
  case isTrue finished => rwa [if_pos finished]
  case isFalse stopped =>
    rw [if_neg stopped]
    exact StoppedAt.cons outcome

/-- The two key loops: all keys are counted, or counting stopped at one. -/
theorem recordAttempts_upholds (keys : List AuthRateLimitKey) :
    ∀ {before : List AuthRateLimitKey} {h : AuthHistory}, rateClock h = some now →
      committedKeys h = before →
      Upholds (S := authSignature) (rateLimitGuard policy false)
        (fun h result => if result = .ok () then committedKeys h = before ++ keys
          else StoppedAt before keys h) h
        (recordAttempts policy now keys) := by
  induction keys with
  | nil =>
      intro before h _ uncounted
      simpa [recordAttempts, Upholds] using uncounted
  | cons key keys ih =>
      intro before h clock uncounted
      apply Fallible.Upholds.bind
      refine (recordRateLimitAttemptForKeyWithin_upholds _ clock uncounted).mono
        (fun _ _ hg => hg) ?_
      rintro h (e | _ | _) ⟨clock, counted⟩
      · exact StoppedAt.first (by simpa using counted)
      · refine (ih clock counted).mono (fun _ _ hg => hg) ?_
        intro h result outcome
        exact counted_or_stopped_cons (by simpa using outcome)
      · exact StoppedAt.first (by simpa using counted)

theorem recordRequests_upholds (keys : List AuthRateLimitKey) :
    ∀ {before : List AuthRateLimitKey} {h : AuthHistory}, rateClock h = some now →
      committedKeys h = before →
      Upholds (S := authSignature) (rateLimitGuard policy true)
        (fun h result => if result = .ok true then committedKeys h = before ++ keys
          else StoppedAt before keys h) h
        (recordRequests policy now keys) := by
  induction keys with
  | nil =>
      intro before h _ uncounted
      simpa [recordRequests, Upholds] using uncounted
  | cons key keys ih =>
      intro before h clock uncounted
      apply Fallible.Upholds.bind
      refine (recordRateLimitAttemptForKeyWithin_upholds _ clock uncounted).mono
        (fun _ _ hg => hg) ?_
      rintro h (e | _ | _) ⟨clock, counted⟩
      · exact StoppedAt.first (by simpa using counted)
      · refine (ih clock counted).mono (fun _ _ hg => hg) ?_
        intro h result outcome
        exact counted_or_stopped_cons (by simpa using outcome)
      · exact StoppedAt.first (by simpa using counted)

/-- The keys a loop counts: none under a disabled policy. -/
def countedKeys (policy : AuthRateLimitPolicy) (keys : List AuthRateLimitKey) :
    List AuthRateLimitKey :=
  if policy.enabled then keys else []

theorem countedKeys_idle (idle : (!policy.enabled || keys.isEmpty) = true) :
    countedKeys policy keys = [] := by
  unfold countedKeys
  cases enabled : policy.enabled with
  | false => rfl
  | true => simpa [enabled] using idle

theorem countedKeys_enabled (active : ¬ (!policy.enabled || keys.isEmpty) = true) :
    countedKeys policy keys = keys := by
  simp only [Bool.or_eq_true, Bool.not_eq_true', not_or, Bool.not_eq_false] at active
  exact if_pos active.1

theorem recordRateLimitAttempt_upholds (uncounted : committedKeys h = []) :
    Upholds (S := authSignature) (rateLimitGuard policy false)
      (fun h result => if result = .ok () then committedKeys h = countedKeys policy keys
        else StoppedAt [] (countedKeys policy keys) h) h
      (recordRateLimitAttempt policy keys) := by
  apply Fallible.Upholds.branch
  · intro idle
    rw [countedKeys_idle idle]
    simpa [Upholds] using uncounted
  · intro active
    rw [countedKeys_enabled active]
    apply Fallible.Upholds.perform_bind trivial
    intro now
    exact recordAttempts_upholds keys rfl uncounted

theorem recordRateLimitRequestIfAllowed_upholds (uncounted : committedKeys h = []) :
    Upholds (S := authSignature) (rateLimitGuard policy true)
      (fun h result => if result = .ok true then committedKeys h = countedKeys policy keys
        else StoppedAt [] (countedKeys policy keys) h) h
      (recordRateLimitRequestIfAllowed policy keys) := by
  apply Fallible.Upholds.branch
  · intro idle
    rw [countedKeys_idle idle]
    simpa [Upholds] using uncounted
  · intro active
    rw [countedKeys_enabled active]
    apply Fallible.Upholds.perform_bind trivial
    intro now
    exact recordRequests_upholds keys rfl uncounted

/-- Every observation of a permit is one the call made. -/
def Permitted (h : AuthHistory) (permit : RateLimitPermit) : Prop :=
  ∀ observation ∈ permit, ∃ current, observedState observation.key current ∈ h ∧
    observation.revision = current.map (·.revision)

theorem permitted_nil : Permitted h [] := by
  intro observation mem
  cases mem

theorem Permitted.mono {h' : AuthHistory} {permit : RateLimitPermit} (permitted : Permitted h permit)
    (longer : h ⊆ h') : Permitted h' permit := by
  intro observation mem
  obtain ⟨current, observed, revision⟩ := permitted observation mem
  exact ⟨current, longer observed, revision⟩

/-- Whatever the snapshot restricts, its revision is remembered. -/
theorem RateLimitScan.observe_observations (scan : RateLimitScan) (key : AuthRateLimitKey)
    (now : OffsetDateTime) (snapshot : Option AuthRateLimitSnapshot) :
    (scan.observe key now snapshot).observations =
      scan.observations ++ [{ key, revision := snapshot.map (·.revision) }] := by
  unfold RateLimitScan.observe
  cases snapshot with
  | none => rfl
  | some snapshot =>
      dsimp only
      split
      · rfl
      · split
        · rfl
        · split <;> rfl

theorem scanRateLimits_upholds (keys : List AuthRateLimitKey) :
    ∀ {scan : RateLimitScan} {h : AuthHistory}, committedKeys h = before →
      Permitted h scan.observations →
      Upholds (S := authSignature) (rateLimitGuard policy enforced)
        (fun h result => committedKeys h = before ∧
          ∀ scan, result = .ok scan → Permitted h scan.observations) h
        (scanRateLimits now scan keys) := by
  induction keys with
  | nil =>
      intro scan h uncounted permitted
      refine ⟨uncounted, ?_⟩
      rintro _ ⟨⟩
      exact permitted
  | cons key keys ih =>
      intro scan h uncounted permitted
      apply Fallible.Upholds.bind
      apply Upholds.await trivial
      intro resp
      rcases resp with e | current
      · refine ⟨uncounted, ?_⟩
        rintro _ ⟨⟩
      · refine ih uncounted ?_
        rw [RateLimitScan.observe_observations]
        intro observation mem
        rcases List.mem_append.mp mem with mem | mem
        · obtain ⟨current', observed, revision⟩ := permitted observation mem
          exact ⟨current', List.mem_cons_of_mem _ observed, revision⟩
        · rw [List.mem_singleton.mp mem]
          exact ⟨current, List.mem_cons_self, rfl⟩

theorem rejectIfRateLimited_upholds (uncounted : committedKeys h = before) :
    Upholds (S := authSignature) (rateLimitGuard policy enforced)
      (fun h result => committedKeys h = before ∧
        ∀ permit, result = .ok permit → Permitted h permit) h
      (rejectIfRateLimited policy keys) := by
  apply Fallible.Upholds.branch
  · intro _
    refine ⟨uncounted, ?_⟩
    rintro _ ⟨⟩
    exact permitted_nil
  · intro _
    apply Fallible.Upholds.perform_bind trivial
    intro now
    apply Fallible.Upholds.bind
    refine (scanRateLimits_upholds (h := ⟨.now .rateLimit, now⟩ :: h) keys uncounted
      permitted_nil).mono (fun _ _ hg => hg) ?_
    rintro h (e | scan) ⟨uncounted, observed⟩
    · refine ⟨uncounted, ?_⟩
      rintro _ ⟨⟩
    · refine ⟨uncounted, fun permit decided => ?_⟩
      have permitted := observed scan rfl
      unfold RateLimitScan.decide at decided
      split at decided
      · cases decided
      · split at decided
        · cases decided
        · cases decided
          exact permitted

theorem clearObservations_upholds (permit : RateLimitPermit) :
    ∀ {h : AuthHistory}, committedKeys h = before → Permitted h permit →
      Upholds (S := authSignature) (rateLimitGuard policy enforced)
        (fun h _ => committedKeys h = before) h (clearObservations permit) := by
  induction permit with
  | nil =>
      intro h uncounted _
      exact uncounted
  | cons observation permit ih =>
      intro h uncounted permitted
      apply Fallible.Upholds.bind
      apply Upholds.await
      · obtain ⟨current, observed, revision⟩ := permitted observation List.mem_cons_self
        exact ⟨current, observed, revision⟩
      · intro resp
        rcases resp with e | cleared
        · exact uncounted
        · refine ih uncounted (Permitted.mono ?_ (List.subset_cons_self _ _))
          exact fun other mem => permitted other (List.mem_cons_of_mem _ mem)

theorem clearRateLimitAttempts_upholds {permit : RateLimitPermit}
    (uncounted : committedKeys h = before) (permitted : Permitted h permit) :
    Upholds (S := authSignature) (rateLimitGuard policy enforced)
      (fun h _ => committedKeys h = before) h (clearRateLimitAttempts policy permit) := by
  apply Fallible.Upholds.branch
  · intro _
    exact uncounted
  · intro _
    exact clearObservations_upholds permit uncounted permitted

end Loops

/-- The work between admission and its result; it does not touch rate limits. -/
structure CredentialCheck where
  run : AuthM Bool
  outside : Issues (S := authSignature) (fun op => outsideOp op = true) run

inductive RateLimitCall where
  | recordFailure (flow : AuthRateLimitFlow) (principal : Option String)
      (metadata : ClientMetadata)
  | passwordResetRequest (principal : String) (metadata : ClientMetadata)
  | loginCodeRequest (principal : String) (metadata : ClientMetadata)
  /-- A credential flow: admission, the check itself, then a clear or a failure. -/
  | credential (flow : AuthRateLimitFlow) (principal : Option String) (metadata : ClientMetadata)
      (check : CredentialCheck)
  | login (principal password : String) (metadata : ClientMetadata)

/-- What a call says it did to its keys. -/
inductive RateLimitReport where
  | recorded
  | denied
  | cleared
  deriving DecidableEq

namespace RateLimitCall

def policy (svc : AuthService) : RateLimitCall → AuthRateLimitPolicy
  | passwordResetRequest .. | loginCodeRequest .. => svc.config.rateLimits.request
  | _ => svc.config.rateLimits.credential

/-- Requests are not counted while a restriction is active. -/
def enforced : RateLimitCall → Bool
  | passwordResetRequest .. | loginCodeRequest .. => true
  | _ => false

def ownKeys (svc : AuthService) : RateLimitCall → List AuthRateLimitKey
  | recordFailure flow principal metadata => svc.rateLimitKeys flow principal metadata
  | passwordResetRequest principal metadata =>
      svc.rateLimitKeys .passwordResetRequest (some principal) metadata
  | loginCodeRequest principal metadata =>
      svc.rateLimitKeys .loginCodeRequest (some principal) metadata
  | credential flow principal metadata _ => svc.rateLimitKeys flow principal metadata
  | login principal _ metadata => svc.rateLimitKeys .passwordLogin (some principal) metadata

/-- The keys a call counts. -/
def keys (svc : AuthService) (call : RateLimitCall) : List AuthRateLimitKey :=
  countedKeys (call.policy svc) (call.ownKeys svc)

def reportAdmission (admitted : Bool) : RateLimitReport :=
  if admitted then .recorded else .denied

def program (svc : AuthService) : RateLimitCall → AuthM RateLimitReport
  | recordFailure flow principal metadata => do
      recordRateLimitAttempt svc.config.rateLimits.credential
        (svc.rateLimitKeys flow principal metadata)
      pure .recorded
  | passwordResetRequest principal metadata => do
      let admitted ← svc.shouldProcessPasswordResetRequest principal metadata
      pure (reportAdmission admitted)
  | loginCodeRequest principal metadata => do
      let admitted ← svc.shouldProcessLoginCodeRequest principal metadata
      pure (reportAdmission admitted)
  | credential flow principal metadata check => do
      let permit ← rejectIfRateLimited svc.config.rateLimits.credential
        (svc.rateLimitKeys flow principal metadata)
      let verified ← check.run
      if verified then do
        clearRateLimitAttempts svc.config.rateLimits.credential permit
        pure .cleared
      else do
        recordRateLimitAttempt svc.config.rateLimits.credential
          (svc.rateLimitKeys flow principal metadata)
        pure .recorded
  | login principal password metadata => do
      let _payload ← svc.login principal password metadata
      pure .cleared

end RateLimitCall

/--
What the result of a call says about the keys it counted.  A failed login is
reported as an error after its failure was counted.
-/
def rateLimitPost (svc : AuthService) (call : RateLimitCall) (h : AuthHistory) :
    AuthResult RateLimitReport → Prop
  | .ok .recorded => committedKeys h = call.keys svc
  | .ok .denied => StoppedAt [] (call.keys svc) h
  | .ok .cleared => committedKeys h = []
  | .error _ =>
      match call with
      | .recordFailure .. | .passwordResetRequest .. | .loginCodeRequest .. =>
          StoppedAt [] (call.keys svc) h
      | .credential .. => committedKeys h = [] ∨ StoppedAt [] (call.keys svc) h
      | .login .. => committedKeys h = [] ∨ StoppedAt [] (call.keys svc) h ∨
          committedKeys h = call.keys svc

section Verified

variable {svc : AuthService} {h : AuthHistory}

/-- A request: the admission decision is the counting of its keys. -/
theorem request_upholds {call : RateLimitCall} (enforced : call.enforced = true)
    (failing : ∀ h e, StoppedAt [] (call.keys svc) h → rateLimitPost svc call h (.error e)) :
    Upholds (S := authSignature) (rateLimitGuard (call.policy svc) call.enforced)
      (rateLimitPost svc call) []
      (do
        let admitted ← recordRateLimitRequestIfAllowed (call.policy svc) (call.ownKeys svc)
        pure (RateLimitCall.reportAdmission admitted) : AuthM RateLimitReport) := by
  rw [enforced]
  apply Fallible.Upholds.bind
  refine (recordRateLimitRequestIfAllowed_upholds rfl).mono (fun _ _ hg => hg) ?_
  rintro h (e | _ | _) outcome
  · exact failing h e outcome
  · exact outcome
  · exact outcome

theorem credential_upholds (flow : AuthRateLimitFlow) (principal : Option String)
    (metadata : ClientMetadata) (check : CredentialCheck) :
    Upholds (S := authSignature) (rateLimitGuard svc.config.rateLimits.credential false)
      (rateLimitPost svc (.credential flow principal metadata check)) []
      ((RateLimitCall.credential flow principal metadata check).program svc) := by
  apply Fallible.Upholds.bind
  refine (rejectIfRateLimited_upholds rfl).mono (fun _ _ hg => hg) ?_
  rintro h (e | permit) ⟨uncounted, permitted⟩
  · exact Or.inl uncounted
  · have permitted := permitted permit rfl
    apply Fallible.Upholds.bind
    refine check.outside.upholds rateLimitGuard_outside ?_
    intro late result outside
    have uncounted : committedKeys (late ++ h) = [] :=
      (committedKeys_outside outside).trans uncounted
    rcases result with e | verified
    · exact Or.inl uncounted
    · apply Fallible.Upholds.branch
      · intro _
        apply Fallible.Upholds.bind
        refine (clearRateLimitAttempts_upholds uncounted
          (permitted.mono (List.subset_append_right late h))).mono (fun _ _ hg => hg) ?_
        rintro h (e | _) uncounted
        · exact Or.inl uncounted
        · exact uncounted
      · intro _
        apply Fallible.Upholds.bind
        refine (recordRateLimitAttempt_upholds uncounted).mono (fun _ _ hg => hg) ?_
        rintro h (e | _) outcome
        · exact .inr outcome
        · exact outcome

section Login

variable {principal password : String} {metadata : ClientMetadata}

/-- What the error of a login says about the keys it counted. -/
theorem recordFailure_upholds {e : AuthError} (uncounted : committedKeys h = []) :
    Upholds (S := authSignature) (rateLimitGuard svc.config.rateLimits.credential false)
      (fun h result => rateLimitPost svc (.login principal password metadata) h
        (result.map fun _ => .cleared)) h
      (do
        recordRateLimitAttempt svc.config.rateLimits.credential
          (svc.rateLimitKeys .passwordLogin (some principal) metadata)
        throwAuth e : AuthM AuthPayload) := by
  apply Fallible.Upholds.bind
  refine (recordRateLimitAttempt_upholds uncounted).mono (fun _ _ hg => hg) ?_
  rintro h (e | _) outcome
  · exact .inr (.inl outcome)
  · exact .inr (.inr outcome)

theorem rejectWithDummyWork_counts {failure : AuthError} (uncounted : committedKeys h = []) :
    Upholds (S := authSignature) (rateLimitGuard svc.config.rateLimits.credential false)
      (fun h result => rateLimitPost svc (.login principal password metadata) h
        (result.map fun _ => .cleared)) h
      (svc.rejectWithDummyWork password
        (svc.rateLimitKeys .passwordLogin (some principal) metadata) failure) := by
  apply Fallible.Upholds.perform_bind trivial
  intro verified
  rcases verified with e | _
  · cases e with
    | invalidCredentials => exact recordFailure_upholds uncounted
    | _ => exact Or.inl uncounted
  · exact recordFailure_upholds uncounted

/-- Opening a session stays outside rate limits. -/
abbrev Outside {α : Type} (p : AuthM α) : Prop :=
  Issues (S := authSignature) (fun op => outsideOp op = true) p

theorem issueAccessTokenWithUser_outside (authUser : AuthUser)
    (issuedAt expiresAt : OffsetDateTime) :
    Outside (svc.issueAccessTokenWithUser authUser issuedAt expiresAt) := by
  refine Fallible.Issues.bind ?_ fun jti => Fallible.Issues.bind trivial fun token => trivial
  unfold AuthService.accessTokenId
  split
  · trivial
  · exact Fallible.Issues.bind ⟨rfl, fun _ => trivial⟩ fun fresh => trivial

theorem issueTokensOnly_outside (authUser : AuthUser) (sessionFamilyId : Uuid)
    (now : OffsetDateTime) (grantSource : RefreshGrantSource) (ceiling : Option (List String)) :
    Outside (svc.issueTokensOnly authUser sessionFamilyId metadata now grantSource ceiling) := by
  refine Fallible.Issues.bind ?_ fun provided => ?_
  · exact Fallible.Issues.branch
      (Fallible.Issues.bind ⟨rfl, fun _ => trivial⟩ fun _ => trivial) trivial
  · refine Fallible.Issues.bind trivial fun accessTokenExpiresAt => ?_
    refine Fallible.Issues.bind (issueAccessTokenWithUser_outside ..) fun signed => ?_
    refine Fallible.Issues.bind ⟨rfl, fun _ => trivial⟩ fun rawRefreshToken => ?_
    refine Fallible.Issues.bind trivial fun refreshTokenExpiresAt => ?_
    exact Fallible.Issues.bind ⟨rfl, fun _ => trivial⟩ fun id => trivial

theorem openPasswordSession_outside (user : StoredUser) :
    Outside (svc.openPasswordSession user metadata) := by
  refine Fallible.Issues.bind ⟨rfl, fun _ => trivial⟩ fun found => ?_
  cases found with
  | none => trivial
  | some current =>
      refine Fallible.Issues.branch trivial (Fallible.Issues.branch trivial
        (Fallible.Issues.branch trivial ?_))
      refine Fallible.Issues.bind ⟨rfl, fun _ => trivial⟩ fun sessionId => ?_
      refine Fallible.Issues.bind ⟨rfl, fun _ => trivial⟩ fun sessionFamilyId => ?_
      refine Fallible.Issues.bind ⟨rfl, fun _ => trivial⟩ fun now => ?_
      refine Fallible.Issues.bind (issueTokensOnly_outside ..) fun issued => ?_
      exact Fallible.Issues.bind ⟨rfl, fun _ => trivial⟩ fun inserted => trivial

theorem login_counts :
    Upholds (S := authSignature) (rateLimitGuard svc.config.rateLimits.credential false)
      (fun h result => rateLimitPost svc (.login principal password metadata) h
        (result.map fun _ => .cleared)) []
      (svc.login principal password metadata) := by
  apply Fallible.Upholds.bind
  refine (rejectIfRateLimited_upholds rfl).mono (fun _ _ hg => hg) ?_
  rintro h (e | permit) ⟨uncounted, permitted⟩
  · exact Or.inl uncounted
  · have permitted := permitted permit rfl
    apply Fallible.Upholds.bind
    apply Upholds.await trivial
    intro resp
    rcases resp with e | _ | user
    · exact Or.inl uncounted
    · exact rejectWithDummyWork_counts uncounted
    · apply Fallible.Upholds.branch
      · intro _
        exact rejectWithDummyWork_counts uncounted
      · intro _
        apply Fallible.Upholds.perform_bind trivial
        intro verified
        rcases verified with e | _
        · cases e with
          | authServiceUnavailable => exact Or.inl uncounted
          | _ => exact recordFailure_upholds uncounted
        · apply Fallible.Upholds.bind
          refine Upholds.mono (fun _ _ hg => hg) ?_ (clearRateLimitAttempts_upholds uncounted
            (permitted.mono fun e mem => List.mem_cons_of_mem _ (List.mem_cons_of_mem _ mem)))
          rintro h (e | _) uncounted
          · exact Or.inl uncounted
          · refine (openPasswordSession_outside user).upholds rateLimitGuard_outside ?_
            intro late result outside
            have uncounted := (committedKeys_outside (h := h) outside).trans uncounted
            cases result with
            | error e => exact Or.inl uncounted
            | ok payload => exact uncounted

end Login

/-- Every call keeps its guard and counts the keys its result says it counted. -/
theorem RateLimitCall.verified (svc : AuthService) (call : RateLimitCall) :
    Upholds (S := authSignature) (rateLimitGuard (call.policy svc) call.enforced)
      (rateLimitPost svc call) [] (call.program svc) := by
  cases call with
  | recordFailure flow principal metadata =>
      apply Fallible.Upholds.bind
      refine (recordRateLimitAttempt_upholds rfl).mono (fun _ _ hg => hg) ?_
      rintro h (e | _) outcome
      · exact outcome
      · exact outcome
  | passwordResetRequest principal metadata => exact request_upholds rfl fun _ _ stopped => stopped
  | loginCodeRequest principal metadata => exact request_upholds rfl fun _ _ stopped => stopped
  | credential flow principal metadata check =>
      exact credential_upholds flow principal metadata check
  | login principal password metadata =>
      apply Fallible.Upholds.bind
      refine login_counts.mono (fun _ _ hg => hg) ?_
      rintro h (e | _) outcome
      · exact outcome
      · exact outcome

end Verified

end AgqlAuth
