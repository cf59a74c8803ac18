import AgqlAuth.Token.Table
import AgqlAuth.Validator.Keys

/-!
# A rotating key set

`RotatingJwksKeySet`: a key set that a host reloads.  Every method runs under one
lock, so any number of callers gives a sequence of calls, each with the clock
readings it takes.
-/

namespace AgqlAuth

/-- `std::time::Duration`. -/
structure StdDuration where
  secs : UInt64
  subsecNanos : Fin 1000000000
  deriving DecidableEq

namespace StdDuration

def nanos (self : StdDuration) : Int := self.secs.toNat * nanosPerSecond + self.subsecNanos.val

/-- `as_secs() as i64`. -/
def secsAsI64 (self : StdDuration) : Int := self.secs.toInt64.toInt

theorem secsAsI64_bounds (self : StdDuration) :
    -(2 ^ 63) ≤ self.secsAsI64 ∧ self.secsAsI64 < 2 ^ 63 :=
  ⟨self.secs.toInt64.le_toInt, self.secs.toInt64.toInt_lt⟩

/-- `time::Duration::seconds(duration.as_secs() as i64)`. -/
def inWholeSeconds (self : StdDuration) : Duration := .seconds self.secsAsI64 self.secsAsI64_bounds

theorem secsAsI64_eq (self : StdDuration) :
    self.secsAsI64 = if self.secs.toNat < 2 ^ 63 then (self.secs.toNat : Int)
      else self.secs.toNat - 2 ^ 64 := by
  have small := self.secs.toNat_lt
  show self.secs.toBitVec.toInt = _
  rw [BitVec.toInt_eq_toNat_cond]
  show (if 2 * self.secs.toNat < 2 ^ 64 then _ else _) = _
  split
  · rw [if_pos (by omega)]
    rfl
  · rw [if_neg (by omega)]
    rfl

/-- No two instants are further apart, in nanoseconds. -/
abbrev longestSpan : Int := maxUnixNanos - minUnixNanos

/-- Whole seconds that an `i64` holds, or longer than any two instants are apart. -/
def Converts (d : StdDuration) : Prop :=
  d.secs.toNat < 2 ^ 63 ∧ (d.subsecNanos.val = 0 ∨ longestSpan < d.secs.toNat * nanosPerSecond)

/-- The converted duration is as long as the original, as far as instants can tell. -/
theorem Converts.le_since_iff {d : StdDuration} (converts : d.Converts) (a b : OffsetDateTime) :
    d.inWholeSeconds ≤ a.since b ↔ d.nanos ≤ a.unixNanos - b.unixNanos := by
  have whole : d.inWholeSeconds.nanos = d.secs.toNat * nanosPerSecond := by
    show d.secsAsI64 * nanosPerSecond = _
    rw [secsAsI64_eq, if_pos converts.1]
  rw [Duration.le_iff, whole]
  show d.secs.toNat * nanosPerSecond ≤ a.unixNanos - b.unixNanos ↔
    d.secs.toNat * nanosPerSecond + (d.subsecNanos.val : Int) ≤ a.unixNanos - b.unixNanos
  have upper := a.upper
  have lower := b.lower
  rcases converts.2 with whole | long
  · rw [whole, Int.ofNat_zero, Int.add_zero]
  · simp only [longestSpan] at long
    omega

/-- Otherwise some span passes for the duration and is shorter. -/
theorem exists_span_of_not_converts {d : StdDuration} (inexact : ¬ d.Converts) :
    ∃ span : Int, 0 ≤ span ∧ span ≤ longestSpan ∧ d.inWholeSeconds.nanos ≤ span ∧
      span < d.nanos := by
  have small := d.secs.toNat_lt
  have converted : d.inWholeSeconds.nanos = d.secsAsI64 * nanosPerSecond := rfl
  have nanos : d.nanos = d.secs.toNat * nanosPerSecond + (d.subsecNanos.val : Int) := rfl
  rw [converted, secsAsI64_eq, nanos]
  simp only [Converts, longestSpan, maxUnixNanos, minUnixNanos, nanosPerSecond] at inexact ⊢
  by_cases fits : d.secs.toNat < 2 ^ 63
  · refine ⟨d.secs.toNat * 1000000000, by omega, by omega, ?_, by omega⟩
    rw [if_pos fits]
  · refine ⟨0, le_rfl, by omega, ?_, by omega⟩
    rw [if_neg fits]
    omega

end StdDuration

inductive StaleKeyPolicy where
  | useStale
  | reject
  deriving DecidableEq

structure KeyRefreshPolicy where
  cacheTtl : StdDuration
  unknownKidCooldown : StdDuration
  stalePolicy : StaleKeyPolicy
  deriving DecidableEq

structure RotatingJwksState (lib : JwtLibrary) where
  keySet : StaticJwksKeySet lib
  loadedAt : OffsetDateTime
  lastForcedRefreshAt : Option OffsetDateTime
  refreshInFlight : Bool

structure RotatingJwksKeySet (lib : JwtLibrary) where
  inner : RotatingJwksState lib
  policy : KeyRefreshPolicy

namespace RotatingJwksKeySet

variable {lib : JwtLibrary}

def withClock (jwksJson : String) (policy : KeyRefreshPolicy) (now : OffsetDateTime) :
    AuthResult (RotatingJwksKeySet lib) := do
  let keySet ← StaticJwksKeySet.fromJwksJson jwksJson
  pure {
    inner := { keySet, loadedAt := now, lastForcedRefreshAt := none, refreshInFlight := false }
    policy }

def replaceJwks (self : RotatingJwksKeySet lib) (jwksJson : String) (now : OffsetDateTime) :
    AuthResult Unit × RotatingJwksKeySet lib :=
  match StaticJwksKeySet.fromJwksJson jwksJson with
  | .error e => (.error e, self)
  | .ok keySet =>
      (.ok (), { self with
        inner := { self.inner with keySet, loadedAt := now, refreshInFlight := false } })

def shouldForceRefreshForUnknownKid (self : RotatingJwksKeySet lib) (now : OffsetDateTime) :
    Bool :=
  match self.inner.lastForcedRefreshAt with
  | none => true
  | some last => self.policy.unknownKidCooldown.inWholeSeconds ≤ now.since last

/-- `begin_forced_refresh`; its first reading is only taken after an earlier refresh. -/
def beginForcedRefresh (self : RotatingJwksKeySet lib) (checked stamped : OffsetDateTime) :
    Bool × RotatingJwksKeySet lib :=
  if self.inner.refreshInFlight then (false, self)
  else
    let cooling := match self.inner.lastForcedRefreshAt with
      | none => false
      | some last => decide (checked.since last < self.policy.unknownKidCooldown.inWholeSeconds)
    if cooling then (false, self)
    else
      (true, { self with
        inner := { self.inner with lastForcedRefreshAt := some stamped, refreshInFlight := true } })

def endForcedRefresh (self : RotatingJwksKeySet lib) : RotatingJwksKeySet lib :=
  { self with inner := { self.inner with refreshInFlight := false } }

def isStale (self : RotatingJwksKeySet lib) (now : OffsetDateTime) : Bool :=
  self.policy.cacheTtl.inWholeSeconds ≤ now.since self.inner.loadedAt

def resolve (self : RotatingJwksKeySet lib) (kid : Option String) (now : OffsetDateTime) :
    AuthResult (ResolvedKey lib) :=
  if self.isStale now && self.policy.stalePolicy == .reject then .error .authServiceUnavailable
  else self.inner.keySet.resolve kid

end RotatingJwksKeySet

/-- A call with the clock readings it takes. -/
inductive RotatingCall where
  | resolve (kid : Option String) (now : OffsetDateTime)
  | replaceJwks (jwksJson : String) (now : OffsetDateTime)
  | shouldForceRefresh (now : OffsetDateTime)
  | beginForcedRefresh (checked stamped : OffsetDateTime)
  | endForcedRefresh

namespace RotatingCall

def readings : RotatingCall → List OffsetDateTime
  | .resolve _ now => [now]
  | .replaceJwks _ now => [now]
  | .shouldForceRefresh now => [now]
  | .beginForcedRefresh checked stamped => [checked, stamped]
  | .endForcedRefresh => []

/-- When a call loads a document, the reading it is stamped with. -/
def loads? (lib : JwtLibrary) : RotatingCall → Option OffsetDateTime
  | .replaceJwks jwksJson now =>
      match (StaticJwksKeySet.fromJwksJson jwksJson : AuthResult (StaticJwksKeySet lib)) with
      | .ok _ => some now
      | .error _ => none
  | _ => none

end RotatingCall

variable {lib : JwtLibrary}

/-- What a call leaves. -/
def RotatingJwksKeySet.after (self : RotatingJwksKeySet lib) : RotatingCall → RotatingJwksKeySet lib
  | .resolve .. => self
  | .replaceJwks jwksJson now => (self.replaceJwks jwksJson now).2
  | .shouldForceRefresh _ => self
  | .beginForcedRefresh checked stamped => (self.beginForcedRefresh checked stamped).2
  | .endForcedRefresh => self.endForcedRefresh

def RotatingJwksKeySet.run (self : RotatingJwksKeySet lib) (calls : List RotatingCall) :
    RotatingJwksKeySet lib :=
  calls.foldl RotatingJwksKeySet.after self

/-- The clock never goes back, from the first load on. -/
def ClockedCalls (start : OffsetDateTime) (calls : List RotatingCall) : Prop :=
  (start :: calls.flatMap RotatingCall.readings).Pairwise (· ≤ ·)

/-- When the last document was loaded, the first one at `start`. -/
def lastLoad (lib : JwtLibrary) (start : OffsetDateTime) (calls : List RotatingCall) :
    OffsetDateTime :=
  calls.foldl (fun loaded call => (call.loads? lib).getD loaded) start

/-- A call that clears the flag of a refresh under way. -/
def RotatingCall.Clears (lib : JwtLibrary) (call : RotatingCall) : Prop :=
  call = .endForcedRefresh ∨ (call.loads? lib).isSome = true

namespace RotatingJwksKeySet

variable {self : RotatingJwksKeySet lib}

/-- A document is loaded, or the set is left as it was. -/
theorem replaceJwks_cases (self : RotatingJwksKeySet lib) (jwksJson : String)
    (now : OffsetDateTime) :
    (∃ keySet, StaticJwksKeySet.fromJwksJson jwksJson = .ok keySet ∧
      self.replaceJwks jwksJson now = (.ok (), { self with
        inner := { self.inner with keySet, loadedAt := now, refreshInFlight := false } }) ∧
      (RotatingCall.replaceJwks jwksJson now).loads? lib = some now) ∨
    ∃ e, self.replaceJwks jwksJson now = (.error e, self) ∧
      (RotatingCall.replaceJwks jwksJson now).loads? lib = none := by
  unfold replaceJwks RotatingCall.loads?
  cases read : (StaticJwksKeySet.fromJwksJson jwksJson : AuthResult (StaticJwksKeySet lib)) with
  | error e => exact .inr ⟨e, by simp only, by simp only [read]⟩
  | ok keySet => exact .inl ⟨keySet, by simp only, by simp only, by simp only [read]⟩

/-- When a refresh may begin, and what beginning it changes. -/
theorem beginForcedRefresh_cases (self : RotatingJwksKeySet lib)
    (checked stamped : OffsetDateTime) :
    (self.inner.refreshInFlight = false ∧
      (∀ last, self.inner.lastForcedRefreshAt = some last →
        self.policy.unknownKidCooldown.inWholeSeconds ≤ checked.since last) ∧
      self.beginForcedRefresh checked stamped = (true, { self with
        inner := { self.inner with
          lastForcedRefreshAt := some stamped, refreshInFlight := true } })) ∨
    self.beginForcedRefresh checked stamped = (false, self) := by
  unfold beginForcedRefresh
  cases flying : self.inner.refreshInFlight with
  | true => exact .inr rfl
  | false =>
      cases known : self.inner.lastForcedRefreshAt with
      | none =>
          refine .inl ⟨rfl, ?_, by simp⟩
          intro last impossible
          cases impossible
      | some last =>
          by_cases cooling : checked.since last < self.policy.unknownKidCooldown.inWholeSeconds
          · exact .inr (by simp [cooling])
          · refine .inl ⟨rfl, ?_, by simp [cooling]⟩
            rintro _ ⟨⟩
            exact not_lt.mp cooling

theorem begins_of_true {checked stamped : OffsetDateTime}
    (began : (self.beginForcedRefresh checked stamped).1 = true) :
    self.inner.refreshInFlight = false ∧
      (∀ last, self.inner.lastForcedRefreshAt = some last →
        self.policy.unknownKidCooldown.inWholeSeconds ≤ checked.since last) ∧
      self.after (.beginForcedRefresh checked stamped) = { self with
        inner := { self.inner with
          lastForcedRefreshAt := some stamped, refreshInFlight := true } } := by
  rcases self.beginForcedRefresh_cases checked stamped with ⟨idle, cooled, result⟩ | result
  · exact ⟨idle, cooled, congrArg Prod.snd result⟩
  · rw [result] at began
    cases began

/-- A refresh that may begin is one that was called for. -/
theorem shouldForce_of_begins {checked stamped : OffsetDateTime}
    (began : (self.beginForcedRefresh checked stamped).1 = true) :
    self.shouldForceRefreshForUnknownKid checked = true := by
  obtain ⟨-, cooled, -⟩ := begins_of_true began
  unfold shouldForceRefreshForUnknownKid
  cases known : self.inner.lastForcedRefreshAt with
  | none => rfl
  | some last => exact decide_eq_true (cooled last known)

theorem resolve_eq_unavailable_iff {kid : Option String} {now : OffsetDateTime}
    (rejects : self.policy.stalePolicy = .reject) :
    self.resolve kid now = .error .authServiceUnavailable ↔
      self.policy.cacheTtl.inWholeSeconds ≤ now.since self.inner.loadedAt := by
  have known : self.inner.keySet.resolve kid ≠ .error .authServiceUnavailable := by
    unfold StaticJwksKeySet.resolve
    intro unavailable
    split at unavailable
    · split at unavailable <;> cases unavailable
    · split at unavailable <;> cases unavailable
  unfold resolve isStale
  simp only [rejects, beq_self_eq_true, Bool.and_true, decide_eq_true_eq]
  split
  · exact iff_of_true rfl ‹_›
  · exact iff_of_false known ‹_›

theorem after_policy (self : RotatingJwksKeySet lib) (call : RotatingCall) :
    (self.after call).policy = self.policy := by
  cases call with
  | replaceJwks jwksJson now =>
      rcases self.replaceJwks_cases jwksJson now with ⟨keySet, -, result, -⟩ | ⟨e, result, -⟩
      · exact congrArg (fun outcome => outcome.2.policy) result
      · exact congrArg (fun outcome => outcome.2.policy) result
  | beginForcedRefresh checked stamped =>
      rcases self.beginForcedRefresh_cases checked stamped with ⟨-, -, result⟩ | result
      · exact congrArg (fun outcome => outcome.2.policy) result
      · exact congrArg (fun outcome => outcome.2.policy) result
  | resolve | shouldForceRefresh | endForcedRefresh => rfl

theorem after_loadedAt (self : RotatingJwksKeySet lib) (call : RotatingCall) :
    (self.after call).inner.loadedAt = (call.loads? lib).getD self.inner.loadedAt := by
  cases call with
  | replaceJwks jwksJson now =>
      rcases self.replaceJwks_cases jwksJson now with
        ⟨keySet, -, result, loads⟩ | ⟨e, result, loads⟩
      · rw [loads, after, result]
        rfl
      · rw [loads, after, result]
        rfl
  | beginForcedRefresh checked stamped =>
      rcases self.beginForcedRefresh_cases checked stamped with ⟨-, -, result⟩ | result
      · rw [after, result]
        rfl
      · rw [after, result]
        rfl
  | resolve | shouldForceRefresh | endForcedRefresh => rfl

/-- Only a load or an end clears the flag of a refresh under way. -/
theorem after_refreshInFlight {call : RotatingCall} (flying : self.inner.refreshInFlight = true)
    (keeps : ¬ call.Clears lib) : (self.after call).inner.refreshInFlight = true := by
  cases call with
  | replaceJwks jwksJson now =>
      rcases self.replaceJwks_cases jwksJson now with ⟨keySet, -, -, loads⟩ | ⟨e, result, -⟩
      · exact absurd (.inr (loads ▸ rfl)) keeps
      · rw [after, result]
        exact flying
  | beginForcedRefresh checked stamped =>
      rcases self.beginForcedRefresh_cases checked stamped with ⟨idle, -, -⟩ | result
      · rw [flying] at idle
        cases idle
      · rw [after, result]
        exact flying
  | endForcedRefresh => exact absurd (.inl rfl) keeps
  | resolve | shouldForceRefresh => exact flying

/-- The stamp of the last refresh only moves to a later reading. -/
theorem after_lastForcedRefreshAt {call : RotatingCall} {start last : OffsetDateTime}
    (known : self.inner.lastForcedRefreshAt = some last) (later : start ≤ last)
    (clocked : ∀ reading ∈ call.readings, start ≤ reading) :
    ∃ last', (self.after call).inner.lastForcedRefreshAt = some last' ∧ start ≤ last' := by
  cases call with
  | replaceJwks jwksJson now =>
      rcases self.replaceJwks_cases jwksJson now with ⟨keySet, -, result, -⟩ | ⟨e, result, -⟩
      · rw [after, result]
        exact ⟨last, known, later⟩
      · rw [after, result]
        exact ⟨last, known, later⟩
  | beginForcedRefresh checked stamped =>
      rcases self.beginForcedRefresh_cases checked stamped with ⟨-, -, result⟩ | result
      · rw [after, result]
        exact ⟨stamped, rfl, clocked stamped (by simp [RotatingCall.readings])⟩
      · rw [after, result]
        exact ⟨last, known, later⟩
  | resolve | shouldForceRefresh | endForcedRefresh => exact ⟨last, known, later⟩

theorem run_append (self : RotatingJwksKeySet lib) (first second : List RotatingCall) :
    self.run (first ++ second) = (self.run first).run second :=
  List.foldl_append

theorem run_policy (calls : List RotatingCall) : ∀ self : RotatingJwksKeySet lib,
    (self.run calls).policy = self.policy := by
  induction calls with
  | nil => exact fun _ => rfl
  | cons call rest ih => exact fun self => (ih (self.after call)).trans (self.after_policy call)

theorem run_loadedAt (calls : List RotatingCall) : ∀ self : RotatingJwksKeySet lib,
    (self.run calls).inner.loadedAt = lastLoad lib self.inner.loadedAt calls := by
  induction calls with
  | nil => exact fun _ => rfl
  | cons call rest ih =>
      intro self
      have later := ih (self.after call)
      rw [self.after_loadedAt call] at later
      exact later

theorem run_refreshInFlight (calls : List RotatingCall) : ∀ self : RotatingJwksKeySet lib,
    self.inner.refreshInFlight = true → (∀ call ∈ calls, ¬ call.Clears lib) →
      (self.run calls).inner.refreshInFlight = true := by
  induction calls with
  | nil => exact fun _ flying _ => flying
  | cons call rest ih =>
      intro self flying keep
      obtain ⟨keeps, keep⟩ := List.forall_mem_cons.mp keep
      exact ih (self.after call) (after_refreshInFlight flying keeps) keep

theorem run_lastForcedRefreshAt {start : OffsetDateTime} (calls : List RotatingCall) :
    ∀ self : RotatingJwksKeySet lib,
      (∃ last, self.inner.lastForcedRefreshAt = some last ∧ start ≤ last) →
      (∀ reading ∈ calls.flatMap RotatingCall.readings, start ≤ reading) →
      ∃ last, (self.run calls).inner.lastForcedRefreshAt = some last ∧ start ≤ last := by
  induction calls with
  | nil => exact fun _ known _ => known
  | cons call rest ih =>
      rintro self ⟨last, known, later⟩ clocked
      rw [List.flatMap_cons, List.forall_mem_append] at clocked
      exact ih (self.after call) (after_lastForcedRefreshAt known later clocked.1) clocked.2

/-- What a rotating key set promises about a sequence of calls on it. -/
structure RotationSound (first : RotatingJwksKeySet lib) (calls : List RotatingCall) : Prop where
  fresh : first.policy.stalePolicy = .reject →
    ∀ before kid now later, calls = before ++ .resolve kid now :: later →
      ((first.run before).resolve kid now = .error .authServiceUnavailable ↔
        first.policy.cacheTtl.nanos ≤
          now.unixNanos - (lastLoad lib first.inner.loadedAt before).unixNanos)
  spaced : ∀ before checked stamped between checked' stamped' later,
    calls = before ++ .beginForcedRefresh checked stamped ::
      (between ++ .beginForcedRefresh checked' stamped' :: later) →
    ((first.run before).beginForcedRefresh checked stamped).1 = true →
    ((first.run (before ++ .beginForcedRefresh checked stamped :: between)).beginForcedRefresh
      checked' stamped').1 = true →
    (∃ call ∈ between, call.Clears lib) ∧
      first.policy.unknownKidCooldown.nanos ≤ checked'.unixNanos - stamped.unixNanos
  failed : ∀ before jwksJson now later, calls = before ++ .replaceJwks jwksJson now :: later →
    ∀ e, ((first.run before).replaceJwks jwksJson now).1 = .error e →
      ((first.run before).replaceJwks jwksJson now).2 = first.run before
  called_for : ∀ before checked stamped later,
    calls = before ++ .beginForcedRefresh checked stamped :: later →
    ((first.run before).beginForcedRefresh checked stamped).1 = true →
    (first.run before).shouldForceRefreshForUnknownKid checked = true

theorem readings_after_stamp {start checked stamped : OffsetDateTime}
    {before between later : List RotatingCall}
    (clocked : ClockedCalls start (before ++ .beginForcedRefresh checked stamped ::
      (between ++ later))) :
    ∀ reading ∈ between.flatMap RotatingCall.readings, stamped ≤ reading := by
  intro reading mem
  have ordered := (List.pairwise_cons.mp clocked).2
  rw [List.flatMap_append, List.flatMap_cons, List.flatMap_append] at ordered
  have rest := (List.pairwise_append.mp (List.pairwise_append.mp ordered).2.1).2.2
  exact rest stamped (by simp [RotatingCall.readings]) reading (List.mem_append_left _ mem)

/-- A second refresh finds the flag cleared and the cooldown over. -/
theorem spaced_of_run {first : RotatingJwksKeySet lib} {before between later : List RotatingCall}
    {start checked stamped checked' stamped' : OffsetDateTime}
    (cooldown : first.policy.unknownKidCooldown.Converts)
    (clocked : ClockedCalls start (before ++ .beginForcedRefresh checked stamped ::
      (between ++ .beginForcedRefresh checked' stamped' :: later)))
    (began : ((first.run before).beginForcedRefresh checked stamped).1 = true)
    (again : ((first.run (before ++ .beginForcedRefresh checked stamped ::
      between)).beginForcedRefresh checked' stamped').1 = true) :
    (∃ call ∈ between, call.Clears lib) ∧
      first.policy.unknownKidCooldown.nanos ≤ checked'.unixNanos - stamped.unixNanos := by
  obtain ⟨-, -, left⟩ := begins_of_true began
  have split : first.run (before ++ .beginForcedRefresh checked stamped :: between) =
      ((first.run before).after (.beginForcedRefresh checked stamped)).run between :=
    run_append first before (.beginForcedRefresh checked stamped :: between)
  rw [split] at again
  obtain ⟨idle, cooled, -⟩ := begins_of_true again
  constructor
  · by_contra uncleared
    have flying := run_refreshInFlight between
      ((first.run before).after (.beginForcedRefresh checked stamped)) (by rw [left])
      (fun call mem clears => uncleared ⟨call, mem, clears⟩)
    rw [idle] at flying
    cases flying
  · obtain ⟨last, known, after_stamp⟩ := run_lastForcedRefreshAt between
      ((first.run before).after (.beginForcedRefresh checked stamped))
      ⟨stamped, by rw [left], le_rfl⟩ (readings_after_stamp clocked)
    have waited := cooled last known
    rw [run_policy, after_policy, run_policy] at waited
    have nanos := (cooldown.le_since_iff checked' last).mp waited
    have order := OffsetDateTime.le_iff.mp after_stamp
    omega

/-- The policies whose durations survive the conversion, the lifetime only where it is used. -/
def Exact (policy : KeyRefreshPolicy) : Prop :=
  (policy.stalePolicy = .reject → policy.cacheTtl.Converts) ∧ policy.unknownKidCooldown.Converts

theorem rotationSound_of_exact {first : RotatingJwksKeySet lib} {calls : List RotatingCall}
    {start : OffsetDateTime} (exact_ : Exact first.policy) (clocked : ClockedCalls start calls) :
    RotationSound first calls where
  fresh := by
    intro rejects before kid now later _
    rw [resolve_eq_unavailable_iff (by rw [run_policy]; exact rejects), run_policy, run_loadedAt]
    exact (exact_.1 rejects).le_since_iff now _
  spaced := by
    rintro before checked stamped between checked' stamped' later rfl began again
    exact spaced_of_run exact_.2 clocked began again
  failed := by
    intro before jwksJson now later _ e failed
    rcases (first.run before).replaceJwks_cases jwksJson now with
      ⟨keySet, -, result, -⟩ | ⟨e', result, -⟩
    · rw [result] at failed
      cases failed
    · rw [result]
  called_for := by
    intro before checked stamped later _ began
    exact shouldForce_of_begins began

/-- Two instants so far apart. -/
theorem exists_instants {span : Int} (nonneg : 0 ≤ span) (short : span ≤ StdDuration.longestSpan) :
    ∃ early late : OffsetDateTime, early ≤ late ∧ late.unixNanos - early.unixNanos = span := by
  simp only [StdDuration.longestSpan] at short
  refine ⟨⟨minUnixNanos, le_rfl, by decide⟩, ⟨minUnixNanos + span, by omega, by omega⟩, ?_, ?_⟩
  · rw [OffsetDateTime.le_iff]
    show minUnixNanos ≤ minUnixNanos + span
    omega
  · show minUnixNanos + span - minUnixNanos = span
    omega

theorem withClock_eq {jwksJson : String} {keySet : StaticJwksKeySet lib}
    (loads : StaticJwksKeySet.fromJwksJson jwksJson = .ok keySet) (policy : KeyRefreshPolicy)
    (start : OffsetDateTime) :
    withClock jwksJson policy start = .ok (⟨⟨keySet, start, none, false⟩, policy⟩ :
      RotatingJwksKeySet lib) := by
  rw [withClock, loads]
  rfl

theorem exact_of_rotationSound {jwksJson : String} {keySet : StaticJwksKeySet lib}
    (loads : StaticJwksKeySet.fromJwksJson jwksJson = .ok keySet) {policy : KeyRefreshPolicy}
    (sound : ∀ start calls (first : RotatingJwksKeySet lib),
      withClock jwksJson policy start = .ok first → ClockedCalls start calls →
        RotationSound first calls) : Exact policy := by
  constructor
  · intro rejects
    by_contra inexact
    obtain ⟨span, nonneg, short, elapsed, tooEarly⟩ :=
      StdDuration.exists_span_of_not_converts inexact
    obtain ⟨early, late, ordered, apart⟩ := exists_instants nonneg short
    have promised := sound early [.resolve none late] _ (withClock_eq loads policy early)
      (by simp [ClockedCalls, RotatingCall.readings, ordered])
    have answer := promised.fresh rejects [] none late [] rfl
    rw [resolve_eq_unavailable_iff (by rw [run_policy]; exact rejects)] at answer
    have aged : policy.cacheTtl.inWholeSeconds ≤ late.since early := by
      rw [Duration.le_iff]
      show _ ≤ late.unixNanos - early.unixNanos
      omega
    have due : policy.cacheTtl.nanos ≤ late.unixNanos - early.unixNanos := answer.mp aged
    omega
  · by_contra inexact
    obtain ⟨span, nonneg, short, elapsed, tooEarly⟩ :=
      StdDuration.exists_span_of_not_converts inexact
    obtain ⟨early, late, ordered, apart⟩ := exists_instants nonneg short
    have promised := sound early
      [.beginForcedRefresh early early, .endForcedRefresh, .beginForcedRefresh late late] _
      (withClock_eq loads policy early)
      (by simp [ClockedCalls, RotatingCall.readings, ordered])
    have waited : ¬ late.since early < policy.unknownKidCooldown.inWholeSeconds := by
      rw [not_lt, Duration.le_iff]
      show _ ≤ late.unixNanos - early.unixNanos
      omega
    have cooled : policy.unknownKidCooldown.nanos ≤ late.unixNanos - early.unixNanos :=
      (promised.spaced [] early early [.endForcedRefresh] late late [] rfl rfl
        (by simp [run, after, beginForcedRefresh, endForcedRefresh, waited])).2
    omega

/--
Whatever document it starts from and however callers resolve, reload and refresh:
a policy's promises hold over every sequence of calls exactly if its cooldown,
and under `reject` its cache lifetime, are whole seconds that an `i64` holds
(or longer than any two instants are apart).
-/
theorem rotationSound_iff_exact {jwksJson : String} {keySet : StaticJwksKeySet lib}
    (loads : StaticJwksKeySet.fromJwksJson jwksJson = .ok keySet) (policy : KeyRefreshPolicy) :
    (∀ start calls (first : RotatingJwksKeySet lib),
      withClock jwksJson policy start = .ok first → ClockedCalls start calls →
        RotationSound first calls) ↔ Exact policy := by
  refine ⟨exact_of_rotationSound loads, ?_⟩
  intro exact_ start calls first built clocked
  rw [withClock_eq loads] at built
  cases built
  exact rotationSound_of_exact exact_ clocked

/-- A library for which every document holds one key. -/
def oneKeyLibrary : JwtLibrary :=
  { tableLibrary [] with parseJwks := fun _ => some [⟨some "auth-key-1", some "public key"⟩] }

def oneKeySet : StaticJwksKeySet oneKeyLibrary where
  keysByKid := AList.insert "auth-key-1" "public key" ∅
  singleKey := some (some "auth-key-1", "public key")

/-- A minute's lifetime and half a minute's cooldown. -/
def minutePolicy : KeyRefreshPolicy := ⟨⟨60, 0⟩, ⟨30, 0⟩, .reject⟩

/-- A second's lifetime and half a second's cooldown. -/
def halfSecondPolicy : KeyRefreshPolicy := ⟨⟨1, 0⟩, ⟨0, 500000000⟩, .reject⟩

theorem rotationSound_iff_exact_minute :
    RotationSound (⟨⟨oneKeySet, .atSecond 0, none, false⟩, minutePolicy⟩ :
      RotatingJwksKeySet oneKeyLibrary) [.resolve none (.atSecond 60)] := by
  have loads : (StaticJwksKeySet.fromJwksJson "{}" :
    AuthResult (StaticJwksKeySet oneKeyLibrary)) = .ok oneKeySet := rfl
  have exact_ : Exact minutePolicy := by simp [Exact, minutePolicy, StdDuration.Converts]
  refine (rotationSound_iff_exact loads minutePolicy).mpr exact_ (.atSecond 0) _ _ rfl ?_
  unfold ClockedCalls
  decide

/-- Half a second of cooldown is none: two refreshes begin at one instant. -/
theorem halfSecond_cooldown_vanishes :
    ∃ first : RotatingJwksKeySet oneKeyLibrary,
      withClock "{}" halfSecondPolicy (.atSecond 0) = .ok first ∧
      ∃ calls, ClockedCalls (.atSecond 0) calls ∧ ¬ RotationSound first calls := by
  refine ⟨⟨⟨oneKeySet, .atSecond 0, none, false⟩, halfSecondPolicy⟩, rfl,
    [.beginForcedRefresh (.atSecond 1) (.atSecond 1), .endForcedRefresh,
      .beginForcedRefresh (.atSecond 1) (.atSecond 1)], ?_, ?_⟩
  · unfold ClockedCalls
    decide
  intro sound
  have cooled := (sound.spaced [] (.atSecond 1) (.atSecond 1) [.endForcedRefresh] (.atSecond 1)
    (.atSecond 1) [] rfl rfl rfl).2
  exact absurd cooled (by decide)

end RotatingJwksKeySet

end AgqlAuth
