import AgqlAuth.Service.Revalidate

/-!
# Reauthorization of long-lived connections

`ReauthorizationPolicy` and the next deadline it computes.  The floating-point
lifetime fraction is kept abstract: whether it is finite, and the `i64` its
product with a second count rounds up to.
-/

namespace AgqlAuth

/-- An `f64` fraction, as far as the deadline depends on it. -/
structure LifetimeFraction where
  isFinite : Bool
  /-- `(seconds as f64 * fraction).ceil() as i64`, with the fraction clamped. -/
  ceilSeconds : Int → Int
  ceilSeconds_ge : ∀ n, -(2 ^ 63) ≤ ceilSeconds n
  ceilSeconds_lt : ∀ n, ceilSeconds n < 2 ^ 63

structure ReauthorizationPolicy where
  minInterval : Duration
  lifetimeFraction : LifetimeFraction
  maxConnectionTtl : Option Duration

namespace ReauthorizationPolicy

/-- The first guard of `next_deadline`. -/
def invalid (self : ReauthorizationPolicy) : Bool :=
  decide (self.minInterval ≤ Duration.zero) || !self.lifetimeFraction.isFinite ||
    self.maxConnectionTtl.any fun ttl => decide (ttl ≤ Duration.zero)

/-- `fraction_secs.max(1)` as a duration, at least a second. -/
def fractionOf (self : ReauthorizationPolicy) (remaining : Duration) : Duration :=
  .seconds (max (self.lifetimeFraction.ceilSeconds remaining.wholeSeconds) 1)
    ⟨by omega, max_lt (self.lifetimeFraction.ceilSeconds_lt _) (by decide)⟩

/-- The deadline after the token's remaining lifetime; `none` where the source returns `now`. -/
def boundByExpiry (self : ReauthorizationPolicy) (now deadline : OffsetDateTime) :
    Option OffsetDateTime → Option OffsetDateTime
  | none => some deadline
  | some expiresAt =>
      let remaining := expiresAt.since now
      if Duration.zero < remaining then
        match now.checkedAdd (self.fractionOf remaining) with
        | none => none
        | some candidate =>
            let deadline := if candidate < deadline then candidate else deadline
            some (if expiresAt < deadline then expiresAt else deadline)
      else some now

/-- The deadline after the connection's limit; `none` where the source returns `now`. -/
def boundByConnection (self : ReauthorizationPolicy)
    (connectionStartedAt deadline : OffsetDateTime) :
    Option OffsetDateTime :=
  match self.maxConnectionTtl with
  | none => some deadline
  | some maxTtl =>
      match connectionStartedAt.checkedAdd maxTtl with
      | none => none
      | some maxDeadline => some (if maxDeadline < deadline then maxDeadline else deadline)

/-- `next_deadline` past its first guard, `none` at each of its later returns of `now`. -/
def scheduledDeadline (self : ReauthorizationPolicy) (now : OffsetDateTime)
    (metadata : AccessTokenMetadata) (connectionStartedAt : OffsetDateTime) :
    Option OffsetDateTime := do
  let deadline ← now.checkedAdd self.minInterval
  let deadline ← self.boundByExpiry now deadline metadata.expiresAt
  self.boundByConnection connectionStartedAt deadline

def nextDeadline (self : ReauthorizationPolicy) (now : OffsetDateTime)
    (metadata : AccessTokenMetadata) (connectionStartedAt : OffsetDateTime) : OffsetDateTime :=
  if self.invalid then now
  else (self.scheduledDeadline now metadata connectionStartedAt).getD now

/-- Some instant the schedule needs is out of range. -/
def Unrepresentable (self : ReauthorizationPolicy) (now : OffsetDateTime)
    (metadata : AccessTokenMetadata) (connectionStartedAt : OffsetDateTime) : Prop :=
  now.checkedAdd self.minInterval = none ∨
    (∃ expiresAt, metadata.expiresAt = some expiresAt ∧ now < expiresAt ∧
      now.checkedAdd (self.fractionOf (expiresAt.since now)) = none) ∨
    ∃ maxTtl, self.maxConnectionTtl = some maxTtl ∧ connectionStartedAt.checkedAdd maxTtl = none

variable {self : ReauthorizationPolicy} {now deadline connectionStartedAt : OffsetDateTime}
variable {metadata : AccessTokenMetadata}

theorem invalid_iff : self.invalid = true ↔
    self.minInterval ≤ Duration.zero ∨ self.lifetimeFraction.isFinite = false ∨
      ∃ ttl, self.maxConnectionTtl = some ttl ∧ ttl ≤ Duration.zero := by
  simp only [invalid, Bool.or_eq_true, decide_eq_true_eq, Bool.not_eq_true', or_assoc]
  cases self.maxConnectionTtl <;> simp

theorem zero_lt_since {a b : OffsetDateTime} : Duration.zero < a.since b ↔ b < a := by
  rw [Duration.lt_iff, OffsetDateTime.lt_iff]
  show 0 < a.unixNanos - b.unixNanos ↔ _
  omega

theorem fractionOf_pos (self : ReauthorizationPolicy) (remaining : Duration) :
    0 < (self.fractionOf remaining).nanos := by
  show 0 < max (self.lifetimeFraction.ceilSeconds remaining.wholeSeconds) 1 * nanosPerSecond
  simp only [nanosPerSecond]
  omega

/-- What the expiry step returns: the nearest of three instants, or the clock itself. -/
theorem boundByExpiry_eq {expiresAt result : OffsetDateTime}
    (bounded : self.boundByExpiry now deadline (some expiresAt) = some result) :
    (now < expiresAt ∧ ∃ candidate, now < candidate ∧
      result = min (min candidate deadline) expiresAt) ∨ (expiresAt ≤ now ∧ result = now) := by
  simp only [boundByExpiry, zero_lt_since] at bounded
  split at bounded
  · rename_i unexpired
    refine .inl ⟨unexpired, ?_⟩
    split at bounded
    · cases bounded
    · rename_i candidate added
      cases bounded
      refine ⟨candidate, ?_, ?_⟩
      · rw [OffsetDateTime.lt_iff, OffsetDateTime.checkedAdd_eq_some added]
        have positive := self.fractionOf_pos (expiresAt.since now)
        omega
      · rw [← min_def_lt, min_comm expiresAt, ← min_def_lt]
  · rename_i expired
    cases bounded
    exact .inr ⟨not_lt.mp expired, rfl⟩

/-- The connection step only ever moves the deadline back to the connection's limit. -/
theorem boundByConnection_eq {result : OffsetDateTime}
    (bounded : self.boundByConnection connectionStartedAt deadline = some result) :
    (self.maxConnectionTtl = none ∧ result = deadline) ∨
      ∃ maxTtl limit, self.maxConnectionTtl = some maxTtl ∧
        limit.unixNanos = connectionStartedAt.unixNanos + maxTtl.nanos ∧
        result = min limit deadline := by
  unfold boundByConnection at bounded
  split at bounded
  · rename_i unlimited
    cases bounded
    exact .inl ⟨unlimited, rfl⟩
  · rename_i maxTtl limited
    split at bounded
    · cases bounded
    · rename_i limit added
      cases bounded
      exact .inr ⟨maxTtl, limit, limited, OffsetDateTime.checkedAdd_eq_some added,
        (min_def_lt limit deadline).symm⟩

/-- The three steps behind a scheduled deadline. -/
theorem of_scheduledDeadline {result : OffsetDateTime}
    (scheduled : self.scheduledDeadline now metadata connectionStartedAt = some result) :
    ∃ first second, now.checkedAdd self.minInterval = some first ∧
      self.boundByExpiry now first metadata.expiresAt = some second ∧
      self.boundByConnection connectionStartedAt second = some result := by
  obtain ⟨first, added, rest⟩ := Option.bind_eq_some_iff.mp scheduled
  obtain ⟨second, bounded, last⟩ := Option.bind_eq_some_iff.mp rest
  exact ⟨first, second, added, bounded, last⟩

theorem boundByExpiry_eq_none_iff (deadline : OffsetDateTime)
    {expiresAt : Option OffsetDateTime} :
    self.boundByExpiry now deadline expiresAt = none ↔
      ∃ instant, expiresAt = some instant ∧ now < instant ∧
        now.checkedAdd (self.fractionOf (instant.since now)) = none := by
  cases expiresAt with
  | none => simp [boundByExpiry]
  | some instant =>
      simp only [boundByExpiry, zero_lt_since, Option.some.injEq, exists_eq_left']
      by_cases unexpired : now < instant
      · cases added : now.checkedAdd (self.fractionOf (instant.since now)) <;> simp [unexpired]
      · simp [unexpired]

theorem boundByConnection_eq_none_iff (deadline : OffsetDateTime) :
    self.boundByConnection connectionStartedAt deadline = none ↔
      ∃ maxTtl, self.maxConnectionTtl = some maxTtl ∧
        connectionStartedAt.checkedAdd maxTtl = none := by
  unfold boundByConnection
  cases limited : self.maxConnectionTtl with
  | none => simp
  | some maxTtl => cases added : connectionStartedAt.checkedAdd maxTtl <;> simp [added]

/-- The later returns of `now` are exactly the instants out of range. -/
theorem scheduledDeadline_eq_none_iff :
    self.scheduledDeadline now metadata connectionStartedAt = none ↔
      self.Unrepresentable now metadata connectionStartedAt := by
  unfold scheduledDeadline Unrepresentable
  cases first : now.checkedAdd self.minInterval with
  | none => simp
  | some deadline =>
      rw [← boundByExpiry_eq_none_iff deadline]
      cases second : self.boundByExpiry now deadline metadata.expiresAt with
      | none => simp [second]
      | some later =>
          rw [← boundByConnection_eq_none_iff later]
          simp [second]

/-- Settings for which the schedule is not followed. -/
theorem nextDeadline_eq_now
    (unusable : self.invalid = true ∨ self.Unrepresentable now metadata connectionStartedAt) :
    self.nextDeadline now metadata connectionStartedAt = now := by
  unfold nextDeadline
  rcases unusable with refused | out_of_range
  · rw [if_pos refused]
  · rw [scheduledDeadline_eq_none_iff.mpr out_of_range]
    exact ite_self _

/-- Every other deadline is the least of the instants that bound it. -/
structure Bounded (policy : ReauthorizationPolicy) (now : OffsetDateTime)
    (expiresAt : Option OffsetDateTime) (connectionStartedAt deadline : OffsetDateTime) :
    Prop where
  interval : deadline.unixNanos ≤ now.unixNanos + policy.minInterval.nanos
  connection : ∀ maxTtl, policy.maxConnectionTtl = some maxTtl →
    deadline.unixNanos ≤ connectionStartedAt.unixNanos + maxTtl.nanos
  expired : ∀ instant, expiresAt = some instant → instant ≤ now → deadline ≤ now
  unexpired : ∀ instant, expiresAt = some instant → now < instant → deadline ≤ instant
  progress : (∀ instant, expiresAt = some instant → now < instant) →
    (∀ maxTtl, policy.maxConnectionTtl = some maxTtl → now.since connectionStartedAt < maxTtl) →
    now < deadline

/-- The interval and the expiry alone bound the deadline before the connection's limit does. -/
theorem bounded_of_boundByExpiry {expiresAt : Option OffsetDateTime} {first second : OffsetDateTime}
    (positive : 0 < self.minInterval.nanos) (added : now.checkedAdd self.minInterval = some first)
    (bounded : self.boundByExpiry now first expiresAt = some second) :
    second ≤ first ∧
      (∀ instant, expiresAt = some instant → instant ≤ now → second ≤ now) ∧
      (∀ instant, expiresAt = some instant → now < instant → second ≤ instant) ∧
      ((∀ instant, expiresAt = some instant → now < instant) → now < second) := by
  have later : now < first := by
    rw [OffsetDateTime.lt_iff, OffsetDateTime.checkedAdd_eq_some added]
    omega
  cases expiresAt with
  | none =>
      cases bounded
      refine ⟨le_rfl, ?_, ?_, fun _ => later⟩
      · intro instant impossible
        cases impossible
      · intro instant impossible
        cases impossible
  | some instant =>
      rcases boundByExpiry_eq bounded with ⟨unexpired, candidate, after, rfl⟩ | ⟨expired, rfl⟩
      · refine ⟨(min_le_left _ _).trans (min_le_right _ _), ?_, ?_, ?_⟩
        · rintro _ ⟨⟩ expired
          exact absurd unexpired (not_lt.mpr expired)
        · rintro _ ⟨⟩ -
          exact min_le_right _ _
        · intro _
          exact lt_min (lt_min after later) unexpired
      · refine ⟨later.le, ?_, ?_, ?_⟩
        · rintro _ ⟨⟩ -
          exact le_rfl
        · rintro _ ⟨⟩ unexpired
          exact absurd unexpired (not_lt.mpr expired)
        · intro live
          exact absurd (live instant rfl) (not_lt.mpr expired)

theorem bounded_of_scheduledDeadline {result : OffsetDateTime}
    (positive : 0 < self.minInterval.nanos)
    (scheduled : self.scheduledDeadline now metadata connectionStartedAt = some result) :
    self.Bounded now metadata.expiresAt connectionStartedAt result := by
  obtain ⟨first, second, added, bounded, last⟩ := of_scheduledDeadline scheduled
  obtain ⟨within, expired, unexpired, progress⟩ := bounded_of_boundByExpiry positive added bounded
  have interval := OffsetDateTime.checkedAdd_eq_some added
  rcases boundByConnection_eq last with ⟨unlimited, rfl⟩ | ⟨maxTtl, limit, limited, sum, rfl⟩
  · refine ⟨?_, ?_, expired, unexpired, fun live _ => progress live⟩
    · rw [← interval]
      exact OffsetDateTime.le_iff.mp within
    · intro maxTtl limited
      cases unlimited.symm.trans limited
  · refine ⟨?_, ?_, ?_, ?_, ?_⟩
    · rw [← interval]
      exact OffsetDateTime.le_iff.mp ((min_le_right _ _).trans within)
    · intro maxTtl' limited'
      cases limited.symm.trans limited'
      rw [← sum]
      exact OffsetDateTime.le_iff.mp (min_le_left _ _)
    · intro instant same past
      exact (min_le_right _ _).trans (expired instant same past)
    · intro instant same ahead
      exact (min_le_right _ _).trans (unexpired instant same ahead)
    · intro live young
      refine lt_min ?_ (progress live)
      have age : now.unixNanos - connectionStartedAt.unixNanos < maxTtl.nanos :=
        Duration.lt_iff.mp (young maxTtl limited)
      rw [OffsetDateTime.lt_iff, sum]
      omega

/--
For every policy, token metadata, clock reading and connection start, and
whatever second count the lifetime fraction rounds up to: the deadline is never
after the clock once the token has expired and never after the expiry before;
unusable settings and unrepresentable instants give the clock itself; and every
other deadline keeps to the interval and to the connection's limit, and lies in
the future while the token and the connection live.
-/
theorem nextDeadline_failClosed_progress (self : ReauthorizationPolicy) (now : OffsetDateTime)
    (metadata : AccessTokenMetadata) (connectionStartedAt : OffsetDateTime) :
    (∀ expiresAt, metadata.expiresAt = some expiresAt →
      (expiresAt ≤ now → self.nextDeadline now metadata connectionStartedAt ≤ now) ∧
      (now < expiresAt → self.nextDeadline now metadata connectionStartedAt ≤ expiresAt)) ∧
    (self.minInterval ≤ Duration.zero ∨ self.lifetimeFraction.isFinite = false ∨
        (∃ ttl, self.maxConnectionTtl = some ttl ∧ ttl ≤ Duration.zero) ∨
        self.Unrepresentable now metadata connectionStartedAt →
      self.nextDeadline now metadata connectionStartedAt = now) ∧
    (Duration.zero < self.minInterval → self.lifetimeFraction.isFinite = true →
        (∀ ttl, self.maxConnectionTtl = some ttl → Duration.zero < ttl) →
        ¬ self.Unrepresentable now metadata connectionStartedAt →
      self.Bounded now metadata.expiresAt connectionStartedAt
        (self.nextDeadline now metadata connectionStartedAt)) := by
  have unusable_eq : self.invalid = true ∨ self.Unrepresentable now metadata connectionStartedAt →
      self.nextDeadline now metadata connectionStartedAt = now := nextDeadline_eq_now
  have usable_bounded : self.invalid = false →
      ¬ self.Unrepresentable now metadata connectionStartedAt →
        self.Bounded now metadata.expiresAt connectionStartedAt
          (self.nextDeadline now metadata connectionStartedAt) := by
    intro valid in_range
    have positive : 0 < self.minInterval.nanos := by
      by_contra nonpositive
      have refused := invalid_iff.mpr (.inl (not_lt.mp nonpositive))
      rw [valid] at refused
      cases refused
    cases scheduled : self.scheduledDeadline now metadata connectionStartedAt with
    | none => exact absurd (scheduledDeadline_eq_none_iff.mp scheduled) in_range
    | some result =>
        have computed : self.nextDeadline now metadata connectionStartedAt = result := by
          simp only [nextDeadline, valid, Bool.false_eq_true, if_false, scheduled,
            Option.getD_some]
        rw [computed]
        exact bounded_of_scheduledDeadline positive scheduled
  refine ⟨?_, ?_, ?_⟩
  · intro expiresAt present
    by_cases unusable : self.invalid = true ∨
        self.Unrepresentable now metadata connectionStartedAt
    · rw [unusable_eq unusable]
      exact ⟨fun _ => le_rfl, le_of_lt⟩
    · obtain ⟨valid, in_range⟩ := not_or.mp unusable
      have bounded := usable_bounded (Bool.not_eq_true _ ▸ valid) in_range
      exact ⟨bounded.expired expiresAt present, bounded.unexpired expiresAt present⟩
  · rintro (interval | fraction | connection | out_of_range)
    · exact unusable_eq (.inl (invalid_iff.mpr (.inl interval)))
    · exact unusable_eq (.inl (invalid_iff.mpr (.inr (.inl fraction))))
    · exact unusable_eq (.inl (invalid_iff.mpr (.inr (.inr connection))))
    · exact unusable_eq (.inr out_of_range)
  · intro interval fraction connection in_range
    refine usable_bounded ?_ in_range
    rw [Bool.eq_false_iff, ne_eq, invalid_iff]
    rintro (nonpositive | infinite | ⟨ttl, limited, nonpositive⟩)
    · exact absurd interval (not_lt.mpr nonpositive)
    · rw [fraction] at infinite
      cases infinite
    · exact absurd (connection ttl limited) (not_lt.mpr nonpositive)

end ReauthorizationPolicy

end AgqlAuth
