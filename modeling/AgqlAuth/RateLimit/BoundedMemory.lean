import AgqlAuth.RateLimit.MemoryIndex

/-!
# Histories of the in-memory rate-limit store

`MemoryAuthRateLimitStore` under its lock: any sequence of calls, each with any
clock reading.  A clock that panics poisons the lock, and every later call fails
before it reads the clock.
-/

namespace AgqlAuth

open Interaction

variable {now : OffsetDateTime} {key other : AuthRateLimitKey}

namespace MemoryState

variable {self : MemoryState}

def size (m : MemoryState) : Nat := m.entries.entries.length

theorem size_eq : self.size = self.entries.keys.length := by
  simp [size, AList.keys, List.keys]

theorem size_purgeExpired :
    (self.purgeExpired now).1.size + (self.purgeExpired now).2 = self.size := by
  rw [size_eq, size_eq]
  exact purgeBuckets_count

theorem size_remove_le : (self.remove key).size ≤ self.size := by
  unfold remove
  split
  · exact le_rfl
  · rw [size_eq, size_eq, AList.keys_erase]
    exact List.length_erase_le

/-- A new key adds one entry, a stored one none. -/
theorem size_insert {snapshot : AuthRateLimitSnapshot} :
    (self.insert key snapshot).size =
      if (self.entries.lookup key).isNone then self.size + 1 else self.size := by
  rw [size_eq, size_eq]
  have removed : (self.remove key).entries.keys.erase key = self.entries.keys.erase key := by
    unfold remove
    split
    · rfl
    · rw [AList.keys_erase]
      have gone : key ∉ self.entries.keys.erase key := by
        rw [self.entries.keys_nodup.mem_erase_iff]
        exact fun kept => kept.1 rfl
      exact List.erase_of_not_mem gone
  unfold insert
  dsimp only
  rw [AList.keys_insert, removed, List.length_cons, List.length_erase]
  cases stored : self.entries.lookup key with
  | none =>
      have absent := mt AList.mem_keys.mpr (AList.lookup_eq_none.mp stored)
      simp [absent]
  | some previous =>
      have present := mem_keys_iff.mpr ⟨previous, stored⟩
      have nonempty := List.length_pos_of_mem present
      simp [present]
      omega

/-- The two indexes are in step and hold at most `capacity` entries. -/
structure Bounded (m : MemoryState) (capacity : Nat) : Prop where
  indexed : m.Indexed
  size_le : m.size ≤ capacity

variable {capacity : Nat}

theorem Bounded.purgeExpired (bounded : self.Bounded capacity) :
    (self.purgeExpired now).1.Bounded capacity := by
  refine ⟨bounded.indexed.purgeExpired, ?_⟩
  have counted : (self.purgeExpired now).1.size + (self.purgeExpired now).2 = self.size :=
    size_purgeExpired
  have limit := bounded.size_le
  omega

theorem Bounded.remove (bounded : self.Bounded capacity) : (self.remove key).Bounded capacity :=
  ⟨bounded.indexed.remove, size_remove_le.trans bounded.size_le⟩

end MemoryState

abbrev NonZeroUsize := { n : Nat // 0 < n }

structure MemoryAuthRateLimitStore where
  states : MemoryState
  /-- A clock panicked while the lock was held. -/
  poisoned : Bool
  capacity : NonZeroUsize

inductive MemoryCall where
  | find (key : AuthRateLimitKey)
  | compareExchange (key : AuthRateLimitKey) (expectedRevision : Option Uuid)
      (replacement : AuthRateLimitSnapshot)
  | clear (key : AuthRateLimitKey) (expectedRevision : Option Uuid)
  | get (key : AuthRateLimitKey)
  | purgeExpired

def MemoryCall.Resp : MemoryCall → Type
  | .find _ => AuthResult (Option AuthRateLimitSnapshot)
  | .compareExchange _ _ _ => AuthResult Bool
  | .clear _ _ => AuthResult Bool
  | .get _ => Option AuthRateLimitState
  | .purgeExpired => AuthResult Nat

namespace MemoryAuthRateLimitStore

def withCapacity (capacity : NonZeroUsize) : MemoryAuthRateLimitStore := ⟨.empty, false, capacity⟩

/-- Take the lock and read the clock; `none` is a clock, or a call, that panics. -/
def locked {α : Type} (m : MemoryAuthRateLimitStore) (reading : Option OffsetDateTime)
    (unavailable : Option α) (body : MemoryState → OffsetDateTime → α × MemoryState) :
    Option α × MemoryAuthRateLimitStore :=
  if m.poisoned then (unavailable, m)
  else
    match reading with
    | none => (none, { m with poisoned := true })
    | some now => (some (body m.states now).1, { m with states := (body m.states now).2 })

/-- One call; the replaced key is checked before the lock is taken. -/
def perform (m : MemoryAuthRateLimitStore) (reading : Option OffsetDateTime) :
    (call : MemoryCall) → Option call.Resp × MemoryAuthRateLimitStore
  | .find key =>
      m.locked reading (some (.error .authServiceUnavailable)) fun states now =>
        (.ok (states.findAuthRateLimitState now key).1, (states.findAuthRateLimitState now key).2)
  | .compareExchange key expectedRevision replacement =>
      if replacement.state.key ≠ key then
        (some (.error (.store "rate-limit replacement key does not match compare key")), m)
      else
        m.locked reading (some (.error .authServiceUnavailable)) fun states now =>
          states.compareExchangeAuthRateLimitState m.capacity.1 now key expectedRevision
            replacement
  | .clear key expectedRevision =>
      m.locked reading (some (.error .authServiceUnavailable)) fun states now =>
        states.clearAuthRateLimitState now key expectedRevision
  | .get key =>
      m.locked reading none fun states now =>
        (((states.purgeExpired now).1.entries.lookup key).map (·.state),
          (states.purgeExpired now).1)
  | .purgeExpired =>
      m.locked reading (some (.error .authServiceUnavailable)) fun states now =>
        (.ok (states.purgeExpired now).2, (states.purgeExpired now).1)

def run (m : MemoryAuthRateLimitStore) :
    List (MemoryCall × Option OffsetDateTime) → MemoryAuthRateLimitStore
  | [] => m
  | (call, reading) :: history => ((m.perform reading call).2).run history

end MemoryAuthRateLimitStore

/-- The call is a clear or a swap of `key` that had its exact revision. -/
def MemoryCall.Replaced (key : AuthRateLimitKey) (snapshot : AuthRateLimitSnapshot)
    (next : Option AuthRateLimitSnapshot) : (call : MemoryCall) → Option call.Resp → Prop
  | .clear cleared expectedRevision, answer =>
      answer = some (.ok true : AuthResult Bool) ∧ cleared = key ∧
        expectedRevision = some snapshot.revision ∧ next = none
  | .compareExchange swapped expectedRevision replacement, answer =>
      answer = some (.ok true : AuthResult Bool) ∧ swapped = key ∧
        expectedRevision = some snapshot.revision ∧ next = some replacement
  | _, _ => False

/-- The call answered `false` or an error, or it panicked. -/
def MemoryCall.Refused : (call : MemoryCall) → Option call.Resp → Prop
  | _, none => True
  | .find _, some (resp : AuthResult (Option AuthRateLimitSnapshot)) => ¬resp.isOk
  | .compareExchange _ _ _, some (resp : AuthResult Bool) => resp ≠ .ok true
  | .clear _ _, some (resp : AuthResult Bool) => resp ≠ .ok true
  | .get _, some _ => False
  | .purgeExpired, some (resp : AuthResult Nat) => ¬resp.isOk

/-- The store contract for this call. -/
def MemoryCall.Meets (w w' : RateLimitWorld) : (call : MemoryCall) → Option call.Resp → Prop
  | .find key, some resp => RateLimitEffect w (.findAuthRateLimitState key) resp w'
  | .compareExchange key expectedRevision replacement, some resp =>
      RateLimitEffect w (.compareExchangeAuthRateLimitState key expectedRevision replacement) resp w'
  | .clear key expectedRevision, some resp =>
      RateLimitEffect w (.clearAuthRateLimitState key expectedRevision) resp w'
  | .get key, some shown => w.Reclaimed w' ∧ shown = (w'.states key).map (·.state)
  | .purgeExpired, some _ => w.Reclaimed w'
  | _, none => w' = w

namespace MemoryState

variable {m m' : MemoryState} {capacity : Nat} {reading : Option OffsetDateTime}
variable {call : MemoryCall} {answer : Option call.Resp} {snapshot : AuthRateLimitSnapshot}

/-- Not expired at the clock reading of an operation. -/
def UnexpiredAt (reading : Option OffsetDateTime) (snapshot : AuthRateLimitSnapshot) : Prop :=
  ∀ now ∈ reading, now < snapshot.state.expiresAt

/-- What holds of a call that took the entries from `m` to `m'`. -/
structure SafeCall (capacity : Nat) (m : MemoryState) (reading : Option OffsetDateTime)
    (call : MemoryCall) (answer : Option call.Resp) (m' : MemoryState) : Prop where
  bounded : m'.Bounded capacity
  preserved : ∀ key snapshot, m.entries.lookup key = some snapshot →
    UnexpiredAt reading snapshot →
    m'.entries.lookup key = some snapshot ∨
      call.Replaced key snapshot (m'.entries.lookup key) answer
  refused : call.Refused answer → ∀ key snapshot, UnexpiredAt reading snapshot →
    (m'.entries.lookup key = some snapshot ↔ m.entries.lookup key = some snapshot)
  meets : ∀ generated, call.Meets (m.world generated) (m'.world generated) answer

/-- A call that left the entries alone. -/
theorem Bounded.unchanged (bounded : m.Bounded capacity) (same : m' = m)
    (meets : ∀ generated, call.Meets (m.world generated) (m'.world generated) answer) :
    SafeCall capacity m reading call answer m' := by
  subst same
  exact ⟨bounded, fun _ _ stored _ => .inl stored, fun _ _ _ _ => Iff.rfl, meets⟩

/-- Reclaiming keeps every entry that is not expired. -/
theorem Indexed.purge_keeps (indexed : m.Indexed) (unexpired : now < snapshot.state.expiresAt) :
    (m.purgeExpired now).1.entries.lookup key = some snapshot ↔
      m.entries.lookup key = some snapshot := by
  rw [indexed.lookup_purgeExpired, Option.filter_eq_some_iff]
  simp [unexpired]

/-- A call that only reclaimed what had expired. -/
theorem Bounded.purged (bounded : m.Bounded capacity) (same : m' = (m.purgeExpired now).1)
    (meets : ∀ generated, call.Meets (m.world generated) (m'.world generated) answer) :
    SafeCall capacity m (some now) call answer m' := by
  subst same
  have keeps : ∀ key snapshot, UnexpiredAt (some now) snapshot →
      ((m.purgeExpired now).1.entries.lookup key = some snapshot ↔
        m.entries.lookup key = some snapshot) :=
    fun _ _ unexpired => bounded.indexed.purge_keeps (unexpired now rfl)
  refine ⟨bounded.purgeExpired, ?_, fun _ => keeps, meets⟩
  intro key snapshot stored unexpired
  exact .inl ((keeps key snapshot unexpired).mpr stored)

section Swap

variable {expectedRevision : Option Uuid} {replacement : AuthRateLimitSnapshot}

/-- A swap is refused and at most reclaims, or it replaces what it expected. -/
theorem compareExchange_cases (m : MemoryState) (capacity : Nat) (now : OffsetDateTime)
    (key : AuthRateLimitKey) (expectedRevision : Option Uuid)
    (replacement : AuthRateLimitSnapshot) :
    let answer := m.compareExchangeAuthRateLimitState capacity now key expectedRevision replacement
    let kept := (m.purgeExpired now).1
    (answer.1 ≠ .ok true ∧ (answer.2 = m ∨ answer.2 = kept)) ∨
      (answer.1 = .ok true ∧ answer.2 = kept.insert key replacement ∧
        (kept.entries.lookup key).map (·.revision) = expectedRevision ∧
        ((kept.entries.lookup key).isNone → kept.size < capacity)) := by
  unfold compareExchangeAuthRateLimitState
  dsimp only
  split
  · exact .inl ⟨nofun, .inl rfl⟩
  · split
    · exact .inl ⟨by simp, .inr rfl⟩
    · rename_i expected
      split
      · exact .inl ⟨nofun, .inr rfl⟩
      · split
        · exact .inl ⟨nofun, .inr rfl⟩
        · rename_i room
          refine .inr ⟨rfl, rfl, not_not.mp expected, ?_⟩
          intro absent
          exact not_le.mp fun full => room ⟨absent, full⟩

theorem Bounded.safe_compareExchange (bounded : m.Bounded capacity) :
    let answer := m.compareExchangeAuthRateLimitState capacity now key expectedRevision replacement
    SafeCall capacity m (some now) (.compareExchange key expectedRevision replacement)
      (some answer.1) answer.2 := by
  intro answer
  have meets : ∀ generated, MemoryCall.Meets (m.world generated) (answer.2.world generated)
      (.compareExchange key expectedRevision replacement) (some answer.1) :=
    fun _ => compareExchange_meets
  rcases compareExchange_cases m capacity now key expectedRevision replacement with
    ⟨-, same | same⟩ | ⟨done, replaced, expected, room⟩
  · exact bounded.unchanged same meets
  · exact bounded.purged same meets
  · have purged : (m.purgeExpired now).1.Bounded capacity := bounded.purgeExpired
    refine ⟨?_, ?_, fun refused => absurd (congrArg some done) ?_, meets⟩
    · rw [replaced]
      refine ⟨purged.indexed.insert, ?_⟩
      rw [size_insert]
      split
      · exact room ‹_›
      · exact purged.size_le
    · intro stored snapshot present unexpired
      have kept := (bounded.indexed.purge_keeps (unexpired now rfl)).mpr present
      rw [replaced, lookup_insert]
      split
      · rename_i same
        subst same
        rw [kept] at expected
        exact .inr ⟨congrArg some done, rfl, expected.symm, rfl⟩
      · exact .inl kept
    · exact fun answered => refused (Option.some.inj answered)

end Swap

theorem clear_cases (m : MemoryState) (now : OffsetDateTime) (key : AuthRateLimitKey)
    (expectedRevision : Option Uuid) :
    let answer := m.clearAuthRateLimitState now key expectedRevision
    let kept := (m.purgeExpired now).1
    answer.2 = kept ∨
      (answer.1 = .ok true ∧ answer.2 = kept.remove key ∧ expectedRevision.isSome ∧
        (kept.entries.lookup key).map (·.revision) = expectedRevision) := by
  unfold clearAuthRateLimitState
  dsimp only
  split
  · exact .inl rfl
  · rename_i expected
    split
    · exact .inr ⟨rfl, rfl, ‹_›, not_not.mp expected⟩
    · exact .inl rfl

theorem Bounded.safe_clear {expectedRevision : Option Uuid} (bounded : m.Bounded capacity) :
    let answer := m.clearAuthRateLimitState now key expectedRevision
    SafeCall capacity m (some now) (.clear key expectedRevision) (some answer.1) answer.2 := by
  intro answer
  have meets : ∀ generated, MemoryCall.Meets (m.world generated) (answer.2.world generated)
      (.clear key expectedRevision) (some answer.1) :=
    fun _ => clear_meets
  rcases clear_cases m now key expectedRevision with same | ⟨done, removed, -, expected⟩
  · exact bounded.purged same meets
  · refine ⟨?_, ?_, fun refused => absurd (congrArg some done) ?_, meets⟩
    · rw [removed]
      exact bounded.purgeExpired.remove
    · intro stored snapshot present unexpired
      have kept := (bounded.indexed.purge_keeps (unexpired now rfl)).mpr present
      rw [removed, lookup_remove]
      split
      · rename_i same
        subst same
        rw [kept] at expected
        exact .inr ⟨congrArg some done, rfl, expected.symm, rfl⟩
      · exact .inl kept
    · exact fun answered => refused (Option.some.inj answered)

end MemoryState

namespace MemoryAuthRateLimitStore

open MemoryState

variable {m : MemoryAuthRateLimitStore} {reading : Option OffsetDateTime}

/-- Under the lock: the call fails without effect, or it runs at the clock reading. -/
theorem safe_locked {call : MemoryCall} {unavailable : Option call.Resp}
    {body : MemoryState → OffsetDateTime → call.Resp × MemoryState}
    (bounded : m.states.Bounded m.capacity.1)
    (failed : ∀ w, call.Meets w w unavailable) (panicked : ∀ w, call.Meets w w none)
    (answered : ∀ now, SafeCall m.capacity.1 m.states (some now) call
      (some (body m.states now).1) (body m.states now).2) :
    SafeCall m.capacity.1 m.states reading call (m.locked reading unavailable body).1
      (m.locked reading unavailable body).2.states := by
  unfold locked
  split
  · exact bounded.unchanged rfl fun _ => failed _
  · cases reading with
    | none => exact bounded.unchanged rfl fun _ => panicked _
    | some now => exact answered now

theorem capacity_locked {α : Type} {unavailable : Option α}
    {body : MemoryState → OffsetDateTime → α × MemoryState} :
    (m.locked reading unavailable body).2.capacity = m.capacity := by
  unfold locked
  split
  · rfl
  · split <;> rfl

theorem capacity_perform (call : MemoryCall) : (m.perform reading call).2.capacity = m.capacity := by
  cases call with
  | compareExchange key expectedRevision replacement =>
      dsimp only [perform]
      split
      · rfl
      · exact capacity_locked
  | _ => exact capacity_locked

theorem safe_perform (bounded : m.states.Bounded m.capacity.1) (call : MemoryCall) :
    SafeCall m.capacity.1 m.states reading call (m.perform reading call).1
      (m.perform reading call).2.states := by
  cases call with
  | find key =>
      refine safe_locked bounded (fun w => ⟨w, .refl w, rfl, trivial⟩) (fun _ => rfl) ?_
      intro now
      exact bounded.purged rfl fun _ => ⟨_, m.states.reclaimed_purgeExpired now, rfl, rfl⟩
  | compareExchange key expectedRevision replacement =>
      dsimp only [perform]
      split
      · exact bounded.unchanged rfl fun generated => ⟨_, .refl _, rfl⟩
      · refine safe_locked bounded (fun w => ⟨w, .refl w, rfl⟩) (fun _ => rfl) ?_
        intro now
        exact bounded.safe_compareExchange
  | clear key expectedRevision =>
      refine safe_locked bounded (fun w => ⟨w, .refl w, rfl⟩) (fun _ => rfl) ?_
      intro now
      exact bounded.safe_clear
  | get key =>
      refine safe_locked bounded (fun _ => rfl) (fun _ => rfl) ?_
      intro now
      exact bounded.purged rfl fun _ => ⟨m.states.reclaimed_purgeExpired now, rfl⟩
  | purgeExpired =>
      refine safe_locked bounded (fun w => .refl w) (fun _ => rfl) ?_
      intro now
      exact bounded.purged rfl fun _ => m.states.reclaimed_purgeExpired now

theorem bounded_run (bounded : m.states.Bounded m.capacity.1)
    (history : List (MemoryCall × Option OffsetDateTime)) :
    (m.run history).states.Bounded (m.run history).capacity.1 ∧
      (m.run history).capacity = m.capacity := by
  induction history generalizing m with
  | nil => exact ⟨bounded, rfl⟩
  | cons step history ih =>
      obtain ⟨call, reading⟩ := step
      have same : (m.perform reading call).2.capacity = m.capacity := capacity_perform call
      have after : (m.perform reading call).2.states.Bounded m.capacity.1 :=
        (safe_perform bounded call).bounded
      rw [← same] at after
      obtain ⟨safe, kept⟩ := ih after
      exact ⟨safe, kept.trans same⟩

/-- In every history the two indexes are in step and within the capacity, and
every further call is safe. -/
theorem memory_store_safe (capacity : NonZeroUsize)
    (history : List (MemoryCall × Option OffsetDateTime)) :
    let m := (withCapacity capacity).run history
    m.states.Indexed ∧ m.states.bucketTotal = m.states.size ∧ m.states.size ≤ capacity.1 ∧
      ∀ reading call, SafeCall capacity.1 m.states reading call (m.perform reading call).1
        (m.perform reading call).2.states := by
  intro m
  obtain ⟨bounded, kept⟩ := bounded_run (m := withCapacity capacity)
    ⟨Indexed.empty, Nat.zero_le _⟩ history
  have limit : m.capacity = capacity := kept
  refine ⟨bounded.indexed, bounded.indexed.total, ?_, ?_⟩
  · rw [← limit]
    exact bounded.size_le
  · intro reading call
    rw [← limit]
    exact safe_perform bounded call

end MemoryAuthRateLimitStore

end AgqlAuth
