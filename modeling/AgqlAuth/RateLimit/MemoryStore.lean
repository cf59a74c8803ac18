import AgqlAuth.RateLimit.System
import Mathlib.Data.List.AList

/-!
# The in-memory rate-limit store

`MemoryAuthRateLimitStore`: bounded entries with an expiry index.  Every
operation first reclaims what has expired by the store's clock.  It meets the
contract, and running calls on it evaluates.
-/

namespace AgqlAuth

open Interaction

/-- The entries, and for every expiry time the keys that expire then. -/
structure MemoryState where
  entries : AList fun _ : AuthRateLimitKey => AuthRateLimitSnapshot
  expirations : List (OffsetDateTime × List AuthRateLimitKey)

/-- Add `key` to the bucket of `expiry`, keeping buckets in order. -/
def addExpiration (expiry : OffsetDateTime) (key : AuthRateLimitKey) :
    List (OffsetDateTime × List AuthRateLimitKey) → List (OffsetDateTime × List AuthRateLimitKey)
  | [] => [(expiry, [key])]
  | (time, keys) :: rest =>
      if expiry < time then (expiry, [key]) :: (time, keys) :: rest
      else if expiry = time then (time, if key ∈ keys then keys else key :: keys) :: rest
      else (time, keys) :: addExpiration expiry key rest

/-- Drop `key` from the bucket of `expiry`, and the bucket with its last key. -/
def dropExpiration (expiry : OffsetDateTime) (key : AuthRateLimitKey) :
    List (OffsetDateTime × List AuthRateLimitKey) → List (OffsetDateTime × List AuthRateLimitKey)
  | [] => []
  | (time, keys) :: rest =>
      if expiry = time then
        if (keys.erase key).isEmpty then rest else (time, keys.erase key) :: rest
      else (time, keys) :: dropExpiration expiry key rest

namespace MemoryState

def empty : MemoryState := ⟨∅, []⟩

/-- Remove the keys of one expired bucket and count those that were stored. -/
def purgeKeys (entries : AList fun _ : AuthRateLimitKey => AuthRateLimitSnapshot) (removed : Nat) :
    List AuthRateLimitKey → (AList fun _ : AuthRateLimitKey => AuthRateLimitSnapshot) × Nat
  | [] => (entries, removed)
  | key :: keys =>
      purgeKeys (entries.erase key) (removed + if (entries.lookup key).isSome then 1 else 0) keys

/-- The loop of `purge_expired` over the first buckets. -/
def purgeBuckets (now : OffsetDateTime)
    (entries : AList fun _ : AuthRateLimitKey => AuthRateLimitSnapshot) (removed : Nat) :
    List (OffsetDateTime × List AuthRateLimitKey) → MemoryState × Nat
  | [] => (⟨entries, []⟩, removed)
  | (expiry, keys) :: rest =>
      if expiry ≤ now then
        let purged := purgeKeys entries removed keys
        purgeBuckets now purged.1 purged.2 rest
      else (⟨entries, (expiry, keys) :: rest⟩, removed)

def purgeExpired (self : MemoryState) (now : OffsetDateTime) : MemoryState × Nat :=
  purgeBuckets now self.entries 0 self.expirations

def remove (self : MemoryState) (key : AuthRateLimitKey) : MemoryState :=
  match self.entries.lookup key with
  | none => self
  | some previous => {
      entries := self.entries.erase key
      expirations := dropExpiration previous.state.expiresAt key self.expirations }

def insert (self : MemoryState) (key : AuthRateLimitKey) (snapshot : AuthRateLimitSnapshot) :
    MemoryState where
  entries := (self.remove key).entries.insert key snapshot
  expirations := addExpiration snapshot.state.expiresAt key (self.remove key).expirations

def findAuthRateLimitState (self : MemoryState) (now : OffsetDateTime) (key : AuthRateLimitKey) :
    Option AuthRateLimitSnapshot × MemoryState :=
  let states := (self.purgeExpired now).1
  (states.entries.lookup key, states)

def compareExchangeAuthRateLimitState (self : MemoryState) (capacity : Nat) (now : OffsetDateTime)
    (key : AuthRateLimitKey) (expectedRevision : Option Uuid)
    (replacement : AuthRateLimitSnapshot) : AuthResult Bool × MemoryState :=
  if replacement.state.key ≠ key then
    (.error (.store "rate-limit replacement key does not match compare key"), self)
  else
    let states := (self.purgeExpired now).1
    if (states.entries.lookup key).map (·.revision) ≠ expectedRevision then (.ok false, states)
    else if replacement.state.expiresAt ≤ now then
      (.error (.store "rate-limit replacement is already expired under store clock"), states)
    else if (states.entries.lookup key).isNone ∧ capacity ≤ states.entries.entries.length then
      (.error .authServiceUnavailable, states)
    else (.ok true, states.insert key replacement)

def clearAuthRateLimitState (self : MemoryState) (now : OffsetDateTime) (key : AuthRateLimitKey)
    (expectedRevision : Option Uuid) : AuthResult Bool × MemoryState :=
  let states := (self.purgeExpired now).1
  if (states.entries.lookup key).map (·.revision) ≠ expectedRevision then (.ok false, states)
  else if expectedRevision.isSome then (.ok true, states.remove key)
  else (.ok true, states)

variable {self : MemoryState} {now : OffsetDateTime} {key other : AuthRateLimitKey}

theorem lookup_purgeKeys {entries : AList fun _ : AuthRateLimitKey => AuthRateLimitSnapshot}
    {removed : Nat} (keys : List AuthRateLimitKey) :
    (purgeKeys entries removed keys).1.lookup key = entries.lookup key ∨
      (purgeKeys entries removed keys).1.lookup key = none := by
  induction keys generalizing entries removed with
  | nil => exact .inl rfl
  | cons purged keys ih =>
      unfold purgeKeys
      rcases ih with same | gone
      · rw [same]
        by_cases own : key = purged
        · subst own
          exact .inr (AList.lookup_erase key entries)
        · exact .inl (AList.lookup_erase_ne own)
      · exact .inr gone

theorem lookup_purgeBuckets (entries : AList fun _ : AuthRateLimitKey => AuthRateLimitSnapshot)
    (removed : Nat) (buckets : List (OffsetDateTime × List AuthRateLimitKey)) :
    (purgeBuckets now entries removed buckets).1.entries.lookup key = entries.lookup key ∨
      (purgeBuckets now entries removed buckets).1.entries.lookup key = none := by
  induction buckets generalizing entries removed with
  | nil => exact .inl rfl
  | cons bucket buckets ih =>
      unfold purgeBuckets
      split
      · rcases ih _ _ with same | gone
        · dsimp only
          rw [same]
          exact lookup_purgeKeys bucket.2
        · exact .inr gone
      · exact .inl rfl

theorem lookup_remove_self : (self.remove key).entries.lookup key = none := by
  unfold remove
  split
  · assumption
  · exact AList.lookup_erase key _

theorem lookup_remove_of_ne (ne : other ≠ key) :
    (self.remove key).entries.lookup other = self.entries.lookup other := by
  unfold remove
  split
  · rfl
  · exact AList.lookup_erase_ne ne

/-- The contract's view of a store after `generated` identifiers were drawn. -/
def world (self : MemoryState) (generated : List Uuid) : RateLimitWorld :=
  ⟨fun key => self.entries.lookup key, generated⟩

variable {generated : List Uuid}

theorem reclaimed_purgeExpired (self : MemoryState) (now : OffsetDateTime) :
    (self.world generated).Reclaimed ((self.purgeExpired now).1.world generated) :=
  ⟨rfl, fun _ => lookup_purgeBuckets _ _ self.expirations⟩

theorem world_insert {snapshot : AuthRateLimitSnapshot} :
    (self.insert key snapshot).world generated =
      (self.world generated).set key (some snapshot) := by
  refine RateLimitWorld.mk.injEq .. |>.mpr ⟨funext fun other => ?_, rfl⟩
  by_cases same : other = key
  · subst same
    rw [Function.update_self]
    exact AList.lookup_insert _
  · rw [Function.update_of_ne same]
    exact (AList.lookup_insert_ne same).trans (lookup_remove_of_ne same)

theorem world_remove :
    (self.remove key).world generated = (self.world generated).set key none := by
  refine RateLimitWorld.mk.injEq .. |>.mpr ⟨funext fun other => ?_, rfl⟩
  by_cases same : other = key
  · subst same
    rw [Function.update_self]
    exact lookup_remove_self
  · rw [Function.update_of_ne same]
    exact lookup_remove_of_ne same

theorem compareExchange_meets {capacity : Nat} {expectedRevision : Option Uuid}
    {replacement : AuthRateLimitSnapshot} :
    let answer := self.compareExchangeAuthRateLimitState capacity now key expectedRevision
      replacement
    RateLimitEffect (self.world generated)
      (.compareExchangeAuthRateLimitState key expectedRevision replacement) answer.1
      (answer.2.world generated) := by
  unfold compareExchangeAuthRateLimitState
  split
  · exact ⟨_, .refl _, rfl⟩
  · rename_i own
    refine ⟨_, self.reclaimed_purgeExpired now, ?_⟩
    dsimp only
    split
    · rename_i conflict
      exact ⟨conflict, rfl⟩
    · rename_i expected
      split
      · rfl
      · split
        · rfl
        · exact ⟨not_not.mp own, not_not.mp expected, world_insert⟩

theorem clear_meets {expectedRevision : Option Uuid} :
    let answer := self.clearAuthRateLimitState now key expectedRevision
    RateLimitEffect (self.world generated) (.clearAuthRateLimitState key expectedRevision) answer.1
      (answer.2.world generated) := by
  unfold clearAuthRateLimitState
  refine ⟨_, self.reclaimed_purgeExpired now, ?_⟩
  dsimp only
  split
  · rename_i conflict
    exact ⟨conflict, rfl⟩
  · rename_i expected
    have expected := not_not.mp expected
    split
    · exact ⟨expected, world_remove⟩
    · rename_i absent
      have absent : expectedRevision = none := by simpa using absent
      subst absent
      refine ⟨expected, ?_⟩
      refine RateLimitWorld.mk.injEq .. |>.mpr ⟨(Function.update_eq_self_iff.mpr ?_).symm, rfl⟩
      exact (Option.map_eq_none_iff.mp expected).symm

end MemoryState

/-- The in-memory store, the identifiers drawn and the operations answered so far. -/
structure RateLimitHost where
  states : MemoryState
  generated : List Uuid
  ticks : Nat

namespace RateLimitHost

def world (m : RateLimitHost) : RateLimitWorld := m.states.world m.generated

/-- The next identifier; counting up keeps identifiers fresh for `2 ^ 128` draws. -/
def nextUuid (m : RateLimitHost) : Uuid := ⟨BitVec.ofNat 128 m.generated.length⟩

def tick (m : RateLimitHost) (states : MemoryState) : RateLimitHost :=
  { m with states, ticks := m.ticks + 1 }

/-- Answer one operation; the store and its callers share a clock. -/
def exec (capacity : Nat) (clock : Nat → OffsetDateTime) (m : RateLimitHost) :
    (op : AuthOp) → Option (AuthOp.Resp op × RateLimitHost)
  | .now _ => some (clock m.ticks, m.tick m.states)
  | .newUuid =>
      if m.nextUuid ∈ m.generated then none
      else some (m.nextUuid, { m.tick m.states with generated := m.nextUuid :: m.generated })
  | .findAuthRateLimitState key =>
      let (current, states) := m.states.findAuthRateLimitState (clock m.ticks) key
      some ((.ok current : AuthResult (Option AuthRateLimitSnapshot)), m.tick states)
  | .compareExchangeAuthRateLimitState key expectedRevision replacement =>
      let (answer, states) := m.states.compareExchangeAuthRateLimitState capacity (clock m.ticks)
        key expectedRevision replacement
      some ((answer : AuthResult Bool), m.tick states)
  | .clearAuthRateLimitState key expectedRevision =>
      let (answer, states) := m.states.clearAuthRateLimitState (clock m.ticks) key expectedRevision
      some ((answer : AuthResult Bool), m.tick states)
  | _ => none

/-- Every answer is one the contract allows. -/
theorem exec_meets {capacity : Nat} {clock : Nat → OffsetDateTime} {m m' : RateLimitHost}
    {op : AuthOp} {resp : AuthOp.Resp op}
    (answered : m.exec capacity clock op = some (resp, m')) :
    RateLimitEffect m.world op resp m'.world := by
  cases op with
  | now source =>
      cases answered
      exact ⟨_, .refl _, rfl⟩
  | newUuid =>
      simp only [exec] at answered
      split at answered
      · cases answered
      · cases answered
        exact ⟨_, .refl _, ‹_›, rfl⟩
  | findAuthRateLimitState key =>
      cases answered
      exact ⟨_, m.states.reclaimed_purgeExpired _, rfl, rfl⟩
  | compareExchangeAuthRateLimitState key expectedRevision replacement =>
      cases answered
      exact MemoryState.compareExchange_meets
  | clearAuthRateLimitState key expectedRevision =>
      cases answered
      exact MemoryState.clear_meets
  | _ => cases answered

end RateLimitHost

/-- The in-memory store is an implementation of the contract. -/
def rateLimitHost (capacity : Nat) (clock : Nat → OffsetDateTime) :
    Implementation rateLimitStore where
  Memory := RateLimitHost
  start := ⟨.empty, [], 0⟩
  exec := RateLimitHost.exec capacity clock
  abs := RateLimitHost.world
  abs_start := rfl
  meets := RateLimitHost.exec_meets

/-- A service that uses one policy for everything. -/
def limitedService (policy : AuthRateLimitPolicy) : AuthService := .bare ⟨policy, policy⟩

/-- A clock that moves `step` seconds with every operation answered. -/
def steadyClock (step : Nat) (ticks : Nat) : OffsetDateTime :=
  (OffsetDateTime.fromUnixTimestamp (step * ticks)).getD ⟨0, by decide, by decide⟩

/-- A check that is already decided. -/
def CredentialCheck.decided (verified : Bool) : CredentialCheck where
  run := pure verified
  outside := trivial

def sampleKey : AuthRateLimitKey :=
  (limitedService AuthRateLimitConfig.default.credential).rateLimitKey .passwordLogin .principal
    "ada"

/-- Two failures and a success for one principal. -/
def sampleRaces : RateLimitPool Nat
  | 0 | 1 => (limitedService AuthRateLimitConfig.default.credential,
      .recordFailure .passwordLogin (some "ada") {})
  | _ => (limitedService AuthRateLimitConfig.default.credential,
      .credential .passwordLogin (some "ada") {} (.decided true))

def sampleRaceRun (order : List Nat) :
    Running (rateLimitHost 16384 (steadyClock 1)) sampleRaces.program :=
  Running.start.schedule order

/-- The second failure commits between the read and the swap of the first. -/
def racedFailures : List Nat := [0, 0, 0, 1, 1, 1, 1, 0, 0, 0, 0]

end AgqlAuth
