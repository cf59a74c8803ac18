import AgqlAuth.Interaction.FreshNames
import AgqlAuth.Interaction.Simulation
import AgqlAuth.RateLimit.Calls

/-!
# The rate-limit store contract

What `AuthRateLimitStore` documents: compare-and-swap and conditional clear are
atomic, a failed operation has no effect, and records that are expired by the
store's own clock may be reclaimed as part of any operation.  Nothing is assumed
about that clock.
-/

namespace AgqlAuth

open Interaction

/-- The stored snapshots, and every identifier drawn so far. -/
structure RateLimitWorld where
  states : AuthRateLimitKey → Option AuthRateLimitSnapshot
  generated : List Uuid

namespace RateLimitWorld

/-- Some records were reclaimed. -/
def Reclaimed (w w' : RateLimitWorld) : Prop :=
  w'.generated = w.generated ∧ ∀ key, w'.states key = w.states key ∨ w'.states key = none

def revision (w : RateLimitWorld) (key : AuthRateLimitKey) : Option Uuid :=
  (w.states key).map (·.revision)

def set (w : RateLimitWorld) (key : AuthRateLimitKey) (snapshot : Option AuthRateLimitSnapshot) :
    RateLimitWorld :=
  { w with states := Function.update w.states key snapshot }

@[simp]
theorem set_self (w : RateLimitWorld) (key : AuthRateLimitKey)
    (snapshot : Option AuthRateLimitSnapshot) : (w.set key snapshot).states key = snapshot :=
  Function.update_self ..

theorem set_of_ne (w : RateLimitWorld) {key other : AuthRateLimitKey}
    (snapshot : Option AuthRateLimitSnapshot) (ne : other ≠ key) :
    (w.set key snapshot).states other = w.states other :=
  Function.update_of_ne ne ..

theorem Reclaimed.refl (w : RateLimitWorld) : w.Reclaimed w := ⟨rfl, fun _ => .inl rfl⟩

theorem Reclaimed.stored {w w' : RateLimitWorld} {key : AuthRateLimitKey}
    {snapshot : AuthRateLimitSnapshot} (reclaimed : w.Reclaimed w')
    (stored : w'.states key = some snapshot) : w.states key = some snapshot := by
  rcases reclaimed.2 key with same | gone
  · exact same.symm.trans stored
  · cases gone.symm.trans stored

end RateLimitWorld

section Contract

open RateLimitWorld

/-- `compare_exchange_auth_rate_limit_state`. -/
def CompareExchange (w : RateLimitWorld) (key : AuthRateLimitKey) (expectedRevision : Option Uuid)
    (replacement : AuthRateLimitSnapshot) : AuthResult Bool → RateLimitWorld → Prop
  | .ok true, w' => replacement.state.key = key ∧ w.revision key = expectedRevision ∧
      w' = w.set key (some replacement)
  | .ok false, w' => w.revision key ≠ expectedRevision ∧ w' = w
  | .error _, w' => w' = w

/-- `clear_auth_rate_limit_state`. -/
def ConditionalClear (w : RateLimitWorld) (key : AuthRateLimitKey)
    (expectedRevision : Option Uuid) : AuthResult Bool → RateLimitWorld → Prop
  | .ok true, w' => w.revision key = expectedRevision ∧ w' = w.set key none
  | .ok false, w' => w.revision key ≠ expectedRevision ∧ w' = w
  | .error _, w' => w' = w

/-- What an operation may answer and do once records were reclaimed. -/
def AnsweredFrom (w : RateLimitWorld) :
    (op : AuthOp) → AuthOp.Resp op → RateLimitWorld → Prop
  | .newUuid, id, w' => id ∉ w.generated ∧ w' = { w with generated := id :: w.generated }
  | .findAuthRateLimitState key, resp, w' => w' = w ∧
      match (resp : AuthResult (Option AuthRateLimitSnapshot)) with
      | .ok current => w.states key = current
      | .error _ => True
  | .compareExchangeAuthRateLimitState key expectedRevision replacement, resp, w' =>
      CompareExchange w key expectedRevision replacement resp w'
  | .clearAuthRateLimitState key expectedRevision, resp, w' =>
      ConditionalClear w key expectedRevision resp w'
  | _, _, w' => w' = w

def RateLimitEffect (w : RateLimitWorld) (op : AuthOp) (resp : AuthOp.Resp op)
    (w' : RateLimitWorld) : Prop :=
  ∃ kept, w.Reclaimed kept ∧ AnsweredFrom kept op resp w'

/-- Any store meeting the contract, with fresh identifiers. -/
def rateLimitStore : Shared authSignature where
  State := RateLimitWorld
  init := ⟨fun _ => none, []⟩
  Effect := RateLimitEffect

end Contract

section Effects

open RateLimitWorld

variable {w w' : RateLimitWorld} {e : AuthEvent} {key : AuthRateLimitKey}

/-- An operation that commits nothing keeps every state or removes it. -/
theorem RateLimitEffect.kept (effect : RateLimitEffect w e.op e.resp w')
    (uncommitted : commitOf e = none) (key : AuthRateLimitKey) :
    w'.states key = w.states key ∨ w'.states key = none := by
  obtain ⟨kept, reclaimed, answered⟩ := effect
  obtain ⟨op, resp⟩ := e
  cases op with
  | newUuid =>
      obtain ⟨-, rfl⟩ := answered
      exact reclaimed.2 key
  | findAuthRateLimitState _ =>
      obtain ⟨rfl, -⟩ := answered
      exact reclaimed.2 key
  | compareExchangeAuthRateLimitState _ _ _ =>
      rcases resp with _ | _ | _
      · obtain rfl := answered
        exact reclaimed.2 key
      · obtain ⟨-, rfl⟩ := answered
        exact reclaimed.2 key
      · cases uncommitted
  | clearAuthRateLimitState cleared _ =>
      rcases resp with _ | _ | _
      · obtain rfl := answered
        exact reclaimed.2 key
      · obtain ⟨-, rfl⟩ := answered
        exact reclaimed.2 key
      · obtain ⟨-, rfl⟩ := answered
        by_cases same : key = cleared
        · subst same
          exact .inr (set_self ..)
        · rw [set_of_ne _ _ same]
          exact reclaimed.2 key
  | _ =>
      obtain rfl := answered
      exact reclaimed.2 key

/-- A commit replaces the expected state, or a missing one, and nothing else. -/
theorem RateLimitEffect.committed {expectedRevision : Option Uuid}
    {replacement : AuthRateLimitSnapshot} {w' : RateLimitWorld}
    (effect : RateLimitEffect w (.compareExchangeAuthRateLimitState key expectedRevision replacement)
      (.ok true : AuthResult Bool) w') :
    (∀ revision, expectedRevision = some revision →
      ∃ stored, w.states key = some stored ∧ stored.revision = revision) ∧
      w'.states key = some replacement ∧
      ∀ other, other ≠ key → w'.states other = w.states other ∨ w'.states other = none := by
  obtain ⟨kept, reclaimed, -, expected, rfl⟩ := effect
  refine ⟨?_, set_self .., ?_⟩
  · rintro revision rfl
    obtain ⟨stored, present, same⟩ := Option.map_eq_some_iff.mp expected
    exact ⟨stored, reclaimed.stored present, same⟩
  · intro other ne
    rw [set_of_ne _ _ ne]
    exact reclaimed.2 other

theorem RateLimitEffect.observed {current : Option AuthRateLimitSnapshot}
    {snapshot : AuthRateLimitSnapshot}
    (effect : RateLimitEffect w (.findAuthRateLimitState key)
      (.ok current : AuthResult (Option AuthRateLimitSnapshot)) w')
    (shown : current = some snapshot) : w.states key = some snapshot := by
  obtain ⟨kept, reclaimed, -, answer⟩ := effect
  exact reclaimed.stored (Eq.trans answer shown)

/-- A successful clear removes the expected revision. -/
theorem RateLimitEffect.cleared {revision : Uuid}
    (effect : RateLimitEffect w (.clearAuthRateLimitState key (some revision))
      (.ok true : AuthResult Bool) w') :
    ∃ stored, w.states key = some stored ∧ stored.revision = revision := by
  obtain ⟨kept, reclaimed, expected, -⟩ := effect
  obtain ⟨stored, present, same⟩ := Option.map_eq_some_iff.mp expected
  exact ⟨stored, reclaimed.stored present, same⟩

/-- Identifiers are the names a rate-limit store hands out. -/
def rateLimitUuids : FreshNames rateLimitStore Uuid where
  drawn := drawnUuid
  issued := RateLimitWorld.generated
  init := rfl
  draw := by
    rintro s op resp s' name ⟨kept, reclaimed, answered⟩ drawn
    cases op with
    | newUuid =>
        cases drawn
        obtain ⟨new, rfl⟩ := answered
        rw [reclaimed.1] at new
        exact ⟨new, congrArg _ reclaimed.1⟩
    | _ => cases drawn
  keep := by
    rintro s op resp s' ⟨kept, reclaimed, answered⟩ drawn
    cases op with
    | newUuid => cases drawn
    | findAuthRateLimitState _ =>
        obtain ⟨rfl, -⟩ := answered
        exact reclaimed.1
    | compareExchangeAuthRateLimitState _ _ _ =>
        rcases resp with _ | _ | _
        · obtain rfl := answered
          exact reclaimed.1
        · obtain ⟨-, rfl⟩ := answered
          exact reclaimed.1
        · obtain ⟨-, -, rfl⟩ := answered
          exact reclaimed.1
    | clearAuthRateLimitState _ _ =>
        rcases resp with _ | _ | _
        · obtain rfl := answered
          exact reclaimed.1
        · obtain ⟨-, rfl⟩ := answered
          exact reclaimed.1
        · obtain ⟨-, rfl⟩ := answered
          exact reclaimed.1
    | _ =>
        obtain rfl := answered
        exact reclaimed.1

end Effects

end AgqlAuth
