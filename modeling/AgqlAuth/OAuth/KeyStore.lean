import AgqlAuth.Interaction.Cooldown
import AgqlAuth.Interaction.Register
import AgqlAuth.OAuth.Callback
import AgqlAuth.OAuth.IdTokenKeys

/-!
# The shared state of the keys

The two caches of a provider and the instant of its last forced refresh, shared
by its clones.  Each is behind a lock of its own, which may be poisoned.  The
remote provider, the state store and the clock may answer anything.
-/

namespace AgqlAuth

open Interaction Program

variable {DecodingKey : Type}

abbrev KeyEvent (DecodingKey : Type) := Event (idTokenSignature DecodingKey)

abbrev KeyHistory (DecodingKey : Type) := History (idTokenSignature DecodingKey)

structure KeyWorld (DecodingKey : Type) where
  discovery : Option CachedDiscovery := none
  jwks : Option (CachedJwks DecodingKey) := none
  lastForced : Option OffsetDateTime := none

def isGranted : AuthResult Bool → Bool
  | .ok allowed => allowed
  | .error _ => false

/-- What the section under the lock answers and leaves, with `cooldown` configured. -/
structure ForcedRefresh (cooldown : Duration) (w : KeyWorld DecodingKey) (now : OffsetDateTime)
    (resp : AuthResult Bool) (w' : KeyWorld DecodingKey) : Prop where
  answer : resp = .error (.oidcDiscovery "forced JWKS refresh lock poisoned") ∨
    resp = forcedRefreshAllowed cooldown now w.lastForced
  state : w' = if isGranted resp then { w with lastForced := some now } else w

/-- What an operation may answer and do. -/
def KeyEffect (cooldown : Duration) (w : KeyWorld DecodingKey) :
    (op : (idTokenSignature DecodingKey).Op) → (idTokenSignature DecodingKey).Resp op →
      KeyWorld DecodingKey → Prop
  | .inl .readDiscoveryCache, resp, w' =>
      ((resp : Option (Option CachedDiscovery)) = none ∨ resp = some w.discovery) ∧ w' = w
  | .inl (.writeDiscoveryCache cached), resp, w' =>
      ((resp : Option Unit) = none ∧ w' = w) ∨ w' = { w with discovery := some cached }
  | .inr .readJwksCache, resp, w' =>
      ((resp : Option (Option (CachedJwks DecodingKey))) = none ∨ resp = some w.jwks) ∧ w' = w
  | .inr (.writeJwksCache cached), resp, w' =>
      ((resp : Option Unit) = none ∧ w' = w) ∨ w' = { w with jwks := some cached }
  | .inr (.lockForcedRefresh configured now), resp, w' =>
      configured = cooldown ∧ ForcedRefresh cooldown w now (resp : AuthResult Bool) w'
  | _, _, w' => w' = w

/-- The state that the clones of a provider share. -/
def keyStore (DecodingKey : Type) (cooldown : Duration) :
    Shared (idTokenSignature DecodingKey) where
  State := KeyWorld DecodingKey
  init := {}
  Effect := KeyEffect cooldown

variable {cooldown : Duration}

def discoveryRead : KeyEvent DecodingKey → Option CachedDiscovery
  | ⟨.inl .readDiscoveryCache, resp⟩ => (resp : Option (Option CachedDiscovery)).join
  | _ => none

def discoveryWritten : KeyEvent DecodingKey → Option CachedDiscovery
  | ⟨.inl (.writeDiscoveryCache cached), _⟩ => some cached
  | _ => none

def jwksRead : KeyEvent DecodingKey → Option (CachedJwks DecodingKey)
  | ⟨.inr .readJwksCache, resp⟩ => (resp : Option (Option (CachedJwks DecodingKey))).join
  | _ => none

def jwksWritten : KeyEvent DecodingKey → Option (CachedJwks DecodingKey)
  | ⟨.inr (.writeJwksCache cached), _⟩ => some cached
  | _ => none

theorem op_of_discoveryWritten {e : KeyEvent DecodingKey} {cached : CachedDiscovery}
    (written : discoveryWritten e = some cached) : e.op = .inl (.writeDiscoveryCache cached) := by
  obtain ⟨op | op, resp⟩ := e
  · cases op with
    | writeDiscoveryCache cached' =>
        cases written
        rfl
    | _ => cases written
  · cases written

theorem op_of_jwksWritten {e : KeyEvent DecodingKey} {cached : CachedJwks DecodingKey}
    (written : jwksWritten e = some cached) : e.op = .inr (.writeJwksCache cached) := by
  obtain ⟨op | op, resp⟩ := e
  · cases written
  · cases op with
    | writeJwksCache cached' =>
        cases written
        rfl
    | _ => cases written

/-- Apart from its writes an operation leaves a cache alone. -/
theorem discovery_kept {s s' : KeyWorld DecodingKey} {op : (idTokenSignature DecodingKey).Op}
    {resp : (idTokenSignature DecodingKey).Resp op} (effect : KeyEffect cooldown s op resp s')
    (unwritten : discoveryWritten ⟨op, resp⟩ = none) : s'.discovery = s.discovery := by
  rcases op with op | op
  · cases op with
    | readDiscoveryCache => rw [effect.2]
    | writeDiscoveryCache cached => cases unwritten
    | _ => exact congrArg KeyWorld.discovery effect
  · cases op with
    | systemTime => exact congrArg KeyWorld.discovery effect
    | readJwksCache => rw [effect.2]
    | writeJwksCache cached => rcases effect with ⟨-, rfl⟩ | rfl <;> rfl
    | lockForcedRefresh configured now =>
        rw [effect.2.state]
        split <;> rfl

theorem jwks_kept {s s' : KeyWorld DecodingKey} {op : (idTokenSignature DecodingKey).Op}
    {resp : (idTokenSignature DecodingKey).Resp op} (effect : KeyEffect cooldown s op resp s')
    (unwritten : jwksWritten ⟨op, resp⟩ = none) : s'.jwks = s.jwks := by
  rcases op with op | op
  · cases op with
    | readDiscoveryCache => rw [effect.2]
    | writeDiscoveryCache cached => rcases effect with ⟨-, rfl⟩ | rfl <;> rfl
    | _ => exact congrArg KeyWorld.jwks effect
  · cases op with
    | systemTime => exact congrArg KeyWorld.jwks effect
    | readJwksCache => rw [effect.2]
    | writeJwksCache cached => cases unwritten
    | lockForcedRefresh configured now =>
        rw [effect.2.state]
        split <;> rfl

def discoveryCache : Register (keyStore DecodingKey cooldown) CachedDiscovery where
  reads := discoveryRead
  writes := discoveryWritten
  holds w := w.discovery
  empty := rfl
  read {s op resp s' value} effect read := by
    rcases op with op | op
    · cases op with
      | readDiscoveryCache =>
          obtain ⟨rfl | rfl, -⟩ := effect
          · cases read
          · exact read
      | _ => cases read
    · cases read
  wrote {s op resp s' value} effect held := by
    cases written : discoveryWritten (⟨op, resp⟩ : KeyEvent DecodingKey) with
    | none => exact .inl (discovery_kept effect written ▸ held)
    | some cached =>
        rcases op with op | op
        · cases op with
          | writeDiscoveryCache cached' =>
              rcases effect with ⟨-, rfl⟩ | rfl
              · exact .inl held
              · exact .inr (written.symm.trans held)
          | _ => cases written
        · cases written

def jwksCache : Register (keyStore DecodingKey cooldown) (CachedJwks DecodingKey) where
  reads := jwksRead
  writes := jwksWritten
  holds w := w.jwks
  empty := rfl
  read {s op resp s' value} effect read := by
    rcases op with op | op
    · cases read
    · cases op with
      | readJwksCache =>
          obtain ⟨rfl | rfl, -⟩ := effect
          · cases read
          · exact read
      | _ => cases read
  wrote {s op resp s' value} effect held := by
    cases written : jwksWritten (⟨op, resp⟩ : KeyEvent DecodingKey) with
    | none => exact .inl (jwks_kept effect written ▸ held)
    | some cached =>
        rcases op with op | op
        · cases written
        · cases op with
          | writeJwksCache cached' =>
              rcases effect with ⟨-, rfl⟩ | rfl
              · exact .inl held
              · exact .inr (written.symm.trans held)
          | _ => cases written

def refreshGranted : KeyEvent DecodingKey → Option Int
  | ⟨.inr (.lockForcedRefresh _ now), resp⟩ =>
      if isGranted (resp : AuthResult Bool) then some now.unixNanos else none
  | _ => none

def refreshDenied : KeyEvent DecodingKey → Option Int
  | ⟨.inr (.lockForcedRefresh _ now), resp⟩ =>
      match (resp : AuthResult Bool) with
      | .ok false => some now.unixNanos
      | _ => none
  | _ => none

theorem event_of_refreshGranted {e : KeyEvent DecodingKey} {instant : Int}
    (granted : refreshGranted e = some instant) : ∃ configured now,
      e = ⟨.inr (.lockForcedRefresh configured now), (.ok true : AuthResult Bool)⟩ ∧
        now.unixNanos = instant := by
  obtain ⟨op | op, resp⟩ := e
  · cases granted
  · cases op with
    | lockForcedRefresh configured now =>
        rcases resp with e | _ | _
        · cases granted
        · cases granted
        · cases granted
          exact ⟨configured, now, rfl, rfl⟩
    | _ => cases granted

theorem spaced_of_allowed {now last : OffsetDateTime}
    (allowed : forcedRefreshAllowed cooldown now (some last) = .ok true) :
    last.unixNanos + cooldown.nanos ≤ now.unixNanos := by
  unfold forcedRefreshAllowed at allowed
  cases added : last.checkedAdd cooldown with
  | none =>
      simp only [added] at allowed
      cases allowed
  | some next =>
      simp only [added] at allowed
      have later : next ≤ now := by simpa using allowed
      rwa [OffsetDateTime.le_iff, OffsetDateTime.checkedAdd_eq_some added] at later

theorem recent_of_denied {now : OffsetDateTime} {last : Option OffsetDateTime}
    (denied : forcedRefreshAllowed cooldown now last = .ok false) :
    ∃ before, last = some before ∧ now.unixNanos < before.unixNanos + cooldown.nanos := by
  cases last with
  | none => cases denied
  | some before =>
      unfold forcedRefreshAllowed at denied
      cases added : before.checkedAdd cooldown with
      | none =>
          simp only [added] at denied
          cases denied
      | some next =>
          simp only [added] at denied
          have early : now < next := by simpa using denied
          rw [OffsetDateTime.lt_iff, OffsetDateTime.checkedAdd_eq_some added] at early
          exact ⟨before, rfl, early⟩

theorem isGranted_iff {resp : AuthResult Bool} : isGranted resp = true ↔ resp = .ok true := by
  cases resp with
  | error e => simp [isGranted]
  | ok allowed => simp [isGranted]

namespace ForcedRefresh

variable {w w' : KeyWorld DecodingKey} {now : OffsetDateTime} {resp : AuthResult Bool}

theorem granted (effect : ForcedRefresh cooldown w now resp w') (allowed : isGranted resp = true) :
    w'.lastForced = some now ∧ ∀ before, w.lastForced = some before →
      before.unixNanos + cooldown.nanos ≤ now.unixNanos := by
  obtain ⟨answer, rfl⟩ := effect
  rw [if_pos allowed]
  refine ⟨rfl, fun before known => ?_⟩
  rw [isGranted_iff] at allowed
  subst allowed
  rcases answer with poisoned | answer
  · cases poisoned
  · rw [known] at answer
    exact spaced_of_allowed answer.symm

theorem denied (effect : ForcedRefresh cooldown w now (.ok false) w') :
    ∃ before, w.lastForced = some before ∧ now.unixNanos < before.unixNanos + cooldown.nanos := by
  rcases effect.answer with poisoned | answer
  · cases poisoned
  · exact recent_of_denied answer.symm

theorem kept (effect : ForcedRefresh cooldown w now resp w') (unallowed : isGranted resp ≠ true) :
    w' = w := by
  rw [effect.state, if_neg unallowed]

end ForcedRefresh

theorem lastForced_kept {s s' : KeyWorld DecodingKey} {op : (idTokenSignature DecodingKey).Op}
    {resp : (idTokenSignature DecodingKey).Resp op} (effect : KeyEffect cooldown s op resp s')
    (ungranted : refreshGranted ⟨op, resp⟩ = none) : s'.lastForced = s.lastForced := by
  rcases op with op | op
  · cases op with
    | readDiscoveryCache => rw [effect.2]
    | writeDiscoveryCache cached => rcases effect with ⟨-, rfl⟩ | rfl <;> rfl
    | _ => exact congrArg KeyWorld.lastForced effect
  · cases op with
    | systemTime => exact congrArg KeyWorld.lastForced effect
    | readJwksCache => rw [effect.2]
    | writeJwksCache cached => rcases effect with ⟨-, rfl⟩ | rfl <;> rfl
    | lockForcedRefresh configured now =>
        rw [effect.2.kept fun allowed => by cases ungranted.symm.trans (if_pos allowed)]

def forcedRefreshes : Cooldown (keyStore DecodingKey cooldown) cooldown.nanos where
  grants := refreshGranted
  denies := refreshDenied
  last w := w.lastForced.map OffsetDateTime.unixNanos
  idle := rfl
  granted {s op resp s' instant} effect grants := by
    rcases op with op | op
    · cases grants
    · cases op with
      | lockForcedRefresh configured now =>
          obtain ⟨allowed, same⟩ := Option.ite_none_right_eq_some.mp grants
          obtain ⟨last, apart⟩ := effect.2.granted allowed
          cases same
          refine ⟨congrArg (Option.map _) last, fun before known => ?_⟩
          obtain ⟨before', held, rfl⟩ := Option.map_eq_some_iff.mp known
          exact apart before' held
      | _ => cases grants
  denied {s op resp s' instant} effect denies := by
    rcases op with op | op
    · cases denies
    · cases op with
      | lockForcedRefresh configured now =>
          rcases resp with e | _ | _
          · cases denies
          · cases denies
            obtain ⟨before, last, early⟩ := effect.2.denied
            exact ⟨before.unixNanos, congrArg (Option.map _) last, early⟩
          · cases denies
      | _ => cases denies
  kept effect ungranted := congrArg (Option.map _) (lastForced_kept effect ungranted)

end AgqlAuth
