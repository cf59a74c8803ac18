import AgqlAuth.Challenge.Store
import AgqlAuth.Interaction.Simulation
import Mathlib.Data.List.AList

/-!
# An in-memory challenge store

The store of the library's own tests.  It meets the contract, and running calls
on it evaluates.
-/

namespace AgqlAuth

open Interaction

/-- The challenges, each with the record it was inserted as. -/
structure MemoryLoginChallengeStore where
  challenges : AList fun _ : Uuid => StoredLoginChallenge × StoredLoginChallenge
  /-- The operations answered so far. -/
  ticks : Nat

namespace MemoryLoginChallengeStore

def find (m : MemoryLoginChallengeStore) (challengeId : Uuid) : Option StoredLoginChallenge :=
  (m.challenges.lookup challengeId).map Prod.fst

def world (m : MemoryLoginChallengeStore) : ChallengeWorld where
  challenges := m.find
  inserted challengeId := (m.challenges.lookup challengeId).map Prod.snd

/-- Replace the stored challenge, keeping what it was inserted as. -/
def update (m : MemoryLoginChallengeStore) (challengeId : Uuid)
    (challenge original : StoredLoginChallenge) : MemoryLoginChallengeStore :=
  { m with challenges := m.challenges.insert challengeId (challenge, original) }

def tick (m : MemoryLoginChallengeStore) : MemoryLoginChallengeStore :=
  { m with ticks := m.ticks + 1 }

def insertLoginChallenge (m : MemoryLoginChallengeStore) (challenge : StoredLoginChallenge) :
    AuthResult Unit × MemoryLoginChallengeStore :=
  match m.challenges.lookup challenge.id with
  | some _ => (.error (.store "duplicate challenge id"), m)
  | none => (.ok (), m.update challenge.id challenge challenge)

def reserveLoginChallengeAttempt (m : MemoryLoginChallengeStore) (challengeId : Uuid)
    (attemptedAt : OffsetDateTime) : AuthResult StoredLoginChallenge × MemoryLoginChallengeStore :=
  match m.challenges.lookup challengeId with
  | none => (.error .invalidLoginChallenge, m)
  | some (challenge, original) =>
      if challenge.isConsumed then (.error .loginChallengeReplayed, m)
      else if challenge.isExpired attemptedAt then (.error .loginChallengeExpired, m)
      else if challenge.attemptsExhausted then (.error .loginChallengeAttemptsExhausted, m)
      else
        let reserved := { challenge with attempts := challenge.attempts + 1 }
        (.ok reserved, m.update challengeId reserved original)

def consumeLoginChallenge (m : MemoryLoginChallengeStore) (challengeId : Uuid)
    (consumedAt : OffsetDateTime) : AuthResult Bool × MemoryLoginChallengeStore :=
  match m.challenges.lookup challengeId with
  | none => (.ok false, m)
  | some (challenge, original) =>
      if challenge.isConsumed || challenge.isExpired consumedAt || challenge.attempts == 0 then
        (.ok false, m)
      else
        (.ok true, m.update challengeId { challenge with consumedAt := some consumedAt } original)

/-- Answer one operation; clocks and the password pool answer from the number answered. -/
def exec (answers : Nat → (op : challengeSignature.Op) → Option (challengeSignature.Resp op))
    (m : MemoryLoginChallengeStore) :
    (op : challengeSignature.Op) → Option (challengeSignature.Resp op × MemoryLoginChallengeStore)
  | .inr (.insertLoginChallenge challenge) =>
      let (resp, m') := m.insertLoginChallenge challenge
      some ((resp : AuthResult Unit), m'.tick)
  | .inr (.findLoginChallenge challengeId) =>
      some ((.ok (m.find challengeId) : AuthResult (Option StoredLoginChallenge)), m.tick)
  | .inr (.reserveLoginChallengeAttempt challengeId attemptedAt) =>
      let (resp, m') := m.reserveLoginChallengeAttempt challengeId attemptedAt
      some ((resp : AuthResult StoredLoginChallenge), m'.tick)
  | .inr (.consumeLoginChallenge challengeId consumedAt) =>
      let (resp, m') := m.consumeLoginChallenge challengeId consumedAt
      some ((resp : AuthResult Bool), m'.tick)
  | op => (answers m.ticks op).map (·, m.tick)

variable {m m' : MemoryLoginChallengeStore} {challengeId : Uuid}

theorem deleted_refl (w : ChallengeWorld) : w.Deleted w := ⟨rfl, fun _ => .inl rfl⟩

/-- Updating a known challenge replaces it in the contract's view. -/
theorem world_update {challenge original known : StoredLoginChallenge}
    (present : m.challenges.lookup challengeId = some (known, original)) :
    (m.update challengeId challenge original).world = m.world.put challengeId challenge := by
  refine ChallengeWorld.mk.injEq .. |>.mpr ⟨funext fun other => ?_, funext fun other => ?_⟩
  · by_cases same : other = challengeId
    · subst same
      simp [find, update, world]
    · simp [find, update, world, AList.lookup_insert_ne same, Function.update_of_ne same]
  · by_cases same : other = challengeId
    · subst same
      simp [update, world, present]
    · simp [update, world, AList.lookup_insert_ne same]

theorem world_insert (challenge : StoredLoginChallenge) :
    (m.update challenge.id challenge challenge).world = m.world.insert challenge := by
  refine ChallengeWorld.mk.injEq .. |>.mpr ⟨funext fun other => ?_, funext fun other => ?_⟩
  · by_cases same : other = challenge.id
    · subst same
      simp [find, update, world]
    · simp [find, update, world, AList.lookup_insert_ne same, Function.update_of_ne same]
  · by_cases same : other = challenge.id
    · subst same
      simp [update, world]
    · simp [update, world, AList.lookup_insert_ne same, Function.update_of_ne same]

theorem insert_meets (challenge : StoredLoginChallenge) :
    ChallengeAnswer m.world (.inr (.insertLoginChallenge challenge))
      (m.insertLoginChallenge challenge).1 (m.insertLoginChallenge challenge).2.world := by
  unfold insertLoginChallenge
  split
  · exact .inr ⟨nofun, rfl⟩
  · rename_i absent
    refine .inl ⟨?_, world_insert challenge⟩
    simp [world, absent]

theorem reserve_meets (attemptedAt : OffsetDateTime) :
    ChallengeAnswer m.world (.inr (.reserveLoginChallengeAttempt challengeId attemptedAt))
      (m.reserveLoginChallengeAttempt challengeId attemptedAt).1
      (m.reserveLoginChallengeAttempt challengeId attemptedAt).2.world := by
  unfold reserveLoginChallengeAttempt
  split
  · exact .inl rfl
  · rename_i challenge original present
    split
    · exact .inl rfl
    · rename_i unconsumed
      split
      · exact .inl rfl
      · rename_i unexpired
        split
        · exact .inl rfl
        · rename_i available
          refine ⟨⟨challenge, by simp [world, find, present], ?_, not_expired unexpired, ?_, rfl⟩,
            world_update present⟩
          · simpa [StoredLoginChallenge.isConsumed] using unconsumed
          · simpa [StoredLoginChallenge.attemptsExhausted] using available

theorem consume_meets (consumedAt : OffsetDateTime) :
    ChallengeAnswer m.world (.inr (.consumeLoginChallenge challengeId consumedAt))
      (m.consumeLoginChallenge challengeId consumedAt).1
      (m.consumeLoginChallenge challengeId consumedAt).2.world := by
  unfold consumeLoginChallenge
  split
  · rfl
  · rename_i challenge original present
    split
    · rfl
    · rename_i usable
      simp only [Bool.or_eq_true, beq_iff_eq, not_or] at usable
      obtain ⟨⟨unconsumed, unexpired⟩, attempted⟩ := usable
      refine ⟨challenge, by simp [world, find, present], ?_, Nat.pos_of_ne_zero attempted,
        not_expired unexpired, world_update present⟩
      simpa [StoredLoginChallenge.isConsumed] using unconsumed

theorem exec_meets
    {answers : Nat → (op : challengeSignature.Op) → Option (challengeSignature.Resp op)}
    {op : challengeSignature.Op} {resp : challengeSignature.Resp op}
    (answered : m.exec answers op = some (resp, m')) :
    ChallengeEffect m.world op resp m'.world := by
  refine ⟨m.world, deleted_refl m.world, ?_⟩
  rcases op with op | op
  · obtain ⟨_, -, same⟩ := Option.map_eq_some_iff.mp answered
    cases same
    rfl
  · cases op with
    | insertLoginChallenge challenge =>
        cases answered
        exact insert_meets challenge
    | findLoginChallenge challengeId =>
        cases answered
        refine ⟨rfl, ?_⟩
        rintro found ⟨⟩
        rfl
    | reserveLoginChallengeAttempt challengeId attemptedAt =>
        cases answered
        exact reserve_meets attemptedAt
    | consumeLoginChallenge challengeId consumedAt =>
        cases answered
        exact consume_meets consumedAt
    | _ =>
        obtain ⟨_, -, same⟩ := Option.map_eq_some_iff.mp answered
        cases same
        rfl

end MemoryLoginChallengeStore

/-- The in-memory store is an implementation of the contract. -/
def challengeHost
    (answers : Nat → (op : challengeSignature.Op) → Option (challengeSignature.Resp op)) :
    Implementation loginChallengeStore where
  Memory := MemoryLoginChallengeStore
  start := ⟨∅, 0⟩
  exec := MemoryLoginChallengeStore.exec answers
  abs := MemoryLoginChallengeStore.world
  abs_start := rfl
  meets := MemoryLoginChallengeStore.exec_meets

def sampleChallenge : StoredLoginChallenge where
  id := ⟨7⟩
  principal := "ada"
  codeHash := "123456"
  createdAt := .atSecond 0
  expiresAt := .atSecond 600
  attempts := 0
  maxAttempts := 2
  consumedAt := none
  channel := none

/-- A second passes with every operation; a code is its own hash. -/
def challengeAnswers (ticks : Nat) :
    (op : challengeSignature.Op) → Option (challengeSignature.Resp op)
  | .inr .now => OffsetDateTime.fromUnixTimestamp ticks
  | .inr .submitPasswordWork => some (.ok () : AuthResult Unit)
  | .inl (.verifyPassword code codeHash) =>
      some (if code = codeHash then .ok () else .error .invalidCredentials : AuthResult Unit)
  | .inl (.now _) => OffsetDateTime.fromUnixTimestamp ticks
  | .inl (.findAuthRateLimitState _) =>
      some (.ok none : AuthResult (Option AuthRateLimitSnapshot))
  | .inl (.compareExchangeAuthRateLimitState ..) => some (.ok true : AuthResult Bool)
  | .inl (.clearAuthRateLimitState ..) => some (.ok true : AuthResult Bool)
  | .inl .newUuid => some (⟨ticks⟩ : Uuid)
  | _ => none

/-- The challenge is inserted, then verified by two calls with the right code. -/
def challengeCalls : ChallengePool Nat
  | 0 => (.bare .default, .insert sampleChallenge)
  | _ => (.bare .default, .verify sampleChallenge.id "123456" {})

/-- Both calls are admitted before either consumes. -/
def challengeRun : Running (challengeHost challengeAnswers) challengeCalls.program :=
  Running.start.schedule ([0] ++ List.replicate 10 1 ++ List.replicate 15 2 ++
    List.replicate 10 1)

end AgqlAuth
