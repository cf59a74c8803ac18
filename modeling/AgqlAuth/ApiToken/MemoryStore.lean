import AgqlAuth.ApiToken.Store
import AgqlAuth.Interaction.Simulation
import Mathlib.Data.List.AList

/-!
# An in-memory API-token store

The store of the library's own tests.  It meets the contract, and running calls
on it evaluates.
-/

namespace AgqlAuth

open Interaction

/-- The records by identifier, the identifiers drawn and the operations answered so far. -/
structure MemoryApiTokenStore where
  tokensById : AList fun _ : Uuid => StoredApiToken
  generated : List Uuid
  ticks : Nat

namespace MemoryApiTokenStore

def world (m : MemoryApiTokenStore) : ApiTokenWorld := ⟨m.tokensById.lookup, m.generated⟩

def tick (m : MemoryApiTokenStore) : MemoryApiTokenStore := { m with ticks := m.ticks + 1 }

def modify (m : MemoryApiTokenStore) (tokenId : Uuid) (change : StoredApiToken → StoredApiToken) :
    MemoryApiTokenStore :=
  match m.tokensById.lookup tokenId with
  | some record => { m with tokensById := m.tokensById.insert tokenId (change record) }
  | none => m

/-- A record kept under another identifier is not answered. -/
def find (m : MemoryApiTokenStore) (tokenHash : String) : Option (Option StoredApiToken) :=
  match m.tokensById.entries.find? fun entry => entry.2.tokenHash == tokenHash with
  | none => some none
  | some entry => if entry.2.id = entry.1 then some (some entry.2) else none

/-- Answer one operation; a second passes with each. -/
def exec (m : MemoryApiTokenStore) :
    (op : apiTokenStoreSignature.Op) → Option (apiTokenStoreSignature.Resp op × MemoryApiTokenStore)
  | .inl .now => some (OffsetDateTime.atSecond (.ofNat m.ticks), m.tick)
  | .inl .newUuid =>
      let id : Uuid := ⟨m.ticks⟩
      if id ∈ m.generated then none
      else some (id, { m with generated := id :: m.generated }.tick)
  | .inl (.fillBytes length) => some (Vector.replicate length (.ofNat m.ticks), m.tick)
  | .inl (.insertApiToken record) =>
      some ((.ok () : AuthResult Unit),
        { m with tokensById := m.tokensById.insert record.id record }.tick)
  | .inl (.findApiTokenByHash tokenHash) =>
      (m.find tokenHash).map fun found => ((.ok found : AuthResult (Option StoredApiToken)), m.tick)
  | .inl (.touchApiToken tokenId usedAt ipAddress userAgent) =>
      some ((.ok () : AuthResult Unit),
        (m.modify tokenId (.touched usedAt ipAddress userAgent)).tick)
  | .inr (.revokeApiToken tokenId revokedAt _) =>
      some ((.ok () : AuthResult Unit), (m.modify tokenId (.revokedAs fun _ => revokedAt)).tick)

variable {m m' : MemoryApiTokenStore}

theorem world_insert (record : StoredApiToken) :
    (⟨(m.tokensById.insert record.id record).lookup, m.generated⟩ : ApiTokenWorld) =
      m.world.put record := by
  refine ApiTokenWorld.mk.injEq .. |>.mpr ⟨funext fun other => ?_, rfl⟩
  by_cases same : other = record.id
  · subst same
    simp [world]
  · simp [world, AList.lookup_insert_ne same, Function.update_of_ne same]

theorem world_modify (tokenId : Uuid) (change : StoredApiToken → StoredApiToken) :
    (m.modify tokenId change).world = m.world.modify tokenId change := by
  refine ApiTokenWorld.mk.injEq .. |>.mpr ⟨funext fun other => ?_, ?_⟩
  · cases known : m.tokensById.lookup tokenId with
    | none =>
        simp only [modify, known, world, Option.map_none]
        by_cases same : other = tokenId
        · subst same
          rw [Function.update_self, known]
        · rw [Function.update_of_ne same]
    | some record =>
        simp only [modify, known, world, Option.map_some]
        by_cases same : other = tokenId
        · subst same
          rw [Function.update_self, AList.lookup_insert]
        · rw [Function.update_of_ne same, AList.lookup_insert_ne same]
  · unfold modify
    split <;> rfl

theorem find_meets {tokenHash : String} {found : Option StoredApiToken}
    (answered : m.find tokenHash = some found) : Lookup m.world tokenHash (.ok found) := by
  unfold find at answered
  split at answered
  · rename_i unknown
    cases answered
    intro id record held same
    have mem := AList.mem_lookup_iff.mp (show record ∈ m.tokensById.lookup id from held)
    have other := List.find?_eq_none.mp unknown _ mem
    exact other (beq_iff_eq.mpr same)
  · rename_i entry known
    split at answered
    · rename_i own
      cases answered
      have hash := List.find?_some known
      refine ⟨?_, beq_iff_eq.mp hash⟩
      have mem : (⟨entry.1, entry.2⟩ : Sigma fun _ : Uuid => StoredApiToken) ∈
          m.tokensById.entries := List.mem_of_find?_eq_some known
      rw [own]
      exact AList.mem_lookup_iff.mpr mem
    · cases answered

theorem exec_meets {op : apiTokenStoreSignature.Op} {resp : apiTokenStoreSignature.Resp op}
    (answered : m.exec op = some (resp, m')) : ApiTokenEffect m.world op resp m'.world := by
  rcases op with op | op
  · cases op with
    | now | fillBytes length =>
        cases answered
        rfl
    | newUuid =>
        simp only [exec] at answered
        split at answered
        · cases answered
        · rename_i fresh
          cases answered
          exact ⟨fresh, rfl⟩
    | insertApiToken record =>
        cases answered
        exact world_insert record
    | findApiTokenByHash tokenHash =>
        obtain ⟨found, known, same⟩ := Option.map_eq_some_iff.mp answered
        cases same
        exact ⟨rfl, find_meets known⟩
    | touchApiToken tokenId usedAt ipAddress userAgent =>
        cases answered
        exact world_modify tokenId _
  · cases op with
    | revokeApiToken tokenId revokedAt reason =>
        cases answered
        exact ⟨_, world_modify tokenId _⟩

end MemoryApiTokenStore

/-- The in-memory store is an implementation of the contract. -/
def apiTokenHost : Implementation apiTokenStore where
  Memory := MemoryApiTokenStore
  start := ⟨∅, [], 0⟩
  exec := MemoryApiTokenStore.exec
  abs := MemoryApiTokenStore.world
  abs_start := rfl
  meets := MemoryApiTokenStore.exec_meets

end AgqlAuth
