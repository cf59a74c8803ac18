import AgqlAuth.Refresh.System
import Mathlib.Data.List.Pairwise

/-!
# The in-memory refresh store

`MemoryRefreshTokenStore` of the test suite, and the proof that it meets the
contract.  Running calls on it evaluates, so reachable states of a pool can be
exhibited.
-/

namespace AgqlAuth

open Interaction

/-- Two records no lookup confuses. -/
def StoredRefreshToken.Apart (a b : StoredRefreshToken) : Prop :=
  a.id ≠ b.id ∧ a.tokenHash ≠ b.tokenHash

instance : Std.Symm StoredRefreshToken.Apart := ⟨fun _ _ apart => ⟨apart.1.symm, apart.2.symm⟩⟩

/--
The records of `tokens_by_id`.  Identifiers and hashes are distinct, so the
`token_hash_to_id` index is a search over the records.
-/
structure MemoryRefreshTokenStore where
  tokens : List StoredRefreshToken
  distinct : tokens.Pairwise StoredRefreshToken.Apart

namespace MemoryRefreshTokenStore

variable {store : MemoryRefreshTokenStore} {token replacement : StoredRefreshToken} {id : Uuid}
variable {f : StoredRefreshToken → StoredRefreshToken}

def get (store : MemoryRefreshTokenStore) (id : Uuid) : Option StoredRefreshToken :=
  store.tokens.find? (·.id = id)

def getByHash (store : MemoryRefreshTokenStore) (tokenHash : String) : Option StoredRefreshToken :=
  store.tokens.find? (·.tokenHash = tokenHash)

theorem eq_of_id {other : StoredRefreshToken} (mem : token ∈ store.tokens)
    (mem' : other ∈ store.tokens) (same : token.id = other.id) : token = other := by
  by_contra differ
  have apart := store.distinct.forall mem mem' differ
  exact apart.1 same

/-- A record is found under its own identifier. -/
theorem get_eq_some : store.get id = some token ↔ token ∈ store.tokens ∧ token.id = id := by
  constructor
  · intro found
    exact ⟨List.mem_of_find?_eq_some found, by simpa using List.find?_some found⟩
  · rintro ⟨mem, rfl⟩
    cases found : store.get token.id with
    | none => simpa using List.find?_eq_none.mp found token mem
    | some other =>
        have same : other.id = token.id := by simpa using List.find?_some found
        rw [eq_of_id (List.mem_of_find?_eq_some found) mem same]

/-- Neither the identifier nor the hash of `token` is taken. -/
def Fresh (store : MemoryRefreshTokenStore) (token : StoredRefreshToken) : Prop :=
  ∀ known ∈ store.tokens, token.Apart known

instance : Decidable (store.Fresh token) :=
  inferInstanceAs (Decidable (∀ known ∈ store.tokens,
    token.id ≠ known.id ∧ token.tokenHash ≠ known.tokenHash))

/-- Change records in place. -/
def modify (store : MemoryRefreshTokenStore) (f : StoredRefreshToken → StoredRefreshToken)
    (keeps : ∀ token, (f token).id = token.id ∧ (f token).tokenHash = token.tokenHash) :
    MemoryRefreshTokenStore where
  tokens := store.tokens.map f
  distinct := by
    rw [List.pairwise_map]
    refine store.distinct.imp ?_
    intro a b apart
    unfold StoredRefreshToken.Apart
    rw [(keeps a).1, (keeps a).2, (keeps b).1, (keeps b).2]
    exact apart

theorem get_modify
    (keeps : ∀ token, (f token).id = token.id ∧ (f token).tokenHash = token.tokenHash) :
    (store.modify f keeps).get id = (store.get id).map f := by
  unfold get modify
  rw [List.find?_map]
  congr 2
  funext token
  simp [(keeps token).1]

def insertRefreshToken (store : MemoryRefreshTokenStore) (token : StoredRefreshToken)
    (fresh : store.Fresh token) : MemoryRefreshTokenStore where
  tokens := token :: store.tokens
  distinct := List.pairwise_cons.mpr ⟨fresh, store.distinct⟩

def revokeRefreshToken (store : MemoryRefreshTokenStore) (tokenId : Uuid)
    (revokedAt : OffsetDateTime) (replacedByTokenId : Option Uuid) : MemoryRefreshTokenStore :=
  store.modify
    (fun token =>
      if token.id = tokenId ∧ token.revokedAt = none then
        { token with revokedAt := some revokedAt, replacedByTokenId }
      else token)
    (fun token => by split <;> exact ⟨rfl, rfl⟩)

def revokeRefreshTokenFamily (store : MemoryRefreshTokenStore) (sessionFamilyId : Uuid)
    (revokedAt : OffsetDateTime) : MemoryRefreshTokenStore :=
  store.modify
    (fun token =>
      if token.sessionFamilyId = sessionFamilyId then { token with revokedAt := some revokedAt }
      else token)
    (fun token => by split <;> exact ⟨rfl, rfl⟩)

def touchRefreshToken (store : MemoryRefreshTokenStore) (tokenId : Uuid)
    (usedAt : OffsetDateTime) (ipAddress userAgent : Option String) : MemoryRefreshTokenStore :=
  store.modify
    (fun token =>
      if token.id = tokenId then { token with lastUsedAt := some usedAt, ipAddress, userAgent }
      else token)
    (fun token => by split <;> exact ⟨rfl, rfl⟩)

/-- Mark `currentTokenId` as used and superseded. -/
def supersede (store : MemoryRefreshTokenStore) (currentTokenId replacementId : Uuid)
    (rotatedAt : OffsetDateTime) (ipAddress userAgent : Option String) :
    MemoryRefreshTokenStore :=
  store.modify
    (fun token =>
      if token.id = currentTokenId then
        superseded token replacementId rotatedAt ipAddress userAgent
      else token)
    (fun token => by split <;> exact ⟨rfl, rfl⟩)

theorem Fresh.supersede (fresh : store.Fresh replacement) {currentTokenId : Uuid}
    {rotatedAt : OffsetDateTime} {ipAddress userAgent : Option String} :
    (store.supersede currentTokenId replacement.id rotatedAt ipAddress userAgent).Fresh
      replacement := by
  intro known mem
  obtain ⟨token, stored, rfl⟩ := List.mem_map.mp mem
  split
  · exact fresh token stored
  · exact fresh token stored

def rotateRefreshToken (store : MemoryRefreshTokenStore) (currentTokenId : Uuid)
    (replacement : StoredRefreshToken) (rotatedAt : OffsetDateTime)
    (ipAddress userAgent : Option String) (fresh : store.Fresh replacement) :
    Bool × MemoryRefreshTokenStore :=
  match store.get currentTokenId with
  | none => (false, store)
  | some current =>
      if current.revokedAt.isSome then (false, store)
      else (true, (store.supersede currentTokenId replacement.id rotatedAt ipAddress
        userAgent).insertRefreshToken replacement fresh.supersede)

def findLiveRefreshTokensInFamily (store : MemoryRefreshTokenStore) (sessionFamilyId : Uuid) :
    List StoredRefreshToken :=
  store.tokens.filter fun token =>
    token.sessionFamilyId = sessionFamilyId ∧ token.revokedAt = none

/-- The contract's view of a store after `generated` identifiers were drawn. -/
def world (store : MemoryRefreshTokenStore) (generated : List Uuid) : RefreshWorld :=
  ⟨store.get, generated⟩

variable {generated : List Uuid}

theorem hashFree_of_fresh (fresh : store.Fresh token) :
    (store.world generated).HashFree token.tokenHash := by
  intro id record stored same
  exact (fresh record (get_eq_some.mp stored).1).2 same.symm

theorem insert_world (fresh : store.Fresh token) :
    (store.insertRefreshToken token fresh).world generated =
      (store.world generated).put token := by
  refine RefreshWorld.mk.injEq .. |>.mpr ⟨funext fun id => ?_, rfl⟩
  by_cases same : id = token.id
  · subst same
    rw [Function.update_self]
    exact get_eq_some.mpr ⟨List.mem_cons_self, rfl⟩
  · rw [Function.update_of_ne same]
    exact List.find?_cons_of_neg (by simpa using Ne.symm same)

theorem pointwise_modify {change : StoredRefreshToken → StoredRefreshToken → Prop}
    {keeps : ∀ token, (f token).id = token.id ∧ (f token).tokenHash = token.tokenHash}
    (changes : ∀ token, change token (f token)) :
    (store.world generated).Pointwise change ((store.modify f keeps).world generated) := by
  refine ⟨rfl, fun id => ?_⟩
  have mapped : (store.modify f keeps).get id = (store.get id).map f := get_modify keeps
  cases stored : store.get id with
  | none =>
      rw [stored] at mapped
      exact .inl ⟨stored, mapped⟩
  | some record =>
      rw [stored] at mapped
      exact .inr ⟨record, f record, stored, mapped, changes record⟩

theorem supersede_world {current : StoredRefreshToken} {currentTokenId replacementId : Uuid}
    {rotatedAt : OffsetDateTime} {ipAddress userAgent : Option String}
    (stored : store.get currentTokenId = some current) :
    (store.supersede currentTokenId replacementId rotatedAt ipAddress userAgent).world generated =
      (store.world generated).put
        (superseded current replacementId rotatedAt ipAddress userAgent) := by
  obtain ⟨-, rfl⟩ := get_eq_some.mp stored
  refine RefreshWorld.mk.injEq .. |>.mpr ⟨funext fun id => ?_, rfl⟩
  refine (get_modify _).trans ?_
  by_cases same : id = current.id
  · subst same
    rw [stored, Option.map_some, if_pos rfl]
    exact (RefreshWorld.put_self (store.world generated) _).symm
  · have kept : id ≠ (superseded current replacementId rotatedAt ipAddress userAgent).id := same
    refine Eq.trans ?_ (RefreshWorld.put_of_ne (store.world generated) kept).symm
    change _ = store.get id
    cases other : store.get id with
    | none => rfl
    | some record =>
        rw [Option.map_some, if_neg]
        rw [(get_eq_some.mp other).2]
        exact same

end MemoryRefreshTokenStore

/-- The in-memory store and the identifiers drawn so far. -/
structure MemoryHost where
  store : MemoryRefreshTokenStore
  generated : List Uuid

namespace MemoryHost

def world (m : MemoryHost) : RefreshWorld := m.store.world m.generated

/-- The next identifier; counting up keeps identifiers fresh for `2 ^ 128` draws. -/
def nextUuid (m : MemoryHost) : Uuid := ⟨BitVec.ofNat 128 m.generated.length⟩

/--
Answer one operation.  Clocks, users and providers answer from the number of
identifiers drawn; a token whose identifier or hash is taken is not answered.
-/
def exec (answers : Nat → (op : AuthOp) → Option (AuthOp.Resp op)) (m : MemoryHost) :
    (op : AuthOp) → Option (AuthOp.Resp op × MemoryHost)
  | .newUuid =>
      if m.nextUuid ∈ m.generated then none
      else some (m.nextUuid, { m with generated := m.nextUuid :: m.generated })
  | .insertRefreshToken token =>
      if fresh : m.store.Fresh token then
        some ((.ok () : AuthResult Unit), { m with store := m.store.insertRefreshToken token fresh })
      else none
  | .findRefreshTokenByHash tokenHash =>
      some ((.ok (m.store.getByHash tokenHash) : AuthResult (Option StoredRefreshToken)), m)
  | .revokeRefreshToken tokenId revokedAt replacedByTokenId _ =>
      some ((.ok () : AuthResult Unit),
        { m with store := m.store.revokeRefreshToken tokenId revokedAt replacedByTokenId })
  | .revokeRefreshTokenFamily sessionFamilyId revokedAt _ =>
      some ((.ok () : AuthResult Unit),
        { m with store := m.store.revokeRefreshTokenFamily sessionFamilyId revokedAt })
  | .touchRefreshToken tokenId usedAt ipAddress userAgent =>
      some ((.ok () : AuthResult Unit),
        { m with store := m.store.touchRefreshToken tokenId usedAt ipAddress userAgent })
  | .rotateRefreshToken currentTokenId replacement rotatedAt ipAddress userAgent =>
      if fresh : m.store.Fresh replacement then
        let (rotated, store) := m.store.rotateRefreshToken currentTokenId replacement rotatedAt
          ipAddress userAgent fresh
        some ((.ok rotated : AuthResult Bool), { m with store })
      else none
  | .findLiveRefreshTokensInFamily sessionFamilyId =>
      some ((.ok (some (m.store.findLiveRefreshTokensInFamily sessionFamilyId)) :
        AuthResult (Option (List StoredRefreshToken))), m)
  | op => (answers m.generated.length op).map (·, m)

open MemoryRefreshTokenStore

variable {answers : Nat → (op : AuthOp) → Option (AuthOp.Resp op)} {m m' : MemoryHost}

theorem find_meets (tokenHash : String) :
    RefreshEffect true m.world (.findRefreshTokenByHash tokenHash)
      (.ok (m.store.getByHash tokenHash) : AuthResult (Option StoredRefreshToken)) m.world := by
  refine ⟨rfl, ?_⟩
  cases found : m.store.getByHash tokenHash with
  | none =>
      intro id record stored same
      have other := List.find?_eq_none.mp found record (get_eq_some.mp stored).1
      simp [same] at other
  | some token =>
      have mem := List.mem_of_find?_eq_some found
      exact ⟨get_eq_some.mpr ⟨mem, rfl⟩, by simpa using List.find?_some found⟩

theorem revoke_meets (tokenId : Uuid) (revokedAt : OffsetDateTime)
    (replacedByTokenId : Option Uuid) :
    m.world.Pointwise (Revocation true tokenId revokedAt replacedByTokenId)
      ((m.store.revokeRefreshToken tokenId revokedAt replacedByTokenId).world m.generated) := by
  refine pointwise_modify fun token => ?_
  unfold Revocation
  by_cases same : token.id = tokenId
  · by_cases unrevoked : token.revokedAt = none
    · simp [same, unrevoked]
    · simp [same, unrevoked]
  · simp [same]

theorem revokeFamily_meets (sessionFamilyId : Uuid) (revokedAt : OffsetDateTime) :
    m.world.Pointwise (FamilyRevocation sessionFamilyId revokedAt)
      ((m.store.revokeRefreshTokenFamily sessionFamilyId revokedAt).world m.generated) := by
  refine pointwise_modify fun token => ?_
  unfold FamilyRevocation
  by_cases same : token.sessionFamilyId = sessionFamilyId
  · rw [if_pos same, if_pos same]
    exact ⟨revokedAt, token.replacedByTokenId, rfl, .inl rfl, .inl rfl⟩
  · rw [if_neg same, if_neg same]

theorem touch_meets (tokenId : Uuid) (usedAt : OffsetDateTime)
    (ipAddress userAgent : Option String) :
    m.world.Pointwise (Touch tokenId usedAt ipAddress userAgent)
      ((m.store.touchRefreshToken tokenId usedAt ipAddress userAgent).world m.generated) := by
  refine pointwise_modify fun token => ?_
  unfold Touch
  split <;> rfl

theorem rotate_meets {currentTokenId : Uuid} {replacement : StoredRefreshToken}
    {rotatedAt : OffsetDateTime} {ipAddress userAgent : Option String}
    (fresh : m.store.Fresh replacement) :
    let after := m.store.rotateRefreshToken currentTokenId replacement rotatedAt ipAddress
      userAgent fresh
    Rotation m.world currentTokenId replacement rotatedAt ipAddress userAgent (.ok after.1)
      (after.2.world m.generated) := by
  unfold MemoryRefreshTokenStore.rotateRefreshToken
  cases stored : m.store.get currentTokenId with
  | none =>
      refine ⟨rfl, fun current known => ?_⟩
      cases stored.symm.trans known
  | some current =>
      dsimp only
      split
      · rename_i revoked
        refine ⟨rfl, fun other known => ?_⟩
        cases stored.symm.trans known
        exact Option.isSome_iff_ne_none.mp revoked
      · rename_i unrevoked
        refine ⟨current, stored, by simpa using unrevoked, hashFree_of_fresh fresh, ?_⟩
        rw [insert_world, supersede_world stored]
        rfl

theorem findLive_meets (sessionFamilyId : Uuid) (token : StoredRefreshToken) :
    token ∈ m.store.findLiveRefreshTokensInFamily sessionFamilyId ↔
      m.world.LiveIn sessionFamilyId token := by
  unfold MemoryRefreshTokenStore.findLiveRefreshTokensInFamily
  rw [List.mem_filter]
  constructor
  · rintro ⟨mem, live⟩
    have live := of_decide_eq_true live
    exact ⟨⟨get_eq_some.mpr ⟨mem, rfl⟩, live.1⟩, live.2⟩
  · rintro ⟨⟨stored, family⟩, live⟩
    exact ⟨(get_eq_some.mp stored).1, decide_eq_true ⟨family, live⟩⟩

theorem nodup_tokens (store : MemoryRefreshTokenStore) : store.tokens.Nodup :=
  store.distinct.imp fun apart same => apart.1 (congrArg _ same)

/-- Every answer is one the contract allows. -/
theorem exec_meets {op : AuthOp} {resp : AuthOp.Resp op}
    (answered : m.exec answers op = some (resp, m')) :
    RefreshEffect true m.world op resp m'.world := by
  cases op with
  | newUuid =>
      simp only [exec] at answered
      split at answered
      · cases answered
      · cases answered
        exact ⟨‹_›, rfl⟩
  | insertRefreshToken token =>
      simp only [exec] at answered
      split at answered
      · rename_i fresh
        cases answered
        exact ⟨hashFree_of_fresh fresh, insert_world fresh⟩
      · cases answered
  | findRefreshTokenByHash tokenHash =>
      cases answered
      exact find_meets tokenHash
  | revokeRefreshToken tokenId revokedAt replacedByTokenId reason =>
      cases answered
      exact revoke_meets tokenId revokedAt replacedByTokenId
  | revokeRefreshTokenFamily sessionFamilyId revokedAt reason =>
      cases answered
      exact revokeFamily_meets sessionFamilyId revokedAt
  | touchRefreshToken tokenId usedAt ipAddress userAgent =>
      cases answered
      exact touch_meets tokenId usedAt ipAddress userAgent
  | rotateRefreshToken currentTokenId replacement rotatedAt ipAddress userAgent =>
      simp only [exec] at answered
      split at answered
      · rename_i fresh
        cases answered
        exact rotate_meets fresh
      · cases answered
  | findLiveRefreshTokensInFamily sessionFamilyId =>
      cases answered
      exact ⟨rfl, rfl, (nodup_tokens m.store).filter _, findLive_meets sessionFamilyId⟩
  | _ =>
      obtain ⟨_, -, same⟩ := Option.map_eq_some_iff.mp answered
      cases same
      rfl

end MemoryHost

/-- The in-memory store is an implementation of the contract with live reads. -/
def memoryHost (answers : Nat → (op : AuthOp) → Option (AuthOp.Resp op)) :
    Implementation (refreshStore true) where
  Memory := MemoryHost
  start := ⟨⟨[], .nil⟩, []⟩
  exec := MemoryHost.exec answers
  abs := MemoryHost.world
  abs_start := rfl
  meets := MemoryHost.exec_meets

/-- A service with reuse grace whose hash is the raw token itself. -/
def sampleService : AuthService :=
  { AuthService.bare .default with
    hasRefreshGrantAuthority := true
    refreshReuseGrace := some (.seconds 10) }

/-- A second passes, and raw tokens get longer, with every identifier drawn. -/
def sampleAnswers (n : Nat) : (op : AuthOp) → Option (AuthOp.Resp op)
  | .now _ => OffsetDateTime.fromUnixTimestamp n
  | .generateOpaqueToken => some (String.ofList (List.replicate n 'x'))
  | .findUserById userId => some (.ok (some
      { id := userId, principal := userId, passwordHash := "", roles := ["member"],
        scopes := ["read"], disabled := false }) : AuthResult (Option StoredUser))
  | .currentGrant previous _ =>
      some (.ok ⟨previous.roles, ["read"]⟩ : AuthResult CurrentRefreshGrant)
  | _ => none

/-- One session: rotated, its first token reused twice, once by a step-up, then signed out. -/
def sampleCalls : RefreshPool Nat
  | 0 => (sampleService, .issueSession "ada" ["member"] ["read", "write"] {} {} {})
  | 1 => (sampleService, .refresh "xxx" {})
  | 2 => (sampleService, .refresh "xxx" {})
  | 3 => (sampleService, .stepUp "xxx" { methods := ["otp"] } {})
  | 4 => (sampleService, .logout "xxx" true)
  | _ => (sampleService, .refresh "xxx" {})

def sampleFamily : Uuid := ⟨0⟩

/-- Calls run one after another, each for `12` operations at most. -/
def sampleRun (order : List Nat) : Running (memoryHost sampleAnswers) sampleCalls.program :=
  Running.start.schedule (order.flatMap fun i => List.replicate 12 i)

end AgqlAuth
