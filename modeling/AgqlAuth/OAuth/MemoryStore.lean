import AgqlAuth.Interaction.Simulation
import AgqlAuth.OAuth.Store
import Mathlib.Data.List.Count

/-!
# An in-memory state store

The store of the library's own tests: a map from provider name and state hash.
It meets the contract, and running calls on it evaluates.
-/

namespace AgqlAuth

open Interaction

structure MemoryOAuthStateStore where
  states : List OAuthLoginState
  /-- What was inserted so far. -/
  inserted : List OAuthLoginState
  /-- The operations answered so far. -/
  ticks : Nat

namespace MemoryOAuthStateStore

def world (m : MemoryOAuthStateStore) : OAuthWorld := ⟨m.states, m.inserted⟩

def tick (m : MemoryOAuthStateStore) : MemoryOAuthStateStore := { m with ticks := m.ticks + 1 }

/-- The record is kept under this name and hash. -/
def keyed (providerName stateHash : String) (record : OAuthLoginState) : Bool :=
  record.providerName == providerName && record.stateHash == stateHash

/-- A record of the same name and hash is replaced. -/
def insertOAuthState (m : MemoryOAuthStateStore) (record : OAuthLoginState) :
    MemoryOAuthStateStore :=
  { m with
    states := record ::
      m.states.filter fun stored => !keyed record.providerName record.stateHash stored
    inserted := record :: m.inserted }

/-- Mark the record of this name and hash, if it is unconsumed. -/
def consumeIn (providerName stateHash : String) (consumedAt : OffsetDateTime) :
    List OAuthLoginState → Option (OAuthLoginState × List OAuthLoginState)
  | [] => none
  | record :: rest =>
      if keyed providerName stateHash record then
        if record.isConsumed then none
        else some (record, { record with consumedAt := some consumedAt } :: rest)
      else (consumeIn providerName stateHash consumedAt rest).map fun (found, rest) =>
        (found, record :: rest)

def consumeOAuthState (m : MemoryOAuthStateStore) (providerName stateHash : String)
    (consumedAt : OffsetDateTime) : Option OAuthLoginState × MemoryOAuthStateStore :=
  match consumeIn providerName stateHash consumedAt m.states with
  | none => (none, m)
  | some (record, states) => (some record, { m with states })

def exec (answers : Nat → (op : oauthSignature.Op) → Option (oauthSignature.Resp op))
    (m : MemoryOAuthStateStore) :
    (op : oauthSignature.Op) → Option (oauthSignature.Resp op × MemoryOAuthStateStore)
  | .insertOAuthState record => some ((.ok () : AuthResult Unit), (m.insertOAuthState record).tick)
  | .consumeOAuthState providerName stateHash consumedAt =>
      let (found, m') := m.consumeOAuthState providerName stateHash consumedAt
      some ((.ok found : AuthResult (Option OAuthLoginState)), m'.tick)
  | op => (answers m.ticks op).map (·, m.tick)

variable {m m' : MemoryOAuthStateStore}

theorem lost_refl (w : OAuthWorld) : w.Lost w := ⟨rfl, fun _ _ => Nat.le_refl _⟩

theorem lost_filter (w : OAuthWorld) (kept : OAuthLoginState → Bool) :
    w.Lost { w with states := w.states.filter kept } :=
  ⟨rfl, fun record _ => List.filter_sublist.count_le record⟩

theorem consumeIn_found {providerName stateHash : String} {consumedAt : OffsetDateTime}
    {states states' : List OAuthLoginState} {record : OAuthLoginState}
    (consumed : consumeIn providerName stateHash consumedAt states = some (record, states')) :
    keyed providerName stateHash record = true ∧ record.consumedAt = none ∧
      ∃ before after, states = before ++ record :: after ∧
        states' = before ++ { record with consumedAt := some consumedAt } :: after := by
  induction states generalizing states' with
  | nil => cases consumed
  | cons head rest ih =>
      unfold consumeIn at consumed
      split at consumed
      · rename_i same
        split at consumed
        · cases consumed
        · rename_i unconsumed
          cases consumed
          refine ⟨same, ?_, [], rest, rfl, rfl⟩
          simpa [OAuthLoginState.isConsumed] using unconsumed
      · obtain ⟨⟨found, later⟩, consumed_later, equal⟩ := Option.map_eq_some_iff.mp consumed
        cases equal
        obtain ⟨same, unconsumed, before, after, rfl, rfl⟩ := ih consumed_later
        exact ⟨same, unconsumed, head :: before, after, rfl, rfl⟩

theorem consume_meets (providerName stateHash : String) (consumedAt : OffsetDateTime) :
    OAuthAnswer m.world (.consumeOAuthState providerName stateHash consumedAt)
      (.ok (m.consumeOAuthState providerName stateHash consumedAt).1 :
        AuthResult (Option OAuthLoginState))
      (m.consumeOAuthState providerName stateHash consumedAt).2.world := by
  unfold consumeOAuthState
  split
  · rfl
  · rename_i record states consumed
    obtain ⟨same, unconsumed, before, after, stored, marked⟩ := consumeIn_found consumed
    have key : record.providerName = providerName ∧ record.stateHash = stateHash := by
      simpa [keyed] using same
    refine ⟨⟨before, after, stored, ?_⟩, unconsumed, key.1, key.2⟩
    rw [marked]
    rfl

theorem exec_meets {answers : Nat → (op : oauthSignature.Op) → Option (oauthSignature.Resp op)}
    {op : oauthSignature.Op} {resp : oauthSignature.Resp op}
    (answered : m.exec answers op = some (resp, m')) : OAuthEffect m.world op resp m'.world := by
  cases op with
  | insertOAuthState record =>
      cases answered
      exact ⟨_, lost_filter m.world _, .inl rfl⟩
  | consumeOAuthState providerName stateHash consumedAt =>
      cases answered
      exact ⟨m.world, lost_refl m.world, consume_meets providerName stateHash consumedAt⟩
  | _ =>
      obtain ⟨_, -, same⟩ := Option.map_eq_some_iff.mp answered
      cases same
      exact ⟨m.world, lost_refl m.world, rfl⟩

end MemoryOAuthStateStore

/-- The in-memory store is an implementation of the contract. -/
def oauthHost (answers : Nat → (op : oauthSignature.Op) → Option (oauthSignature.Resp op)) :
    Implementation oauthStateStore where
  Memory := MemoryOAuthStateStore
  start := ⟨[], [], 0⟩
  exec := MemoryOAuthStateStore.exec answers
  abs := MemoryOAuthStateStore.world
  abs_start := rfl
  meets := MemoryOAuthStateStore.exec_meets

/-- A library whose digest is the text itself. -/
def plainLibrary : OAuthLibrary where
  sha256 text := text.toList.map fun c => UInt8.ofNat c.toNat
  jsonText _ := ""
  readDiscoveryDocument _ := none
  readTokenResponse _ := none

def sampleOAuth2Provider : OAuth2Provider where
  config := {
    providerName := "acme"
    authorizationEndpoint := "https://acme.test/authorize"
    tokenEndpoint := "https://acme.test/token"
    userinfoEndpoint := "https://acme.test/userinfo"
    clientId := "client"
    redirectUri := "https://app.test/callback" }
  lib := plainLibrary

/-- An OpenID provider that shares the name. -/
def sampleOidcProvider : OidcProvider where
  config := {
    providerName := "acme"
    discoveryUrl := "https://acme.test/.well-known/openid-configuration"
    clientId := "client"
    redirectUri := "https://app.test/callback"
    discoveryCacheTtl := .ofSeconds 3600
    clockSkew := .ofSeconds 60
    stateTtl := .ofSeconds 600 }
  lib := plainLibrary

/-- The raw state drawn from the random bytes of `sampleAnswers` at the given tick. -/
def drawnState (tick : Nat) : String :=
  base64UrlSafeNoPad (Vector.replicate 48 (UInt8.ofNat tick)).toList

/-- A second passes with every operation, and random bytes repeat the second. -/
def oauthAnswers (ticks : Nat) : (op : oauthSignature.Op) → Option (oauthSignature.Resp op)
  | .now => OffsetDateTime.fromUnixTimestamp ticks
  | .fillBytes length => some (Vector.replicate length (UInt8.ofNat ticks))
  | .postFormJson .. =>
      some (.ok (.object [("access_token", .string "at"), ("token_type", .string "bearer")]) :
        AuthResult JsonValue)
  | .getJsonWithHeaders .. => some (.ok (.object [("sub", .string "ada")]) : AuthResult JsonValue)
  | _ => none

/--
Two requests of the OAuth 2.0 provider; the first state comes back to it twice,
the second is delivered to the OpenID provider, and one callback lacks its code.
-/
def oauthCalls : OAuthPool Nat
  | 0 => .oauth2Request sampleOAuth2Provider
  | 1 => .oauth2Request sampleOAuth2Provider
  | 2 => .oauth2Callback sampleOAuth2Provider { code := some "c", state := some (drawnState 0) }
  | 3 => .oauth2Callback sampleOAuth2Provider { code := some "c", state := some (drawnState 0) }
  | 4 => .oidcCallback sampleOidcProvider { code := some "c", state := some (drawnState 4) } .query
  | _ => .oidcCallback sampleOidcProvider { state := some (drawnState 4) } .query

def oauthRun : Running (oauthHost oauthAnswers) oauthCalls.program :=
  Running.start.schedule ([0, 0, 0, 0, 1, 1, 1, 1] ++ [5, 2, 3] ++ [2, 3, 2, 2, 2] ++ [4, 4])

end AgqlAuth
