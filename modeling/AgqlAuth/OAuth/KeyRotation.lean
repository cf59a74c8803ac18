import AgqlAuth.Interaction.Simulation
import AgqlAuth.OAuth.KeyCalls
import AgqlAuth.OAuth.MemoryStore

/-!
# Key rotation over every interleaving

Calls of a provider and its clones, scheduled in any order: where an accepted key
comes from, how often unknown key ids reach the network, and when a key id may be
called unknown.
-/

namespace AgqlAuth

open Interaction Program

abbrev OidcPool (ι : Type) := ι → OidcCall

section Runs

variable {ι : Type} [DecidableEq ι] {lib : JwtLibrary}

def OidcPool.program (calls : OidcPool ι) (keys : OidcKeys lib) (i : ι) :
    IdTokenM lib.DecodingKey OidcReturn :=
  (calls i).withKeys keys

abbrev KeyTrace (lib : JwtLibrary) (ι : Type) := Trace (idTokenSignature lib.DecodingKey) ι

/-- The call retrieved it itself, or found it cached and by its clock not yet expired. -/
def Current (ttl : Duration) (t : KeyTrace lib ι) (i : ι) (retrieved : ι → OffsetDateTime → Prop) :
    Prop :=
  (∃ asked, retrieved i asked) ∨
    ∃ j asked now expiresAt, retrieved j asked ∧ asked.checkedAdd ttl = some expiresAt ∧
      Seen (t.of i) (clockReading now) ∧ now < expiresAt

/-- Call `j` was served the document by the provider's discovery endpoint. -/
def ServedDocument (keys : OidcKeys lib) (t : KeyTrace lib ι) (document : OidcDiscoveryDocument)
    (j : ι) (asked : OffsetDateTime) : Prop :=
  RetrievedDocument keys.provider (Seen (t.of j)) asked document

/-- Call `j` was served the set by the key endpoint that a current document names. -/
def ServedSet (keys : OidcKeys lib) (t : KeyTrace lib ι)
    (jwks : List (ProviderJwk lib.DecodingKey)) (j : ι) (asked : OffsetDateTime) : Prop :=
  Seen (t.of j) (clockReading asked) ∧ ∃ document raw,
    Current keys.provider.config.discoveryCacheTtl t j (ServedDocument keys t document) ∧
      Seen (t.of j) (answeredJson document.jwksUri raw) ∧ keys.readJwkSet raw = some jwks

variable {keys : OidcKeys lib} {calls : OidcPool ι}
variable {c : Config (keyStore lib.DecodingKey keys.jwksForcedRefreshCooldown) ι} {i : ι}

omit [DecidableEq ι] in
theorem OidcPool.verified (calls : OidcPool ι) (keys : OidcKeys lib) (i : ι) :
    Keeps keys (keyedPost keys (calls i)) [] (calls.program keys i) :=
  (calls i).withKeys_keeps keys

theorem document_current (reached : Reachable (keyStore _ _) (calls.program keys) c)
    {document : OidcDiscoveryDocument}
    (obtained : ObtainedDocument keys.provider (Seen (c.trace.of i)) document) :
    Current keys.provider.config.discoveryCacheTtl c.trace i
      (ServedDocument keys c.trace document) := by
  cases obtained with
  | retrieved retrieved => exact .inl ⟨_, retrieved⟩
  | @cached cached now found clock fresh same =>
      subst same
      obtain ⟨j, e, mem, written⟩ := discoveryCache.written_of_reads reached found rfl
      obtain ⟨early, earlier, allowed⟩ := reached.guard_of_mem (calls.verified keys) mem
      rw [op_of_discoveryWritten written] at allowed
      obtain ⟨asked, retrieved, expiry⟩ := allowed
      exact .inr ⟨j, asked, now, cached.expiresAt,
        retrieved.mono fun _ _ seen => earlier.subset seen, expiry, clock, fresh⟩

theorem served_of_retrieved (reached : Reachable (keyStore _ _) (calls.program keys) c)
    {jwks : List (ProviderJwk lib.DecodingKey)} {asked : OffsetDateTime}
    (retrieved : RetrievedSet keys (c.trace.of i) asked jwks) :
    ServedSet keys c.trace jwks i asked := by
  obtain ⟨document, raw, obtained, answered, read⟩ := retrieved.answer
  exact ⟨retrieved.clock, document, raw, document_current reached obtained, answered, read⟩

theorem set_current (reached : Reachable (keyStore _ _) (calls.program keys) c)
    {jwks : List (ProviderJwk lib.DecodingKey)}
    (obtained : ObtainedSet keys (c.trace.of i) jwks) :
    Current keys.jwksCacheTtl c.trace i (ServedSet keys c.trace jwks) := by
  cases obtained with
  | retrieved retrieved => exact .inl ⟨_, served_of_retrieved reached retrieved⟩
  | @cached cached now found clock fresh same =>
      subst same
      obtain ⟨j, e, mem, written⟩ := jwksCache.written_of_reads reached found rfl
      obtain ⟨early, earlier, allowed⟩ := reached.guard_of_mem (calls.verified keys) mem
      rw [op_of_jwksWritten written] at allowed
      obtain ⟨asked, retrieved, expiry⟩ := allowed
      exact .inr ⟨j, asked, now, cached.expiresAt,
        served_of_retrieved reached (retrieved.mono earlier.subset), expiry, clock, fresh⟩

/-- The claims are those of a token that a current key of the provider opens. -/
structure Trusted (keys : OidcKeys lib) (t : KeyTrace lib ι) (i : ι)
    (idToken expectedNonce : String) (claims : ValidatedOidcClaims) : Prop where
  nonce : claims.nonce = expectedNonce
  opened : ∃ raw header kid jwk jwks, OpenedBy keys idToken raw header kid jwk ∧
    findJwk jwks kid = some jwk ∧ Current keys.jwksCacheTtl t i (ServedSet keys t jwks) ∧
    (∃ document, Current keys.provider.config.discoveryCacheTtl t i
        (ServedDocument keys t document) ∧
      keys.provider.Identified raw expectedNonce document claims.nonce) ∧
    keys.provider.normalizeClaims raw claims.nonce = .ok claims

theorem trusted_of_claimsOf (reached : Reachable (keyStore _ _) (calls.program keys) c)
    {h : OAuthHistory} (explains : Explains (KeyAnswer keys) (c.trace.of i) h)
    {idToken expectedNonce : String} {raw : RawOidcIdTokenClaims} {claims : ValidatedOidcClaims}
    (valid : ClaimsOf keys.provider (· ∈ h) idToken expectedNonce raw claims) :
    Trusted keys c.trace i idToken expectedNonce claims := by
  obtain ⟨document, obtained, identified⟩ := valid.document
  refine ⟨identified.expected, ?_⟩
  obtain ⟨part, inside, answered⟩ := explains.part valid.decoded
  generalize same : (Except.ok raw : AuthResult RawOidcIdTokenClaims) = result at answered
  cases (answered : DecodeExit keys idToken part result) with
  | unknown | refreshFails | rejected => cases same
  | @decoded raw' header kid jwk jwks found_ found opened =>
      cases same
      exact ⟨raw, header, kid, jwk, jwks, opened, found,
        set_current reached (found_.mono inside.subset),
        ⟨document, document_current reached
          (obtained.mono fun _ own mem => seen_of_explains explains own mem), identified⟩,
        valid.normalized⟩

/--
Over every interleaving, claims are handed out for a token only that a key of its
own key id opens, marked for that use, from a key set of the provider that is
current; and they repeat the nonce that was asked for.
-/
theorem id_token_key_provenance
    (reached : Reachable (keyStore _ _) (calls.program keys) c) :
    (∀ i claims, Returned (calls.program keys) c i (.ok (.claims claims)) →
      ∃ idToken expectedNonce, calls i = .validateIdToken idToken expectedNonce ∧
        Trusted keys c.trace i idToken expectedNonce claims) ∧
      ∀ i outcome, Returned (calls.program keys) c i (.ok (.outcome outcome)) →
        Trusted keys c.trace i outcome.tokenResponse.idToken outcome.state.nonce
          outcome.claims := by
  constructor
  · intro i claims returned
    obtain ⟨h, explains, idToken, expectedNonce, raw, call, valid⟩ :=
      (calls.verified keys i).post_of_path returned
    exact ⟨idToken, expectedNonce, call, trusted_of_claimsOf reached explains valid⟩
  · intro i outcome returned
    obtain ⟨h, explains, input, deliveredMode, raw, -, valid⟩ :=
      (calls.verified keys i).post_of_path returned
    exact trusted_of_claimsOf reached explains valid

/-- The call reached the provider although nothing it found cached was stale. -/
structure Forces (t : KeyTrace lib ι) (i : ι) : Prop where
  requested : ∃ url resp, (liftEvent ⟨.getJson url, resp⟩ : KeyEvent lib.DecodingKey) ∈ t.of i
  documented : ¬StaleDocument (Seen (t.of i))
  cached : ¬StaleSet (t.of i)

theorem granted_of_forces (reached : Reachable (keyStore _ _) (calls.program keys) c)
    (cooling : keys.jwksForcedRefreshCooldown ≠ .zero) (forces : Forces c.trace i) :
    ∃ now, Seen (c.trace.of i) (clockReading now) ∧
      forcedRefresh keys.jwksForcedRefreshCooldown now (.ok true) ∈ c.trace.of i := by
  obtain ⟨url, resp, mem⟩ := forces.requested
  obtain ⟨early, earlier, allowed⟩ := reached.guard_of_mem (calls.verified keys) mem
  rcases allowed with stale | stale | zero | ⟨now, granted⟩
  · exact absurd (stale.mono fun _ _ seen => earlier.subset seen) forces.documented
  · exact absurd (stale.mono earlier.subset) forces.cached
  · exact absurd zero cooling
  · have granted' := earlier.subset granted
    obtain ⟨before, past, allowed⟩ := reached.guard_of_mem (calls.verified keys) granted'
    exact ⟨now, past.subset allowed.2, granted'⟩

theorem nonzero {d : Duration} (positive : 0 < d.nanos) : d ≠ .zero := by
  rintro rfl
  exact lt_irrefl _ positive

/--
Unknown key ids do not flood the provider: whatever the interleaving, the calls
that force a request past fresh caches within a window are at most as many as
cooldowns fit into it, and one more.
-/
theorem forced_requests_bounded
    (reached : Reachable (keyStore _ _) (calls.program keys) c)
    (cooling : 0 < keys.jwksForcedRefreshCooldown.nanos) {start stop : OffsetDateTime}
    (window : start ≤ stop) {programs : List ι} (distinct : programs.Nodup)
    (each : ∀ i ∈ programs, Forces c.trace i ∧ ∀ now, Seen (c.trace.of i) (clockReading now) →
      start ≤ now ∧ now ≤ stop) :
    (programs.length : Int) ≤
      (stop.unixNanos - start.unixNanos) / keys.jwksForcedRefreshCooldown.nanos + 1 := by
  rw [OffsetDateTime.le_iff] at window
  have span : 0 ≤ (stop.unixNanos - start.unixNanos) / keys.jwksForcedRefreshCooldown.nanos :=
    Int.ediv_nonneg (by omega) cooling.le
  cases programs with
  | nil =>
      rw [List.length_nil]
      omega
  | cons i others =>
      have fits : ((i :: others).length - 1) • keys.jwksForcedRefreshCooldown.nanos ≤
          stop.unixNanos - start.unixNanos := by
        refine forcedRefreshes.nsmul_le cooling.le reached distinct (List.cons_ne_nil _ _) ?_
        intro j mem
        obtain ⟨forces, inside⟩ := each j mem
        obtain ⟨now, clock, granted⟩ := granted_of_forces reached (nonzero cooling) forces
        exact ⟨_, granted, now.unixNanos, rfl, inside now clock⟩
      rw [List.length_cons, Nat.add_sub_cancel, nsmul_eq_mul] at fits
      rw [List.length_cons, Nat.cast_succ]
      exact Int.add_le_add_right (Int.le_ediv_of_mul_le cooling fits) 1

/-- A failed refresh is reported as a failed discovery. -/
theorem refreshFails_discovery (reached : Reachable (keyStore _ _) (calls.program keys) c)
    {part : KeyHistory lib.DecodingKey} (inside : part ⊆ c.trace.of i) {e : AuthError}
    (fails : RefreshFails keys part e) : DiscoveryFails e := by
  obtain ⟨now, failed⟩ := fails
  obtain ⟨late, early, share⟩ := List.append_of_mem (Trace.mem_of.mp (inside failed))
  obtain ⟨s, s', -, -, effect, -⟩ := reached.split share
  rcases effect.2.answer with poisoned | answer
  · exact ⟨_, Except.error.inj poisoned⟩
  · exact forcedRefreshAllowed_fails answer.symm

/--
A key id is called unknown only by a call that was just served a key set without
it, or by one whose clock stood within the cooldown after a forced refresh.
-/
theorem unknown_key_justified (reached : Reachable (keyStore _ _) (calls.program keys) c)
    {idToken expectedNonce : String} (call : calls i = .validateIdToken idToken expectedNonce)
    (returned : Returned (calls.program keys) c i (.error unknownKeyId)) :
    ∃ header kid, lib.decodeHeader idToken = some header ∧ header.kid = some kid ∧
      ((∃ asked jwks, ServedSet keys c.trace jwks i asked ∧ findJwk jwks kid = none) ∨
        ∃ j before now,
          forcedRefresh keys.jwksForcedRefreshCooldown before (.ok true) ∈ c.trace.of j ∧
          Seen (c.trace.of i) (clockReading now) ∧
          now.unixNanos < before.unixNanos + keys.jwksForcedRefreshCooldown.nanos) := by
  obtain ⟨h, explains, ended⟩ := (calls.verified keys i).post_of_path returned
  obtain ⟨part, inside, answered⟩ := explains.part (ended idToken expectedNonce call rfl)
  generalize same : (Except.error unknownKeyId : AuthResult RawOidcIdTokenClaims) = result
    at answered
  cases (answered : DecodeExit keys idToken part result) with
  | decoded => cases same
  | rejected other =>
      cases same
      exact absurd rfl other
  | refreshFails fails =>
      cases same
      exact absurd rfl (refreshFails_discovery reached inside.subset fails).ne
  | @unknown header kid read named unknown =>
      refine ⟨header, kid, read, named, ?_⟩
      cases unknown with
      | @refreshed asked jwks retrieved missing =>
          exact .inl ⟨asked, jwks, served_of_retrieved reached (retrieved.mono inside.subset),
            missing⟩
      | @denied now denied =>
          have mem := inside.subset denied
          obtain ⟨past, earlier, allowed⟩ := reached.guard_of_mem (calls.verified keys) mem
          obtain ⟨before, granted, early⟩ := forcedRefreshes.granted_of_denied reached mem rfl
          obtain ⟨⟨j, e⟩, share, grants⟩ := List.mem_filterMap.mp granted
          obtain ⟨configured, before', rfl, rfl⟩ := event_of_refreshGranted grants
          have mem' := Trace.mem_of.mpr share
          obtain ⟨past', earlier', allowed'⟩ := reached.guard_of_mem (calls.verified keys) mem'
          obtain ⟨same', -⟩ := allowed'
          subst same'
          exact .inr ⟨j, before', now, mem', earlier.subset allowed.2, early⟩

end Runs

/-! ## A known key and an unknown one -/

section Fresh

variable {DecodingKey : Type}

def clockRead : KeyEvent DecodingKey → Option OffsetDateTime
  | ⟨.inl .now, now⟩ => some now
  | _ => none

/-- When what a cache held expires; `none` inside where it held nothing. -/
def expiryRead : KeyEvent DecodingKey → Option (Option OffsetDateTime)
  | ⟨.inl .readDiscoveryCache, content⟩ =>
      (content : Option (Option CachedDiscovery)).map (·.map (·.expiresAt))
  | ⟨.inr .readJwksCache, content⟩ =>
      (content : Option (Option (CachedJwks DecodingKey))).map (·.map (·.expiresAt))
  | _ => none

/-- Whatever was found cached is fresh by every clock reading. -/
def allFresh (h : KeyHistory DecodingKey) : Bool :=
  (h.filterMap expiryRead).all fun expiry =>
    (h.filterMap clockRead).all fun now => expiry.any (now < ·)

theorem unexpired_of_allFresh {h : KeyHistory DecodingKey} (fresh : allFresh h = true)
    {e e' : KeyEvent DecodingKey} {expiry : Option OffsetDateTime} {now : OffsetDateTime}
    (found : e ∈ h) (expires : expiryRead e = some expiry) (clock : e' ∈ h)
    (read : clockRead e' = some now) : ∃ expiresAt, expiry = some expiresAt ∧ now < expiresAt := by
  have unexpired := List.all_eq_true.mp
    (List.all_eq_true.mp fresh expiry (List.mem_filterMap.mpr ⟨e, found, expires⟩)) now
    (List.mem_filterMap.mpr ⟨e', clock, read⟩)
  simpa [Option.any_eq_true] using unexpired

theorem not_stale_of_allFresh {lib : JwtLibrary} {h : KeyHistory lib.DecodingKey}
    (fresh : allFresh h = true) : ¬StaleDocument (Seen h) ∧ ¬StaleSet h := by
  constructor
  · rintro ⟨content, now, found, clock, old⟩
    obtain ⟨expiresAt, held, unexpired⟩ := unexpired_of_allFresh fresh found rfl clock rfl
    obtain ⟨cached, known, rfl⟩ := Option.map_eq_some_iff.mp held
    exact absurd (old cached known) (not_le.mpr unexpired)
  · rintro ⟨content, now, found, clock, old⟩
    obtain ⟨expiresAt, held, unexpired⟩ := unexpired_of_allFresh fresh found rfl clock rfl
    obtain ⟨cached, known, rfl⟩ := Option.map_eq_some_iff.mp held
    exact absurd (old cached known) (not_le.mpr unexpired)

end Fresh

/-- A second passes with every operation. -/
structure KeyHost where
  world : KeyWorld String
  ticks : Nat

namespace KeyHost

variable {cooldown : Duration}

def tick (self : KeyHost) {Resp : Type} (resp : Resp) (world : KeyWorld String) :
    Option (Resp × KeyHost) :=
  some (resp, ⟨world, self.ticks + 1⟩)

/-- Every document that is requested is served, named by its URL. -/
def exec (cooldown : Duration) (self : KeyHost) :
    (op : (idTokenSignature String).Op) → Option ((idTokenSignature String).Resp op × KeyHost)
  | .inl .now => self.tick (OffsetDateTime.atSecond (.ofNat self.ticks)) self.world
  | .inl .readDiscoveryCache => self.tick (some self.world.discovery) self.world
  | .inl (.writeDiscoveryCache cached) =>
      self.tick (some ()) { self.world with discovery := some cached }
  | .inl (.getJson url) => self.tick (.ok (.string url) : AuthResult JsonValue) self.world
  | .inr .systemTime => self.tick (self.ticks : Int) self.world
  | .inr .readJwksCache => self.tick (some self.world.jwks) self.world
  | .inr (.writeJwksCache cached) => self.tick (some ()) { self.world with jwks := some cached }
  | .inr (.lockForcedRefresh configured now) =>
      let resp := forcedRefreshAllowed cooldown now self.world.lastForced
      if configured = cooldown then
        self.tick resp (if isGranted resp then { self.world with lastForced := some now }
          else self.world)
      else none
  | _ => none

theorem exec_meets {m m' : KeyHost} {op : (idTokenSignature String).Op}
    {resp : (idTokenSignature String).Resp op}
    (answered : m.exec cooldown op = some (resp, m')) :
    KeyEffect cooldown m.world op resp m'.world := by
  rcases op with op | op
  · cases op with
    | readDiscoveryCache =>
        cases answered
        exact ⟨.inr rfl, rfl⟩
    | writeDiscoveryCache cached =>
        cases answered
        exact .inr rfl
    | now | getJson url =>
        cases answered
        rfl
    | _ => cases answered
  · cases op with
    | systemTime =>
        cases answered
        rfl
    | readJwksCache =>
        cases answered
        exact ⟨.inr rfl, rfl⟩
    | writeJwksCache cached =>
        cases answered
        exact .inr rfl
    | lockForcedRefresh configured now =>
        simp only [exec] at answered
        split at answered
        · rename_i same
          cases answered
          exact ⟨same, .inr rfl, rfl⟩
        · cases answered

end KeyHost

def keyHost (cooldown : Duration) : Implementation (keyStore String cooldown) where
  Memory := KeyHost
  start := ⟨{}, 0⟩
  exec := KeyHost.exec cooldown
  abs := KeyHost.world
  abs_start := rfl
  meets := KeyHost.exec_meets

def acmeClaims : RawOidcIdTokenClaims where
  iss := "https://acme.test"
  aud := ["client"]
  sub := "ada"
  exp := 3600
  nbf := none
  iat := 0
  authTime := none
  amr := none
  acr := none
  acrs := none
  nonce := some "n"
  azp := none
  tid := none
  oid := none

def acmePayload : JsonValue :=
  .object [("iss", .string "https://acme.test"), ("aud", .string "client"), ("sub", .string "ada"),
    ("exp", Json.i64.write 3600), ("iat", Json.i64.write 0), ("nonce", .string "n")]

/-- Two tokens of one key, the second under a key id that the provider does not serve. -/
def acmeTokens : List TableEntry := [
  { header := { alg := .rs256, kid := some "k1" }, payload := acmePayload, key := "acme" },
  { header := { alg := .rs256, kid := some "k2" }, payload := acmePayload, key := "acme" }]

def acmeDocument : OidcDiscoveryDocument where
  issuer := "https://acme.test"
  authorizationEndpoint := "https://acme.test/authorize"
  tokenEndpoint := "https://acme.test/token"
  jwksUri := "https://acme.test/keys"

def acmeKeys : OidcKeys (tableLibrary acmeTokens) where
  provider := {
    sampleOidcProvider with
    lib := { plainLibrary with readDiscoveryDocument := fun _ => some acmeDocument } }
  jwksCacheTtl := .ofSeconds 3600
  jwksForcedRefreshCooldown := .ofSeconds 60
  readJwkSet _ := some [{
    keyId := some "k1", decodingKey := some "acme", publicKeyUse := some .signature,
    keyOperations := none, keyAlgorithm := some "RS256" }]
  readIdTokenClaims _ := some acmeClaims

/-- The first token, and twice the second. -/
def acmeCalls : OidcPool Nat
  | 0 => .validateIdToken (tableToken 0) "n"
  | _ => .validateIdToken (tableToken 1) "n"

def acmeRun : Running (keyHost acmeKeys.jwksForcedRefreshCooldown) (acmeCalls.program acmeKeys) :=
  Running.start.schedule (List.replicate 20 0 ++ List.replicate 20 1 ++ List.replicate 20 2)

abbrev acmeTrace : KeyTrace (tableLibrary acmeTokens) Nat := acmeRun.config.trace

def isClaims : AuthResult OidcReturn → Bool
  | .ok (.claims _) => true
  | _ => false

def isUnknownKey : AuthResult OidcReturn → Bool
  | .error e => e = unknownKeyId
  | _ => false

theorem id_token_key_provenance_of_known : ∃ claims,
    Returned (acmeCalls.program acmeKeys) acmeRun.config 0 (.ok (.claims claims)) ∧
      Trusted acmeKeys acmeTrace 0 (tableToken 0) "n" claims := by
  obtain ⟨result, returned, passed⟩ := Running.exists_returned (r := acmeRun) (i := 0) isClaims
    (by decide +kernel)
  rcases result with e | request | claims | outcome
  · cases passed
  · cases passed
  · obtain ⟨idToken, expectedNonce, call, trusted⟩ :=
      (id_token_key_provenance acmeRun.reached).1 0 claims returned
    cases call
    exact ⟨claims, returned, trusted⟩
  · cases passed

/-- The second call of an unknown key id comes within the cooldown. -/
theorem unknown_key_justified_of_second :
    Returned (acmeCalls.program acmeKeys) acmeRun.config 2 (.error unknownKeyId) ∧
      ∃ header kid, (tableLibrary acmeTokens).decodeHeader (tableToken 1) = some header ∧
        header.kid = some kid ∧
        ((∃ asked jwks, ServedSet acmeKeys acmeTrace jwks 2 asked ∧
            findJwk jwks kid = none) ∨
          ∃ j before now,
            forcedRefresh acmeKeys.jwksForcedRefreshCooldown before (.ok true) ∈
              acmeTrace.of j ∧
            Seen (acmeTrace.of 2) (clockReading now) ∧
            now.unixNanos <
              before.unixNanos + acmeKeys.jwksForcedRefreshCooldown.nanos) := by
  obtain ⟨result, returned, passed⟩ := Running.exists_returned (r := acmeRun) (i := 2)
    isUnknownKey (by decide +kernel)
  rcases result with e | report
  · have same : e = unknownKeyId := of_decide_eq_true passed
    subst same
    have call : acmeCalls 2 = .validateIdToken (tableToken 1) "n" := rfl
    exact ⟨returned, unknown_key_justified acmeRun.reached call returned⟩
  · cases passed

def isRequest : KeyEvent String → Bool
  | ⟨.inl (.getJson _), _⟩ => true
  | _ => false

theorem forces_of_checks {i : Nat} (requests : (acmeTrace.of i).any isRequest = true)
    (fresh : allFresh (acmeTrace.of i) = true) : Forces acmeTrace i := by
  obtain ⟨unstale, unset⟩ := not_stale_of_allFresh fresh
  refine ⟨?_, unstale, unset⟩
  obtain ⟨⟨op, resp⟩, mem, request⟩ := List.any_eq_true.mp requests
  rcases op with op | op
  · cases op with
    | getJson url => exact ⟨url, resp, mem⟩
    | _ => cases request
  · cases request

/-- Within a minute the unknown key id makes one request. -/
theorem forced_requests_bounded_of_first : Forces acmeTrace 1 ∧
    (([1] : List Nat).length : Int) ≤
      ((OffsetDateTime.atSecond 59).unixNanos - (OffsetDateTime.atSecond 0).unixNanos) /
        acmeKeys.jwksForcedRefreshCooldown.nanos + 1 := by
  have forces : Forces acmeTrace 1 := forces_of_checks (by decide +kernel) (by decide +kernel)
  have within : ((acmeTrace.of 1).filterMap clockRead).all (fun now =>
      OffsetDateTime.atSecond 0 ≤ now ∧ now ≤ OffsetDateTime.atSecond 59) = true := by
    decide +kernel
  refine ⟨forces, ?_⟩
  refine forced_requests_bounded acmeRun.reached (by decide) (by decide) (by simp) fun i mem => ?_
  obtain rfl := List.mem_singleton.mp mem
  refine ⟨forces, fun now clock => ?_⟩
  have inside := List.all_eq_true.mp within now (List.mem_filterMap.mpr ⟨_, clock, rfl⟩)
  exact of_decide_eq_true inside

end AgqlAuth
