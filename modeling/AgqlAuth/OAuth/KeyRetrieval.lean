import AgqlAuth.OAuth.Exchange
import AgqlAuth.OAuth.KeyStore

/-!
# What one call does with the keys

Whatever a call is answered: where its documents and key sets come from, what it
writes to the caches, when it reaches the network, and how the decoding of an ID
token ends.
-/

namespace AgqlAuth

open Interaction Program

def answeredJson (url : String) (raw : JsonValue) : OAuthEvent :=
  ⟨.getJson url, (.ok raw : AuthResult JsonValue)⟩

def foundDiscovery (content : Option CachedDiscovery) : OAuthEvent :=
  ⟨.readDiscoveryCache, some content⟩

/-- The provider served `document` to a call whose clock then stood at `asked`. -/
structure RetrievedDocument (provider : OidcProvider) (seen : OAuthEvent → Prop)
    (asked : OffsetDateTime) (document : OidcDiscoveryDocument) : Prop where
  clock : seen (clockReading asked)
  answer : ∃ raw, seen (answeredJson provider.config.discoveryUrl raw) ∧
    provider.lib.readDiscoveryDocument raw = some document

/-- What was found cached is not fresh. -/
def StaleDocument (seen : OAuthEvent → Prop) : Prop :=
  ∃ content now, seen (foundDiscovery content) ∧ seen (clockReading now) ∧
    ∀ cached ∈ content, cached.expiresAt ≤ now

inductive ObtainedDocument (provider : OidcProvider) (seen : OAuthEvent → Prop)
    (document : OidcDiscoveryDocument) : Prop where
  | cached {cached : CachedDiscovery} {now : OffsetDateTime}
      (found : seen (foundDiscovery (some cached))) (clock : seen (clockReading now))
      (fresh : now < cached.expiresAt) (same : cached.document = document)
  | retrieved {asked : OffsetDateTime}
      (retrieved : RetrievedDocument provider seen asked document)

/-- The operations that are their own program. -/
def forwarded : OAuthOp → Bool
  | .decodeIdToken _ => false
  | _ => true

section Seen

variable {provider : OidcProvider} {seen seen' : OAuthEvent → Prop} {asked : OffsetDateTime}
variable {document : OidcDiscoveryDocument}

theorem RetrievedDocument.mono (sub : ∀ e, forwarded e.op = true → seen e → seen' e)
    (retrieved : RetrievedDocument provider seen asked document) :
    RetrievedDocument provider seen' asked document where
  clock := sub _ rfl retrieved.clock
  answer := by
    obtain ⟨raw, answered, read⟩ := retrieved.answer
    exact ⟨raw, sub _ rfl answered, read⟩

theorem StaleDocument.mono (sub : ∀ e, forwarded e.op = true → seen e → seen' e) (stale : StaleDocument seen) :
    StaleDocument seen' := by
  obtain ⟨content, now, found, clock, old⟩ := stale
  exact ⟨content, now, sub _ rfl found, sub _ rfl clock, old⟩

theorem ObtainedDocument.mono (sub : ∀ e, forwarded e.op = true → seen e → seen' e)
    (obtained : ObtainedDocument provider seen document) :
    ObtainedDocument provider seen' document := by
  cases obtained with
  | cached found clock fresh same => exact .cached (sub _ rfl found) (sub _ rfl clock) fresh same
  | retrieved retrieved => exact .retrieved (retrieved.mono sub)

end Seen

/-- The operations of a provider without its keys. -/
def documentGuard (provider : OidcProvider) (seen : OAuthEvent → Prop) : OAuthOp → Prop
  | .getJson _ => StaleDocument seen
  | .writeDiscoveryCache cached => ∃ asked, RetrievedDocument provider seen asked cached.document ∧
      asked.checkedAdd provider.config.discoveryCacheTtl = some cached.expiresAt
  | _ => True

/-- Discovery and the retrieval of keys fail with an error of their own. -/
def DiscoveryFails (e : AuthError) : Prop := ∃ detail, e = .oidcDiscovery detail

def documentPost (provider : OidcProvider) (seen : OAuthEvent → Prop) :
    AuthResult OidcDiscoveryDocument → Prop
  | .ok document => ObtainedDocument provider seen document
  | .error e => DiscoveryFails e

theorem discover_upholds (provider : OidcProvider) (h : OAuthHistory) :
    Upholds (S := oauthSignature) (fun h => documentGuard provider (· ∈ h))
      (fun h => documentPost provider (· ∈ h)) h provider.discover := by
  apply Fallible.Upholds.perform_bind trivial
  intro (now : OffsetDateTime)
  apply Fallible.Upholds.perform_bind trivial
  rintro (_ | content)
  · exact ⟨_, rfl⟩
  apply Fallible.Upholds.bind
  apply Fallible.Upholds.resume
  cases fresh : content.filter fun cached => decide (now < cached.expiresAt) with
  | some cached =>
      obtain ⟨rfl, unexpired⟩ := Option.filter_eq_some_iff.mp fresh
      have found : foundDiscovery (some cached) ∈ foundDiscovery (some cached) :: clockReading now :: h :=
        List.mem_cons_self
      refine .cached found (List.mem_cons_of_mem _ List.mem_cons_self) ?_ rfl
      simpa using unexpired
  | none =>
      have stale : StaleDocument (· ∈ foundDiscovery content :: clockReading now :: h) := by
        refine ⟨content, now, List.mem_cons_self, List.mem_cons_of_mem _ List.mem_cons_self, ?_⟩
        intro cached held
        simpa using Option.filter_eq_none_iff.mp fresh cached held
      apply Fallible.Upholds.bind
      apply Upholds.bind
      apply Upholds.await stale
      rintro (_ | raw)
      · exact ⟨_, rfl⟩
      apply Fallible.Upholds.bind
      cases read : provider.lib.readDiscoveryDocument raw with
      | none => exact ⟨_, rfl⟩
      | some document =>
          apply Fallible.Upholds.bind
          cases added : now.checkedAdd provider.config.discoveryCacheTtl with
          | none => exact ⟨_, rfl⟩
          | some expiresAt =>
              have retrieved : RetrievedDocument provider
                  (· ∈ answeredJson provider.config.discoveryUrl raw :: foundDiscovery content ::
                    clockReading now :: h) now document := by
                refine ⟨?_, raw, List.mem_cons_self, read⟩
                exact List.mem_cons_of_mem _ (List.mem_cons_of_mem _ List.mem_cons_self)
              apply Fallible.Upholds.resume
              apply Fallible.Upholds.perform_bind ⟨now, retrieved, added⟩
              rintro (_ | ⟨⟩)
              · exact ⟨_, rfl⟩
              · exact .retrieved (retrieved.mono fun _ _ mem => List.mem_cons_of_mem _ mem)

section Keys

variable {lib : JwtLibrary}

abbrev Seen (h : KeyHistory lib.DecodingKey) (e : OAuthEvent) : Prop :=
  (liftEvent e : KeyEvent lib.DecodingKey) ∈ h

def foundJwks (content : Option (CachedJwks lib.DecodingKey)) : KeyEvent lib.DecodingKey :=
  ⟨.inr .readJwksCache, some content⟩

def forcedRefresh (cooldown : Duration) (now : OffsetDateTime) (resp : AuthResult Bool) :
    KeyEvent lib.DecodingKey :=
  ⟨.inr (.lockForcedRefresh cooldown now), resp⟩

/-- The provider served the set to a call whose clock then stood at `asked`. -/
structure RetrievedSet (keys : OidcKeys lib) (h : KeyHistory lib.DecodingKey)
    (asked : OffsetDateTime) (jwks : List (ProviderJwk lib.DecodingKey)) : Prop where
  clock : Seen h (clockReading asked)
  answer : ∃ document raw, ObtainedDocument keys.provider (Seen h) document ∧
    Seen h (answeredJson document.jwksUri raw) ∧ keys.readJwkSet raw = some jwks

def StaleSet (h : KeyHistory lib.DecodingKey) : Prop :=
  ∃ content now, foundJwks content ∈ h ∧ Seen h (clockReading now) ∧
    ∀ cached ∈ content, cached.expiresAt ≤ now

/-- A refresh of the key set is allowed although it is fresh. -/
def Forced (keys : OidcKeys lib) (h : KeyHistory lib.DecodingKey) : Prop :=
  keys.jwksForcedRefreshCooldown = .zero ∨
    ∃ now, forcedRefresh keys.jwksForcedRefreshCooldown now (.ok true) ∈ h

inductive ObtainedSet (keys : OidcKeys lib) (h : KeyHistory lib.DecodingKey)
    (jwks : List (ProviderJwk lib.DecodingKey)) : Prop where
  | cached {cached : CachedJwks lib.DecodingKey} {now : OffsetDateTime}
      (found : foundJwks (some cached) ∈ h) (clock : Seen h (clockReading now))
      (fresh : now < cached.expiresAt) (same : cached.jwks = jwks)
  | retrieved {asked : OffsetDateTime} (retrieved : RetrievedSet keys h asked jwks)

variable {keys : OidcKeys lib} {h h' : KeyHistory lib.DecodingKey} {asked : OffsetDateTime}
variable {jwks : List (ProviderJwk lib.DecodingKey)}

theorem RetrievedSet.mono (sub : h ⊆ h') (retrieved : RetrievedSet keys h asked jwks) :
    RetrievedSet keys h' asked jwks where
  clock := sub retrieved.clock
  answer := by
    obtain ⟨document, raw, obtained, answered, read⟩ := retrieved.answer
    exact ⟨document, raw, obtained.mono fun _ _ mem => sub mem, sub answered, read⟩

theorem StaleSet.mono (sub : h ⊆ h') (stale : StaleSet h) : StaleSet h' := by
  obtain ⟨content, now, found, clock, old⟩ := stale
  exact ⟨content, now, sub found, sub clock, old⟩

theorem Forced.mono (sub : h ⊆ h') (forced : Forced keys h) : Forced keys h' := by
  rcases forced with zero | ⟨now, granted⟩
  · exact .inl zero
  · exact .inr ⟨now, sub granted⟩

theorem ObtainedSet.mono (sub : h ⊆ h') (obtained : ObtainedSet keys h jwks) :
    ObtainedSet keys h' jwks := by
  cases obtained with
  | cached found clock fresh same => exact .cached (sub found) (sub clock) fresh same
  | retrieved retrieved => exact .retrieved (retrieved.mono sub)

/-- The operations of a provider with its keys. -/
def keyGuard (keys : OidcKeys lib) (h : KeyHistory lib.DecodingKey) :
    (idTokenSignature lib.DecodingKey).Op → Prop
  | .inl (.getJson _) => StaleDocument (Seen h) ∨ StaleSet h ∨ Forced keys h
  | .inl (.writeDiscoveryCache cached) =>
      documentGuard keys.provider (Seen h) (.writeDiscoveryCache cached)
  | .inl _ => True
  | .inr (.writeJwksCache cached) => ∃ asked, RetrievedSet keys h asked cached.jwks ∧
      asked.checkedAdd keys.jwksCacheTtl = some cached.expiresAt
  | .inr (.lockForcedRefresh cooldown now) =>
      cooldown = keys.jwksForcedRefreshCooldown ∧ Seen h (clockReading now)
  | .inr _ => True

theorem keyGuard_of_documentGuard {seen : OAuthEvent → Prop} {op : OAuthOp}
    (sub : ∀ e, forwarded e.op = true → seen e → Seen h e) (allowed : documentGuard keys.provider seen op) :
    keyGuard keys h (.inl op) := by
  cases op with
  | getJson url => exact .inl (StaleDocument.mono sub allowed)
  | writeDiscoveryCache cached =>
      obtain ⟨asked, retrieved, expiry⟩ := allowed
      exact ⟨asked, retrieved.mono sub, expiry⟩
  | _ => trivial

theorem keyGuard_mono (sub : h ⊆ h') {op : (idTokenSignature lib.DecodingKey).Op}
    (allowed : keyGuard keys h op) : keyGuard keys h' op := by
  rcases op with op | op
  · cases op with
    | getJson url =>
        rcases allowed with stale | stale | forced
        · exact .inl (stale.mono fun _ _ mem => sub mem)
        · exact .inr (.inl (stale.mono sub))
        · exact .inr (.inr (forced.mono sub))
    | writeDiscoveryCache cached =>
        obtain ⟨asked, retrieved, expiry⟩ := allowed
        exact ⟨asked, retrieved.mono fun _ _ mem => sub mem, expiry⟩
    | _ => trivial
  · cases op with
    | writeJwksCache cached =>
        obtain ⟨asked, retrieved, expiry⟩ := allowed
        exact ⟨asked, retrieved.mono sub, expiry⟩
    | lockForcedRefresh cooldown now => exact ⟨allowed.1, sub allowed.2⟩
    | _ => trivial

abbrev Keeps {α : Type} (keys : OidcKeys lib)
    (post : KeyHistory lib.DecodingKey → AuthResult α → Prop) (h : KeyHistory lib.DecodingKey)
    (p : IdTokenM lib.DecodingKey α) : Prop :=
  Upholds (S := idTokenSignature lib.DecodingKey) (keyGuard keys) post h p

theorem now_keeps {α : Type} {post : KeyHistory lib.DecodingKey → AuthResult α → Prop}
    {f : OffsetDateTime → IdTokenM lib.DecodingKey α}
    (read : ∀ now, Keeps keys post (liftEvent (clockReading now) :: h) (f now)) :
    Keeps keys post h (IdTokenM.now >>= f : IdTokenM lib.DecodingKey α) :=
  ⟨trivial, read⟩

/-- Discovery within a call that also retrieves keys. -/
theorem discover_keeps (keys : OidcKeys lib) (h : KeyHistory lib.DecodingKey) :
    Keeps keys (fun h => documentPost keys.provider (Seen h)) h
      (IdTokenM.provider keys.provider.discover) := by
  apply Fallible.Upholds.widen
  refine (discover_upholds keys.provider []).mono ?_ ?_
  · intro late op allowed
    refine keyGuard_of_documentGuard (fun e _ mem => ?_) allowed
    exact List.mem_append_left _ (List.mem_map_of_mem mem)
  · intro late result ended
    cases result with
    | error e => exact ended
    | ok document =>
        exact ObtainedDocument.mono
          (fun e _ mem => List.mem_append_left _ (List.mem_map_of_mem mem)) ended

def setPost (keys : OidcKeys lib) (forceRefresh : Bool) (h : KeyHistory lib.DecodingKey) :
    AuthResult (List (ProviderJwk lib.DecodingKey)) → Prop
  | .ok jwks => ObtainedSet keys h jwks ∧
      (forceRefresh = true → ∃ asked, RetrievedSet keys h asked jwks)
  | .error e => DiscoveryFails e

theorem fetchJwks_keeps (keys : OidcKeys lib) {now : OffsetDateTime}
    (clock : Seen h (clockReading now)) (licensed : StaleSet h ∨ Forced keys h) :
    Keeps keys (setPost keys true) h (keys.fetchJwks now) := by
  apply Fallible.Upholds.bind
  refine (discover_keeps keys h).suffix.mono (fun _ _ allowed => allowed.2) ?_
  rintro h' (e | document) ⟨longer, obtained⟩
  · exact obtained
  apply Fallible.Upholds.bind
  have licensed' : StaleSet h' ∨ Forced keys h' :=
    licensed.imp (·.mono longer.subset) (·.mono longer.subset)
  apply Upholds.await (.inr licensed')
  rintro (_ | raw)
  · exact ⟨_, rfl⟩
  apply Fallible.Upholds.bind
  cases read : keys.readJwkSet raw with
  | none => exact ⟨_, rfl⟩
  | some jwks =>
      apply Fallible.Upholds.bind
      cases added : now.checkedAdd keys.jwksCacheTtl with
      | none => exact ⟨_, rfl⟩
      | some expiresAt =>
          have later : h' ⊆ liftEvent (answeredJson document.jwksUri raw) :: h' :=
            List.subset_cons_self _ _
          have retrieved : RetrievedSet keys (liftEvent (answeredJson document.jwksUri raw) :: h')
              now jwks :=
            ⟨later (longer.subset clock), document, raw,
              ObtainedDocument.mono (fun _ _ mem => later mem) obtained, List.mem_cons_self, read⟩
          apply Fallible.Upholds.resume
          apply Fallible.Upholds.perform_bind ⟨now, retrieved, added⟩
          rintro (_ | ⟨⟩)
          · exact ⟨_, rfl⟩
          · exact ⟨.retrieved (retrieved.mono (List.subset_cons_self _ _)),
              fun _ => ⟨now, retrieved.mono (List.subset_cons_self _ _)⟩⟩

/-- A refresh, or a set that is missing or stale, licenses the requests. -/
theorem jwks_keeps (keys : OidcKeys lib) (forceRefresh : Bool)
    (licensed : forceRefresh = true → Forced keys h) :
    Keeps keys (setPost keys forceRefresh) h (keys.jwks forceRefresh) := by
  refine now_keeps fun now => ?_
  have later : h ⊆ liftEvent (clockReading now) :: h := List.subset_cons_self _ _
  apply Fallible.Upholds.branch
  · intro force
    refine (fetchJwks_keeps keys List.mem_cons_self (.inr ((licensed force).mono later))).mono
      (fun _ _ allowed => allowed) ?_
    intro h' result ended
    rw [force]
    exact ended
  · intro unforced
    apply Fallible.Upholds.perform_bind trivial
    rintro (_ | content)
    · exact ⟨_, rfl⟩
    apply Fallible.Upholds.bind
    apply Fallible.Upholds.resume
    have clock : Seen (foundJwks content :: liftEvent (clockReading now) :: h)
        (clockReading now) := List.mem_cons_of_mem _ List.mem_cons_self
    cases fresh : content.filter fun cached => decide (now < cached.expiresAt) with
    | some cached =>
        obtain ⟨rfl, unexpired⟩ := Option.filter_eq_some_iff.mp fresh
        exact ⟨.cached List.mem_cons_self clock (by simpa using unexpired) rfl,
          fun force => absurd force unforced⟩
    | none =>
        have stale : StaleSet (foundJwks content :: liftEvent (clockReading now) :: h) := by
          refine ⟨content, now, List.mem_cons_self, clock, fun cached held => ?_⟩
          simpa using Option.filter_eq_none_iff.mp fresh cached held
        refine (fetchJwks_keeps keys clock (.inl stale)).mono (fun _ _ allowed => allowed) ?_
        rintro h' (e | jwks) ended
        · exact ended
        · exact ⟨ended.1, fun _ => ended.2 rfl⟩

/-- No key of that id: a refresh was denied, or the refreshed set has none. -/
inductive KeyUnknown (keys : OidcKeys lib) (h : KeyHistory lib.DecodingKey) (kid : String) :
    Prop where
  | denied {now : OffsetDateTime}
      (denied : forcedRefresh keys.jwksForcedRefreshCooldown now (.ok false) ∈ h)
  | refreshed {asked : OffsetDateTime} {jwks : List (ProviderJwk lib.DecodingKey)}
      (retrieved : RetrievedSet keys h asked jwks) (missing : findJwk jwks kid = none)

/-- The section under the lock of the last refresh failed. -/
def RefreshFails (keys : OidcKeys lib) (h : KeyHistory lib.DecodingKey) (e : AuthError) : Prop :=
  ∃ now, forcedRefresh keys.jwksForcedRefreshCooldown now (.error e) ∈ h

def signingPost (keys : OidcKeys lib) (kid : String) (h : KeyHistory lib.DecodingKey) :
    AuthResult (ProviderJwk lib.DecodingKey) → Prop
  | .ok jwk => ∃ jwks, ObtainedSet keys h jwks ∧ findJwk jwks kid = some jwk
  | .error e => DiscoveryFails e ∨ RefreshFails keys h e ∨
      (e = unknownKeyId ∧ KeyUnknown keys h kid)

def allowancePost (keys : OidcKeys lib) (h : KeyHistory lib.DecodingKey) :
    AuthResult Bool → Prop
  | .ok true => Forced keys h
  | .ok false => ∃ now, forcedRefresh keys.jwksForcedRefreshCooldown now (.ok false) ∈ h
  | .error e => RefreshFails keys h e

theorem allowForcedJwksRefresh_keeps (keys : OidcKeys lib) (h : KeyHistory lib.DecodingKey) :
    Keeps keys (allowancePost keys) h keys.allowForcedJwksRefresh := by
  apply Fallible.Upholds.branch
  · exact fun zero => Or.inl zero
  · intro _
    refine now_keeps fun now => ?_
    apply Upholds.await ⟨rfl, List.mem_cons_self⟩
    rintro (e | _ | _)
    · exact ⟨now, List.mem_cons_self⟩
    · exact ⟨now, List.mem_cons_self⟩
    · exact .inr ⟨now, List.mem_cons_self⟩

theorem signingKey_keeps (keys : OidcKeys lib) (kid : String) (h : KeyHistory lib.DecodingKey) :
    Keeps keys (signingPost keys kid) h (keys.signingKey kid) := by
  apply Fallible.Upholds.bind
  apply Fallible.Upholds.bind
  refine (jwks_keeps keys false nofun).mono (fun _ _ allowed => allowed) ?_
  rintro h' (e | jwks) ended
  · exact .inl ended
  change Keeps keys (signingPost keys kid) h' _
  cases found : findJwk jwks kid with
  | some jwk => exact ⟨jwks, ended.1, found⟩
  | none =>
      apply Fallible.Upholds.bind
      refine (allowForcedJwksRefresh_keeps keys h').mono (fun _ _ allowed => allowed) ?_
      rintro h'' (e | _ | _) allowance
      · exact .inr (.inl allowance)
      · obtain ⟨now, denied⟩ := allowance
        exact .inr (.inr ⟨rfl, .denied denied⟩)
      · apply Fallible.Upholds.bind
        apply Fallible.Upholds.bind
        refine (jwks_keeps keys true fun _ => allowance).mono (fun _ _ allowed => allowed) ?_
        rintro h (e | refreshed) ended
        · exact .inl ended
        change Keeps keys (signingPost keys kid) h _
        cases found : findJwk refreshed kid with
        | some jwk => exact ⟨refreshed, ended.1, found⟩
        | none =>
            obtain ⟨asked, retrieved⟩ := ended.2 rfl
            exact .inr (.inr ⟨rfl, .refreshed retrieved found⟩)

/-- The key that opened a token, and the checks it went through. -/
structure OpenedBy (keys : OidcKeys lib) (idToken : String) (claims : RawOidcIdTokenClaims)
    (header : JwtHeader) (kid : String) (jwk : ProviderJwk lib.DecodingKey) : Prop where
  read : lib.decodeHeader idToken = some header
  named : header.kid = some kid
  marked : validateJwkForHeader jwk header.alg = .ok ()
  decoded : ∃ key algorithms leeway now, jwk.decodingKey = some key ∧
    keys.allowedAlgorithms = .ok algorithms ∧ header.alg ∈ algorithms ∧
    keys.clockSkewSeconds = .ok leeway ∧
    lib.decode keys.readIdTokenClaims idToken key (keys.idTokenValidation algorithms leeway) now =
      .ok claims

inductive DecodeExit (keys : OidcKeys lib) (idToken : String) (h : KeyHistory lib.DecodingKey) :
    AuthResult RawOidcIdTokenClaims → Prop where
  | decoded {claims : RawOidcIdTokenClaims} {header : JwtHeader} {kid : String}
      {jwk : ProviderJwk lib.DecodingKey} {jwks : List (ProviderJwk lib.DecodingKey)}
      (obtained : ObtainedSet keys h jwks) (found : findJwk jwks kid = some jwk)
      (opened : OpenedBy keys idToken claims header kid jwk) : DecodeExit keys idToken h (.ok claims)
  | unknown {header : JwtHeader} {kid : String} (read : lib.decodeHeader idToken = some header)
      (named : header.kid = some kid) (unknown : KeyUnknown keys h kid) :
      DecodeExit keys idToken h (.error unknownKeyId)
  | refreshFails {e : AuthError} (fails : RefreshFails keys h e) :
      DecodeExit keys idToken h (.error e)
  | rejected {e : AuthError} (other : e ≠ unknownKeyId) : DecodeExit keys idToken h (.error e)

theorem forcedRefreshAllowed_fails {cooldown : Duration} {now : OffsetDateTime}
    {last : Option OffsetDateTime} {e : AuthError}
    (failed : forcedRefreshAllowed cooldown now last = .error e) : DiscoveryFails e := by
  unfold forcedRefreshAllowed at failed
  repeat' split at failed
  all_goals cases failed
  exact ⟨_, rfl⟩

theorem DiscoveryFails.ne {e : AuthError} (fails : DiscoveryFails e) : e ≠ unknownKeyId := by
  obtain ⟨detail, rfl⟩ := fails
  exact nofun

/-- The configuration is at fault. -/
def ConfigurationFails (e : AuthError) : Prop := ∃ detail, e = .invalidConfiguration detail

theorem ConfigurationFails.ne {e : AuthError} (fails : ConfigurationFails e) :
    e ≠ unknownKeyId := by
  obtain ⟨detail, rfl⟩ := fails
  exact nofun

theorem allowedAlgorithms_fails {e : AuthError} (failed : keys.allowedAlgorithms = .error e) :
    ConfigurationFails e := by
  obtain ⟨before, alg, after, -, -, failed⟩ := (Except.mapM_eq_error_iff _).mp failed
  split at failed
  · cases failed
  · cases failed
    exact ⟨_, rfl⟩

theorem clockSkewSeconds_fails {e : AuthError} (failed : keys.clockSkewSeconds = .error e) :
    ConfigurationFails e := by
  unfold OidcKeys.clockSkewSeconds at failed
  dsimp only at failed
  split at failed
  · cases failed
  · cases failed
    exact ⟨_, rfl⟩

theorem validateJwkForHeader_fails {jwk : ProviderJwk lib.DecodingKey} {alg : JwtAlgorithm}
    {e : AuthError} (failed : validateJwkForHeader jwk alg = .error e) : e ≠ unknownKeyId := by
  unfold validateJwkForHeader at failed
  split at failed
  · cases failed
    decide
  · split at failed
    · cases failed
      decide
    · split at failed
      · cases failed
        decide
      · cases failed

theorem decodeIdToken_keeps (keys : OidcKeys lib) (idToken : String)
    (h : KeyHistory lib.DecodingKey) :
    Keeps keys (DecodeExit keys idToken) h (keys.decodeIdToken idToken) := by
  apply Fallible.Upholds.bind
  cases read : lib.decodeHeader idToken with
  | none => exact .rejected (by decide)
  | some header =>
      apply Fallible.Upholds.resume
      apply Fallible.Upholds.bind
      cases named : header.kid with
      | none => exact .rejected (by decide)
      | some kid =>
          apply Fallible.Upholds.resume
          refine Fallible.Upholds.lift_bind (fun algorithms configured => ?_)
            fun e failed => .rejected (allowedAlgorithms_fails failed).ne
          apply Fallible.Upholds.branch
          · intro _
            refine .rejected ?_
            cases header.alg <;> decide
          · intro listed
            apply Fallible.Upholds.bind
            refine (signingKey_keeps keys kid h).mono (fun _ _ allowed => allowed) ?_
            rintro h' (e | jwk) ended
            · rcases ended with fails | fails | ⟨rfl, unknown⟩
              · exact .rejected fails.ne
              · exact .refreshFails fails
              · exact .unknown read named unknown
            · obtain ⟨jwks, obtained, found⟩ := ended
              refine Fallible.Upholds.lift_bind (fun _ marked => ?_)
                fun e failed => .rejected (validateJwkForHeader_fails failed)
              apply Fallible.Upholds.bind
              cases opens : jwk.decodingKey with
              | none => exact .rejected (by decide)
              | some key =>
                  apply Fallible.Upholds.resume
                  refine Fallible.Upholds.lift_bind (fun leeway skew => ?_)
                    fun e failed => .rejected (clockSkewSeconds_fails failed).ne
                  apply Fallible.Upholds.perform_bind trivial
                  intro (now : Int)
                  change DecodeExit keys idToken _ (Except.mapError _ _)
                  cases decoded : lib.decode keys.readIdTokenClaims idToken key
                      (keys.idTokenValidation algorithms leeway) now with
                  | error e => exact .rejected (by simp [unknownKeyId])
                  | ok claims =>
                      refine .decoded (obtained.mono (List.subset_cons_self _ _)) found
                        ⟨read, named, marked, key, algorithms, leeway, now, opens, configured, ?_,
                          skew, decoded⟩
                      simpa using listed

end Keys

end AgqlAuth
