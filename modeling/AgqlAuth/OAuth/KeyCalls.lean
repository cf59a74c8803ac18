import AgqlAuth.OAuth.KeyRetrieval

/-!
# The calls of a provider with its keys

The calls are verified over the operations of the provider, the decoding of an ID
token over those of its keys; the refinement rule puts the two together.
-/

namespace AgqlAuth

open Interaction Program OAuthM

section Provider

variable {provider : OidcProvider} {h : OAuthHistory} {α β : Type}

abbrev Documents (provider : OidcProvider) (post : OAuthHistory → AuthResult α → Prop)
    (h : OAuthHistory) (p : OAuthM α) : Prop :=
  Upholds (S := oauthSignature) (fun h => documentGuard provider (· ∈ h)) post h p

/-- The operations that ask no provider for a document and cache none. -/
def plain : OAuthOp → Bool
  | .getJson _ => false
  | .writeDiscoveryCache _ => false
  | _ => true

theorem documentGuard_of_plain {seen : OAuthEvent → Prop} {op : OAuthOp}
    (silent : plain op = true) : documentGuard provider seen op := by
  cases op with
  | getJson url => cases silent
  | writeDiscoveryCache cached => cases silent
  | _ => trivial

/-- A part that discovers nothing is followed by its continuation. -/
theorem plain_part {post : OAuthHistory → AuthResult β → Prop} {p : OAuthM α} {f : α → OAuthM β}
    (silent : Issues (S := oauthSignature) (fun op => plain op = true) p)
    (next : ∀ h value, Documents provider post h (f value)) (failed : ∀ h e, post h (.error e)) :
    Documents provider post h (p >>= f : OAuthM β) :=
  Fallible.Upholds.issues_bind silent (fun _ _ _ issued => documentGuard_of_plain issued)
    (fun _ value _ => next _ value) failed

theorem discover_part {post : OAuthHistory → AuthResult β → Prop}
    {f : OidcDiscoveryDocument → OAuthM β}
    (next : ∀ h document, ObtainedDocument provider (· ∈ h) document →
      Documents provider post h (f document))
    (failed : ∀ h e, DiscoveryFails e → post h (.error e)) :
    Documents provider post h (provider.discover >>= f : OAuthM β) := by
  apply Fallible.Upholds.bind
  refine (discover_upholds provider h).mono (fun _ _ allowed => allowed) ?_
  rintro h' (e | document) ended
  · exact failed h' e ended
  · exact next h' document ended

theorem expect_plain {e : AuthError} (value : Option α) :
    Issues (S := oauthSignature) (fun op => plain op = true) (OAuthM.expect e value) := by
  cases value <;> trivial

theorem requestSecret_plain (clientSecret : Option String) (hasClientJwt : Bool)
    (tokenEndpoint : String) (now : OffsetDateTime) :
    Issues (S := oauthSignature) (fun op => plain op = true)
      (requestSecret clientSecret hasClientJwt tokenEndpoint now) := by
  cases clientSecret with
  | some secret => trivial
  | none =>
      cases hasClientJwt with
      | false => trivial
      | true => exact Fallible.Issues.bind ⟨rfl, fun _ => trivial⟩ fun signed => trivial

theorem clientAuthentication_plain (method : TokenEndpointAuthMethod) (clientId : String)
    (clientSecret : Option String) (hasClientJwt : Bool) (tokenEndpoint : String)
    (now : OffsetDateTime) :
    Issues (S := oauthSignature) (fun op => plain op = true)
      (clientAuthentication method clientId clientSecret hasClientJwt tokenEndpoint now) := by
  cases method with
  | clientSecretPost => exact Fallible.Issues.bind (requestSecret_plain ..) fun secret => trivial
  | clientSecretBasic =>
      apply Fallible.Issues.bind (requestSecret_plain ..)
      intro secret
      cases secret <;> trivial
  | privateKeyJwt =>
      apply Fallible.Issues.branch
      · trivial
      · exact Fallible.Issues.bind ⟨rfl, fun _ => trivial⟩ fun assertion => trivial

theorem exchangeCode_part {post : OAuthHistory → AuthResult β → Prop} {code : String}
    {state : OAuthLoginState} {f : OidcTokenResponse → OAuthM β}
    (next : ∀ h response, Documents provider post h (f response))
    (failed : ∀ h e, post h (.error e)) :
    Documents provider post h (provider.exchangeCode code state >>= f : OAuthM β) := by
  apply Fallible.Upholds.bind
  refine discover_part (fun h discovery _ => ?_) fun h e _ => failed h e
  refine plain_part ⟨rfl, fun _ => trivial⟩ (fun h now => ?_) failed
  refine plain_part (Issues.bind (clientAuthentication_plain ..) fun _ => trivial)
    (fun h authentication => ?_) failed
  refine plain_part (Issues.bind ⟨rfl, fun _ => trivial⟩ fun _ => trivial) (fun h raw => ?_) failed
  apply Fallible.Upholds.branch
  · exact fun _ => failed h _
  · intro _
    refine plain_part (expect_plain _) (fun h response => ?_) failed
    exact next h _

def decodedIdToken (idToken : String) (result : AuthResult RawOidcIdTokenClaims) : OAuthEvent :=
  ⟨.decodeIdToken idToken, result⟩

/-- The claims of a decoded token passed the checks against `expectedNonce`. -/
structure ClaimsOf (provider : OidcProvider) (seen : OAuthEvent → Prop) (idToken : String)
    (expectedNonce : String) (raw : RawOidcIdTokenClaims) (claims : ValidatedOidcClaims) :
    Prop where
  decoded : seen (decodedIdToken idToken (.ok raw))
  document : ∃ document, ObtainedDocument provider seen document ∧
    provider.Identified raw expectedNonce document claims.nonce
  timely : ∃ now, seen (clockReading now) ∧ provider.validateTimes raw now = .ok ()
  normalized : provider.normalizeClaims raw claims.nonce = .ok claims

theorem ClaimsOf.mono {seen seen' : OAuthEvent → Prop} {idToken expectedNonce : String}
    {raw : RawOidcIdTokenClaims} {claims : ValidatedOidcClaims} (sub : ∀ e, seen e → seen' e)
    (valid : ClaimsOf provider seen idToken expectedNonce raw claims) :
    ClaimsOf provider seen' idToken expectedNonce raw claims where
  decoded := sub _ valid.decoded
  document := by
    obtain ⟨document, obtained, identified⟩ := valid.document
    exact ⟨document, obtained.mono fun e _ => sub e, identified⟩
  timely := by
    obtain ⟨now, clock, timely⟩ := valid.timely
    exact ⟨now, sub _ clock, timely⟩
  normalized := valid.normalized

/-- How the validation of an ID token ends. -/
def validationPost (provider : OidcProvider) (idToken expectedNonce : String) (h : OAuthHistory) :
    AuthResult ValidatedOidcClaims → Prop
  | .ok claims => ∃ raw, ClaimsOf provider (· ∈ h) idToken expectedNonce raw claims
  | .error e => e = unknownKeyId → decodedIdToken idToken (.error unknownKeyId) ∈ h

theorem validateAudiences_ne {audiences : List String} {azp : Option String} {e : AuthError}
    (failed : provider.validateAudiences audiences azp = .error e) : e ≠ unknownKeyId := by
  unfold OidcProvider.validateAudiences at failed
  repeat' split at failed
  all_goals cases failed
  all_goals decide

theorem validateTenant_ne {tenantId : Option String} {e : AuthError}
    (failed : provider.validateTenant tenantId = .error e) : e ≠ unknownKeyId := by
  unfold OidcProvider.validateTenant at failed
  repeat' split at failed
  all_goals cases failed
  all_goals decide

theorem validateIdentity_ne {claims : RawOidcIdTokenClaims} {expectedNonce : String}
    {discovery : OidcDiscoveryDocument} {e : AuthError}
    (failed : provider.validateIdentity claims expectedNonce discovery = .error e) :
    e ≠ unknownKeyId := by
  unfold OidcProvider.validateIdentity at failed
  split at failed
  · cases failed
    decide
  · split at failed
    · cases failed
      decide
    · rcases Except.error_of_bind failed with audiences | ⟨_, -, failed⟩
      · exact validateAudiences_ne audiences
      · dsimp only at failed
        split at failed
        · cases failed
          decide
        · rcases Except.error_of_bind failed with tenant | ⟨_, -, failed⟩
          · exact validateTenant_ne tenant
          · cases failed

theorem validateTimes_ne {claims : RawOidcIdTokenClaims} {now : OffsetDateTime} {e : AuthError}
    (failed : provider.validateTimes claims now = .error e) : e ≠ unknownKeyId := by
  unfold OidcProvider.validateTimes at failed
  repeat' split at failed
  all_goals cases failed
  all_goals decide

theorem unixTimestampToDatetime_ne {timestamp : Int} {e : AuthError}
    (failed : unixTimestampToDatetime timestamp = .error e) : e ≠ unknownKeyId := by
  unfold unixTimestampToDatetime at failed
  split at failed
  · cases failed
  · cases failed
    decide

theorem optionalTimestamp_ne {timestamp : Option Int} {e : AuthError}
    (failed : timestamp.mapM unixTimestampToDatetime = .error e) : e ≠ unknownKeyId := by
  cases timestamp with
  | none => cases failed
  | some seconds =>
      rcases Except.error_of_bind failed with failed | ⟨_, -, failed⟩
      · exact unixTimestampToDatetime_ne failed
      · cases failed

/-- A text that starts with another letter is another text. -/
theorem detail_ne {first rest : String} (starts : first.toList.head? = some 'i') :
    AuthError.oidcTokenValidation (first ++ rest) ≠ unknownKeyId := by
  intro same
  have text : (first ++ rest).toList = "unknown key ID".toList :=
    congrArg String.toList (AuthError.oidcTokenValidation.inj same)
  rw [String.toList_append] at text
  cases letters : first.toList with
  | nil =>
      rw [letters] at starts
      cases starts
  | cons letter later =>
      rw [letters] at starts text
      cases starts
      cases text

theorem assuranceError_ne (e : AssuranceInputError) :
    AuthError.oidcTokenValidation e.toString ≠ unknownKeyId := by
  cases e with
  | invalidContext field => exact detail_ne rfl
  | tooManyMethods => decide
  | invalidMethod => decide
  | methodsNotNormalized => decide

theorem validateValuesFrom_error {label : String} {values seen : List String} {total : Nat}
    {e : AuthError} (failed : validateValuesFrom label seen total values = .error e) :
    ∃ detail, e = .invalidOidcAuthorizationOptions detail := by
  induction values generalizing seen total with
  | nil => cases failed
  | cons value rest ih =>
      unfold validateValuesFrom at failed
      repeat' split at failed
      case isFalse => exact ih failed
      all_goals cases failed
      all_goals exact ⟨_, rfl⟩

theorem validateValues_error {label : String} {values : List String} {requireNonempty : Bool}
    {e : AuthError} (failed : validateValues label values requireNonempty = .error e) :
    ∃ detail, e = .invalidOidcAuthorizationOptions detail := by
  unfold validateValues at failed
  split at failed
  · cases failed
    exact ⟨_, rfl⟩
  · split at failed
    · cases failed
      exact ⟨_, rfl⟩
    · exact validateValuesFrom_error failed

theorem validateReturnedAcrs_ne {acrs : Option (List String)} {e : AuthError}
    (failed : OidcProvider.validateReturnedAcrs acrs = .error e) : e ≠ unknownKeyId := by
  cases acrs with
  | none => cases failed
  | some acrs =>
      cases checked : validateValues "acrs" acrs true with
      | ok _ =>
          simp only [OidcProvider.validateReturnedAcrs, checked] at failed
          cases failed
      | error e' =>
          obtain ⟨detail, rfl⟩ := validateValues_error checked
          simp only [OidcProvider.validateReturnedAcrs, checked] at failed
          cases failed
          exact detail_ne rfl

theorem normalizeClaims_ne {claims : RawOidcIdTokenClaims} {nonce : String} {e : AuthError}
    (failed : provider.normalizeClaims claims nonce = .error e) : e ≠ unknownKeyId := by
  rcases Except.error_of_bind failed with authenticated | ⟨authenticatedAt, -, failed⟩
  · exact unixTimestampToDatetime_ne authenticated
  · rcases Except.error_of_bind failed with assurance | ⟨_, -, failed⟩
    · cases built : SessionAssurance.new authenticatedAt (claims.amr.getD []) claims.acr none
          .unsatisfied with
      | ok normalized =>
          rw [built] at assurance
          cases assurance
      | error e' =>
          rw [built] at assurance
          cases assurance
          exact assuranceError_ne e'
    · rcases Except.error_of_bind failed with acrs | ⟨_, -, failed⟩
      · exact validateReturnedAcrs_ne acrs
      · rcases Except.error_of_bind failed with expiry | ⟨_, -, failed⟩
        · exact unixTimestampToDatetime_ne expiry
        · rcases Except.error_of_bind failed with notBefore | ⟨_, -, failed⟩
          · exact optionalTimestamp_ne notBefore
          · rcases Except.error_of_bind failed with issuedAt | ⟨_, -, failed⟩
            · exact unixTimestampToDatetime_ne issuedAt
            · rcases Except.error_of_bind failed with authTime | ⟨_, -, failed⟩
              · exact optionalTimestamp_ne authTime
              · cases failed

theorem validateIdToken_documents (provider : OidcProvider) (idToken expectedNonce : String)
    (h : OAuthHistory) :
    Documents provider (validationPost provider idToken expectedNonce) h
      (provider.validateIdToken idToken expectedNonce) := by
  refine discover_part (fun h document obtained => ?_) fun h e fails same =>
    absurd same fails.ne
  apply Fallible.Upholds.bind
  apply Upholds.await trivial
  rintro (e | raw)
  · intro same
    rw [← same]
    exact List.mem_cons_self
  refine Fallible.Upholds.lift_bind (fun nonce identity => ?_)
    fun e failed same => absurd same (validateIdentity_ne failed)
  apply Fallible.Upholds.perform_bind trivial
  intro (now : OffsetDateTime)
  refine Fallible.Upholds.lift_bind (fun _ timely => ?_)
    fun e failed same => absurd same (validateTimes_ne failed)
  change validationPost provider idToken expectedNonce _ (provider.normalizeClaims raw nonce)
  cases normalized : provider.normalizeClaims raw nonce with
  | error e => exact fun same => absurd same (normalizeClaims_ne normalized)
  | ok claims =>
      obtain ⟨same, -⟩ := normalizeClaims_copies normalized
      refine ⟨raw, List.mem_cons_of_mem _ List.mem_cons_self, ?_, ?_, same ▸ normalized⟩
      · refine ⟨document, obtained.mono fun e _ mem => ?_, same ▸ validateIdentity_eq_ok_iff.mp identity⟩
        exact List.mem_cons_of_mem _ (List.mem_cons_of_mem _ mem)
      · exact ⟨now, List.mem_cons_self, timely⟩

/-- How a call ends. -/
def oidcCallPost (provider : OidcProvider) (call : OidcCall) (h : OAuthHistory) :
    AuthResult OidcReturn → Prop
  | .ok (.request _) => ∃ options, call = .authorize options
  | .ok (.claims claims) => ∃ idToken expectedNonce raw,
      call = .validateIdToken idToken expectedNonce ∧
        ClaimsOf provider (· ∈ h) idToken expectedNonce raw claims
  | .ok (.outcome outcome) => ∃ input deliveredMode raw,
      call = .handleCallback input deliveredMode ∧
        ClaimsOf provider (· ∈ h) outcome.tokenResponse.idToken outcome.state.nonce raw
          outcome.claims
  | .error e => ∀ idToken expectedNonce, call = .validateIdToken idToken expectedNonce →
      e = unknownKeyId → decodedIdToken idToken (.error unknownKeyId) ∈ h

theorem createAuthorizationRequest_documents (provider : OidcProvider)
    (policy : Option OidcAuthorizationPolicy) (h : OAuthHistory) :
    Documents provider (fun _ _ => True) h (provider.createAuthorizationRequestInner policy) := by
  have anything : ∀ (_ : OAuthHistory) (_ : AuthError), True := fun _ _ => trivial
  refine discover_part (fun h discovery _ => ?_) fun _ _ _ => trivial
  refine plain_part trivial (fun h _ => ?_) anything
  refine plain_part ⟨rfl, fun _ => trivial⟩ (fun h state => ?_) anything
  refine plain_part ⟨rfl, fun _ => trivial⟩ (fun h nonce => ?_) anything
  refine plain_part ⟨rfl, fun _ => trivial⟩ (fun h pkce => ?_) anything
  refine plain_part ⟨rfl, fun _ => trivial⟩ (fun h now => ?_) anything
  refine plain_part (expect_plain _) (fun h expiresAt => ?_) anything
  refine plain_part ⟨rfl, fun _ => trivial⟩ (fun h _ => ?_) anything
  refine plain_part trivial (fun h params => ?_) anything
  trivial

/-- What a completed callback has checked. -/
def outcomePost (provider : OidcProvider) (h : OAuthHistory) :
    AuthResult OidcCallbackOutcome → Prop
  | .ok outcome => ∃ raw, ClaimsOf provider (· ∈ h) outcome.tokenResponse.idToken
      outcome.state.nonce raw outcome.claims
  | .error _ => True

theorem completeCallback_documents (provider : OidcProvider) (code : String)
    (state : OAuthLoginState) (h : OAuthHistory) :
    Documents provider (outcomePost provider) h (provider.completeCallback code state) := by
  refine exchangeCode_part (fun h response => ?_) fun _ _ => trivial
  apply Fallible.Upholds.bind
  refine (validateIdToken_documents provider response.idToken state.nonce h).mono
    (fun _ _ allowed => allowed) ?_
  rintro h' (e | claims) ended
  · trivial
  obtain ⟨raw, valid⟩ := ended
  apply Fallible.Upholds.perform_bind trivial
  intro (now : OffsetDateTime)
  refine Fallible.Upholds.lift_bind (fun authorization _ => ?_) fun _ _ => trivial
  exact ⟨raw, valid.mono fun e mem => List.mem_cons_of_mem _ mem⟩

theorem handleCallback_documents (provider : OidcProvider) (input : OidcCallbackInput)
    (deliveredMode : OAuthResponseMode) (h : OAuthHistory) :
    Documents provider (outcomePost provider) h
      (provider.handleCallbackInMode input deliveredMode) := by
  have anything : ∀ (h : OAuthHistory) (e : AuthError), outcomePost provider h (.error e) :=
    fun _ _ => trivial
  apply Fallible.Upholds.branch
  · exact fun _ => trivial
  · intro _
    apply Fallible.Upholds.branch
    · exact fun _ => trivial
    · intro _
      refine plain_part (expect_plain _) (fun h code => ?_) anything
      refine plain_part (expect_plain _) (fun h rawState => ?_) anything
      refine plain_part ⟨rfl, fun _ => trivial⟩ (fun h now => ?_) anything
      refine plain_part ⟨rfl, fun _ => trivial⟩ (fun h consumed => ?_) anything
      refine plain_part (expect_plain _) (fun h state => ?_) anything
      refine plain_part trivial (fun h _ => ?_) anything
      exact completeCallback_documents provider code state h

theorem OidcCall.documents (call : OidcCall) (provider : OidcProvider) (h : OAuthHistory) :
    Documents provider (oidcCallPost provider call) h (call.program provider) := by
  cases call with
  | authorize options =>
      have requested : ∀ policy h', Upholds (S := oauthSignature)
          (fun h => documentGuard provider (· ∈ h))
          (Fallible.Continues (S := oauthSignature) (fun h => documentGuard provider (· ∈ h))
            (oidcCallPost provider (.authorize options)) fun request => pure (.request request)) h'
          (provider.createAuthorizationRequestInner policy) := by
        intro policy h'
        refine (createAuthorizationRequest_documents provider policy h').mono
          (fun _ _ allowed => allowed) ?_
        rintro _ (e | request) _
        · exact nofun
        · exact ⟨options, rfl⟩
      cases options with
      | none => exact Fallible.Upholds.bind (requested none h)
      | some options =>
          apply Fallible.Upholds.bind
          exact plain_part trivial (fun h' policy => requested (some policy) h') fun _ _ => nofun
  | validateIdToken idToken expectedNonce =>
      apply Fallible.Upholds.bind
      refine (validateIdToken_documents provider idToken expectedNonce h).mono
        (fun _ _ allowed => allowed) ?_
      rintro h' (e | claims) ended
      · rintro _ _ ⟨⟩
        exact ended
      · obtain ⟨raw, valid⟩ := ended
        exact ⟨idToken, expectedNonce, raw, rfl, valid⟩
  | handleCallback input deliveredMode =>
      apply Fallible.Upholds.bind
      refine (handleCallback_documents provider input deliveredMode h).mono
        (fun _ _ allowed => allowed) ?_
      rintro h' (e | outcome) ended
      · exact nofun
      · obtain ⟨raw, valid⟩ := ended
        exact ⟨input, deliveredMode, raw, rfl, valid⟩

end Provider

section Keys

variable {lib : JwtLibrary} {keys : OidcKeys lib}

/-- What carrying out an operation has answered. -/
def KeyAnswer (keys : OidcKeys lib) :
    (op : oauthSignature.Op) → KeyHistory lib.DecodingKey → oauthSignature.Resp op → Prop
  | .decodeIdToken idToken, part, resp => DecodeExit keys idToken part resp
  | op, part, resp => part = [liftEvent ⟨op, resp⟩]

/-- What carrying out an operation may issue. -/
def KeyPart (keys : OidcKeys lib) (op : oauthSignature.Op) (part : KeyHistory lib.DecodingKey)
    (op' : (idTokenSignature lib.DecodingKey).Op) : Prop :=
  if forwarded op then op' = .inl op else keyGuard keys part op'

theorem carryOut_keeps (keys : OidcKeys lib) (op : oauthSignature.Op) :
    Upholds (KeyPart keys op) (KeyAnswer keys op) [] (keys.carryOut op) := by
  cases op with
  | decodeIdToken idToken => exact decodeIdToken_keeps keys idToken []
  | _ => exact ⟨rfl, fun _ => rfl⟩

variable {H : KeyHistory lib.DecodingKey} {h : OAuthHistory}

/-- What is its own program is seen as it happened. -/
theorem seen_of_explains (explains : Explains (KeyAnswer keys) H h) {e : OAuthEvent}
    (own : forwarded e.op = true) (mem : e ∈ h) : Seen H e := by
  obtain ⟨part, inside, answered⟩ := explains.part mem
  obtain ⟨op, resp⟩ := e
  have same : part = [liftEvent ⟨op, resp⟩] := by
    cases op with
    | decodeIdToken idToken => cases own
    | _ => exact answered
  subst same
  exact inside.subset List.mem_cons_self

/-- How a call with its keys ends. -/
def keyedPost (keys : OidcKeys lib) (call : OidcCall) (H : KeyHistory lib.DecodingKey)
    (result : AuthResult OidcReturn) : Prop :=
  ∃ h, Explains (KeyAnswer keys) H h ∧ oidcCallPost keys.provider call h result

theorem OidcCall.withKeys_keeps (call : OidcCall) (keys : OidcKeys lib) :
    Keeps keys (keyedPost keys call) [] (call.withKeys keys) := by
  refine (Upholds.refine (carryOut_keeps keys) (call.documents keys.provider []) .start).mono ?_
    fun _ _ ended => ended
  rintro H op' ⟨h, op, part, earlier, explains, allowed, rfl, own⟩
  unfold KeyPart at own
  split at own
  · subst own
    refine keyGuard_of_documentGuard (fun e forwarded mem => ?_) allowed
    exact List.mem_append_right _ (seen_of_explains explains forwarded mem)
  · exact keyGuard_mono (List.subset_append_left _ _) own

end Keys

end AgqlAuth
