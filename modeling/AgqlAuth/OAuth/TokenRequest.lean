import AgqlAuth.Base.Base64
import AgqlAuth.OAuth.AuthorizationUrl
import AgqlAuth.OAuth.Exchange

/-!
# The client of a token request

How a token endpoint reads the client and its credential from a request, and that
it reads what the provider was configured with, by one method alone.
-/

namespace AgqlAuth

open Interaction Program OAuthM

inductive PresentedCredential where
  /-- A public client. -/
  | nothing
  | secret (bytes : List UInt8)
  | assertion (text : String)
  deriving DecidableEq

structure PresentedClient where
  clientId : List UInt8
  credential : PresentedCredential
  deriving DecidableEq

def fieldValues (fields : List (String × String)) (name : String) : List String :=
  (fields.filter fun field => field.1 == name).map Prod.snd

/-- A part of a form-urlencoded text: a plus sign is a space. -/
def formDecode (bytes : List UInt8) : List UInt8 :=
  percentDecodeBytes (bytes.map fun byte => if byte == 0x2B then 0x20 else byte)

/-- The client of a Basic header; its two parts are form-urlencoded. -/
def readBasic (header : String) : Option PresentedClient := do
  let text ← stripPrefix header "Basic "
  let bytes ← readPadded standardAlphabet text.toList
  match bytes.dropWhile (· != 0x3A) with
  | [] => none
  | _ :: secret =>
      some ⟨formDecode (bytes.takeWhile (· != 0x3A)), .secret (formDecode secret)⟩

/-- A request that names its client twice, or authenticates it in two ways, is refused. -/
def presentedClient (headers form : List (String × String)) : Option PresentedClient :=
  match fieldValues headers "Authorization", fieldValues form "client_id",
      fieldValues form "client_secret", fieldValues form "client_assertion_type",
      fieldValues form "client_assertion" with
  | [], [clientId], [], [], [] => some ⟨utf8Bytes clientId, .nothing⟩
  | [], [clientId], [secret], [], [] => some ⟨utf8Bytes clientId, .secret (utf8Bytes secret)⟩
  | [], [clientId], [], [kind], [assertion] =>
      if kind = clientAssertionTypeJwtBearer then some ⟨utf8Bytes clientId, .assertion assertion⟩
      else none
  | [header], [], [], [], [] => readBasic header
  | _, _, _, _, _ => none

/-- The characters that mean something in form-urlencoded credentials. -/
def isCredentialSign (c : Char) : Bool := c == '+' || c == ':'

theorem not_sign_of_mem {s : String} {c : Char}
    (mem : c ∈ (percentEncode formComponentKept s).toList) : isCredentialSign c = false := by
  have bytes : ∀ n < 256,
      (encodedByte formComponentKept (UInt8.ofNat n)).all (!isCredentialSign ·) = true := by
    decide +kernel
  rw [percentEncode_eq, String.toList_ofList] at mem
  obtain ⟨byte, -, mem⟩ := List.mem_flatMap.mp mem
  have plain := bytes byte.toNat byte.toNat_lt
  rw [UInt8.ofNat_toNat] at plain
  simpa using List.all_eq_true.mp plain c mem

theorem formComponentKept_ascii (byte : UInt8) (kept : formComponentKept byte = true) :
    byte.toNat < 128 :=
  queryKept_ascii byte kept

theorem formComponent_ascii {s : String} {c : Char}
    (mem : c ∈ (percentEncode formComponentKept s).toList) : c.toNat < 128 := by
  rw [percentEncode_eq, String.toList_ofList] at mem
  obtain ⟨byte, -, mem⟩ := List.mem_flatMap.mp mem
  exact encodedByte_ascii formComponentKept_ascii mem

theorem utf8Bytes_formComponent (s : String) :
    utf8Bytes (percentEncode formComponentKept s) =
      (percentEncode formComponentKept s).toList.map fun c => UInt8.ofNat c.toNat := by
  have ascii := utf8Bytes_of_ascii fun c mem => formComponent_ascii (s := s) (c := c) mem
  rwa [String.ofList_toList] at ascii

/-- An ASCII sign is written as its own byte alone. -/
theorem byte_ne_of_ne {c : Char} (sign : Char) (ascii : c.toNat < 128) (small : sign.toNat < 128)
    (other : c ≠ sign) : UInt8.ofNat c.toNat ≠ UInt8.ofNat sign.toNat := by
  intro same
  have numbers := congrArg UInt8.toNat same
  have fits : 128 < UInt8.size := by decide
  rw [UInt8.toNat_ofNat_of_lt' (ascii.trans fits), UInt8.toNat_ofNat_of_lt' (small.trans fits)]
    at numbers
  exact other (Char.toNat_inj.mp numbers)

theorem formComponent_plain {s : String} {byte : UInt8}
    (mem : byte ∈ utf8Bytes (percentEncode formComponentKept s)) : byte ≠ 0x2B ∧ byte ≠ 0x3A := by
  rw [utf8Bytes_formComponent] at mem
  obtain ⟨c, written, rfl⟩ := List.mem_map.mp mem
  have ascii := formComponent_ascii written
  have plain := not_sign_of_mem written
  constructor
  · refine byte_ne_of_ne '+' ascii (by decide) ?_
    rintro rfl
    cases plain
  · refine byte_ne_of_ne ':' ascii (by decide) ?_
    rintro rfl
    cases plain

theorem formDecode_percentEncode (s : String) :
    formDecode (utf8Bytes (percentEncode formComponentKept s)) = utf8Bytes s := by
  have unsigned : (utf8Bytes (percentEncode formComponentKept s)).map
      (fun byte => if byte == 0x2B then 0x20 else byte) =
        utf8Bytes (percentEncode formComponentKept s) := by
    refine (List.map_congr_left fun byte mem => ?_).trans (List.map_id _)
    rw [if_neg (by simpa using (formComponent_plain mem).1), id_eq]
  rw [formDecode, unsigned]
  exact percentDecodeBytes_percentEncode formComponentKept_ascii rfl s

def basicHeader (clientId secret : String) : String :=
  "Basic " ++ base64Standard (utf8Bytes (percentEncode formComponentKept clientId ++ ":" ++
    percentEncode formComponentKept secret))

/-- A Basic header is read as the client and the secret it was written for. -/
theorem readBasic_basicHeader (clientId secret : String) :
    readBasic (basicHeader clientId secret) =
      some ⟨utf8Bytes clientId, .secret (utf8Bytes secret)⟩ := by
  have text : stripPrefix (basicHeader clientId secret) "Basic " =
      some (base64Standard (utf8Bytes (percentEncode formComponentKept clientId ++ ":" ++
        percentEncode formComponentKept secret))) :=
    stripPrefix_eq_some.mpr (String.toList_append ..)
  have colon : utf8Bytes ":" = [0x3A] := by decide +kernel
  have kept : ∀ byte ∈ utf8Bytes (percentEncode formComponentKept clientId),
      (byte != 0x3A) = true :=
    fun byte mem => bne_iff_ne.mpr (formComponent_plain mem).2
  obtain ⟨front, back⟩ := takeWhile_of_stop (p := (· != 0x3A))
    (utf8Bytes (percentEncode formComponentKept clientId))
    (0x3A :: utf8Bytes (percentEncode formComponentKept secret)) kept (by simp)
  have bytes : utf8Bytes (percentEncode formComponentKept clientId ++ ":" ++
      percentEncode formComponentKept secret) =
        utf8Bytes (percentEncode formComponentKept clientId) ++
          0x3A :: utf8Bytes (percentEncode formComponentKept secret) := by
    rw [utf8Bytes_append, utf8Bytes_append, colon, List.append_assoc, List.singleton_append]
  simp only [readBasic, text, readPadded_base64Standard, bytes, Option.bind_eq_bind,
    Option.bind_some, front, back, formDecode_percentEncode]

/-- How a provider is registered at its token endpoint. -/
structure TokenClient where
  method : TokenEndpointAuthMethod
  clientId : String
  clientSecret : Option String
  hasClientJwt : Bool

def OidcProvider.tokenClient (provider : OidcProvider) : TokenClient where
  method := provider.config.tokenEndpointAuthMethod
  clientId := provider.config.clientId
  clientSecret := provider.config.clientSecret
  hasClientJwt := provider.config.hasClientJwt

def OAuth2Provider.tokenClient (provider : OAuth2Provider) : TokenClient where
  method := provider.config.tokenEndpointAuthMethod
  clientId := provider.config.clientId
  clientSecret := provider.config.clientSecret
  hasClientJwt := provider.config.hasClientJwt

def signedJwt (now : OffsetDateTime) (audience : String) (includeJti : Bool) (token : String) :
    OAuthEvent :=
  ⟨.signClientJwt now audience includeJti, (.ok token : AuthResult String)⟩

/-- The last thing that happened was to sign `token` for `audience`, at the time just read. -/
def FreshlySigned (audience : String) (includeJti : Bool) (token : String) (h : OAuthHistory) :
    Prop :=
  ∃ now past, h = signedJwt now audience includeJti token :: clockReading now :: past

inductive TokenClient.Proves (client : TokenClient) (endpoint : String) (h : OAuthHistory) :
    PresentedCredential → Prop where
  | nothing (method : client.method = .clientSecretPost) (secret : client.clientSecret = none)
      (unsigned : client.hasClientJwt = false) : Proves client endpoint h .nothing
  | secret {secret : String} (method : client.method ≠ .privateKeyJwt)
      (static : client.clientSecret = some secret) :
      Proves client endpoint h (.secret (utf8Bytes secret))
  | signedSecret {token : String} (method : client.method ≠ .privateKeyJwt)
      (secret : client.clientSecret = none) (signed : client.hasClientJwt = true)
      (fresh : FreshlySigned endpoint false token h) :
      Proves client endpoint h (.secret (utf8Bytes token))
  | assertion {token : String} (method : client.method = .privateKeyJwt)
      (signed : client.hasClientJwt = true) (fresh : FreshlySigned endpoint true token h) :
      Proves client endpoint h (.assertion token)

/-- A token request names the client and proves it to the endpoint that it goes to. -/
def TokenClient.guard (client : TokenClient) (h : OAuthHistory) : OAuthOp → Prop
  | .postFormJson url headers form => ∃ credential,
      presentedClient headers form = some ⟨utf8Bytes client.clientId, credential⟩ ∧
        client.Proves url h credential
  | _ => True

/-- What the prepared parts of a request say, once it is issued. -/
def TokenClient.Prepared (client : TokenClient) (endpoint : String) (h : OAuthHistory)
    (authentication : ClientAuthentication) : Prop :=
  ∃ credential, presentedClient authentication.headers authentication.form =
      some ⟨utf8Bytes client.clientId, credential⟩ ∧ client.Proves endpoint h credential

/-- The fields of the code grant say nothing about the client. -/
theorem presentedClient_exchange {headers headers' form : List (String × String)} (code : String)
    (state : OAuthLoginState)
    (same : fieldValues headers' "Authorization" = fieldValues headers "Authorization") :
    presentedClient headers' (exchangeForm code state ++ form) = presentedClient headers form := by
  have own : ∀ name, name ∉ ["grant_type", "code", "redirect_uri", "code_verifier"] →
      fieldValues (exchangeForm code state ++ form) name = fieldValues form name := by
    intro name other
    simp only [List.mem_cons, List.not_mem_nil, or_false, not_or] at other
    obtain ⟨grant, code_, redirect, verifier⟩ := other
    simp [fieldValues, exchangeForm, Ne.symm grant, Ne.symm code_, Ne.symm redirect,
      Ne.symm verifier]
  rw [presentedClient, presentedClient, same, own "client_id" (by decide),
    own "client_secret" (by decide), own "client_assertion_type" (by decide),
    own "client_assertion" (by decide)]

section Prepared

variable {client : TokenClient} {endpoint : String} {now : OffsetDateTime} {past : OAuthHistory}

/-- The credential that the client has for a request. -/
inductive TokenClient.Holds (client : TokenClient) (endpoint : String) (h : OAuthHistory) :
    Option String → Prop where
  | static {secret : String} (static : client.clientSecret = some secret) :
      Holds client endpoint h (some secret)
  | signed {token : String} (secret : client.clientSecret = none)
      (signed : client.hasClientJwt = true) (fresh : FreshlySigned endpoint false token h) :
      Holds client endpoint h (some token)
  | nothing (secret : client.clientSecret = none) (unsigned : client.hasClientJwt = false) :
      Holds client endpoint h none

theorem requestSecret_holds (client : TokenClient) :
    Upholds (S := oauthSignature) client.guard (Succeeds (S := oauthSignature)
      (client.Holds endpoint)) (clockReading now :: past)
      (requestSecret client.clientSecret client.hasClientJwt endpoint now) := by
  cases static : client.clientSecret with
  | some secret => exact Succeeds.ok (.static static)
  | none =>
      cases signed : client.hasClientJwt with
      | false => exact Succeeds.ok (.nothing static signed)
      | true =>
          apply Fallible.Upholds.bind
          apply Upholds.await trivial
          rintro (e | token)
          · exact Succeeds.error
          · exact Succeeds.ok (.signed static signed ⟨now, past, rfl⟩)

theorem clientAuthentication_prepared (client : TokenClient) :
    Upholds (S := oauthSignature) client.guard (Succeeds (S := oauthSignature)
      (client.Prepared endpoint)) (clockReading now :: past)
      (clientAuthentication client.method client.clientId client.clientSecret client.hasClientJwt
        endpoint now) := by
  cases method : client.method with
  | clientSecretPost =>
      have own : client.method ≠ .privateKeyJwt := by
        rw [method]
        decide
      apply Fallible.Upholds.bind
      refine (requestSecret_holds client).mono (fun _ _ allowed => allowed) ?_
      rintro h (e | secret) held
      · exact Succeeds.error
      apply Succeeds.ok
      cases held secret rfl with
      | static static => exact ⟨_, rfl, .secret own static⟩
      | signed secret signed fresh => exact ⟨_, rfl, .signedSecret own secret signed fresh⟩
      | nothing secret unsigned => exact ⟨_, rfl, .nothing method secret unsigned⟩
  | clientSecretBasic =>
      have own : client.method ≠ .privateKeyJwt := by
        rw [method]
        decide
      have basic : ∀ secret, presentedClient
          [("Authorization", basicHeader client.clientId secret)] [] =
            some ⟨utf8Bytes client.clientId, .secret (utf8Bytes secret)⟩ :=
        readBasic_basicHeader client.clientId
      apply Fallible.Upholds.bind
      refine (requestSecret_holds client).mono (fun _ _ allowed => allowed) ?_
      rintro h (e | secret) held
      · exact Succeeds.error
      cases held secret rfl with
      | static static => exact Succeeds.ok ⟨_, basic _, .secret own static⟩
      | signed secret signed fresh =>
          exact Succeeds.ok ⟨_, basic _, .signedSecret own secret signed fresh⟩
      | nothing secret unsigned => exact Succeeds.error
  | privateKeyJwt =>
      apply Fallible.Upholds.branch
      · exact fun _ => Succeeds.error
      · intro signed
        apply Fallible.Upholds.bind
        apply Upholds.await trivial
        rintro (e | assertion)
        · exact Succeeds.error
        · exact Succeeds.ok ⟨_, rfl, .assertion method (by simpa using signed) ⟨now, past, rfl⟩⟩

end Prepared

/-- The operations other than a token request. -/
def unposted : OAuthOp → Bool
  | .postFormJson .. => false
  | _ => true

theorem unposted_of_quiet {op : OAuthOp} (issued : quiet op = true) : unposted op = true := by
  cases op <;> first | rfl | exact issued

theorem TokenClient.guard_of_unposted {client : TokenClient} {h : OAuthHistory} {op : OAuthOp}
    (issued : unposted op = true) : client.guard h op := by
  cases op <;> trivial

section Posting

variable {α β : Type} {client : TokenClient} {h : OAuthHistory}

/-- A result of which nothing is expected. -/
abbrev Ended (_ : OAuthHistory) (_ : AuthResult α) : Prop := True

abbrev Presents (client : TokenClient) (h : OAuthHistory) (p : OAuthM α) : Prop :=
  Upholds (S := oauthSignature) client.guard Ended h p

theorem presents_quiet_bind {p : OAuthM α} {f : α → OAuthM β} (quiet : Quiet p)
    (next : ∀ h value, Presents client h (f value)) :
    Presents client h (p >>= f : OAuthM β) :=
  Fallible.Upholds.issues_bind quiet
    (fun _ _ _ issued => TokenClient.guard_of_unposted (unposted_of_quiet issued))
    (fun _ value _ => next _ value) fun _ _ => trivial

/-- The request that follows its preparation. -/
theorem presents_request {past : OAuthHistory} {now : OffsetDateTime} {endpoint code : String}
    {state : OAuthLoginState} {e e' : AuthError} {f : JsonValue → OAuthM β}
    {headers : ClientAuthentication → List (String × String)}
    (same : ∀ authentication, fieldValues (headers authentication) "Authorization" =
      fieldValues authentication.headers "Authorization")
    (next : ∀ h raw, Presents client h (f raw)) :
    Presents client (clockReading now :: past) (do
      let authentication ← (clientAuthentication client.method client.clientId
        client.clientSecret client.hasClientJwt endpoint now).orFail e
      let raw ← (postFormJson endpoint (headers authentication)
        (exchangeForm code state ++ authentication.form)).orFail e'
      f raw) := by
  apply Fallible.Upholds.bind
  apply Upholds.bind
  refine (clientAuthentication_prepared client).mono (fun _ _ allowed => allowed) ?_
  rintro h (e | authentication) prepared
  · trivial
  obtain ⟨credential, presented, proves⟩ := prepared authentication rfl
  apply Fallible.Upholds.bind
  apply Upholds.bind
  refine Upholds.await ⟨credential, ?_, proves⟩ ?_
  · rw [presentedClient_exchange code state (same authentication)]
    exact presented
  · rintro (e | raw)
    · trivial
    · exact next _ raw

theorem fieldValues_acceptJson (headers : List (String × String)) :
    fieldValues (headers ++ [acceptJson]) "Authorization" =
      fieldValues headers "Authorization" := by
  simp [fieldValues, acceptJson]

theorem OidcProvider.exchangeCode_presents (provider : OidcProvider) (code : String)
    (state : OAuthLoginState) :
    Presents provider.tokenClient h (provider.exchangeCode code state) := by
  apply presents_quiet_bind (discover_quiet provider)
  intro h discovery
  apply Fallible.Upholds.perform_bind trivial
  intro now
  apply presents_request
  · rintro ⟨_ | ⟨header, headers⟩, form⟩
    · rfl
    · exact fieldValues_acceptJson (header :: headers)
  · intro h raw
    apply Fallible.Upholds.branch
    · exact fun _ => trivial
    · intro _
      apply presents_quiet_bind quiet_expect
      exact fun h response => trivial

theorem OAuth2Provider.exchangeCode_presents (provider : OAuth2Provider) (code : String)
    (state : OAuthLoginState) :
    Presents provider.tokenClient h (provider.exchangeCode code state) := by
  apply Fallible.Upholds.perform_bind trivial
  intro now
  apply presents_request
  · exact fun authentication => fieldValues_acceptJson authentication.headers
  · exact fun h raw => trivial

theorem presents_bind {p : OAuthM α} {f : α → OAuthM β} (first : Presents client h p)
    (next : ∀ h value, Presents client h (f value)) :
    Presents client h (p >>= f : OAuthM β) := by
  apply Fallible.Upholds.bind
  refine first.mono (fun _ _ allowed => allowed) ?_
  rintro h (e | value) -
  · trivial
  · exact next h value

end Posting

theorem OidcProvider.validateIdToken_quiet (provider : OidcProvider)
    (idToken expectedNonce : String) : Quiet (provider.validateIdToken idToken expectedNonce) := by
  apply quiet_bind (discover_quiet provider)
  intro discovery
  refine quiet_bind (quiet_call rfl fun _ => trivial) fun claims => ?_
  apply quiet_bind (quiet_lift _)
  intro nonce
  apply quiet_bind (quiet_perform rfl)
  intro now
  apply quiet_bind (quiet_lift _)
  intro _
  exact quiet_lift _

theorem OidcProvider.completeCallback_presents (provider : OidcProvider) (code : String)
    (state : OAuthLoginState) (h : OAuthHistory) :
    Presents provider.tokenClient h (provider.completeCallback code state) := by
  apply presents_bind (provider.exchangeCode_presents code state)
  intro h response
  apply presents_quiet_bind (provider.validateIdToken_quiet ..)
  intro h claims
  apply presents_quiet_bind (quiet_perform rfl)
  intro h now
  apply presents_quiet_bind (quiet_lift _)
  exact fun h authorization => trivial

theorem OAuth2Provider.completeCallback_presents (provider : OAuth2Provider) (code : String)
    (state : OAuthLoginState) (h : OAuthHistory) :
    Presents provider.tokenClient h (provider.completeCallback code state) := by
  apply presents_bind (provider.exchangeCode_presents code state)
  intro h response
  apply presents_quiet_bind (provider.fetchProfile_quiet _)
  exact fun h profile => trivial

theorem OidcProvider.handleCallbackInMode_presents (provider : OidcProvider)
    (input : OidcCallbackInput) (deliveredMode : OAuthResponseMode) (h : OAuthHistory) :
    Presents provider.tokenClient h (provider.handleCallbackInMode input deliveredMode) := by
  apply Fallible.Upholds.branch
  · exact fun _ => trivial
  intro _
  apply Fallible.Upholds.branch
  · exact fun _ => trivial
  intro _
  apply presents_quiet_bind quiet_expect
  intro h code
  apply presents_quiet_bind quiet_expect
  intro h rawState
  apply Fallible.Upholds.perform_bind trivial
  intro now
  apply Fallible.Upholds.bind
  apply Upholds.await trivial
  rintro (e | consumed)
  · trivial
  apply presents_quiet_bind quiet_expect
  intro h state
  apply presents_quiet_bind (quiet_lift _)
  exact fun h _ => provider.completeCallback_presents code state h

theorem OAuth2Provider.handleCallback_presents (provider : OAuth2Provider)
    (input : OidcCallbackInput) (h : OAuthHistory) :
    Presents provider.tokenClient h (provider.handleCallback input) := by
  apply Fallible.Upholds.branch
  · exact fun _ => trivial
  intro _
  apply presents_quiet_bind quiet_expect
  intro h code
  apply presents_quiet_bind quiet_expect
  intro h rawState
  apply Fallible.Upholds.perform_bind trivial
  intro now
  apply Fallible.Upholds.bind
  apply Upholds.await trivial
  rintro (e | consumed)
  · trivial
  apply presents_quiet_bind quiet_expect
  intro h state
  apply presents_quiet_bind (quiet_lift _)
  exact fun h _ => provider.completeCallback_presents code state h

/-- A request for authorization posts nothing. -/
theorem guard_of_requests {client : TokenClient} {stamped : OAuthLoginState → Prop}
    {h : OAuthHistory} {op : OAuthOp} (issued : requestGuard stamped h op) : client.guard h op := by
  cases op with
  | postFormJson url headers form => cases issued
  | _ => trivial

namespace OAuthCall

def tokenClient : OAuthCall → TokenClient
  | oidcRequest provider _ => provider.tokenClient
  | oidcCallback provider _ _ => provider.tokenClient
  | oauth2Request provider => provider.tokenClient
  | oauth2Callback provider _ => provider.tokenClient

theorem presents (call : OAuthCall) : Presents call.tokenClient [] call.program := by
  cases call with
  | oidcRequest provider options =>
      have requests := (oidcRequest provider options).verified
      exact requests.mono (fun _ _ => guard_of_requests) fun _ _ _ => trivial
  | oidcCallback provider input deliveredMode =>
      apply presents_bind (provider.handleCallbackInMode_presents input deliveredMode [])
      exact fun h outcome => trivial
  | oauth2Request provider =>
      have requests := (oauth2Request provider).verified
      exact requests.mono (fun _ _ => guard_of_requests) fun _ _ _ => trivial
  | oauth2Callback provider input =>
      apply presents_bind (provider.handleCallback_presents input [])
      exact fun h outcome => trivial

end OAuthCall

/--
Whatever a call is answered, its token requests name the configured client and
prove it by one method, with a secret or a JWT signed just then for that endpoint.
-/
theorem token_request_presents_client (call : OAuthCall) {url : String}
    {headers form : List (String × String)} {early : OAuthHistory}
    {next : AuthResult JsonValue → OAuthM OAuthReturn}
    (waiting : Path call.program early
      (.call (S := oauthSignature) (.postFormJson url headers form) next)) :
    ∃ credential, presentedClient headers form =
        some ⟨utf8Bytes call.tokenClient.clientId, credential⟩ ∧
      call.tokenClient.Proves url early credential :=
  call.presents.guard_of_path waiting

/-- The sample provider with a secret that a header has to escape. -/
def basicProvider : OAuth2Provider :=
  { sampleOAuth2Provider with
    config := { sampleOAuth2Provider.config with
      clientId := "web app"
      clientSecret := some "a+b:c"
      tokenEndpointAuthMethod := .clientSecretBasic } }

def basicCall : OAuthCall :=
  .oauth2Callback basicProvider { code := some "c", state := some "s" }

/-- The store returns a live state, and the token endpoint an error. -/
def basicAnswers : (op : oauthSignature.Op) → Option (oauthSignature.Resp op)
  | .now => some (.atSecond 60)
  | .consumeOAuthState providerName stateHash _ => some (.ok (some {
      providerName, stateHash, nonce := "", codeVerifier := "v"
      redirectUri := "https://app.test/callback", scopes := [], authorizationPolicy := none
      responseMode := .query, createdAt := .atSecond 0, expiresAt := .atSecond 600
      consumedAt := none }) : AuthResult (Option OAuthLoginState))
  | .postFormJson .. => some (.error .oauthProviderError : AuthResult JsonValue)
  | _ => none

def isTokenRequest (e : OAuthEvent) : Bool :=
  match e.op with
  | .postFormJson .. => true
  | _ => false

/-- The header is read as the client and the secret that the provider has. -/
theorem basic_request_presents_client :
    ∃ url headers form early, ∃ next : AuthResult JsonValue → OAuthM OAuthReturn,
      Path basicCall.program early
        (.call (S := oauthSignature) (.postFormJson url headers form) next) ∧
      presentedClient headers form = some ⟨utf8Bytes "web app", .secret (utf8Bytes "a+b:c")⟩ := by
  have passed : (basicCall.program.finish basicAnswers []).any
      (fun ended => ended.1.any isTokenRequest) = true := by decide +kernel
  obtain ⟨⟨h, value⟩, finished, posted⟩ := (Option.any_eq_true ..).mp passed
  obtain ⟨⟨op, raw⟩, mem, posted⟩ := List.any_eq_true.mp posted
  obtain ⟨late, early, share⟩ := List.append_of_mem mem
  have path : Path basicCall.program (late ++ ⟨op, raw⟩ :: early) (ret value) :=
    share ▸ Path.finish .start finished
  obtain ⟨next, waiting⟩ := path.issued
  cases op with
  | postFormJson url headers form =>
      obtain ⟨credential, presented, proves⟩ := token_request_presents_client basicCall waiting
      refine ⟨url, headers, form, early, next, waiting, ?_⟩
      cases proves with
      | nothing method secret unsigned => cases secret
      | secret method static =>
          cases static
          exact presented
      | signedSecret method secret signed fresh => cases secret
      | assertion method signed fresh => cases method
  | _ => cases posted

end AgqlAuth
