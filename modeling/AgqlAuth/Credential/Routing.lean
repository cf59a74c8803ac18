import AgqlAuth.Interaction.Yields
import AgqlAuth.Service.ApiToken

/-!
# Which authenticator a header reaches

The routing of `CombinedAuth` by the shape of the token, and the headers that
carry an issued API token.
-/

namespace AgqlAuth

open Interaction Program

theorem base64Digit_urlSafe (n : Nat) :
    isWhitespace (base64Digit ('-', '_') n) = false ∧ base64Digit ('-', '_') n ≠ '.' := by
  have digits : ∀ n < 64, isWhitespace (base64Digit ('-', '_') n) = false ∧
      base64Digit ('-', '_') n ≠ '.' := by decide
  by_cases small : n < 64
  · exact digits n small
  · have large : base64Digit ('-', '_') n = '_' := by
      unfold base64Digit
      rw [if_neg (by omega), if_neg (by omega), if_neg (by omega), if_neg (by omega)]
    rw [large]
    decide

theorem base64Chars_urlSafe {bytes : List UInt8} {c : Char}
    (mem : c ∈ base64Chars ('-', '_') false bytes) : isWhitespace c = false ∧ c ≠ '.' := by
  induction bytes using base64Chars.induct with
  | case1 => cases mem
  | case2 a =>
      simp only [base64Chars, Bool.false_eq_true, if_false, List.append_nil, List.mem_cons,
        List.not_mem_nil, or_false] at mem
      rcases mem with rfl | rfl <;> exact base64Digit_urlSafe _
  | case3 a b =>
      simp only [base64Chars, Bool.false_eq_true, if_false, List.append_nil, List.mem_cons,
        List.not_mem_nil, or_false] at mem
      rcases mem with rfl | rfl | rfl <;> exact base64Digit_urlSafe _
  | case4 a b c rest ih =>
      simp only [base64Chars, List.mem_cons] at mem
      rcases mem with rfl | rfl | rfl | rfl | later
      · exact base64Digit_urlSafe _
      · exact base64Digit_urlSafe _
      · exact base64Digit_urlSafe _
      · exact base64Digit_urlSafe _
      · exact ih later

theorem length_le_base64Chars (bytes : List UInt8) :
    bytes.length ≤ (base64Chars ('-', '_') false bytes).length := by
  induction bytes using base64Chars.induct with
  | case1 => exact Nat.zero_le _
  | case2 a => simp [base64Chars]
  | case3 a b => simp [base64Chars]
  | case4 a b c rest ih =>
      simp only [base64Chars, List.length_cons]
      omega

theorem plain_of_validateTokenPrefix {tokenPrefix : String}
    (accepted : validateTokenPrefix tokenPrefix = .ok ()) :
    ∀ c ∈ tokenPrefix.toList, isWhitespace c = false ∧ c ≠ '.' := by
  simp only [validateTokenPrefix, Except.ite_error_eq_ok_iff] at accepted
  obtain ⟨-, solid, undotted, -⟩ := accepted
  intro c mem
  constructor
  · have all_solid : ∀ c ∈ tokenPrefix.toList, ¬isWhitespace c = true := by simpa using solid
    simpa using all_solid c mem
  · rintro rfl
    exact undotted (List.contains_iff_mem.mpr mem)

/-- The texts that a service issues. -/
structure IssuableToken (service : ApiTokenService) (token : String) : Prop where
  prefixed : startsWith token service.tokenPrefix = true
  plain : ∀ c ∈ token.toList, isWhitespace c = false ∧ c ≠ '.'
  long : 48 ≤ token.toList.length

theorem issuable_of_bytes (service : ApiTokenService) (bytes : Vector UInt8 48) :
    IssuableToken service (service.tokenPrefix ++ base64UrlSafeNoPad bytes.toList) := by
  have chars : (service.tokenPrefix ++ base64UrlSafeNoPad bytes.toList).toList =
      service.tokenPrefix.toList ++ base64Chars ('-', '_') false bytes.toList := by
    rw [String.toList_append, base64UrlSafeNoPad, String.toList_ofList]
  constructor
  case prefixed =>
    rw [startsWith_iff, chars]
    exact List.prefix_append ..
  case plain =>
    rw [chars]
    intro c mem
    rcases List.mem_append.mp mem with front | back
    · exact plain_of_validateTokenPrefix service.prefixValid c front
    · exact base64Chars_urlSafe back
  case long =>
    have length := length_le_base64Chars bytes.toList
    rw [Vector.length_toList] at length
    rw [chars, List.length_append]
    omega

/-- Whatever the environment answers, an issued token is one of these. -/
theorem issueToken_yields (service : ApiTokenService) (request : ApiTokenIssueRequest) :
    Yields (fun issued => IssuableToken service issued.token) (service.issueToken request) := by
  unfold ApiTokenService.issueToken
  generalize validateIssueRequest request = checked
  refine Yields.after fun _ => ?_
  refine Yields.after fun now => ?_
  refine Yields.after fun expiresAt => ?_
  refine Yields.after fun tokenId => ?_
  refine Yields.after fun bytes => ?_
  refine Yields.after fun _ => ?_
  refine Yields.of_ret fun issued returned => ?_
  cases returned
  exact issuable_of_bytes service bytes

/-- A header with the token alone or after the scheme, and white space anywhere between. -/
def CarriesToken (raw token : String) : Prop :=
  ∃ left right, Blank left ∧ Blank right ∧
    (raw = left ++ token ++ right ∨
      ∃ scheme gap, eqIgnoreAsciiCase scheme "Bearer" = true ∧ gap ≠ "" ∧ Blank gap ∧
        raw = left ++ (scheme ++ gap ++ token) ++ right)

namespace IssuableToken

variable {service : ApiTokenService} {token raw : String}

theorem word (issuable : IssuableToken service token) : Word token := by
  constructor
  case nonempty =>
    rintro rfl
    have long := issuable.long
    simp at long
  case solid => exact fun c mem => (issuable.plain c mem).1

theorem undotted (issuable : IssuableToken service token) : '.' ∉ token.toList :=
  fun mem => (issuable.plain '.' mem).2 rfl

theorem not_scheme (issuable : IssuableToken service token) :
    eqIgnoreAsciiCase token "Bearer" = false := by
  rw [Bool.eq_false_iff]
  intro same
  have lowered : toAsciiLowercase token = toAsciiLowercase "Bearer" := by
    simpa [eqIgnoreAsciiCase] using same
  have lengths := congrArg (fun s => s.toList.length) lowered
  simp only [toAsciiLowercase, String.toList_ofList, List.length_map] at lengths
  have six : "Bearer".toList.length = 6 := by decide
  have long := issuable.long
  omega

theorem stripped (issuable : IssuableToken service token) (carries : CarriesToken raw token) :
    stripBearerPrefix raw = .ok token := by
  rw [stripBearerPrefix_eq_ok]
  refine ⟨issuable.word, ?_⟩
  obtain ⟨left, right, before, after, whole | ⟨scheme, gap, bearer, apart, blank, whole⟩⟩ := carries
  · exact .inl ⟨issuable.word.trim_surrounded whole before after, issuable.not_scheme⟩
  · refine .inr ⟨scheme, gap, bearer, apart, blank, ?_⟩
    have scheme_word : Word scheme := ⟨ne_empty_of_bearer bearer, solid_of_bearer bearer⟩
    obtain ⟨first, chars, starts, solid_first⟩ := scheme_word.starts
    obtain ⟨chars', last, ends, solid_last⟩ := issuable.word.ends
    have begins : (scheme ++ gap ++ token).toList =
        first :: (chars ++ gap.toList ++ token.toList) := by
      simp [starts]
    have finishes : (scheme ++ gap ++ token).toList =
        (scheme.toList ++ gap.toList ++ chars') ++ [last] := by
      simp [ends]
    exact trim_surrounded whole before after begins finishes solid_first solid_last

end IssuableToken

/-- What sends a header to the API tokens. -/
structure ApiTokenCandidate (auth : CombinedAuth) (raw token : String) : Prop where
  stripped : stripBearerPrefix raw = .ok token
  prefixed : startsWith token auth.apiTokens.tokenPrefix = true
  refused : '.' ∉ token.toList ∨
    auth.accessTokens.authenticateBearer raw = .error .invalidAccessToken

/-- The store is asked about a candidate only, and for nothing but its hash. -/
def candidateGuard (auth : CombinedAuth) (raw : String) (_ : History apiTokenSignature)
    (op : ApiTokenOp) : Prop :=
  ∃ token, ApiTokenCandidate auth raw token ∧
    ∀ tokenHash, op = .findApiTokenByHash tokenHash → tokenHash = auth.apiTokens.hashApiToken token

/-- An API-token principal is injected for a candidate only. -/
def candidatePost (auth : CombinedAuth) (raw : String) (_ : History apiTokenSignature) :
    AuthResult RequestData → Prop
  | .ok request => ∀ principal, request.principal = some (.apiToken principal) →
      ∃ token, ApiTokenCandidate auth raw token
  | .error _ => True

section Routing

variable {auth : CombinedAuth} {raw token : String} {e : AuthError}

theorem injectApiToken_upholds (stripped : stripBearerPrefix raw = .ok token)
    (refused : '.' ∉ token.toList ∨
      auth.accessTokens.authenticateBearer raw = .error .invalidAccessToken)
    (request : RequestData) (metadata : ClientMetadata) :
    Upholds (candidateGuard auth raw) (candidatePost auth raw) []
      (auth.injectApiToken request token metadata) := by
  apply Fallible.Upholds.bind
  refine Fallible.Upholds.branch (fun _ => trivial) fun prefixed => ?_
  have candidate : ApiTokenCandidate auth raw token := ⟨stripped, by simpa using prefixed, refused⟩
  apply Fallible.Upholds.bind
  apply Upholds.await ⟨token, candidate, fun tokenHash same => by cases same; rfl⟩
  rintro (e | _ | stored)
  · trivial
  · trivial
  · refine Fallible.Upholds.branch (fun _ => trivial) fun _ => ?_
    apply Fallible.Upholds.perform_bind ⟨token, candidate, fun tokenHash same => by cases same⟩
    intro now
    refine Fallible.Upholds.branch (fun _ => trivial) fun _ => ?_
    apply Fallible.Upholds.perform_bind ⟨token, candidate, fun tokenHash same => by cases same⟩
    intro usedAt
    apply Fallible.Upholds.bind
    apply Upholds.await ⟨token, candidate, fun tokenHash same => by cases same⟩
    rintro (e | ⟨⟩)
    · trivial
    · exact fun _ _ => ⟨token, candidate⟩

theorem injectHttpAuth_of_undotted (stripped : stripBearerPrefix raw = .ok token)
    (undotted : '.' ∉ token.toList) (request : RequestData) (metadata : ClientMetadata) :
    auth.injectHttpAuth request (some raw) metadata =
      auth.injectApiToken request token metadata := by
  have absent : token.toList.contains '.' = false := by simpa using undotted
  simp only [CombinedAuth.injectHttpAuth, stripped]
  exact if_neg (by rw [absent]; decide)

theorem injectHttpAuth_of_error (stripped : stripBearerPrefix raw = .ok token)
    (dotted : '.' ∈ token.toList) (refused : auth.accessTokens.authenticateBearer raw = .error e)
    (request : RequestData) (metadata : ClientMetadata) :
    auth.injectHttpAuth request (some raw) metadata =
      if e = .invalidAccessToken ∧ startsWith token auth.apiTokens.tokenPrefix then
        auth.injectApiToken request token metadata
      else Fallible.fail e := by
  have present : token.toList.contains '.' = true := List.contains_iff_mem.mpr dotted
  simp only [CombinedAuth.injectHttpAuth, stripped]
  refine (if_pos present).trans ?_
  rw [refused]
  cases e <;> rfl

theorem injectHttpAuth_of_user (stripped : stripBearerPrefix raw = .ok token)
    (dotted : '.' ∈ token.toList) {user : AuthUser}
    (accepted : auth.accessTokens.authenticateBearer raw = .ok user)
    (request : RequestData) (metadata : ClientMetadata) :
    auth.injectHttpAuth request (some raw) metadata =
      ret (.ok (injectUser request ⟨auth.accessTokens.scopeMatcher⟩ user)) := by
  have present : token.toList.contains '.' = true := List.contains_iff_mem.mpr dotted
  simp only [CombinedAuth.injectHttpAuth, stripped]
  refine (if_pos present).trans ?_
  rw [accepted]
  rfl

end Routing

theorem injectHttpAuth_upholds (auth : CombinedAuth) (raw : String) (request : RequestData)
    (metadata : ClientMetadata) :
    Upholds (candidateGuard auth raw) (candidatePost auth raw) []
      (auth.injectHttpAuth request (some raw) metadata) := by
  cases stripped : stripBearerPrefix raw with
  | error e =>
      simp only [CombinedAuth.injectHttpAuth, stripped]
      trivial
  | ok token =>
      rcases em ('.' ∈ token.toList) with dotted | undotted
      · cases outcome : auth.accessTokens.authenticateBearer raw with
        | ok user =>
            rw [injectHttpAuth_of_user stripped dotted outcome]
            rintro principal ⟨⟩
        | error e =>
            rw [injectHttpAuth_of_error stripped dotted outcome]
            refine Fallible.Upholds.branch (fun candidate => ?_) fun _ => trivial
            rw [candidate.1] at outcome
            exact injectApiToken_upholds stripped (.inr outcome) request metadata
      · rw [injectHttpAuth_of_undotted stripped undotted]
        exact injectApiToken_upholds stripped (.inl undotted) request metadata

/--
Headers are routed by the shape of the token: an API token is looked up for a
candidate only, errors of the user validator are kept, every issued token is
looked up as issued, and the token of a header is its one word.
-/
theorem combined_credential_routing (auth : CombinedAuth) :
    (∀ input token, stripBearerPrefix input = .ok token ↔ BearerCredential input token) ∧
    (∀ raw request metadata, Upholds (candidateGuard auth raw) (candidatePost auth raw) []
      (auth.injectHttpAuth request (some raw) metadata)) ∧
    (∀ raw token e request metadata, stripBearerPrefix raw = .ok token → '.' ∈ token.toList →
      auth.accessTokens.authenticateBearer raw = .error e →
      e ≠ .invalidAccessToken ∨ startsWith token auth.apiTokens.tokenPrefix = false →
      auth.injectHttpAuth request (some raw) metadata = ret (.error e)) ∧
    (∀ issueRequest h issued,
      Path (auth.apiTokens.issueToken issueRequest) h (ret (.ok issued)) →
      ∀ raw request metadata, CarriesToken raw issued.token →
        auth.injectHttpAuth request (some raw) metadata =
          auth.injectApiToken request issued.token metadata ∧
        ∃ next, auth.injectHttpAuth request (some raw) metadata =
          call (S := apiTokenSignature)
            (.findApiTokenByHash (auth.apiTokens.hashApiToken issued.token)) next) := by
  refine ⟨fun _ _ => stripBearerPrefix_eq_ok, injectHttpAuth_upholds auth, ?_, ?_⟩
  · intro raw token e request metadata stripped dotted refused kept
    rw [injectHttpAuth_of_error stripped dotted refused]
    refine if_neg ?_
    rintro ⟨same, prefixed⟩
    rcases kept with other | unprefixed
    · exact other same
    · rw [unprefixed] at prefixed
      cases prefixed
  · intro issueRequest h issued path raw request metadata carries
    have issuable := Yields.of_path (issueToken_yields auth.apiTokens issueRequest) path
    have routed : auth.injectHttpAuth request (some raw) metadata =
        auth.injectApiToken request issued.token metadata :=
      injectHttpAuth_of_undotted (issuable.stripped carries) issuable.undotted request metadata
    refine ⟨routed, ?_⟩
    rw [routed]
    have kept : ¬(!startsWith issued.token auth.apiTokens.tokenPrefix) = true := by
      rw [issuable.prefixed]
      decide
    simp only [CombinedAuth.injectApiToken, ApiTokenService.authenticateToken, if_neg kept]
    exact ⟨_, rfl⟩

def sampleIssuer : ApiTokenService where
  hashApiToken token := "sha256:" ++ token
  tokenPrefix := "agql_api_"
  prefixValid := by decide +kernel

def sampleIssueRequest : ApiTokenIssueRequest where
  displayName := "ci"
  subject := "build"
  principalKind := ⟨"service"⟩
  scopes := ["deploy"]
  ttl := .ofSeconds 3600
  audience := none
  resourceType := none
  resourceId := none
  metadata := {}

/-- API tokens of a prefix beside a validator that has seen every access token expire. -/
def expiredAuth : CombinedAuth where
  accessTokens := {
    authenticateBearer _ := .error .accessTokenExpired
    scopeMatcher := exactScopeMatch }
  apiTokens := sampleIssuer

def sampleIssueAnswer : (op : apiTokenSignature.Op) → Option (apiTokenSignature.Resp op)
  | .now => some (OffsetDateTime.atSecond 0)
  | .newUuid => some (⟨7⟩ : Uuid)
  | .fillBytes length => some (Vector.replicate length (7 : UInt8))
  | .insertApiToken _ => some (.ok () : AuthResult Unit)
  | _ => none

/--
An issued token is looked up although it comes in a scheme of mixed case between
blanks; an expired access token is not, although it has the prefix.
-/
theorem issued_token_routed : ∃ issued : IssuedApiToken,
    (∃ next, expiredAuth.injectHttpAuth {} (some (" bEARER\t" ++ issued.token ++ " ")) {} =
      call (S := apiTokenSignature)
        (.findApiTokenByHash (expiredAuth.apiTokens.hashApiToken issued.token)) next) ∧
      expiredAuth.injectHttpAuth {} (some "Bearer agql_api_a.b.c") {} =
        ret (.error .accessTokenExpired) := by
  obtain ⟨-, -, kept, routed⟩ := combined_credential_routing expiredAuth
  obtain ⟨h, result, path, passed⟩ := exists_path_of_finish
    (expiredAuth.apiTokens.issueToken sampleIssueRequest) sampleIssueAnswer
    (fun issued => issued.toOption.isSome) (by decide +kernel)
  cases result with
  | error e => cases passed
  | ok issued =>
      refine ⟨issued, (routed _ _ _ path _ _ _ ?_).2, ?_⟩
      · refine ⟨" ", " ", by decide, by decide, .inr ⟨"bEARER", "\t", ?_⟩⟩
        refine ⟨by decide, by decide, by decide, ?_⟩
        simp [← String.append_assoc]
      · exact kept _ "agql_api_a.b.c" _ _ _ (by decide +kernel) (by decide) rfl (.inl nofun)

end AgqlAuth
