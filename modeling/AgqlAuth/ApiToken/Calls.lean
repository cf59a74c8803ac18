import AgqlAuth.Interaction.Sum
import AgqlAuth.Service.ApiToken

/-!
# The calls of an API-token service

Issue, authentication with its request injections, and revocation, with what each
has seen of the store when it returns.
-/

namespace AgqlAuth

open Interaction Program

inductive ApiTokenRevocationReason where
  | manual
  | expired
  | principalRevoked
  | resourceRevoked
  deriving DecidableEq

inductive RevocationOp where
  | revokeApiToken (tokenId : Uuid) (revokedAt : OffsetDateTime) (reason : ApiTokenRevocationReason)

def RevocationOp.Resp : RevocationOp → Type
  | .revokeApiToken .. => AuthResult Unit

abbrev apiTokenStoreSignature : Signature :=
  apiTokenSignature.sum ⟨RevocationOp, RevocationOp.Resp⟩

/-- Programs that may also revoke. -/
abbrev ApiTokenStoreM (α : Type) := Fallible apiTokenStoreSignature AuthError α

namespace ApiTokenService

def authenticateBearer (self : ApiTokenService) (bearerOrToken : String)
    (metadata : ClientMetadata) : ApiTokenM ApiTokenPrincipal := do
  let token ← Program.ret (stripBearerPrefix bearerOrToken)
  self.authenticateToken token metadata

def revokeToken (_self : ApiTokenService) (tokenId : Uuid) (reason : ApiTokenRevocationReason) :
    ApiTokenStoreM Unit := do
  let now : OffsetDateTime ← Fallible.perform (S := apiTokenStoreSignature) (.inl .now)
  call (S := apiTokenStoreSignature) (.inr (.revokeApiToken tokenId now reason)) ret

def injectHttpAuth (self : ApiTokenService) (request : RequestData)
    (bearerOrToken : Option String) (metadata : ClientMetadata) : ApiTokenM RequestData :=
  match bearerOrToken with
  | none => pure request
  | some raw => do
      let principal ← self.authenticateBearer raw metadata
      pure { request with principal := some (.apiToken principal), apiToken := some principal }

end ApiTokenService

inductive ApiTokenCall where
  | issue (request : ApiTokenIssueRequest)
  | authenticate (token : String) (metadata : ClientMetadata)
  | authenticateBearer (bearerOrToken : String) (metadata : ClientMetadata)
  | inject (request : RequestData) (bearerOrToken : Option String) (metadata : ClientMetadata)
  | injectCombined (accessTokens : AccessTokenAuth) (request : RequestData)
      (authorization : Option String) (metadata : ClientMetadata)
  | revoke (tokenId : Uuid) (reason : ApiTokenRevocationReason)

inductive ApiTokenReturn where
  | issued (token : IssuedApiToken)
  | principal (principal : ApiTokenPrincipal)
  | request (data : RequestData)
  | revoked

namespace ApiTokenCall

/-- A program of the service that never revokes. -/
def unrevoking {α : Type} (wrap : α → ApiTokenReturn) (p : ApiTokenM α) :
    ApiTokenStoreM ApiTokenReturn :=
  Fallible.widen id p >>= fun value => pure (wrap value)

def program (svc : ApiTokenService) : ApiTokenCall → ApiTokenStoreM ApiTokenReturn
  | issue request => unrevoking .issued (svc.issueToken request)
  | authenticate token metadata => unrevoking .principal (svc.authenticateToken token metadata)
  | authenticateBearer bearerOrToken metadata =>
      unrevoking .principal (svc.authenticateBearer bearerOrToken metadata)
  | inject request bearerOrToken metadata =>
      unrevoking .request (svc.injectHttpAuth request bearerOrToken metadata)
  | injectCombined accessTokens request authorization metadata =>
      unrevoking .request
        (CombinedAuth.injectHttpAuth ⟨accessTokens, svc⟩ request authorization metadata)
  | revoke tokenId reason => do
      svc.revokeToken tokenId reason
      pure .revoked

/-- The token that a call looks up. -/
inductive Presents : ApiTokenCall → String → Prop where
  | authenticate {token : String} {metadata : ClientMetadata} :
      Presents (.authenticate token metadata) token
  | bearer {raw token : String} {metadata : ClientMetadata}
      (stripped : stripBearerPrefix raw = .ok token) :
      Presents (.authenticateBearer raw metadata) token
  | inject {request : RequestData} {raw token : String} {metadata : ClientMetadata}
      (stripped : stripBearerPrefix raw = .ok token) :
      Presents (.inject request (some raw) metadata) token
  | injectCombined {accessTokens : AccessTokenAuth} {request : RequestData} {raw token : String}
      {metadata : ClientMetadata} (stripped : stripBearerPrefix raw = .ok token) :
      Presents (.injectCombined accessTokens request (some raw) metadata) token

/--
A slot of `data` holds the principal of a token that it did not hold in `request`:
the slot of API tokens, or the one of all principals, which its accessor reads first.
-/
inductive Gains (request data : RequestData) (principal : ApiTokenPrincipal) : Prop where
  | apiToken (without : request.apiToken ≠ some principal)
      (injected : data.apiToken = some principal) : Gains request data principal
  | principal (without : request.principal ≠ some (.apiToken principal))
      (injected : data.principal = some (.apiToken principal)) : Gains request data principal

/-- A request that is left as it was gains nothing. -/
theorem Gains.irrefl {request : RequestData} {principal : ApiTokenPrincipal} :
    ¬Gains request request principal := by
  rintro (⟨without, injected⟩ | ⟨without, injected⟩) <;> exact without injected

/-- Only the principal that was put into both slots is gained. -/
theorem Gains.injected_eq {request data : RequestData} {principal admitted : ApiTokenPrincipal}
    (gains : Gains request data principal) (slot : data.principal = some (.apiToken admitted))
    (tokenSlot : data.apiToken = some admitted) : admitted = principal := by
  rcases gains with ⟨-, injected⟩ | ⟨-, injected⟩
  · cases tokenSlot.symm.trans injected
    rfl
  · cases slot.symm.trans injected
    rfl

/-- A call's return speaks for `principal`, or injects it into its request. -/
inductive Grants : ApiTokenCall → ApiTokenReturn → ApiTokenPrincipal → Prop where
  | authenticate {token : String} {metadata : ClientMetadata} {principal : ApiTokenPrincipal} :
      Grants (.authenticate token metadata) (.principal principal) principal
  | bearer {raw : String} {metadata : ClientMetadata} {principal : ApiTokenPrincipal} :
      Grants (.authenticateBearer raw metadata) (.principal principal) principal
  | inject {request data : RequestData} {bearerOrToken : Option String}
      {metadata : ClientMetadata} {principal : ApiTokenPrincipal}
      (gains : Gains request data principal) :
      Grants (.inject request bearerOrToken metadata) (.request data) principal
  | injectCombined {accessTokens : AccessTokenAuth} {request data : RequestData}
      {authorization : Option String} {metadata : ClientMetadata} {principal : ApiTokenPrincipal}
      (gains : Gains request data principal) :
      Grants (.injectCombined accessTokens request authorization metadata) (.request data) principal

end ApiTokenCall

abbrev ApiTokenEvent := Event apiTokenSignature

abbrev ApiTokenHistory := History apiTokenSignature

def foundApiToken (tokenHash : String) (found : AuthResult (Option StoredApiToken)) :
    ApiTokenEvent :=
  ⟨.findApiTokenByHash tokenHash, found⟩

def insertedApiToken (record : StoredApiToken) (result : AuthResult Unit) : ApiTokenEvent :=
  ⟨.insertApiToken record, result⟩

def touchedApiToken (tokenId : Uuid) (usedAt : OffsetDateTime) (metadata : ClientMetadata)
    (result : AuthResult Unit) : ApiTokenEvent :=
  ⟨.touchApiToken tokenId usedAt metadata.ipAddress metadata.userAgent, result⟩

def apiTokenClock (now : OffsetDateTime) : ApiTokenEvent := ⟨.now, now⟩

namespace ApiTokenService

/-- The record of an issued token. -/
def record (self : ApiTokenService) (request : ApiTokenIssueRequest)
    (now expiresAt : OffsetDateTime) (tokenId : Uuid) (rawToken : String) : StoredApiToken where
  id := tokenId
  tokenHash := self.hashApiToken rawToken
  displayName := request.displayName
  subject := request.subject
  principalKind := request.principalKind
  scopes := request.scopes
  audience := request.audience
  resourceType := request.resourceType
  resourceId := request.resourceId
  createdAt := now
  expiresAt
  lastUsedAt := none
  revokedAt := none
  userAgent := request.metadata.userAgent
  ipAddress := request.metadata.ipAddress

/-- How the service came by a record that it inserts. -/
structure Drafts (svc : ApiTokenService) (seen : ApiTokenEvent → Prop)
    (request : ApiTokenIssueRequest) (rawToken : String) (record : StoredApiToken) : Prop where
  valid : validateIssueRequest request = .ok ()
  secret : ∃ bytes : Vector UInt8 48, seen ⟨.fillBytes 48, bytes⟩ ∧
    rawToken = svc.tokenPrefix ++ base64UrlSafeNoPad bytes.toList
  clock : seen (apiTokenClock record.createdAt)
  expires : checkedExpiry record.createdAt request.ttl "API-token ttl" = .ok record.expiresAt
  generated : seen ⟨.newUuid, record.id⟩
  same : record = svc.record request record.createdAt record.expiresAt record.id rawToken

/-- A record was found under the token, unrevoked and not expired. -/
structure Admits (svc : ApiTokenService) (seen : ApiTokenEvent → Prop) (token : String)
    (record : StoredApiToken) : Prop where
  named : startsWith token svc.tokenPrefix = true
  found : seen (foundApiToken (svc.hashApiToken token) (.ok (some record)))
  unrevoked : record.revokedAt = none
  current : ∃ now, seen (apiTokenClock now) ∧ now < record.expiresAt

/-- How the authentication of a token ends. -/
inductive Authenticates (self : ApiTokenService) (seen : ApiTokenEvent → Prop) (token : String) :
    AuthResult ApiTokenPrincipal → Prop where
  | admitted {record : StoredApiToken} (admits : self.Admits seen token record) :
      Authenticates self seen token (.ok record.toPrincipal)
  | foreign (foreign : startsWith token self.tokenPrefix = false) :
      Authenticates self seen token (.error .invalidApiToken)
  | unknown (unknown : seen (foundApiToken (self.hashApiToken token) (.ok none))) :
      Authenticates self seen token (.error .invalidApiToken)
  | revoked {record : StoredApiToken}
      (found : seen (foundApiToken (self.hashApiToken token) (.ok (some record))))
      (revoked : record.revokedAt ≠ none) :
      Authenticates self seen token (.error .apiTokenRevoked)
  | expired {record : StoredApiToken} {now : OffsetDateTime}
      (found : seen (foundApiToken (self.hashApiToken token) (.ok (some record))))
      (clock : seen (apiTokenClock now)) (expired : record.expiresAt ≤ now) :
      Authenticates self seen token (.error .apiTokenExpired)
  | lookupFailed {e : AuthError}
      (failed : seen (foundApiToken (self.hashApiToken token) (.error e))) :
      Authenticates self seen token (.error e)
  | touchFailed {e : AuthError} {tokenId : Uuid} {usedAt : OffsetDateTime}
      {metadata : ClientMetadata} (failed : seen (touchedApiToken tokenId usedAt metadata (.error e))) :
      Authenticates self seen token (.error e)

end ApiTokenService

/-- The operations of an authentication. -/
def ApiTokenOp.reads : ApiTokenOp → Bool
  | .now => true
  | .findApiTokenByHash _ => true
  | .touchApiToken .. => true
  | _ => false

variable (svc : ApiTokenService) (h : ApiTokenHistory)

theorem authenticateToken_reads (token : String) (metadata : ClientMetadata) :
    Upholds (S := apiTokenSignature) (fun _ op => op.reads = true)
      (fun h => svc.Authenticates (· ∈ h) token) h (svc.authenticateToken token metadata) := by
  apply Fallible.Upholds.branch
  · intro foreign
    exact .foreign (by simpa using foreign)
  · intro named
    have named : startsWith token svc.tokenPrefix = true := by simpa using named
    apply Fallible.Upholds.bind
    apply Upholds.await rfl
    rintro (e | found)
    · exact .lookupFailed List.mem_cons_self
    cases found with
    | none => exact .unknown List.mem_cons_self
    | some record =>
        have found : foundApiToken (svc.hashApiToken token) (.ok (some record)) ∈
            foundApiToken (svc.hashApiToken token) (.ok (some record)) :: h := List.mem_cons_self
        apply Fallible.Upholds.branch
        · intro revoked
          refine .revoked found fun unrevoked => ?_
          simp [StoredApiToken.isRevoked, unrevoked] at revoked
        · intro unrevoked
          have unrevoked : record.revokedAt = none := by
            simpa [StoredApiToken.isRevoked] using unrevoked
          apply Fallible.Upholds.perform_bind rfl
          intro (now : OffsetDateTime)
          apply Fallible.Upholds.branch
          · intro expired
            refine .expired (List.mem_cons_of_mem _ found) List.mem_cons_self ?_
            simpa [StoredApiToken.isExpired] using expired
          · intro current
            have current : now < record.expiresAt := by
              simpa [StoredApiToken.isExpired] using current
            apply Fallible.Upholds.perform_bind rfl
            intro (usedAt : OffsetDateTime)
            apply Fallible.Upholds.bind
            apply Upholds.await rfl
            rintro (e | _)
            · exact .touchFailed List.mem_cons_self
            · refine .admitted ⟨named, ?_, unrevoked, now, ?_, current⟩
              · exact List.mem_cons_of_mem _ (List.mem_cons_of_mem _ (List.mem_cons_of_mem _ found))
              · exact List.mem_cons_of_mem _ (List.mem_cons_of_mem _ List.mem_cons_self)

/-- A header or token was read as a token that was admitted for `principal`. -/
def ApiTokenService.Speaks (self : ApiTokenService) (seen : ApiTokenEvent → Prop) (raw : String)
    (principal : ApiTokenPrincipal) : Prop :=
  ∃ token record, stripBearerPrefix raw = .ok token ∧ self.Admits seen token record ∧
    record.toPrincipal = principal

/-- Whatever a request gains it gains from its header. -/
def ApiTokenService.Injects (self : ApiTokenService) (seen : ApiTokenEvent → Prop)
    (request : RequestData) (header : Option String) : AuthResult RequestData → Prop
  | .ok data => ∀ principal, ApiTokenCall.Gains request data principal →
      ∃ raw, header = some raw ∧ self.Speaks seen raw principal
  | .error _ => True

theorem authenticateBearer_reads (raw : String) (metadata : ClientMetadata) :
    Upholds (S := apiTokenSignature) (fun _ op => op.reads = true)
      (fun h result => ∀ principal, result = .ok principal → svc.Speaks (· ∈ h) raw principal) h
      (svc.authenticateBearer raw metadata) := by
  apply Fallible.Upholds.lift_bind
  case error =>
    intro e _ principal same
    cases same
  intro token stripped
  refine (authenticateToken_reads svc h token metadata).mono (fun _ _ reads => reads) ?_
  rintro h' result ended principal rfl
  cases ended with
  | admitted admits => exact ⟨token, _, stripped, admits, rfl⟩

theorem injectHttpAuth_reads (request : RequestData) (header : Option String)
    (metadata : ClientMetadata) :
    Upholds (S := apiTokenSignature) (fun _ op => op.reads = true)
      (fun h => svc.Injects (· ∈ h) request header) h
      (svc.injectHttpAuth request header metadata) := by
  cases header with
  | none => exact fun _ gains => absurd gains ApiTokenCall.Gains.irrefl
  | some raw =>
      apply Fallible.Upholds.bind
      refine (authenticateBearer_reads svc h raw metadata).mono (fun _ _ reads => reads) ?_
      rintro h' (e | admitted) speaks
      · trivial
      · intro principal gains
        obtain rfl := gains.injected_eq rfl rfl
        exact ⟨raw, rfl, speaks _ rfl⟩

theorem injectApiToken_reads (accessTokens : AccessTokenAuth) (request : RequestData)
    {raw token : String} (stripped : stripBearerPrefix raw = .ok token)
    (metadata : ClientMetadata) :
    Upholds (S := apiTokenSignature) (fun _ op => op.reads = true)
      (fun h => svc.Injects (· ∈ h) request (some raw)) h
      (CombinedAuth.injectApiToken ⟨accessTokens, svc⟩ request token metadata) := by
  apply Fallible.Upholds.bind
  refine (authenticateToken_reads svc h token metadata).mono (fun _ _ reads => reads) ?_
  rintro h' (e | admitted) ended
  · trivial
  · intro principal gains
    obtain rfl := gains.injected_eq rfl rfl
    cases ended with
    | admitted admits => exact ⟨raw, rfl, token, _, stripped, admits, rfl⟩

theorem combined_reads (accessTokens : AccessTokenAuth) (request : RequestData)
    (header : Option String) (metadata : ClientMetadata) :
    Upholds (S := apiTokenSignature) (fun _ op => op.reads = true)
      (fun h => svc.Injects (· ∈ h) request header) h
      (CombinedAuth.injectHttpAuth ⟨accessTokens, svc⟩ request header metadata) := by
  have kept : ∀ (h : ApiTokenHistory) (runtime : AuthRuntime) (user : AuthUser),
      svc.Injects (· ∈ h) request header (.ok (injectUser request runtime user)) := by
    rintro h runtime user principal (⟨without, injected⟩ | ⟨without, ⟨⟩⟩)
    exact absurd injected without
  cases header with
  | none => exact fun _ gains => absurd gains ApiTokenCall.Gains.irrefl
  | some raw =>
      refine Fallible.Upholds.lift_bind (fun token stripped => ?_) fun e _ => trivial
      have opaqueToken := injectApiToken_reads svc h accessTokens request stripped metadata
      apply Fallible.Upholds.branch
      · intro _
        cases accessTokens.authenticateBearer raw with
        | ok user => exact kept h _ user
        | error e =>
            cases e with
            | accessTokenExpired => exact trivial
            | _ => exact Fallible.Upholds.branch (fun _ => opaqueToken) fun _ => trivial
      · exact fun _ => opaqueToken

/-- The token that is handed out for a record. -/
def StoredApiToken.handOut (self : StoredApiToken) (rawToken : String) : IssuedApiToken where
  tokenId := self.id
  token := rawToken
  displayName := self.displayName
  subject := self.subject
  principalKind := self.principalKind
  scopes := self.scopes
  audience := self.audience
  resourceType := self.resourceType
  resourceId := self.resourceId
  createdAt := self.createdAt
  expiresAt := self.expiresAt

def ApiTokenOp.inserts : ApiTokenOp → Bool
  | .insertApiToken _ => true
  | _ => false

/-- The operations of an issue: it inserts one record, under an identifier that it drew. -/
def ApiTokenService.issueGuard (self : ApiTokenService) (request : ApiTokenIssueRequest)
    (h : ApiTokenHistory) : ApiTokenOp → Prop
  | .insertApiToken record =>
      (∃ rawToken, self.Drafts (· ∈ h) request rawToken record) ∧
        ∀ e ∈ h, ApiTokenOp.inserts e.op = false
  | .findApiTokenByHash _ => False
  | .touchApiToken .. => False
  | _ => True

def ApiTokenService.issuePost (self : ApiTokenService) (request : ApiTokenIssueRequest)
    (h : ApiTokenHistory) : AuthResult IssuedApiToken → Prop
  | .ok issued => ∃ rawToken record, self.Drafts (· ∈ h) request rawToken record ∧
      insertedApiToken record (.ok ()) ∈ h ∧ issued = record.handOut rawToken
  | .error _ => True

theorem issueToken_upholds (request : ApiTokenIssueRequest) :
    Upholds (S := apiTokenSignature) (svc.issueGuard request) (svc.issuePost request) []
      (svc.issueToken request) := by
  refine Fallible.Upholds.lift_bind (fun _ valid => ?_) fun e _ => trivial
  apply Fallible.Upholds.perform_bind trivial
  intro (now : OffsetDateTime)
  refine Fallible.Upholds.lift_bind (fun expiresAt expires => ?_) fun e _ => trivial
  apply Fallible.Upholds.perform_bind trivial
  intro (tokenId : Uuid)
  apply Fallible.Upholds.perform_bind trivial
  intro (bytes : Vector UInt8 48)
  let rawToken := svc.tokenPrefix ++ base64UrlSafeNoPad bytes.toList
  let drawn : ApiTokenHistory := [⟨.fillBytes 48, bytes⟩, ⟨.newUuid, tokenId⟩, apiTokenClock now]
  have drafts : ∀ h : ApiTokenHistory, drawn ⊆ h →
      svc.Drafts (· ∈ h) request rawToken (svc.record request now expiresAt tokenId rawToken) := by
    intro h drawn
    refine ⟨valid, ⟨bytes, drawn List.mem_cons_self, rfl⟩, drawn ?_, expires, drawn ?_, rfl⟩
    · exact List.mem_cons_of_mem _ (List.mem_cons_of_mem _ List.mem_cons_self)
    · exact List.mem_cons_of_mem _ List.mem_cons_self
  apply Fallible.Upholds.bind
  refine Upholds.await ⟨⟨rawToken, drafts _ fun _ mem => mem⟩, ?_⟩ ?_
  · intro e mem
    simp only [List.mem_cons, List.not_mem_nil, or_false] at mem
    rcases mem with rfl | rfl | rfl <;> rfl
  · rintro (e | _)
    · trivial
    · refine ⟨rawToken, _, drafts _ fun _ mem => List.mem_cons_of_mem _ mem, ?_, rfl⟩
      exact List.mem_cons_self

/-! ## Over the store -/

abbrev ApiTokenStoreEvent := Event apiTokenStoreSignature

abbrev ApiTokenStoreHistory := History apiTokenStoreSignature

/-- An event of the service, seen among those of the store. -/
def observed (e : ApiTokenEvent) : ApiTokenStoreEvent :=
  liftEvent (T := ⟨RevocationOp, RevocationOp.Resp⟩) e

def ObservedIn (h : ApiTokenStoreHistory) (e : ApiTokenEvent) : Prop := observed e ∈ h

def revokedApiToken (tokenId : Uuid) (revokedAt : OffsetDateTime)
    (reason : ApiTokenRevocationReason) (result : AuthResult Unit) : ApiTokenStoreEvent :=
  ⟨.inr (.revokeApiToken tokenId revokedAt reason), result⟩

namespace ApiTokenService

variable {self : ApiTokenService} {seen seen' : ApiTokenEvent → Prop}

theorem Drafts.mono {request : ApiTokenIssueRequest} {rawToken : String} {record : StoredApiToken}
    (sub : ∀ e, seen e → seen' e) (drafts : self.Drafts seen request rawToken record) :
    self.Drafts seen' request rawToken record := by
  obtain ⟨bytes, drawn, same⟩ := drafts.secret
  exact { drafts with
    secret := ⟨bytes, sub _ drawn, same⟩
    clock := sub _ drafts.clock
    generated := sub _ drafts.generated }

theorem Admits.mono {token : String} {record : StoredApiToken} (sub : ∀ e, seen e → seen' e)
    (admits : self.Admits seen token record) : self.Admits seen' token record := by
  obtain ⟨now, clock, current⟩ := admits.current
  exact { admits with found := sub _ admits.found, current := ⟨now, sub _ clock, current⟩ }

theorem Authenticates.mono {token : String} {result : AuthResult ApiTokenPrincipal}
    (sub : ∀ e, seen e → seen' e) (ended : self.Authenticates seen token result) :
    self.Authenticates seen' token result := by
  cases ended with
  | admitted admits => exact .admitted (admits.mono sub)
  | foreign foreign => exact .foreign foreign
  | unknown unknown => exact .unknown (sub _ unknown)
  | revoked found revoked => exact .revoked (sub _ found) revoked
  | expired found clock expired => exact .expired (sub _ found) (sub _ clock) expired
  | lookupFailed failed => exact .lookupFailed (sub _ failed)
  | touchFailed failed => exact .touchFailed (sub _ failed)

end ApiTokenService

namespace ApiTokenCall

def inserts : apiTokenStoreSignature.Op → Bool
  | .inl op => op.inserts
  | .inr _ => false

/-- Only an issue inserts, once and under its own identifier, and only a revocation revokes. -/
def guard (svc : ApiTokenService) (call : ApiTokenCall) (h : ApiTokenStoreHistory) :
    apiTokenStoreSignature.Op → Prop
  | .inl (.insertApiToken record) =>
      (∃ request rawToken, call = .issue request ∧
        svc.Drafts (ObservedIn h) request rawToken record) ∧ ∀ e ∈ h, inserts e.op = false
  | .inr (.revokeApiToken tokenId _ reason) => call = .revoke tokenId reason
  | _ => True

/-- How a call ends. -/
def Ended (svc : ApiTokenService) (h : ApiTokenStoreHistory) :
    ApiTokenCall → AuthResult ApiTokenReturn → Prop
  | .issue request, .ok answer => ∃ rawToken record,
      svc.Drafts (ObservedIn h) request rawToken record ∧
        ObservedIn h (insertedApiToken record (.ok ())) ∧ answer = .issued (record.handOut rawToken)
  | .authenticate token _, result => ∃ ended, svc.Authenticates (ObservedIn h) token ended ∧
      result = ended.map .principal
  | .revoke tokenId reason, .ok _ => ∃ revokedAt,
      revokedApiToken tokenId revokedAt reason (.ok ()) ∈ h
  | other, .ok answer => ∀ principal, other.Grants answer principal → ∃ token record,
      other.Presents token ∧ svc.Admits (ObservedIn h) token record ∧ record.toPrincipal = principal
  | _, .error _ => True

variable {svc : ApiTokenService}

attribute [local irreducible] trim

/-- A call that only reads satisfies every guard. -/
theorem unrevoking_upholds {α : Type} {call : ApiTokenCall} {p : ApiTokenM α}
    {wrap : α → ApiTokenReturn} {post : ApiTokenHistory → AuthResult α → Prop}
    (holds : Upholds (S := apiTokenSignature) (fun _ op => op.reads = true) post [] p)
    (ended : ∀ h result, post h result →
      Ended svc (h.map observed) call (result.map wrap)) :
    Upholds (S := apiTokenStoreSignature) (guard svc call) (fun h => Ended svc h call) []
      (unrevoking wrap p) := by
  apply Fallible.Upholds.bind
  apply Fallible.Upholds.widen
  refine holds.mono (fun h op reads => ?_) fun h result returned => ?_
  · cases op with
    | insertApiToken record => cases reads
    | _ => trivial
  · rw [List.append_nil]
    have ended := ended h result returned
    cases result with
    | ok value => exact ended
    | error e => exact ended

theorem observed_of_mem {h : ApiTokenHistory} (e : ApiTokenEvent) (mem : e ∈ h) :
    ObservedIn (h.map observed) e :=
  List.mem_map_of_mem mem

theorem authenticate_upholds (token : String) (metadata : ClientMetadata) :
    Upholds (S := apiTokenStoreSignature) (guard svc (.authenticate token metadata))
      (fun h => Ended svc h (.authenticate token metadata)) []
      (program svc (.authenticate token metadata)) :=
  unrevoking_upholds (authenticateToken_reads svc [] token metadata)
    fun _ result ended => ⟨result, ended.mono observed_of_mem, rfl⟩

theorem authenticateBearer_upholds (raw : String) (metadata : ClientMetadata) :
    Upholds (S := apiTokenStoreSignature) (guard svc (.authenticateBearer raw metadata))
      (fun h => Ended svc h (.authenticateBearer raw metadata)) []
      (program svc (.authenticateBearer raw metadata)) := by
  refine unrevoking_upholds (authenticateBearer_reads svc [] raw metadata) ?_
  rintro h (e | admitted) speaks
  · trivial
  · rintro principal ⟨⟩
    obtain ⟨token, record, stripped, admits, same⟩ := speaks _ rfl
    exact ⟨token, record, .bearer stripped, admits.mono observed_of_mem, same⟩

theorem inject_upholds (request : RequestData) (header : Option String)
    (metadata : ClientMetadata) :
    Upholds (S := apiTokenStoreSignature) (guard svc (.inject request header metadata))
      (fun h => Ended svc h (.inject request header metadata)) []
      (program svc (.inject request header metadata)) := by
  refine unrevoking_upholds (injectHttpAuth_reads svc [] request header metadata) ?_
  rintro h (e | data) injects
  · trivial
  · intro principal grants
    cases grants with
    | inject gains =>
        obtain ⟨raw, rfl, token, record, stripped, admits, same⟩ := injects principal gains
        exact ⟨token, record, .inject stripped, admits.mono observed_of_mem, same⟩

theorem injectCombined_upholds (accessTokens : AccessTokenAuth) (request : RequestData)
    (header : Option String) (metadata : ClientMetadata) :
    Upholds (S := apiTokenStoreSignature)
      (guard svc (.injectCombined accessTokens request header metadata))
      (fun h => Ended svc h (.injectCombined accessTokens request header metadata)) []
      (program svc (.injectCombined accessTokens request header metadata)) := by
  refine unrevoking_upholds (combined_reads svc [] accessTokens request header metadata) ?_
  rintro h (e | data) injects
  · trivial
  · intro principal grants
    cases grants with
    | injectCombined gains =>
        obtain ⟨raw, rfl, token, record, stripped, admits, same⟩ := injects principal gains
        exact ⟨token, record, .injectCombined stripped, admits.mono observed_of_mem, same⟩

theorem issue_upholds (request : ApiTokenIssueRequest) :
    Upholds (S := apiTokenStoreSignature) (guard svc (.issue request))
      (fun h => Ended svc h (.issue request)) [] (program svc (.issue request)) := by
  apply Fallible.Upholds.bind
  apply Fallible.Upholds.widen
  refine (issueToken_upholds svc request).mono (fun h op issued => ?_) fun h result ended => ?_
  · rw [List.append_nil]
    cases op with
    | insertApiToken record =>
        obtain ⟨⟨rawToken, drafts⟩, first⟩ := issued
        refine ⟨⟨request, rawToken, rfl, drafts.mono observed_of_mem⟩, fun e mem => ?_⟩
        obtain ⟨e', mem', rfl⟩ := List.mem_map.mp mem
        exact first e' mem'
    | _ => trivial
  · rw [List.append_nil]
    cases result with
    | error e => exact trivial
    | ok issued =>
        obtain ⟨rawToken, record, drafts, inserted, rfl⟩ := ended
        exact ⟨rawToken, record, drafts.mono observed_of_mem, observed_of_mem _ inserted, rfl⟩

theorem revoke_upholds (tokenId : Uuid) (reason : ApiTokenRevocationReason) :
    Upholds (S := apiTokenStoreSignature) (guard svc (.revoke tokenId reason))
      (fun h => Ended svc h (.revoke tokenId reason)) []
      (program svc (.revoke tokenId reason)) := by
  apply Fallible.Upholds.bind
  apply Fallible.Upholds.perform_bind trivial
  intro (now : OffsetDateTime)
  refine Upholds.await rfl ?_
  rintro (e | _)
  · trivial
  · exact ⟨now, List.mem_cons_self⟩

theorem upholds (svc : ApiTokenService) (call : ApiTokenCall) :
    Upholds (S := apiTokenStoreSignature) (guard svc call) (fun h => Ended svc h call) []
      (program svc call) := by
  cases call with
  | issue request => exact issue_upholds request
  | authenticate token metadata => exact authenticate_upholds token metadata
  | authenticateBearer raw metadata => exact authenticateBearer_upholds raw metadata
  | inject request header metadata => exact inject_upholds request header metadata
  | injectCombined accessTokens request header metadata =>
      exact injectCombined_upholds accessTokens request header metadata
  | revoke tokenId reason => exact revoke_upholds tokenId reason

/-- Whoever is granted a principal looked its record up. -/
theorem Ended.admits {h : ApiTokenStoreHistory} {call : ApiTokenCall} {answer : ApiTokenReturn}
    {principal : ApiTokenPrincipal} (ended : Ended svc h call (.ok answer))
    (grants : call.Grants answer principal) : ∃ token record,
      call.Presents token ∧ svc.Admits (ObservedIn h) token record ∧
        record.toPrincipal = principal := by
  cases grants with
  | authenticate =>
      obtain ⟨result, ended, same⟩ := ended
      cases ended with
      | admitted admits =>
          cases same
          exact ⟨_, _, .authenticate, admits, rfl⟩
      | _ => cases same
  | bearer => exact ended _ .bearer
  | inject gains => exact ended _ (.inject gains)
  | injectCombined gains => exact ended _ (.injectCombined gains)

end ApiTokenCall

end AgqlAuth
