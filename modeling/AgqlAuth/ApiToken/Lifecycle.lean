import AgqlAuth.ApiToken.MemoryStore
import AgqlAuth.Credential.Routing

/-!
# The life of an API token

Any number of calls on one store: a principal is granted only on a record that
some call issued and none has since revoked, a revoked token stays refused, and
an issued one is accepted until it expires.
-/

namespace AgqlAuth

open Interaction Program

/-- The calls of a pool, each on its own service instance. -/
abbrev ApiTokenPool (ι : Type) := ι → ApiTokenService × ApiTokenCall

abbrev ApiTokenTrace (ι : Type) := Trace apiTokenStoreSignature ι

section Runs

variable {ι : Type} [DecidableEq ι]

def ApiTokenPool.program (calls : ApiTokenPool ι) (i : ι) : ApiTokenStoreM ApiTokenReturn :=
  (calls i).2.program (calls i).1

variable {calls : ApiTokenPool ι} {c : Config apiTokenStore ι} {i j : ι}

omit [DecidableEq ι] in
theorem ApiTokenPool.verified (calls : ApiTokenPool ι) (i : ι) :
    Upholds (S := apiTokenStoreSignature) (ApiTokenCall.guard (calls i).1 (calls i).2)
      (fun h => ApiTokenCall.Ended (calls i).1 h (calls i).2) [] (calls.program i) :=
  ApiTokenCall.upholds (calls i).1 (calls i).2

abbrev insertion (record : StoredApiToken) (result : AuthResult Unit) : ApiTokenStoreEvent :=
  observed (insertedApiToken record result)

abbrev lookup (tokenHash : String) (found : AuthResult (Option StoredApiToken)) :
    ApiTokenStoreEvent :=
  observed (foundApiToken tokenHash found)

/-- Who inserted a record issued it. -/
theorem issues_of_insertion (reached : Reachable apiTokenStore calls.program c)
    {record : StoredApiToken} {result : AuthResult Unit}
    (mem : insertion record result ∈ c.trace.of i) : ∃ request rawToken,
      (calls i).2 = .issue request ∧
        (calls i).1.Drafts (ObservedIn (c.trace.of i)) request rawToken record := by
  obtain ⟨early, earlier, allowed⟩ := reached.guard_of_mem calls.verified mem
  obtain ⟨⟨request, rawToken, call, drafts⟩, -⟩ := allowed
  exact ⟨request, rawToken, call, drafts.mono fun e mem => earlier.subset mem⟩

/-- No identifier is inserted twice. -/
theorem insertion_once (reached : Reachable apiTokenStore calls.program c)
    {late early : ApiTokenTrace ι} {record record' : StoredApiToken}
    {result result' : AuthResult Unit}
    (share : c.trace = late ++ (i, insertion record result) :: early)
    (mem : insertion record' result' ∈ early.of j) : record'.id ≠ record.id := by
  intro same
  have allowed := reached.guard_at calls.verified share
  obtain ⟨⟨request, rawToken, -, drafts⟩, first⟩ := allowed
  have within : ∀ k, early.of k ⊆ c.trace.of k := by
    intro k e known
    rw [share, Trace.of_append]
    exact List.mem_append_right _ (Trace.mem_of.mpr (List.mem_cons_of_mem _ (Trace.mem_of.mp known)))
  obtain ⟨request', rawToken', -, drafts'⟩ := issues_of_insertion reached (within j mem)
  have one : i = j := by
    refine freshTokenIds.once reached (within i drafts.generated) drafts'.generated rfl ?_
    exact congrArg some same
  subst one
  cases first _ mem

theorem not_reinserted (reached : Reachable apiTokenStore calls.program c)
    {new old : ApiTokenTrace ι} (share : c.trace = new ++ old) {record record' : StoredApiToken}
    {result result' : AuthResult Unit} (mem : insertion record result ∈ old.of j)
    (again : (i, insertion record' result') ∈ new) : record.id ≠ record'.id := by
  obtain ⟨late, early, rfl⟩ := List.append_of_mem again
  have split : c.trace = late ++ (i, insertion record' result') :: (early ++ old) := by
    rw [share, List.append_assoc]
    rfl
  have mem : insertion record result ∈ Trace.of j (early ++ old) :=
    Trace.mem_of.mpr (List.mem_append_right _ (Trace.mem_of.mp mem))
  exact insertion_once reached split mem

/-- A record that was found live stands when it is looked up. -/
theorem stands_of_lookup (reached : Reachable apiTokenStore calls.program c)
    {late early : ApiTokenTrace ι} {tokenHash : String} {record : StoredApiToken}
    (share : c.trace = late ++ (i, lookup tokenHash (.ok (some record))) :: early) :
    record.tokenHash = tokenHash ∧ ∃ s, Reachable apiTokenStore calls.program ⟨early, s⟩ ∧
      s.records record.id = some record := by
  obtain ⟨s, s', before, -, effect, -⟩ := reached.split share
  obtain ⟨-, held, hash⟩ := effect
  exact ⟨hash, s, before, held⟩

theorem since_of_lookup (live : Bool) (reached : Reachable apiTokenStore calls.program c)
    {late early : ApiTokenTrace ι} {tokenHash : String} {record : StoredApiToken}
    (share : c.trace = late ++ (i, lookup tokenHash (.ok (some record))) :: early)
    (unrevoked : live = true → record.revokedAt = none) :
    ∃ j record' result, record'.core = record.core ∧
      (standingRecords live).Since early j (insertion record' result) record.core := by
  obtain ⟨-, s, before, held⟩ := stands_of_lookup reached share
  have stands : Holds live s record.core := ⟨record, held, rfl, unrevoked⟩
  obtain ⟨j, e, since⟩ := (standingRecords live).since_of_stands before stands
  obtain ⟨record', result, rfl, core⟩ := since.proposed
  exact ⟨j, record', result, core, since⟩

/-- The record on which call `i` was granted `principal`, from its issue to the lookup. -/
structure Tenure (calls : ApiTokenPool ι) (t : ApiTokenTrace ι) (i : ι) (token : String)
    (principal : ApiTokenPrincipal) (j : ι) (record : StoredApiToken) : Prop where
  named : startsWith token (calls i).1.tokenPrefix = true
  speaks : record.toPrincipal = principal
  issued : ∃ request rawToken, (calls j).2 = .issue request ∧
    (calls j).1.Drafts (ObservedIn (t.of j)) request rawToken record
  hash : (calls i).1.hashApiToken token = record.tokenHash
  current : ∃ now, ObservedIn (t.of i) (apiTokenClock now) ∧ now < principal.expiresAt
  unrevoked : ∃ late middle early found result,
    t = late ++ (i, lookup record.tokenHash (.ok (some found))) ::
      (middle ++ (j, insertion record result) :: early) ∧ found.toPrincipal = principal ∧
    ∀ k revokedAt reason, (k, revokedApiToken record.id revokedAt reason (.ok ())) ∉ middle

/--
A call is granted a principal only on the record of a token that some call issued,
with the hash of the token presented, before its expiry, and with no revocation
completed between the insertion of the record and the lookup.
-/
theorem granted_principal_issued (reached : Reachable apiTokenStore calls.program c)
    {answer : ApiTokenReturn} {principal : ApiTokenPrincipal}
    (returned : Returned calls.program c i (.ok answer))
    (grants : (calls i).2.Grants answer principal) :
    ∃ token j record, (calls i).2.Presents token ∧
      Tenure calls c.trace i token principal j record := by
  have ended := (calls.verified i).post_of_path returned
  obtain ⟨token, found, presents, admits, rfl⟩ := ended.admits grants
  obtain ⟨late, early, share⟩ := List.append_of_mem (Trace.mem_of.mp admits.found)
  obtain ⟨hash, -⟩ := stands_of_lookup reached share
  obtain ⟨j, record, result, core, since⟩ :=
    since_of_lookup true reached share fun _ => admits.unrevoked
  obtain ⟨-, middle, past, rfl, upheld⟩ := since
  have speaks : record.toPrincipal = found.toPrincipal :=
    StoredApiToken.congr_core StoredApiToken.toPrincipal (fun _ => rfl) core
  have recordHash : record.tokenHash = found.tokenHash :=
    StoredApiToken.congr_core StoredApiToken.tokenHash (fun _ => rfl) core
  refine ⟨token, j, record, presents, ?_⟩
  constructor
  case named => exact admits.named
  case speaks => exact speaks
  case issued =>
    have mem : insertion record result ∈ c.trace.of j := by
      rw [share]
      refine Trace.mem_of.mpr (List.mem_append_right _ (List.mem_cons_of_mem _ ?_))
      exact List.mem_append_right _ List.mem_cons_self
    exact issues_of_insertion reached mem
  case hash => exact (recordHash.trans hash).symm
  case current => exact admits.current
  case unrevoked =>
    rw [recordHash, hash]
    refine ⟨late, middle, past, found, result, share, rfl, fun k revokedAt reason mem => ?_⟩
    refine upheld _ mem ⟨rfl, revokedAt, reason, ?_⟩
    have id : record.id = found.core.id :=
      StoredApiToken.congr_core StoredApiToken.id (fun _ => rfl) core
    rw [id]

section Sequence

variable {c₀ c₁ c₂ : Config apiTokenStore ι} {k : ι} {request : ApiTokenIssueRequest}
variable {token : IssuedApiToken}

/-- An issue that has returned had inserted its record. -/
theorem insertion_of_issued (call : (calls j).2 = .issue request)
    (returned : Returned calls.program c j (.ok (.issued token))) : ∃ rawToken record,
      (calls j).1.Drafts (ObservedIn (c.trace.of j)) request rawToken record ∧
        insertion record (.ok ()) ∈ c.trace.of j ∧ token = record.handOut rawToken := by
  have ended := (calls.verified j).post_of_path returned
  rw [call] at ended
  obtain ⟨rawToken, record, drafts, inserted, same⟩ := ended
  cases same
  exact ⟨rawToken, record, drafts, inserted, rfl⟩

/-- What a call that had not started does lies in the part of the trace that was added. -/
theorem later_of_unstarted (run : Steps apiTokenStore calls.program c₀ c₁)
    (unstarted : c₀.trace.of i = []) {e : ApiTokenStoreEvent} (mem : e ∈ c₁.trace.of i) :
    ∃ late early, c₁.trace = late ++ (i, e) :: (early ++ c₀.trace) := by
  obtain ⟨new, same⟩ := run.trace_eq
  rw [same, Trace.of_append, unstarted, List.append_nil] at mem
  obtain ⟨late, early, rfl⟩ := List.append_of_mem (Trace.mem_of.mp mem)
  exact ⟨late, early, by simp [same]⟩

/--
Once a revocation of an issued token has returned, no call started afterwards is
granted the token's principal, whatever else runs at the same time.
-/
theorem revoked_token_refused (reached : Reachable apiTokenStore calls.program c₀)
    (issues : (calls j).2 = .issue request)
    (issued : Returned calls.program c₀ j (.ok (.issued token)))
    {reason : ApiTokenRevocationReason} (revokes : (calls k).2 = .revoke token.tokenId reason)
    (revoker_unstarted : c₀.trace.of k = []) (revoking : Steps apiTokenStore calls.program c₀ c₁)
    {answer : ApiTokenReturn} (revoked : Returned calls.program c₁ k (.ok answer))
    (unstarted : c₁.trace.of i = []) (run : Steps apiTokenStore calls.program c₁ c₂)
    {answer' : ApiTokenReturn} (returned : Returned calls.program c₂ i (.ok answer'))
    {principal : ApiTokenPrincipal} (grants : (calls i).2.Grants answer' principal) :
    principal.tokenId ≠ token.tokenId := by
  have reached₁ := reached.steps revoking
  have reached₂ := reached₁.steps run
  obtain ⟨rawToken, record, -, inserted, rfl⟩ := insertion_of_issued issues issued
  have revoking_ended := (calls.verified k).post_of_path revoked
  rw [revokes] at revoking_ended
  obtain ⟨revokedAt, revocation⟩ := revoking_ended
  obtain ⟨late₁, early₁, share₁⟩ := later_of_unstarted revoking revoker_unstarted revocation
  have ended := (calls.verified i).post_of_path returned
  obtain ⟨presented, found, -, admits, rfl⟩ := ended.admits grants
  obtain ⟨late₂, early₂, share₂⟩ := later_of_unstarted run unstarted admits.found
  obtain ⟨j', record', result, core, since⟩ :=
    since_of_lookup true reached₂ share₂ fun _ => admits.unrevoked
  intro same
  have ids : found.id = record.id := same
  obtain ⟨-, s, before, -⟩ := stands_of_lookup reached₂ share₂
  have order : early₂ ++ c₁.trace = (early₂ ++ late₁) ++
      (k, revokedApiToken found.id revokedAt reason (.ok ())) :: (early₁ ++ c₀.trace) := by
    rw [share₁, List.append_assoc, ids]
    rfl
  have again : (j', insertion record' result) ∈ early₂ ++ late₁ :=
    since.of_withdrawn order ⟨rfl, revokedAt, reason, rfl⟩ (not_revokes_observed _)
  have mem : insertion record (.ok ()) ∈ Trace.of j
      ((k, revokedApiToken found.id revokedAt reason (.ok ())) :: (early₁ ++ c₀.trace)) :=
    Trace.mem_of.mpr (List.mem_cons_of_mem _ (List.mem_append_right _ (Trace.mem_of.mp inserted)))
  refine not_reinserted before order mem again ?_
  exact ids.symm.trans (StoredApiToken.congr_core StoredApiToken.id (fun _ => rfl) core).symm

/-- The principal that an issued token speaks for. -/
def IssuedApiToken.principal (self : IssuedApiToken) : ApiTokenPrincipal where
  tokenId := self.tokenId
  subject := self.subject
  principalKind := self.principalKind
  scopes := self.scopes
  audience := self.audience
  resourceType := self.resourceType
  resourceId := self.resourceId
  expiresAt := self.expiresAt

/-- The record of an issued token stands as long as nothing revokes it. -/
theorem holds_of_issued {record : StoredApiToken} {rawToken : String}
    {seen : ApiTokenEvent → Prop} (reached : Reachable apiTokenStore calls.program c)
    {new old : ApiTokenTrace ι} (share : c.trace = new ++ old)
    (drafts : (calls j).1.Drafts seen request rawToken record)
    (inserted : insertion record (.ok ()) ∈ old.of j)
    (untouched : ∀ k reason, (calls k).2 = .revoke record.id reason → c.trace.of k = []) :
    Holds true c.state record.core := by
  have unrevoked : record.revokedAt = none := by rw [drafts.same]; rfl
  obtain ⟨late, early, rfl⟩ := List.append_of_mem (Trace.mem_of.mp inserted)
  rw [← List.append_assoc] at share
  refine (standingRecords true).stands_of_secured reached share ⟨record, rfl, rfl, unrevoked⟩ ?_
  rintro ⟨i, e⟩ mem threat
  rcases threat with ⟨record', result, rfl, same⟩ | ⟨-, revokedAt, reason, result, rfl⟩
  · have first : insertion record (.ok ()) ∈ Trace.of j ((j, insertion record (.ok ())) :: early) :=
      Trace.mem_of.mpr List.mem_cons_self
    exact not_reinserted reached share first mem same.symm
  · have known : revokedApiToken record.id revokedAt reason result ∈ c.trace.of i := by
      rw [share]
      exact Trace.mem_of.mpr (List.mem_append_left _ mem)
    obtain ⟨past, -, call⟩ := reached.guard_of_mem calls.verified known
    rw [untouched i reason call] at known
    cases known

/-- Every record inserted with the token's hash is the token's own. -/
def NoCollision (t : ApiTokenTrace ι) (tokenHash : String) (tokenId : Uuid) : Prop :=
  ∀ k record result, insertion record result ∈ t.of k → record.tokenHash = tokenHash →
    record.id = tokenId

/-- The only record that a lookup of an issued and unrevoked token can show is its own. -/
theorem lookup_of_issued {record : StoredApiToken} {rawToken tokenHash : String}
    {seen : ApiTokenEvent → Prop} (reached : Reachable apiTokenStore calls.program c)
    {late early old : ApiTokenTrace ι} {found : Option StoredApiToken}
    (share : c.trace = late ++ (i, lookup tokenHash (.ok found)) :: (early ++ old))
    (drafts : (calls j).1.Drafts seen request rawToken record) (hash : record.tokenHash = tokenHash)
    (inserted : insertion record (.ok ()) ∈ old.of j)
    (untouched : ∀ k reason, (calls k).2 = .revoke record.id reason → c.trace.of k = [])
    (distinct : NoCollision c.trace tokenHash record.id) :
    ∃ stored, found = some stored ∧ stored.core = record.core ∧ stored.revokedAt = none := by
  obtain ⟨s, s', before, -, effect, -⟩ := reached.split share
  have within : ∀ k, Trace.of k (early ++ old) <:+ c.trace.of k := by
    intro k
    have whole : c.trace = (late ++ [(i, lookup tokenHash (.ok found))]) ++ (early ++ old) := by
      simp [share]
    rw [whole, Trace.of_append k _ (early ++ old)]
    exact List.suffix_append ..
  have stands : Holds true s record.core := by
    refine holds_of_issued before rfl drafts inserted fun k reason call => ?_
    exact List.suffix_nil.mp (untouched k reason call ▸ within k)
  obtain ⟨own, held, core, unrevoked⟩ := stands
  have ownHash : own.tokenHash = tokenHash :=
    (StoredApiToken.congr_core StoredApiToken.tokenHash (fun _ => rfl) core).trans hash
  cases found with
  | none => exact absurd ownHash (effect.2 _ _ held)
  | some stored =>
      obtain ⟨-, stored_held, stored_hash⟩ := effect
      have stored_stands : Holds false s stored.core := ⟨stored, stored_held, rfl, nofun⟩
      obtain ⟨k, e, since⟩ := (standingRecords false).since_of_stands before stored_stands
      obtain ⟨⟨origin, result, rfl, same⟩, late', early', order, -⟩ := since
      have known : insertion origin result ∈ c.trace.of k := by
        refine (within k).subset (Trace.mem_of.mpr ?_)
        change _ ∈ (⟨early ++ old, s⟩ : Config apiTokenStore ι).trace
        rw [order]
        exact List.mem_append_right _ List.mem_cons_self
      have originHash : origin.tokenHash = stored.tokenHash :=
        StoredApiToken.congr_core StoredApiToken.tokenHash (fun _ => rfl) same
      have originId : origin.id = stored.id :=
        StoredApiToken.congr_core StoredApiToken.id (fun _ => rfl) same
      have one : stored.id = record.id :=
        originId.symm.trans (distinct k origin result known (originHash.trans stored_hash))
      rw [one] at stored_held
      cases stored_held.symm.trans held
      exact ⟨_, rfl, core, unrevoked rfl⟩

/--
An issued token presented to its service after the issue, and never revoked, is
accepted for its principal unless it has expired or the store fails.
-/
theorem issued_token_accepted (reached : Reachable apiTokenStore calls.program c₀)
    (issues : (calls j).2 = .issue request)
    (issued : Returned calls.program c₀ j (.ok (.issued token)))
    {metadata : ClientMetadata} (call : calls i = ((calls j).1, .authenticate token.token metadata))
    (unstarted : c₀.trace.of i = []) (run : Steps apiTokenStore calls.program c₀ c₁)
    (untouched : ∀ k reason, (calls k).2 = .revoke token.tokenId reason → c₁.trace.of k = [])
    (distinct : NoCollision c₁.trace ((calls j).1.hashApiToken token.token) token.tokenId)
    {result : AuthResult ApiTokenReturn} (returned : Returned calls.program c₁ i result) :
    result = .ok (.principal token.principal) ∨
      (result = .error .apiTokenExpired ∧
        ∃ now, ObservedIn (c₁.trace.of i) (apiTokenClock now) ∧ token.expiresAt ≤ now) ∨
      ∃ e, result = .error e ∧
        (lookup ((calls j).1.hashApiToken token.token) (.error e) ∈ c₁.trace.of i ∨
          ∃ tokenId usedAt metadata,
            observed (touchedApiToken tokenId usedAt metadata (.error e)) ∈ c₁.trace.of i) := by
  have reached₁ := reached.steps run
  obtain ⟨rawToken, record, drafts, inserted, rfl⟩ := insertion_of_issued issues issued
  have hash : record.tokenHash = (calls j).1.hashApiToken rawToken := by rw [drafts.same]; rfl
  have own : ∀ found, lookup ((calls j).1.hashApiToken rawToken) (.ok found) ∈ c₁.trace.of i →
      ∃ stored, found = some stored ∧ stored.core = record.core ∧ stored.revokedAt = none := by
    intro found mem
    obtain ⟨late, early, share⟩ := later_of_unstarted run unstarted mem
    exact lookup_of_issued reached₁ share drafts hash inserted untouched distinct
  have ended := (calls.verified i).post_of_path returned
  rw [call] at ended
  obtain ⟨outcome, ended, rfl⟩ := ended
  cases ended with
  | @admitted stored admits =>
      obtain ⟨_, shown, core, -⟩ := own _ admits.found
      cases shown
      have principal : stored.toPrincipal = (record.handOut rawToken).principal :=
        StoredApiToken.congr_core StoredApiToken.toPrincipal (fun _ => rfl) core
      rw [← principal]
      exact .inl rfl
  | foreign foreign =>
      obtain ⟨bytes, -, rfl⟩ := drafts.secret
      have prefixed := (issuable_of_bytes (calls j).1 bytes).prefixed
      cases foreign.symm.trans prefixed
  | unknown unknown =>
      obtain ⟨stored, shown, -⟩ := own _ unknown
      cases shown
  | revoked found revoked =>
      obtain ⟨stored, shown, -, unrevoked⟩ := own _ found
      cases shown
      exact absurd unrevoked revoked
  | @expired stored now found clock expired =>
      obtain ⟨_, shown, core, -⟩ := own _ found
      cases shown
      have expiry : (record.handOut rawToken).expiresAt = stored.expiresAt :=
        (StoredApiToken.congr_core StoredApiToken.expiresAt (fun _ => rfl) core).symm
      exact .inr (.inl ⟨rfl, now, clock, expiry.le.trans expired⟩)
  | lookupFailed failed => exact .inr (.inr ⟨_, rfl, .inl failed⟩)
  | touchFailed failed => exact .inr (.inr ⟨_, rfl, .inr ⟨_, _, _, failed⟩⟩)

end Sequence

end Runs

/-! ## Two tokens, one of them revoked -/

def sampleRawToken (byte : UInt8) : String :=
  "agql_api_" ++ base64UrlSafeNoPad (List.replicate 48 byte)

/-- Calls 0 and 1 issue, call 2 revokes the first token, the others present the tokens. -/
def sampleApiTokenCalls : ApiTokenPool Nat
  | 0 => (sampleIssuer, .issue sampleIssueRequest)
  | 1 => (sampleIssuer, .issue sampleIssueRequest)
  | 2 => (sampleIssuer, .revoke ⟨1⟩ .manual)
  | 3 => (sampleIssuer, .authenticate (sampleRawToken 2) {})
  | _ => (sampleIssuer, .authenticate (sampleRawToken 6) {})

abbrev ApiTokenRun := Running apiTokenHost sampleApiTokenCalls.program

def issuedRun : ApiTokenRun := Running.start.schedule (List.replicate 4 0 ++ List.replicate 4 1)

def revokedRun : ApiTokenRun := issuedRun.schedule [2, 2]

def admittedRun : ApiTokenRun := revokedRun.schedule (List.replicate 4 4)

def acceptedRun : ApiTokenRun := issuedRun.schedule (List.replicate 4 3)

def isGrantOf (tokenId : Uuid) : AuthResult ApiTokenReturn → Bool
  | .ok (.principal principal) => principal.tokenId = tokenId
  | _ => false

def isIssueOf (tokenId : Uuid) (rawToken : String) : AuthResult ApiTokenReturn → Bool
  | .ok (.issued token) => token.tokenId = tokenId ∧ token.token = rawToken
  | _ => false

def isSuccess : AuthResult ApiTokenReturn → Bool
  | .ok _ => true
  | .error _ => false

theorem grant_of_check {result : AuthResult ApiTokenReturn} {tokenId : Uuid}
    (passed : isGrantOf tokenId result = true) :
    ∃ principal, result = .ok (.principal principal) ∧ principal.tokenId = tokenId := by
  rcases result with e | ⟨token | principal | data | _⟩
  case ok.principal => exact ⟨principal, rfl, of_decide_eq_true passed⟩
  all_goals cases passed

theorem issue_of_check {result : AuthResult ApiTokenReturn} {tokenId : Uuid} {rawToken : String}
    (passed : isIssueOf tokenId rawToken result = true) :
    ∃ token, result = .ok (.issued token) ∧ token.tokenId = tokenId ∧ token.token = rawToken := by
  rcases result with e | ⟨token | principal | data | _⟩
  case ok.issued => exact ⟨token, rfl, of_decide_eq_true passed⟩
  all_goals cases passed

theorem issuedRun_issued : ∃ token, token.tokenId = ⟨1⟩ ∧ token.token = sampleRawToken 2 ∧
    Returned sampleApiTokenCalls.program issuedRun.config 0 (.ok (.issued token)) := by
  obtain ⟨result, returned, passed⟩ := Running.exists_returned (r := issuedRun) (i := 0)
    (isIssueOf ⟨1⟩ (sampleRawToken 2)) (by decide +kernel)
  obtain ⟨token, rfl, known, raw⟩ := issue_of_check passed
  exact ⟨token, known, raw, returned⟩

/-- The second token is admitted while the first is being revoked. -/
theorem granted_principal_issued_of_second : ∃ principal j record,
    Returned sampleApiTokenCalls.program admittedRun.config 4 (.ok (.principal principal)) ∧
      Tenure sampleApiTokenCalls admittedRun.config.trace 4 (sampleRawToken 6) principal j
        record := by
  obtain ⟨result, returned, passed⟩ := Running.exists_returned (r := admittedRun) (i := 4)
    (isGrantOf ⟨5⟩) (by decide +kernel)
  obtain ⟨principal, rfl, -⟩ := grant_of_check passed
  obtain ⟨token, j, record, presents, tenure⟩ :=
    granted_principal_issued admittedRun.reached returned .authenticate
  cases presents with
  | authenticate => exact ⟨principal, j, record, returned, tenure⟩

/-- The call that is granted a principal after the revocation has presented the other token. -/
theorem revoked_token_refused_of_other : ∃ token principal,
    Returned sampleApiTokenCalls.program issuedRun.config 0 (.ok (.issued token)) ∧
      Returned sampleApiTokenCalls.program admittedRun.config 4 (.ok (.principal principal)) ∧
      principal.tokenId ≠ token.tokenId := by
  obtain ⟨token, known, -, issued⟩ := issuedRun_issued
  obtain ⟨answer, revoked, success⟩ := Running.exists_returned (r := revokedRun) (i := 2)
    isSuccess (by decide +kernel)
  obtain ⟨result, returned, passed⟩ := Running.exists_returned (r := admittedRun) (i := 4)
    (isGrantOf ⟨5⟩) (by decide +kernel)
  obtain ⟨principal, rfl, -⟩ := grant_of_check passed
  refine ⟨token, principal, issued, returned, ?_⟩
  cases answer with
  | error e => cases success
  | ok answer =>
      have issues : (sampleApiTokenCalls 0).2 = .issue sampleIssueRequest := rfl
      have revokes : (sampleApiTokenCalls 2).2 = .revoke token.tokenId .manual := by
        rw [known]
        rfl
      have revoker_unstarted : issuedRun.config.trace.of 2 = [] :=
        List.eq_nil_of_length_eq_zero (by decide +kernel)
      have unstarted : revokedRun.config.trace.of 4 = [] :=
        List.eq_nil_of_length_eq_zero (by decide +kernel)
      exact revoked_token_refused issuedRun.reached issues issued revokes revoker_unstarted
        (Running.steps_schedule issuedRun _) revoked unstarted
        (Running.steps_schedule revokedRun _) returned .authenticate

def insertedRecord : ApiTokenStoreEvent → Option StoredApiToken
  | ⟨.inl (.insertApiToken record), _⟩ => some record
  | _ => none

theorem noCollision_of_check {t : ApiTokenTrace Nat} {tokenHash : String} {tokenId : Uuid}
    (checked : t.all (fun entry => (insertedRecord entry.2).all fun record =>
      record.tokenHash != tokenHash || record.id == tokenId) = true) :
    NoCollision t tokenHash tokenId := by
  intro k record result mem hash
  have passed := List.all_eq_true.mp checked _ (Trace.mem_of.mp mem)
  have passed : (record.tokenHash != tokenHash || record.id == tokenId) = true := passed
  simpa [hash] using passed

/-- The first token is accepted when it is presented before its revocation. -/
theorem issued_token_accepted_of_first : ∃ token result,
    Returned sampleApiTokenCalls.program issuedRun.config 0 (.ok (.issued token)) ∧
      Returned sampleApiTokenCalls.program acceptedRun.config 3 result ∧
      (result = .ok (.principal token.principal) ∨
        (result = .error .apiTokenExpired ∧ ∃ now,
          ObservedIn (acceptedRun.config.trace.of 3) (apiTokenClock now) ∧ token.expiresAt ≤ now) ∨
        ∃ e, result = .error e ∧
          (lookup (sampleIssuer.hashApiToken token.token) (.error e) ∈
              acceptedRun.config.trace.of 3 ∨
            ∃ tokenId usedAt metadata,
              observed (touchedApiToken tokenId usedAt metadata (.error e)) ∈
                acceptedRun.config.trace.of 3)) := by
  obtain ⟨token, known, raw, issued⟩ := issuedRun_issued
  obtain ⟨result, returned, -⟩ := Running.exists_returned (r := acceptedRun) (i := 3)
    (isGrantOf ⟨1⟩) (by decide +kernel)
  have issues : (sampleApiTokenCalls 0).2 = .issue sampleIssueRequest := rfl
  have call : sampleApiTokenCalls 3 =
      ((sampleApiTokenCalls 0).1, .authenticate token.token {}) := by
    rw [raw]
    rfl
  have unstarted : issuedRun.config.trace.of 3 = [] :=
    List.eq_nil_of_length_eq_zero (by decide +kernel)
  have untouched : ∀ k reason, (sampleApiTokenCalls k).2 = .revoke token.tokenId reason →
      acceptedRun.config.trace.of k = [] := by
    intro k reason revokes
    rcases k with _ | _ | _ | _ | k
    case succ.succ.zero => exact List.eq_nil_of_length_eq_zero (by decide +kernel)
    all_goals cases revokes
  have distinct : NoCollision acceptedRun.config.trace
      ((sampleApiTokenCalls 0).1.hashApiToken token.token) token.tokenId := by
    rw [raw, known]
    exact noCollision_of_check (by decide +kernel)
  exact ⟨token, result, issued, returned, issued_token_accepted issuedRun.reached issues issued
    call unstarted (Running.steps_schedule issuedRun _) untouched distinct returned⟩

end AgqlAuth
