import AgqlAuth.Refresh.Calls
import AgqlAuth.Refresh.MemoryStore

/-!
# Whose session a rotation continues

`prepare_rotation` asks the user store for the owner of the presented record and
issues for whatever user the answer names.  So a refresh or step-up keeps the
identity of its session exactly as long as the store never answers with an
enabled user of another identifier.
-/

namespace AgqlAuth

open Interaction Program

/-- The access token of the payload carries these claims. -/
structure CarriesClaims (svc : AuthService) (payload : AuthPayload) (claims : AccessTokenClaims) :
    Prop where
  about : ∃ scope legacyScopes issuedAt, claims = svc.accessTokenClaims payload.user scope
    legacyScopes issuedAt payload.accessTokenExpiresAt svc.config.audience
  encoded : svc.encodeJwt claims = .ok payload.accessToken

theorem CarriesClaims.sub {svc : AuthService} {payload : AuthPayload} {claims : AccessTokenClaims}
    (carries : CarriesClaims svc payload claims) : claims.sub = payload.user.userId := by
  obtain ⟨⟨scope, legacyScopes, issuedAt, rfl⟩, -⟩ := carries
  rfl

theorem SignedAt.carries {svc : AuthService} {now : OffsetDateTime} {issued : IssuedTokens}
    (signed : SignedAt svc now issued) : ∃ claims, CarriesClaims svc issued.payload claims := by
  obtain ⟨scope, legacyScopes, -, -, encoded⟩ := AuthService.signAccessToken_ok signed.signed
  exact ⟨_, ⟨scope, legacyScopes, now, rfl⟩, encoded⟩

/-- How a rotation ends, and which users it was shown on the way. -/
inductive IdentityOutcome (svc : AuthService) (h : AuthHistory) : RefreshCall.Result → Prop where
  | declined (enabled : EnabledReads h) : IdentityOutcome svc h (.ok none)
  | failed {e : AuthError} (unwritten : writes h = []) : IdentityOutcome svc h (.error e)
  | denied {e : AuthError} (enabled : EnabledReads h) : IdentityOutcome svc h (.error e)
  | rotated {currentTokenId : Uuid} {record source : StoredRefreshToken} {user : StoredUser}
      {payload : AuthPayload} {claims : AccessTokenClaims}
      (known : (view h).presented = some source)
      (written : writes h = [.rotated currentTokenId record]) (enabled : EnabledReads h)
      (read : readUser source.userId user ∈ h) (owner : record.userId = user.id)
      (holder : payload.user.userId = user.id) (carries : CarriesClaims svc payload claims) :
      IdentityOutcome svc h (.ok (some payload))

section Outcomes

variable {svc : AuthService} {refreshToken : String} {metadata : ClientMetadata}
variable {assuranceOverride : Option SessionAssurance} {h : AuthHistory}

/-- No operation of these programs needs a licence here. -/
abbrev Unguarded : AuthHistory → AuthOp → Prop := fun _ _ => True

/-- Rotate with what was prepared; `retried` continues a rotation that lost its race. -/
theorem rotate_identity {source : StoredRefreshToken} {newest : Option StoredRefreshToken}
    {α : Type} {post : AuthHistory → AuthResult α → Prop} {currentTokenId : Uuid}
    {now : OffsetDateTime} {next : IssuedTokens → Bool → AuthM α}
    (resolved : Resolved svc refreshToken source h) (enabled : EnabledReads h)
    (failed : ∀ h e, writes h = [] → post h (.error e))
    (lost : ∀ {h} issued, Resolved svc refreshToken source h → EnabledReads h →
      Upholds (S := authSignature) Unguarded post h (next issued false))
    (won : ∀ {h} issued user claims, (view h).presented = some source → EnabledReads h →
      writes h = [.rotated currentTokenId issued.record] → readUser source.userId user ∈ h →
      issued.record.userId = user.id → issued.payload.user.userId = user.id →
      CarriesClaims svc issued.payload claims →
      Upholds (S := authSignature) Unguarded post h (next issued true)) :
    Upholds (S := authSignature) Unguarded post h
      (do
        let issued ← svc.prepareRotation source newest metadata assuranceOverride now
        let rotated ← rotateRefreshToken currentTokenId issued.record now metadata.ipAddress
          metadata.userAgent
        next issued rotated : AuthM α) := by
  apply Fallible.Upholds.bind
  apply prepareRotation_upholds fun _ _ _ => trivial
  · intro late issued user grant preparation prepared preparedFor
    have resolved := resolved.append preparation
    have enabled := preparedFor.enabled.append enabled
    apply Fallible.Upholds.bind
    apply Upholds.await trivial
    intro resp
    rcases resp with e | _ | _
    · exact failed _ e resolved.unwritten
    · exact lost issued (resolved.cons rfl fun _ => rfl) (enabled.cons rfl)
    · obtain ⟨claims, carries⟩ := preparedFor.signed.carries
      exact won issued user claims resolved.known (enabled.cons rfl)
        (writes_first rfl resolved.unwritten) (List.mem_cons_of_mem _ prepared.user_read)
        prepared.replacement.userId preparedFor.owner carries
  · intro late e preparation failure
    exact failed _ e (resolved.append preparation).unwritten

theorem reissueWithin_identity {presented : StoredRefreshToken} {window : Duration}
    (retries : Nat) :
    ∀ {h : AuthHistory}, Resolved svc refreshToken presented h → EnabledReads h →
      Upholds (S := authSignature) Unguarded (IdentityOutcome svc) h
        (svc.reissueWithin presented metadata assuranceOverride window retries) := by
  induction retries with
  | zero =>
      intro h resolved enabled
      exact .failed resolved.unwritten
  | succ retries ih =>
      intro h resolved enabled
      unfold AuthService.reissueWithin
      apply Fallible.Upholds.perform_bind trivial
      intro now
      have resolved := resolved.cons (e := ⟨.now .refreshRotation, now⟩) rfl fun _ => rfl
      have enabled := enabled.cons (e := ⟨.now .refreshRotation, now⟩) rfl
      apply Fallible.Upholds.branch
      · intro _
        exact .declined enabled
      · intro _
        apply Fallible.Upholds.bind
        apply Upholds.await trivial
        intro resp
        let asked : AuthEvent :=
          ⟨.findLiveRefreshTokensInFamily presented.sessionFamilyId, resp⟩
        have resolved := resolved.cons (e := asked) rfl fun _ => rfl
        have enabled := enabled.cons (e := asked) rfl
        rcases resp with e | _ | _ | ⟨newest, _ | ⟨second, others⟩⟩
        · exact .failed resolved.unwritten
        · exact .declined enabled
        · exact .declined enabled
        · apply Fallible.Upholds.branch
          · intro _
            exact .declined enabled
          · intro _
            apply rotate_identity resolved enabled
            · intro h e unwritten
              exact .failed unwritten
            · intro h issued resolved enabled
              exact ih resolved enabled
            · intro h issued user claims known enabled written read owner holder carries
              apply Fallible.Upholds.bind
              apply observeReuse_upholds fun _ _ => trivial
              · exact .rotated known written enabled read owner holder carries
              · intro event
                exact .rotated known ((writes_silent rfl).trans written) (enabled.cons rfl)
                  (List.mem_cons_of_mem _ read) owner holder carries
        · exact .declined enabled

/-- What `accept_or_reject_replay` makes of a reuse attempt. -/
theorem acceptOrRejectReplay_identity {fam : Uuid} {now : OffsetDateTime}
    {result : AuthResult (Option AuthPayload)} (outcome : IdentityOutcome svc h result) :
    Fallible.Continues Unguarded (fun h result => IdentityOutcome svc h (result.map some))
      (AuthService.acceptOrRejectReplay fam now) h result := by
  cases outcome with
  | declined enabled =>
      apply Fallible.Upholds.bind
      apply Upholds.await trivial
      rintro (e | ⟨⟩)
      · exact .denied (enabled.cons rfl)
      · exact .denied (enabled.cons rfl)
  | failed unwritten => exact .failed unwritten
  | denied enabled => exact .denied enabled
  | rotated known written enabled read owner holder carries =>
      exact .rotated known written enabled read owner holder carries

theorem reissueWithinReuseGrace_identity {presented : StoredRefreshToken}
    (resolved : Resolved svc refreshToken presented h) (enabled : EnabledReads h) :
    Upholds (S := authSignature) Unguarded (IdentityOutcome svc) h
      (svc.reissueWithinReuseGrace presented metadata assuranceOverride) := by
  unfold AuthService.reissueWithinReuseGrace
  split
  · exact .declined enabled
  · exact reissueWithin_identity maxRefreshReuseGraceRetries resolved enabled

theorem reissueAfterLostRace_identity {source : StoredRefreshToken}
    (resolved : Resolved svc refreshToken source h) (enabled : EnabledReads h) :
    Upholds (S := authSignature) Unguarded (IdentityOutcome svc) h
      (svc.reissueAfterLostRace (svc.hashRefreshToken refreshToken) metadata
        assuranceOverride) := by
  unfold AuthService.reissueAfterLostRace
  apply Fallible.Upholds.branch
  · intro _
    apply Fallible.Upholds.bind
    apply Upholds.await trivial
    intro resp
    rcases resp with e | _ | current
    · exact .failed resolved.unwritten
    · exact .declined (enabled.cons rfl)
    · have reread : Resolved svc refreshToken current
          (foundByHash (svc.hashRefreshToken refreshToken) current :: h) := {
        unwritten := resolved.unwritten
        known := rfl
        found := List.mem_cons_self }
      exact reissueWithinReuseGrace_identity reread (enabled.cons rfl)
  · intro _
    exact .declined enabled

theorem rotateSession_identity (unwritten : writes h = []) (enabled : EnabledReads h) :
    Upholds (S := authSignature) Unguarded
      (fun h result => IdentityOutcome svc h (result.map some)) h
      (svc.rotateSession refreshToken metadata assuranceOverride) := by
  unfold AuthService.rotateSession
  apply Fallible.Upholds.perform_bind trivial
  intro now
  apply Fallible.Upholds.bind
  apply Upholds.await trivial
  intro resp
  rcases resp with e | _ | existing
  · exact .failed unwritten
  · exact .failed unwritten
  · have resolved : Resolved svc refreshToken existing
        (foundByHash (svc.hashRefreshToken refreshToken) existing ::
          ⟨.now .refreshRotation, now⟩ :: h) := {
      unwritten := unwritten
      known := rfl
      found := List.mem_cons_self }
    have enabled : EnabledReads (foundByHash (svc.hashRefreshToken refreshToken) existing ::
        ⟨.now .refreshRotation, now⟩ :: h) := .cons rfl (enabled.cons rfl)
    apply Fallible.Upholds.branch
    · intro _
      apply Fallible.Upholds.bind
      exact (reissueWithinReuseGrace_identity resolved enabled).mono (fun _ _ hg => hg)
        fun _ _ => acceptOrRejectReplay_identity
    · intro _
      apply Fallible.Upholds.branch
      · intro _
        apply Fallible.Upholds.bind
        apply Upholds.await trivial
        rintro (e | ⟨⟩)
        · exact .failed resolved.unwritten
        · exact .denied (enabled.cons rfl)
      · intro _
        apply rotate_identity resolved enabled
        · intro h e unwritten
          exact .failed unwritten
        · intro h issued resolved enabled
          apply Fallible.Upholds.bind
          exact (reissueAfterLostRace_identity resolved enabled).mono (fun _ _ hg => hg)
            fun _ _ => acceptOrRejectReplay_identity
        · intro h issued user claims known enabled written read owner holder carries
          exact .rotated known written enabled read owner holder carries

/-- Every refresh and step-up ends in such an outcome. -/
theorem RefreshCall.identity {call : RefreshCall} (presented : call.presentedToken = some refreshToken) :
    Upholds (S := authSignature) Unguarded (IdentityOutcome svc) [] (call.program svc) := by
  have returned : ∀ h (result : AuthResult AuthPayload), IdentityOutcome svc h (result.map some) →
      Fallible.Continues (S := authSignature) Unguarded (IdentityOutcome svc)
        (fun payload => (pure (some payload) : AuthM (Option AuthPayload))) h result := by
    intro h result outcome
    cases result with
    | ok payload => exact outcome
    | error e => exact outcome
  cases call with
  | refresh refreshToken metadata =>
      apply Fallible.Upholds.bind
      exact (rotateSession_identity rfl .nil).mono (fun _ _ hg => hg) returned
  | stepUp refreshToken request metadata =>
      apply Fallible.Upholds.bind
      apply Fallible.Upholds.perform_bind trivial
      intro now
      apply Fallible.Upholds.lift_bind
      · intro assurance _
        exact (rotateSession_identity rfl (.cons rfl .nil)).mono (fun _ _ hg => hg) returned
      · intro e _
        exact .failed rfl
  | _ => cases presented

end Outcomes

section Identity

variable {svc : AuthService} {h : AuthHistory}

/-- What a finished refresh or step-up owes the session it continues. -/
structure KeepsIdentity (svc : AuthService) (h : AuthHistory) (result : RefreshCall.Result) :
    Prop where
  /-- The user, the token's subject and the committed record are the presented record's. -/
  returned : ∀ payload, result = .ok (some payload) →
    ∃ presented currentTokenId record claims, (view h).presented = some presented ∧
      writes h = [.rotated currentTokenId record] ∧ record.userId = presented.userId ∧
      payload.user.userId = presented.userId ∧ CarriesClaims svc payload claims ∧
      claims.sub = presented.userId
  /-- A user of another identifier makes the call fail without writing. -/
  refused : ∀ userId user, readUser userId user ∈ h → user.id ≠ userId →
    (∃ e, result = .error e) ∧ writes h = []

/-- Every lookup by identifier was answered with a user the store may answer. -/
def AnsweredBy (users : String → StoredUser → Prop) (h : AuthHistory) : Prop :=
  ∀ userId user, readUser userId user ∈ h → users userId user

/-- Every enabled user the store may answer has the identifier asked for. -/
def AnswersOwner (users : String → StoredUser → Prop) : Prop :=
  ∀ userId user, users userId user → user.disabled = false → user.id = userId

/-- Every finished refresh and step-up on such a user store keeps the identity. -/
def RotationsKeepIdentity (svc : AuthService) (users : String → StoredUser → Prop) : Prop :=
  ∀ (call : RefreshCall) (refreshToken : String), call.presentedToken = some refreshToken →
    ∀ h result, Path (call.program svc) h (ret result) → AnsweredBy users h →
      KeepsIdentity svc h result

theorem EnabledReads.enabled (enabled : EnabledReads h) {userId : String} {user : StoredUser}
    (read : readUser userId user ∈ h) : user.disabled = false := by
  have shown := enabled _ read
  simpa [showsEnabled, readUser] using shown

theorem IdentityOutcome.keeps {users : String → StoredUser → Prop} {result : RefreshCall.Result}
    (outcome : IdentityOutcome svc h result) (finished : result ≠ .ok none)
    (answered : AnsweredBy users h) (owner : AnswersOwner users) : KeepsIdentity svc h result := by
  have matched : EnabledReads h → ∀ userId user, readUser userId user ∈ h → user.id = userId :=
    fun enabled userId user read => owner userId user (answered _ _ read) (enabled.enabled read)
  cases outcome with
  | declined => exact absurd rfl finished
  | failed unwritten => exact ⟨by rintro payload ⟨⟩, fun _ _ _ _ => ⟨⟨_, rfl⟩, unwritten⟩⟩
  | denied enabled =>
      refine ⟨by rintro payload ⟨⟩, ?_⟩
      intro userId user read other
      exact absurd (matched enabled userId user read) other
  | @rotated currentTokenId record source user payload claims known written enabled read owned
      holder carries =>
      have same := matched enabled _ _ read
      constructor
      · rintro _ ⟨⟩
        refine ⟨source, currentTokenId, record, claims, known, written, owned.trans same,
          holder.trans same, carries, ?_⟩
        rw [carries.sub, holder, same]
      · intro userId other read differs
        exact absurd (matched enabled userId other read) differs

theorem rotationsKeepIdentity_of_answersOwner {users : String → StoredUser → Prop}
    (owner : AnswersOwner users) : RotationsKeepIdentity svc users := by
  intro call refreshToken presented h result path answered
  refine ((RefreshCall.identity presented).post_of_path path).keeps ?_ answered owner
  rintro rfl
  have returned := (RefreshCall.verified svc call).post_of_path path
  change call.presentedToken = none at returned
  rw [returned] at presented
  cases presented

end Identity

section Taken

variable {svc : AuthService}

/-- The service can issue: its encoder signs, and its lifetimes fit at some instant. -/
structure Operational (svc : AuthService) (now : OffsetDateTime) : Prop where
  signs : ∀ claims, ∃ token, svc.encodeJwt claims = .ok token
  access : ∃ expiresAt,
    checkedJwtExpiry now svc.config.accessTokenTtl "access-token ttl" = .ok expiresAt
  refresh : ∃ expiresAt,
    checkedExpiry now svc.config.refreshTokenTtl "refresh-token ttl" = .ok expiresAt

/-- The history reads one user only. -/
def ReadsOnly (userId : String) (user : StoredUser) (h : AuthHistory) : Prop :=
  ∀ userId' user', readUser userId' user' ∈ h → userId' = userId ∧ user' = user

theorem ReadsOnly.cons {userId : String} {user : StoredUser} {e : AuthEvent} {h : AuthHistory}
    (reads : ReadsOnly userId user h)
    (other : ∀ userId' user', e = readUser userId' user' → userId' = userId ∧ user' = user) :
    ReadsOnly userId user (e :: h) := by
  intro userId' user' mem
  rcases List.mem_cons.mp mem with same | earlier
  · exact other userId' user' same.symm
  · exact reads userId' user' earlier

theorem ReadsOnly.append {userId : String} {user : StoredUser} {late h : AuthHistory}
    (reads : ReadsOnly userId user h) (issuance : Only issuanceOp late) :
    ReadsOnly userId user (late ++ h) := by
  intro userId' user' mem
  rcases List.mem_append.mp mem with later | earlier
  · cases issuance _ later
  · exact reads userId' user' earlier

theorem signAccessToken_empty {now expiresAt : OffsetDateTime} {user : AuthUser}
    (ready : Operational svc now) (scopes : user.scopes = [])
    (roles : user.tokenClaims.authorizationRoles = []) (audience : String) :
    ∃ token, svc.signAccessToken user now expiresAt audience = .ok token := by
  have representable : ∃ scope legacyScopes,
      issuedScopeClaims [] svc.config.accessTokenScopeClaimFormat = .ok (scope, legacyScopes) := by
    cases svc.config.accessTokenScopeClaimFormat <;> exact ⟨_, _, rfl⟩
  obtain ⟨scope, legacyScopes, checked⟩ := representable
  obtain ⟨token, signed⟩ :=
    ready.signs (svc.accessTokenClaims user scope legacyScopes now expiresAt audience)
  refine ⟨token, ?_⟩
  have encoded : svc.encodeLocalJwt
      (svc.accessTokenClaims user scope legacyScopes now expiresAt audience) = .ok token := by
    simp only [AuthService.encodeLocalJwt, signed]
  unfold AuthService.signAccessToken
  rw [scopes, checked, roles]
  exact encoded

theorem providedAuthorizationRoles_attains {authUser : AuthUser} {h : AuthHistory}
    {post : AuthHistory → AuthResult (Option (List String)) → Prop}
    (ok : ∀ late provided, Only issuanceOp late → post (late ++ h) (.ok provided)) :
    Attains (S := authSignature) post h (svc.providedAuthorizationRoles authUser) := by
  unfold AuthService.providedAuthorizationRoles
  split
  · let answer : AuthResult (List String) := .ok []
    exact ⟨answer, ok [⟨.additionalTokenRoles authUser, answer⟩] _ (.cons rfl .nil)⟩
  · exact ok [] none .nil

theorem issueAccessTokenWithUser_attains {now expiresAt : OffsetDateTime} {authUser : AuthUser}
    (ready : Operational svc now) (scopes : authUser.scopes = [])
    (roles : authUser.tokenClaims.authorizationRoles = []) {h : AuthHistory}
    {post : AuthHistory → AuthResult (String × AuthUser) → Prop}
    (ok : ∀ late signed, Only issuanceOp late → post (late ++ h) (.ok signed)) :
    Attains (S := authSignature) post h (svc.issueAccessTokenWithUser authUser now expiresAt) := by
  have signs : ∀ late jti, Only issuanceOp late →
      Attains (S := authSignature) post (late ++ h)
        (do
          let token ← liftResult (svc.signAccessToken (authUser.stamped jti expiresAt) now
            expiresAt svc.config.audience)
          pure (token, authUser.stamped jti expiresAt) : AuthM (String × AuthUser)) := by
    intro late jti issuance
    have signable : ∃ token, svc.signAccessToken (authUser.stamped jti expiresAt) now expiresAt
        svc.config.audience = .ok token := by
      apply signAccessToken_empty ready
      · exact scopes
      · exact roles
    obtain ⟨token, signed⟩ := signable
    apply Fallible.Attains.lift_bind signed
    exact ok late _ issuance
  unfold AuthService.issueAccessTokenWithUser AuthService.issueAccessTokenWithUserForAudience
  apply Fallible.Attains.bind
  unfold AuthService.accessTokenId
  split
  · rename_i jti _
    exact ⟨jti, rfl, signs [] jti .nil⟩
  · let fresh : Uuid := ⟨0⟩
    exact ⟨fresh, _, rfl, signs [⟨.newUuid, fresh⟩] fresh.toString (.cons rfl .nil)⟩

/-- A principal without scopes, under an empty ceiling, is issued for. -/
theorem issueTokensOnly_attains {now : OffsetDateTime} {authUser : AuthUser}
    (ready : Operational svc now) (scopes : authUser.scopes = []) {sessionFamilyId : Uuid}
    {metadata : ClientMetadata} {grantSource : RefreshGrantSource} {h : AuthHistory}
    {post : AuthHistory → AuthResult IssuedTokens → Prop}
    (ok : ∀ late issued, Only issuanceOp late → post (late ++ h) (.ok issued)) :
    Attains (S := authSignature) post h
      (svc.issueTokensOnly authUser sessionFamilyId metadata now grantSource (some [])) := by
  obtain ⟨accessExpiry, access⟩ := ready.access
  obtain ⟨refreshExpiry, refresh⟩ := ready.refresh
  unfold AuthService.issueTokensOnly
  apply Fallible.Attains.bind
  apply providedAuthorizationRoles_attains
  intro early provided early_issuance
  refine ⟨provided, rfl, ?_⟩
  apply Fallible.Attains.lift_bind access
  apply Fallible.Attains.bind
  apply issueAccessTokenWithUser_attains ready
  · exact scopes
  · simp [AuthUser.withAuthorizationRoles]
  · intro signing signed signing_issuance
    refine ⟨signed, rfl, ?_⟩
    let raw : String := ""
    let id : Uuid := ⟨0⟩
    refine ⟨raw, ?_⟩
    apply Fallible.Attains.lift_bind refresh
    refine ⟨id, ?_⟩
    have issuance : Only issuanceOp (⟨.newUuid, id⟩ :: ⟨.generateOpaqueToken, raw⟩ ::
        (signing ++ early)) :=
      .cons rfl (.cons rfl (signing_issuance.append early_issuance))
    have returned := fun issued => ok _ issued issuance
    rw [List.cons_append, List.cons_append, List.append_assoc] at returned
    exact returned _

/-- A live record of `userId` that grants nothing, confirmed by the stored user. -/
def plainRecord (userId tokenHash : String) (createdAt expiresAt : OffsetDateTime) :
    StoredRefreshToken where
  id := ⟨0⟩
  userId
  sessionId := ⟨0⟩
  sessionFamilyId := ⟨0⟩
  grantSource := .storedUser
  authorizationRoles := []
  roles := []
  scopes := []
  session := .forAuthMethod .password
  refreshableMetadata := none
  tokenHash
  createdAt
  expiresAt
  lastUsedAt := none
  revokedAt := none
  replacedByTokenId := none
  userAgent := none
  ipAddress := none

theorem checkedExpiry_later {now expiresAt : OffsetDateTime} {ttl : Duration} {name : String}
    (checked : checkedExpiry now ttl name = .ok expiresAt) : now < expiresAt := by
  unfold checkedExpiry at checked
  split at checked
  · cases checked
  · rename_i positive
    split at checked
    · cases checked
    · rename_i expiry added
      cases checked
      have sum := OffsetDateTime.checkedAdd_eq_some added
      have positive := Duration.lt_iff.mp (not_le.mp positive)
      rw [OffsetDateTime.lt_iff, sum]
      have zero : Duration.zero.nanos = 0 := rfl
      omega

/-- Whatever enabled user the store answers, some refresh succeeds for that user. -/
theorem refresh_attains {now : OffsetDateTime} (ready : Operational svc now) (refreshToken userId : String)
    {user : StoredUser} (enabled : user.disabled = false) :
    ∃ h payload, Path (RefreshCall.program svc (.refresh refreshToken {})) h
      (ret (.ok (some payload))) ∧ ReadsOnly userId user h ∧ readUser userId user ∈ h := by
  obtain ⟨expiresAt, lifetime⟩ := ready.refresh
  let record := plainRecord userId (svc.hashRefreshToken refreshToken) now expiresAt
  have live : record.isExpired now = false :=
    decide_eq_false (checkedExpiry_later lifetime).not_ge
  let reads : AuthHistory := [readUser userId user,
    foundByHash (svc.hashRefreshToken refreshToken) record, ⟨.now .refreshRotation, now⟩]
  have read : ReadsOnly userId user reads := by
    refine ReadsOnly.cons (ReadsOnly.cons (ReadsOnly.cons ?_ ?_) ?_) ?_
    · intro userId' user' mem
      cases mem
    · intro userId' user' same
      cases same
    · intro userId' user' same
      cases same
    · intro userId' user' same
      cases same
      exact ⟨rfl, rfl⟩
  have attains : Attains (S := authSignature)
      (fun h result => ∃ payload, result = .ok (some payload) ∧ ReadsOnly userId user h ∧
        readUser userId user ∈ h) []
      (RefreshCall.program svc (.refresh refreshToken {})) := by
    apply Fallible.Attains.bind
    unfold AuthService.refresh AuthService.rotateSession
    refine ⟨now, ?_⟩
    apply Fallible.Attains.bind
    refine ⟨(.ok (some record) : AuthResult (Option StoredRefreshToken)), some record, rfl, ?_⟩
    dsimp only
    rw [if_neg (by simp [record, plainRecord]), if_neg (by simp [live])]
    apply Fallible.Attains.bind
    unfold AuthService.prepareRotation
    apply Fallible.Attains.bind
    refine ⟨(.ok (some user) : AuthResult (Option StoredUser)), some user, rfl, ?_⟩
    dsimp only
    rw [if_neg (by simp [enabled])]
    apply Fallible.Attains.bind
    refine ⟨_, rfl, ?_⟩
    apply issueTokensOnly_attains ready rfl
    intro late issued issuance
    refine ⟨issued, rfl, ?_⟩
    apply Fallible.Attains.bind
    refine ⟨(.ok true : AuthResult Bool), true, rfl, ?_⟩
    refine ⟨issued.payload, rfl, issued.payload, rfl, ?_, ?_⟩
    · apply ReadsOnly.cons (read.append issuance)
      intro userId' user' same
      cases same
    · exact List.mem_cons_of_mem _ (List.mem_append_right late List.mem_cons_self)
  obtain ⟨h, result, path, payload, rfl, only, mem⟩ := attains.path_of .start
  exact ⟨h, payload, path, only, mem⟩

end Taken

/--
A rotation keeps the identity of its session when the user store never answers
with an enabled user of another identifier; and, for a service that can issue
at all, only then.
-/
theorem rotation_keepsIdentity (svc : AuthService) (users : String → StoredUser → Prop) :
    (AnswersOwner users → RotationsKeepIdentity svc users) ∧
      ((∃ now, Operational svc now) → RotationsKeepIdentity svc users → AnswersOwner users) := by
  refine ⟨rotationsKeepIdentity_of_answersOwner, ?_⟩
  rintro ⟨now, ready⟩ keeps userId user answered enabled
  by_contra other
  obtain ⟨h, payload, path, only, read⟩ := refresh_attains ready "refresh" userId enabled
  have stored : AnsweredBy users h := by
    intro userId' user' mem
    obtain ⟨rfl, rfl⟩ := only userId' user' mem
    exact answered
  have refused := (keeps _ "refresh" rfl h _ path stored).refused userId user read other
  obtain ⟨⟨e, failed⟩, -⟩ := refused
  cases failed

/-- The user a lookup of `ada` is answered with. -/
def eve : StoredUser where
  id := "eve"
  principal := "eve"
  passwordHash := ""
  roles := ["member"]
  scopes := ["read"]
  disabled := false

def takenAnswers (n : Nat) : (op : AuthOp) → Option (AuthOp.Resp op)
  | .findUserById _ => some (.ok (some eve) : AuthResult (Option StoredUser))
  | op => sampleAnswers n op

/-- A session of `ada` that is refreshed once. -/
def takenCalls : RefreshPool Nat
  | 0 => (sampleService, .issueSession "ada" ["member"] ["read"] {} {} {})
  | _ => (sampleService, .refresh "xxx" {})

def takenRun : Running (memoryHost takenAnswers) takenCalls.program :=
  Running.start.schedule (List.replicate 12 0 ++ List.replicate 12 1)

/-- The refresh of `ada`'s session returns, and stores, a session of `eve`. -/
theorem session_changes_hands :
    ∃ payload, Returned takenCalls.program takenRun.config 1 (.ok (some payload)) ∧
      (view (takenRun.trace.of 1)).presented.map (·.userId) = some "ada" ∧
      payload.user.userId = "eve" ∧
      ¬ KeepsIdentity sampleService (takenRun.trace.of 1) (.ok (some payload)) := by
  obtain ⟨payload, returned, holder⟩ : ∃ payload,
      takenRun.result? 1 = some (.ok (some payload)) ∧ payload.user.userId = "eve" :=
    ⟨_, rfl, rfl⟩
  have presented : (view (takenRun.trace.of 1)).presented.map (·.userId) = some "ada" := rfl
  refine ⟨payload, Running.returned_of_result? returned, presented, holder, fun keeps => ?_⟩
  obtain ⟨source, _, _, _, known, -, -, same, -⟩ := keeps.returned payload rfl
  rw [known] at presented
  have owner : source.userId = "ada" := Option.some.inj presented
  rw [holder, owner] at same
  revert same
  decide

end AgqlAuth
