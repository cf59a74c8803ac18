import AgqlAuth.Refresh.Issuance

/-!
# What a rotation guarantees

`rotate_session` is verified once, against arbitrary answers.  Its guard says
under which plan the call may ask the store to rotate, and its outcome accounts
for everything the call wrote.
-/

namespace AgqlAuth

open Interaction Program

/-- The record `prepare_rotation` builds for `source`, on a reuse also for `newest`. -/
structure Replacement (source : StoredRefreshToken) (newest : Option StoredRefreshToken)
    (user : StoredUser) (grant : CurrentRefreshGrant)
    (assuranceOverride : Option SessionAssurance) (record : StoredRefreshToken) : Prop where
  live : record.revokedAt = none
  unlinked : record.replacedByTokenId = none
  family : record.sessionFamilyId = source.sessionFamilyId
  sessionId : record.sessionId = source.sessionId
  userId : record.userId = user.id
  grantSource : record.grantSource = source.grantSource
  session : record.session = rotatedSession source assuranceOverride
  metadata : record.refreshableMetadata = source.refreshableMetadata.filter (· ≠ {})
  roles : ∀ role ∈ record.roles,
    role ∈ source.roles ∧ role ∈ grant.roles ∧ ∀ head ∈ newest, role ∈ head.roles
  scopes : ∀ scope ∈ record.scopes,
    scope ∈ source.scopes ∧ scope ∈ grant.scopes ∧ ∀ head ∈ newest, scope ∈ head.scopes
  authorizationRoles : ∀ role ∈ record.authorizationRoles,
    role ∈ source.authorizationRoles ∧ ∀ head ∈ newest, role ∈ head.authorizationRoles

/-- The payload that hands `record` to the caller. -/
structure Delivered (svc : AuthService) (record : StoredRefreshToken) (payload : AuthPayload) :
    Prop where
  tokenHash : record.tokenHash = svc.hashRefreshToken payload.refreshToken
  roles : payload.user.roles = record.roles
  scopes : payload.user.scopes = record.scopes
  session : payload.user.session = record.session
  expiresAt : payload.refreshTokenExpiresAt = record.expiresAt
  family : payload.user.tokenClaims.sessionFamilyId = some record.sessionFamilyId.toString

theorem mem_narrowGrant {source : List String} {current newest : Option (List String)}
    {value : String} :
    value ∈ narrowGrant source current newest ↔
      value ∈ source ∧ (∀ allowed ∈ current, value ∈ allowed) ∧
        ∀ allowed ∈ newest, value ∈ allowed := by
  unfold narrowGrant
  simp only [List.mem_filter, Option.all_eq_true, decide_eq_true_eq, Option.mem_def,
    and_assoc]

theorem withAuthorizationRoles_ceiling {user : AuthUser} {provided : Option (List String)}
    {ceiling : List String} {role : String}
    (kept : role ∈ (user.withAuthorizationRoles provided (some ceiling)).tokenClaims.authorizationRoles) :
    role ∈ ceiling := by
  have filtered := List.of_mem_filter kept
  exact of_decide_eq_true filtered

namespace IssuedFrom

variable {svc : AuthService} {authUser : AuthUser} {fam : Uuid} {clientMetadata : ClientMetadata}
variable {now : OffsetDateTime} {grantSource : RefreshGrantSource}
variable {ceiling : Option (List String)} {h : AuthHistory} {issued : IssuedTokens}

theorem delivered (from_ : IssuedFrom svc authUser fam clientMetadata now grantSource ceiling h issued)
    (named : authUser.tokenClaims.sessionFamilyId = some fam.toString) :
    Delivered svc issued.record issued.payload := by
  obtain ⟨⟨provided, jti, huser⟩, hrecord, drawn⟩ := from_
  constructor
  · rw [hrecord]
    rfl
  · rw [hrecord]
    rfl
  · rw [hrecord]
    rfl
  · rw [hrecord]
    rfl
  · rfl
  · rw [hrecord]
    simp only [IssuedTokens.payload, huser]
    exact named

theorem replacement {source : StoredRefreshToken} {newest : Option StoredRefreshToken}
    {user : StoredUser} {grant : CurrentRefreshGrant}
    {assuranceOverride : Option SessionAssurance}
    (from_ : IssuedFrom svc (rotatedUser source newest user grant assuranceOverride)
      source.sessionFamilyId clientMetadata now source.grantSource
      (some (authorizationRoleCeiling source newest)) h issued) :
    Replacement source newest user grant assuranceOverride issued.record := by
  obtain ⟨⟨provided, jti, huser⟩, hrecord, drawn⟩ := from_
  rw [hrecord, huser]
  constructor
  case live => rfl
  case unlinked => rfl
  case family => rfl
  case sessionId => rfl
  case userId => rfl
  case grantSource => rfl
  case session => rfl
  case metadata =>
    change (if source.refreshableMetadata.getD {} = {} then none
      else some (source.refreshableMetadata.getD {})) = _
    cases source.refreshableMetadata with
    | none => rfl
    | some recorded =>
        by_cases default : recorded = {}
        · subst default
          rfl
        · simp [Option.filter, default]
  case roles =>
    intro role mem
    have narrowed := mem_narrowGrant.mp (mem_dedupeStable.mp mem)
    refine ⟨narrowed.1, narrowed.2.1 _ rfl, ?_⟩
    rintro head rfl
    exact narrowed.2.2 _ rfl
  case scopes =>
    intro scope mem
    have narrowed := mem_narrowGrant.mp (mem_dedupeStable.mp mem)
    refine ⟨narrowed.1, narrowed.2.1 _ rfl, ?_⟩
    rintro head rfl
    exact narrowed.2.2 _ rfl
  case authorizationRoles =>
    intro role mem
    have narrowed := mem_narrowGrant.mp (withAuthorizationRoles_ceiling mem)
    refine ⟨narrowed.1, ?_⟩
    rintro head rfl
    exact narrowed.2.2 _ rfl

end IssuedFrom

/-- The presented token was superseded within the window, by the latest clock reading. -/
def WithinGrace (svc : AuthService) (h : AuthHistory) (presented : StoredRefreshToken) : Prop :=
  ∃ window now, svc.refreshReuseGrace = some window ∧ (view h).clock = some now ∧
    supersededWithin presented now window = true

/-- The token a rotation replaces: the presented one, or on a reuse the family's newest. -/
inductive RotationTarget (svc : AuthService) (h : AuthHistory) (source : StoredRefreshToken)
    (now : OffsetDateTime) : Option StoredRefreshToken → Uuid → Prop where
  | ordinary (unrevoked : source.revokedAt = none) (unexpired : source.isExpired now = false) :
      RotationTarget svc h source now none source.id
  | reuse {newest : StoredRefreshToken} (within : WithinGrace svc h source)
      (snapshot : readLive source.sessionFamilyId [newest] ∈ h)
      (replaceable : canReplaceNewest source newest now = true) :
      RotationTarget svc h source now (some newest) newest.id

/-- What a call knows when it asks the store to rotate. -/
structure RotationPlan (svc : AuthService) (refreshToken : String)
    (assuranceOverride : Option SessionAssurance) (h : AuthHistory) (currentTokenId : Uuid)
    (record : StoredRefreshToken) (now : OffsetDateTime) (source : StoredRefreshToken)
    (newest : Option StoredRefreshToken) (user : StoredUser) (grant : CurrentRefreshGrant) :
    Prop where
  unwritten : writes h = []
  drawn : drew record.id ∈ h
  presented : (view h).presented = some source
  found : foundByHash (svc.hashRefreshToken refreshToken) source ∈ h
  user_read : readUser source.userId user ∈ h
  grant_read : (view h).grant = some grant
  clock_read : (view h).clock = some now
  replacement : Replacement source newest user grant assuranceOverride record
  target : RotationTarget svc h source now newest currentTokenId

/-- The operations a rotating call may issue. -/
def rotationGuard (svc : AuthService) (refreshToken : String)
    (assuranceOverride : Option SessionAssurance) (h : AuthHistory) : AuthOp → Prop
  | .rotateRefreshToken currentTokenId record now _ _ => ∃ source newest user grant,
      RotationPlan svc refreshToken assuranceOverride h currentTokenId record now source newest
        user grant
  | .revokeRefreshToken _ _ replacedByTokenId _ => replacedByTokenId = none
  | .insertRefreshToken _ | .touchRefreshToken .. => False
  | _ => True

theorem rotationGuard_preparation {svc : AuthService} {refreshToken : String}
    {assuranceOverride : Option SessionAssurance} (h : AuthHistory) (op : AuthOp)
    (preparation : preparationOp op = true) :
    rotationGuard svc refreshToken assuranceOverride h op := by
  cases op <;> trivial

section Prepare

variable {svc : AuthService} {source : StoredRefreshToken} {newest : Option StoredRefreshToken}
variable {h : AuthHistory} {guard : AuthHistory → AuthOp → Prop}

theorem currentRefreshGrant_upholds {user : StoredUser}
    {post : AuthHistory → AuthResult CurrentRefreshGrant → Prop}
    (quiet : ∀ h op, preparationOp op = true → guard h op)
    (read : (view h).grant = some { roles := user.roles, scopes := user.scopes })
    (ok : ∀ late grant, Only grantingOp late → (view (late ++ h)).grant = some grant →
      post (late ++ h) (.ok grant))
    (err : ∀ late e, Only grantingOp late → Failure (late ++ h) e →
      post (late ++ h) (.error e)) :
    Upholds (S := authSignature) guard post h (svc.currentRefreshGrant source newest user) := by
  unfold AuthService.currentRefreshGrant
  split
  · exact ok [] _ .nil read
  · split
    · apply Upholds.await (quiet h _ rfl)
      intro resp
      let asked : AuthEvent := ⟨.currentGrant (newest.getD source) user, resp⟩
      have granting : Only grantingOp [asked] := .cons rfl .nil
      cases resp with
      | ok grant => exact ok [asked] grant granting rfl
      | error e => exact err [asked] e granting (.inl ⟨asked, List.mem_cons_self, rfl⟩)
    · exact err [] .forbidden .nil (.inr rfl)
  · exact err [] .forbidden .nil (.inr rfl)

/-- What the call knows once a replacement is prepared. -/
structure Prepared (svc : AuthService) (source : StoredRefreshToken)
    (newest : Option StoredRefreshToken) (assuranceOverride : Option SessionAssurance)
    (h : AuthHistory) (issued : IssuedTokens) (user : StoredUser) (grant : CurrentRefreshGrant) :
    Prop where
  drawn : drew issued.record.id ∈ h
  user_read : readUser source.userId user ∈ h
  grant_read : (view h).grant = some grant
  replacement : Replacement source newest user grant assuranceOverride issued.record
  delivered : Delivered svc issued.record issued.payload

/-- For whom the replacement was prepared, and that its access token is signed for them. -/
structure PreparedFor (svc : AuthService) (now : OffsetDateTime) (late : AuthHistory)
    (issued : IssuedTokens) (user : StoredUser) : Prop where
  enabled : EnabledReads late
  owner : issued.user.userId = user.id
  signed : SignedAt svc now issued

theorem prepareRotation_upholds {metadata : ClientMetadata}
    {assuranceOverride : Option SessionAssurance} {now : OffsetDateTime}
    {post : AuthHistory → AuthResult IssuedTokens → Prop}
    (quiet : ∀ h op, preparationOp op = true → guard h op)
    (ok : ∀ late issued user grant, Only preparationOp late →
      Prepared svc source newest assuranceOverride (late ++ h) issued user grant →
        PreparedFor svc now late issued user → post (late ++ h) (.ok issued))
    (err : ∀ late e, Only preparationOp late → Failure (late ++ h) e →
      post (late ++ h) (.error e)) :
    Upholds (S := authSignature) guard post h
      (svc.prepareRotation source newest metadata assuranceOverride now) := by
  unfold AuthService.prepareRotation
  apply Fallible.Upholds.bind
  apply Upholds.await (quiet h _ rfl)
  intro resp
  let asked : AuthEvent := ⟨.findUserById source.userId, resp⟩
  have asking : Only preparationOp [asked] := .cons rfl .nil
  rcases resp with e | _ | user
  · exact err [asked] e asking (.inl ⟨asked, List.mem_cons_self, rfl⟩)
  · exact err [asked] .invalidRefreshToken asking (.inr rfl)
  · apply Fallible.Upholds.branch
    · intro _
      exact err [asked] .userDisabled asking (.inr rfl)
    · intro enabled
      apply Fallible.Upholds.bind
      apply currentRefreshGrant_upholds quiet rfl
      · intro granting grant granted grant_read
        have extended : ∀ {issuing}, Only issuanceOp issuing →
            Only preparationOp (issuing ++ granting ++ [asked]) := fun issuance =>
          (((issuance.mono grantingOp_of_issuanceOp).append granted).mono
            preparationOp_of_grantingOp).append asking
        apply issueTokensOnly_upholds fun h op issuance =>
          quiet h op (preparationOp_of_issuanceOp issuance)
        · intro issuing issued issuance from_ signed
          have shown : EnabledReads (issuing ++ granting ++ [asked]) :=
            (EnabledReads.of_granting
              ((issuance.mono grantingOp_of_issuanceOp).append granted)).append
              (.cons (by simpa [showsEnabled, asked] using enabled) .nil)
          have returned := ok _ issued user grant (extended issuance)
          simp only [List.append_assoc] at returned shown
          apply returned
          · exact {
              drawn := from_.drawn
              user_read := by simp [readUser, asked]
              grant_read := by
                rw [issuance.view_append]
                exact grant_read
              replacement := from_.replacement
              delivered := from_.delivered rfl }
          · obtain ⟨⟨provided, jti, stamped⟩, -, -⟩ := from_
            exact {
              enabled := shown
              owner := by rw [stamped]; rfl
              signed }
        · intro issuing e issuance reported
          have returned := err _ e (extended issuance)
          simp only [List.append_assoc] at returned
          exact returned (reported.failure _)
      · intro granting e granted failure
        have returned := err _ e ((granted.mono preparationOp_of_grantingOp).append asking)
        simp only [List.append_assoc] at returned
        exact returned failure

end Prepare

/-- The call has resolved its raw token to `presented` and written nothing. -/
structure Resolved (svc : AuthService) (refreshToken : String) (presented : StoredRefreshToken)
    (h : AuthHistory) : Prop where
  unwritten : writes h = []
  known : (view h).presented = some presented
  found : foundByHash (svc.hashRefreshToken refreshToken) presented ∈ h

namespace Resolved

variable {svc : AuthService} {refreshToken : String} {presented : StoredRefreshToken}
variable {h late : AuthHistory} {e : AuthEvent}

theorem cons (resolved : Resolved svc refreshToken presented h) (silent : writeOf e = none)
    (unmoved : ∀ v : RotationView, (v.observe e).presented = v.presented) :
    Resolved svc refreshToken presented (e :: h) where
  unwritten := by
    rw [writes_silent silent]
    exact resolved.unwritten
  known := by
    rw [view, unmoved]
    exact resolved.known
  found := List.mem_cons_of_mem e resolved.found

theorem latest (resolved : Resolved svc refreshToken presented h) :
    ∀ current ∈ (view h).presented,
      foundByHash (svc.hashRefreshToken refreshToken) current ∈ h := by
  intro current known
  cases resolved.known.symm.trans known
  exact resolved.found

theorem append (resolved : Resolved svc refreshToken presented h)
    (preparation : Only preparationOp late) :
    Resolved svc refreshToken presented (late ++ h) where
  unwritten := by
    rw [(preparation.mono bystanderOp_of_preparationOp).writes_append]
    exact resolved.unwritten
  known := by
    rw [preparation.presented_append]
    exact resolved.known
  found := List.mem_append_right late resolved.found

end Resolved

theorem WithinGrace.of_clock {svc : AuthService} {h h' : AuthHistory}
    {presented : StoredRefreshToken} (within : WithinGrace svc h presented)
    (same : (view h').clock = (view h).clock) : WithinGrace svc h' presented := by
  obtain ⟨window, now, grace, clock, superseded⟩ := within
  exact ⟨window, now, grace, same.trans clock, superseded⟩

/-- How an attempted reuse of `presented` ends. -/
inductive ReuseOutcome (svc : AuthService) (refreshToken : String)
    (presented : StoredRefreshToken) (h : AuthHistory) :
    AuthResult (Option AuthPayload) → Prop where
  | declined (resolved : Resolved svc refreshToken presented h) :
      ReuseOutcome svc refreshToken presented h (.ok none)
  | relayed {e : AuthError} {event : AuthEvent}
      (resolved : Resolved svc refreshToken presented h) (mem : event ∈ h)
      (asked : refreshStoreOp event.op = true) (reported : errorOf event = some e) :
      ReuseOutcome svc refreshToken presented h (.error e)
  | refused {e : AuthError} (resolved : Resolved svc refreshToken presented h)
      (within : WithinGrace svc h presented) (failure : Failure h e) :
      ReuseOutcome svc refreshToken presented h (.error e)
  | rotated {currentTokenId : Uuid} {record : StoredRefreshToken} {payload : AuthPayload}
      (known : (view h).presented = some presented) (within : WithinGrace svc h presented)
      (written : writes h = [.rotated currentTokenId record])
      (delivered : Delivered svc record payload) :
      ReuseOutcome svc refreshToken presented h (.ok (some payload))

/-- How a refresh or step-up ends, with everything it wrote. -/
inductive RotationOutcome (svc : AuthService) (refreshToken : String) (h : AuthHistory) :
    AuthResult AuthPayload → Prop where
  | relayed {e : AuthError} {event : AuthEvent} (mem : event ∈ h)
      (asked : refreshStoreOp event.op = true) (reported : errorOf event = some e)
      (unwritten : writes h = []) :
      RotationOutcome svc refreshToken h (.error e)
  | unresolved {e : AuthError} (unknown : (view h).presented = none)
      (ordinary : e.isRefreshVerdict = false) (unwritten : writes h = []) :
      RotationOutcome svc refreshToken h (.error e)
  | refused {e : AuthError} {source : StoredRefreshToken}
      (known : (view h).presented = some source)
      (entitled : source.revokedAt = none ∨ WithinGrace svc h source)
      (failure : Failure h e) (unwritten : writes h = []) :
      RotationOutcome svc refreshToken h (.error e)
  | expired {source : StoredRefreshToken}
      (found : foundByHash (svc.hashRefreshToken refreshToken) source ∈ h)
      (known : (view h).presented = some source) (unrevoked : source.revokedAt = none)
      (written : writes h = [.revoked source.id]) :
      RotationOutcome svc refreshToken h (.error .refreshTokenExpired)
  | replayed {source : StoredRefreshToken} {early : AuthHistory} {event : AuthEvent}
      (last : h = event :: early)
      (revoked : writeOf event = some (.familyRevoked source.sessionFamilyId))
      (unwritten : writes early = [])
      (found : foundByHash (svc.hashRefreshToken refreshToken) source ∈ early)
      (latest : ∀ presented ∈ (view h).presented,
        foundByHash (svc.hashRefreshToken refreshToken) presented ∈ early) :
      RotationOutcome svc refreshToken h (.error .refreshTokenReplayDetected)
  | rotated {currentTokenId : Uuid} {record source : StoredRefreshToken} {payload : AuthPayload}
      (known : (view h).presented = some source)
      (entitled : source.revokedAt = none ∨ WithinGrace svc h source)
      (written : writes h = [.rotated currentTokenId record])
      (delivered : Delivered svc record payload) :
      RotationOutcome svc refreshToken h (.ok payload)

section Rotate

variable {svc : AuthService} {refreshToken : String} {metadata : ClientMetadata}
variable {assuranceOverride : Option SessionAssurance} {h : AuthHistory}

theorem observeReuse_upholds {presented newest record : StoredRefreshToken}
    {now : OffsetDateTime} {guard : AuthHistory → AuthOp → Prop}
    {post : AuthHistory → AuthResult Unit → Prop}
    (quiet : ∀ h event, guard h (.refreshReuseGranted event))
    (unseen : post h (.ok ())) (seen : ∀ event, post (⟨.refreshReuseGranted event, ()⟩ :: h) (.ok ())) :
    Upholds (S := authSignature) guard post h
      (svc.observeReuse presented newest record metadata now) := by
  unfold AuthService.observeReuse
  split
  · exact Upholds.await (quiet h _) fun _ => seen _
  · exact unseen

theorem reissueWithin_upholds {presented : StoredRefreshToken} {window : Duration}
    (grace : svc.refreshReuseGrace = some window) (retries : Nat) :
    ∀ {h : AuthHistory}, Resolved svc refreshToken presented h →
      (retries = 0 → WithinGrace svc h presented) →
      Upholds (S := authSignature) (rotationGuard svc refreshToken assuranceOverride)
        (ReuseOutcome svc refreshToken presented) h
        (svc.reissueWithin presented metadata assuranceOverride window retries) := by
  induction retries with
  | zero =>
      intro h resolved exhausted
      exact .refused resolved (exhausted rfl) (.inr rfl)
  | succ retries ih =>
      intro h resolved _
      unfold AuthService.reissueWithin
      apply Fallible.Upholds.perform_bind trivial
      intro now
      have resolved := resolved.cons (e := ⟨.now .refreshRotation, now⟩) rfl fun _ => rfl
      apply Fallible.Upholds.branch
      · intro _
        exact .declined resolved
      · intro superseded
        have within : WithinGrace svc (⟨.now .refreshRotation, now⟩ :: h) presented := by
          refine ⟨window, now, grace, rfl, ?_⟩
          simpa using superseded
        apply Fallible.Upholds.bind
        apply Upholds.await trivial
        intro resp
        let asked : AuthEvent :=
          ⟨.findLiveRefreshTokensInFamily presented.sessionFamilyId, resp⟩
        have resolved := resolved.cons (e := asked) rfl fun _ => rfl
        have within : WithinGrace svc (asked :: ⟨.now .refreshRotation, now⟩ :: h) presented :=
          within.of_clock rfl
        rcases resp with e | _ | _ | ⟨newest, _ | ⟨second, others⟩⟩
        · exact .relayed resolved List.mem_cons_self rfl rfl
        · exact .declined resolved
        · exact .declined resolved
        · apply Fallible.Upholds.branch
          · intro _
            exact .declined resolved
          · intro replaceable
            apply Fallible.Upholds.bind
            apply prepareRotation_upholds rotationGuard_preparation
            · intro late issued user grant preparation prepared _
              have resolved := resolved.append preparation
              have within := within.of_clock preparation.clock_append
              apply Fallible.Upholds.bind
              apply Upholds.await
              · refine ⟨presented, some newest, user, grant, ?_⟩
                exact {
                  unwritten := resolved.unwritten
                  drawn := prepared.drawn
                  presented := resolved.known
                  found := resolved.found
                  user_read := prepared.user_read
                  grant_read := prepared.grant_read
                  clock_read := by rw [preparation.clock_append]; rfl
                  replacement := prepared.replacement
                  target := .reuse within
                    (List.mem_append_right late List.mem_cons_self) (by simpa using replaceable) }
              · intro resp
                rcases resp with e | _ | _
                · exact .relayed (resolved.cons rfl fun _ => rfl) List.mem_cons_self rfl rfl
                · exact ih (resolved.cons rfl fun _ => rfl) fun _ => within.of_clock rfl
                · apply Fallible.Upholds.bind
                  apply observeReuse_upholds fun _ _ => trivial
                  · exact .rotated resolved.known (within.of_clock rfl)
                      (writes_first rfl resolved.unwritten) prepared.delivered
                  · intro event
                    exact .rotated resolved.known (within.of_clock rfl)
                      ((writes_silent rfl).trans (writes_first rfl resolved.unwritten))
                      prepared.delivered
            · intro late e preparation failure
              exact .refused (resolved.append preparation)
                (within.of_clock preparation.clock_append) failure
        · exact .declined resolved

theorem reissueWithinReuseGrace_upholds {presented : StoredRefreshToken}
    (resolved : Resolved svc refreshToken presented h) :
    Upholds (S := authSignature) (rotationGuard svc refreshToken assuranceOverride)
      (ReuseOutcome svc refreshToken presented) h
      (svc.reissueWithinReuseGrace presented metadata assuranceOverride) := by
  unfold AuthService.reissueWithinReuseGrace
  split
  · exact .declined resolved
  · rename_i window grace
    exact reissueWithin_upholds grace maxRefreshReuseGraceRetries resolved nofun

theorem rejectReplay_upholds {source : StoredRefreshToken} {now : OffsetDateTime}
    (unwritten : writes h = [])
    (found : foundByHash (svc.hashRefreshToken refreshToken) source ∈ h)
    (latest : ∀ presented ∈ (view h).presented,
      foundByHash (svc.hashRefreshToken refreshToken) presented ∈ h) :
    Upholds (S := authSignature) (rotationGuard svc refreshToken assuranceOverride)
      (RotationOutcome svc refreshToken) h
      (AuthService.acceptOrRejectReplay source.sessionFamilyId now none) := by
  apply Fallible.Upholds.bind
  apply Upholds.await trivial
  intro resp
  rcases resp with e | _
  · exact .relayed List.mem_cons_self rfl rfl unwritten
  · exact .replayed rfl rfl unwritten found latest

/-- A reuse that is not granted revokes the family of the token read first. -/
theorem reissueOrReject_upholds {presented source : StoredRefreshToken} {now : OffsetDateTime}
    (resolved : Resolved svc refreshToken presented h)
    (found : foundByHash (svc.hashRefreshToken refreshToken) source ∈ h) :
    Upholds (S := authSignature) (rotationGuard svc refreshToken assuranceOverride)
      (Fallible.Continues (rotationGuard svc refreshToken assuranceOverride)
        (RotationOutcome svc refreshToken)
        (AuthService.acceptOrRejectReplay source.sessionFamilyId now)) h
      (svc.reissueWithinReuseGrace presented metadata assuranceOverride) := by
  refine (reissueWithinReuseGrace_upholds resolved).suffix.mono (fun _ _ hg => hg.2) ?_
  rintro late result ⟨longer, outcome⟩
  cases outcome with
  | declined resolved =>
      exact rejectReplay_upholds resolved.unwritten (longer.subset found) resolved.latest
  | relayed resolved mem asked reported => exact .relayed mem asked reported resolved.unwritten
  | refused resolved within failure =>
      exact .refused resolved.known (.inr within) failure resolved.unwritten
  | rotated known within written delivered =>
      exact .rotated known (.inr within) written delivered

theorem reissueAfterLostRace_upholds {source : StoredRefreshToken} {now : OffsetDateTime}
    (resolved : Resolved svc refreshToken source h) :
    Upholds (S := authSignature) (rotationGuard svc refreshToken assuranceOverride)
      (Fallible.Continues (rotationGuard svc refreshToken assuranceOverride)
        (RotationOutcome svc refreshToken)
        (AuthService.acceptOrRejectReplay source.sessionFamilyId now)) h
      (svc.reissueAfterLostRace (svc.hashRefreshToken refreshToken) metadata
        assuranceOverride) := by
  unfold AuthService.reissueAfterLostRace
  apply Fallible.Upholds.branch
  · intro _
    apply Fallible.Upholds.bind
    apply Upholds.await trivial
    intro resp
    rcases resp with e | _ | current
    · exact .relayed List.mem_cons_self rfl rfl resolved.unwritten
    · refine rejectReplay_upholds resolved.unwritten (List.mem_cons_of_mem _ resolved.found) ?_
      intro presented known
      cases known
    · have reread : Resolved svc refreshToken current
          (foundByHash (svc.hashRefreshToken refreshToken) current :: h) := {
        unwritten := resolved.unwritten
        known := rfl
        found := List.mem_cons_self }
      exact reissueOrReject_upholds reread (List.mem_cons_of_mem _ resolved.found)
  · intro _
    exact rejectReplay_upholds resolved.unwritten resolved.found resolved.latest

theorem rotateSession_upholds (unwritten : writes h = []) :
    Upholds (S := authSignature) (rotationGuard svc refreshToken assuranceOverride)
      (RotationOutcome svc refreshToken) h
      (svc.rotateSession refreshToken metadata assuranceOverride) := by
  unfold AuthService.rotateSession
  apply Fallible.Upholds.perform_bind trivial
  intro now
  apply Fallible.Upholds.bind
  apply Upholds.await trivial
  intro resp
  rcases resp with e | _ | existing
  · exact .relayed List.mem_cons_self rfl rfl unwritten
  · exact .unresolved rfl rfl unwritten
  · have resolved : Resolved svc refreshToken existing
        (foundByHash (svc.hashRefreshToken refreshToken) existing ::
          ⟨.now .refreshRotation, now⟩ :: h) := {
      unwritten := unwritten
      known := rfl
      found := List.mem_cons_self }
    apply Fallible.Upholds.branch
    · intro _
      apply Fallible.Upholds.bind
      exact reissueOrReject_upholds resolved resolved.found
    · intro unrevoked
      have unrevoked : existing.revokedAt = none := by simpa using unrevoked
      apply Fallible.Upholds.branch
      · intro _
        apply Fallible.Upholds.bind
        apply Upholds.await rfl
        intro resp
        rcases resp with e | _
        · exact .relayed List.mem_cons_self rfl rfl unwritten
        · exact .expired (List.mem_cons_of_mem _ resolved.found) rfl unrevoked
            (writes_first rfl unwritten)
      · intro unexpired
        apply Fallible.Upholds.bind
        apply prepareRotation_upholds rotationGuard_preparation
        · intro late issued user grant preparation prepared _
          have resolved := resolved.append preparation
          apply Fallible.Upholds.bind
          apply Upholds.await
          · refine ⟨existing, none, user, grant, ?_⟩
            exact {
              unwritten := resolved.unwritten
              drawn := prepared.drawn
              presented := resolved.known
              found := resolved.found
              user_read := prepared.user_read
              grant_read := prepared.grant_read
              clock_read := by rw [preparation.clock_append]; rfl
              replacement := prepared.replacement
              target := .ordinary unrevoked (by simpa using unexpired) }
          · intro resp
            rcases resp with e | _ | _
            · exact .relayed List.mem_cons_self rfl rfl resolved.unwritten
            · apply Fallible.Upholds.bind
              exact reissueAfterLostRace_upholds (resolved.cons rfl fun _ => rfl)
            · exact .rotated resolved.known (.inl unrevoked)
                (writes_first rfl resolved.unwritten) prepared.delivered
        · intro late e preparation failure
          have resolved := resolved.append preparation
          exact .refused resolved.known (.inl unrevoked) failure resolved.unwritten

theorem stepUpAssurance_error {now : OffsetDateTime} {stepUp : StepUpAuthentication}
    {e : AuthError} (failed : AuthService.stepUpAssurance now stepUp = .error e) :
    e.isRefreshVerdict = false := by
  unfold AuthService.stepUpAssurance at failed
  split at failed
  · cases failed
  · cases failed
    rfl

end Rotate

end AgqlAuth
