import AgqlAuth.Refresh.View

/-!
# What token issuance guarantees

Issuance touches no refresh record.  Whatever its providers answer, it either
fails with an error of theirs or of its own checks, or hands back a record that
was built from the given principal and carries an identifier drawn on the way.
-/

namespace AgqlAuth

open Interaction Program

/-- The two errors that report on the presented refresh token itself. -/
def AuthError.isRefreshVerdict : AuthError → Bool
  | .refreshTokenReplayDetected | .refreshTokenExpired => true
  | _ => false

/-- The errors of the service's own arithmetic, encoding and bookkeeping. -/
def AuthError.isInternal : AuthError → Bool
  | .invalidConfiguration _ | .tokenCreation _ | .store _ => true
  | _ => false

/-- An error some answer reported, or an internal one. -/
def Reported (h : AuthHistory) (e : AuthError) : Prop :=
  (∃ event ∈ h, errorOf event = some e) ∨ e.isInternal = true

theorem Reported.mono {h h' : AuthHistory} {e : AuthError} (reported : Reported h e)
    (longer : h ⊆ h') : Reported h' e := by
  rcases reported with ⟨event, mem, reported⟩ | internal
  · exact .inl ⟨event, longer mem, reported⟩
  · exact .inr internal

/-- An error some answer reported, or one that is no verdict on a refresh token. -/
def Failure (h : AuthHistory) (e : AuthError) : Prop :=
  (∃ event ∈ h, errorOf event = some e) ∨ e.isRefreshVerdict = false

theorem Reported.failure {h : AuthHistory} {e : AuthError} (reported : Reported h e)
    (early : AuthHistory) : Failure (h ++ early) e := by
  rcases reported with ⟨event, mem, reported⟩ | internal
  · exact .inl ⟨event, List.mem_append_left early mem, reported⟩
  · refine .inr ?_
    cases e <;> first | rfl | cases internal

section PureChecks

variable {e : AuthError}

theorem checkedExpiry_error {now : OffsetDateTime} {ttl : Duration} {name : String}
    (failed : checkedExpiry now ttl name = .error e) : e.isInternal = true := by
  unfold checkedExpiry at failed
  split at failed
  · cases failed
    rfl
  · split at failed
    · cases failed
      rfl
    · cases failed

theorem checkedJwtExpiry_error {now : OffsetDateTime} {ttl : Duration} {name : String}
    (failed : checkedJwtExpiry now ttl name = .error e) : e.isInternal = true := by
  unfold checkedJwtExpiry at failed
  split at failed
  · rename_i inner
    cases failed
    exact checkedExpiry_error inner
  · split at failed
    · cases failed
      rfl
    · cases failed

theorem issuedScopeClaims_error {scopes : List String} {format : AccessTokenScopeClaimFormat}
    (failed : issuedScopeClaims scopes format = .error e) : e.isInternal = true := by
  unfold issuedScopeClaims at failed
  split at failed
  · cases failed
    rfl
  · cases failed

theorem encodeLocalJwt_error {svc : AuthService} {claims : AccessTokenClaims}
    (failed : svc.encodeLocalJwt claims = .error e) : e.isInternal = true := by
  unfold AuthService.encodeLocalJwt at failed
  split at failed
  · cases failed
  · cases failed
    rfl

theorem signAccessToken_error {svc : AuthService} {user : AuthUser}
    {issuedAt expiresAt : OffsetDateTime} {audience : String}
    (failed : svc.signAccessToken user issuedAt expiresAt audience = .error e) :
    e.isInternal = true := by
  unfold AuthService.signAccessToken at failed
  cases checked : issuedScopeClaims user.scopes svc.config.accessTokenScopeClaimFormat with
  | error e' =>
      rw [checked] at failed
      cases failed
      exact issuedScopeClaims_error checked
  | ok claims =>
      rw [checked] at failed
      change (if _ then _ else _) = _ at failed
      split at failed
      · cases failed
        rfl
      · exact encodeLocalJwt_error failed

end PureChecks

/-- `issued` is what token issuance made of `authUser`. -/
structure IssuedFrom (svc : AuthService) (authUser : AuthUser) (sessionFamilyId : Uuid)
    (metadata : ClientMetadata) (now : OffsetDateTime) (grantSource : RefreshGrantSource)
    (ceiling : Option (List String)) (h : AuthHistory) (issued : IssuedTokens) : Prop where
  user_eq : ∃ provided jti, issued.user =
    (authUser.forUserSession.withAuthorizationRoles provided ceiling).stamped jti
      issued.accessTokenExpiresAt
  record_eq : issued.record = issued.user.refreshRecord sessionFamilyId metadata now
    issued.record.expiresAt grantSource issued.record.id (svc.hashRefreshToken issued.refreshToken)
  drawn : drew issued.record.id ∈ h

/-- The access token was signed at `now` for exactly the principal handed back. -/
structure SignedAt (svc : AuthService) (now : OffsetDateTime) (issued : IssuedTokens) : Prop where
  lifetime : checkedJwtExpiry now svc.config.accessTokenTtl "access-token ttl" =
    .ok issued.accessTokenExpiresAt
  signed : svc.signAccessToken issued.user now issued.accessTokenExpiresAt svc.config.audience =
    .ok issued.accessToken

section Upholds

variable {svc : AuthService} {authUser : AuthUser} {h : AuthHistory}
variable {guard : AuthHistory → AuthOp → Prop}

theorem accessTokenId_upholds {post : AuthHistory → AuthResult String → Prop}
    (quiet : ∀ h op, issuanceOp op = true → guard h op)
    (ok : ∀ late jti, Only issuanceOp late → post (late ++ h) (.ok jti)) :
    Upholds (S := authSignature) guard post h (AuthService.accessTokenId authUser) := by
  unfold AuthService.accessTokenId
  split
  · rename_i jti _
    exact ok [] jti .nil
  · apply Fallible.Upholds.perform_bind
    · exact quiet h _ rfl
    · intro fresh
      exact ok [⟨.newUuid, fresh⟩] fresh.toString (.cons rfl .nil)

theorem issueAccessTokenWithUser_upholds {issuedAt expiresAt : OffsetDateTime}
    {post : AuthHistory → AuthResult (String × AuthUser) → Prop}
    (quiet : ∀ h op, issuanceOp op = true → guard h op)
    (ok : ∀ late token jti, Only issuanceOp late →
      svc.signAccessToken (authUser.stamped jti expiresAt) issuedAt expiresAt
        svc.config.audience = .ok token →
      post (late ++ h) (.ok (token, authUser.stamped jti expiresAt)))
    (err : ∀ late e, Only issuanceOp late → Reported late e → post (late ++ h) (.error e)) :
    Upholds (S := authSignature) guard post h
      (svc.issueAccessTokenWithUser authUser issuedAt expiresAt) := by
  unfold AuthService.issueAccessTokenWithUser AuthService.issueAccessTokenWithUserForAudience
  apply Fallible.Upholds.bind
  apply accessTokenId_upholds quiet
  intro late jti issuance
  apply Fallible.Upholds.lift_bind
  · intro token signed
    exact ok late token jti issuance signed
  · intro e failed
    exact err late e issuance (.inr (signAccessToken_error failed))

theorem providedAuthorizationRoles_upholds
    {post : AuthHistory → AuthResult (Option (List String)) → Prop}
    (quiet : ∀ h op, issuanceOp op = true → guard h op)
    (ok : ∀ late provided, Only issuanceOp late → post (late ++ h) (.ok provided))
    (err : ∀ late e, Only issuanceOp late → Reported late e → post (late ++ h) (.error e)) :
    Upholds (S := authSignature) guard post h (svc.providedAuthorizationRoles authUser) := by
  unfold AuthService.providedAuthorizationRoles
  split
  · apply Fallible.Upholds.bind
    apply Upholds.await (quiet h _ rfl)
    intro resp
    let asked : AuthEvent := ⟨.additionalTokenRoles authUser, resp⟩
    have issuance : Only issuanceOp [asked] := .cons rfl .nil
    cases resp with
    | ok additional => exact ok [asked] (some additional) issuance
    | error e => exact err [asked] e issuance (.inl ⟨asked, List.mem_cons_self, rfl⟩)
  · exact ok [] none .nil

theorem issueTokensOnly_upholds {fam : Uuid} {metadata : ClientMetadata} {now : OffsetDateTime}
    {grantSource : RefreshGrantSource} {ceiling : Option (List String)}
    {post : AuthHistory → AuthResult IssuedTokens → Prop}
    (quiet : ∀ h op, issuanceOp op = true → guard h op)
    (ok : ∀ late issued, Only issuanceOp late →
      IssuedFrom svc authUser fam metadata now grantSource ceiling (late ++ h) issued →
        SignedAt svc now issued → post (late ++ h) (.ok issued))
    (err : ∀ late e, Only issuanceOp late → Reported late e → post (late ++ h) (.error e)) :
    Upholds (S := authSignature) guard post h
      (svc.issueTokensOnly authUser fam metadata now grantSource ceiling) := by
  unfold AuthService.issueTokensOnly
  apply Fallible.Upholds.bind
  apply providedAuthorizationRoles_upholds quiet
  · intro early provided early_issuance
    apply Fallible.Upholds.lift_bind
    · intro accessTokenExpiresAt lifetime
      apply Fallible.Upholds.bind
      apply issueAccessTokenWithUser_upholds quiet
      · intro signing token jti signing_issuance signed
        apply Fallible.Upholds.perform_bind (quiet _ _ rfl)
        intro raw
        apply Fallible.Upholds.lift_bind
        · intro refreshTokenExpiresAt _
          apply Fallible.Upholds.perform_bind (quiet _ _ rfl)
          intro id
          have issuance : Only issuanceOp (⟨.newUuid, id⟩ :: ⟨.generateOpaqueToken, raw⟩ ::
              (signing ++ early)) :=
            .cons rfl (.cons rfl (signing_issuance.append early_issuance))
          have returned := fun issued => ok _ issued issuance
          rw [List.cons_append, List.cons_append, List.append_assoc] at returned
          apply returned
          · exact {
              user_eq := ⟨provided, jti, rfl⟩
              record_eq := rfl
              drawn := List.mem_cons_self }
          · exact ⟨lifetime, signed⟩
        · intro e failed
          have issuance : Only issuanceOp (⟨.generateOpaqueToken, raw⟩ :: (signing ++ early)) :=
            .cons rfl (signing_issuance.append early_issuance)
          have returned := err _ e issuance (.inr (checkedExpiry_error failed))
          rw [List.cons_append, List.append_assoc] at returned
          exact returned
      · intro signing e signing_issuance reported
        have returned := err (signing ++ early) e (signing_issuance.append early_issuance)
          (reported.mono (List.subset_append_left signing early))
        rw [List.append_assoc] at returned
        exact returned
    · intro e failed
      exact err early e early_issuance (.inr (checkedJwtExpiry_error failed))
  · intro early e early_issuance reported
    exact err early e early_issuance reported

end Upholds

end AgqlAuth
