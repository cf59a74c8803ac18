import AgqlAuth.Token.Recovery
import AgqlAuth.Token.Table

/-!
# Issued access tokens authenticate

Whichever path issued it, an access token for the normal audience gives back the
principal that issuance returned, in every second before its expiry and in none
after.
-/

namespace AgqlAuth

open Interaction Program

/--
The access tokens for the normal audience, each with the expiry and the principal
its call returned.  A delegation request is opaque: some service prepared it, and
its holder may have tailored it.
-/
inductive IssuedAccess (svc : AuthService) : String → OffsetDateTime → AuthUser → Prop where
  | login {principal password : String} {metadata : ClientMetadata} {h : AuthHistory}
      {payload : AuthPayload}
      (call : Path (svc.login principal password metadata) h (ret (.ok payload))) :
      IssuedAccess svc payload.accessToken payload.accessTokenExpiresAt payload.user
  | hostSession {userId : String} {roles scopes : List String} {session : SessionContext}
      {refreshable : RefreshableTokenMetadata} {metadata : ClientMetadata} {h : AuthHistory}
      {payload : AuthPayload}
      (call : Path (svc.issueSessionForUserWithMetadata userId roles scopes session refreshable
        metadata) h (ret (.ok payload))) :
      IssuedAccess svc payload.accessToken payload.accessTokenExpiresAt payload.user
  | refresh {refreshToken : String} {metadata : ClientMetadata} {h : AuthHistory}
      {payload : AuthPayload}
      (call : Path (svc.refresh refreshToken metadata) h (ret (.ok payload))) :
      IssuedAccess svc payload.accessToken payload.accessTokenExpiresAt payload.user
  | stepUp {refreshToken : String} {stepUp : StepUpAuthentication} {metadata : ClientMetadata}
      {h : AuthHistory} {payload : AuthPayload}
      (call : Path (svc.stepUpSession refreshToken stepUp metadata) h (ret (.ok payload))) :
      IssuedAccess svc payload.accessToken payload.accessTokenExpiresAt payload.user
  | accessTokenOnly {request : AccessTokenOnlyRequest} {h : AuthHistory}
      {grant : AccessTokenOnlyGrant}
      (call : Path (svc.issueAccessTokenOnly request) h (ret (.ok grant))) :
      IssuedAccess svc grant.accessToken grant.accessTokenExpiresAt grant.user
  | sessionBound {preparer : AuthService} {resolved : ResolvedPrincipal}
      {roles scopes : List String} {binding : SessionBoundDelegationBinding}
      {prepared request : SessionBoundAccessTokenOnlyRequest}
      {preparation issuance : DelegationHistory} {grant : AccessTokenOnlyGrant}
      (preparing : Path (preparer.prepareSessionBoundAccessTokenOnly resolved roles scopes binding)
        preparation (ret (.ok prepared)))
      (tailored : Tailored prepared request)
      (call : Path (svc.issueSessionBoundAccessTokenOnly request) issuance (ret (.ok grant))) :
      IssuedAccess svc grant.accessToken grant.accessTokenExpiresAt grant.user

/-- A prepared request keeps the first of equal scopes, and tailoring leaves them alone. -/
theorem nodup_scopes_of_prepared {preparer : AuthService} {resolved : ResolvedPrincipal}
    {roles scopes : List String} {binding : SessionBoundDelegationBinding}
    {prepared request : SessionBoundAccessTokenOnlyRequest} {preparation : DelegationHistory}
    (preparing : Path (preparer.prepareSessionBoundAccessTokenOnly resolved roles scopes binding)
      preparation (ret (.ok prepared)))
    (tailored : Tailored prepared request) : request.scopes.Nodup := by
  obtain ⟨first, -, preparedFrom⟩ := (prepareSessionBoundAccessTokenOnly_upholds preparer resolved
    roles scopes binding).post_of_path preparing prepared rfl
  rw [tailored.sameCore.scopes, preparedFrom.request_eq]
  exact nodup_dedupeStable scopes

theorem IssuedAccess.signedFor {svc : AuthService} {token : String} {expiresAt : OffsetDateTime}
    {user : AuthUser} (issued : IssuedAccess svc token expiresAt user) :
    SignedFor svc svc.config.audience token expiresAt user := by
  cases issued with
  | login call => exact (login_yields _ _ _).of_path call
  | hostSession call =>
      refine (signed_of_recoverable ?_).of_path call
      exact issueSession_yields Recoverable.kept _ fun _ _ _ _ =>
        .plain (nodup_dedupeStable _) rfl fitsI64_authTime rfl
  | refresh call =>
      refine (signed_of_recoverable ?_).of_path call
      exact rotateSession_yields Recoverable.kept
        (fun _ _ _ _ => rotatedUser_recoverable _ _ _ _ none) _ _
  | stepUp call =>
      refine (signed_of_recoverable ?_).of_path call
      exact stepUpSession_yields Recoverable.kept _ _ _
        fun _ _ _ _ _ => rotatedUser_recoverable _ _ _ _ _
  | accessTokenOnly call => exact (issueAccessTokenOnly_yields _).of_path call
  | sessionBound preparing tailored call =>
      obtain ⟨-, second, now, id, -, issuedFrom⟩ :=
        (issueSessionBoundAccessTokenOnly_upholds svc _).post_of_path call _ rfl
      exact issuedFrom.signedGrant (nodup_scopes_of_prepared preparing tailored)

/--
Every access token issued for the normal audience authenticates as exactly the
principal that issuance returned until the second of its `exp` claim, and not from
then on.  The one proviso is a library that reads no expiry before the epoch.
-/
theorem access_token_round_trip {lib : JwtLibrary} (faithful : lib.Faithful) (svc : JwtService lib)
    {token : String} {expiresAt : OffsetDateTime} {user : AuthUser}
    (issued : IssuedAccess svc.auth token expiresAt user) :
    ∃ claims, svc.auth.encodeJwt claims = .ok token ∧
      ∀ now : OffsetDateTime,
        (0 ≤ claims.exp ∨ lib.ReadsExpiry claims.exp → now.unixTimestamp < claims.exp →
          svc.authenticateAccessToken token now = .ok user) ∧
        (claims.exp ≤ now.unixTimestamp → ∃ e, svc.authenticateAccessToken token now = .error e) := by
  have signed := issued.signedFor
  obtain ⟨issuedAt, claims, written⟩ := signed.claims faithful
  have reads := readsFor_service svc
  have requirements := ClaimRequirements.validate_default user.tokenClaims
  refine ⟨claims, ?_, fun now => ?_⟩
  · rw [svc.encodes]
    exact written.encoded
  rw [written.exp_eq]
  constructor
  · intro readable live
    have authenticated : svc.authenticateAccessToken token now = _ :=
      signed.authenticateWith_eq faithful reads requirements readable now
    rw [authenticated, if_neg (not_le.mpr live)]
  · intro expired
    cases answer : svc.authenticateAccessToken token now with
    | error e => exact ⟨e, rfl⟩
    | ok decoded =>
        have live := (signed.of_authenticateWith faithful reads requirements answer).1
        exact absurd expired (not_le.mpr live)

def sharedSecret : String := "0123456789abcdef0123456789abcdef"

/-- A bare service that signs with the shared secret. -/
def secretConfig : AuthConfig :=
  { (AuthService.bare .default).config with jwtSigning := .hs256 sharedSecret }

theorem secretConfig_validate : secretConfig.validate askedAt = .ok () := by
  decide +kernel

def secretKeys (table : List TableEntry) : JwtKeyMaterial (tableLibrary table) where
  encodingKey := sharedSecret
  decodingKey := sharedSecret
  validation := validationFor .hs256 "issuer" ["app"]
  algorithm := .hs256
  keyId := none
  jwks := none

def secretService (table : List TableEntry) : JwtService (tableLibrary table) where
  auth := { AuthService.bare .default with
    config := secretConfig
    encodeJwt := fun claims => (secretKeys table).encode (claims.toJson tableInstant) }
  keys := secretKeys table
  builtAt := askedAt
  accepted := secretConfig_validate
  configured := rfl
  encodes _ := rfl

theorem fitsI64_minute : Json.FitsI64 60 := by simp [Json.FitsI64]

def serviceGrant : AccessTokenOnlyRequest where
  userId := "service-1"
  roles := ["Importer"]
  scopes := ["orders.read", "orders.write"]
  session := .forAuthMethod .serviceToken
  tenantId := some "tenant-7"
  authTime := some ⟨60, fitsI64_minute⟩
  additionalClaims := (.empty : ClaimMap).insert "region" (.string "eu")

/-- The clock stands still and every identifier drawn is the same. -/
def grantAnswer : (op : AuthOp) → Option (AuthOp.Resp op)
  | .now _ => some askedAt
  | .newUuid => some (⟨7⟩ : Uuid)
  | _ => none

def grantExpiry : OffsetDateTime := .atSecond 360

def grantTable : List TableEntry := [{
  header := { alg := .hs256 }
  payload := ({ AuthService.bare .default with config := secretConfig }.accessTokenClaims
    ((serviceGrant.principal (Uuid.toString ⟨7⟩) ⟨7⟩).stamped (Uuid.toString ⟨7⟩) grantExpiry)
    (some "orders.read orders.write") none askedAt grantExpiry "app").toJson tableInstant
  key := sharedSecret }]

theorem service_grant_round_trip :
    ∃ (grant : AccessTokenOnlyGrant) (claims : AccessTokenClaims),
      grant.user.scopes = ["orders.read", "orders.write"] ∧
      (secretService grantTable).auth.encodeJwt claims = .ok grant.accessToken ∧
      ∀ now : OffsetDateTime,
        (now.unixTimestamp < claims.exp →
          (secretService grantTable).authenticateAccessToken grant.accessToken now =
            .ok grant.user) ∧
        (claims.exp ≤ now.unixTimestamp →
          ∃ e, (secretService grantTable).authenticateAccessToken grant.accessToken now =
            .error e) := by
  obtain ⟨h, issued, path, passed⟩ := exists_path_of_finish
    ((secretService grantTable).auth.issueAccessTokenOnly serviceGrant) grantAnswer
    (fun issued => issued.toOption.any fun grant =>
      grant.user.scopes == ["orders.read", "orders.write"])
    (by decide +kernel)
  rcases issued with e | grant
  · cases passed
  obtain ⟨claims, encoded, authenticates⟩ := access_token_round_trip
    (tableLibrary_faithful grantTable) (secretService grantTable) (.accessTokenOnly path)
  refine ⟨grant, claims, by simpa [Except.toOption] using passed, encoded, fun now => ?_⟩
  have readable := tableLibrary_readsExpiry grantTable claims.exp
  exact ⟨(authenticates now).1 (.inr readable), (authenticates now).2⟩

end AgqlAuth
