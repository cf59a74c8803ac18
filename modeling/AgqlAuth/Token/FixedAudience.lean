import AgqlAuth.Service.Delegate
import AgqlAuth.Token.Service

/-!
# Delegation for one fixed audience

An owner may reserve one audience at startup.  Tokens for it are issued and read
through a facade only.
-/

namespace AgqlAuth

open Interaction

def maxFixedAudienceLength : Nat := 1024

/-- The facade keeps its audience; its owner is behind a weak reference. -/
structure FixedAudienceDelegation where
  audience : String

/-- The owner's side of the checks of `into_shared_with_fixed_audience_delegation`. -/
def checkFixedAudience (audience : String) (auth : AuthService) (algorithm : JwtAlgorithm) :
    AuthResult Unit :=
  if audience.isEmpty || maxFixedAudienceLength < audience.utf8ByteSize ||
      trim audience != audience || audience.toList.any isControl then
    .error (.invalidConfiguration "fixed delegation audience is invalid")
  else if eqIgnoreAsciiCase audience auth.config.audience then
    .error (.invalidConfiguration
      "fixed delegation audience must differ from the normal audience")
  else if algorithm ≠ .rs256 then
    .error (.invalidConfiguration "fixed-audience delegation requires an RS256 owner")
  else if !auth.hasActiveUserSessionResolver then .error AuthService.missingResolver
  else .ok ()

/-- A reserved audience is not the normal one in another case. -/
theorem apart_of_checkFixedAudience {audience : String} {auth : AuthService}
    {algorithm : JwtAlgorithm} (accepted : checkFixedAudience audience auth algorithm = .ok ()) :
    eqIgnoreAsciiCase audience auth.config.audience = false := by
  obtain ⟨-, accepted⟩ := Except.ite_error_eq_ok_iff.mp accepted
  obtain ⟨apart, -⟩ := Except.ite_error_eq_ok_iff.mp accepted
  simpa using apart

namespace JwtService

variable {lib : JwtLibrary}

/-- The owner once `audience` is reserved. -/
def reserving (self : JwtService lib) (audience : String) : JwtService lib :=
  { self with auth := { self.auth with fixedDelegationAudience := some audience } }

def intoSharedWithFixedAudienceDelegation (self : JwtService lib) (audience : String) :
    AuthResult (JwtService lib × FixedAudienceDelegation) :=
  match checkFixedAudience audience self.auth self.keys.algorithm with
  | .error e => .error e
  | .ok () => .ok (self.reserving audience, { audience })

end JwtService

/-- `owner` and `facade` came out of one reservation. -/
structure FacadeOf {lib : JwtLibrary} (owner : JwtService lib) (facade : FixedAudienceDelegation) :
    Prop where
  reserved : owner.auth.fixedDelegationAudience = some facade.audience
  apart : eqIgnoreAsciiCase facade.audience owner.auth.config.audience = false

theorem FacadeOf.ne_normal {lib : JwtLibrary} {owner : JwtService lib}
    {facade : FixedAudienceDelegation} (of : FacadeOf owner facade) :
    facade.audience ≠ owner.auth.config.audience := by
  intro same
  have apart := of.apart
  rw [same] at apart
  simp [eqIgnoreAsciiCase] at apart

theorem facadeOf_of_reservation {lib : JwtLibrary} {source owner : JwtService lib}
    {audience : String} {facade : FixedAudienceDelegation}
    (shared : source.intoSharedWithFixedAudienceDelegation audience = .ok (owner, facade)) :
    FacadeOf owner facade := by
  unfold JwtService.intoSharedWithFixedAudienceDelegation at shared
  split at shared
  · cases shared
  rename_i accepted
  cases shared
  exact {
    reserved := rfl
    apart := apart_of_checkFixedAudience accepted }

namespace FixedAudienceDelegation

open DelegationM

/-- The owner, while it is alive, and the request bound to this audience. -/
def prepareSessionBoundAccessTokenOnly (self : FixedAudienceDelegation)
    (owner : Option AuthService) (resolved : ResolvedPrincipal) (roles scopes : List String)
    (binding : SessionBoundDelegationBinding) : DelegationM SessionBoundAccessTokenOnlyRequest :=
  match owner with
  | none => fail .authServiceUnavailable
  | some owner => do
      let request ← owner.prepareSessionBoundAccessTokenOnly resolved roles scopes binding
      auth (AuthService.requireEnabledDelegationParent request.reference.subject)
      pure { request with fixedAudience := some self.audience }

def issueSessionBoundAccessTokenOnly (self : FixedAudienceDelegation) (owner : Option AuthService)
    (request : SessionBoundAccessTokenOnlyRequest) : DelegationM AccessTokenOnlyGrant :=
  match owner with
  | none => fail .authServiceUnavailable
  | some owner =>
      if request.fixedAudience ≠ some self.audience then fail .forbidden
      else owner.issueSessionBoundAccessTokenOnlyForAudience request self.audience

def authenticateAccessToken {lib : JwtLibrary} (self : FixedAudienceDelegation)
    (owner : Option (JwtService lib)) (token : String) (now : OffsetDateTime) :
    AuthResult AuthUser :=
  match owner with
  | none => .error .authServiceUnavailable
  | some owner => owner.authenticateFixedAudienceAccessToken token self.audience now

end FixedAudienceDelegation

end AgqlAuth
