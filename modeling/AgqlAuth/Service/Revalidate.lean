import AgqlAuth.Interaction.Program
import AgqlAuth.Model.Principal

/-!
# Sensitive revalidation

The check of an accepted credential immediately before a sensitive operation.
The status checker and the principal resolver are the host's.
-/

namespace AgqlAuth

open Interaction

inductive TokenStatus where
  | active
  | revoked
  | expired
  deriving DecidableEq

structure TokenStatusRequest where
  principal : AuthPrincipal
  tokenId : Option String
  sessionId : Option String
  sessionFamilyId : Option String
  tenantId : Option String

/-- `ReauthorizationPolicy::status_to_error`. -/
def statusToError : TokenStatus → AuthResult Unit
  | .active => .ok ()
  | .revoked => .error .tokenRevoked
  | .expired => .error .accessTokenExpired

inductive AuthorityOp where
  | checkStatus (request : TokenStatusRequest)
  | resolve (reference : PrincipalReference)

def AuthorityOp.Resp : AuthorityOp → Type
  | .checkStatus _ => AuthResult TokenStatus
  | .resolve _ => AuthResult ResolvedPrincipal

abbrev authoritySignature : Signature := ⟨AuthorityOp, AuthorityOp.Resp⟩

abbrev AuthorityM (α : Type) := Fallible authoritySignature AuthError α

namespace AuthorityM

open Program

def fail {α : Type} (e : AuthError) : AuthorityM α := Fallible.fail e

def lift {α : Type} (result : AuthResult α) : AuthorityM α := ret result

def checkStatus (request : TokenStatusRequest) : AuthorityM TokenStatus :=
  call (S := authoritySignature) (.checkStatus request) ret

def resolve (reference : PrincipalReference) : AuthorityM ResolvedPrincipal :=
  call (S := authoritySignature) (.resolve reference) ret

end AuthorityM

/-- What the status checker is asked about an accepted principal. -/
def statusRequest (accepted : AuthPrincipal) : TokenStatusRequest :=
  let reference := accepted.reference
  { principal := accepted
    tokenId := reference.tokenId
    sessionId := reference.sessionId
    sessionFamilyId := reference.sessionFamilyId
    tenantId := reference.tenantId }

/-- `Vec::retain` of the values the current principal also has. -/
def retainPresent (accepted current : List String) : List String :=
  accepted.filter current.contains

/-- The part that narrows the accepted principal to the current one's grants. -/
def narrowToCurrent (accepted current : AuthPrincipal) : AuthResult AuthPrincipal :=
  let reference := accepted.reference
  match accepted, current with
  | .user accepted, .user current =>
      if reference.grantKind = some .sessionBoundDelegation ∧
          (blankOrMissing reference.sessionVersion || blankOrMissing reference.sessionFamilyId) then
        .error .forbidden
      else if accepted.session.activeScope ≠ current.session.activeScope then .error .forbidden
      else .ok (.user { accepted with
        roles := retainPresent accepted.roles current.roles
        scopes := retainPresent accepted.scopes current.scopes
        tokenClaims := { accepted.tokenClaims with
          authorizationRoles := retainPresent accepted.tokenClaims.authorizationRoles
            current.tokenClaims.authorizationRoles } })
  | .apiToken accepted, .apiToken current =>
      .ok (.apiToken { accepted with scopes := retainPresent accepted.scopes current.scopes })
  | _, _ => .error .forbidden

open AuthorityM in
def revalidateSensitivePrincipal (accepted : AuthPrincipal) (now : OffsetDateTime) :
    AuthorityM AuthPrincipal := do
  let reference := accepted.reference
  if (trim reference.subject).isEmpty || blankOrMissing reference.tokenId then fail .forbidden
  else if expiredOrMissing reference.expiresAt now then fail .accessTokenExpired
  else do
    let status ← checkStatus (statusRequest accepted)
    lift (statusToError status)
    let resolved ← resolve reference
    if !resolved.matchesSensitiveReference reference then fail .forbidden
    else if expiredOrMissing resolved.principal.reference.expiresAt now then
      fail .accessTokenExpired
    else lift (narrowToCurrent accepted resolved.principal)

end AgqlAuth
