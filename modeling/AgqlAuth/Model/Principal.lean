import AgqlAuth.Model.Token

/-!
# Principals and durable references

An authenticated principal, the reference that stands for it in stored work,
and the answers of a host that resolves such a reference to current authority.
-/

namespace AgqlAuth

/-- Maximum UTF-8 byte length of an authoritative session version. -/
def maxSessionVersionLength : Nat := 256

/-- `Option::is_none_or(|value| value.trim().is_empty())`. -/
def blankOrMissing : Option String → Bool
  | none => true
  | some value => (trim value).isEmpty

structure ApiTokenPrincipalKind where
  value : String
  deriving DecidableEq

structure ApiTokenPrincipal where
  tokenId : Uuid
  subject : String
  principalKind : ApiTokenPrincipalKind
  scopes : List String
  audience : Option String
  resourceType : Option String
  resourceId : Option String
  expiresAt : OffsetDateTime
  deriving DecidableEq

inductive AuthPrincipal where
  | user (session : AuthUser)
  | apiToken (token : ApiTokenPrincipal)

namespace AuthPrincipal

def roles : AuthPrincipal → List String
  | .user session => session.roles
  | .apiToken _ => []

def scopes : AuthPrincipal → List String
  | .user session => session.scopes
  | .apiToken token => token.scopes

end AuthPrincipal

inductive PrincipalReferenceKind where
  | userSession
  | apiToken (principalKind : String)
  deriving DecidableEq

/-- A serializable reference to a principal, without credentials, roles or scopes. -/
structure PrincipalReference where
  kind : PrincipalReferenceKind
  subject : String
  sessionId : Option String
  tokenId : Option String
  sessionFamilyId : Option String
  grantKind : Option AccessTokenGrantKind
  sessionVersion : Option String
  tenantId : Option String
  audience : Option String
  resourceType : Option String
  resourceId : Option String
  actorSubject : Option String
  expiresAt : Option OffsetDateTime
  correlationId : Option String
  operation : Option ExactOperationBinding
  deriving DecidableEq

def AuthPrincipal.reference : AuthPrincipal → PrincipalReference
  | .user session => {
      kind := .userSession
      subject := session.userId
      sessionId := some session.sessionId.toString
      tokenId := session.tokenClaims.jti
      sessionFamilyId := session.tokenClaims.sessionFamilyId
      grantKind := session.tokenClaims.grantKind
      sessionVersion := session.tokenClaims.sessionVersion
      tenantId := session.tokenClaims.tenantId
      audience := none
      resourceType := session.tokenClaims.resourceType
      resourceId := session.tokenClaims.resourceId
      actorSubject := session.tokenClaims.actor.map (·.sub)
      expiresAt := session.tokenClaims.expiresAt
      correlationId := session.tokenClaims.correlationId
      operation := session.tokenClaims.operation }
  | .apiToken token => {
      kind := .apiToken token.principalKind.value
      subject := token.subject
      sessionId := none
      tokenId := some token.tokenId.toString
      sessionFamilyId := none
      grantKind := none
      sessionVersion := none
      tenantId := none
      audience := token.audience
      resourceType := token.resourceType
      resourceId := token.resourceId
      actorSubject := none
      expiresAt := some token.expiresAt
      correlationId := none
      operation := none }

/-- Grants that cannot stand for the user's own session. -/
def notOrdinary (grantKind : Option AccessTokenGrantKind) : Bool :=
  grantKind == some .sessionless || grantKind == some .sessionBoundDelegation

/-- `PrincipalReference::matches`: the resolved principal keeps what the reference fixes. -/
def PrincipalReference.matchesPrincipal (self : PrincipalReference) (principal : AuthPrincipal) :
    Bool :=
  let current := principal.reference
  match self.kind, current.kind with
  | .userSession, .userSession =>
      if self.grantKind = some .sessionBoundDelegation then
        self.subject == current.subject && self.sessionId == current.sessionId &&
          self.sessionFamilyId == current.sessionFamilyId &&
          self.sessionVersion == current.sessionVersion &&
          self.tenantId == current.tenantId && !notOrdinary current.grantKind
      else
        self.subject == current.subject && self.sessionId == current.sessionId &&
          self.sessionFamilyId == current.sessionFamilyId && !notOrdinary self.grantKind &&
          !notOrdinary current.grantKind &&
          self.sessionVersion.all (fun version => current.sessionVersion == some version) &&
          self.tenantId == current.tenantId && self.resourceType == current.resourceType &&
          self.resourceId == current.resourceId && self.actorSubject == current.actorSubject &&
          self.operation == current.operation
  | .apiToken expectedKind, .apiToken currentKind =>
      expectedKind == currentKind && self.subject == current.subject &&
        self.tokenId == current.tokenId && self.audience == current.audience &&
        self.resourceType == current.resourceType && self.resourceId == current.resourceId
  | _, _ => false

/-- `Option::is_none_or(|expiry| expiry <= now)`. -/
def expiredOrMissing (expiresAt : Option OffsetDateTime) (now : OffsetDateTime) : Bool :=
  match expiresAt with
  | none => true
  | some expiry => expiry ≤ now

/--
A rehydrated principal paired with the reference used to resolve it.  The fields
are private in the source, so every value was built by one of the constructors
below and its principal matches its reference.
-/
structure ResolvedPrincipal where
  reference : PrincipalReference
  principal : AuthPrincipal
  resolvedAt : OffsetDateTime
  currentSessionAuthority : Bool
  matched : reference.matchesPrincipal principal = true

namespace ResolvedPrincipal

def new (reference : PrincipalReference) (principal : AuthPrincipal)
    (resolvedAt : OffsetDateTime) : AuthResult ResolvedPrincipal :=
  if matched : reference.matchesPrincipal principal = true then
    .ok { reference, principal, resolvedAt, currentSessionAuthority := false, matched }
  else .error .forbidden

/-- Pair an ordinary user credential with separately read current session authority. -/
def fromCurrentSession (reference : PrincipalReference) (principal : AuthPrincipal)
    (resolvedAt : OffsetDateTime) : AuthResult ResolvedPrincipal :=
  let current := principal.reference
  if reference.kind != .userSession || reference.grantKind != some .userSession ||
      current.grantKind != some .userSession || (trim reference.subject).isEmpty ||
      blankOrMissing reference.tokenId || reference.sessionId.isNone ||
      blankOrMissing reference.sessionFamilyId || blankOrMissing current.sessionVersion ||
      (current.sessionVersion.any fun version => maxSessionVersionLength < version.utf8ByteSize)
  then .error .forbidden
  else if expiredOrMissing reference.expiresAt resolvedAt ||
      expiredOrMissing current.expiresAt resolvedAt then
    .error .accessTokenExpired
  else
    match new reference principal resolvedAt with
    | .error e => .error e
    | .ok resolved => .ok { resolved with currentSessionAuthority := true }

/-- Whether the answer is about exactly the reference that was asked for. -/
def matchesSensitiveReference (self : ResolvedPrincipal) (reference : PrincipalReference) : Bool :=
  self.reference == reference &&
    if self.currentSessionAuthority ||
        reference.grantKind == some .sessionBoundDelegation then
      reference.matchesPrincipal self.principal
    else self.principal.reference == reference

end ResolvedPrincipal

end AgqlAuth
