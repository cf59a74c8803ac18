import AgqlAuth.Json.OrderedMap
import AgqlAuth.Token.Wire

/-!
# Claim sets as JSON

The access token's claims, whose custom claims are flattened into the same
object, and their reader.
-/

namespace AgqlAuth

open Json

namespace AccessTokenClaims

def fields : List String := [
  "typ", "sub", "sid", "roles", "authorization_roles", "scope", "scopes", "ctx", "iss", "aud",
  "exp", "iat", "nbf", "purpose", "jti", "tenant_id", "organization_id", "session_family_id",
  "grant_kind", "session_version", "actor", "auth_time", "amr", "acr", "cnf", "resource_type",
  "resource_id", "correlation_id", "operation"]

section Instants

variable (instant : Codec OffsetDateTime)

def slots (self : AccessTokenClaims) : Slots := [
  ("typ", self.typ.map string.write),
  ("sub", some (string.write self.sub)),
  ("sid", some (string.write self.sid)),
  ("roles", some ((list string).write self.roles)),
  ("authorization_roles",
    writtenUnless self.authorizationRoles.isEmpty ((list string).write self.authorizationRoles)),
  ("scope", self.scope.map string.write),
  ("scopes", self.legacyScopes.map (list string).write),
  ("ctx", some ((SessionContext.json instant).write self.ctx)),
  ("iss", some (string.write self.iss)),
  ("aud", some self.aud),
  ("exp", some (i64.write self.exp)),
  ("iat", some (i64.write self.iat)),
  ("nbf", self.nbf.map i64.write),
  ("purpose", self.purpose.map string.write),
  ("jti", self.jti.map string.write),
  ("tenant_id", self.tenantId.map string.write),
  ("organization_id", self.organizationId.map string.write),
  ("session_family_id", self.sessionFamilyId.map string.write),
  ("grant_kind", self.grantKind.map AccessTokenGrantKind.json.write),
  ("session_version", self.sessionVersion.map string.write),
  ("actor", self.actor.map ActorIdentity.json.write),
  ("auth_time", self.authTime.map i64.write),
  ("amr", self.amr.map (list string).write),
  ("acr", self.acr.map string.write),
  ("cnf", self.cnf.map ConfirmationClaims.json.write),
  ("resource_type", self.resourceType.map string.write),
  ("resource_id", self.resourceId.map string.write),
  ("correlation_id", self.correlationId.map string.write),
  ("operation", self.operation.map ExactOperationBinding.json.write)]

def entries (self : AccessTokenClaims) : Entries := (self.slots instant).present ++ self.additional

/-- The serialized claims. -/
def toJson (self : AccessTokenClaims) : JsonValue := .object (self.entries instant)

/-- `deserialize_authorization_roles`; roles left out are the valid empty set. -/
def readAuthorizationRoles (entries : Entries) : Option (List String) := do
  let roles ← defaulted (list string) [] entries "authorization_roles"
  if validAuthorizationRoleSet roles then some (dedupeStable roles) else none

/-- A claim of any JSON value, `null` included. -/
def requiredValue (entries : Entries) (name : String) : Option JsonValue :=
  match occurrences name entries with
  | [value] => some value
  | _ => none

def ofEntries (entries : Entries) : Option AccessTokenClaims := do
  let typ ← optional string entries "typ"
  let sub ← required string entries "sub"
  let sid ← required string entries "sid"
  let roles ← required (list string) entries "roles"
  let authorizationRoles ← readAuthorizationRoles entries
  let scope ← optional string entries "scope"
  let legacyScopes ← optional (list string) entries "scopes"
  let ctx ← defaulted (SessionContext.json instant) {} entries "ctx"
  let iss ← required string entries "iss"
  let aud ← requiredValue entries "aud"
  let exp ← required i64 entries "exp"
  let iat ← required i64 entries "iat"
  let nbf ← optional i64 entries "nbf"
  let purpose ← optional string entries "purpose"
  let jti ← optional string entries "jti"
  let tenantId ← optional string entries "tenant_id"
  let organizationId ← optional string entries "organization_id"
  let sessionFamilyId ← optional string entries "session_family_id"
  let grantKind ← optional AccessTokenGrantKind.json entries "grant_kind"
  let sessionVersion ← optional string entries "session_version"
  let actor ← optional ActorIdentity.json entries "actor"
  let authTime ← optional i64 entries "auth_time"
  let amr ← optional (list string) entries "amr"
  let acr ← optional string entries "acr"
  let cnf ← optional ConfirmationClaims.json entries "cnf"
  let resourceType ← optional string entries "resource_type"
  let resourceId ← optional string entries "resource_id"
  let correlationId ← optional string entries "correlation_id"
  let operation ← optional ExactOperationBinding.json entries "operation"
  some {
    typ, sub, sid, roles, authorizationRoles, scope, legacyScopes, ctx, iss, aud, exp, iat, nbf,
    purpose, jti, tenantId, organizationId, sessionFamilyId, grantKind, sessionVersion, actor,
    authTime, amr, acr, cnf, resourceType, resourceId, correlationId, operation
    additional := collectEntries (unnamed fields entries) }

/-- The deserialized claims. -/
def ofJson (payload : JsonValue) : Option AccessTokenClaims :=
  (entriesOf payload).bind (ofEntries instant)

/-- What reading needs of claims to give them back. -/
structure Readable (claims : AccessTokenClaims) : Prop where
  roles_valid : validAuthorizationRoleSet claims.authorizationRoles = true
  roles_nodup : claims.authorizationRoles.Nodup
  instants : ∀ assurance ∈ claims.ctx.assurance, instant.Fits assurance.authenticatedAt
  exp : FitsI64 claims.exp
  iat : FitsI64 claims.iat
  nbf : ∀ seconds ∈ claims.nbf, FitsI64 seconds
  authTime : ∀ seconds ∈ claims.authTime, FitsI64 seconds
  ascending : Ascending claims.additional
  unreserved : ∀ entry ∈ claims.additional, entry.1 ∉ fields

theorem writtenFrom (self : AccessTokenClaims)
    (unreserved : ∀ entry ∈ self.additional, entry.1 ∉ fields) :
    WrittenFrom (self.slots instant) self.additional (self.entries instant) where
  distinct := by
    have names : (self.slots instant).names = fields := rfl
    rw [names]
    decide
  apart := unreserved
  entries_eq := rfl

variable {instant}

theorem ofJson_toJson {self : AccessTokenClaims} (readable : self.Readable instant) :
    ofJson instant (self.toJson instant) = some self := by
  have written := writtenFrom instant self readable.unreserved
  have roles : readAuthorizationRoles (self.entries instant) = some self.authorizationRoles := by
    rw [readAuthorizationRoles, written.skippable_eq (list string) 4 rfl (fun _ _ => trivial)
      List.isEmpty_iff.mp]
    change (if _ then _ else _) = _
    rw [if_pos readable.roles_valid, dedupeStable_eq_self readable.roles_nodup]
  have aud : requiredValue (self.entries instant) "aud" = some self.aud := by
    rw [requiredValue, written.occurrences_eq (List.mem_of_getElem? (i := 9) rfl)]
    rfl
  have additional : collectEntries (unnamed fields (self.entries instant)) = self.additional := by
    have rest := written.unnamed_eq
    rw [show (self.slots instant).names = fields from rfl] at rest
    rw [rest, collectEntries_of_ascending readable.ascending]
  change ofEntries instant (self.entries instant) = _
  rw [ofEntries, roles, aud, additional,
    written.optional_eq string 0 rfl fun _ _ => trivial,
    written.required_eq string 1 rfl trivial,
    written.required_eq string 2 rfl trivial,
    written.required_eq (list string) 3 rfl fun _ _ => trivial,
    written.optional_eq string 5 rfl fun _ _ => trivial,
    written.optional_eq (list string) 6 rfl fun _ _ _ _ => trivial,
    written.defaulted_eq (SessionContext.json instant) 7 rfl readable.instants,
    written.required_eq string 8 rfl trivial,
    written.required_eq i64 10 rfl readable.exp,
    written.required_eq i64 11 rfl readable.iat,
    written.optional_eq i64 12 rfl readable.nbf,
    written.optional_eq string 13 rfl fun _ _ => trivial,
    written.optional_eq string 14 rfl fun _ _ => trivial,
    written.optional_eq string 15 rfl fun _ _ => trivial,
    written.optional_eq string 16 rfl fun _ _ => trivial,
    written.optional_eq string 17 rfl fun _ _ => trivial,
    written.optional_eq AccessTokenGrantKind.json 18 rfl fun _ _ => trivial,
    written.optional_eq string 19 rfl fun _ _ => trivial,
    written.optional_eq ActorIdentity.json 20 rfl fun _ _ => trivial,
    written.optional_eq i64 21 rfl readable.authTime,
    written.optional_eq (list string) 22 rfl fun _ _ _ _ => trivial,
    written.optional_eq string 23 rfl fun _ _ => trivial,
    written.optional_eq ConfirmationClaims.json 24 rfl fun _ _ => trivial,
    written.optional_eq string 25 rfl fun _ _ => trivial,
    written.optional_eq string 26 rfl fun _ _ => trivial,
    written.optional_eq string 27 rfl fun _ _ => trivial,
    written.optional_eq ExactOperationBinding.json 28 rfl fun _ _ => trivial]
  rfl

end Instants

end AccessTokenClaims

end AgqlAuth
