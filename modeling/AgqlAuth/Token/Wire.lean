import AgqlAuth.Json.Record
import AgqlAuth.Model.Token

/-!
# The JSON form of what a token carries

The types nested in the claims of a token, as their derived serializers write and
read them.
-/

namespace AgqlAuth

open Json

def AccessTokenGrantKind.name : AccessTokenGrantKind → String
  | .userSession => "user_session"
  | .sessionless => "sessionless"
  | .sessionBoundDelegation => "session_bound_delegation"

def AccessTokenGrantKind.ofName : String → Option AccessTokenGrantKind
  | "user_session" => some .userSession
  | "sessionless" => some .sessionless
  | "session_bound_delegation" => some .sessionBoundDelegation
  | _ => none

def AccessTokenGrantKind.json : Codec AccessTokenGrantKind :=
  variant name ofName fun kind => by cases kind <;> rfl

def AuthMethod.name : AuthMethod → String
  | .password => "Password"
  | .emailCode => "EmailCode"
  | .smsCode => "SmsCode"
  | .totpStepUp => "TotpStepUp"
  | .serviceToken => "ServiceToken"
  | .oidc => "Oidc"
  | .microsoftOidc => "MicrosoftOidc"

def AuthMethod.ofName : String → Option AuthMethod
  | "Password" => some .password
  | "EmailCode" => some .emailCode
  | "SmsCode" => some .smsCode
  | "TotpStepUp" => some .totpStepUp
  | "ServiceToken" => some .serviceToken
  | "Oidc" => some .oidc
  | "MicrosoftOidc" => some .microsoftOidc
  | _ => none

def AuthMethod.json : Codec AuthMethod :=
  variant name ofName fun method => by cases method <;> rfl

def MfaFactor.name : MfaFactor → String
  | .totp => "Totp"

def MfaFactor.ofName : String → Option MfaFactor
  | "Totp" => some .totp
  | _ => none

def MfaFactor.json : Codec MfaFactor :=
  variant name ofName fun | .totp => rfl

def MfaAcceptance.name : MfaAcceptance → String
  | .unsatisfied => "Unsatisfied"
  | .satisfied => "Satisfied"

def MfaAcceptance.ofName : String → Option MfaAcceptance
  | "Unsatisfied" => some .unsatisfied
  | "Satisfied" => some .satisfied
  | _ => none

def MfaAcceptance.json : Codec MfaAcceptance :=
  variant name ofName fun acceptance => by cases acceptance <;> rfl

namespace ActorIdentity

def fields : List String := ["sub", "amr"]

def slots (self : ActorIdentity) : Slots := [
  ("sub", some (string.write self.sub)),
  ("amr", writtenUnless self.amr.isEmpty ((list string).write self.amr))]

def ofFields (entries : Entries) : Option ActorIdentity := do
  let sub ← required string entries "sub"
  let amr ← defaulted (list string) [] entries "amr"
  some { sub, amr }

theorem ofFields_slots (self : ActorIdentity) : ofFields self.slots.present = some self := by
  have written : WrittenFrom self.slots [] self.slots.present :=
    .alone (show _ = fields from rfl) (by decide)
  rw [ofFields, written.required_eq string 0 rfl trivial,
    written.skippable_eq (list string) 1 rfl (fun _ _ => trivial) List.isEmpty_iff.mp]
  rfl

def json : Codec ActorIdentity :=
  record fields 1 slots ofFields (fun _ => True) fun _ => ofFields_slots _

end ActorIdentity

namespace ConfirmationClaims

def fields : List String := ["x5t#S256", "jkt"]

def slots (self : ConfirmationClaims) : Slots := [
  ("x5t#S256", self.x5tS256.map string.write),
  ("jkt", self.jkt.map string.write)]

def ofFields (entries : Entries) : Option ConfirmationClaims := do
  let x5tS256 ← optional string entries "x5t#S256"
  let jkt ← optional string entries "jkt"
  some { x5tS256, jkt }

theorem ofFields_slots (self : ConfirmationClaims) : ofFields self.slots.present = some self := by
  have written : WrittenFrom self.slots [] self.slots.present :=
    .alone (show _ = fields from rfl) (by decide)
  rw [ofFields, written.optional_eq string 0 rfl fun _ _ => trivial,
    written.optional_eq string 1 rfl fun _ _ => trivial]
  rfl

def json : Codec ConfirmationClaims :=
  record fields 0 slots ofFields (fun _ => True) fun _ => ofFields_slots _

end ConfirmationClaims

namespace ExactOperationBinding

def fields : List String := ["operation_name", "document_sha256"]

def slots (self : ExactOperationBinding) : Slots := [
  ("operation_name", some (string.write self.operationName)),
  ("document_sha256", some (string.write self.documentSha256))]

def ofFields (entries : Entries) : Option ExactOperationBinding := do
  let operationName ← required string entries "operation_name"
  let documentSha256 ← required string entries "document_sha256"
  some { operationName, documentSha256 }

theorem ofFields_slots (self : ExactOperationBinding) :
    ofFields self.slots.present = some self := by
  have written : WrittenFrom self.slots [] self.slots.present :=
    .alone (show _ = fields from rfl) (by decide)
  rw [ofFields, written.required_eq string 0 rfl trivial, written.required_eq string 1 rfl trivial]
  rfl

def json : Codec ExactOperationBinding :=
  record fields 2 slots ofFields (fun _ => True) fun _ => ofFields_slots _

end ExactOperationBinding

/-- The second of an instant fits the claims that carry it. -/
theorem fitsI64_unixTimestamp (t : OffsetDateTime) : FitsI64 t.unixTimestamp := by
  have lower := t.lower
  have upper := t.upper
  simp only [minUnixNanos, maxUnixNanos, nanosPerSecond] at lower upper
  simp only [FitsI64, OffsetDateTime.unixTimestamp, nanosPerSecond]
  omega

/-! ## Session context -/

namespace MfaState

def fields : List String := ["satisfied", "methods"]

def slots (self : MfaState) : Slots := [
  ("satisfied", some (bool.write self.satisfied)),
  ("methods", some ((list MfaFactor.json).write self.methods))]

def ofFields (entries : Entries) : Option MfaState := do
  let satisfied ← required bool entries "satisfied"
  let methods ← required (list MfaFactor.json) entries "methods"
  some { satisfied, methods }

theorem ofFields_slots (self : MfaState) : ofFields self.slots.present = some self := by
  have written : WrittenFrom self.slots [] self.slots.present :=
    .alone (show _ = fields from rfl) (by decide)
  rw [ofFields, written.required_eq bool 0 rfl trivial,
    written.required_eq (list MfaFactor.json) 1 rfl fun _ _ => trivial]
  rfl

def json : Codec MfaState :=
  record fields 2 slots ofFields (fun _ => True) fun _ => ofFields_slots _

def isDefault (self : MfaState) : Bool := !self.satisfied && self.methods.isEmpty

theorem eq_default_of_isDefault {self : MfaState} (default : self.isDefault = true) : self = {} := by
  obtain ⟨satisfied, methods⟩ := self
  simpa [isDefault] using default

end MfaState

namespace ActiveScope

def fields : List String := ["tenant_id", "organization_id", "catalog_id"]

/-- A missing identifier is written as `null`. -/
def slots (self : ActiveScope) : Slots := [
  ("tenant_id", some ((self.tenantId.map string.write).getD .null)),
  ("organization_id", some ((self.organizationId.map string.write).getD .null)),
  ("catalog_id", some ((self.catalogId.map string.write).getD .null))]

def ofFields (entries : Entries) : Option ActiveScope := do
  let tenantId ← optional string entries "tenant_id"
  let organizationId ← optional string entries "organization_id"
  let catalogId ← optional string entries "catalog_id"
  some { tenantId, organizationId, catalogId }

theorem ofFields_slots (self : ActiveScope) : ofFields self.slots.present = some self := by
  have written : WrittenFrom self.slots [] self.slots.present :=
    .alone (show _ = fields from rfl) (by decide)
  rw [ofFields, written.nullable_eq string 0 rfl fun _ _ => trivial,
    written.nullable_eq string 1 rfl fun _ _ => trivial,
    written.nullable_eq string 2 rfl fun _ _ => trivial]
  rfl

def json : Codec ActiveScope :=
  record fields 3 slots ofFields (fun _ => True) fun _ => ofFields_slots _

end ActiveScope

section Instants

variable (instant : Codec OffsetDateTime)

namespace SessionAssurance

def fields : List String := ["authenticated_at", "methods", "acr", "context", "mfa"]

def slots (self : SessionAssurance) : Slots := [
  ("authenticated_at", some (instant.write self.authenticatedAt)),
  ("methods", some ((list string).write self.methods)),
  ("acr", self.acr.map string.write),
  ("context", self.context.map string.write),
  ("mfa", some (MfaAcceptance.json.write self.mfa))]

def ofFields (entries : Entries) : Option SessionAssurance := do
  let authenticatedAt ← required instant entries "authenticated_at"
  let methods ← required (list string) entries "methods"
  let acr ← optional string entries "acr"
  let context ← optional string entries "context"
  let mfa ← required MfaAcceptance.json entries "mfa"
  some { authenticatedAt, methods, acr, context, mfa }

theorem ofFields_slots {self : SessionAssurance} (fits : instant.Fits self.authenticatedAt) :
    ofFields instant (self.slots instant).present = some self := by
  have written : WrittenFrom (self.slots instant) [] (self.slots instant).present :=
    .alone (show _ = fields from rfl) (by decide)
  rw [ofFields, written.required_eq instant 0 rfl fits,
    written.required_eq (list string) 1 rfl fun _ _ => trivial,
    written.optional_eq string 2 rfl fun _ _ => trivial,
    written.optional_eq string 3 rfl fun _ _ => trivial,
    written.required_eq MfaAcceptance.json 4 rfl trivial]
  rfl

def json : Codec SessionAssurance :=
  record fields 5 (slots instant) (ofFields instant) (fun self => instant.Fits self.authenticatedAt)
    (ofFields_slots instant)

end SessionAssurance

namespace SessionContext

def fields : List String := ["auth_method", "mfa", "assurance", "active_scope"]

def slots (self : SessionContext) : Slots := [
  ("auth_method", some (AuthMethod.json.write self.authMethod)),
  ("mfa", writtenUnless self.mfa.isDefault (MfaState.json.write self.mfa)),
  ("assurance", self.assurance.map (SessionAssurance.json instant).write),
  ("active_scope", self.activeScope.map ActiveScope.json.write)]

def ofFields (entries : Entries) : Option SessionContext := do
  let authMethod ← defaulted AuthMethod.json .password entries "auth_method"
  let mfa ← defaulted MfaState.json {} entries "mfa"
  let assurance ← optional (SessionAssurance.json instant) entries "assurance"
  let activeScope ← optional ActiveScope.json entries "active_scope"
  some { authMethod, mfa, assurance, activeScope }

theorem ofFields_slots {self : SessionContext}
    (fits : ∀ assurance ∈ self.assurance, instant.Fits assurance.authenticatedAt) :
    ofFields instant (self.slots instant).present = some self := by
  have written : WrittenFrom (self.slots instant) [] (self.slots instant).present :=
    .alone (show _ = fields from rfl) (by decide)
  rw [ofFields, written.defaulted_eq AuthMethod.json 0 rfl trivial,
    written.skippable_eq MfaState.json 1 rfl trivial MfaState.eq_default_of_isDefault,
    written.optional_eq (SessionAssurance.json instant) 2 rfl fits,
    written.optional_eq ActiveScope.json 3 rfl fun _ _ => trivial]
  rfl

def json : Codec SessionContext :=
  record fields 0 (slots instant) (ofFields instant)
    (fun self => ∀ assurance ∈ self.assurance, instant.Fits assurance.authenticatedAt)
    (ofFields_slots instant)

end SessionContext

end Instants

end AgqlAuth
