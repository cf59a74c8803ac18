import AgqlAuth.Json.OrderedMap
import AgqlAuth.Model.Token

/-!
# Recent-MFA policies

`RecentMfaPolicy`, its ordered denials, and the host's map from policy
identifiers to policies.  An evaluation reads the clock once; the reading is an
argument here.
-/

namespace AgqlAuth

def maxAssurancePolicyIdLength : Nat := 128

def validPolicyIdChar (c : Char) : Bool :=
  c.isAlphanum || c == '-' || c == '_' || c == '.' || c == ':' || c == '/'

/-- The test of `AssurancePolicyId::new`. -/
def validAssurancePolicyId (value : String) : Bool :=
  !value.isEmpty && value.utf8ByteSize ≤ maxAssurancePolicyIdLength &&
    value.toList.all validPolicyIdChar

structure AssurancePolicyId where
  value : String
  valid : validAssurancePolicyId value = true
  deriving DecidableEq

namespace AssurancePolicyId

def new (value : String) : Option AssurancePolicyId :=
  if valid : validAssurancePolicyId value = true then some ⟨value, valid⟩ else none

theorem value_injective : Function.Injective value := by
  intro a b same
  cases a
  cases b
  simpa using same

instance : LinearOrder AssurancePolicyId := LinearOrder.lift' value value_injective

end AssurancePolicyId

structure AssuranceRequirement where
  policyId : AssurancePolicyId
  deriving DecidableEq

inductive AssuranceDenialCode where
  | assuranceRequired
  | mfaRequired
  | assuranceMethodNotAllowed
  | invalidAuthenticationTime
  | authenticationTooOld
  | assurancePolicyError
  deriving DecidableEq

def AssuranceDenialCode.graphqlExtensionCode : AssuranceDenialCode → String
  | .assurancePolicyError => "FORBIDDEN"
  | _ => "STEP_UP_REQUIRED"

structure AssuranceDenial where
  code : AssuranceDenialCode
  internalDetail : String
  deriving DecidableEq

inductive AssuranceMatchMode where
  | all
  | any
  deriving DecidableEq

inductive AssuranceEvaluationState where
  | satisfied
  | unauthenticated
  | stepUpRequired (denialCode : AssuranceDenialCode)
  | forbidden (denialCode : AssuranceDenialCode)
  deriving DecidableEq

structure AssuranceEvaluation where
  requirement : AssuranceRequirement
  state : AssuranceEvaluationState
  serverEvaluationTime : OffsetDateTime
  authenticatedAt : Option OffsetDateTime := none
  satisfiedUntil : Option OffsetDateTime := none
  deriving DecidableEq

structure RecentMfaPolicy where
  maximumAge : Duration
  clockSkew : Duration
  allowedAmr : List String
  allowedAcr : List String
  matchMode : AssuranceMatchMode

namespace RecentMfaPolicy

def amrMatches (self : RecentMfaPolicy) (assurance : SessionAssurance) : Bool :=
  assurance.methods.any fun method => self.allowedAmr.any fun allowed => allowed == method

def acrMatches (self : RecentMfaPolicy) (assurance : SessionAssurance) : Bool :=
  assurance.acr.any fun acr => self.allowedAcr.any fun allowed => allowed == acr

def allowlistsMatch (self : RecentMfaPolicy) (assurance : SessionAssurance) : Bool :=
  let amrConfigured := !self.allowedAmr.isEmpty
  let acrConfigured := !self.allowedAcr.isEmpty
  match self.matchMode with
  | .all =>
      (!amrConfigured || self.amrMatches assurance) && (!acrConfigured || self.acrMatches assurance)
  | .any =>
      (!amrConfigured && !acrConfigured) || (amrConfigured && self.amrMatches assurance) ||
        (acrConfigured && self.acrMatches assurance)

/-- The session's assurance, once it meets everything but the token's claims and the clock. -/
def acceptedAssurance (self : RecentMfaPolicy) (user : AuthUser) :
    Except AssuranceDenial SessionAssurance :=
  if self.maximumAge < .zero ∨ self.clockSkew < .zero then
    .error ⟨.assurancePolicyError, "maximum_age and clock_skew must be non-negative"⟩
  else
    match user.session.assurance with
    | none => .error ⟨.assuranceRequired, "session assurance missing"⟩
    | some assurance =>
        match assurance.validate with
        | .error e => .error ⟨.assuranceRequired, e.toString⟩
        | .ok () =>
            if assurance.mfa ≠ .satisfied ∨ user.session.mfa.satisfied = false then
              .error ⟨.mfaRequired, "host MFA acceptance is unsatisfied"⟩
            else if self.allowlistsMatch assurance = false then
              .error ⟨.assuranceMethodNotAllowed,
                "session AMR/ACR did not satisfy the configured allowlists"⟩
            else .ok assurance

/-- The token's `auth_time`, once the assurance claims agree with the session. -/
def claimedTime (user : AuthUser) (assurance : SessionAssurance) :
    Except AssuranceDenial OffsetDateTime :=
  match user.tokenClaims.authTime with
  | none => .error ⟨.assuranceRequired, "access token auth_time is missing"⟩
  | some seconds =>
      match OffsetDateTime.fromUnixTimestamp seconds with
      | none =>
          .error ⟨.invalidAuthenticationTime, "access token auth_time is outside supported bounds"⟩
      | some authTime =>
          if authTime ≠ assurance.authenticatedAt ∨
              user.tokenClaims.amr ≠ some assurance.methods ∨
              user.tokenClaims.acr ≠ assurance.acr then
            .error ⟨.assuranceRequired,
              "access-token assurance claims do not match authoritative session assurance"⟩
          else .ok authTime

/-- How long `authTime` will do, once it is neither ahead of the clock nor too old. -/
def satisfiedUntil (self : RecentMfaPolicy) (authTime now : OffsetDateTime) :
    Except AssuranceDenial OffsetDateTime :=
  match now.checkedAdd self.clockSkew with
  | none => .error ⟨.assurancePolicyError, "future-skew calculation overflowed"⟩
  | some latest =>
      if latest < authTime then
        .error ⟨.invalidAuthenticationTime, "auth_time is beyond allowed future clock skew"⟩
      else
        match now.checkedSub self.maximumAge with
        | none => .error ⟨.assurancePolicyError, "maximum-age calculation overflowed"⟩
        | some oldest =>
            if authTime < oldest then
              .error ⟨.authenticationTooOld, "auth_time exceeds maximum authentication age"⟩
            else
              match authTime.checkedAdd self.maximumAge with
              | none => .error ⟨.assurancePolicyError, "satisfied-until calculation overflowed"⟩
              | some deadline => .ok deadline

def evaluateAt (self : RecentMfaPolicy) (user : AuthUser) (now : OffsetDateTime) :
    Except AssuranceDenial (OffsetDateTime × OffsetDateTime) := do
  let assurance ← self.acceptedAssurance user
  let authTime ← claimedTime user assurance
  let deadline ← self.satisfiedUntil authTime now
  pure (authTime, deadline)

def evaluateRequirement (self : RecentMfaPolicy) (requirement : AssuranceRequirement)
    (user : Option AuthUser) (now : OffsetDateTime) : AssuranceEvaluation :=
  match user with
  | none => { requirement, state := .unauthenticated, serverEvaluationTime := now }
  | some session =>
      match self.evaluateAt session now with
      | .ok (authenticatedAt, deadline) => {
          requirement
          state := .satisfied
          serverEvaluationTime := now
          authenticatedAt := some authenticatedAt
          satisfiedUntil := some deadline }
      | .error denial => {
          requirement
          state :=
            if denial.code.graphqlExtensionCode = "FORBIDDEN" then .forbidden denial.code
            else .stepUpRequired denial.code
          serverEvaluationTime := now }

end RecentMfaPolicy

structure AssurancePolicySet where
  policies : Json.OrderedMap AssurancePolicyId RecentMfaPolicy := .empty

namespace AssurancePolicySet

def get (self : AssurancePolicySet) (policyId : AssurancePolicyId) : Option RecentMfaPolicy :=
  self.policies.find? policyId

/-- The set with one policy added or replaced, and the policy it replaced. -/
def insert (self : AssurancePolicySet) (policyId : AssurancePolicyId) (policy : RecentMfaPolicy) :
    AssurancePolicySet × Option RecentMfaPolicy :=
  (⟨self.policies.insert policyId policy⟩, self.get policyId)

def evaluate (self : AssurancePolicySet) (requirement : AssuranceRequirement)
    (user : Option AuthUser) (now : OffsetDateTime) : AssuranceEvaluation :=
  match self.get requirement.policyId with
  | none => {
      requirement
      state := .forbidden .assurancePolicyError
      serverEvaluationTime := now }
  | some policy => policy.evaluateRequirement requirement user now

end AssurancePolicySet

end AgqlAuth
