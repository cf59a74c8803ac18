import AgqlAuth.Interaction.Interleaving
import AgqlAuth.OAuth.Exchange

/-!
# The state store contract and the calls on it

What `OAuthStateStore` documents: consumption atomically finds an unconsumed
record by provider name and state hash, marks it, and returns it as it was
before.  A store may lose records, expire them, or replace one by another of the
same name and hash; an error may hide a committed write.
-/

namespace AgqlAuth

open Interaction Program

/-- The stored records, and every record that was ever inserted, once for each insertion. -/
structure OAuthWorld where
  states : List OAuthLoginState
  inserted : List OAuthLoginState

namespace OAuthWorld

def insert (w : OAuthWorld) (record : OAuthLoginState) : OAuthWorld where
  states := record :: w.states
  inserted := record :: w.inserted

/-- Some records were deleted or marked; none has become consumable. -/
def Lost (w kept : OAuthWorld) : Prop :=
  kept.inserted = w.inserted ∧
    ∀ record, record.consumedAt = none → kept.states.count record ≤ w.states.count record

end OAuthWorld

/-- One unconsumed record was marked and returned as it was. -/
structure StateConsumption (w : OAuthWorld) (providerName stateHash : String)
    (consumedAt : OffsetDateTime) (record : OAuthLoginState) (w' : OAuthWorld) : Prop where
  found : ∃ before after, w.states = before ++ record :: after ∧
    w' = { w with states := before ++ { record with consumedAt := some consumedAt } :: after }
  unconsumed : record.consumedAt = none
  named : record.providerName = providerName
  hashed : record.stateHash = stateHash

/-- What an operation may answer and do. -/
def OAuthAnswer (w : OAuthWorld) :
    (op : oauthSignature.Op) → oauthSignature.Resp op → OAuthWorld → Prop
  | .insertOAuthState record, resp, w' =>
      w' = w.insert record ∨ ((resp : AuthResult Unit) ≠ .ok () ∧ w' = w)
  | .consumeOAuthState providerName stateHash consumedAt, resp, w' =>
      match (resp : AuthResult (Option OAuthLoginState)) with
      | .ok (some record) => StateConsumption w providerName stateHash consumedAt record w'
      | .ok none => w' = w
      | .error _ =>
          w' = w ∨ ∃ record, StateConsumption w providerName stateHash consumedAt record w'
  | _, _, w' => w' = w

def OAuthEffect (w : OAuthWorld) (op : oauthSignature.Op) (resp : oauthSignature.Resp op)
    (w' : OAuthWorld) : Prop :=
  ∃ kept, w.Lost kept ∧ OAuthAnswer kept op resp w'

/-- Any store meeting the contract. -/
def oauthStateStore : Shared oauthSignature where
  State := OAuthWorld
  init := ⟨[], []⟩
  Effect := OAuthEffect

inductive OAuthCall where
  | oidcRequest (provider : OidcProvider) (options : Option OidcAuthorizationOptions)
  | oidcCallback (provider : OidcProvider) (input : OidcCallbackInput)
      (deliveredMode : OAuthResponseMode)
  | oauth2Request (provider : OAuth2Provider)
  | oauth2Callback (provider : OAuth2Provider) (input : OidcCallbackInput)

/-- What a call returns. -/
inductive OAuthReturn where
  | oidcRequest (request : OidcAuthorizationRequest)
  | oidcCallback (outcome : OidcCallbackOutcome)
  | oauth2Request (request : OAuth2AuthorizationRequest)
  | oauth2Callback (outcome : OAuth2CallbackOutcome)

namespace OAuthCall

def protocol : OAuthCall → OAuthProtocol
  | oidcRequest .. => .oidc
  | oidcCallback .. => .oidc
  | oauth2Request _ => .oauth2
  | oauth2Callback .. => .oauth2

def program : OAuthCall → OAuthM OAuthReturn
  | oidcRequest provider none => do
      let request ← provider.createAuthorizationRequest
      pure (.oidcRequest request)
  | oidcRequest provider (some options) => do
      let request ← provider.createAuthorizationRequestWithOptions options
      pure (.oidcRequest request)
  | oidcCallback provider input deliveredMode => do
      let outcome ← provider.handleCallbackInMode input deliveredMode
      pure (.oidcCallback outcome)
  | oauth2Request provider => do
      let request ← provider.createAuthorizationRequest
      pure (.oauth2Request request)
  | oauth2Callback provider input => do
      let outcome ← provider.handleCallback input
      pure (.oauth2Callback outcome)

/-- The call inserts such a record. -/
def Stamps : OAuthCall → OAuthLoginState → Prop
  | oidcRequest provider none, record => provider.Stamps none record
  | oidcRequest provider (some options), record =>
      ∃ policy, options.validate provider.lib.jsonText = .ok policy ∧
        provider.Stamps (some policy) record
  | oauth2Request provider, record => provider.Stamps record
  | _, _ => False

def plan : OAuthCall → Option CallbackPlan
  | oidcCallback provider input deliveredMode => provider.callbackPlan input deliveredMode
  | oauth2Callback provider input => provider.callbackPlan input
  | _ => none

/-- The callback carries an error, lacks a code or a state, or comes in the wrong mode. -/
def Malformed : OAuthCall → Prop
  | oidcCallback provider input deliveredMode =>
      input.error.isSome ∨ input.code = none ∨ input.state = none ∨
        deliveredMode ≠ provider.config.responseMode
  | oauth2Callback _ input =>
      input.error.isSome ∨ input.code = none ∨ input.code = some "" ∨ input.state = none ∨
        input.state = some ""
  | _ => False

/-- What the success of a call has established. -/
def Established : OAuthCall → OAuthHistory → OAuthReturn → Prop
  | oidcCallback provider input deliveredMode, h, .oidcCallback outcome =>
      ∃ plan, provider.callbackPlan input deliveredMode = some plan ∧
        OidcCompleted provider plan h outcome
  | oauth2Callback provider input, h, .oauth2Callback outcome =>
      ∃ plan, provider.callbackPlan input = some plan ∧ OAuth2Completed plan h outcome
  | oidcRequest .., _, .oidcRequest _ => True
  | oauth2Request _, _, .oauth2Request _ => True
  | _, _, _ => False

/-- A callback without a plan performs nothing. -/
def plannedGuard : Option CallbackPlan → OAuthHistory → OAuthOp → Prop
  | some plan => callbackGuard plan
  | none => fun _ _ => False

/-- The operations a call may issue. -/
def guard : OAuthCall → OAuthHistory → OAuthOp → Prop
  | oidcRequest provider options => requestGuard (oidcRequest provider options).Stamps
  | oauth2Request provider => requestGuard (oauth2Request provider).Stamps
  | oidcCallback provider input deliveredMode =>
      plannedGuard (provider.callbackPlan input deliveredMode)
  | oauth2Callback provider input => plannedGuard (provider.callbackPlan input)

end OAuthCall

/-- A call that goes on as a request does, and returns what it made. -/
theorem requests_returns {α : Type} {stamped : OAuthLoginState → Prop} {p : OAuthM α}
    {established : OAuthHistory → OAuthReturn → Prop} (wrap : α → OAuthReturn)
    (requests : Requests stamped [] p) (wrapped : ∀ h value, established h (wrap value)) :
    Upholds (S := oauthSignature) (requestGuard stamped)
      (Succeeds (S := oauthSignature) established) []
      (p >>= fun value => pure (wrap value) : OAuthM OAuthReturn) := by
  apply Fallible.Upholds.bind
  refine requests.mono (fun _ _ issued => issued) ?_
  rintro h (e | value) -
  · exact Succeeds.error
  · exact Succeeds.ok (wrapped h value)

theorem callback_returns {α : Type} {planned : Option CallbackPlan} {p : OAuthM α}
    {completed : CallbackPlan → OAuthHistory → α → Prop}
    {established : OAuthHistory → OAuthReturn → Prop} (wrap : α → OAuthReturn)
    (refused : planned = none → ∃ e, p = OAuthM.fail e)
    (follows : ∀ plan, planned = some plan → Follows plan (completed plan) [] p)
    (wrapped : ∀ plan h value, planned = some plan → completed plan h value →
      established h (wrap value)) :
    Upholds (S := oauthSignature) (OAuthCall.plannedGuard planned)
      (Succeeds (S := oauthSignature) established) []
      (p >>= fun value => pure (wrap value) : OAuthM OAuthReturn) := by
  cases planned with
  | none =>
      obtain ⟨e, rfl⟩ := refused rfl
      exact Succeeds.error
  | some plan =>
      apply Fallible.Upholds.bind
      refine (follows plan rfl).mono (fun _ _ issued => issued) ?_
      rintro h (e | value) success
      · exact Succeeds.error
      · exact Succeeds.ok (wrapped plan h value rfl (success value rfl))

/-- Whatever it is answered, a call keeps to its guard. -/
theorem OAuthCall.verified (call : OAuthCall) :
    Upholds (S := oauthSignature) call.guard (Succeeds (S := oauthSignature) call.Established) []
      call.program := by
  cases call with
  | oidcRequest provider options =>
      cases options with
      | none =>
          refine requests_returns .oidcRequest ?_ fun _ _ => trivial
          exact provider.createAuthorizationRequestInner_requests none fun _ stamped => stamped
      | some options =>
          refine requests_returns .oidcRequest ?_ fun _ _ => trivial
          refine lift_requests fun policy valid => ?_
          exact provider.createAuthorizationRequestInner_requests (some policy)
            fun _ stamped => ⟨policy, valid, stamped⟩
  | oauth2Request provider =>
      refine requests_returns .oauth2Request ?_ fun _ _ => trivial
      exact provider.createAuthorizationRequest_requests fun _ stamped => stamped
  | oidcCallback provider input deliveredMode =>
      exact callback_returns .oidcCallback (fun unplanned => provider.handleCallback_refused unplanned)
        (fun plan planned => provider.handleCallback_follows planned)
        fun plan h outcome planned completed => ⟨plan, planned, completed⟩
  | oauth2Callback provider input =>
      exact callback_returns .oauth2Callback (fun unplanned => provider.handleCallback_refused unplanned)
        (fun plan planned => provider.handleCallback_follows planned)
        fun plan h outcome planned completed => ⟨plan, planned, completed⟩

namespace OAuthCall

variable {call : OAuthCall} {h : OAuthHistory}

theorem guard_eq (call : OAuthCall) :
    call.guard = requestGuard call.Stamps ∨ call.guard = plannedGuard call.plan := by
  cases call with
  | oidcRequest provider options => exact .inl rfl
  | oauth2Request provider => exact .inl rfl
  | oidcCallback provider input deliveredMode => exact .inr rfl
  | oauth2Callback provider input => exact .inr rfl

/-- Only requests insert. -/
theorem stamps_of_guard {record : OAuthLoginState}
    (issued : call.guard h (.insertOAuthState record)) : call.Stamps record := by
  rcases guard_eq call with same | same
  · rw [same] at issued
    exact issued
  · rw [same] at issued
    cases planned : call.plan with
    | none =>
        rw [planned] at issued
        cases issued
    | some plan =>
        rw [planned] at issued
        cases issued

/-- Only planned callbacks consume. -/
theorem plan_of_guard {providerName stateHash : String} {consumedAt : OffsetDateTime}
    (issued : call.guard h (.consumeOAuthState providerName stateHash consumedAt)) :
    ∃ plan, call.plan = some plan ∧ call.guard = callbackGuard plan := by
  rcases guard_eq call with same | same
  · rw [same] at issued
    cases issued
  · rw [same] at issued
    cases planned : call.plan with
    | none =>
        rw [planned] at issued
        cases issued
    | some plan =>
        rw [planned] at same
        exact ⟨plan, rfl, same⟩

end OAuthCall

/-- A malformed callback has no plan. -/
theorem OAuthCall.plan_of_malformed {call : OAuthCall} (malformed : call.Malformed) :
    call.plan = none := by
  cases call with
  | oidcRequest provider options => rfl
  | oauth2Request provider => rfl
  | oidcCallback provider input deliveredMode =>
      change provider.callbackPlan input deliveredMode = none
      unfold OidcProvider.callbackPlan
      split
      · rfl
      · rename_i usable
        rw [not_or] at usable
        rcases malformed with failed | uncoded | unstated | undelivered
        · exact absurd failed usable.2
        · rw [uncoded]
        · rw [unstated]
          cases input.code <;> rfl
        · exact absurd undelivered usable.1
  | oauth2Callback provider input =>
      change provider.callbackPlan input = none
      unfold OAuth2Provider.callbackPlan
      split
      · rfl
      · rename_i usable
        rcases malformed with failed | uncoded | uncoded | unstated | unstated
        · exact absurd failed usable
        · rw [uncoded]
          rfl
        · rw [uncoded]
          rfl
        · rw [unstated]
          cases input.code.filter _ <;> rfl
        · rw [unstated]
          cases input.code.filter _ <;> rfl

/-- A malformed callback may not issue anything. -/
theorem OAuthCall.idle_of_malformed {call : OAuthCall} (malformed : call.Malformed)
    (h : OAuthHistory) (op : OAuthOp) : ¬call.guard h op := by
  have unplanned := plan_of_malformed malformed
  intro issued
  cases call with
  | oidcRequest provider options => exact malformed
  | oauth2Request provider => exact malformed
  | oidcCallback provider input deliveredMode =>
      change plannedGuard (oidcCallback provider input deliveredMode).plan h op at issued
      rw [unplanned] at issued
      exact issued
  | oauth2Callback provider input =>
      change plannedGuard (oauth2Callback provider input).plan h op at issued
      rw [unplanned] at issued
      exact issued

abbrev OAuthPool (ι : Type) := ι → OAuthCall

def OAuthPool.program {ι : Type} (calls : OAuthPool ι) (i : ι) : OAuthM OAuthReturn :=
  (calls i).program

abbrev OAuthConfig (ι : Type) := Config oauthStateStore ι

abbrev OAuthTrace (ι : Type) := Trace oauthSignature ι

abbrev OAuthReachable {ι : Type} [DecidableEq ι] (calls : OAuthPool ι) (c : OAuthConfig ι) :
    Prop :=
  Reachable oauthStateStore calls.program c

end AgqlAuth
