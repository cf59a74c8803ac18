import AgqlAuth.OAuth.OAuth2
import AgqlAuth.OAuth.Oidc

/-!
# What one call of a provider does

A request inserts one state stamped by its provider.  A callback that is refused
up front performs no operation; any other consumes at most once, and goes on only
with a state that its checks admit.
-/

namespace AgqlAuth

open Interaction Program

inductive OAuthProtocol where
  | oidc
  | oauth2
  deriving DecidableEq

/-- What a callback that is not refused up front carries. -/
structure CallbackPlan where
  protocol : OAuthProtocol
  providerName : String
  stateHash : String
  code : String
  deliveredMode : OAuthResponseMode

def OidcProvider.callbackPlan (self : OidcProvider) (input : OidcCallbackInput)
    (deliveredMode : OAuthResponseMode) : Option CallbackPlan :=
  if deliveredMode ≠ self.config.responseMode ∨ input.error.isSome then none
  else
    match input.code, input.state with
    | some code, some state => some {
        protocol := .oidc
        providerName := self.config.providerName
        stateHash := self.lib.hashOAuthState state
        code
        deliveredMode }
    | _, _ => none

def OAuth2Provider.callbackPlan (self : OAuth2Provider) (input : OidcCallbackInput) :
    Option CallbackPlan :=
  if input.error.isSome then none
  else
    match input.code.filter fun code => !code.isEmpty,
        input.state.filter fun state => !state.isEmpty with
    | some code, some state => some {
        protocol := .oauth2
        providerName := self.config.providerName
        stateHash := self.lib.hashOAuthState state
        code
        deliveredMode := .query }
    | _, _ => none

/-- The state is one of the protocol's own. -/
def OAuthProtocol.Owns : OAuthProtocol → OAuthLoginState → Prop
  | oidc, state => state.nonce ≠ ""
  | oauth2, state => state.nonce = "" ∧ state.authorizationPolicy = none

def consumption (plan : CallbackPlan) (now : OffsetDateTime) (state : OAuthLoginState) :
    OAuthEvent :=
  ⟨.consumeOAuthState plan.providerName plan.stateHash now,
    (.ok (some state) : AuthResult (Option OAuthLoginState))⟩

def clockReading (now : OffsetDateTime) : OAuthEvent := ⟨.now, now⟩

def consumes : OAuthOp → Bool
  | .consumeOAuthState .. => true
  | _ => false

def Unconsumed (h : OAuthHistory) : Prop := ∀ e ∈ h, consumes e.op = false

/-- The callback has consumed `state`, and its checks admit it. -/
structure AdmittedWith (plan : CallbackPlan) (state : OAuthLoginState) (h : OAuthHistory) :
    Prop where
  consumed : ∃ now, consumption plan now state ∈ h ∧ clockReading now ∈ h ∧ now < state.expiresAt
  unconsumed : state.consumedAt = none
  mode : state.responseMode = plan.deliveredMode
  owned : plan.protocol.Owns state

/-- The operations a callback may issue. -/
def callbackGuard (plan : CallbackPlan) : OAuthHistory → OAuthOp → Prop
  | h, .consumeOAuthState providerName stateHash consumedAt =>
      Unconsumed h ∧ providerName = plan.providerName ∧ stateHash = plan.stateHash ∧
        clockReading consumedAt ∈ h
  | _, .insertOAuthState _ => False
  | h, .postFormJson _ _ form =>
      ∃ state, AdmittedWith plan state h ∧ exchangeForm plan.code state <+: form
  | h, _ => Unconsumed h ∨ ∃ state, AdmittedWith plan state h

/-- The operations that leave the states alone and exchange nothing. -/
def quiet : OAuthOp → Bool
  | .consumeOAuthState .. => false
  | .insertOAuthState _ => false
  | .postFormJson .. => false
  | _ => true

abbrev Quiet (p : OAuthM α) : Prop :=
  Issues (S := oauthSignature) (fun op => quiet op = true) p

section Quiet

variable {α β : Type} {p : OAuthM α} {f : α → OAuthM β}

theorem quiet_bind (first : Quiet p) (second : ∀ value, Quiet (f value)) :
    Quiet (p >>= f : OAuthM β) :=
  Fallible.Issues.bind first second

theorem quiet_expect {e : AuthError} {value : Option α} : Quiet (OAuthM.expect e value) := by
  cases value <;> trivial

theorem quiet_lift (result : AuthResult α) : Quiet (OAuthM.lift result) := trivial

theorem quiet_orFail {e : AuthError} (quiet : Quiet p) : Quiet (p.orFail e) :=
  Issues.bind quiet fun _ => trivial

theorem quiet_perform {op : OAuthOp} (issued : quiet op = true) :
    Quiet (Fallible.perform (S := oauthSignature) op) :=
  ⟨issued, fun _ => trivial⟩

theorem quiet_call {op : OAuthOp} {next : OAuthOp.Resp op → OAuthM α} (issued : quiet op = true)
    (answered : ∀ resp, Quiet (next resp)) : Quiet (call (S := oauthSignature) op next) :=
  ⟨issued, answered⟩

theorem discover_quiet (provider : OidcProvider) : Quiet provider.discover := by
  apply quiet_bind (quiet_perform rfl)
  intro now
  apply quiet_bind (quiet_perform rfl)
  intro cache
  apply quiet_bind quiet_expect
  intro cached
  cases cached.filter _ with
  | some found => trivial
  | none =>
      refine quiet_bind (quiet_orFail (quiet_call rfl fun _ => trivial)) fun raw => ?_
      apply quiet_bind quiet_expect
      intro document
      apply quiet_bind quiet_expect
      intro expiresAt
      apply quiet_bind (quiet_perform rfl)
      intro written
      apply quiet_bind quiet_expect
      intro _
      trivial

theorem requestSecret_quiet (clientSecret : Option String) (hasClientJwt : Bool)
    (tokenEndpoint : String) (now : OffsetDateTime) :
    Quiet (requestSecret clientSecret hasClientJwt tokenEndpoint now) := by
  cases clientSecret with
  | some secret => trivial
  | none =>
      cases hasClientJwt with
      | false => trivial
      | true =>
          refine quiet_bind (quiet_call rfl fun _ => trivial) fun signed => ?_
          trivial

theorem clientAuthentication_quiet (method : TokenEndpointAuthMethod) (clientId : String)
    (clientSecret : Option String) (hasClientJwt : Bool) (tokenEndpoint : String)
    (now : OffsetDateTime) :
    Quiet (clientAuthentication method clientId clientSecret hasClientJwt tokenEndpoint now) := by
  cases method with
  | clientSecretPost =>
      apply quiet_bind (requestSecret_quiet ..)
      intro secret
      trivial
  | clientSecretBasic =>
      apply quiet_bind (requestSecret_quiet ..)
      intro secret
      cases secret <;> trivial
  | privateKeyJwt =>
      apply Fallible.Issues.branch
      · trivial
      · refine quiet_bind (quiet_call rfl fun _ => trivial) fun assertion => ?_
        trivial

end Quiet

namespace AdmittedWith

variable {plan : CallbackPlan} {state : OAuthLoginState} {h late : OAuthHistory}

theorem later (late : OAuthHistory) (admitted : AdmittedWith plan state h) :
    AdmittedWith plan state (late ++ h) where
  consumed := by
    obtain ⟨now, consumed, read, unexpired⟩ := admitted.consumed
    exact ⟨now, List.mem_append_right late consumed, List.mem_append_right late read, unexpired⟩
  unconsumed := admitted.unconsumed
  mode := admitted.mode
  owned := admitted.owned

theorem guard (admitted : AdmittedWith plan state h) {op : OAuthOp} (silent : quiet op = true) :
    callbackGuard plan h op := by
  cases op with
  | consumeOAuthState providerName stateHash consumedAt => cases silent
  | insertOAuthState state => cases silent
  | postFormJson url headers form => cases silent
  | _ => exact .inr ⟨state, admitted⟩

/-- A part that exchanges nothing is followed by its continuation. -/
theorem quiet_part {α β : Type} {post : OAuthHistory → AuthResult β → Prop} {p : OAuthM α}
    {f : α → OAuthM β} (admitted : AdmittedWith plan state h) (silent : Quiet p)
    (next : ∀ h value, AdmittedWith plan state h →
      Upholds (S := oauthSignature) (callbackGuard plan) post h (f value))
    (failed : ∀ h e, post h (.error e)) :
    Upholds (S := oauthSignature) (callbackGuard plan) post h (p >>= f : OAuthM β) :=
  Fallible.Upholds.issues_bind silent
    (fun _ _ _ issued => (admitted.later _).guard issued)
    (fun late value _ => next (late ++ h) value (admitted.later late)) failed

/-- The token request carries the verifier and the redirect URI of the state. -/
theorem post_part {α : Type} {post : OAuthHistory → AuthResult α → Prop} {url : String}
    {headers form : List (String × String)} {e : AuthError} {f : JsonValue → OAuthM α}
    (admitted : AdmittedWith plan state h) (carried : exchangeForm plan.code state <+: form)
    (next : ∀ h value, AdmittedWith plan state h →
      Upholds (S := oauthSignature) (callbackGuard plan) post h (f value))
    (failed : ∀ h e, post h (.error e)) :
    Upholds (S := oauthSignature) (callbackGuard plan) post h
      ((OAuthM.postFormJson url headers form).orFail e >>= f : OAuthM α) := by
  apply Fallible.Upholds.bind
  apply Upholds.bind
  apply Upholds.await
  · exact ⟨state, admitted, carried⟩
  · intro resp
    cases resp with
    | error _ => exact failed _ e
    | ok raw => exact next _ raw (admitted.later [_])

/-- A pure result ends the call or is passed on. -/
theorem lift_part {α β : Type} {post : OAuthHistory → AuthResult β → Prop}
    {result : AuthResult α} {f : α → OAuthM β}
    (next : ∀ value, result = .ok value →
      Upholds (S := oauthSignature) (callbackGuard plan) post h (f value))
    (failed : ∀ h e, post h (.error e)) :
    Upholds (S := oauthSignature) (callbackGuard plan) post h
      (OAuthM.lift result >>= f : OAuthM β) :=
  Fallible.Upholds.lift_bind next fun e _ => failed h e

end AdmittedWith

end AgqlAuth
