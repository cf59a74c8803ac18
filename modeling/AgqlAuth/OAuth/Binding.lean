import AgqlAuth.OAuth.MemoryStore
import Mathlib.Data.List.Count

/-!
# Authorization state is one-time and bound to its request

Calls of any providers interleave at every awaited operation over one store.
For each record, what was consumed and what is still consumable never exceeds
what was inserted.
-/

namespace AgqlAuth

open Interaction Program

variable {ι : Type}

def isConsumptionOf (record : OAuthLoginState) : OAuthEvent → Bool
  | ⟨.consumeOAuthState .., (.ok (some found) : AuthResult (Option OAuthLoginState))⟩ =>
      found == record
  | _ => false

def consumptionsOf (record : OAuthLoginState) (t : OAuthTrace ι) : Nat :=
  t.countP fun entry => isConsumptionOf record entry.2

theorem consumptionsOf_cons {record : OAuthLoginState} {t : OAuthTrace ι}
    {entry : ι × OAuthEvent} :
    consumptionsOf record (entry :: t) =
      consumptionsOf record t + if isConsumptionOf record entry.2 then 1 else 0 :=
  List.countP_cons ..

/-- What is consumed or still consumable was inserted, and inserted by a request. -/
structure OAuthSound (calls : OAuthPool ι) (t : OAuthTrace ι) (w : OAuthWorld) : Prop where
  balanced : ∀ record, record.consumedAt = none →
    consumptionsOf record t + w.states.count record ≤ w.inserted.count record
  marked : ∀ record, record.consumedAt ≠ none → consumptionsOf record t = 0
  stamped : ∀ record ∈ w.inserted, ∃ i, (calls i).Stamps record

namespace OAuthSound

variable {calls : OAuthPool ι} {t : OAuthTrace ι} {w w' : OAuthWorld} {i : ι}
variable {e : OAuthEvent} {record : OAuthLoginState}

theorem start : OAuthSound calls [] ⟨[], []⟩ := by
  constructor <;> simp [consumptionsOf]

theorem lost (sound : OAuthSound calls t w) (loses : w.Lost w') : OAuthSound calls t w' := by
  obtain ⟨same, fewer⟩ := loses
  constructor
  case balanced =>
    intro record unconsumed
    have balanced := sound.balanced record unconsumed
    have fewer := fewer record unconsumed
    rw [same]
    omega
  case marked => exact sound.marked
  case stamped =>
    rw [same]
    exact sound.stamped

/-- An event that consumes nothing. -/
theorem silent (sound : OAuthSound calls t w)
    (unconsumed : ∀ record, isConsumptionOf record e = false) :
    OAuthSound calls ((i, e) :: t) w := by
  have same : ∀ record, consumptionsOf record ((i, e) :: t) = consumptionsOf record t := by
    simp [consumptionsOf_cons, unconsumed]
  constructor
  case balanced =>
    intro record
    rw [same]
    exact sound.balanced record
  case marked =>
    intro record
    rw [same]
    exact sound.marked record
  case stamped => exact sound.stamped

/-- A committed write may stay hidden behind an error answer. -/
theorem of_cons (sound : OAuthSound calls ((i, e) :: t) w) : OAuthSound calls t w := by
  constructor
  case balanced =>
    intro record unconsumed
    have balanced := sound.balanced record unconsumed
    rw [consumptionsOf_cons] at balanced
    omega
  case marked =>
    intro record consumed
    have none_consumed := sound.marked record consumed
    rw [consumptionsOf_cons] at none_consumed
    omega
  case stamped => exact sound.stamped

theorem insert (sound : OAuthSound calls t w) (stamped : (calls i).Stamps record) :
    OAuthSound calls t (w.insert record) := by
  constructor
  case balanced =>
    intro other unconsumed
    have balanced := sound.balanced other unconsumed
    simp only [OAuthWorld.insert, List.count_cons]
    omega
  case marked => exact sound.marked
  case stamped =>
    intro other mem
    rcases List.mem_cons.mp mem with rfl | earlier
    · exact ⟨i, stamped⟩
    · exact sound.stamped other earlier

theorem consumption (sound : OAuthSound calls t w) {providerName stateHash : String}
    {consumedAt : OffsetDateTime}
    (consumed : StateConsumption w providerName stateHash consumedAt record w') :
    OAuthSound calls
      ((i, ⟨.consumeOAuthState providerName stateHash consumedAt,
        (.ok (some record) : AuthResult (Option OAuthLoginState))⟩) :: t) w' := by
  obtain ⟨before, after, stored, rfl⟩ := consumed.found
  constructor
  case balanced =>
    intro other unconsumed
    have balanced := sound.balanced other unconsumed
    have changed : { record with consumedAt := some consumedAt } ≠ other := by
      rintro rfl
      cases unconsumed
    rw [stored] at balanced
    simp only [List.count_append, List.count_cons, beq_iff_eq] at balanced ⊢
    simp only [consumptionsOf_cons, isConsumptionOf, beq_iff_eq, if_neg changed]
    omega
  case marked =>
    intro other consumed_earlier
    have apart : record ≠ other := by
      rintro rfl
      exact consumed_earlier consumed.unconsumed
    simp [consumptionsOf_cons, isConsumptionOf, apart, sound.marked other consumed_earlier]
  case stamped => exact sound.stamped

/-- Every operation a call may issue keeps the balance. -/
theorem step (sound : OAuthSound calls t w) {h : OAuthHistory} {op : oauthSignature.Op}
    {resp : oauthSignature.Resp op} (issued : (calls i).guard h op)
    (effect : OAuthEffect w op resp w') : OAuthSound calls ((i, ⟨op, resp⟩) :: t) w' := by
  obtain ⟨kept, loses, answered⟩ := effect
  have sound := sound.lost loses
  cases op with
  | insertOAuthState record =>
      rcases answered with rfl | ⟨-, rfl⟩
      · exact (sound.insert (OAuthCall.stamps_of_guard issued)).silent fun _ => rfl
      · exact sound.silent fun _ => rfl
  | consumeOAuthState providerName stateHash consumedAt =>
      rcases resp with e | _ | record
      · rcases answered with rfl | ⟨record, consumed⟩
        · exact sound.silent fun _ => rfl
        · exact (sound.consumption (i := i) consumed).of_cons.silent fun _ => rfl
      · obtain rfl := answered
        exact sound.silent fun _ => rfl
      · exact sound.consumption answered
  | _ =>
      obtain rfl := answered
      exact sound.silent fun _ => rfl

end OAuthSound

section Runs

variable [DecidableEq ι] {calls : OAuthPool ι} {c : OAuthConfig ι} {i : ι}
variable {record other : OAuthLoginState} {plan : CallbackPlan} {h : OAuthHistory}

theorem oauth_sound (reached : OAuthReachable calls c) : OAuthSound calls c.trace c.state := by
  refine Reachable.invariant (I := fun c => OAuthSound calls c.trace c.state)
    (fun i => (calls i).verified) ?_ ?_ reached
  · exact OAuthSound.start
  · intro t w w' i op resp _ sound issued effect
    exact sound.step issued effect

/-- A consumption that the store answers with a record returns one of that name and hash. -/
def NamedAnswer : OAuthEvent → Prop
  | ⟨.consumeOAuthState providerName stateHash _,
      (.ok (some found) : AuthResult (Option OAuthLoginState))⟩ =>
      found.providerName = providerName ∧ found.stateHash = stateHash
  | _ => True

theorem named_answer {w w' : OAuthWorld} {op : oauthSignature.Op} {resp : oauthSignature.Resp op}
    (effect : OAuthEffect w op resp w') : NamedAnswer ⟨op, resp⟩ := by
  obtain ⟨kept, -, answered⟩ := effect
  cases op with
  | consumeOAuthState providerName stateHash consumedAt =>
      rcases resp with e | _ | record
      · trivial
      · trivial
      · exact ⟨answered.named, answered.hashed⟩
  | _ => trivial

/-- Call `i` has consumed `record` and goes on: the code exchange has begun. -/
structure ReachesExchange (calls : OAuthPool ι) (c : OAuthConfig ι) (i : ι)
    (record : OAuthLoginState) (h : OAuthHistory) : Prop where
  issued : ∃ op, Issued calls.program c i h op
  consumed : ∃ e ∈ h, isConsumptionOf record e = true

theorem consumes_of_isConsumptionOf {e : OAuthEvent}
    (counted : isConsumptionOf record e = true) : consumes e.op = true := by
  obtain ⟨op, resp⟩ := e
  cases op with
  | consumeOAuthState providerName stateHash consumedAt => rfl
  | _ => cases counted

omit [DecidableEq ι] in
/-- Where a consumption was issued, nothing had been consumed. -/
theorem unconsumed_before {e : OAuthEvent} {late early : OAuthHistory}
    {rest : OAuthM OAuthReturn} (path : Path (calls.program i) (late ++ e :: early) rest)
    (consumed : consumes e.op = true) :
    Unconsumed early ∧ ∃ plan, (calls i).plan = some plan ∧
      (calls i).guard = callbackGuard plan := by
  obtain ⟨next, waiting⟩ := path.issued
  have issued := (calls i).verified.guard_of_path waiting
  obtain ⟨op, resp⟩ := e
  cases op with
  | consumeOAuthState providerName stateHash consumedAt =>
      obtain ⟨plan, planned, same⟩ := OAuthCall.plan_of_guard issued
      rw [same] at issued
      exact ⟨issued.1, plan, planned, same⟩
  | _ => cases consumed

omit [DecidableEq ι] in
/-- A call consumes at most one record. -/
theorem consumption_unique {e e' : OAuthEvent} {rest : OAuthM OAuthReturn}
    (path : Path (calls.program i) h rest) (mem : e ∈ h) (mem' : e' ∈ h)
    (consumed : consumes e.op = true) (consumed' : consumes e'.op = true) : e = e' := by
  obtain ⟨late, early, rfl⟩ := List.append_of_mem mem
  rcases List.mem_append.mp mem' with newer | rest
  · obtain ⟨newest, between, rfl⟩ := List.append_of_mem newer
    rw [List.append_assoc] at path
    have before := (unconsumed_before path consumed').1 e (by simp)
    rw [consumed] at before
    cases before
  · rcases List.mem_cons.mp rest with same | older
    · exact same.symm
    · have before := (unconsumed_before path consumed).1 e' older
      rw [consumed'] at before
      cases before

theorem state_of_counted {state : OAuthLoginState} {now : OffsetDateTime}
    (counted : isConsumptionOf record (consumption plan now state) = true) : state = record := by
  simpa [isConsumptionOf, consumption] using counted

theorem counted_consumption (plan : CallbackPlan) (now : OffsetDateTime)
    (record : OAuthLoginState) : isConsumptionOf record (consumption plan now record) = true := by
  simp [isConsumptionOf, consumption]

/-- A callback that has begun the exchange was planned, and its checks admitted the record. -/
theorem ReachesExchange.admitted (reaches : ReachesExchange calls c i record h) :
    ∃ plan, (calls i).plan = some plan ∧ (calls i).guard = callbackGuard plan ∧
      AdmittedWith plan record h := by
  obtain ⟨op, -, next, waiting⟩ := reaches.issued
  obtain ⟨e, mem, counted⟩ := reaches.consumed
  have consumed := consumes_of_isConsumptionOf counted
  obtain ⟨late, early, split⟩ := List.append_of_mem mem
  obtain ⟨-, plan, planned, same⟩ := unconsumed_before (split ▸ waiting) consumed
  have issued := (calls i).verified.guard_of_path waiting
  rw [same] at issued
  refine ⟨plan, planned, same, ?_⟩
  have only : ∀ state, AdmittedWith plan state h → AdmittedWith plan record h := by
    intro state admitted
    obtain ⟨now, consumed_state, -⟩ := admitted.consumed
    have equal := consumption_unique waiting mem consumed_state consumed rfl
    subst equal
    rwa [state_of_counted counted] at admitted
  have not_before : ¬Unconsumed h := by
    intro unconsumed
    rw [unconsumed e mem] at consumed
    cases consumed
  cases op with
  | consumeOAuthState providerName stateHash consumedAt => exact (not_before issued.1).elim
  | insertOAuthState state => cases issued
  | postFormJson url headers form =>
      obtain ⟨state, admitted, -⟩ := issued
      exact only state admitted
  | _ =>
      rcases issued with unconsumed | ⟨state, admitted⟩
      · exact (not_before unconsumed).elim
      · exact only state admitted

/-- Stamped records belong to the protocol of the call that stamped them. -/
theorem OAuthCall.owns_of_stamps {call : OAuthCall} (stamped : call.Stamps record) :
    call.protocol.Owns record := by
  cases call with
  | oidcRequest provider options =>
      cases options with
      | none =>
          obtain ⟨state, nonce, pkce, now, expiresAt, named, -, rfl⟩ := stamped
          exact named
      | some options =>
          obtain ⟨policy, -, state, nonce, pkce, now, expiresAt, named, -, rfl⟩ := stamped
          exact named
  | oauth2Request provider =>
      obtain ⟨state, pkce, now, expiresAt, -, rfl⟩ := stamped
      exact ⟨rfl, rfl⟩
  | _ => cases stamped

theorem OAuthProtocol.owns_unique {p q : OAuthProtocol} (first : p.Owns record)
    (second : q.Owns record) : p = q := by
  cases p with
  | oidc =>
      cases q with
      | oidc => rfl
      | oauth2 => exact (first second.1).elim
  | oauth2 =>
      cases q with
      | oidc => exact (second first.1).elim
      | oauth2 => rfl

/-- How a callback that has begun the exchange with `record` is bound to it. -/
structure BoundTo (calls : OAuthPool ι) (c : OAuthConfig ι) (i : ι) (record : OAuthLoginState)
    (plan : CallbackPlan) : Prop where
  planned : (calls i).plan = some plan
  /-- A request of the same protocol created the record, and no other call did. -/
  created : ∃ j, (calls j).Stamps record
  kind : ∀ j, (calls j).Stamps record → (calls j).protocol = plan.protocol
  named : record.providerName = plan.providerName
  hashed : record.stateHash = plan.stateHash
  mode : record.responseMode = plan.deliveredMode
  unexpired : ∃ now, clockReading now ∈ c.trace.of i ∧ consumption plan now record ∈ c.trace.of i ∧
    now < record.expiresAt
  /-- Every token request carries the verifier and the redirect URI of the record. -/
  exchanged : ∀ early url headers form,
    Issued calls.program c i early (.postFormJson url headers form) →
      exchangeForm plan.code record <+: form
  /-- A success is about the record, its nonce and its policy. -/
  oidc : ∀ provider input deliveredMode outcome,
    calls i = .oidcCallback provider input deliveredMode →
      Returned calls.program c i (.ok (.oidcCallback outcome)) →
        outcome.state = record ∧ outcome.claims.nonce = record.nonce ∧
          ∃ now, clockReading now ∈ c.trace.of i ∧
            provider.enforceAuthorizationPolicy record.authorizationPolicy outcome.claims now =
              .ok outcome.authorization
  oauth2 : ∀ outcome, Returned calls.program c i (.ok (.oauth2Callback outcome)) →
    outcome.state = record

/-- What is guaranteed of one record, in every configuration of every run. -/
structure OAuthStateBound (calls : OAuthPool ι) (c : OAuthConfig ι) (record : OAuthLoginState) :
    Prop where
  /-- Each insertion leads to at most one exchange. -/
  once : ∀ callbacks : List ι, callbacks.Nodup →
    (∀ i ∈ callbacks, ∃ h, ReachesExchange calls c i record h) →
    callbacks.length ≤ c.state.inserted.count record
  bound : ∀ i h, ReachesExchange calls c i record h → ∃ plan, BoundTo calls c i record plan

theorem consumptionsOf_le_inserted (reached : OAuthReachable calls c) :
    consumptionsOf record c.trace ≤ c.state.inserted.count record := by
  have sound := oauth_sound reached
  by_cases unconsumed : record.consumedAt = none
  · have balanced := sound.balanced record unconsumed
    omega
  · rw [sound.marked record unconsumed]
    exact Nat.zero_le _

theorem ReachesExchange.counted (reaches : ReachesExchange calls c i record h) :
    ∃ e ∈ c.trace.of i, isConsumptionOf record e = true := by
  obtain ⟨op, past, -⟩ := reaches.issued
  obtain ⟨e, mem, counted⟩ := reaches.consumed
  exact ⟨e, past.subset mem, counted⟩

theorem ReachesExchange.boundTo (reached : OAuthReachable calls c)
    (reaches : ReachesExchange calls c i record h) : ∃ plan, BoundTo calls c i record plan := by
  obtain ⟨plan, planned, same, admitted⟩ := reaches.admitted
  obtain ⟨now, consumed_then, read, unexpired⟩ := admitted.consumed
  obtain ⟨op, past, -⟩ := reaches.issued
  have consumed : consumption plan now record ∈ c.trace.of i := past.subset consumed_then
  have counted : 0 < consumptionsOf record c.trace :=
    List.countP_pos_iff.mpr
      ⟨(i, _), Trace.mem_of.mp consumed, counted_consumption plan now record⟩
  have answered : record.providerName = plan.providerName ∧ record.stateHash = plan.stateHash :=
    reached.events (P := NamedAnswer) named_answer consumed
  have inserted : record ∈ c.state.inserted := by
    have present : consumptionsOf record c.trace ≤ c.state.inserted.count record :=
      consumptionsOf_le_inserted reached
    exact List.count_pos_iff.mp (by omega)
  have only : ∀ state h, h <:+ c.trace.of i → AdmittedWith plan state h → state = record := by
    intro state h past admitted
    obtain ⟨now', consumed', -⟩ := admitted.consumed
    obtain ⟨rest, path⟩ := reached.path i
    have equal := consumption_unique path (past.subset consumed') consumed rfl rfl
    have counted : isConsumptionOf record (consumption plan now' state) = true := by
      rw [equal]
      exact counted_consumption plan now record
    exact state_of_counted counted
  refine ⟨plan, ?_⟩
  constructor
  case planned => exact planned
  case created => exact (oauth_sound reached).stamped record inserted
  case kind =>
    intro j stamped
    exact OAuthProtocol.owns_unique (OAuthCall.owns_of_stamps stamped) admitted.owned
  case named => exact answered.1
  case hashed => exact answered.2
  case mode => exact admitted.mode
  case unexpired => exact ⟨now, past.subset read, consumed, unexpired⟩
  case exchanged =>
    intro early url headers form posts
    obtain ⟨next, waiting⟩ := posts.waiting
    have issued := (calls i).verified.guard_of_path waiting
    rw [same] at issued
    obtain ⟨state, admitted, carried⟩ := issued
    rwa [only state early posts.past admitted] at carried
  case oidc =>
    intro provider input deliveredMode outcome runs returned
    have established := (calls i).verified.post_of_path returned _ rfl
    rw [runs] at established planned
    obtain ⟨plan', planned', completed⟩ := established
    obtain rfl : plan' = plan := Option.some.inj (planned'.symm.trans planned)
    have about := only outcome.state _ List.suffix_rfl completed.admitted
    refine ⟨about, ?_, ?_⟩
    · rw [← about]
      exact completed.nonce
    · rw [← about]
      exact completed.enforced
  case oauth2 =>
    intro outcome returned
    have established := (calls i).verified.post_of_path returned _ rfl
    cases runs : calls i with
    | oauth2Callback provider input =>
        rw [runs] at established planned
        obtain ⟨plan', planned', completed⟩ := established
        obtain rfl : plan' = plan := Option.some.inj (planned'.symm.trans planned)
        exact only outcome.state _ List.suffix_rfl completed.admitted
    | _ =>
        rw [runs] at established
        cases established

/-- A callback without a plan has done nothing. -/
theorem untouched_of_malformed (reached : OAuthReachable calls c)
    (malformed : (calls i).Malformed) : c.trace.of i = [] := by
  obtain ⟨rest, path⟩ := reached.path i
  cases share : c.trace.of i with
  | nil => rfl
  | cons e early =>
      rw [share] at path
      obtain ⟨next, waiting, -⟩ := path.tail
      have issued := (calls i).verified.guard_of_path waiting
      exact (OAuthCall.idle_of_malformed malformed early e.op issued).elim

/--
Authorization state is one-time and bound to its request: over every interleaving
of requests and callbacks of any providers, each inserted record leads to at most
one code exchange, by a callback of the protocol, the provider name and the mode
of the record, before its expiry and with its verifier, redirect URI, nonce and
policy; a malformed callback does not touch the store at all.
-/
theorem oauth_state_bound (reached : OAuthReachable calls c) :
    (∀ record, OAuthStateBound calls c record) ∧
      ∀ i, (calls i).Malformed → c.trace.of i = [] := by
  refine ⟨fun record => ?_, fun i => untouched_of_malformed reached⟩
  constructor
  case once =>
    intro callbacks distinct each
    refine (Trace.length_le_countP distinct fun i mem => ?_).trans
      (consumptionsOf_le_inserted reached)
    obtain ⟨h, reaches⟩ := each i mem
    exact reaches.counted
  case bound =>
    intro i h reaches
    exact reaches.boundTo reached

def refusesState : AuthResult OAuthReturn → Bool
  | .error .invalidOAuthState => true
  | _ => false

def exchangesForProfile : AuthResult OAuthReturn → Bool
  | .ok (.oauth2Callback _) => true
  | _ => false

/-- One state is exchanged once; the other is refused by the provider of the other kind. -/
theorem oauth_states_consumed_once :
    (∃ outcome, Returned oauthCalls.program oauthRun.config 2
      (.ok (.oauth2Callback outcome))) ∧
    Returned oauthCalls.program oauthRun.config 3 (.error .invalidOAuthState) ∧
    Returned oauthCalls.program oauthRun.config 4 (.error .invalidOAuthState) ∧
    (∀ record, OAuthStateBound oauthCalls oauthRun.config record) ∧
    oauthRun.config.trace.of 5 = [] := by
  obtain ⟨bound, untouched⟩ := oauth_state_bound oauthRun.reached
  have passed : (oauthRun.result? 2).any exchangesForProfile = true ∧
      (oauthRun.result? 3).any refusesState = true ∧
      (oauthRun.result? 4).any refusesState = true := by decide +kernel
  obtain ⟨completed, third, fourth⟩ := passed
  have refused : ∀ i, (oauthRun.result? i).any refusesState = true →
      Returned oauthCalls.program oauthRun.config i (.error .invalidOAuthState) := by
    intro i passed
    obtain ⟨value, returned, test⟩ := Running.exists_returned _ passed
    unfold refusesState at test
    split at test
    · exact returned
    · cases test
  obtain ⟨value, returned, test⟩ := Running.exists_returned _ completed
  refine ⟨?_, refused 3 third, refused 4 fourth, bound, untouched 5 (.inr (.inl rfl))⟩
  unfold exchangesForProfile at test
  split at test
  · exact ⟨_, returned⟩
  · cases test

end Runs

end AgqlAuth
