import AgqlAuth.Interaction.Simulation
import AgqlAuth.Totp.Window
import Mathlib.Data.List.Nodup

/-!
# One-time acceptance

Verifications interleave over one replay store.  A call succeeds only after the
store told it that the step it accepted was unused, and the store says so once.
-/

namespace AgqlAuth

open Interaction Program

/-- What is consumed: a step of a principal's factor. -/
structure TotpStepKey where
  principalId : String
  factorId : Option String
  step : Int
  deriving DecidableEq

/-- What an operation may answer and do; an error may hide a committed insertion. -/
def ReplayEffect (consumed : Set TotpStepKey) :
    (op : totpSignature.Op) → totpSignature.Resp op → Set TotpStepKey → Prop
  | .inr (.consumeTotpStep principalId factorId step _), resp, consumed' =>
      match (resp : AuthResult Bool) with
      | .ok true => ⟨principalId, factorId, step⟩ ∉ consumed ∧
          consumed' = insert ⟨principalId, factorId, step⟩ consumed
      | .ok false => consumed' = consumed
      | .error _ => consumed' = consumed ∨
          consumed' = insert ⟨principalId, factorId, step⟩ consumed
  | _, _, consumed' => consumed' = consumed

/-- Any store that atomically answers `true` for the first use of a step only. -/
def totpReplayStore : Shared totpSignature where
  State := Set TotpStepKey
  init := ∅
  Effect := ReplayEffect

/-- The arguments of a verification. -/
structure TotpCall where
  principalId : String
  factorId : Option String
  secretBase32 : String
  code : String
  options : TotpOptions
  now : OffsetDateTime
  metadata : ClientMetadata

namespace TotpCall

def program (lib : TotpLibrary) (svc : AuthService) (self : TotpCall) : TotpM Unit :=
  svc.verifyTotpCodeWithReplayStoreAndMetadata lib self.principalId self.factorId
    self.secretBase32 self.code self.options self.now self.metadata

/-- The step a call accepts. -/
def Accepts (lib : TotpLibrary) (self : TotpCall) (step : Int) : Prop :=
  verifyTotpCodeStep lib self.secretBase32 self.code self.options self.now = some (.ok step)

/-- What is consumed when a call accepts a step. -/
def key (self : TotpCall) (step : Int) : TotpStepKey := ⟨self.principalId, self.factorId, step⟩

end TotpCall

/-- The store answered that the step was unused. -/
def consumedTotpStep (key : TotpStepKey) (consumedAt : OffsetDateTime) : TotpEvent :=
  ⟨.inr (.consumeTotpStep key.principalId key.factorId key.step consumedAt),
    (.ok true : AuthResult Bool)⟩

/-- How a call ends. -/
def totpPost (lib : TotpLibrary) (call : TotpCall) (h : TotpHistory) : AuthResult Unit → Prop
  | .ok () => ∃ step consumedAt, call.Accepts lib step ∧
      consumedTotpStep (call.key step) consumedAt ∈ h
  | .error _ => True

theorem totpPost_of_fail {lib : TotpLibrary} {call : TotpCall} {h : TotpHistory} {e : AuthError} :
    Upholds (fun _ _ => True) (totpPost lib call) h (TotpM.fail e) := trivial

theorem rejectTotpCode_upholds {lib : TotpLibrary} {call : TotpCall} (svc : AuthService)
    (keys : List AuthRateLimitKey) (failure : AuthError) (h : TotpHistory) :
    Upholds (fun _ _ => True) (totpPost lib call) h (svc.rejectTotpCode keys failure) := by
  refine Fallible.Upholds.branch ?_ fun _ => totpPost_of_fail
  intro _
  apply Fallible.Upholds.issues_bind (Issues.anything _) fun _ _ _ _ => trivial
  · exact fun late _ _ => totpPost_of_fail
  · exact fun _ _ => trivial

theorem consumeAcceptedStep_upholds {lib : TotpLibrary} {call : TotpCall} {step : Int}
    (accepted : call.Accepts lib step) (svc : AuthService) (keys : List AuthRateLimitKey)
    (permit : RateLimitPermit) (h : TotpHistory) :
    Upholds (fun _ _ => True) (totpPost lib call) h
      (svc.consumeAcceptedStep call.principalId call.factorId keys permit step call.now) := by
  apply Fallible.Upholds.bind
  apply Upholds.await trivial
  rintro (e | _ | _)
  · trivial
  · apply Fallible.Upholds.resume
    apply Fallible.Upholds.issues_bind (Issues.anything _) fun _ _ _ _ => trivial
    · exact fun _ _ _ => totpPost_of_fail
    · exact fun _ _ => trivial
  · apply Fallible.Upholds.resume
    apply (Issues.anything _).upholds_after fun _ _ _ _ => trivial
    rintro late (e | ⟨⟩) _
    · trivial
    · exact ⟨step, call.now, accepted, List.mem_append_right late List.mem_cons_self⟩

/-- A call that succeeds accepted a step and consumed it. -/
theorem TotpCall.verified (lib : TotpLibrary) (svc : AuthService) (call : TotpCall) :
    Upholds (S := totpSignature) (fun _ _ => True) (totpPost lib call) []
      (call.program lib svc) := by
  apply Fallible.Upholds.issues_bind (Issues.anything _) fun _ _ _ _ => trivial
  · intro late permit _
    cases outcome : verifyTotpCodeStep lib call.secretBase32 call.code call.options call.now with
    | none => exact ⟨trivial, fun impossible => impossible.elim⟩
    | some result =>
        rcases result with e | step
        · exact rejectTotpCode_upholds svc _ e _
        · exact consumeAcceptedStep_upholds outcome svc _ _ _
  · exact fun _ _ => trivial

/-- Every call of a run with the service it runs on. -/
abbrev TotpPool (ι : Type) := ι → AuthService × TotpCall

def TotpPool.program {ι : Type} (lib : TotpLibrary) (calls : TotpPool ι) (i : ι) : TotpM Unit :=
  (calls i).2.program lib (calls i).1

abbrev TotpTrace (ι : Type) := Trace totpSignature ι

section Runs

variable {ι : Type} {t : TotpTrace ι} {consumed consumed' : Set TotpStepKey}

def isTotpConsumption (key : TotpStepKey) : TotpEvent → Bool
  | ⟨.inr (.consumeTotpStep principalId factorId step _), (.ok true : AuthResult Bool)⟩ =>
      key == ⟨principalId, factorId, step⟩
  | _ => false

def totpConsumptions (key : TotpStepKey) (t : TotpTrace ι) : Nat :=
  t.countP fun entry => isTotpConsumption key entry.2

theorem totpConsumptions_cons {key : TotpStepKey} {entry : ι × TotpEvent} :
    totpConsumptions key (entry :: t) =
      totpConsumptions key t + if isTotpConsumption key entry.2 then 1 else 0 :=
  List.countP_cons ..

/-- An unused step was never consumed, and a used one at most once. -/
structure ReplaySound (t : TotpTrace ι) (consumed : Set TotpStepKey) : Prop where
  unused : ∀ key, key ∉ consumed → totpConsumptions key t = 0
  once : ∀ key, totpConsumptions key t ≤ 1

theorem ReplaySound.start : ReplaySound ([] : TotpTrace ι) ∅ where
  unused _ _ := rfl
  once _ := Nat.zero_le 1

/-- An event that consumes nothing; the store may still have grown. -/
theorem ReplaySound.silent (sound : ReplaySound t consumed) (grown : consumed ⊆ consumed')
    {i : ι} {e : TotpEvent} (unconsumed : ∀ key, isTotpConsumption key e = false) :
    ReplaySound ((i, e) :: t) consumed' := by
  have same : ∀ key, totpConsumptions key ((i, e) :: t) = totpConsumptions key t := by
    intro key
    simp [totpConsumptions_cons, unconsumed key]
  constructor
  case unused =>
    intro key absent
    rw [same]
    exact sound.unused key fun present => absent (grown present)
  case once =>
    intro key
    rw [same]
    exact sound.once key

theorem ReplaySound.consume (sound : ReplaySound t consumed) {i : ι} {key : TotpStepKey}
    {consumedAt : OffsetDateTime} (fresh : key ∉ consumed) :
    ReplaySound ((i, consumedTotpStep key consumedAt) :: t) (insert key consumed) := by
  constructor
  case unused =>
    intro other absent
    obtain ⟨apart, unused⟩ := not_or.mp absent
    have elsewhere : isTotpConsumption other (consumedTotpStep key consumedAt) = false :=
      beq_eq_false_iff_ne.mpr apart
    simp [totpConsumptions_cons, elsewhere, sound.unused other unused]
  case once =>
    intro other
    by_cases same : other = key
    · subst same
      rw [totpConsumptions_cons, sound.unused other fresh]
      split <;> decide
    · have elsewhere : isTotpConsumption other (consumedTotpStep key consumedAt) = false :=
        beq_eq_false_iff_ne.mpr same
      simpa [totpConsumptions_cons, elsewhere] using sound.once other

/-- Every operation keeps the invariant. -/
theorem ReplaySound.step (sound : ReplaySound t consumed) {i : ι} {op : totpSignature.Op}
    {resp : totpSignature.Resp op} (effect : ReplayEffect consumed op resp consumed') :
    ReplaySound ((i, ⟨op, resp⟩) :: t) consumed' := by
  rcases op with op | op
  · obtain rfl := effect
    exact sound.silent subset_rfl fun _ => rfl
  · cases op with
    | consumeTotpStep principalId factorId step consumedAt =>
        rcases resp with error | _ | _
        · rcases effect with rfl | rfl
          · exact sound.silent subset_rfl fun _ => rfl
          · exact sound.silent (Set.subset_insert ..) fun _ => rfl
        · obtain rfl := effect
          exact sound.silent subset_rfl fun _ => rfl
        · obtain ⟨fresh, rfl⟩ := effect
          exact sound.consume fresh
    | overflow => exact Empty.elim resp

variable [DecidableEq ι] {lib : TotpLibrary} {calls : TotpPool ι}
variable {c : Config totpReplayStore ι}

theorem replay_sound (reached : Reachable totpReplayStore (calls.program lib) c) :
    ReplaySound c.trace c.state := by
  refine Reachable.invariant (I := fun c => ReplaySound c.trace c.state)
    (fun i => TotpCall.verified lib (calls i).1 (calls i).2) ?_ ?_ reached
  · exact ReplaySound.start
  · intro t w w' i op resp _ sound _ effect
    exact sound.step effect

/-- Call `i` succeeded with the key. -/
structure TotpPool.Succeeds (lib : TotpLibrary) (calls : TotpPool ι)
    (c : Config totpReplayStore ι) (i : ι) (key : TotpStepKey) : Prop where
  returned : Returned (calls.program lib) c i (.ok ())
  accepted : ∃ step, (calls i).2.Accepts lib step ∧ (calls i).2.key step = key

theorem TotpPool.Succeeds.consumes {i : ι} {key : TotpStepKey}
    (succeeds : calls.Succeeds lib c i key) :
    ∃ e ∈ c.trace.of i, isTotpConsumption key e = true := by
  have ended : totpPost lib (calls i).2 (c.trace.of i) (.ok ()) :=
    (TotpCall.verified lib (calls i).1 (calls i).2).post_of_path succeeds.returned
  obtain ⟨step, consumedAt, accepts, mem⟩ := ended
  obtain ⟨step', accepts', rfl⟩ := succeeds.accepted
  have same : step = step' := by
    injection accepts.symm.trans accepts' with outcome
    injection outcome
  subst same
  exact ⟨_, mem, beq_self_eq_true _⟩

theorem TotpPool.Succeeds.unique {i j : ι} {key : TotpStepKey}
    (reached : Reachable totpReplayStore (calls.program lib) c)
    (first : calls.Succeeds lib c i key) (second : calls.Succeeds lib c j key) : i = j := by
  by_contra apart
  have distinct : [i, j].Nodup := by simp [apart]
  have consumed_twice := Trace.length_le_countP (P := isTotpConsumption key) (t := c.trace)
    distinct (by
      intro k mem
      rcases List.mem_pair.mp mem with rfl | rfl
      · exact first.consumes
      · exact second.consumes)
  exact absurd (consumed_twice.trans ((replay_sound reached).once key)) (by simp)

end Runs

/--
A verification accepts the least step of the window whose code it is, and one call
at most succeeds with a step.  A period or a skew beyond `i64` is refused.
-/
theorem totp_acceptance (lib : TotpLibrary) :
    (∀ secretBase32 secret code options now, lib.decodeBase32 secretBase32 = some secret →
      validateTotpOptions options = .ok () → 0 ≤ now.unixNanos →
      (options.periodSeconds.toNat < 2 ^ 63 → options.allowedSkew.toNat < 2 ^ 63 →
        currentTotpStep now options + options.allowedSkew.toNat < 2 ^ 63 →
        ∃ result, verifyTotpCodeStep lib secretBase32 code options now = some result ∧
          ((∃ s, result = .ok s) ↔ (AcceptableSteps lib secret code options now).Nonempty) ∧
          ∀ s, result = .ok s ↔ IsLeast (AcceptableSteps lib secret code options now) s) ∧
      (code.toList.all Char.isDigit = true →
        2 ^ 63 ≤ options.periodSeconds.toNat ∨ 2 ^ 63 ≤ options.allowedSkew.toNat →
        ∃ message, verifyTotpCodeStep lib secretBase32 code options now =
          some (.error (.invalidConfiguration message)))) ∧
    ∀ (ι : Type) [DecidableEq ι] (calls : TotpPool ι) (c : Config totpReplayStore ι),
      Reachable totpReplayStore (calls.program lib) c →
      ∀ i j key, calls.Succeeds lib c i key → calls.Succeeds lib c j key → i = j := by
  refine ⟨?_, fun ι _ calls c reached i j key first second => first.unique reached second⟩
  intro secretBase32 secret code options now decoded accepted later
  refine ⟨fun short _ last => ?_, fun digits => verifyTotpCodeStep_of_large accepted digits decoded⟩
  rcases verifyTotpCodeStep_spec accepted decoded later short last with
    ⟨s, outcome, least⟩ | ⟨outcome, none⟩
  · refine ⟨_, outcome, ⟨fun _ => ⟨s, least.1⟩, fun _ => ⟨s, rfl⟩⟩, fun other => ?_⟩
    constructor
    · rintro ⟨⟩
      exact least
    · intro least'
      rw [least.unique least']
  · rw [none]
    refine ⟨_, outcome, ⟨?_, ?_⟩, fun other => ⟨?_, ?_⟩⟩
    · rintro ⟨_, ⟨⟩⟩
    · rintro ⟨_, ⟨⟩⟩
    · rintro ⟨⟩
    · rintro ⟨⟨⟩, -⟩

section Samples

/-- Every digest is zero, and the empty text is the empty secret. -/
def zeroTotpLibrary : TotpLibrary where
  hmacSha1 _ _ := Vector.replicate 20 0
  decodeBase32 text := if text = "" then some [] else none

/-- The steps that were used; the clock stands still and no attempt was ever recorded. -/
def TotpHost.exec (consumed : List TotpStepKey) :
    (op : totpSignature.Op) → Option (totpSignature.Resp op × List TotpStepKey)
  | .inl (.now _) => some (OffsetDateTime.atSecond 60, consumed)
  | .inl .newUuid => some ((⟨7⟩ : Uuid), consumed)
  | .inl (.findAuthRateLimitState _) =>
      some ((.ok none : AuthResult (Option AuthRateLimitSnapshot)), consumed)
  | .inl (.compareExchangeAuthRateLimitState ..) => some ((.ok true : AuthResult Bool), consumed)
  | .inl (.clearAuthRateLimitState ..) => some ((.ok true : AuthResult Bool), consumed)
  | .inr (.consumeTotpStep principalId factorId step _) =>
      if ⟨principalId, factorId, step⟩ ∈ consumed then
        some ((.ok false : AuthResult Bool), consumed)
      else some ((.ok true : AuthResult Bool), ⟨principalId, factorId, step⟩ :: consumed)
  | _ => none

theorem TotpHost.exec_meets {consumed consumed' : List TotpStepKey} {op : totpSignature.Op}
    {resp : totpSignature.Resp op} (answered : TotpHost.exec consumed op = some (resp, consumed')) :
    ReplayEffect {key | key ∈ consumed} op resp {key | key ∈ consumed'} := by
  rcases op with op | op
  · cases op <;> first | (cases answered; rfl) | cases answered
  · cases op with
    | consumeTotpStep principalId factorId step consumedAt =>
        simp only [TotpHost.exec] at answered
        split at answered
        · cases answered
          rfl
        · rename_i fresh
          cases answered
          exact ⟨fresh, Set.ext fun key => List.mem_cons⟩
    | overflow => cases answered

def totpHost : Implementation totpReplayStore where
  Memory := List TotpStepKey
  start := []
  exec := TotpHost.exec
  abs consumed := {key | key ∈ consumed}
  abs_start := Set.ext fun _ => by simp [totpReplayStore]
  meets := TotpHost.exec_meets

/-- One code is presented twice in the third step. -/
def racedCode : TotpCall where
  principalId := "ada"
  factorId := some "phone"
  secretBase32 := ""
  code := "000000"
  options := {}
  now := .atSecond 60
  metadata := {}

def racedCalls : TotpPool Nat := fun _ => (.bare .default, racedCode)

/-- Both calls have verified the code before either consumes its step. -/
def racedRun : Running totpHost (racedCalls.program zeroTotpLibrary) :=
  Running.start.schedule ([0, 1, 0, 1] ++ List.replicate 12 1 ++ List.replicate 12 0)

/-- The code of every step is accepted for the least one, by one of the two calls. -/
theorem totp_acceptance_of_race :
    IsLeast (AcceptableSteps zeroTotpLibrary [] "000000" {} (.atSecond 60)) 1 ∧
      ∃ i, racedCalls.Succeeds zeroTotpLibrary racedRun.config i ⟨"ada", some "phone", 1⟩ ∧
        ∀ j, racedCalls.Succeeds zeroTotpLibrary racedRun.config j ⟨"ada", some "phone", 1⟩ →
          i = j := by
  obtain ⟨accepts, once⟩ := totp_acceptance zeroTotpLibrary
  have accepted : verifyTotpCodeStep zeroTotpLibrary "" "000000" {} (.atSecond 60) =
      some (.ok 1) := by
    decide +kernel
  constructor
  · obtain ⟨result, outcome, -, least⟩ := (accepts "" [] "000000" {} (.atSecond 60) rfl rfl
      (by decide)).1 (by decide) (by decide) (by decide)
    rw [accepted] at outcome
    exact (least 1).mp (Option.some.inj outcome).symm
  · obtain ⟨result, returned, passed⟩ := Running.exists_returned (r := racedRun) (i := 1)
      (fun result => result.toOption.isSome) (by decide +kernel)
    rcases result with e | ⟨⟩
    · cases passed
    · have succeeds : racedCalls.Succeeds zeroTotpLibrary racedRun.config 1
          ⟨"ada", some "phone", 1⟩ := ⟨returned, 1, accepted, rfl⟩
      exact ⟨1, succeeds, fun j other => once Nat racedCalls _ racedRun.reached 1 j _
        succeeds other⟩

/-- One period is longer than `i64` seconds, and the window is the current step alone. -/
def longPeriod : TotpOptions := { periodSeconds := 9223372036854775808, allowedSkew := 0 }

/-- The code of the current step is refused with the period. -/
theorem longPeriod_refuses_current_code :
    validateTotpOptions longPeriod = .ok () ∧
      0 ∈ AcceptableSteps zeroTotpLibrary [] "000000" longPeriod (.atSecond 0) ∧
      verifyTotpCodeStep zeroTotpLibrary "" "000000" longPeriod (.atSecond 0) =
        some (.error (.invalidConfiguration "totp period is too large")) := by
  refine ⟨rfl, ⟨?_, ?_, ?_⟩, rfl⟩ <;> decide

end Samples

end AgqlAuth
