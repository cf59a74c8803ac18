import AgqlAuth.Interaction.OneTime
import AgqlAuth.RateLimit.LoginAccounting
import AgqlAuth.Service.PasswordReset
import AgqlAuth.Token.PurposeRoundTrip

/-!
# A reset token is redeemed once

Issuing and redeeming interleave over one store of token ids, which answers `true`
to the first use of an id only.  Every redemption that is refused for its token is
charged to the rate limits.
-/

namespace AgqlAuth

open Interaction Program

/-- What an operation may answer and do; an error may hide a committed use. -/
def PasswordResetEffect (consumed : Set Uuid) :
    (op : resetSignature.Op) → resetSignature.Resp op → Set Uuid → Prop
  | .inr (.consumePasswordResetToken tokenId _), resp, consumed' =>
      match (resp : AuthResult Bool) with
      | .ok true => tokenId ∉ consumed ∧ consumed' = insert tokenId consumed
      | .ok false => consumed' = consumed
      | .error _ => consumed' = consumed ∨ consumed' = insert tokenId consumed
  | _, _, consumed' => consumed' = consumed

/-- Any store that atomically answers `true` for the first use of an id only. -/
def passwordResetStore : Shared resetSignature where
  State := Set Uuid
  init := ∅
  Effect := PasswordResetEffect

/-- The store let `tokenId` be used. -/
def consumedPasswordReset (tokenId : Uuid) (consumedAt : OffsetDateTime) : ResetEvent :=
  ⟨.inr (.consumePasswordResetToken tokenId consumedAt), (.ok true : AuthResult Bool)⟩

/-- The store recorded an issued token. -/
def recordedPasswordReset (issued : PasswordResetToken) : ResetEvent :=
  ⟨.inr (.insertPasswordResetToken issued.tokenId issued.userId issued.expiresAt),
    (.ok () : AuthResult Unit)⟩

def spentResetId : ResetEvent → Option Uuid
  | ⟨.inr (.consumePasswordResetToken tokenId _), (.ok true : AuthResult Bool)⟩ => some tokenId
  | _ => none

/-- An id is spent by the use that the store let through. -/
def resetIds : OneTime passwordResetStore Uuid where
  spends := spentResetId
  spent consumed := consumed
  fresh := by
    intro consumed op resp consumed' id effect spends
    rcases op with op | op
    · cases spends
    · cases op with
      | insertPasswordResetToken => cases spends
      | consumePasswordResetToken tokenId consumedAt =>
          rcases resp with e | _ | _
          · cases spends
          · cases spends
          · cases spends
            obtain ⟨fresh, rfl⟩ := effect
            exact ⟨fresh, Set.mem_insert ..⟩
  keeps := by
    intro consumed op resp consumed' effect
    rcases op with op | op
    · exact Eq.subset (Eq.symm effect)
    · cases op with
      | insertPasswordResetToken => exact Eq.subset (Eq.symm effect)
      | consumePasswordResetToken tokenId consumedAt =>
          rcases resp with e | _ | _
          · rcases effect with same | grown
            · exact Eq.subset (Eq.symm same)
            · exact grown ▸ Set.subset_insert ..
          · exact Eq.subset (Eq.symm effect)
          · exact effect.2 ▸ Set.subset_insert ..

def authEvent : ResetEvent → Option AuthEvent
  | ⟨.inl op, resp⟩ => some ⟨op, resp⟩
  | ⟨.inr _, _⟩ => none

/-- What the service's other effects saw of a history. -/
def authEvents (h : ResetHistory) : AuthHistory := h.filterMap authEvent

/-- The keys a call has charged, in order. -/
def chargedKeys (h : ResetHistory) : List AuthRateLimitKey := committedKeys (authEvents h)

theorem authEvents_lifted (late : AuthHistory) (h : ResetHistory) :
    authEvents (late.map liftEvent ++ h) = late ++ authEvents h := by
  induction late with
  | nil => rfl
  | cons e late ih =>
      have seen : authEvent (liftEvent e) = some e := rfl
      rw [List.map_cons, List.cons_append, authEvents, List.filterMap_cons_some seen]
      exact congrArg (e :: ·) ih

theorem chargedKeys_lifted (late : AuthHistory) (h : ResetHistory) :
    chargedKeys (late.map liftEvent ++ h) = chargedKeys h ++ committedKeys late := by
  rw [chargedKeys, authEvents_lifted, committedKeys_append]
  rfl

theorem chargedKeys_of_uncharged {late : AuthHistory} {h : ResetHistory}
    {keys : List AuthRateLimitKey} (uncharged : chargedKeys h = [])
    (charged : committedKeys late = keys) : chargedKeys (late.map liftEvent ++ h) = keys := by
  rw [chargedKeys_lifted, uncharged, charged, List.nil_append]

/-- Neither the clock nor the reset store charges anything. -/
theorem chargedKeys_consume {h : ResetHistory} {tokenId : Uuid} {consumedAt : OffsetDateTime}
    (answer : AuthResult Bool) (uncharged : chargedKeys h = []) :
    chargedKeys ((⟨.inr (.consumePasswordResetToken tokenId consumedAt), answer⟩ : ResetEvent) ::
      liftEvent (⟨.now .system, consumedAt⟩ : AuthEvent) :: h) = [] := uncharged

section Parts

variable {α β : Type} {h : ResetHistory} {p : AuthM α}
variable {post : ResetHistory → Except PasswordResetError β → Prop}

/-- A part of the service that was verified from the start is followed by its continuation. -/
theorem service_bind {f : α → ResetM β} {phase : AuthHistory → AuthResult α → Prop}
    (verified : Upholds (S := authSignature) (Unlicensed authSignature) phase [] p)
    (ok : ∀ late value, phase late (.ok value) →
      Upholds (Unlicensed resetSignature) post (late.map liftEvent ++ h) (f value))
    (error : ∀ late e, phase late (.error e) →
      post (late.map liftEvent ++ h) (.error (.auth e))) :
    Upholds (S := resetSignature) (Unlicensed resetSignature) post h
      (ResetM.service p >>= f : ResetM β) := by
  apply Fallible.Upholds.bind
  apply Fallible.Upholds.widen
  refine verified.mono (fun _ _ _ => trivial) fun late result holds => ?_
  cases result with
  | ok value => exact ok late value holds
  | error e => exact error late e holds

theorem service_now_bind {clock : ClockSource} {f : OffsetDateTime → ResetM β}
    (answered : ∀ now : OffsetDateTime, Upholds (Unlicensed resetSignature) post
      (liftEvent (⟨.now clock, now⟩ : AuthEvent) :: h) (f now)) :
    Upholds (S := resetSignature) (Unlicensed resetSignature) post h
      (ResetM.service (AgqlAuth.now clock) >>= f : ResetM β) :=
  ⟨trivial, answered⟩

end Parts

/-- The arguments of a redemption. -/
structure ResetRedemption where
  token : String
  metadata : ClientMetadata

section Redeem

variable {lib : JwtLibrary} (svc : JwtService lib) (call : ResetRedemption)

def ResetRedemption.clientKeys : List AuthRateLimitKey :=
  svc.auth.rateLimitKeys .passwordResetTokenConsumption none call.metadata

def ResetRedemption.userKeys (userId : String) : List AuthRateLimitKey :=
  svc.auth.rateLimitKeys .passwordResetTokenConsumption (some userId) call.metadata

/-- What a redemption charges for its token. -/
abbrev ResetRedemption.charge (keys : List AuthRateLimitKey) : List AuthRateLimitKey :=
  countedKeys svc.auth.config.rateLimits.credential keys

/-- Why a redemption stopped without a verdict on its token. -/
inductive ResetStopped (h : ResetHistory) (e : AuthError) : Prop where
  | limited (seconds : Int) (restricted : e = .authLocked seconds ∨ e = .authThrottled seconds)
  | reported (reported : Reported (authEvents h) e)
  | store (tokenId : Uuid) (consumedAt : OffsetDateTime)
      (answered : (⟨.inr (.consumePasswordResetToken tokenId consumedAt),
        (.error e : AuthResult Bool)⟩ : ResetEvent) ∈ h)

/-- The ways a redemption ends, each with what it has charged. -/
inductive ResetExit (h : ResetHistory) :
    Except PasswordResetError VerifiedPasswordResetToken → Prop where
  | redeemed {validatedAt : Int} {now consumedAt : OffsetDateTime}
      {verified : VerifiedPasswordResetToken}
      (accepted : svc.authenticatePasswordResetToken call.token validatedAt now = .ok verified)
      (consumed : consumedPasswordReset verified.tokenId consumedAt ∈ h)
      (uncharged : chargedKeys h = []) : ResetExit h (.ok verified)
  | replayed {validatedAt : Int} {now : OffsetDateTime} {verified : VerifiedPasswordResetToken}
      (accepted : svc.authenticatePasswordResetToken call.token validatedAt now = .ok verified)
      (charged : chargedKeys h = ResetRedemption.charge svc (call.userKeys svc verified.userId)) :
      ResetExit h (.error .passwordResetTokenReplayed)
  | rejected {validatedAt : Int} {now : OffsetDateTime} {e : AuthError}
      (refused : svc.authenticatePasswordResetToken call.token validatedAt now = .error e)
      (charged : chargedKeys h = ResetRedemption.charge svc (call.clientKeys svc)) :
      ResetExit h (.error (.auth e))
  | stopped {e : AuthError} (stopped : ResetStopped h e) : ResetExit h (.error (.auth e))

variable {svc call}

theorem ResetStopped.lifted {late : AuthHistory} {h : ResetHistory} {e : AuthError}
    (reported : Reported late e) : ResetStopped (late.map liftEvent ++ h) e := by
  refine .reported (reported.mono ?_)
  rw [authEvents_lifted]
  exact List.subset_append_left late _

theorem AdmissionCheck.stopped {policy : AuthRateLimitPolicy} {keys : List AuthRateLimitKey}
    {late : AuthHistory} {h : ResetHistory} {e : AuthError}
    (checked : AdmissionCheck policy keys late (.error e)) :
    ResetStopped (late.map liftEvent ++ h) e := by
  rcases checked.failed e rfl with reported | ⟨seconds, restricted⟩
  · exact .lifted reported
  · exact .limited seconds restricted

theorem AdmissionCheck.uncharged {policy : AuthRateLimitPolicy} {keys : List AuthRateLimitKey}
    {late : AuthHistory} {result : AuthResult RateLimitPermit}
    (checked : AdmissionCheck policy keys late result) : committedKeys late = [] :=
  committedKeys_of_only
    (fun _ admission => committedKey_reading (readingOp_of_admissionOp admission)) checked.only

/-- Clearing the counters after a consumed id charges nothing. -/
theorem clearConsumed_exits {h : ResetHistory} {validatedAt : Int} {now consumedAt : OffsetDateTime}
    {verified : VerifiedPasswordResetToken} {policy : AuthRateLimitPolicy} (permit : RateLimitPermit)
    (accepted : svc.authenticatePasswordResetToken call.token validatedAt now = .ok verified)
    (consumed : consumedPasswordReset verified.tokenId consumedAt ∈ h)
    (uncharged : chargedKeys h = []) :
    Upholds (S := resetSignature) (Unlicensed resetSignature) (ResetExit svc call) h
      (ResetM.service (clearRateLimitAttempts policy permit) >>= fun _ => pure verified :
        ResetM VerifiedPasswordResetToken) := by
  apply service_bind (clearRateLimitAttempts_clears permit)
  · intro late _ cleared
    have none : committedKeys late = [] :=
      committedKeys_of_only (fun _ clearing => committedKey_clearing clearing) cleared.only
    exact .redeemed accepted (List.mem_append_right _ consumed)
      (chargedKeys_of_uncharged uncharged none)
  · intro late e cleared
    exact .stopped (.lifted (cleared.failed e rfl))

theorem consumeVerifiedPasswordResetToken_exits {h : ResetHistory} {validatedAt : Int}
    {now : OffsetDateTime} {verified : VerifiedPasswordResetToken}
    (accepted : svc.authenticatePasswordResetToken call.token validatedAt now = .ok verified)
    (uncharged : chargedKeys h = []) :
    Upholds (Unlicensed resetSignature) (ResetExit svc call) h
      (svc.consumeVerifiedPasswordResetToken call.metadata verified) := by
  refine service_bind (rejectIfRateLimited_checks _) (fun late permit checked => ?_)
    fun late e checked => .stopped checked.stopped
  have uncharged : chargedKeys (late.map liftEvent ++ h) = [] := by
    exact chargedKeys_of_uncharged uncharged checked.uncharged
  apply service_now_bind
  intro consumedAt
  apply Fallible.Upholds.bind
  apply Upholds.await trivial
  rintro (e | _ | _)
  · exact .stopped (.store _ _ List.mem_cons_self)
  · apply Fallible.Upholds.resume
    refine Fallible.Upholds.branch (fun used => absurd used (by decide)) fun _ => ?_
    refine service_bind (recordRateLimitAttempt_records _) (fun late' _ recorded => ?_)
      fun late' e recorded => .stopped (.lifted (recorded.failed e rfl))
    exact .replayed accepted
      (chargedKeys_of_uncharged (chargedKeys_consume (.ok false) uncharged) (recorded.counted rfl))
  · apply Fallible.Upholds.resume
    refine Fallible.Upholds.branch (fun _ => ?_) fun unused => absurd rfl unused
    exact clearConsumed_exits permit accepted List.mem_cons_self
      (chargedKeys_consume (.ok true) uncharged)

/-- Every redemption ends in one of these ways. -/
theorem consumePasswordResetToken_exits :
    Upholds (Unlicensed resetSignature) (ResetExit svc call) []
      (svc.consumePasswordResetTokenWithMetadata call.token call.metadata) := by
  refine service_bind (rejectIfRateLimited_checks _) (fun late permit checked => ?_)
    fun late e checked => .stopped checked.stopped
  have uncharged : chargedKeys (late.map liftEvent ++ []) = [] := by
    rw [chargedKeys_lifted, checked.uncharged]
    rfl
  apply service_now_bind
  intro validatedAt
  apply service_now_bind
  intro now
  generalize authenticated :
    svc.authenticatePasswordResetToken call.token validatedAt.unixTimestamp now = outcome
  rcases outcome with e | verified
  · refine service_bind (recordRateLimitAttempt_records _) (fun late' _ recorded => ?_)
      fun late' e recorded => .stopped (.lifted (recorded.failed e rfl))
    have still : chargedKeys (liftEvent (⟨.now .system, now⟩ : AuthEvent) ::
        liftEvent (⟨.now .system, validatedAt⟩ : AuthEvent) :: (late.map liftEvent ++ [])) = [] :=
      uncharged
    exact .rejected authenticated (chargedKeys_of_uncharged still (recorded.counted rfl))
  · exact consumeVerifiedPasswordResetToken_exits authenticated uncharged

end Redeem

/-- A token is handed out only after the store recorded it. -/
structure ResetIssued {lib : JwtLibrary} (svc : JwtService lib) (userId : String) (ttl : Duration)
    (h : ResetHistory) (issued : PasswordResetToken) : Prop where
  signed : ∃ issuedAt tokenId,
    svc.issuePasswordResetTokenWithTtl userId ttl issuedAt tokenId = .ok issued
  recorded : recordedPasswordReset issued ∈ h

theorem issuePasswordResetTokenWithStore_upholds {lib : JwtLibrary} (svc : JwtService lib)
    (userId : String) (ttl : Duration) :
    Upholds (S := resetSignature) (Unlicensed resetSignature)
      (Succeeds (ResetIssued svc userId ttl)) [] (svc.issuePasswordResetTokenWithStore userId ttl) := by
  apply service_now_bind
  intro issuedAt
  cases checked : checkedJwtExpiry issuedAt ttl "password-reset ttl" with
  | error e => exact Fallible.Upholds.bind Succeeds.error
  | ok expiresAt =>
      refine Fallible.Upholds.bind ?_
      refine ⟨trivial, fun tokenId => Fallible.Upholds.bind ?_⟩
      cases signed : svc.signPasswordResetToken userId issuedAt expiresAt tokenId with
      | error e => exact Succeeds.error
      | ok issued =>
          have issuance :
              svc.issuePasswordResetTokenWithTtl userId ttl issuedAt tokenId = .ok issued :=
            Except.bind_eq_ok_iff.mpr ⟨expiresAt, checked, signed⟩
          apply Fallible.Upholds.bind
          apply Upholds.await trivial
          rintro (e | ⟨⟩)
          · exact Succeeds.error
          · exact Succeeds.ok ⟨⟨issuedAt, tokenId, issuance⟩, List.mem_cons_self⟩

inductive ResetCall where
  | issue (userId : String) (ttl : Duration)
  | redeem (redemption : ResetRedemption)

inductive ResetReport where
  | issued (token : PasswordResetToken)
  | redeemed (verified : VerifiedPasswordResetToken)

def ResetCall.program {lib : JwtLibrary} (svc : JwtService lib) : ResetCall → ResetM ResetReport
  | .issue userId ttl => do
      let issued ← svc.issuePasswordResetTokenWithStore userId ttl
      pure (.issued issued)
  | .redeem redemption => do
      let verified ←
        svc.consumePasswordResetTokenWithMetadata redemption.token redemption.metadata
      pure (.redeemed verified)

/-- How a call ends. -/
def resetPost {lib : JwtLibrary} (svc : JwtService lib) (call : ResetCall) (h : ResetHistory)
    (result : Except PasswordResetError ResetReport) : Prop :=
  match call with
  | .issue userId ttl =>
      ∀ report, result = .ok report →
        ∃ issued, report = .issued issued ∧ ResetIssued svc userId ttl h issued
  | .redeem redemption =>
      ∃ outcome, result = outcome.map .redeemed ∧ ResetExit svc redemption h outcome

theorem ResetCall.verified {lib : JwtLibrary} (svc : JwtService lib) (call : ResetCall) :
    Upholds (S := resetSignature) (Unlicensed resetSignature) (resetPost svc call) []
      (call.program svc) := by
  cases call with
  | issue userId ttl =>
      apply Fallible.Upholds.bind
      refine (issuePasswordResetTokenWithStore_upholds svc userId ttl).mono (fun _ _ hg => hg) ?_
      rintro h (e | issued) succeeds
      · intro report impossible
        cases impossible
      · rintro report ⟨⟩
        exact ⟨issued, rfl, succeeds issued rfl⟩
  | redeem redemption =>
      apply Fallible.Upholds.bind
      refine consumePasswordResetToken_exits.mono (fun _ _ hg => hg) ?_
      rintro h (e | verified) exit
      · exact ⟨.error e, rfl, exit⟩
      · exact ⟨.ok verified, rfl, exit⟩

/-- Every call of a run with the service it runs on. -/
abbrev ResetPool (lib : JwtLibrary) (ι : Type) := ι → JwtService lib × ResetCall

def ResetPool.program {lib : JwtLibrary} {ι : Type} (calls : ResetPool lib ι) (i : ι) :
    ResetM ResetReport :=
  (calls i).2.program (calls i).1

section Runs

variable {ι : Type} [DecidableEq ι] {lib : JwtLibrary} {calls : ResetPool lib ι}
variable {c : Config passwordResetStore ι}

/-- How a call that has returned ended. -/
theorem ResetPool.post {i : ι} {result : Except PasswordResetError ResetReport}
    (returned : Returned calls.program c i result) :
    resetPost (calls i).1 (calls i).2 (c.trace.of i) result :=
  (ResetCall.verified (calls i).1 (calls i).2).post_of_path returned

/-- A redemption that returned a user has used up the id of its token. -/
theorem ResetPool.redeemed {i : ι} {verified : VerifiedPasswordResetToken}
    (returned : Returned calls.program c i (.ok (.redeemed verified))) :
    ∃ redemption, (calls i).2 = .redeem redemption ∧
      (∃ validatedAt now, (calls i).1.authenticatePasswordResetToken redemption.token validatedAt now =
        .ok verified) ∧
      ∃ consumedAt, consumedPasswordReset verified.tokenId consumedAt ∈ c.trace.of i := by
  have ended := ResetPool.post returned
  cases call : (calls i).2 with
  | issue userId ttl =>
      rw [call] at ended
      obtain ⟨issued, other, -⟩ := ended _ rfl
      cases other
  | redeem redemption =>
      rw [call] at ended
      obtain ⟨outcome, same, exit⟩ := ended
      rcases outcome with e | verified'
      · cases same
      · cases same
        cases exit with
        | redeemed accepted consumed _ =>
            exact ⟨redemption, rfl, ⟨_, _, accepted⟩, _, consumed⟩

/--
Reset tokens over every interleaving of their issuance and redemption.  A token is
handed out only after it was recorded; redemptions that return the same id are one
redemption; and a redemption of an issued token returns what it was issued for.
-/
theorem password_reset_single_use (faithful : lib.Faithful)
    (reached : Reachable passwordResetStore calls.program c) :
    (∀ i issued, Returned calls.program c i (.ok (.issued issued)) →
      recordedPasswordReset issued ∈ c.trace.of i) ∧
      (∀ i j verified verified', Returned calls.program c i (.ok (.redeemed verified)) →
        Returned calls.program c j (.ok (.redeemed verified')) →
        verified.tokenId = verified'.tokenId → i = j) ∧
      ∀ i redemption verified userId ttl issuedAt tokenId issued,
        (calls i).2 = .redeem redemption →
        Returned calls.program c i (.ok (.redeemed verified)) →
        (calls i).1.issuePasswordResetTokenWithTtl userId ttl issuedAt tokenId = .ok issued →
        issued.token = redemption.token →
          verified = .of userId tokenId issuedAt issued.expiresAt := by
  refine ⟨fun i issued returned => ?_, fun i j verified verified' first second same => ?_, ?_⟩
  · have ended := ResetPool.post returned
    cases call : (calls i).2 with
    | issue userId ttl =>
        rw [call] at ended
        obtain ⟨issued', same, holds⟩ := ended _ rfl
        cases same
        exact holds.recorded
    | redeem redemption =>
        rw [call] at ended
        obtain ⟨outcome, other, -⟩ := ended
        rcases outcome with e | verified
        · cases other
        · cases other
  · obtain ⟨-, -, -, at_, consumed⟩ := ResetPool.redeemed first
    obtain ⟨-, -, -, at', consumed'⟩ := ResetPool.redeemed second
    rw [← same] at consumed'
    exact resetIds.unique reached consumed consumed' rfl rfl
  · intro i redemption verified userId ttl issuedAt tokenId issued call returned issuance token
    obtain ⟨redemption', call', ⟨validatedAt, now, accepted⟩, -⟩ := ResetPool.redeemed returned
    rw [call] at call'
    cases call'
    rw [← token] at accepted
    exact (eq_of_authenticatePasswordResetToken faithful (signedReset_of_issue issuance) accepted).1

end Runs

/-- The ids that were consumed; the clock stands still and no attempt was ever recorded. -/
def ResetHost.exec (consumed : List Uuid) :
    (op : resetSignature.Op) → Option (resetSignature.Resp op × List Uuid)
  | .inl (.now _) => some (askedAt, consumed)
  | .inl .newUuid => some ((⟨7⟩ : Uuid), consumed)
  | .inl (.findAuthRateLimitState _) =>
      some ((.ok none : AuthResult (Option AuthRateLimitSnapshot)), consumed)
  | .inl (.compareExchangeAuthRateLimitState ..) => some ((.ok true : AuthResult Bool), consumed)
  | .inl (.clearAuthRateLimitState ..) => some ((.ok true : AuthResult Bool), consumed)
  | .inr (.insertPasswordResetToken ..) => some ((.ok () : AuthResult Unit), consumed)
  | .inr (.consumePasswordResetToken tokenId _) =>
      if tokenId ∈ consumed then some ((.ok false : AuthResult Bool), consumed)
      else some ((.ok true : AuthResult Bool), tokenId :: consumed)
  | _ => none

theorem ResetHost.exec_meets {consumed consumed' : List Uuid} {op : resetSignature.Op}
    {resp : resetSignature.Resp op} (answered : ResetHost.exec consumed op = some (resp, consumed')) :
    PasswordResetEffect {id | id ∈ consumed} op resp {id | id ∈ consumed'} := by
  rcases op with op | op
  · cases op <;> first | (cases answered; rfl) | cases answered
  · cases op with
    | insertPasswordResetToken =>
        cases answered
        rfl
    | consumePasswordResetToken tokenId consumedAt =>
        simp only [ResetHost.exec] at answered
        split at answered
        · cases answered
          rfl
        · rename_i fresh
          cases answered
          exact ⟨fresh, Set.ext fun id => List.mem_cons⟩

def resetHost : Implementation passwordResetStore where
  Memory := List Uuid
  start := []
  exec := ResetHost.exec
  abs consumed := {id | id ∈ consumed}
  abs_start := Set.ext fun _ => by simp [passwordResetStore]
  meets := ResetHost.exec_meets

/-- One call issues the token, two redeem it. -/
def twoRedemptions : ResetPool (tableLibrary resetTable) (Fin 3)
  | 0 => (secretService resetTable, .issue "user-1" (.ofSeconds 3600))
  | _ => (secretService resetTable, .redeem ⟨tableToken 0, {}⟩)

def twoRedemptionsRun : Running resetHost twoRedemptions.program :=
  Running.start.schedule (List.replicate 4 0 ++ List.replicate 24 1 ++ List.replicate 24 2)

def ResetReport.isFirstUser : Except PasswordResetError ResetReport → Bool
  | .ok (.redeemed verified) => verified.userId == "user-1"
  | _ => false

def ResetReport.isReplay : Except PasswordResetError ResetReport → Bool
  | .error .passwordResetTokenReplayed => true
  | _ => false

theorem twoRedemptions_single_use :
    ∃ verified, Returned twoRedemptions.program twoRedemptionsRun.config 1
        (.ok (.redeemed verified)) ∧
      verified.userId = "user-1" ∧ ∀ j verified',
        Returned twoRedemptions.program twoRedemptionsRun.config j (.ok (.redeemed verified')) →
        verified.tokenId = verified'.tokenId → 1 = j := by
  obtain ⟨result, returned, passed⟩ := Running.exists_returned (r := twoRedemptionsRun) (i := 1)
    ResetReport.isFirstUser (by decide +kernel)
  rcases result with e | issued | verified
  · cases passed
  · cases passed
  · exact ⟨verified, returned, by simpa [ResetReport.isFirstUser] using passed, fun j verified' =>
      (password_reset_single_use (tableLibrary_faithful resetTable)
        twoRedemptionsRun.reached).2.1 1 j verified verified' returned⟩

section Charges

variable {ι : Type} [DecidableEq ι] {lib : JwtLibrary} {calls : ResetPool lib ι}
variable {c : Config passwordResetStore ι}

/--
What a redemption charges, over every interleaving.  A replayed id costs the user
and the client an attempt, a token that does not validate the client, an accepted
one nobody; any other ending is a restriction in force or a failed effect.
-/
theorem password_reset_charges {i : ι} {redemption : ResetRedemption}
    (call : (calls i).2 = .redeem redemption)
    {result : Except PasswordResetError ResetReport}
    (returned : Returned calls.program c i result) :
    (∀ verified, result = .ok (.redeemed verified) → chargedKeys (c.trace.of i) = []) ∧
      (result = .error .passwordResetTokenReplayed → ∃ validatedAt now verified,
        (calls i).1.authenticatePasswordResetToken redemption.token validatedAt now = .ok verified ∧
        chargedKeys (c.trace.of i) =
          ResetRedemption.charge (calls i).1 (redemption.userKeys (calls i).1 verified.userId)) ∧
      ∀ e, result = .error (.auth e) →
        (chargedKeys (c.trace.of i) =
            ResetRedemption.charge (calls i).1 (redemption.clientKeys (calls i).1) ∧
          ∃ validatedAt now, (calls i).1.authenticatePasswordResetToken redemption.token
            validatedAt now = .error e) ∨
        ResetStopped (c.trace.of i) e := by
  have ended := ResetPool.post returned
  rw [call] at ended
  obtain ⟨outcome, rfl, exit⟩ := ended
  refine ⟨?_, ?_, ?_⟩
  · intro verified report
    cases exit with
    | redeemed accepted consumed uncharged => exact uncharged
    | replayed | rejected | stopped => cases report
  · intro report
    cases exit with
    | replayed accepted charged => exact ⟨_, _, _, accepted, charged⟩
    | redeemed | rejected | stopped => cases report
  · intro e report
    cases exit with
    | redeemed | replayed => cases report
    | rejected refused charged =>
        cases report
        exact .inl ⟨charged, _, _, refused⟩
    | stopped stopped =>
        cases report
        exact .inr stopped

end Charges

/-- The second redemption is replayed and charged to the user. -/
theorem twoRedemptions_charges :
    Returned twoRedemptions.program twoRedemptionsRun.config 2 (.error .passwordResetTokenReplayed) ∧
      ∃ validatedAt now verified,
        (secretService resetTable).authenticatePasswordResetToken (tableToken 0) validatedAt now =
          .ok verified ∧
        chargedKeys (twoRedemptionsRun.config.trace.of 2) =
          ResetRedemption.charge (secretService resetTable)
            (ResetRedemption.userKeys (secretService resetTable) ⟨tableToken 0, {}⟩
              verified.userId) := by
  obtain ⟨result, returned, passed⟩ := Running.exists_returned (r := twoRedemptionsRun) (i := 2)
    ResetReport.isReplay (by decide +kernel)
  rcases result with ⟨e | ⟨⟩⟩ | report
  · cases passed
  · have call : (twoRedemptions 2).2 = .redeem ⟨tableToken 0, {}⟩ := rfl
    have service : (twoRedemptions 2).1 = secretService resetTable := rfl
    obtain ⟨validatedAt, now, verified, accepted, charged⟩ :=
      (password_reset_charges call returned).2.1 rfl
    rw [service] at accepted charged
    exact ⟨returned, validatedAt, now, verified, accepted, charged⟩
  · cases passed

end AgqlAuth
