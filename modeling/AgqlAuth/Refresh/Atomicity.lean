import AgqlAuth.Interaction.Interleaving
import AgqlAuth.Refresh.MemoryStore

/-!
# Refresh is all or nothing

The statements here hold over any shared state whatsoever and next to any other
programs: they only use what a call does with the answers it gets.
-/

namespace AgqlAuth

open Interaction Program

def RefreshWrite.isRotation : RefreshWrite → Bool
  | .rotated .. => true
  | _ => false

/-- The rotations a call has committed. -/
def rotations (h : AuthHistory) : List RefreshWrite := (writes h).filter RefreshWrite.isRotation

/-- What the result of a refresh or step-up says about its writes. -/
def AllOrNothing (svc : AuthService) (refreshToken : String) (h : AuthHistory) :
    RefreshCall.Result → Prop
  | .ok (some payload) => ∃ currentTokenId record,
      writes h = [.rotated currentTokenId record] ∧
      record.tokenHash = svc.hashRefreshToken payload.refreshToken ∧
      record.roles = payload.user.roles ∧ record.scopes = payload.user.scopes ∧
      record.session = payload.user.session ∧ record.expiresAt = payload.refreshTokenExpiresAt
  | .ok none => False
  | .error .refreshTokenReplayDetected => ∃ presented,
      foundByHash (svc.hashRefreshToken refreshToken) presented ∈ h ∧
      writes h = [.familyRevoked presented.sessionFamilyId]
  | .error .refreshTokenExpired => ∃ presented,
      foundByHash (svc.hashRefreshToken refreshToken) presented ∈ h ∧
      writes h = [.revoked presented.id]
  | .error _ => writes h = []

theorem allOrNothing_of_ordinary {svc : AuthService} {refreshToken : String} {h : AuthHistory}
    {e : AuthError} (ordinary : e.isRefreshVerdict = false) (unwritten : writes h = []) :
    AllOrNothing svc refreshToken h (.error e) := by
  cases e <;> first | exact unwritten | cases ordinary

/-- Answers never carry one of the two errors that report on a refresh token. -/
def OrdinaryErrors (h : AuthHistory) : Prop :=
  ∀ event ∈ h, ∀ e, errorOf event = some e → e.isRefreshVerdict = false

theorem RotationOutcome.allOrNothing {svc : AuthService} {refreshToken : String}
    {h : AuthHistory} {result : AuthResult AuthPayload}
    (outcome : RotationOutcome svc refreshToken h result) (errors : OrdinaryErrors h) :
    AllOrNothing svc refreshToken h (result.map some) := by
  cases outcome with
  | relayed mem asked reported unwritten =>
      exact allOrNothing_of_ordinary (errors _ mem _ reported) unwritten
  | unresolved unknown ordinary unwritten => exact allOrNothing_of_ordinary ordinary unwritten
  | refused known entitled failure unwritten =>
      rcases failure with ⟨event, mem, reported⟩ | ordinary
      · exact allOrNothing_of_ordinary (errors event mem _ reported) unwritten
      · exact allOrNothing_of_ordinary ordinary unwritten
  | expired found known unrevoked written => exact ⟨_, found, written⟩
  | replayed last revoked unwritten found latest =>
      subst last
      exact ⟨_, List.mem_cons_of_mem _ found, writes_first revoked unwritten⟩
  | rotated known entitled written delivered =>
      exact ⟨_, _, written, delivered.tokenHash, delivered.roles.symm, delivered.scopes.symm,
        delivered.session.symm, delivered.expiresAt.symm⟩

/-- A rotation is only asked for by a call that has written nothing. -/
theorem rotations_step {svc : AuthService} {call : RefreshCall} {h : AuthHistory} {e : AuthEvent}
    (allowed : callGuard svc call h e.op) (few : (rotations h).length ≤ 1) :
    (rotations (e :: h)).length ≤ 1 := by
  cases written : writeOf e with
  | none =>
      rw [rotations, writes_silent written]
      exact few
  | some write =>
      have extended : writes (e :: h) = write :: writes h := List.filterMap_cons_some written
      cases rotation : write.isRotation with
      | false =>
          rw [rotations, extended, List.filter_cons_of_neg (by simp [rotation])]
          exact few
      | true =>
          cases write with
          | rotated currentTokenId record =>
              cases wrote_of_writeOf written
              obtain ⟨_, _, _, _, _, _, -, plan⟩ := allowed
              rw [rotations, extended, plan.unwritten]
              simp [rotation]
          | _ => cases rotation

section Runs

variable {M : Shared authSignature} {ι : Type} [DecidableEq ι]
variable {prog : ι → Program authSignature RefreshCall.Result} {c : Config M ι} {i : ι}

theorem rotations_le_one {svc : AuthService} {call : RefreshCall} {h : AuthHistory}
    {rest : Program authSignature RefreshCall.Result} (path : Path (call.program svc) h rest) :
    (rotations h).length ≤ 1 := by
  induction path with
  | start => simp [rotations, writes]
  | step before resp ih =>
      exact rotations_step ((RefreshCall.verified svc call).guard_of_path before) ih

/--
Refresh is all or nothing, next to any other programs and whatever is answered.
A refresh or step-up commits at most one rotation at any time.  Once it returns,
its result accounts for every write: one rotation, whose record is the one
delivered; one family revocation; one revocation of the presented token; or none.
-/
theorem refresh_all_or_nothing {svc : AuthService} {call : RefreshCall} {refreshToken : String}
    (reached : Reachable M prog c) (runs : prog i = call.program svc)
    (presents : call.presentedToken = some refreshToken)
    (errors : OrdinaryErrors (c.trace.of i)) :
    (rotations (c.trace.of i)).length ≤ 1 ∧
      ∀ result, Returned prog c i result →
        AllOrNothing svc refreshToken (c.trace.of i) result := by
  constructor
  · obtain ⟨rest, path⟩ := reached.path i
    rw [runs] at path
    exact rotations_le_one path
  · intro result returned
    unfold Returned at returned
    rw [runs] at returned
    have ended : callPost svc call (c.trace.of i) result :=
      (RefreshCall.verified svc call).post_of_path returned
    rcases result with e | _ | payload
    · exact (ended refreshToken presents).allOrNothing errors
    · cases presents.symm.trans ended
    · simp only [callPost, presents] at ended
      exact ended.allOrNothing errors

/-- A step-up that reuses the first token of a session rotated twice. -/
theorem reuse_all_or_nothing :
    ∃ payload,
      AllOrNothing sampleService "xxx" ((sampleRun [0, 1, 2, 3]).trace.of 3)
        (.ok (some payload)) := by
  obtain ⟨payload, returned⟩ : ∃ payload,
      (sampleRun [0, 1, 2, 3]).result? 3 = some (.ok (some payload)) := ⟨_, rfl⟩
  have silent : ((sampleRun [0, 1, 2, 3]).trace.of 3).all (fun event => (errorOf event).isNone) =
      true := rfl
  refine ⟨payload, (refresh_all_or_nothing (sampleRun [0, 1, 2, 3]).reached rfl rfl ?_).2 _
    (Running.returned_of_result? returned)⟩
  intro event mem e reported
  have unreported := List.all_eq_true.mp silent event mem
  rw [reported] at unreported
  cases unreported

end Runs

end AgqlAuth
