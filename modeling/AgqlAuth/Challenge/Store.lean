import AgqlAuth.Challenge.Verification
import AgqlAuth.Interaction.Interleaving

/-!
# The challenge store contract and the calls on it

What `LoginChallengeStore` documents: admission and consumption are atomic,
identifiers are never reused, and only `attempts` and `consumed_at` ever change.
A store may also lose challenges, as a host that deletes old ones does, and an
error may hide a committed write.
-/

namespace AgqlAuth

open Interaction Program

/-- The stored challenges, and every challenge ever inserted as it was inserted. -/
structure ChallengeWorld where
  challenges : Uuid → Option StoredLoginChallenge
  inserted : Uuid → Option StoredLoginChallenge

namespace ChallengeWorld

def put (w : ChallengeWorld) (challengeId : Uuid) (challenge : StoredLoginChallenge) :
    ChallengeWorld :=
  { w with challenges := Function.update w.challenges challengeId (some challenge) }

def insert (w : ChallengeWorld) (challenge : StoredLoginChallenge) : ChallengeWorld where
  challenges := Function.update w.challenges challenge.id (some challenge)
  inserted := Function.update w.inserted challenge.id (some challenge)

/-- Some challenges were deleted. -/
def Deleted (w kept : ChallengeWorld) : Prop :=
  kept.inserted = w.inserted ∧
    ∀ id, kept.challenges id = w.challenges id ∨ kept.challenges id = none

end ChallengeWorld

/-- One attempt was admitted. -/
structure Admission (w : ChallengeWorld) (challengeId : Uuid) (attemptedAt : OffsetDateTime)
    (reserved : StoredLoginChallenge) (w' : ChallengeWorld) : Prop where
  admitted : ∃ challenge, w.challenges challengeId = some challenge ∧
    challenge.consumedAt = none ∧ attemptedAt < challenge.expiresAt ∧
    challenge.attempts < challenge.maxAttempts ∧
    reserved = { challenge with attempts := challenge.attempts + 1 }
  stored : w' = w.put challengeId reserved

/-- The challenge was consumed. -/
structure Consumption (w : ChallengeWorld) (challengeId : Uuid) (consumedAt : OffsetDateTime)
    (w' : ChallengeWorld) : Prop where
  consumed : ∃ challenge, w.challenges challengeId = some challenge ∧
    challenge.consumedAt = none ∧ 0 < challenge.attempts ∧ consumedAt < challenge.expiresAt ∧
    w' = w.put challengeId { challenge with consumedAt := some consumedAt }

/-- What an operation may answer and do. -/
def ChallengeAnswer (w : ChallengeWorld) :
    (op : challengeSignature.Op) → challengeSignature.Resp op → ChallengeWorld → Prop
  | .inr (.insertLoginChallenge challenge), resp, w' =>
      (w.inserted challenge.id = none ∧ w' = w.insert challenge) ∨
        ((resp : AuthResult Unit) ≠ .ok () ∧ w' = w)
  | .inr (.findLoginChallenge challengeId), resp, w' => w' = w ∧
      ∀ found, (resp : AuthResult (Option StoredLoginChallenge)) = .ok found →
        w.challenges challengeId = found
  | .inr (.reserveLoginChallengeAttempt challengeId attemptedAt), resp, w' =>
      match (resp : AuthResult StoredLoginChallenge) with
      | .ok reserved => Admission w challengeId attemptedAt reserved w'
      | .error _ => w' = w ∨ ∃ reserved, Admission w challengeId attemptedAt reserved w'
  | .inr (.consumeLoginChallenge challengeId consumedAt), resp, w' =>
      match (resp : AuthResult Bool) with
      | .ok true => Consumption w challengeId consumedAt w'
      | .ok false => w' = w
      | .error _ => w' = w ∨ Consumption w challengeId consumedAt w'
  | _, _, w' => w' = w

def ChallengeEffect (w : ChallengeWorld) (op : challengeSignature.Op)
    (resp : challengeSignature.Resp op) (w' : ChallengeWorld) : Prop :=
  ∃ kept, w.Deleted kept ∧ ChallengeAnswer kept op resp w'

/-- Any store meeting the contract. -/
def loginChallengeStore : Shared challengeSignature where
  State := ChallengeWorld
  init := ⟨fun _ => none, fun _ => none⟩
  Effect := ChallengeEffect

inductive ChallengeCall where
  | create (principal : String) (options : LoginChallengeOptions)
  | verify (challengeId : Uuid) (code : String) (metadata : ClientMetadata)
  /-- The host inserts a challenge of its own. -/
  | insert (challenge : StoredLoginChallenge)

namespace ChallengeCall

/-- What a call returns: the result of a verification. -/
abbrev Result := AuthResult (Option VerifiedLoginChallenge)

def program (svc : AuthService) : ChallengeCall → ChallengeM (Option VerifiedLoginChallenge)
  | create principal options => do
      let _issued ← svc.createLoginChallenge principal options
      pure none
  | verify challengeId code metadata => do
      let verified ← svc.verifyLoginChallengeWithMetadata challengeId code metadata
      pure (some verified)
  | insert challenge => do
      ChallengeM.insertLoginChallenge challenge
      pure none

end ChallengeCall

/-- The operations a call may issue. -/
def challengeGuard : ChallengeCall → ChallengeHistory → challengeSignature.Op → Prop
  | .verify challengeId code _ => verificationGuard challengeId code
  | _ => fun _ op => match op with
      | .inl (.verifyPassword ..) => False
      | .inr (.reserveLoginChallengeAttempt ..) => False
      | .inr (.consumeLoginChallenge ..) => False
      | _ => True

/-- How a call ends. -/
def challengePost : ChallengeCall → ChallengeHistory → ChallengeCall.Result → Prop
  | .verify challengeId code _, h, .ok (some verified) =>
      ∃ reserved, VerifiedBy challengeId code h reserved verified
  | .verify .., _, .ok none => False
  | _, _, .ok (some _) => False
  | _, _, _ => True

theorem ChallengeCall.verified (svc : AuthService) (call : ChallengeCall) :
    Upholds (S := challengeSignature) (challengeGuard call) (challengePost call) []
      (call.program svc) := by
  cases call with
  | create principal options =>
      apply Fallible.Upholds.bind
      apply Fallible.Upholds.lift_bind
      · intro _ _
        apply Fallible.Upholds.perform_bind trivial
        intro code
        apply Fallible.Upholds.bind
        apply Upholds.await trivial
        rintro (e | codeHash)
        · trivial
        · apply Fallible.Upholds.resume
          apply Fallible.Upholds.perform_bind trivial
          intro now
          apply Fallible.Upholds.bind
          apply Upholds.await trivial
          intro id
          apply Fallible.Upholds.lift_bind
          · intro expiresAt _
            apply Fallible.Upholds.bind
            apply Upholds.await trivial
            rintro (e | ⟨⟩) <;> trivial
          · intro e _
            trivial
      · intro e _
        trivial
  | verify challengeId code metadata =>
      apply Fallible.Upholds.bind
      refine (verifyLoginChallenge_verifies metadata).mono (fun _ _ hg => hg) ?_
      rintro h (e | verified) outcome
      · trivial
      · exact outcome
  | insert challenge =>
      apply Fallible.Upholds.bind
      apply Upholds.await trivial
      rintro (e | ⟨⟩) <;> trivial

/-- Every call of a run with the service it runs on. -/
abbrev ChallengePool (ι : Type) := ι → AuthService × ChallengeCall

def ChallengePool.program {ι : Type} (calls : ChallengePool ι) (i : ι) :
    ChallengeM (Option VerifiedLoginChallenge) :=
  (calls i).2.program (calls i).1

abbrev ChallengeConfig (ι : Type) := Config loginChallengeStore ι

abbrev ChallengeTrace (ι : Type) := Trace challengeSignature ι

abbrev ChallengeReachable {ι : Type} [DecidableEq ι] (calls : ChallengePool ι)
    (c : ChallengeConfig ι) : Prop :=
  Reachable loginChallengeStore calls.program c

end AgqlAuth
