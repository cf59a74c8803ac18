import AgqlAuth.Interaction.Simulation
import AgqlAuth.Refresh.Calls

/-!
# The refresh-store contract

What `RefreshTokenStore` documents, as a relation between the store before an
operation, its answer and the store after it.  `liveReads` says whether the
store overrides `find_live_refresh_tokens_in_family`; doing so commits it to
leaving revoked records alone in `revoke_refresh_token`.
-/

namespace AgqlAuth

open Interaction

/-- The parts of a record no store operation changes. -/
def StoredRefreshToken.core (self : StoredRefreshToken) : StoredRefreshToken :=
  { self with
    lastUsedAt := none
    revokedAt := none
    replacedByTokenId := none
    userAgent := none
    ipAddress := none }

/-- The refresh records, and every identifier drawn so far. -/
structure RefreshWorld where
  records : Uuid → Option StoredRefreshToken
  generated : List Uuid

namespace RefreshWorld

/-- The record with this identifier belongs to `fam`. -/
def InFamily (w : RefreshWorld) (fam : Uuid) (record : StoredRefreshToken) : Prop :=
  w.records record.id = some record ∧ record.sessionFamilyId = fam

/-- An unrevoked record of `fam`. -/
def LiveIn (w : RefreshWorld) (fam : Uuid) (record : StoredRefreshToken) : Prop :=
  w.InFamily fam record ∧ record.revokedAt = none

/-- The unique index on token hashes admits `tokenHash`. -/
def HashFree (w : RefreshWorld) (tokenHash : String) : Prop :=
  ∀ id record, w.records id = some record → record.tokenHash ≠ tokenHash

def put (w : RefreshWorld) (record : StoredRefreshToken) : RefreshWorld :=
  { w with records := Function.update w.records record.id (some record) }

@[simp]
theorem put_self (w : RefreshWorld) (record : StoredRefreshToken) :
    (w.put record).records record.id = some record :=
  Function.update_self ..

theorem put_of_ne (w : RefreshWorld) {record : StoredRefreshToken} {id : Uuid}
    (ne : id ≠ record.id) : (w.put record).records id = w.records id :=
  Function.update_of_ne ne ..

/-- Records are changed one by one; none appears or disappears. -/
def Pointwise (w : RefreshWorld) (change : StoredRefreshToken → StoredRefreshToken → Prop)
    (w' : RefreshWorld) :
    Prop :=
  w'.generated = w.generated ∧ ∀ id,
    (w.records id = none ∧ w'.records id = none) ∨
      ∃ record record', w.records id = some record ∧ w'.records id = some record' ∧
        change record record'

end RefreshWorld

section Contract

open RefreshWorld

/-- `revoke_refresh_token`: a store with live reads leaves revoked records alone. -/
def Revocation (liveReads : Bool) (tokenId : Uuid) (revokedAt : OffsetDateTime)
    (replacedByTokenId : Option Uuid) (record record' : StoredRefreshToken) : Prop :=
  let revoked := { record with revokedAt := some revokedAt, replacedByTokenId := replacedByTokenId }
  if record.id = tokenId then
    if record.revokedAt = none then record' = revoked
    else record' = record ∨ (liveReads = false ∧ record' = revoked)
  else record' = record

/-- `revoke_refresh_token_family`: what it does to records revoked before is left open. -/
def FamilyRevocation (sessionFamilyId : Uuid) (revokedAt : OffsetDateTime)
    (record record' : StoredRefreshToken) : Prop :=
  if record.sessionFamilyId = sessionFamilyId then
    ∃ stamp link, record' = { record with revokedAt := some stamp, replacedByTokenId := link } ∧
      (stamp = revokedAt ∨ record.revokedAt = some stamp) ∧
      (link = record.replacedByTokenId ∨ link = none)
  else record' = record

/-- `touch_refresh_token`. -/
def Touch (tokenId : Uuid) (usedAt : OffsetDateTime) (ipAddress userAgent : Option String)
    (record record' : StoredRefreshToken) : Prop :=
  if record.id = tokenId then record' = { record with lastUsedAt := some usedAt, ipAddress, userAgent }
  else record' = record

/-- The current record as `rotate_refresh_token` leaves it. -/
def superseded (current : StoredRefreshToken) (replacementId : Uuid) (rotatedAt : OffsetDateTime)
    (ipAddress userAgent : Option String) : StoredRefreshToken :=
  { current with
    lastUsedAt := some rotatedAt
    ipAddress
    userAgent
    revokedAt := some rotatedAt
    replacedByTokenId := some replacementId }

/-- The store after `replacement` took the place of `current`. -/
def RefreshWorld.rotate (w : RefreshWorld) (current replacement : StoredRefreshToken)
    (rotatedAt : OffsetDateTime) (ipAddress userAgent : Option String) : RefreshWorld :=
  (w.put (superseded current replacement.id rotatedAt ipAddress userAgent)).put replacement

/-- `rotate_refresh_token`: one atomic compare-and-swap. -/
def Rotation (w : RefreshWorld) (currentTokenId : Uuid) (replacement : StoredRefreshToken)
    (rotatedAt : OffsetDateTime) (ipAddress userAgent : Option String) :
    AuthResult Bool → RefreshWorld → Prop
  | .ok true, w' => ∃ current, w.records currentTokenId = some current ∧
      current.revokedAt = none ∧ w.HashFree replacement.tokenHash ∧
      w' = w.rotate current replacement rotatedAt ipAddress userAgent
  | .ok false, w' => w' = w ∧ ∀ current, w.records currentTokenId = some current →
      current.revokedAt ≠ none
  | .error _, w' => w' = w

section Rotate

variable {w : RefreshWorld} {current replacement : StoredRefreshToken}
variable {rotatedAt : OffsetDateTime} {ipAddress userAgent : Option String} {id : Uuid}

theorem rotate_replacement :
    (w.rotate current replacement rotatedAt ipAddress userAgent).records replacement.id =
      some replacement :=
  put_self ..

theorem rotate_current (ne : current.id ≠ replacement.id) :
    (w.rotate current replacement rotatedAt ipAddress userAgent).records current.id =
      some (superseded current replacement.id rotatedAt ipAddress userAgent) := by
  rw [RefreshWorld.rotate, put_of_ne _ ne]
  exact put_self ..

theorem rotate_other (ne : id ≠ replacement.id) (ne_current : id ≠ current.id) :
    (w.rotate current replacement rotatedAt ipAddress userAgent).records id = w.records id := by
  rw [RefreshWorld.rotate, put_of_ne _ ne]
  exact put_of_ne _ ne_current

end Rotate

/-- An `Err` answer may hide an operation that took effect. -/
def OrFailed (w : RefreshWorld) (applied : Prop) (w' : RefreshWorld) : AuthResult Unit → Prop
  | .ok () => applied
  | .error _ => w' = w ∨ applied

/-- What an operation may answer and do. -/
def RefreshEffect (liveReads : Bool) (w : RefreshWorld) :
    (op : AuthOp) → AuthOp.Resp op → RefreshWorld → Prop
  | .newUuid, id, w' => id ∉ w.generated ∧ w' = { w with generated := id :: w.generated }
  | .insertRefreshToken token, resp, w' =>
      OrFailed w (w.HashFree token.tokenHash ∧ w' = w.put token) w' resp
  | .findRefreshTokenByHash tokenHash, resp, w' => w' = w ∧
      match (resp : AuthResult (Option StoredRefreshToken)) with
      | .ok (some token) => w.records token.id = some token ∧ token.tokenHash = tokenHash
      | .ok none => w.HashFree tokenHash
      | .error _ => True
  | .revokeRefreshToken tokenId revokedAt replacedByTokenId _, resp, w' =>
      OrFailed w (w.Pointwise (Revocation liveReads tokenId revokedAt replacedByTokenId) w') w' resp
  | .revokeRefreshTokenFamily sessionFamilyId revokedAt _, resp, w' =>
      OrFailed w (w.Pointwise (FamilyRevocation sessionFamilyId revokedAt) w') w' resp
  | .touchRefreshToken tokenId usedAt ipAddress userAgent, resp, w' =>
      OrFailed w (w.Pointwise (Touch tokenId usedAt ipAddress userAgent) w') w' resp
  | .rotateRefreshToken currentTokenId replacement rotatedAt ipAddress userAgent, resp, w' =>
      Rotation w currentTokenId replacement rotatedAt ipAddress userAgent resp w'
  | .findLiveRefreshTokensInFamily sessionFamilyId, resp, w' => w' = w ∧
      match (resp : AuthResult (Option (List StoredRefreshToken))) with
      | .ok (some tokens) => liveReads = true ∧ tokens.Nodup ∧
          ∀ token, token ∈ tokens ↔ w.LiveIn sessionFamilyId token
      | .ok none => liveReads = false
      | .error _ => True
  | _, _, w' => w' = w

/-- Any store meeting the contract, with fresh identifiers. -/
def refreshStore (liveReads : Bool) : Shared authSignature where
  State := RefreshWorld
  init := ⟨fun _ => none, []⟩
  Effect := RefreshEffect liveReads

end Contract

/-- A record changed in place: it keeps its core, stays revoked and gains no link. -/
structure Restamped (record record' : StoredRefreshToken) : Prop where
  core : record'.core = record.core
  revoked : record.revokedAt ≠ none → record'.revokedAt ≠ none
  link : record'.replacedByTokenId = record.replacedByTokenId ∨ record'.replacedByTokenId = none

theorem Restamped.refl (record : StoredRefreshToken) : Restamped record record where
  core := rfl
  revoked := id
  link := .inl rfl

/-- The family an operation revokes as a whole. -/
def revokesFamily : AuthOp → Option Uuid
  | .revokeRefreshTokenFamily sessionFamilyId _ _ => some sessionFamilyId
  | _ => none

/-- `revoked_at` and `replaced_by_token_id` are as before. -/
def SameStamps (record record' : StoredRefreshToken) : Prop :=
  record'.revokedAt = record.revokedAt ∧ record'.replacedByTokenId = record.replacedByTokenId

/-- Everything an operation allowed to a call can do to the records. -/
inductive RecordChange (liveReads : Bool) (svc : AuthService) (call : RefreshCall)
    (h : AuthHistory) (w : RefreshWorld) : AuthEvent → RefreshWorld → Prop where
  | unchanged {e : AuthEvent} {w' : RefreshWorld} (same : w'.records = w.records) :
      RecordChange liveReads svc call h w e w'
  | inserted {record : StoredRefreshToken} {resp : AuthOp.Resp (.insertRefreshToken record)}
      (plan : SessionPlan call h record) (unused : w.HashFree record.tokenHash) :
      RecordChange liveReads svc call h w ⟨.insertRefreshToken record, resp⟩ (w.put record)
  | rotated {currentTokenId : Uuid} {record current : StoredRefreshToken} {now : OffsetDateTime}
      {ipAddress userAgent : Option String} {refreshToken : String}
      {assuranceOverride : Option SessionAssurance} {source : StoredRefreshToken}
      {newest : Option StoredRefreshToken} {user : StoredUser} {grant : CurrentRefreshGrant}
      (presents : call.Presents h refreshToken assuranceOverride)
      (plan : RotationPlan svc refreshToken assuranceOverride h currentTokenId record now source
        newest user grant)
      (stored : w.records currentTokenId = some current) (live : current.revokedAt = none)
      (unused : w.HashFree record.tokenHash) :
      RecordChange liveReads svc call h w
        ⟨.rotateRefreshToken currentTokenId record now ipAddress userAgent,
          (.ok true : AuthResult Bool)⟩
        (w.rotate current record now ipAddress userAgent)
  | restamped {e : AuthEvent} {w' : RefreshWorld}
      (pointwise : w.Pointwise (fun record record' => Restamped record record' ∧
        (liveReads = true → record.revokedAt ≠ none →
          revokesFamily e.op ≠ some record.sessionFamilyId → SameStamps record record')) w')
      (killed : ∀ id record', w'.records id = some record' →
        revokesFamily e.op = some record'.sessionFamilyId → record'.revokedAt ≠ none) :
      RecordChange liveReads svc call h w e w'

section Changes

variable {liveReads : Bool} {w w' : RefreshWorld} {record record' : StoredRefreshToken}

theorem RefreshWorld.Pointwise.mono {change change' : StoredRefreshToken → StoredRefreshToken → Prop}
    (pointwise : w.Pointwise change w')
    (weaker : ∀ record record', change record record' → change' record record') :
    w.Pointwise change' w' := by
  refine ⟨pointwise.1, fun id => ?_⟩
  rcases pointwise.2 id with absent | ⟨record, record', before, after, changed⟩
  · exact .inl absent
  · exact .inr ⟨record, record', before, after, weaker record record' changed⟩

theorem Revocation.restamped {tokenId : Uuid} {revokedAt : OffsetDateTime}
    (changed : Revocation liveReads tokenId revokedAt none record record') :
    Restamped record record' ∧
      (liveReads = true → record.revokedAt ≠ none → SameStamps record record') := by
  unfold Revocation at changed
  dsimp only at changed
  split at changed
  · split at changed
    · rename_i unrevoked
      subst changed
      exact ⟨⟨rfl, nofun, .inr rfl⟩, fun _ revoked => absurd unrevoked revoked⟩
    · rcases changed with rfl | ⟨withoutLiveReads, rfl⟩
      · exact ⟨.refl _, fun _ _ => ⟨rfl, rfl⟩⟩
      · refine ⟨⟨rfl, nofun, .inr rfl⟩, fun withLiveReads => ?_⟩
        cases withoutLiveReads.symm.trans withLiveReads
  · subst changed
    exact ⟨.refl _, fun _ _ => ⟨rfl, rfl⟩⟩

theorem FamilyRevocation.restamped {sessionFamilyId : Uuid} {revokedAt : OffsetDateTime}
    (changed : FamilyRevocation sessionFamilyId revokedAt record record') :
    Restamped record record' ∧
      (some sessionFamilyId ≠ some record.sessionFamilyId → SameStamps record record') := by
  unfold FamilyRevocation at changed
  split at changed
  · rename_i same
    obtain ⟨stamp, link, rfl, -, kept⟩ := changed
    exact ⟨⟨rfl, nofun, kept⟩, fun other => absurd (congrArg some same.symm) other⟩
  · subst changed
    exact ⟨.refl _, fun _ => ⟨rfl, rfl⟩⟩

theorem FamilyRevocation.revoked {sessionFamilyId : Uuid} {revokedAt : OffsetDateTime}
    (changed : FamilyRevocation sessionFamilyId revokedAt record record')
    (same : record'.sessionFamilyId = sessionFamilyId) : record'.revokedAt ≠ none := by
  unfold FamilyRevocation at changed
  split at changed
  · obtain ⟨stamp, link, rfl, -, -⟩ := changed
    nofun
  · rename_i other
    subst changed
    exact absurd same other

theorem Touch.restamped {tokenId : Uuid} {usedAt : OffsetDateTime}
    {ipAddress userAgent : Option String}
    (changed : Touch tokenId usedAt ipAddress userAgent record record') :
    Restamped record record' ∧ SameStamps record record' := by
  unfold Touch at changed
  split at changed
  · subst changed
    exact ⟨⟨rfl, id, .inl rfl⟩, rfl, rfl⟩
  · subst changed
    exact ⟨.refl _, rfl, rfl⟩

theorem OrFailed.cases {applied : Prop} {resp : AuthResult Unit}
    (effect : OrFailed w applied w' resp) : w' = w ∨ applied := by
  cases resp with
  | ok _ => exact .inr effect
  | error _ => exact effect

/-- Whatever a store does for an operation a call may issue is one of the four changes. -/
theorem recordChange_of_effect {svc : AuthService} {call : RefreshCall} {h : AuthHistory}
    {op : AuthOp} {resp : AuthOp.Resp op} (allowed : callGuard svc call h op)
    (effect : RefreshEffect liveReads w op resp w') :
    RecordChange liveReads svc call h w ⟨op, resp⟩ w' := by
  cases op with
  | newUuid =>
      obtain ⟨-, rfl⟩ := effect
      exact .unchanged rfl
  | insertRefreshToken token =>
      rcases effect.cases with rfl | ⟨unused, rfl⟩
      · exact .unchanged rfl
      · exact .inserted allowed unused
  | findRefreshTokenByHash tokenHash =>
      obtain ⟨rfl, -⟩ := effect
      exact .unchanged rfl
  | findLiveRefreshTokensInFamily sessionFamilyId =>
      obtain ⟨rfl, -⟩ := effect
      exact .unchanged rfl
  | revokeRefreshToken tokenId revokedAt replacedByTokenId reason =>
      have unlinked : replacedByTokenId = none := allowed
      subst unlinked
      rcases effect.cases with rfl | pointwise
      · exact .unchanged rfl
      · refine .restamped (pointwise.mono ?_) ?_
        · intro record record' changed
          exact ⟨changed.restamped.1, fun live revoked _ => changed.restamped.2 live revoked⟩
        · intro id record' after other
          cases other
  | revokeRefreshTokenFamily sessionFamilyId revokedAt reason =>
      rcases effect.cases with rfl | pointwise
      · exact .unchanged rfl
      · refine .restamped (pointwise.mono ?_) ?_
        · intro record record' changed
          exact ⟨changed.restamped.1, fun _ _ other => changed.restamped.2 other⟩
        · intro id record' after same
          rcases pointwise.2 id with ⟨-, absent⟩ | ⟨record, _, -, after', changed⟩
          · cases absent.symm.trans after
          · cases after'.symm.trans after
            exact changed.revoked (Option.some.inj same).symm
  | touchRefreshToken tokenId usedAt ipAddress userAgent =>
      rcases effect.cases with rfl | pointwise
      · exact .unchanged rfl
      · refine .restamped (pointwise.mono ?_) ?_
        · intro record record' changed
          exact ⟨changed.restamped.1, fun _ _ _ => changed.restamped.2⟩
        · intro id record' after other
          cases other
  | rotateRefreshToken currentTokenId record now ipAddress userAgent =>
      obtain ⟨refreshToken, assuranceOverride, source, newest, user, grant, presents, plan⟩ :=
        allowed
      rcases resp with e | _ | _
      · exact .unchanged (congrArg _ effect)
      · exact .unchanged (congrArg _ effect.1)
      · obtain ⟨current, stored, live, unused, rfl⟩ := effect
        exact .rotated presents plan stored live unused
  | _ => exact .unchanged (congrArg _ effect)

end Changes

end AgqlAuth
