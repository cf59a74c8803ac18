import AgqlAuth.Service.Rotate

/-!
# What a refresh call has seen and written

A call's history determines what it knows: the token it resolved its raw token
to, the latest clock reading, the latest current grant, every refresh record it
was shown, and what it has written to the refresh store.
-/

namespace AgqlAuth

open Interaction

/-- A completed change of the refresh store. -/
inductive RefreshWrite where
  | inserted (token : StoredRefreshToken)
  | revoked (tokenId : Uuid)
  | familyRevoked (sessionFamilyId : Uuid)
  | touched (tokenId : Uuid)
  | rotated (currentTokenId : Uuid) (replacement : StoredRefreshToken)

/--
The write an answered operation made; an `Err` answer made none.  An insertion
counts whatever it is answered, since its caller never issues it again.
-/
def writeOf : AuthEvent → Option RefreshWrite
  | ⟨.insertRefreshToken token, _⟩ => some (.inserted token)
  | ⟨.revokeRefreshToken tokenId _ _ _, resp⟩ =>
      match (resp : AuthResult Unit) with
      | .ok () => some (.revoked tokenId)
      | .error _ => none
  | ⟨.revokeRefreshTokenFamily sessionFamilyId _ _, resp⟩ =>
      match (resp : AuthResult Unit) with
      | .ok () => some (.familyRevoked sessionFamilyId)
      | .error _ => none
  | ⟨.touchRefreshToken tokenId _ _ _, resp⟩ =>
      match (resp : AuthResult Unit) with
      | .ok () => some (.touched tokenId)
      | .error _ => none
  | ⟨.rotateRefreshToken currentTokenId replacement _ _ _, resp⟩ =>
      match (resp : AuthResult Bool) with
      | .ok true => some (.rotated currentTokenId replacement)
      | .ok false => none
      | .error _ => none
  | _ => none

def writes (h : AuthHistory) : List RefreshWrite := h.filterMap writeOf

theorem writes_silent {e : AuthEvent} {h : AuthHistory} (silent : writeOf e = none) :
    writes (e :: h) = writes h :=
  List.filterMap_cons_none silent

theorem writes_first {e : AuthEvent} {h : AuthHistory} {write : RefreshWrite}
    (written : writeOf e = some write) (unwritten : writes h = []) : writes (e :: h) = [write] := by
  have extended : writes (e :: h) = write :: writes h := List.filterMap_cons_some written
  rw [extended, unwritten]

/-- The answers that make a write. -/
inductive Wrote : AuthEvent → RefreshWrite → Prop where
  | inserted (token : StoredRefreshToken) (resp : AuthResult Unit) :
      Wrote ⟨.insertRefreshToken token, resp⟩ (.inserted token)
  | revoked (tokenId : Uuid) (revokedAt : OffsetDateTime) (replacedByTokenId : Option Uuid)
      (reason : RefreshTokenRevocationReason) :
      Wrote ⟨.revokeRefreshToken tokenId revokedAt replacedByTokenId reason,
        (.ok () : AuthResult Unit)⟩ (.revoked tokenId)
  | familyRevoked (sessionFamilyId : Uuid) (revokedAt : OffsetDateTime)
      (reason : RefreshTokenRevocationReason) :
      Wrote ⟨.revokeRefreshTokenFamily sessionFamilyId revokedAt reason,
        (.ok () : AuthResult Unit)⟩ (.familyRevoked sessionFamilyId)
  | touched (tokenId : Uuid) (usedAt : OffsetDateTime) (ipAddress userAgent : Option String) :
      Wrote ⟨.touchRefreshToken tokenId usedAt ipAddress userAgent, (.ok () : AuthResult Unit)⟩
        (.touched tokenId)
  | rotated (currentTokenId : Uuid) (replacement : StoredRefreshToken) (now : OffsetDateTime)
      (ipAddress userAgent : Option String) :
      Wrote ⟨.rotateRefreshToken currentTokenId replacement now ipAddress userAgent,
        (.ok true : AuthResult Bool)⟩ (.rotated currentTokenId replacement)

theorem wrote_of_writeOf {e : AuthEvent} {write : RefreshWrite} (written : writeOf e = some write) :
    Wrote e write := by
  obtain ⟨op, resp⟩ := e
  cases op with
  | insertRefreshToken token =>
      cases written
      exact .inserted token resp
  | revokeRefreshToken tokenId revokedAt replacedByTokenId reason =>
      rcases resp with _ | ⟨⟩ <;> cases written
      exact .revoked tokenId revokedAt replacedByTokenId reason
  | revokeRefreshTokenFamily sessionFamilyId revokedAt reason =>
      rcases resp with _ | ⟨⟩ <;> cases written
      exact .familyRevoked sessionFamilyId revokedAt reason
  | touchRefreshToken tokenId usedAt ipAddress userAgent =>
      rcases resp with _ | ⟨⟩ <;> cases written
      exact .touched tokenId usedAt ipAddress userAgent
  | rotateRefreshToken currentTokenId replacement now ipAddress userAgent =>
      rcases resp with _ | _ | _ <;> cases written
      exact .rotated currentTokenId replacement now ipAddress userAgent
  | _ => cases written

/-- The operations of `RefreshTokenStore`. -/
def refreshStoreOp : AuthOp → Bool
  | .insertRefreshToken _ | .findRefreshTokenByHash _ | .revokeRefreshToken ..
  | .revokeRefreshTokenFamily .. | .touchRefreshToken .. | .rotateRefreshToken ..
  | .findLiveRefreshTokensInFamily _ => true
  | _ => false

/-- The error an answered operation reported, if it reported one. -/
def errorOf : AuthEvent → Option AuthError
  | ⟨.verifyPassword .., (.error e : AuthResult Unit)⟩ => some e
  | ⟨.findUserByPrincipal _, (.error e : AuthResult (Option StoredUser))⟩ => some e
  | ⟨.findUserById _, (.error e : AuthResult (Option StoredUser))⟩ => some e
  | ⟨.currentGrant .., (.error e : AuthResult CurrentRefreshGrant)⟩ => some e
  | ⟨.additionalTokenRoles _, (.error e : AuthResult (List String))⟩ => some e
  | ⟨.insertRefreshToken _, (.error e : AuthResult Unit)⟩ => some e
  | ⟨.findRefreshTokenByHash _, (.error e : AuthResult (Option StoredRefreshToken))⟩ => some e
  | ⟨.revokeRefreshToken .., (.error e : AuthResult Unit)⟩ => some e
  | ⟨.revokeRefreshTokenFamily .., (.error e : AuthResult Unit)⟩ => some e
  | ⟨.touchRefreshToken .., (.error e : AuthResult Unit)⟩ => some e
  | ⟨.rotateRefreshToken .., (.error e : AuthResult Bool)⟩ => some e
  | ⟨.findLiveRefreshTokensInFamily _,
      (.error e : AuthResult (Option (List StoredRefreshToken)))⟩ => some e
  | ⟨.findAuthRateLimitState _, (.error e : AuthResult (Option AuthRateLimitSnapshot))⟩ => some e
  | ⟨.compareExchangeAuthRateLimitState .., (.error e : AuthResult Bool)⟩ => some e
  | ⟨.clearAuthRateLimitState .., (.error e : AuthResult Bool)⟩ => some e
  | _ => none

/-- The refresh records an answered operation showed its caller. -/
def recordsOf : AuthEvent → List StoredRefreshToken
  | ⟨.findRefreshTokenByHash _, (.ok (some token) : AuthResult (Option StoredRefreshToken))⟩ =>
      [token]
  | ⟨.findLiveRefreshTokensInFamily _,
      (.ok (some tokens) : AuthResult (Option (List StoredRefreshToken)))⟩ => tokens
  | _ => []

/-- A call was shown `token` at some point of its history. -/
def Observed (h : AuthHistory) (token : StoredRefreshToken) : Prop :=
  ∃ e ∈ h, token ∈ recordsOf e

section Answers

/-- A raw token with this hash was resolved to `token`. -/
def foundByHash (tokenHash : String) (token : StoredRefreshToken) : AuthEvent :=
  ⟨.findRefreshTokenByHash tokenHash, (.ok (some token) : AuthResult (Option StoredRefreshToken))⟩

/-- The user store answered `user` when asked for `userId`. -/
def readUser (userId : String) (user : StoredUser) : AuthEvent :=
  ⟨.findUserById userId, (.ok (some user) : AuthResult (Option StoredUser))⟩

/-- The live tokens of a family were read as `tokens`. -/
def readLive (sessionFamilyId : Uuid) (tokens : List StoredRefreshToken) : AuthEvent :=
  ⟨.findLiveRefreshTokensInFamily sessionFamilyId,
    (.ok (some tokens) : AuthResult (Option (List StoredRefreshToken)))⟩

end Answers

structure RotationView where
  /-- The latest reading of the rotation clock. -/
  clock : Option OffsetDateTime := none
  /-- The record the presented raw token was last resolved to. -/
  presented : Option StoredRefreshToken := none
  /-- The latest current grant. -/
  grant : Option CurrentRefreshGrant := none

def RotationView.observe (self : RotationView) : AuthEvent → RotationView
  | ⟨.now .refreshRotation, (reading : OffsetDateTime)⟩ => { self with clock := some reading }
  | ⟨.findRefreshTokenByHash _, (.ok found : AuthResult (Option StoredRefreshToken))⟩ =>
      { self with presented := found }
  | ⟨.findUserById _, (.ok (some user) : AuthResult (Option StoredUser))⟩ =>
      { self with grant := some { roles := user.roles, scopes := user.scopes } }
  | ⟨.currentGrant .., (.ok grant : AuthResult CurrentRefreshGrant)⟩ =>
      { self with grant := some grant }
  | _ => self

def view : AuthHistory → RotationView
  | [] => {}
  | e :: h => (view h).observe e

/-- Every operation of the stretch is an allowed one. -/
def Only (allowed : AuthOp → Bool) (late : AuthHistory) : Prop := ∀ e ∈ late, allowed e.op = true

/-- The operations token issuance performs. -/
def issuanceOp : AuthOp → Bool
  | .newUuid | .generateOpaqueToken | .additionalTokenRoles _ => true
  | _ => false

/-- The operations that prepare a rotation: reading the user and its grant, and issuance. -/
def preparationOp : AuthOp → Bool
  | .findUserById _ | .currentGrant .. => true
  | op => issuanceOp op

/-- The preparation after the user was read. -/
def grantingOp : AuthOp → Bool
  | .currentGrant .. => true
  | op => issuanceOp op

/-- The operations that leave the refresh records alone. -/
def bystanderOp : AuthOp → Bool
  | .insertRefreshToken _ | .revokeRefreshToken .. | .revokeRefreshTokenFamily ..
  | .touchRefreshToken .. | .rotateRefreshToken .. => false
  | _ => true

theorem bystanderOp_of_preparationOp {op : AuthOp} (preparation : preparationOp op = true) :
    bystanderOp op = true := by
  cases op <;> first | rfl | cases preparation

theorem preparationOp_of_issuanceOp {op : AuthOp} (issuance : issuanceOp op = true) :
    preparationOp op = true := by
  cases op <;> first | rfl | exact issuance

theorem preparationOp_of_grantingOp {op : AuthOp} (granting : grantingOp op = true) :
    preparationOp op = true := by
  cases op <;> first | rfl | exact granting

theorem grantingOp_of_issuanceOp {op : AuthOp} (issuance : issuanceOp op = true) :
    grantingOp op = true := by
  cases op <;> first | rfl | exact issuance

namespace Only

variable {allowed allowed' : AuthOp → Bool} {e : AuthEvent} {late early h : AuthHistory}

theorem nil : Only allowed [] := by
  intro e mem
  cases mem

theorem cons (first : allowed e.op = true) (rest : Only allowed late) :
    Only allowed (e :: late) := by
  intro e' mem
  rcases List.mem_cons.mp mem with rfl | mem
  · exact first
  · exact rest e' mem

theorem append (late_only : Only allowed late) (early_only : Only allowed early) :
    Only allowed (late ++ early) := by
  intro e mem
  rcases List.mem_append.mp mem with mem | mem
  · exact late_only e mem
  · exact early_only e mem

theorem mono (weaker : ∀ {op}, allowed op = true → allowed' op = true)
    (only : Only allowed late) : Only allowed' late :=
  fun e mem => weaker (only e mem)

theorem tail (only : Only allowed (e :: late)) : Only allowed late :=
  fun e' mem => only e' (List.mem_cons_of_mem e mem)

theorem head (only : Only allowed (e :: late)) : allowed e.op = true :=
  only e List.mem_cons_self

end Only

section Preparation

variable {e : AuthEvent} {late h : AuthHistory}

theorem writeOf_bystander (bystander : bystanderOp e.op = true) : writeOf e = none := by
  obtain ⟨op, resp⟩ := e
  cases op <;> first | rfl | cases bystander

theorem clock_preparation (v : RotationView) (preparation : preparationOp e.op = true) :
    (v.observe e).clock = v.clock := by
  obtain ⟨op, resp⟩ := e
  cases op with
  | findUserById userId =>
      rcases resp with e | found
      · rfl
      · cases found <;> rfl
  | currentGrant previous user => cases resp <;> rfl
  | _ => first | rfl | cases preparation

theorem presented_preparation (v : RotationView) (preparation : preparationOp e.op = true) :
    (v.observe e).presented = v.presented := by
  obtain ⟨op, resp⟩ := e
  cases op with
  | findUserById userId =>
      rcases resp with e | found
      · rfl
      · cases found <;> rfl
  | currentGrant previous user => cases resp <;> rfl
  | _ => first | rfl | cases preparation

theorem observe_issuance (v : RotationView) (issuance : issuanceOp e.op = true) :
    v.observe e = v := by
  obtain ⟨op, resp⟩ := e
  cases op <;> first | rfl | cases issuance

theorem Only.writes_append (bystander : Only bystanderOp late) :
    writes (late ++ h) = writes h := by
  induction late with
  | nil => rfl
  | cons e late ih =>
      rw [List.cons_append, writes_silent (writeOf_bystander bystander.head)]
      exact ih bystander.tail

theorem Only.clock_append (preparation : Only preparationOp late) :
    (view (late ++ h)).clock = (view h).clock := by
  induction late with
  | nil => rfl
  | cons e late ih =>
      rw [List.cons_append, view, clock_preparation _ preparation.head]
      exact ih preparation.tail

theorem Only.presented_append (preparation : Only preparationOp late) :
    (view (late ++ h)).presented = (view h).presented := by
  induction late with
  | nil => rfl
  | cons e late ih =>
      rw [List.cons_append, view, presented_preparation _ preparation.head]
      exact ih preparation.tail

theorem Only.view_append (issuance : Only issuanceOp late) : view (late ++ h) = view h := by
  induction late with
  | nil => rfl
  | cons e late ih =>
      rw [List.cons_append, view, observe_issuance _ issuance.head]
      exact ih issuance.tail

end Preparation

/-- The answer showed no disabled user to a lookup by identifier. -/
def showsEnabled : AuthEvent → Bool
  | ⟨.findUserById _, (.ok (some user) : AuthResult (Option StoredUser))⟩ => !user.disabled
  | _ => true

def EnabledReads (h : AuthHistory) : Prop := ∀ e ∈ h, showsEnabled e = true

namespace EnabledReads

variable {e : AuthEvent} {late early : AuthHistory}

theorem nil : EnabledReads [] := by
  intro e mem
  cases mem

theorem cons (shown : showsEnabled e = true) (rest : EnabledReads early) :
    EnabledReads (e :: early) := by
  intro e' mem
  rcases List.mem_cons.mp mem with rfl | mem
  · exact shown
  · exact rest e' mem

theorem append (later : EnabledReads late) (earlier : EnabledReads early) :
    EnabledReads (late ++ early) := by
  intro e mem
  rcases List.mem_append.mp mem with mem | mem
  · exact later e mem
  · exact earlier e mem

theorem of_granting (granting : Only grantingOp late) : EnabledReads late := by
  rintro ⟨op, resp⟩ mem
  have allowed := granting _ mem
  cases op <;> first | rfl | cases allowed

end EnabledReads

theorem observed_of_foundByHash {h : AuthHistory} {tokenHash : String}
    {token : StoredRefreshToken} (mem : foundByHash tokenHash token ∈ h) : Observed h token :=
  ⟨_, mem, List.mem_singleton_self token⟩

theorem observed_of_readLive {h : AuthHistory} {sessionFamilyId : Uuid}
    {tokens : List StoredRefreshToken} {token : StoredRefreshToken}
    (mem : readLive sessionFamilyId tokens ∈ h) (listed : token ∈ tokens) : Observed h token :=
  ⟨_, mem, listed⟩

end AgqlAuth
