import AgqlAuth.RateLimit.LoginExits
import AgqlAuth.RateLimit.MemoryStore

/-!
# What a login leaves on its counters

A refused login counts a failure, unless it is refused after its success was
already accounted: by the second read of the user, or by the roles provider.
-/

namespace AgqlAuth

open Interaction Program

/-- The logins of a pool, each on its own service instance. -/
abbrev LoginPool (ι : Type) := ι → AuthService × PasswordLogin

def LoginPool.program {ι : Type} (logins : LoginPool ι) (i : ι) :
    Program authSignature (AuthResult AuthPayload) :=
  (logins i).2.program (logins i).1

/-- The operations of stores. -/
def storeOp : AuthOp → Bool
  | .now _ | .newUuid | .generateOpaqueToken | .verifyPassword .. | .currentGrant ..
  | .additionalTokenRoles _ | .refreshReuseGranted _ => false
  | _ => true

def StoresAnswered (h : AuthHistory) : Prop :=
  ∀ event ∈ h, storeOp event.op = true → errorOf event = none

/-- The errors of the job `verify_password_async` hands to the executor, and of the executor. -/
def AuthError.isPasswordWork : AuthError → Bool
  | .invalidCredentials | .passwordHashing _ | .authServiceUnavailable => true
  | _ => false

def PasswordWorkDone (h : AuthHistory) : Prop :=
  ∀ password passwordHash e,
    (⟨.verifyPassword password passwordHash, (.error e : AuthResult Unit)⟩ : AuthEvent) ∈ h →
      e.isPasswordWork = true

/-- The operations that change a counter. -/
def counterOp : AuthOp → Bool
  | .compareExchangeAuthRateLimitState .. | .clearAuthRateLimitState .. => true
  | _ => false

/-- The latest answer of the user store. -/
def lastUserRead : AuthHistory → Option (AuthResult (Option StoredUser))
  | [] => none
  | ⟨.findUserByPrincipal _, answer⟩ :: _ => some answer
  | ⟨.findUserById _, answer⟩ :: _ => some answer
  | _ :: h => lastUserRead h

/-- `user` was found and its password hash verified, and `current` was read last. -/
structure IssuedFor (login : PasswordLogin) (h : AuthHistory) (user current : StoredUser)
    (payload : AuthPayload) : Prop where
  found : principalRead login (.ok (some user)) ∈ h
  checked : passwordChecked login user.passwordHash (.ok ()) ∈ h
  last : lastUserRead h = some (.ok (some current))
  verified : StillVerified user current
  session : SessionOf current payload

/-- What a login that returned `result` did to its counters, and for whom it was issued. -/
structure LoginAccounted (svc : AuthService) (login : PasswordLogin) (h : AuthHistory)
    (result : AuthResult AuthPayload) : Prop where
  refused : result = .error .invalidCredentials ∨ result = .error .userDisabled →
    committedKeys h = login.keys svc ∧ Only (fun op => !clearingOp op) h
  unavailable : result = .error .authServiceUnavailable →
    (∃ passwordHash, passwordChecked login passwordHash (.error .authServiceUnavailable) ∈ h) →
      Only (fun op => !counterOp op) h
  restricted : ∀ seconds, result = .error (.authLocked seconds) ∨
    result = .error (.authThrottled seconds) → Only readingOp h
  issued : ∀ payload, result = .ok payload → ∃ user current, IssuedFor login h user current payload

/-- The second read shows the verified user gone, disabled or with another password hash. -/
def Changed (user : StoredUser) (answer : Option StoredUser) : Prop :=
  answer = none ∨ ∃ current, answer = some current ∧ current.id = user.id ∧
    (current.disabled = true ∨ current.passwordHash ≠ user.passwordHash)

/-- The errors that `login` itself returns for the account or its controls. -/
def AuthError.isLoginVerdict : AuthError → Bool
  | .invalidCredentials | .userDisabled | .authLocked _ | .authThrottled _ => true
  | _ => false

/-- Something refuses the login after its success was accounted. -/
inductive RefusedLate (h : AuthHistory) : Prop where
  | user {principal : String} {user : StoredUser} {answer : Option StoredUser}
      (found : (⟨.findUserByPrincipal principal, .ok (some user)⟩ : AuthEvent) ∈ h)
      (reread : (⟨.findUserById user.id, .ok answer⟩ : AuthEvent) ∈ h)
      (changed : Changed user answer)
  | provider {user : AuthUser} {e : AuthError}
      (answered : (⟨.additionalTokenRoles user, .error e⟩ : AuthEvent) ∈ h)
      (verdict : e.isLoginVerdict = true)

section Histories

variable {allowed : AuthOp → Bool} {h late : AuthHistory} {e : AuthError}

theorem Only.absent {op : AuthOp} {resp : AuthOp.Resp op} (only : Only allowed h)
    (outside : allowed op = false) : (⟨op, resp⟩ : AuthEvent) ∉ h := by
  intro mem
  cases (only _ mem).symm.trans outside

theorem committedKeys_append (late h : AuthHistory) :
    committedKeys (late ++ h) = committedKeys h ++ committedKeys late := by
  simp [committedKeys]

theorem committedKeys_of_only (uncommitted : ∀ event, allowed event.op = true →
    committedKey event = none) (only : Only allowed h) : committedKeys h = [] := by
  rw [committedKeys, List.reverse_eq_nil_iff, List.filterMap_eq_nil_iff]
  exact fun event mem => uncommitted event (only event mem)

theorem lastUserRead_opening (only : Only openingOp late) :
    lastUserRead (late ++ h) = lastUserRead h := by
  induction late with
  | nil => rfl
  | cons event late ih =>
      have first := only.head
      obtain ⟨op, resp⟩ := event
      rw [List.cons_append]
      cases op <;> first | exact ih only.tail | cases first

/-- Stores that answered leave only internal errors to a phase that asks nothing else. -/
theorem Reported.internal (reported : Reported h e) (noErrors : NoErrors h) :
    e.isInternal = true := by
  rcases reported with ⟨event, mem, reported⟩ | internal
  · cases (noErrors event mem).symm.trans reported
  · exact internal

/-- A phase on stores that answered reports no error, if it asks nothing else that can. -/
theorem StoresAnswered.noErrors (answered : StoresAnswered h)
    (others : ∀ event, allowed event.op = true → storeOp event.op = false → errorOf event = none)
    (only : Only allowed late) (part : late ⊆ h) : NoErrors late := by
  intro event mem
  cases store : storeOp event.op with
  | true => exact answered event (part mem) store
  | false => exact others event (only event mem) store

theorem errorOf_recording {event : AuthEvent} (recording : recordingOp event.op = true)
    (other : storeOp event.op = false) : errorOf event = none := by
  obtain ⟨op, resp⟩ := event
  cases op <;> first | rfl | (cases recording; done) | cases other

theorem errorOf_clearing {event : AuthEvent} (clearing : clearingOp event.op = true)
    (other : storeOp event.op = false) : errorOf event = none := by
  obtain ⟨op, resp⟩ := event
  cases op <;> first | (cases clearing; done) | cases other

theorem recordingOp_of_admissionOp {op : AuthOp} (admission : admissionOp op = true) :
    recordingOp op = true := by
  cases op <;> first | rfl | exact admission

theorem readingOp_of_admissionOp {op : AuthOp} (admission : admissionOp op = true) :
    readingOp op = true := by
  cases op <;> first | rfl | cases admission

theorem uncounted_of_readingOp {op : AuthOp} (reading : readingOp op = true) :
    (!counterOp op) = true := by
  cases op <;> first | rfl | cases reading

theorem uncleared_of_recordingOp {op : AuthOp} (recording : recordingOp op = true) :
    (!clearingOp op) = true := by
  cases op <;> first | rfl | cases recording

theorem uncleared_of_readingOp {op : AuthOp} (reading : readingOp op = true) :
    (!clearingOp op) = true := by
  cases op <;> first | rfl | cases reading

theorem committedKey_reading {event : AuthEvent} (reading : readingOp event.op = true) :
    committedKey event = none := by
  obtain ⟨op, resp⟩ := event
  cases op <;> first | rfl | cases reading

theorem committedKey_clearing {event : AuthEvent} (clearing : clearingOp event.op = true) :
    committedKey event = none := by
  obtain ⟨op, resp⟩ := event
  cases op <;> first | rfl | cases clearing

theorem AuthError.isLoginVerdict_of_internal (internal : e.isInternal = true) :
    e.isLoginVerdict = false := by
  cases e <;> first | rfl | cases internal

theorem AuthError.isLoginVerdict_of_passwordWork (work : e.isPasswordWork = true)
    (other : e ≠ .invalidCredentials) : e.isLoginVerdict = false := by
  cases e <;> first | rfl | exact absurd rfl other | cases work

end Histories

section Exits

variable {svc : AuthService} {login : PasswordLogin} {h late : AuthHistory}
variable {permit : RateLimitPermit} {found : Option StoredUser} {passwordHash : String}

theorem AdmittedRead.reading (read : AdmittedRead svc login h permit found) : Only readingOp h := by
  obtain ⟨admission, rfl, check⟩ := read
  exact .cons rfl (check.only.mono readingOp_of_admissionOp)

theorem AdmittedRead.checked_reading {answer : AuthResult Unit}
    (read : AdmittedRead svc login h permit found) :
    Only readingOp (passwordChecked login passwordHash answer :: h) :=
  .cons rfl read.reading

/-- Outside admission the login has asked the user store once and the executor once. -/
theorem AdmittedRead.event_cases {answer : AuthResult Unit} {op : AuthOp}
    {resp : AuthOp.Resp op} (read : AdmittedRead svc login h permit found)
    (unadmitted : admissionOp op = false)
    (mem : (⟨op, resp⟩ : AuthEvent) ∈ passwordChecked login passwordHash answer :: h) :
    (⟨op, resp⟩ : AuthEvent) = passwordChecked login passwordHash answer ∨
      (⟨op, resp⟩ : AuthEvent) = principalRead login (.ok found) := by
  obtain ⟨admission, rfl, check⟩ := read
  rcases List.mem_cons.mp mem with checked | mem
  · exact .inl checked
  · rcases List.mem_cons.mp mem with read | mem
    · exact .inr read
    · exact absurd mem (check.only.absent unadmitted)

theorem AdmittedRead.answer_eq {answer answer' : AuthResult Unit} {password passwordHash' : String}
    (read : AdmittedRead svc login h permit found)
    (mem : (⟨.verifyPassword password passwordHash', answer'⟩ : AuthEvent) ∈
      passwordChecked login passwordHash answer :: h) : answer' = answer := by
  rcases read.event_cases rfl mem with same | same
  · cases same
    rfl
  · cases same

variable {e : AuthError}

/-- An error that is no verdict is accounted, unless the executor was saturated. -/
theorem LoginAccounted.of_other (other : e.isLoginVerdict = false)
    (unavailable : e = .authServiceUnavailable →
      (∃ passwordHash, passwordChecked login passwordHash (.error .authServiceUnavailable) ∈ h) →
        Only (fun op => !counterOp op) h) :
    LoginAccounted svc login h (.error e) where
  refused := by rintro (⟨⟨⟩⟩ | ⟨⟨⟩⟩) <;> cases other
  unavailable := by
    rintro ⟨⟩
    exact unavailable rfl
  restricted := by rintro seconds (⟨⟨⟩⟩ | ⟨⟨⟩⟩) <;> cases other
  issued := by rintro payload ⟨⟩

theorem rejected_accounted (answered : StoresAnswered h)
    (check : AdmissionCheck svc.config.rateLimits.credential (login.ownKeys svc) h (.error e)) :
    LoginAccounted svc login h (.error e) := by
  have reading : Only readingOp h := check.only.mono readingOp_of_admissionOp
  rcases check.failed e rfl with reported | ⟨seconds, limited⟩
  · have internal := reported.internal (answered.noErrors (fun _ => errorOf_recording)
      (check.only.mono recordingOp_of_admissionOp) (List.Subset.refl h))
    refine .of_other (AuthError.isLoginVerdict_of_internal internal) ?_
    rintro rfl
    cases internal
  · exact {
      refused := by
        rintro (⟨⟨⟩⟩ | ⟨⟨⟩⟩) <;> rcases limited with ⟨⟨⟩⟩ | ⟨⟨⟩⟩
      unavailable := by
        rintro ⟨⟩
        rcases limited with ⟨⟨⟩⟩ | ⟨⟨⟩⟩
      restricted := fun _ _ => reading
      issued := by rintro payload ⟨⟩ }

theorem counted_accounted {answer recorded : AuthResult Unit}
    (answered : StoresAnswered (late ++ passwordChecked login passwordHash answer :: h))
    (done : PasswordWorkDone (late ++ passwordChecked login passwordHash answer :: h))
    (read : AdmittedRead svc login h permit found)
    (available : answer ≠ .error .authServiceUnavailable)
    (recording : FailureRecording svc.config.rateLimits.credential (login.ownKeys svc) late
      recorded)
    (outcome : recorded = .error e ∨ recorded = .ok () ∧
      (e = .invalidCredentials ∨ e = .userDisabled ∨ answer = .error e)) :
    LoginAccounted svc login (late ++ passwordChecked login passwordHash answer :: h)
      (.error e) := by
  have saturated : ¬ ∃ passwordHash', passwordChecked login passwordHash'
      (.error .authServiceUnavailable) ∈ late ++ passwordChecked login passwordHash answer :: h := by
    rintro ⟨passwordHash', mem⟩
    rcases List.mem_append.mp mem with late_mem | early_mem
    · exact recording.only.absent rfl late_mem
    · exact available (read.answer_eq early_mem).symm
  have other (other : e.isLoginVerdict = false) :
      LoginAccounted svc login (late ++ passwordChecked login passwordHash answer :: h)
        (.error e) :=
    .of_other other fun _ unavailable => absurd unavailable saturated
  have counted (recorded_ok : recorded = .ok ()) :
      committedKeys (late ++ passwordChecked login passwordHash answer :: h) = login.keys svc ∧
        Only (fun op => !clearingOp op)
          (late ++ passwordChecked login passwordHash answer :: h) := by
    constructor
    · rw [committedKeys_append, recording.counted recorded_ok,
        committedKeys_of_only (fun _ => committedKey_reading) read.checked_reading, List.nil_append]
      rfl
    · exact (recording.only.mono uncleared_of_recordingOp).append
        (read.checked_reading.mono uncleared_of_readingOp)
  have verdict (recorded_ok : recorded = .ok ())
      (verdict : e = .invalidCredentials ∨ e = .userDisabled) :
      LoginAccounted svc login (late ++ passwordChecked login passwordHash answer :: h)
        (.error e) := {
    refused := fun _ => counted recorded_ok
    unavailable := fun _ unavailable => absurd unavailable saturated
    restricted := by
      rintro seconds (⟨⟨⟩⟩ | ⟨⟨⟩⟩) <;> rcases verdict with ⟨⟨⟩⟩ | ⟨⟨⟩⟩
    issued := by rintro payload ⟨⟩ }
  rcases outcome with rfl | ⟨recorded_ok, rfl | rfl | rfl⟩
  · have noErrors := answered.noErrors (fun _ => errorOf_recording) recording.only
      (List.subset_append_left _ _)
    exact other (AuthError.isLoginVerdict_of_internal
      ((recording.failed e rfl).internal noErrors))
  · exact verdict recorded_ok (.inl rfl)
  · exact verdict recorded_ok (.inr rfl)
  · have work : e.isPasswordWork = true :=
      done _ _ e (List.mem_append_right late List.mem_cons_self)
    by_cases wrong : e = .invalidCredentials
    · exact verdict recorded_ok (.inl wrong)
    · exact other (AuthError.isLoginVerdict_of_passwordWork work wrong)

/-- What a login did before its session was opened. -/
structure Cleared (svc : AuthService) (login : PasswordLogin) (user : StoredUser)
    (h : AuthHistory) : Prop where
  found : principalRead login (.ok (some user)) ∈ h
  checked : passwordChecked login user.passwordHash (.ok ()) ∈ h
  answers : ∀ password passwordHash answer,
    (⟨.verifyPassword password passwordHash, answer⟩ : AuthEvent) ∈ h → answer = .ok ()
  first : ∀ principal found, (⟨.findUserByPrincipal principal, .ok found⟩ : AuthEvent) ∈ h →
    found = some user
  unread : ∀ userId answer, (⟨.findUserById userId, answer⟩ : AuthEvent) ∉ h
  unissued : ∀ authUser answer, (⟨.additionalTokenRoles authUser, answer⟩ : AuthEvent) ∉ h
  uncommitted : committedKeys h = []
  idle : login.keys svc = [] → Only readingOp h
  asked : login.keys svc ≠ [] → ¬ Only readingOp h

theorem cleared_of_clearing {user : StoredUser} {result : AuthResult Unit}
    (read : AdmittedRead svc login h permit (some user))
    (clearing : CounterClearing svc.config.rateLimits.credential permit late result) :
    Cleared svc login user (late ++ passwordChecked login user.passwordHash (.ok ()) :: h) := by
  have before {op : AuthOp} {resp : AuthOp.Resp op} (outside : clearingOp op = false)
      (unadmitted : admissionOp op = false)
      (mem : (⟨op, resp⟩ : AuthEvent) ∈
        late ++ passwordChecked login user.passwordHash (.ok ()) :: h) :
      (⟨op, resp⟩ : AuthEvent) = passwordChecked login user.passwordHash (.ok ()) ∨
        (⟨op, resp⟩ : AuthEvent) = principalRead login (.ok (some user)) := by
    rcases List.mem_append.mp mem with late_mem | early_mem
    · exact absurd late_mem (clearing.only.absent outside)
    · exact read.event_cases unadmitted early_mem
  have found : principalRead login (.ok (some user)) ∈ h := by
    obtain ⟨admission, rfl, -⟩ := read
    exact List.mem_cons_self
  have permitted : permit.map (·.key) = login.keys svc := by
    obtain ⟨admission, -, check⟩ := read
    exact check.observed permit rfl
  have reading : Only readingOp (passwordChecked login user.passwordHash (.ok ()) :: h) :=
    read.checked_reading
  exact {
    found := List.mem_append_right late (List.mem_cons_of_mem _ found)
    checked := List.mem_append_right late List.mem_cons_self
    answers := by
      intro password passwordHash answer mem
      rcases before rfl rfl mem with same | same
      · cases same
        rfl
      · cases same
    first := by
      intro principal found mem
      rcases before rfl rfl mem with same | same
      · cases same
      · cases same
        rfl
    unread := by
      intro userId answer mem
      rcases before rfl rfl mem with same | same <;> cases same
    unissued := by
      intro authUser answer mem
      rcases before rfl rfl mem with same | same <;> cases same
    uncommitted := by
      rw [committedKeys_append, committedKeys_of_only (fun _ => committedKey_clearing) clearing.only,
        committedKeys_of_only (fun _ => committedKey_reading) reading, List.nil_append]
    idle := by
      intro unkeyed
      have empty : permit = [] := List.map_eq_nil_iff.mp (permitted.trans unkeyed)
      rw [clearing.idle empty, List.nil_append]
      exact reading
    asked := by
      intro keyed only
      have nonempty : permit ≠ [] := by
        rintro rfl
        exact keyed permitted.symm
      have enabled : svc.config.rateLimits.credential.enabled = true := by
        by_contra disabled
        exact keyed (if_neg disabled)
      obtain ⟨event, rest, rfl⟩ := List.exists_cons_of_ne_nil (clearing.asked nonempty enabled)
      have reads := uncleared_of_readingOp (only event (List.mem_append_left _ List.mem_cons_self))
      rw [clearing.only event List.mem_cons_self] at reads
      cases reads }

variable {user : StoredUser} {result : AuthResult AuthPayload} {final : AuthHistory}

/-- The second read of the user and what follows it. -/
def sessionOp : AuthOp → Bool
  | .findUserById _ => true
  | op => openingOp op

theorem sessionOp_of_openingOp {op : AuthOp} (opening : openingOp op = true) :
    sessionOp op = true := by
  cases op <;> first | rfl | exact opening

theorem uncleared_of_sessionOp {op : AuthOp} (session : sessionOp op = true) :
    (!clearingOp op) = true := by
  cases op <;> first | rfl | cases session

theorem committedKey_session {event : AuthEvent} (session : sessionOp event.op = true) :
    committedKey event = none := by
  obtain ⟨op, resp⟩ := event
  cases op <;> first | rfl | cases session

theorem SessionOpening.only (opening : SessionOpening user final result) : Only sessionOp final := by
  cases opening with
  | unread => exact .cons rfl .nil
  | turnedAway _ => exact .cons rfl .nil
  | issued _ issuing =>
      exact (issuing.only.mono sessionOp_of_openingOp).append
        (.cons rfl (.cons rfl (.cons rfl .nil)))

/-- Nothing is written before the session is stored. -/
theorem SessionOpening.reading (opening : SessionOpening user final (.error e))
    (answered : StoresAnswered (final ++ h)) : Only readingOp final := by
  cases opening with
  | unread => exact .cons rfl .nil
  | turnedAway _ => exact .cons rfl .nil
  | issued _ issuing =>
      rcases issuing.unwritten e rfl with reading | ⟨record, mem⟩
      · exact reading.append (.cons rfl (.cons rfl (.cons rfl .nil)))
      · cases answered _ (List.mem_append_left h (List.mem_append_left _ mem)) rfl

/-- A verdict after the counters were cleared has one of two sources. -/
theorem SessionOpening.refusedLate (opening : SessionOpening user final (.error e))
    (answered : StoresAnswered (final ++ h)) (cleared : Cleared svc login user h)
    (verdict : e.isLoginVerdict = true) : RefusedLate (final ++ h) := by
  have found := List.mem_append_right final cleared.found
  cases opening with
  | unread => cases answered (userReread user (.error e)) List.mem_cons_self rfl
  | turnedAway away =>
      refine .user found List.mem_cons_self ?_
      cases away with
      | missing => exact .inl rfl
      | other _ => cases verdict
      | disabled same disabled => exact .inr ⟨_, rfl, same, .inl disabled⟩
      | rehashed same changed => exact .inr ⟨_, rfl, same, .inr changed⟩
  | issued _ issuing =>
      rcases issuing.failed e rfl with ⟨⟨op, resp⟩, mem, reported⟩ | internal
      · have session := issuing.only _ mem
        cases op with
        | additionalTokenRoles authUser =>
            cases resp with
            | ok roles => cases reported
            | error e' =>
                cases reported
                exact .provider (List.mem_append_left h (List.mem_append_left _ mem)) verdict
        | insertRefreshToken record =>
            have stored := answered _ (List.mem_append_left h (List.mem_append_left _ mem)) rfl
            cases stored.symm.trans reported
        | _ => first | (cases session; done) | cases reported
      · cases (AuthError.isLoginVerdict_of_internal internal).symm.trans verdict

theorem SessionOpening.issuedFor {payload : AuthPayload}
    (opening : SessionOpening user final (.ok payload)) (cleared : Cleared svc login user h) :
    ∃ current, IssuedFor login (final ++ h) user current payload := by
  cases opening with
  | @issued current sessionFamilyId sessionId late _ verified issuing =>
      refine ⟨current, List.mem_append_right _ cleared.found, List.mem_append_right _ cleared.checked,
        ?_, verified, issuing.session payload rfl⟩
      rw [List.append_assoc, lastUserRead_opening issuing.only]
      rfl

theorem reopened_accounted (answered : StoresAnswered (final ++ h)) (cleared : Cleared svc login user h)
    (opening : SessionOpening user final result)
    (timely : login.keys svc = [] ∨ ¬ RefusedLate (final ++ h)) :
    LoginAccounted svc login (final ++ h) result := by
  have saturated : ¬ ∃ passwordHash,
      passwordChecked login passwordHash (.error .authServiceUnavailable) ∈ final ++ h := by
    rintro ⟨passwordHash, mem⟩
    rcases List.mem_append.mp mem with final_mem | early_mem
    · exact opening.only.absent rfl final_mem
    · cases cleared.answers _ _ _ early_mem
  cases result with
  | ok payload =>
      obtain ⟨current, issued⟩ := opening.issuedFor cleared
      exact {
        refused := by rintro (⟨⟨⟩⟩ | ⟨⟨⟩⟩)
        unavailable := by rintro ⟨⟩
        restricted := by rintro seconds (⟨⟨⟩⟩ | ⟨⟨⟩⟩)
        issued := by
          rintro _ ⟨⟩
          exact ⟨user, current, issued⟩ }
  | error e =>
      cases verdict : e.isLoginVerdict with
      | false => exact .of_other verdict fun _ unavailable => absurd unavailable saturated
      | true =>
          have unkeyed : login.keys svc = [] :=
            timely.resolve_right (not_not.mpr (opening.refusedLate answered cleared verdict))
          exact {
            refused := by
              intro _
              rw [committedKeys_append, cleared.uncommitted, unkeyed,
                committedKeys_of_only (fun _ => committedKey_session) opening.only]
              exact ⟨rfl, (opening.only.mono uncleared_of_sessionOp).append
                ((cleared.idle unkeyed).mono uncleared_of_readingOp)⟩
            unavailable := fun _ unavailable => absurd unavailable saturated
            restricted := fun _ _ => (opening.reading answered).append (cleared.idle unkeyed)
            issued := by rintro payload ⟨⟩ }

theorem not_refusedLate (accounted : LoginAccounted svc login (final ++ h) result)
    (cleared : Cleared svc login user h) (opening : SessionOpening user final result)
    (keyed : login.keys svc ≠ []) : ¬ RefusedLate (final ++ h) := by
  have unrefused (verdict : AuthError) (failed : result = .error verdict) :
      verdict.isLoginVerdict = false := by
    have uncommitted : committedKeys (final ++ h) = [] := by
      rw [committedKeys_append, cleared.uncommitted,
        committedKeys_of_only (fun _ => committedKey_session) opening.only, List.nil_append]
    have refused (refusal : result = .error .invalidCredentials ∨ result = .error .userDisabled) :
        False :=
      keyed ((accounted.refused refusal).1.symm.trans uncommitted)
    have restricted (seconds : Int) (limited : result = .error (.authLocked seconds) ∨
        result = .error (.authThrottled seconds)) : False :=
      cleared.asked keyed fun event mem =>
        accounted.restricted seconds limited event (List.mem_append_right final mem)
    cases verdict with
    | invalidCredentials => exact absurd (.inl failed) refused
    | userDisabled => exact absurd (.inr failed) refused
    | authLocked seconds => exact absurd (.inl failed) (restricted seconds)
    | authThrottled seconds => exact absurd (.inr failed) (restricted seconds)
    | _ => rfl
  rintro (⟨found, reread, changed⟩ | ⟨asked, verdict⟩)
  · have found := (List.mem_append.mp found).resolve_left (opening.only.absent rfl)
    have reread := (List.mem_append.mp reread).resolve_right (cleared.unread _ _)
    cases cleared.first _ _ found
    cases opening with
    | unread => cases List.mem_singleton.mp reread
    | turnedAway away =>
        cases List.mem_singleton.mp reread
        cases away with
        | missing => cases unrefused _ rfl
        | other other =>
            rcases changed with ⟨⟨⟩⟩ | ⟨current, ⟨⟩, same, -⟩
            exact other same
        | disabled _ _ => cases unrefused _ rfl
        | rehashed _ _ => cases unrefused _ rfl
    | issued verified issuing =>
        have reread := (List.mem_append.mp reread).resolve_left (issuing.only.absent rfl)
        simp only [List.mem_cons, List.not_mem_nil, or_false] at reread
        rcases reread with ⟨⟨⟩⟩ | ⟨⟨⟩⟩ | ⟨⟨⟩⟩
        rcases changed with ⟨⟨⟩⟩ | ⟨current, ⟨⟩, -, disabled | rehashed⟩
        · cases verified.enabled.symm.trans disabled
        · exact rehashed verified.hash
  · have asked := (List.mem_append.mp asked).resolve_right (cleared.unissued _ _)
    cases opening with
    | unread => cases List.mem_singleton.mp asked
    | turnedAway _ => cases List.mem_singleton.mp asked
    | issued _ issuing =>
        rcases List.mem_append.mp asked with asked | asked
        · cases (unrefused _ (issuing.surfaced _ asked _ rfl)).symm.trans verdict
        · simp only [List.mem_cons, List.not_mem_nil, or_false] at asked
          rcases asked with ⟨⟨⟩⟩ | ⟨⟨⟩⟩ | ⟨⟨⟩⟩

/-- The operations of a login whose session is not being opened. -/
def unopenedOp : AuthOp → Bool
  | .findUserById _ | .additionalTokenRoles _ => false
  | _ => true

theorem unopened_of_recordingOp {op : AuthOp} (recording : recordingOp op = true) :
    unopenedOp op = true := by
  cases op <;> first | rfl | cases recording

theorem unopened_of_clearingOp {op : AuthOp} (clearing : clearingOp op = true) :
    unopenedOp op = true := by
  cases op <;> first | rfl | cases clearing

theorem AdmittedRead.unopened {answer : AuthResult Unit}
    (read : AdmittedRead svc login h permit found) :
    Only unopenedOp (passwordChecked login passwordHash answer :: h) := by
  obtain ⟨admission, rfl, check⟩ := read
  exact .cons rfl (.cons rfl ((check.only.mono recordingOp_of_admissionOp).mono
    unopened_of_recordingOp))

theorem not_refusedLate_of_unopened (unopened : Only unopenedOp h) : ¬ RefusedLate h := by
  rintro (⟨-, reread, -⟩ | ⟨asked, -⟩)
  · exact unopened.absent rfl reread
  · exact unopened.absent rfl asked

theorem unverified_accounted (read : AdmittedRead svc login h permit found)
    (other : e ≠ .invalidCredentials)
    (done : PasswordWorkDone (passwordChecked login passwordHash (.error e) :: h)) :
    LoginAccounted svc login (passwordChecked login passwordHash (.error e) :: h) (.error e) := by
  have work : e.isPasswordWork = true := done _ _ e List.mem_cons_self
  refine .of_other (AuthError.isLoginVerdict_of_passwordWork work other) fun _ _ => ?_
  exact read.checked_reading.mono uncounted_of_readingOp

theorem uncleared_accounted (answered : StoresAnswered (late ++ h))
    (clearing : CounterClearing svc.config.rateLimits.credential permit late (.error e)) :
    LoginAccounted svc login (late ++ h) (.error e) := by
  have noErrors := answered.noErrors (fun _ => errorOf_clearing) clearing.only
    (List.subset_append_left _ _)
  have internal := (clearing.failed e rfl).internal noErrors
  refine .of_other (AuthError.isLoginVerdict_of_internal internal) ?_
  rintro rfl
  cases internal

/-- A login that has ended is accounted exactly if nothing refused it late, or it has no keys. -/
theorem LoginExit.accounted_iff (exit : LoginExit svc login h result) (answered : StoresAnswered h)
    (done : PasswordWorkDone h) :
    LoginAccounted svc login h result ↔ login.keys svc = [] ∨ ¬ RefusedLate h := by
  cases exit with
  | rejected check =>
      have unopened := (check.only.mono recordingOp_of_admissionOp).mono unopened_of_recordingOp
      exact iff_of_true (rejected_accounted answered check)
        (.inr (not_refusedLate_of_unopened unopened))
  | @unread before permit e check =>
      cases answered (principalRead login (.error e)) List.mem_cons_self rfl
  | unverified read other =>
      exact iff_of_true (unverified_accounted read other done)
        (.inr (not_refusedLate_of_unopened read.unopened))
  | counted read available recording outcome =>
      exact iff_of_true (counted_accounted answered done read available recording outcome)
        (.inr (not_refusedLate_of_unopened
          ((recording.only.mono unopened_of_recordingOp).append read.unopened)))
  | uncleared read clearing =>
      exact iff_of_true (uncleared_accounted answered clearing)
        (.inr (not_refusedLate_of_unopened
          ((clearing.only.mono unopened_of_clearingOp).append read.unopened)))
  | reopened read clearing opening =>
      have cleared := cleared_of_clearing read clearing
      constructor
      · intro accounted
        by_cases keyed : login.keys svc = []
        · exact .inl keyed
        · exact .inr (not_refusedLate accounted cleared opening keyed)
      · exact reopened_accounted answered cleared opening

end Exits

/-- Each commit of login `i` stored one more failure, computed from what the login had read. -/
def StoresFailures {ι : Type} [DecidableEq ι] (logins : LoginPool ι) (c : Config rateLimitStore ι)
    (i : ι) : Prop :=
  ∀ late event early update, c.trace = late ++ (i, event) :: early → commitOf event = some update →
    ∃ current now stored, UpdatePlan (logins i).1.config.rateLimits.credential false (Trace.of i early)
        update.key update.expectedRevision update.snapshot current now ∧
      stored.states update.key = some update.snapshot ∧
      Steps rateLimitStore logins.program ⟨(i, event) :: early, stored⟩ c

section Pool

variable {ι : Type} [DecidableEq ι] {logins : LoginPool ι} {c : Config rateLimitStore ι} {i : ι}

theorem storesFailures (reached : Reachable rateLimitStore logins.program c) :
    StoresFailures logins c i := by
  intro late event early update share commit
  obtain ⟨w, w', before, edge, effect, run⟩ := reached.split share
  rw [eq_committedState commit] at effect edge run ⊢
  obtain ⟨kept, -, -, -, rfl⟩ := effect
  cases edge with
  | act waiting _ =>
      obtain ⟨current, now, plan⟩ := login_counts.guard_of_path waiting
      exact ⟨current, now, _, plan, kept.set_self _ _, run⟩

/--
In every interleaving of logins over stores that meet the contract and do not
fail, a login that has returned is accounted exactly if it has no rate-limit
keys or nothing refused it after its success was accounted.
-/
theorem login_accounting_iff (reached : Reachable rateLimitStore logins.program c)
    {result : AuthResult AuthPayload} (returned : Returned logins.program c i result)
    (answered : StoresAnswered (c.trace.of i)) (done : PasswordWorkDone (c.trace.of i)) :
    StoresFailures logins c i ∧
        LoginAccounted (logins i).1 (logins i).2 (c.trace.of i) result ↔
      (logins i).2.keys (logins i).1 = [] ∨ ¬ RefusedLate (c.trace.of i) := by
  rw [and_iff_right (storesFailures reached)]
  exact (login_exits.post_of_path returned).accounted_iff answered done

end Pool

def ada : StoredUser where
  id := "1"
  principal := "ada"
  passwordHash := "hash"
  disabled := false
  roles := ["clerk"]
  scopes := []

/-- The in-memory store, and a user store that finds `ada` first and `reread` later. -/
def LoginHost.exec (reread : Option StoredUser) (m : RateLimitHost) :
    (op : AuthOp) → Option (AuthOp.Resp op × RateLimitHost)
  | .findUserByPrincipal _ => some ((.ok (some ada) : AuthResult (Option StoredUser)), m)
  | .findUserById _ => some ((.ok reread : AuthResult (Option StoredUser)), m)
  | .verifyPassword .. => some ((.ok () : AuthResult Unit), m)
  | .generateOpaqueToken => some ("opaque", m)
  | .insertRefreshToken _ => some ((.ok () : AuthResult Unit), m)
  | op => m.exec 16384 (steadyClock 1) op

theorem LoginHost.exec_meets {reread : Option StoredUser} {m m' : RateLimitHost} {op : AuthOp}
    {resp : AuthOp.Resp op} (answered : LoginHost.exec reread m op = some (resp, m')) :
    RateLimitEffect m.world op resp m'.world := by
  cases op with
  | findUserByPrincipal | findUserById | verifyPassword | generateOpaqueToken
  | insertRefreshToken =>
      cases answered
      exact ⟨_, .refl _, rfl⟩
  | _ => exact @RateLimitHost.exec_meets 16384 (steadyClock 1) m m' _ resp answered

def loginHost (reread : Option StoredUser) : Implementation rateLimitStore where
  Memory := RateLimitHost
  start := ⟨.empty, [], 0⟩
  exec := LoginHost.exec reread
  abs := RateLimitHost.world
  abs_start := (rateLimitHost 16384 (steadyClock 1)).abs_start
  meets := LoginHost.exec_meets

def adaLogins : LoginPool Unit := fun _ =>
  (limitedService AuthRateLimitConfig.default.credential, ⟨"ada", "password", {}⟩)

def adaRun (reread : Option StoredUser) : Running (loginHost reread) adaLogins.program :=
  Running.start.schedule (List.replicate 16 ())

theorem noErrors_of_all {h : AuthHistory}
    (silent : h.all (fun event => (errorOf event).isNone) = true) : NoErrors h :=
  fun event mem => Option.isNone_iff_eq_none.mp (List.all_eq_true.mp silent event mem)

theorem NoErrors.environment {h : AuthHistory} (noErrors : NoErrors h) :
    StoresAnswered h ∧ PasswordWorkDone h := by
  refine ⟨fun event mem _ => noErrors event mem, ?_⟩
  intro password passwordHash e mem
  cases noErrors _ mem

theorem adaRun_accounting :
    ∃ payload, Returned adaLogins.program (adaRun (some ada)).config () (.ok payload) ∧
      (StoresFailures adaLogins (adaRun (some ada)).config () ∧
          LoginAccounted (adaLogins ()).1 (adaLogins ()).2 ((adaRun (some ada)).trace.of ())
            (.ok payload) ↔
        (adaLogins ()).2.keys (adaLogins ()).1 = [] ∨
          ¬ RefusedLate ((adaRun (some ada)).trace.of ())) := by
  obtain ⟨payload, result⟩ : ∃ payload, (adaRun (some ada)).result? () = some (.ok payload) :=
    ⟨_, rfl⟩
  have returned := Running.returned_of_result? result
  have silent : NoErrors ((adaRun (some ada)).trace.of ()) := noErrors_of_all rfl
  exact ⟨payload, returned, login_accounting_iff (adaRun (some ada)).reached returned
    silent.environment.1 silent.environment.2⟩

/-- The second read shows the user disabled, after the counters were cleared. -/
def disabledRun : Running (loginHost (some { ada with disabled := true })) adaLogins.program :=
  adaRun (some { ada with disabled := true })

theorem disabled_login_uncounted :
    Reachable rateLimitStore adaLogins.program disabledRun.config ∧
      Returned adaLogins.program disabledRun.config () (.error .userDisabled) ∧
      StoresAnswered (disabledRun.trace.of ()) ∧ PasswordWorkDone (disabledRun.trace.of ()) ∧
      ¬ LoginAccounted (adaLogins ()).1 (adaLogins ()).2 (disabledRun.trace.of ())
        (.error .userDisabled) := by
  have silent : NoErrors (disabledRun.trace.of ()) := noErrors_of_all rfl
  refine ⟨disabledRun.reached, Running.returned_of_result? rfl, silent.environment.1,
    silent.environment.2, fun accounted => ?_⟩
  have uncounted : (committedKeys (disabledRun.trace.of ())).length = 0 := rfl
  rw [(accounted.refused (.inr rfl)).1] at uncounted
  cases uncounted

end AgqlAuth
