import AgqlAuth.Challenge.MemoryStore
import Mathlib.Data.List.Nodup

/-!
# Login challenges are safe under every interleaving

Calls interleave at every awaited operation, and a call that is cancelled is one
that is never scheduled again.  One invariant for each challenge counts what was
admitted and consumed against what is stored.
-/

namespace AgqlAuth

open Interaction Program

variable {ι : Type}

/-- The fields that are fixed at insertion. -/
def StoredLoginChallenge.definition (self : StoredLoginChallenge) : StoredLoginChallenge :=
  { self with attempts := 0, consumedAt := none }

theorem StoredLoginChallenge.same_field {α : Type} {a b : StoredLoginChallenge}
    (same : a.definition = b.definition) (field : StoredLoginChallenge → α)
    (fixed : ∀ challenge, field challenge.definition = field challenge) : field a = field b := by
  rw [← fixed a, same, fixed b]

def isAdmission (challengeId : Uuid) : ChallengeEvent → Bool
  | ⟨.inr (.reserveLoginChallengeAttempt reservedId _),
      (.ok _ : AuthResult StoredLoginChallenge)⟩ => reservedId == challengeId
  | _ => false

def isConsumption (challengeId : Uuid) : ChallengeEvent → Bool
  | ⟨.inr (.consumeLoginChallenge consumedId _), (.ok true : AuthResult Bool)⟩ =>
      consumedId == challengeId
  | _ => false

def admissions (challengeId : Uuid) (t : ChallengeTrace ι) : Nat :=
  t.countP fun entry => isAdmission challengeId entry.2

def consumptions (challengeId : Uuid) (t : ChallengeTrace ι) : Nat :=
  t.countP fun entry => isConsumption challengeId entry.2

/-- What the trace has done to one challenge, against what is stored of it. -/
structure SoundAt (t : ChallengeTrace ι) (challengeId : Uuid)
    (stored inserted : Option StoredLoginChallenge) : Prop where
  defined : ∀ challenge ∈ stored, ∃ original ∈ inserted,
    original.definition = challenge.definition
  shown : ∀ i attemptedAt reserved, (i, admittedAttempt challengeId attemptedAt reserved) ∈ t →
    ∃ original ∈ inserted, original.definition = reserved.definition
  charged : ∀ challenge ∈ stored, admissions challengeId t ≤ challenge.attempts
  limited : ∀ original ∈ inserted, admissions challengeId t ≤ original.maxAttempts
  unknown : inserted = none → admissions challengeId t = 0 ∧ consumptions challengeId t = 0
  once : consumptions challengeId t ≤ 1
  spent : ∀ challenge ∈ stored, challenge.consumedAt = none → consumptions challengeId t = 0

section Counts

variable {challengeId : Uuid} {t : ChallengeTrace ι} {entry : ι × ChallengeEvent}

theorem admissions_cons :
    admissions challengeId (entry :: t) =
      admissions challengeId t + if isAdmission challengeId entry.2 then 1 else 0 :=
  List.countP_cons ..

theorem consumptions_cons :
    consumptions challengeId (entry :: t) =
      consumptions challengeId t + if isConsumption challengeId entry.2 then 1 else 0 :=
  List.countP_cons ..

theorem isAdmission_admitted {i : ι} {attemptedAt : OffsetDateTime}
    {reserved : StoredLoginChallenge}
    (same : entry = (i, admittedAttempt challengeId attemptedAt reserved)) :
    isAdmission challengeId entry.2 = true := by
  subst same
  simp [isAdmission, admittedAttempt]

end Counts

namespace SoundAt

variable {t : ChallengeTrace ι} {challengeId : Uuid} {i : ι} {e : ChallengeEvent}
variable {stored inserted : Option StoredLoginChallenge} {challenge : StoredLoginChallenge}

theorem start : SoundAt ([] : ChallengeTrace ι) challengeId none none := by
  constructor <;> simp [admissions, consumptions]

/-- An event that neither admits nor consumes the challenge. -/
theorem silent (sound : SoundAt t challengeId stored inserted)
    (unadmitted : isAdmission challengeId e = false)
    (unconsumed : isConsumption challengeId e = false) :
    SoundAt ((i, e) :: t) challengeId stored inserted := by
  have same_admissions : admissions challengeId ((i, e) :: t) = admissions challengeId t := by
    simp [admissions_cons, unadmitted]
  have same_consumptions : consumptions challengeId ((i, e) :: t) =
      consumptions challengeId t := by
    simp [consumptions_cons, unconsumed]
  constructor
  case defined => exact sound.defined
  case shown =>
    intro j attemptedAt reserved mem
    rcases List.mem_cons.mp mem with same | earlier
    · have admitted := isAdmission_admitted same.symm
      rw [unadmitted] at admitted
      cases admitted
    · exact sound.shown j attemptedAt reserved earlier
  case charged =>
    rw [same_admissions]
    exact sound.charged
  case limited =>
    rw [same_admissions]
    exact sound.limited
  case unknown =>
    rw [same_admissions, same_consumptions]
    exact sound.unknown
  case once =>
    rw [same_consumptions]
    exact sound.once
  case spent =>
    rw [same_consumptions]
    exact sound.spent

/-- A committed write may stay hidden behind an error answer. -/
theorem of_cons (sound : SoundAt ((i, e) :: t) challengeId stored inserted) :
    SoundAt t challengeId stored inserted := by
  have fewer_admissions : admissions challengeId t ≤ admissions challengeId ((i, e) :: t) := by
    rw [admissions_cons]
    exact Nat.le_add_right ..
  have fewer_consumptions : consumptions challengeId t ≤
      consumptions challengeId ((i, e) :: t) := by
    rw [consumptions_cons]
    exact Nat.le_add_right ..
  constructor
  case defined => exact sound.defined
  case shown =>
    intro j attemptedAt reserved mem
    exact sound.shown j attemptedAt reserved (List.mem_cons_of_mem _ mem)
  case charged =>
    intro challenge mem
    exact fewer_admissions.trans (sound.charged challenge mem)
  case limited =>
    intro original mem
    exact fewer_admissions.trans (sound.limited original mem)
  case unknown =>
    intro absent
    have counted := sound.unknown absent
    omega
  case once => exact fewer_consumptions.trans sound.once
  case spent =>
    intro challenge mem unconsumed
    have counted := sound.spent challenge mem unconsumed
    omega

/-- The challenge was deleted. -/
theorem lost (sound : SoundAt t challengeId stored inserted) :
    SoundAt t challengeId none inserted where
  defined := by simp
  shown := sound.shown
  charged := by simp
  limited := sound.limited
  unknown := sound.unknown
  once := sound.once
  spent := by simp

/-- A challenge is inserted under an identifier that was never used. -/
theorem insert (sound : SoundAt t challengeId stored none) (challenge : StoredLoginChallenge) :
    SoundAt t challengeId (some challenge) (some challenge) := by
  obtain ⟨unadmitted, unconsumed⟩ := sound.unknown rfl
  constructor
  case defined => simp
  case shown =>
    intro j attemptedAt reserved mem
    obtain ⟨original, present, -⟩ := sound.shown j attemptedAt reserved mem
    cases present
  case charged => simp [unadmitted]
  case limited => simp [unadmitted]
  case unknown => simp
  case once => omega
  case spent => simp [unconsumed]

theorem admitted (sound : SoundAt t challengeId (some challenge) inserted)
    (attemptedAt : OffsetDateTime) (unconsumed : challenge.consumedAt = none)
    (available : challenge.attempts < challenge.maxAttempts) :
    let reserved := { challenge with attempts := challenge.attempts + 1 }
    SoundAt ((i, admittedAttempt challengeId attemptedAt reserved) :: t) challengeId
      (some reserved) inserted := by
  intro reserved
  have charged := sound.charged challenge rfl
  have unspent := sound.spent challenge rfl unconsumed
  obtain ⟨original, present, same⟩ := sound.defined challenge rfl
  have limit : original.maxAttempts = challenge.maxAttempts :=
    StoredLoginChallenge.same_field same (·.maxAttempts) fun _ => rfl
  have once_more : admissions challengeId
      ((i, admittedAttempt challengeId attemptedAt reserved) :: t) =
        admissions challengeId t + 1 := by
    simp [admissions_cons, isAdmission, admittedAttempt]
  have unchanged : consumptions challengeId
      ((i, admittedAttempt challengeId attemptedAt reserved) :: t) = 0 := by
    simp [consumptions_cons, isConsumption, admittedAttempt, unspent]
  constructor
  case defined =>
    rintro _ ⟨⟩
    exact ⟨original, present, same⟩
  case shown =>
    intro j at_ shown mem
    rcases List.mem_cons.mp mem with own | earlier
    · cases own
      exact ⟨original, present, same⟩
    · exact sound.shown j at_ shown earlier
  case charged =>
    rintro _ ⟨⟩
    rw [once_more]
    exact Nat.succ_le_succ charged
  case limited =>
    intro other present'
    cases present.symm.trans present'
    omega
  case unknown =>
    intro absent
    rw [absent] at present
    cases present
  case once => omega
  case spent => exact fun _ _ _ => unchanged

theorem consumed (sound : SoundAt t challengeId (some challenge) inserted)
    (consumedAt : OffsetDateTime) (unconsumed : challenge.consumedAt = none) :
    SoundAt ((i, consumedChallenge challengeId consumedAt) :: t) challengeId
      (some { challenge with consumedAt := some consumedAt }) inserted := by
  have unspent := sound.spent challenge rfl unconsumed
  obtain ⟨original, present, same⟩ := sound.defined challenge rfl
  have unchanged : admissions challengeId ((i, consumedChallenge challengeId consumedAt) :: t) =
      admissions challengeId t := by
    simp [admissions_cons, isAdmission, consumedChallenge]
  have once_more : consumptions challengeId
      ((i, consumedChallenge challengeId consumedAt) :: t) = 1 := by
    simp [consumptions_cons, isConsumption, consumedChallenge, unspent]
  constructor
  case defined =>
    rintro _ ⟨⟩
    exact ⟨original, present, same⟩
  case shown =>
    intro j at_ shown mem
    rcases List.mem_cons.mp mem with own | earlier
    · cases own
    · exact sound.shown j at_ shown earlier
  case charged =>
    rintro _ ⟨⟩
    rw [unchanged]
    exact sound.charged challenge rfl
  case limited =>
    rw [unchanged]
    exact sound.limited
  case unknown =>
    intro absent
    rw [absent] at present
    cases present
  case once => omega
  case spent =>
    rintro _ ⟨⟩ still
    cases still

end SoundAt

/-- The invariant of all challenges. -/
def ChallengeSound (t : ChallengeTrace ι) (w : ChallengeWorld) : Prop :=
  ∀ challengeId, SoundAt t challengeId (w.challenges challengeId) (w.inserted challengeId)

section Steps

variable {t : ChallengeTrace ι} {w w' kept : ChallengeWorld} {i : ι} {e : ChallengeEvent}

theorem ChallengeSound.deleted (sound : ChallengeSound t w) (deleted : w.Deleted kept) :
    ChallengeSound t kept := by
  intro challengeId
  rw [deleted.1]
  rcases deleted.2 challengeId with same | gone
  · rw [same]
    exact sound challengeId
  · rw [gone]
    exact (sound challengeId).lost

theorem ChallengeSound.silent (sound : ChallengeSound t w)
    (unadmitted : ∀ challengeId, isAdmission challengeId e = false)
    (unconsumed : ∀ challengeId, isConsumption challengeId e = false) :
    ChallengeSound ((i, e) :: t) w :=
  fun challengeId => (sound challengeId).silent (unadmitted challengeId) (unconsumed challengeId)

theorem ChallengeSound.of_cons (sound : ChallengeSound ((i, e) :: t) w) : ChallengeSound t w :=
  fun challengeId => (sound challengeId).of_cons

theorem ChallengeSound.admission {challengeId : Uuid} {attemptedAt : OffsetDateTime}
    {reserved : StoredLoginChallenge} (sound : ChallengeSound t w)
    (admission : Admission w challengeId attemptedAt reserved w') :
    ChallengeSound ((i, admittedAttempt challengeId attemptedAt reserved) :: t) w' := by
  obtain ⟨⟨challenge, present, unconsumed, -, available, rfl⟩, rfl⟩ := admission
  intro other
  by_cases same : other = challengeId
  · subst same
    have sound := sound other
    rw [present] at sound
    simpa [ChallengeWorld.put] using sound.admitted attemptedAt unconsumed available
  · have elsewhere := (sound other).silent (i := i)
      (e := admittedAttempt challengeId attemptedAt
        { challenge with attempts := challenge.attempts + 1 })
      (by simp [isAdmission, admittedAttempt, Ne.symm same]) rfl
    simpa [ChallengeWorld.put, Function.update_of_ne same] using elsewhere

theorem ChallengeSound.consumption {challengeId : Uuid} {consumedAt : OffsetDateTime}
    (sound : ChallengeSound t w) (consumption : Consumption w challengeId consumedAt w') :
    ChallengeSound ((i, consumedChallenge challengeId consumedAt) :: t) w' := by
  obtain ⟨⟨challenge, present, unconsumed, -, -, rfl⟩⟩ := consumption
  intro other
  by_cases same : other = challengeId
  · subst same
    have sound := sound other
    rw [present] at sound
    simpa [ChallengeWorld.put] using sound.consumed consumedAt unconsumed
  · have elsewhere := (sound other).silent (i := i)
      (e := consumedChallenge challengeId consumedAt) rfl
      (by simp [isConsumption, consumedChallenge, Ne.symm same])
    simpa [ChallengeWorld.put, Function.update_of_ne same] using elsewhere

theorem ChallengeSound.insert {challenge : StoredLoginChallenge} (sound : ChallengeSound t w)
    (unused : w.inserted challenge.id = none) : ChallengeSound t (w.insert challenge) := by
  intro other
  by_cases same : other = challenge.id
  · subst same
    have sound := sound challenge.id
    rw [unused] at sound
    simpa [ChallengeWorld.insert] using sound.insert challenge
  · simpa [ChallengeWorld.insert, Function.update_of_ne same] using sound other

/-- Every operation keeps the invariant. -/
theorem ChallengeSound.step (sound : ChallengeSound t w) {op : challengeSignature.Op}
    {resp : challengeSignature.Resp op} (effect : ChallengeEffect w op resp w') :
    ChallengeSound ((i, ⟨op, resp⟩) :: t) w' := by
  obtain ⟨kept, deleted, answered⟩ := effect
  have sound := sound.deleted deleted
  rcases op with op | op
  · obtain rfl := answered
    exact sound.silent (fun _ => rfl) fun _ => rfl
  · cases op with
    | insertLoginChallenge challenge =>
        rcases answered with ⟨unused, rfl⟩ | ⟨-, rfl⟩
        · exact (sound.insert unused).silent (fun _ => rfl) fun _ => rfl
        · exact sound.silent (fun _ => rfl) fun _ => rfl
    | findLoginChallenge challengeId =>
        obtain ⟨rfl, -⟩ := answered
        exact sound.silent (fun _ => rfl) fun _ => rfl
    | reserveLoginChallengeAttempt challengeId attemptedAt =>
        rcases resp with error | reserved
        · rcases answered with rfl | ⟨reserved, admission⟩
          · exact sound.silent (fun _ => rfl) fun _ => rfl
          · exact (sound.admission (i := i) admission).of_cons.silent (fun _ => rfl) fun _ => rfl
        · exact sound.admission answered
    | consumeLoginChallenge challengeId consumedAt =>
        rcases resp with error | _ | _
        · rcases answered with rfl | consumption
          · exact sound.silent (fun _ => rfl) fun _ => rfl
          · exact (sound.consumption (i := i) consumption).of_cons.silent (fun _ => rfl)
              fun _ => rfl
        · obtain rfl := answered
          exact sound.silent (fun _ => rfl) fun _ => rfl
        · exact sound.consumption answered
    | _ =>
        obtain rfl := answered
        exact sound.silent (fun _ => rfl) fun _ => rfl

end Steps

section Runs

variable [DecidableEq ι] {calls : ChallengePool ι} {c : ChallengeConfig ι}
variable {challengeId : Uuid} {original : StoredLoginChallenge} {i : ι}

theorem challenge_sound (reached : ChallengeReachable calls c) :
    ChallengeSound c.trace c.state := by
  refine Reachable.invariant (I := fun c => ChallengeSound c.trace c.state)
    (fun i => ChallengeCall.verified (calls i).1 (calls i).2) ?_ ?_ reached
  · exact fun _ => SoundAt.start
  · intro t w w' i op resp _ sound _ effect
    exact sound.step effect

/-- Call `i` verifies the challenge. -/
def ChallengePool.Verifies (calls : ChallengePool ι) (i : ι) (challengeId : Uuid) (code : String) :
    Prop :=
  ∃ metadata, (calls i).2 = .verify challengeId code metadata

/-- Call `i` started to verify a code for the challenge when its history was `early`. -/
structure StartsAt (calls : ChallengePool ι) (c : ChallengeConfig ι) (challengeId : Uuid)
    (i : ι) (early : ChallengeHistory) : Prop where
  verifies : ∃ code, calls.Verifies i challengeId code
  past : early <:+ c.trace.of i
  started : ∃ code codeHash next, Path (calls.program i) early
    (call (S := challengeSignature) (.inl (.verifyPassword code codeHash)) next)

/-- What is guaranteed of a challenge that was inserted as `original`. -/
structure LoginChallengeSafe (calls : ChallengePool ι) (c : ChallengeConfig ι)
    (challengeId : Uuid) (original : StoredLoginChallenge) : Prop where
  /-- Over all calls, finished, running or cancelled. -/
  bounded : ∀ starts : List (ι × ChallengeHistory), starts.Nodup →
    (∀ start ∈ starts, StartsAt calls c challengeId start.1 start.2) →
    starts.length ≤ original.maxAttempts
  once : ∀ i j code code' verified verified', calls.Verifies i challengeId code →
    calls.Verifies j challengeId code' → Returned calls.program c i (.ok (some verified)) →
    Returned calls.program c j (.ok (some verified')) → i = j
  genuine : ∀ i code verified, calls.Verifies i challengeId code →
    Returned calls.program c i (.ok (some verified)) →
    verifiedCode code original.codeHash ∈ c.trace.of i ∧
      (∃ consumedAt, consumedChallenge challengeId consumedAt ∈ c.trace.of i) ∧
      verified.verifiedAt < original.expiresAt ∧ verified.principal = original.principal

theorem StartsAt.guard {early : ChallengeHistory} (starts : StartsAt calls c challengeId i early) :
    Unstarted early ∧ ∃ attemptedAt reserved,
      admittedAttempt challengeId attemptedAt reserved ∈ early := by
  obtain ⟨⟨code, metadata, runs⟩, -, password, codeHash, next, path⟩ := starts
  have allowed := (ChallengeCall.verified (calls i).1 (calls i).2).guard_of_path path
  rw [runs] at allowed
  obtain ⟨unstarted, -, attemptedAt, reserved, admitted, -⟩ := allowed
  exact ⟨unstarted, attemptedAt, reserved, admitted⟩

/-- A call that has started a verification is past its only start. -/
theorem StartsAt.not_longer {early late : ChallengeHistory} {e : ChallengeEvent}
    (first : StartsAt calls c challengeId i early)
    (second : StartsAt calls c challengeId i (late ++ e :: early)) : False := by
  obtain ⟨password, codeHash, next, path⟩ := first.started
  obtain ⟨_, _, _, longer⟩ := second.started
  obtain ⟨next', issued⟩ := longer.issued
  have same := path.unique issued
  injection same with started
  have other := second.guard.1 e (by simp)
  rw [← started] at other
  cases other

theorem StartsAt.unique {early early' : ChallengeHistory}
    (first : StartsAt calls c challengeId i early)
    (second : StartsAt calls c challengeId i early') : early = early' := by
  rcases List.suffix_or_suffix_of_suffix first.past second.past with ⟨late, rfl⟩ | ⟨late, rfl⟩
  · rcases List.eq_nil_or_concat late with rfl | ⟨late, e, rfl⟩
    · rfl
    · rw [List.concat_append] at second
      exact (first.not_longer second).elim
  · rcases List.eq_nil_or_concat late with rfl | ⟨late, e, rfl⟩
    · rfl
    · rw [List.concat_append] at first
      exact (second.not_longer first).elim

theorem starts_le_admissions {starts : List (ι × ChallengeHistory)} (distinct : starts.Nodup)
    (each : ∀ start ∈ starts, StartsAt calls c challengeId start.1 start.2) :
    starts.length ≤ admissions challengeId c.trace := by
  rw [← List.length_map Prod.fst]
  apply Trace.length_le_countP (P := isAdmission challengeId)
  · refine List.Nodup.map_on ?_ distinct
    rintro ⟨i, early⟩ first ⟨j, early'⟩ second same
    obtain rfl : i = j := same
    exact Prod.ext rfl ((each _ first).unique (each _ second))
  · intro i mem
    obtain ⟨⟨_, early⟩, listed, rfl⟩ := List.mem_map.mp mem
    have starts := each _ listed
    obtain ⟨-, attemptedAt, reserved, admitted⟩ := starts.guard
    exact ⟨_, starts.past.subset admitted, by simp [isAdmission, admittedAttempt]⟩

theorem returned_verified {code : String} {verified : VerifiedLoginChallenge}
    (verifies : calls.Verifies i challengeId code)
    (returned : Returned calls.program c i (.ok (some verified))) :
    ∃ reserved, VerifiedBy challengeId code (c.trace.of i) reserved verified := by
  obtain ⟨metadata, runs⟩ := verifies
  have ended : challengePost (calls i).2 (c.trace.of i) (.ok (some verified)) :=
    (ChallengeCall.verified (calls i).1 (calls i).2).post_of_path returned
  rw [runs] at ended
  exact ended

/--
Login challenges are safe: whatever the codes, the clocks and the order of steps,
the code checks that are ever started are at most the attempts allowed, one call
at most succeeds, and it verified the stored hash, consumed the challenge and
finished before the expiry.
-/
theorem login_challenge_safe (reached : ChallengeReachable calls c)
    (known : c.state.inserted challengeId = some original) :
    LoginChallengeSafe calls c challengeId original := by
  have sound := challenge_sound reached challengeId
  constructor
  case bounded =>
    intro starts distinct each
    exact (starts_le_admissions distinct each).trans (sound.limited original known)
  case once =>
    intro i j code code' verified verified' first second returned returned'
    obtain ⟨_, accepted⟩ := returned_verified first returned
    obtain ⟨_, accepted'⟩ := returned_verified second returned'
    by_contra apart
    have distinct : [i, j].Nodup := by simp [apart]
    have consumed_twice := Trace.length_le_countP (P := isConsumption challengeId)
      (t := c.trace) distinct (by
        intro k mem
        rcases List.mem_pair.mp mem with rfl | rfl
        · obtain ⟨consumedAt, consumed⟩ := accepted.consumed
          exact ⟨_, consumed, by simp [isConsumption, consumedChallenge]⟩
        · obtain ⟨consumedAt, consumed⟩ := accepted'.consumed
          exact ⟨_, consumed, by simp [isConsumption, consumedChallenge]⟩)
    have once : consumptions challengeId c.trace ≤ 1 := sound.once
    exact absurd (consumed_twice.trans once) (by simp)
  case genuine =>
    intro i code verified verifies returned
    obtain ⟨reserved, accepted⟩ := returned_verified verifies returned
    obtain ⟨attemptedAt, admitted⟩ := accepted.admitted
    obtain ⟨_, present, same⟩ :=
      sound.shown i attemptedAt reserved (Trace.mem_of.mp admitted)
    cases known.symm.trans present
    refine ⟨?_, accepted.consumed, ?_, ?_⟩
    · rw [StoredLoginChallenge.same_field same (·.codeHash) fun _ => rfl]
      exact accepted.checked
    · rw [StoredLoginChallenge.same_field same (·.expiresAt) fun _ => rfl]
      exact accepted.unexpired
    · rw [StoredLoginChallenge.same_field same (·.principal) fun _ => rfl]
      exact accepted.principal

/-- Of two admitted calls with the right code, the one that consumes first succeeds. -/
theorem raced_codes_consumed_once :
    ∃ verified, Returned challengeCalls.program challengeRun.config 2 (.ok (some verified)) ∧
      Returned challengeCalls.program challengeRun.config 1 (.error .loginChallengeReplayed) ∧
      LoginChallengeSafe challengeCalls challengeRun.config sampleChallenge.id sampleChallenge := by
  obtain ⟨verified, returned⟩ : ∃ verified,
      challengeRun.result? 2 = some (.ok (some verified)) := ⟨_, rfl⟩
  exact ⟨verified, Running.returned_of_result? returned, Running.returned_of_result? rfl,
    login_challenge_safe challengeRun.reached rfl⟩

end Runs

end AgqlAuth
