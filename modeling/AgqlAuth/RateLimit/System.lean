import AgqlAuth.RateLimit.Store

/-!
# Any number of calls on one rate-limit store

Every call runs with its own service instance.  The attempts committed on a key
form a lineage: each was computed, with its committer's policy and clock
reading, from the state committed before it, or from nothing if the key was
absent.
-/

namespace AgqlAuth

open Interaction

variable {ι : Type} [DecidableEq ι]

/-- The calls of a pool, each on its own service instance. -/
abbrev RateLimitPool (ι : Type) := ι → AuthService × RateLimitCall

abbrev RateLimitTrace (ι : Type) := Trace authSignature ι

abbrev RateLimitConfig (ι : Type) := Config rateLimitStore ι

/-- A committed attempt, with what its committer brought to it. -/
structure RateLimitAttempt where
  policy : AuthRateLimitPolicy
  enforced : Bool
  clock : Option OffsetDateTime
  expectedRevision : Option Uuid
  snapshot : AuthRateLimitSnapshot

namespace RateLimitPool

def program (calls : RateLimitPool ι) (i : ι) :
    Program authSignature (AuthResult RateLimitReport) :=
  (calls i).2.program (calls i).1

def policy (calls : RateLimitPool ι) (i : ι) : AuthRateLimitPolicy := (calls i).2.policy (calls i).1

/-- The update call `i` committed after trace `t`. -/
def attempt (calls : RateLimitPool ι) (t : RateLimitTrace ι) (i : ι) (update : CommittedUpdate) :
    RateLimitAttempt where
  policy := calls.policy i
  enforced := (calls i).2.enforced
  clock := rateClock (t.of i)
  expectedRevision := update.expectedRevision
  snapshot := update.snapshot

/-- The attempts committed on `key`, newest first. -/
def attempts (calls : RateLimitPool ι) (key : AuthRateLimitKey) :
    RateLimitTrace ι → List RateLimitAttempt
  | [] => []
  | (i, e) :: t =>
      match commitOf e with
      | none => calls.attempts key t
      | some update =>
          if update.key = key then calls.attempt t i update :: calls.attempts key t
          else calls.attempts key t

end RateLimitPool

/-- Reached by some interleaving of the pool over some store meeting the contract. -/
abbrev RateLimitReachable (calls : RateLimitPool ι) (c : RateLimitConfig ι) : Prop :=
  Reachable rateLimitStore calls.program c

section Attempts

variable {calls : RateLimitPool ι} {t : RateLimitTrace ι} {i : ι} {e : AuthEvent}
variable {key : AuthRateLimitKey} {update : CommittedUpdate}

theorem attempts_uncommitted (uncommitted : commitOf e = none) :
    calls.attempts key ((i, e) :: t) = calls.attempts key t := by
  simp [RateLimitPool.attempts, uncommitted]

theorem attempts_committed (commit : commitOf e = some update) (same : update.key = key) :
    calls.attempts key ((i, e) :: t) = calls.attempt t i update :: calls.attempts key t := by
  simp [RateLimitPool.attempts, commit, same]

theorem attempts_other (commit : commitOf e = some update) (other : update.key ≠ key) :
    calls.attempts key ((i, e) :: t) = calls.attempts key t := by
  simp [RateLimitPool.attempts, commit, other]

/-- Attempts on a key are only ever added at the front. -/
theorem attempts_append (calls : RateLimitPool ι) (key : AuthRateLimitKey)
    (late early : RateLimitTrace ι) :
    ∃ newer, calls.attempts key (late ++ early) = newer ++ calls.attempts key early := by
  induction late with
  | nil => exact ⟨[], rfl⟩
  | cons entry late ih =>
      obtain ⟨newer, extended⟩ := ih
      obtain ⟨j, e⟩ := entry
      rw [List.cons_append]
      cases commit : commitOf e with
      | none => exact ⟨newer, (attempts_uncommitted commit).trans extended⟩
      | some update =>
          by_cases same : update.key = key
          · refine ⟨calls.attempt (late ++ early) j update :: newer, ?_⟩
            rw [attempts_committed commit same, extended]
            rfl
          · exact ⟨newer, (attempts_other commit same).trans extended⟩

/-- Where an attempt was committed. -/
theorem mem_attempts {a : RateLimitAttempt} (mem : a ∈ calls.attempts key t) :
    ∃ late i e early update, t = late ++ (i, e) :: early ∧ commitOf e = some update ∧
      update.key = key ∧ a = calls.attempt early i update := by
  induction t with
  | nil => cases mem
  | cons entry t ih =>
      obtain ⟨j, e⟩ := entry
      have later : a ∈ calls.attempts key t →
          ∃ late i e' early update, (j, e) :: t = late ++ (i, e') :: early ∧
            commitOf e' = some update ∧ update.key = key ∧ a = calls.attempt early i update := by
        intro mem
        obtain ⟨late, i, e', early, update, rfl, facts⟩ := ih mem
        exact ⟨(j, e) :: late, i, e', early, update, rfl, facts⟩
      cases commit : commitOf e with
      | none =>
          rw [attempts_uncommitted commit] at mem
          exact later mem
      | some update =>
          by_cases same : update.key = key
          · rw [attempts_committed commit same] at mem
            rcases List.mem_cons.mp mem with rfl | mem
            · exact ⟨[], j, e, t, update, rfl, commit, same, rfl⟩
            · exact later mem
          · rw [attempts_other commit same] at mem
            exact later mem

end Attempts

section Steps

variable {calls : RateLimitPool ι} {t : RateLimitTrace ι} {w w' : RateLimitWorld}
variable {i j : ι} {e : AuthEvent} {key : AuthRateLimitKey}

/-- Call `i` completes `e`, an operation it may issue. -/
structure RateLimitStep (calls : RateLimitPool ι) (t : RateLimitTrace ι) (w : RateLimitWorld)
    (i : ι) (e : AuthEvent) (w' : RateLimitWorld) : Prop where
  allowed : rateLimitGuard (calls.policy i) (calls i).2.enforced (t.of i) e.op
  effect : RateLimitEffect w e.op e.resp w'

/-- Invariant rule for pools: what single operations keep holds throughout. -/
theorem rateLimit_invariant {I : RateLimitTrace ι → RateLimitWorld → Prop}
    (base : I [] ⟨fun _ => none, []⟩)
    (preserved : ∀ {t : RateLimitTrace ι} {w w' : RateLimitWorld} {i : ι} {e : AuthEvent},
      RateLimitReachable calls ⟨t, w⟩ → I t w → RateLimitStep calls t w i e w' →
        I ((i, e) :: t) w')
    {c : RateLimitConfig ι} (reached : RateLimitReachable calls c) : I c.trace c.state := by
  refine Reachable.invariant (I := fun c => I c.trace c.state)
    (fun i => RateLimitCall.verified (calls i).1 (calls i).2) base ?_ reached
  intro t s s' i op resp before holds allowed effect
  exact preserved before holds ⟨allowed, effect⟩

theorem rateLimit_step {w w' : RateLimitWorld}
    (edge : Step rateLimitStore calls.program ⟨t, w⟩ ⟨(i, e) :: t, w'⟩) :
    RateLimitStep calls t w i e w' := by
  cases edge with
  | act waiting effect =>
      exact ⟨(RateLimitCall.verified (calls i).1 (calls i).2).guard_of_path waiting, effect⟩

/-- A commit was planned, and replaces what was expected. -/
theorem RateLimitStep.planned {update : CommittedUpdate} (step : RateLimitStep calls t w i e w')
    (commit : commitOf e = some update) :
    ∃ current now, UpdatePlan (calls.policy i) (calls i).2.enforced (t.of i) update.key
      update.expectedRevision update.snapshot current now := by
  have allowed := step.allowed
  rw [eq_committedState commit] at allowed
  exact allowed

end Steps

/-- What holds in every state a pool reaches. -/
structure RateLimitSound (calls : RateLimitPool ι) (t : RateLimitTrace ι) (w : RateLimitWorld) :
    Prop where
  stored : ∀ {key snapshot}, w.states key = some snapshot →
    (calls.attempts key t).head?.map (·.snapshot) = some snapshot
  shown : ∀ {i key snapshot}, observedState key (some snapshot) ∈ t.of i →
    ∃ a ∈ calls.attempts key t, a.snapshot = snapshot
  revised : ∀ key, ((calls.attempts key t).map (·.snapshot.revision)).Nodup
  used : ∀ {i e update}, (i, e) ∈ t → commitOf e = some update →
    update.snapshot.revision ∈ w.generated
  unused : ∀ {i id}, (t.of i).head? = some (drew id) →
    ∀ {j e update}, (j, e) ∈ t → commitOf e = some update → update.snapshot.revision ≠ id

namespace RateLimitSound

variable {calls : RateLimitPool ι} {t : RateLimitTrace ι} {w w' : RateLimitWorld}
variable {i j : ι} {e : AuthEvent} {key : AuthRateLimitKey}

/-- A revision identifies the attempt that committed it. -/
theorem eq_of_revision (sound : RateLimitSound calls t w) {a b : RateLimitAttempt}
    (mem : a ∈ calls.attempts key t) (mem' : b ∈ calls.attempts key t)
    (same : a.snapshot.revision = b.snapshot.revision) : a = b :=
  List.inj_on_of_nodup_map (sound.revised key) mem mem' same

/-- A compare-and-swap that succeeds replaces exactly the snapshot its caller read. -/
theorem replaces_read (sound : RateLimitSound calls t w) {stored snapshot : AuthRateLimitSnapshot}
    (present : w.states key = some stored)
    (read : observedState key (some snapshot) ∈ t.of i)
    (same : stored.revision = snapshot.revision) : stored = snapshot := by
  obtain ⟨newest, head, rfl⟩ := Option.map_eq_some_iff.mp (sound.stored present)
  obtain ⟨a, mem, rfl⟩ := sound.shown read
  rw [sound.eq_of_revision (List.mem_of_head? head) mem same]

/-- The revision a planned update brings is new. -/
theorem revision_new (sound : RateLimitSound calls t w) {update : CommittedUpdate}
    (drawn : (t.of i).head? = some (drew update.snapshot.revision)) {a : RateLimitAttempt}
    (mem : a ∈ calls.attempts key t) : update.snapshot.revision ≠ a.snapshot.revision := by
  obtain ⟨late, j, e, early, older, rfl, commit, -, rfl⟩ := mem_attempts mem
  exact (sound.unused drawn (List.mem_append_right late List.mem_cons_self) commit).symm

theorem stored_step (sound : RateLimitSound calls t w) (step : RateLimitStep calls t w i e w')
    {snapshot : AuthRateLimitSnapshot} (present : w'.states key = some snapshot) :
    (calls.attempts key ((i, e) :: t)).head?.map (·.snapshot) = some snapshot := by
  have unchanged : w'.states key = w.states key ∨ w'.states key = none →
      (calls.attempts key t).head?.map (·.snapshot) = some snapshot := by
    rintro (same | gone)
    · exact sound.stored (same.symm.trans present)
    · cases gone.symm.trans present
  cases commit : commitOf e with
  | none =>
      rw [attempts_uncommitted commit]
      exact unchanged (step.effect.kept commit key)
  | some update =>
      have effect := step.effect
      rw [eq_committedState commit] at effect
      obtain ⟨-, replaced, others⟩ := effect.committed
      by_cases same : update.key = key
      · subst same
        cases replaced.symm.trans present
        rw [attempts_committed commit rfl]
        rfl
      · rw [attempts_other commit same]
        exact unchanged (others key (Ne.symm same))

theorem shown_step (sound : RateLimitSound calls t w) (step : RateLimitStep calls t w i e w')
    {snapshot : AuthRateLimitSnapshot}
    (read : observedState key (some snapshot) ∈ Trace.of j ((i, e) :: t)) :
    ∃ a ∈ calls.attempts key ((i, e) :: t), a.snapshot = snapshot := by
  obtain ⟨newer, extended⟩ := attempts_append calls key [(i, e)] t
  have older : (∃ a ∈ calls.attempts key t, a.snapshot = snapshot) →
      ∃ a ∈ calls.attempts key ((i, e) :: t), a.snapshot = snapshot := by
    rintro ⟨a, mem, same⟩
    refine ⟨a, ?_, same⟩
    rw [List.singleton_append] at extended
    rw [extended]
    exact List.mem_append_right newer mem
  rw [Trace.mem_of] at read
  rcases List.mem_cons.mp read with now | earlier
  · cases now
    have present := step.effect.observed rfl
    obtain ⟨newest, head, same⟩ := Option.map_eq_some_iff.mp (sound.stored present)
    exact older ⟨newest, List.mem_of_head? head, same⟩
  · exact older (sound.shown (Trace.mem_of.mpr earlier))

theorem revised_step (sound : RateLimitSound calls t w) (step : RateLimitStep calls t w i e w') :
    ((calls.attempts key ((i, e) :: t)).map (·.snapshot.revision)).Nodup := by
  cases commit : commitOf e with
  | none =>
      rw [attempts_uncommitted commit]
      exact sound.revised key
  | some update =>
      by_cases same : update.key = key
      · obtain ⟨current, now, plan⟩ := step.planned commit
        rw [attempts_committed commit same, List.map_cons, List.nodup_cons]
        refine ⟨fun mem => ?_, sound.revised key⟩
        obtain ⟨a, mem, same⟩ := List.mem_map.mp mem
        exact sound.revision_new plan.drawn mem same.symm
      · rw [attempts_other commit same]
        exact sound.revised key

theorem used_step (reached : RateLimitReachable calls ⟨t, w⟩) (sound : RateLimitSound calls t w)
    (step : RateLimitStep calls t w i e w') {e' : AuthEvent} {update : CommittedUpdate}
    (mem : (j, e') ∈ (i, e) :: t) (commit : commitOf e' = some update) :
    update.snapshot.revision ∈ w'.generated := by
  have later : update.snapshot.revision ∈ w.generated →
      update.snapshot.revision ∈ w'.generated := by
    intro old
    cases drawn : drawnUuid e with
    | none =>
        have same : w'.generated = w.generated := rateLimitUuids.keep step.effect drawn
        rw [same]
        exact old
    | some id =>
        have extended : w'.generated = id :: w.generated := (rateLimitUuids.draw step.effect drawn).2
        rw [extended]
        exact List.mem_cons_of_mem id old
  rcases List.mem_cons.mp mem with now | earlier
  · cases now
    obtain ⟨current, now, plan⟩ := step.planned commit
    have issued : w.generated = rateLimitUuids.names t := (rateLimitUuids.names_nodup reached).1
    apply later
    rw [issued]
    exact List.mem_filterMap.mpr
      ⟨_, Trace.mem_of.mp (List.mem_of_head? plan.drawn), rfl⟩
  · exact later (sound.used earlier commit)

theorem unused_step (reached : RateLimitReachable calls ⟨t, w⟩) (sound : RateLimitSound calls t w)
    (step : RateLimitStep calls t w i e w') {k : ι} {id : Uuid}
    (drawn : (Trace.of k ((i, e) :: t)).head? = some (drew id)) {e' : AuthEvent}
    {update : CommittedUpdate} (mem : (j, e') ∈ (i, e) :: t)
    (commit : commitOf e' = some update) : update.snapshot.revision ≠ id := by
  rintro rfl
  by_cases own : i = k
  · subst own
    rw [Trace.of_cons_self, List.head?_cons] at drawn
    cases drawn
    have new := (rateLimitUuids.draw step.effect rfl).1
    rcases List.mem_cons.mp mem with now | earlier
    · cases now
      cases commit
    · exact new (sound.used earlier commit)
  · rw [Trace.of_cons_ne own] at drawn
    rcases List.mem_cons.mp mem with now | earlier
    · cases now
      obtain ⟨current, now, plan⟩ := step.planned commit
      exact own (rateLimitUuids.once reached (List.mem_of_head? plan.drawn)
        (List.mem_of_head? drawn) rfl rfl)
    · exact sound.unused drawn earlier commit rfl

theorem step (reached : RateLimitReachable calls ⟨t, w⟩) (sound : RateLimitSound calls t w)
    (step : RateLimitStep calls t w i e w') : RateLimitSound calls ((i, e) :: t) w' where
  stored := sound.stored_step step
  shown := sound.shown_step step
  revised _ := sound.revised_step step
  used := sound.used_step reached step
  unused drawn _ _ _ := sound.unused_step reached step drawn

end RateLimitSound

theorem rateLimitSound_of_reachable {calls : RateLimitPool ι} {c : RateLimitConfig ι}
    (reached : RateLimitReachable calls c) : RateLimitSound calls c.trace c.state :=
  rateLimit_invariant
    { stored := nofun
      shown := nofun
      revised := fun _ => List.nodup_nil
      used := nofun
      unused := nofun }
    RateLimitSound.step reached

/-- What an attempt computed from `current`, the snapshot it replaced. -/
structure RateLimitAttempt.Computed (a : RateLimitAttempt) (key : AuthRateLimitKey)
    (current : Option AuthRateLimitSnapshot) (now : OffsetDateTime) : Prop where
  clock : a.clock = some now
  expected : a.expectedRevision = current.map (·.revision)
  computed : nextRateLimitState key (current.map (·.state)) a.policy now = .ok a.snapshot.state
  admitted : a.enforced = true → ∀ snapshot ∈ current,
    activeRateLimitError snapshot.state now = none

/-- Each attempt was computed from the one before it, or from absence. -/
inductive Lineage (key : AuthRateLimitKey) : List RateLimitAttempt → Prop where
  | nil : Lineage key []
  | opened {a : RateLimitAttempt} {older : List RateLimitAttempt} {now : OffsetDateTime}
      (computed : a.Computed key none now) (lineage : Lineage key older) :
      Lineage key (a :: older)
  | extended {a b : RateLimitAttempt} {older : List RateLimitAttempt} {now : OffsetDateTime}
      (computed : a.Computed key (some b.snapshot) now) (lineage : Lineage key (b :: older)) :
      Lineage key (a :: b :: older)

theorem Lineage.tail {key : AuthRateLimitKey} {a : RateLimitAttempt}
    {older : List RateLimitAttempt} (lineage : Lineage key (a :: older)) : Lineage key older := by
  cases lineage with
  | opened _ lineage => exact lineage
  | extended _ lineage => exact lineage

theorem Lineage.computed {key : AuthRateLimitKey} {a : RateLimitAttempt}
    {attempts : List RateLimitAttempt} (lineage : Lineage key attempts) (mem : a ∈ attempts) :
    ∃ current now, a.Computed key current now := by
  induction lineage with
  | nil => cases mem
  | opened computed _ ih =>
      rcases List.mem_cons.mp mem with rfl | mem
      · exact ⟨_, _, computed⟩
      · exact ih mem
  | extended computed _ ih =>
      rcases List.mem_cons.mp mem with rfl | mem
      · exact ⟨_, _, computed⟩
      · exact ih mem

section Lineages

variable {calls : RateLimitPool ι} {t : RateLimitTrace ι} {w w' : RateLimitWorld} {i : ι}
variable {e : AuthEvent} {key : AuthRateLimitKey}

/-- A commit was computed from what is stored, or from absence. -/
theorem RateLimitStep.computed (sound : RateLimitSound calls t w)
    (step : RateLimitStep calls t w i e w') {update : CommittedUpdate}
    (commit : commitOf e = some update) :
    ∃ current now, (calls.attempt t i update).Computed update.key current now ∧
      ∀ snapshot ∈ current, w.states update.key = some snapshot := by
  obtain ⟨current, now, plan⟩ := step.planned commit
  refine ⟨current, now, ⟨plan.clock, plan.expected, plan.computed, plan.admitted⟩, ?_⟩
  rintro snapshot rfl
  have effect := step.effect
  rw [eq_committedState commit] at effect
  obtain ⟨stored, present, same⟩ := effect.committed.1 _ plan.expected
  rw [present, sound.replaces_read present plan.read same]

theorem lineage_of_reachable {c : RateLimitConfig ι} (reached : RateLimitReachable calls c)
    (key : AuthRateLimitKey) : Lineage key (calls.attempts key c.trace) := by
  refine rateLimit_invariant (I := fun t _ => Lineage key (calls.attempts key t)) .nil ?_ reached
  intro t w w' i e reached lineage step
  cases commit : commitOf e with
  | none =>
      rw [attempts_uncommitted commit]
      exact lineage
  | some update =>
      by_cases same : update.key = key
      · subst same
        have sound := rateLimitSound_of_reachable reached
        obtain ⟨current, now, computed, present⟩ := step.computed sound commit
        rw [attempts_committed commit rfl]
        cases current with
        | none => exact .opened computed lineage
        | some snapshot =>
            obtain ⟨newest, head, rfl⟩ :=
              Option.map_eq_some_iff.mp (sound.stored (present snapshot rfl))
            obtain ⟨older, listed⟩ := List.head?_eq_some_iff.mp head
            rw [listed] at lineage ⊢
            exact .extended computed lineage
      · rw [attempts_other commit same]
        exact lineage

end Lineages

end AgqlAuth
