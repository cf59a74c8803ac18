import AgqlAuth.PasswordWork.Accounting

/-!
# What the callers get

A call returns the outcome of its own job, once.  It is answered unavailable
instead when the queue did not take the job, or lost it to a fault.
-/

namespace AgqlAuth

open Interaction

namespace PasswordWorkPool

variable {α : Type}

/-- A worker ran the job of this call to this result. -/
def Ran (t : PoolTrace α) (id : Nat) (result : AuthResult α) : Prop :=
  ∃ worker outcome, .ended worker id outcome ∈ t ∧ outcome.result = result

/-- What a call may return: its own result, or that its job was discarded. -/
def Earned (t : PoolTrace α) (id : Nat) (result : AuthResult α) : Prop :=
  Ran t id result ∨ id ∈ t.discarded ∧ result = .error .authServiceUnavailable

/-- The channel of a waiting call tells where its job is. -/
def CallSound (t : PoolTrace α) (pool : PasswordWorkPool α) (id : Nat) : PasswordCall α → Prop
  | ⟨.waiting, .empty⟩ => id ∈ pool.queue ∨ id ∈ pool.running
  | ⟨.waiting, .sent result⟩ => Ran t id result
  | ⟨.waiting, .closed⟩ => id ∈ t.discarded
  | _ => True

theorem Ran.later {t : PoolTrace α} {id : Nat} {result : AuthResult α} (ran : Ran t id result)
    (e : PoolEvent α) : Ran (e :: t) id result := by
  obtain ⟨worker, outcome, mem, same⟩ := ran
  exact ⟨worker, outcome, List.mem_cons_of_mem e mem, same⟩

theorem Earned.later {t : PoolTrace α} {id : Nat} {result : AuthResult α}
    (earned : Earned t id result) (e : PoolEvent α) : Earned (e :: t) id result := by
  rcases earned with ran | ⟨lost, same⟩
  · exact .inl (ran.later e)
  · exact .inr ⟨by simp [lost], same⟩

/-- A call whose job stays in the pool. -/
theorem CallSound.later {t : PoolTrace α} {pool next : PasswordWorkPool α} {id : Nat}
    {call : PasswordCall α} (sound : CallSound t pool id call) (e : PoolEvent α)
    (stays : id ∈ pool.queue ∨ id ∈ pool.running → id ∈ next.queue ∨ id ∈ next.running) :
    CallSound (e :: t) next id call := by
  rcases call with ⟨_ | _ | _, _ | _ | _⟩
  case waiting.empty => exact stays sound
  case waiting.sent result => exact Ran.later sound e
  case waiting.closed =>
    have lost : id ∈ t.discarded := sound
    change id ∈ PoolTrace.discarded (e :: t)
    simp [lost]
  all_goals trivial

/-- What a ready channel holds was earned. -/
theorem CallSound.earned {t : PoolTrace α} {pool : PasswordWorkPool α} {id : Nat}
    {channel : Oneshot α} {result : AuthResult α}
    (sound : CallSound t pool id ⟨.waiting, channel⟩) (ready : channel.recv = some result) :
    Earned t id result := by
  cases channel with
  | empty => cases ready
  | sent own =>
      cases ready
      exact .inl sound
  | closed =>
      cases ready
      exact .inr ⟨sound, rfl⟩

/-- Every call is answered with what it earned, and once. -/
structure Answered (t : PoolTrace α) (pool : PasswordWorkPool α) : Prop where
  sound : ∀ id call, pool.calls[id]? = some call → CallSound t pool id call
  own : ∀ id result, .returned id result ∈ t → Earned t id result
  once : t.answered.Nodup
  settled : ∀ id ∈ t.answered, ∃ result channel, pool.calls[id]? = some ⟨.returned result, channel⟩

/-- A future that returned is not polled again. -/
theorem Answered.silent {t : PoolTrace α} {pool next : PasswordWorkPool α} {e : PoolEvent α}
    (answered : Answered t pool) (quiet : e.answeredIds = [])
    (sound : ∀ id call, next.calls[id]? = some call → CallSound (e :: t) next id call)
    (kept : ∀ (id : Nat) (result : AuthResult α) (channel : Oneshot α),
      pool.calls[id]? = some ⟨.returned result, channel⟩ →
        next.calls[id]? = some ⟨.returned result, channel⟩) : Answered (e :: t) next := by
  constructor
  case sound => exact sound
  case own =>
    intro id result mem
    rcases List.mem_cons.mp mem with same | mem
    · subst same
      cases quiet
    · exact (answered.own id result mem).later e
  case once =>
    rw [PoolTrace.answered_cons, quiet, List.append_nil]
    exact answered.once
  case settled =>
    intro id mem
    rw [PoolTrace.answered_cons, quiet, List.append_nil] at mem
    obtain ⟨result, channel, found⟩ := answered.settled id mem
    exact ⟨result, channel, kept id result channel found⟩

/-- A call of the step before, whose job is still where it was. -/
theorem Answered.carried {t : PoolTrace α} {pool next : PasswordWorkPool α}
    (answered : Answered t pool) (e : PoolEvent α) {id : Nat} {call : PasswordCall α}
    (stays : id ∈ pool.queue ∨ id ∈ pool.running → id ∈ next.queue ∨ id ∈ next.running)
    (found : pool.calls[id]? = some call) : CallSound (e :: t) next id call :=
  (answered.sound id call found).later e stays

/-- The last call is the one that was added. -/
theorem getElem?_append_call {calls : List (PasswordCall α)} {new call : PasswordCall α} {id : Nat}
    (found : (calls ++ [new])[id]? = some call) :
    calls[id]? = some call ∨ id = calls.length ∧ call = new := by
  rcases Nat.lt_or_ge id calls.length with old | late
  · rw [List.getElem?_append_left old] at found
    exact .inl found
  · rw [List.getElem?_append_right late] at found
    obtain ⟨here, same⟩ := List.getElem?_eq_some_iff.mp found
    rw [List.length_singleton] at here
    have last : id = calls.length := by omega
    subst last
    exact .inr ⟨rfl, by simpa using same.symm⟩

/-- A call that was added leaves the others in place. -/
theorem getElem?_append_old {calls : List (PasswordCall α)} {new call : PasswordCall α} {id : Nat}
    (found : calls[id]? = some call) : (calls ++ [new])[id]? = some call := by
  rw [List.getElem?_append_left (List.getElem?_eq_some_iff.mp found).1]
  exact found

/-- The call that was overwritten, or one of the others. -/
theorem getElem?_set_call {calls : List (PasswordCall α)} {new call : PasswordCall α} {id other : Nat}
    (found : (calls.set id new)[other]? = some call) :
    other = id ∧ call = new ∨ other ≠ id ∧ calls[other]? = some call := by
  by_cases same : other = id
  · subst same
    obtain ⟨here, value⟩ := List.getElem?_eq_some_iff.mp found
    exact .inl ⟨rfl, by simpa using value.symm⟩
  · rw [List.getElem?_set_ne (Ne.symm same)] at found
    exact .inr ⟨same, found⟩

theorem getElem?_modify_call {calls : List (PasswordCall α)} {call : PasswordCall α} {id other : Nat}
    {change : PasswordCall α → PasswordCall α} (found : (calls.modify id change)[other]? = some call) :
    ∃ before, calls[other]? = some before ∧ call = if id = other then change before else before := by
  rw [List.getElem?_modify] at found
  obtain ⟨before, old, same⟩ := Option.map_eq_some_iff.mp found
  exact ⟨before, old, same.symm⟩

/-- The result of a job reaches its call, if somebody still waits. -/
theorem CallSound.send {t : PoolTrace α} {pool : PasswordWorkPool α} {id : Nat}
    {result : AuthResult α} (ran : Ran t id result) (call : PasswordCall α) :
    CallSound t pool id (call.send result) := by
  rcases call with ⟨_ | _ | _, _⟩
  · exact ran
  · trivial
  · trivial

/-- A dropped job closes the channel of its call. -/
theorem CallSound.dropSender {t : PoolTrace α} {pool : PasswordWorkPool α} {id : Nat}
    (lost : id ∈ t.discarded) (call : PasswordCall α) :
    CallSound t pool id call.dropSender := by
  rcases call with ⟨_ | _ | _, _⟩
  · exact lost
  · trivial
  · trivial

theorem Answered.step {t : PoolTrace α} {pool next : PasswordWorkPool α} {e : PoolEvent α}
    (answered : Answered t pool) (edge : PoolStep pool e next) : Answered (e :: t) next := by
  cases edge with
  | accept open_ alive free =>
      refine answered.silent rfl ?_ fun id result channel found => getElem?_append_old found
      intro id call found
      rcases getElem?_append_call found with old | ⟨rfl, rfl⟩
      · refine answered.carried _ (fun place => ?_) old
        exact place.imp_left fun queued => List.mem_append_left _ queued
      · exact .inl (List.mem_append_right _ List.mem_cons_self)
  | refuse full =>
      refine answered.silent rfl ?_ fun id result channel found => getElem?_append_old found
      intro id call found
      rcases getElem?_append_call found with old | ⟨rfl, rfl⟩
      · exact answered.carried _ (fun place => place) old
      · trivial
  | @answer id channel result found ready =>
      have earned := (answered.sound id _ found).earned ready
      constructor
      case sound =>
        intro other call found'
        rcases getElem?_set_call found' with ⟨-, rfl⟩ | ⟨-, old⟩
        · trivial
        · exact answered.carried _ (fun place => place) old
      case own =>
        intro other value mem
        rcases List.mem_cons.mp mem with same | mem
        · cases same
          exact earned.later _
        · exact (answered.own other value mem).later _
      case once =>
        refine List.nodup_append.mpr ⟨answered.once, List.nodup_singleton id, ?_⟩
        intro other mem other' mem' same
        obtain rfl := List.mem_singleton.mp mem'
        subst same
        obtain ⟨value, channel', settled⟩ := answered.settled other mem
        rw [found] at settled
        cases settled
      case settled =>
        intro other mem
        have here : id < pool.calls.length := (List.getElem?_eq_some_iff.mp found).1
        by_cases same : other = id
        · subst same
          exact ⟨result, channel, List.getElem?_set_self here⟩
        · have before : other ∈ t.answered := by
            rcases List.mem_append.mp mem with mem | mem
            · exact mem
            · exact absurd (List.mem_singleton.mp mem) same
          obtain ⟨value, channel', settled⟩ := answered.settled other before
          exact ⟨value, channel', (List.getElem?_set_ne (Ne.symm same)).trans settled⟩
  | @cancel id channel found =>
      refine answered.silent rfl ?_ ?_
      · intro other call found'
        rcases getElem?_set_call found' with ⟨-, rfl⟩ | ⟨-, old⟩
        · trivial
        · exact answered.carried _ (fun place => place) old
      · intro other result channel' settled
        by_cases same : other = id
        · subst same
          rw [found] at settled
          cases settled
        · exact (List.getElem?_set_ne (Ne.symm same)).trans settled
  | drop idle =>
      exact answered.silent rfl
        (fun id call found => answered.carried _ (fun place => place) found)
        fun id result channel found => found
  | @lock worker found free sane =>
      refine answered.silent rfl (fun id call found' => ?_) fun id result channel found => found
      refine answered.carried _ (fun place => place.imp_right fun runs => ?_) found'
      exact (running_perm_of_idle found rfl rfl).mem_iff.mpr runs
  | @start worker id queue found oldest =>
      refine answered.silent rfl (fun other call found' => ?_) fun id result channel found => found
      refine answered.carried _ (fun place => ?_) found'
      have exchanged := running_set found (.running id)
      simp only [PasswordWorker.job, List.append_nil] at exchanged
      rw [oldest] at place
      rcases place with queued | runs
      · rcases List.mem_cons.mp queued with rfl | queued
        · exact .inr (exchanged.mem_iff.mpr (List.mem_append_right _ List.mem_cons_self))
        · exact .inl queued
      · exact .inr (exchanged.mem_iff.mpr (List.mem_append_left _ runs))
  | @finish worker id outcome found =>
      have exchanged := running_set found .between
      simp only [PasswordWorker.job, List.append_nil] at exchanged
      have ran : Ran (.ended worker id outcome :: t) id outcome.result :=
        ⟨worker, outcome, List.mem_cons_self, rfl⟩
      refine answered.silent rfl (fun other call found' => ?_) fun other result channel settled => ?_
      · obtain ⟨before, old, rfl⟩ := getElem?_modify_call found'
        by_cases same : id = other
        · subst same
          rw [if_pos rfl]
          exact CallSound.send ran before
        · rw [if_neg same]
          refine answered.carried _ (fun place => place.imp_right fun runs => ?_) old
          rcases List.mem_append.mp (exchanged.mem_iff.mpr runs) with still | gone
          · exact still
          · exact absurd (List.mem_singleton.mp gone).symm same
      · rw [List.getElem?_modify, settled]
        by_cases same : id = other
        · simp [same, PasswordCall.send]
        · simp [same]
  | leave leaves others =>
      obtain ⟨old, found, idle, -⟩ := leaves.found
      refine answered.silent rfl (fun id call found' => ?_) fun id result channel found => found
      refine answered.carried _ (fun place => place.imp_right fun runs => ?_) found'
      exact (running_perm_of_idle found idle rfl).mem_iff.mpr runs
  | @leaveLast worker poisoned leaves last =>
      obtain ⟨old, found, idle, -⟩ := leaves.found
      refine answered.silent rfl (fun other call found' => ?_) fun other result channel settled => ?_
      · rw [List.getElem?_mapIdx] at found'
        obtain ⟨before, was, same⟩ := Option.map_eq_some_iff.mp found'
        subst same
        by_cases queued : other ∈ pool.queue
        · rw [if_pos queued]
          exact CallSound.dropSender (List.mem_append_right _ queued) before
        · rw [if_neg queued]
          refine answered.carried _ (fun place => ?_) was
          refine .inr ((running_perm_of_idle found idle rfl).mem_iff.mpr ?_)
          exact place.resolve_left queued
      · rw [List.getElem?_mapIdx, settled]
        by_cases queued : other ∈ pool.queue
        · simp [queued, PasswordCall.dropSender]
        · simp [queued]

variable {workers queuedJobs : Nat} {spawned : Nat → Bool} {made pool : PasswordWorkPool α}
variable {t : PoolTrace α}

theorem withSpawner_eq_ok (built : withSpawner workers queuedJobs spawned = .ok made) :
    0 < workers ∧ 0 < queuedJobs ∧ made =
      { queuedJobs, senderAlive := true, poisoned := false, queue := [],
        workers := List.replicate workers .between, calls := [] } := by
  unfold withSpawner at built
  split at built
  · cases built
  · rename_i sized
    obtain ⟨some, room⟩ := not_or.mp sized
    split at built
    · cases built
      exact ⟨Nat.pos_of_ne_zero some, Nat.pos_of_ne_zero room, rfl⟩
    · cases built

theorem Accounted.start (built : withSpawner workers queuedJobs spawned = .ok made) :
    Accounted [] made := by
  obtain ⟨-, -, rfl⟩ := withSpawner_eq_ok built
  have idle : (List.replicate workers PasswordWorker.between).flatMap PasswordWorker.job = [] := by
    simp [PasswordWorker.job]
  refine ⟨rfl, ?_, .refl _, Nat.zero_le _, fun some => absurd rfl some⟩
  change List.Perm [] ([] ++ List.flatMap _ _)
  rw [idle]
  exact .refl _

theorem Threads.start (built : withSpawner workers queuedJobs spawned = .ok made) :
    Threads workers queuedJobs made := by
  obtain ⟨some, -, rfl⟩ := withSpawner_eq_ok built
  have free : holders (List.replicate workers PasswordWorker.between) = 0 := by
    simp [holders, List.countP_replicate]
  refine ⟨List.length_replicate, rfl, free.le.trans (Nat.zero_le 1), fun _ => free, ?_, fun _ => rfl⟩
  intro stopped
  cases List.eq_of_mem_replicate stopped

theorem Answered.start (built : withSpawner workers queuedJobs spawned = .ok made) :
    Answered [] made := by
  obtain ⟨-, -, rfl⟩ := withSpawner_eq_ok built
  exact ⟨nofun, nofun, List.nodup_nil, nofun⟩

/-- What holds of a pool in every state of its life. -/
structure Kept (workers queuedJobs : Nat) (t : PoolTrace α) (pool : PasswordWorkPool α) : Prop where
  accounted : Accounted t pool
  threads : Threads workers queuedJobs pool
  answered : Answered t pool

theorem kept_of_reaches (built : withSpawner workers queuedJobs spawned = .ok made)
    (run : (machine α).Reaches made t pool) : Kept workers queuedJobs t pool := by
  refine run.invariant (I := Kept workers queuedJobs)
    ⟨.start built, .start built, .start built⟩ ?_
  intro t s a e s' _ kept _ edge
  have edge := PoolStep.of_step edge
  exact ⟨kept.accounted.step edge, kept.threads.step edge, kept.answered.step edge⟩

theorem Kept.nodup_calls (kept : Kept workers queuedJobs t pool) :
    (t.accepted ++ t.refused).Nodup :=
  kept.accounted.numbered.nodup_iff.mpr List.nodup_range

/-- Every started job was accepted. -/
theorem Kept.started_sublist (kept : Kept workers queuedJobs t pool) :
    t.started.Sublist t.accepted := by
  rw [kept.accounted.fifo]
  exact List.sublist_append_left _ _

theorem Kept.nodup_ended (kept : Kept workers queuedJobs t pool) : t.ended.Nodup := by
  have accepted := (List.nodup_append.mp kept.nodup_calls).1
  have started := kept.started_sublist.nodup accepted
  exact (List.nodup_append.mp (kept.accounted.ran.nodup_iff.mp started)).1

/-- A job has one result. -/
theorem Kept.ran_unique (kept : Kept workers queuedJobs t pool) {id : Nat}
    {result result' : AuthResult α} (ran : Ran t id result) (ran' : Ran t id result') :
    result = result' := by
  obtain ⟨worker, outcome, mem, rfl⟩ := ran
  obtain ⟨worker', outcome', mem', rfl⟩ := ran'
  have same := Machine.eq_of_nodup_collect kept.nodup_ended mem mem'
    (List.mem_singleton_self id) (List.mem_singleton_self id)
  cases same
  rfl

/--
Admission over every run of a pool.  At most `workers` jobs run and `queuedJobs`
wait; jobs start in the order they were accepted, each once, and only a fault
loses one.  Dropping a future frees no place.
-/
theorem password_work_admission
    (built : withSpawner workers queuedJobs spawned = .ok made)
    (run : (machine α).Reaches made t pool) :
    pool.running.length ≤ workers ∧ pool.queue.length ≤ queuedJobs ∧
      t.accepted = t.started ++ (t.discarded ++ pool.queue) ∧
      t.started.Perm (t.ended ++ pool.running) ∧
      (t.accepted ++ t.refused).Nodup ∧
      t.accepted.length ≤ t.ended.length + t.discarded.length + workers + queuedJobs ∧
      (t.discarded ≠ [] → pool.poisoned = true) := by
  have kept := kept_of_reaches built run
  have few : pool.running.length ≤ workers := kept.threads.count ▸ pool.length_running_le
  have short : pool.queue.length ≤ queuedJobs := kept.threads.bound ▸ kept.accounted.room
  refine ⟨few, short, kept.accounted.fifo, kept.accounted.ran, kept.nodup_calls, ?_,
    fun lost => (kept.accounted.kept lost).2⟩
  have accepted := congrArg List.length kept.accounted.fifo
  have started := kept.accounted.ran.length_eq
  simp only [List.length_append] at accepted started
  omega

/-- One thread and one place in the queue. -/
def onePool : PasswordWorkPool Nat where
  queuedJobs := 1
  senderAlive := true
  poisoned := false
  queue := []
  workers := [.between]
  calls := []

theorem onePool_built : withSpawner 1 1 (fun _ => true) = .ok onePool := rfl

/-- Both futures are dropped, and a third call still finds the pool full. -/
def cancelledSchedule : List (PoolAction Nat) :=
  [.execute, .lock 0, .receive 0, .cancel 0, .execute, .cancel 1, .execute]

/-- The job of a dropped future is charged until it ends. -/
theorem password_work_admission_of_cancelled :
    ∃ (t : PoolTrace Nat) (pool : PasswordWorkPool Nat),
      (machine Nat).exec onePool cancelledSchedule = some (t, pool) ∧ t.refused = [2] ∧
        t.accepted.length ≤ t.ended.length + t.discarded.length + 1 + 1 := by
  have ran : ((machine Nat).exec onePool cancelledSchedule).map
      (fun run => PoolTrace.refused run.1) = some [2] := rfl
  obtain ⟨⟨t, pool⟩, done, refused⟩ := Option.map_eq_some_iff.mp ran
  have run : (machine Nat).Reaches onePool t pool := .of_exec _ (fun _ _ => trivial) done
  exact ⟨t, pool, done, refused,
    (password_work_admission onePool_built run).2.2.2.2.2.1⟩

/--
Answers over every run of a pool.  A call is answered once, with the outcome of
its own job; only a fault that discarded the job makes it unavailable.  A refused
job never starts.
-/
theorem password_work_answers
    (built : withSpawner workers queuedJobs spawned = .ok made)
    (run : (machine α).Reaches made t pool) :
    (∀ id result, .returned id result ∈ t →
      (∀ result', Ran t id result' → result = result') ∧
        (Ran t id result ∨ id ∈ t.discarded ∧ pool.poisoned = true ∧
          result = .error .authServiceUnavailable)) ∧
      t.answered.Nodup ∧
      ∀ id ∈ t.refused, id ∉ t.started ∧ id ∉ t.answered := by
  have kept := kept_of_reaches built run
  obtain ⟨-, -, apart⟩ := List.nodup_append.mp kept.nodup_calls
  have ran_started : ∀ id result, Ran t id result → id ∈ t.started := by
    rintro id result ⟨worker, outcome, mem, -⟩
    refine kept.accounted.ran.mem_iff.mpr (List.mem_append_left _ ?_)
    exact Machine.mem_collect.mpr ⟨_, mem, List.mem_singleton_self id⟩
  have lost_unstarted : ∀ id ∈ t.discarded, id ∉ t.started := by
    intro id lost started
    have accepted := (List.nodup_append.mp kept.nodup_calls).1
    rw [kept.accounted.fifo] at accepted
    obtain ⟨-, -, disjoint⟩ := List.nodup_append.mp accepted
    exact disjoint id started id (List.mem_append_left _ lost) rfl
  refine ⟨fun id result mem => ?_, kept.answered.once, fun id refused => ⟨?_, ?_⟩⟩
  · rcases kept.answered.own id result mem with ran | ⟨lost, same⟩
    · exact ⟨fun result' ran' => kept.ran_unique ran ran', .inl ran⟩
    · refine ⟨fun result' ran' => absurd (ran_started id result' ran') (lost_unstarted id lost), ?_⟩
      exact .inr ⟨lost, (kept.accounted.kept (List.ne_nil_of_mem lost)).2, same⟩
  · exact fun started => apart id (kept.started_sublist.subset started) id refused rfl
  · intro answered
    obtain ⟨e, mem, here⟩ := Machine.mem_collect.mp answered
    cases e with
    | returned other result =>
        obtain rfl := List.mem_singleton.mp here
        have accepted : id ∈ t.accepted := by
          rcases kept.answered.own id result mem with ran | ⟨lost, -⟩
          · exact kept.started_sublist.subset (ran_started id result ran)
          · rw [kept.accounted.fifo]
            exact List.mem_append_right _ (List.mem_append_left _ lost)
        exact apart id accepted id refused rfl
    | accepted | refused | cancelled | dropped | locked | started | ended | stopped => cases here

/-- The first job panics, and the thread runs the second one. -/
def panicSchedule : List (PoolAction Nat) :=
  [.execute, .lock 0, .receive 0, .finish 0 .panicked, .poll 0,
    .execute, .lock 0, .receive 0, .finish 0 (.finished (.ok 7)), .poll 1]

theorem password_work_answers_after_panic :
    ∃ (t : PoolTrace Nat) (pool : PasswordWorkPool Nat),
      (machine Nat).exec onePool panicSchedule = some (t, pool) ∧ t.answered = [0, 1] ∧
        t.answered.Nodup := by
  have ran : ((machine Nat).exec onePool panicSchedule).map
      (fun run => PoolTrace.answered run.1) = some [0, 1] := rfl
  obtain ⟨⟨t, pool⟩, done, answered⟩ := Option.map_eq_some_iff.mp ran
  have run : (machine Nat).Reaches onePool t pool := .of_exec _ (fun _ _ => trivial) done
  exact ⟨t, pool, done, answered,
    (password_work_answers onePool_built run).2.1⟩

end PasswordWorkPool

end AgqlAuth
