import AgqlAuth.PasswordWork.Results

/-!
# The pool drains

Each step of a thread lowers one measure, so the threads always come to rest; at
rest nothing is queued or running and every future is ready.  A poisoned lock
ends the pool without starting anything else.
-/

namespace AgqlAuth

open Interaction

/-- The steps of the threads, panics in `recv` aside. -/
def PoolAction.ofWorker {α : Type} : PoolAction α → Prop
  | .lock _ | .receive _ | .finish .. => True
  | _ => False

/-- The steps that take a job, and none that runs one. -/
def PoolAction.takes {α : Type} : PoolAction α → Prop
  | .lock _ | .receive _ => True
  | _ => False

namespace PasswordWorkPool

variable {α : Type}

/-- How many steps a thread has ahead before it takes a job again. -/
def weight : PasswordWorker → Nat
  | .stopped => 0
  | .receiving => 1
  | .between => 2
  | .running _ => 3

/-- What is left to do. -/
def work (self : PasswordWorkPool α) : Nat :=
  3 * self.queue.length + (self.workers.map weight).sum

theorem sum_weight_set {workers : List PasswordWorker} {worker : Nat} {old : PasswordWorker}
    (found : workers[worker]? = some old) (new : PasswordWorker) :
    ((workers.set worker new).map weight).sum + weight old =
      (workers.map weight).sum + weight new := by
  induction workers generalizing worker with
  | nil => simp at found
  | cons first workers ih =>
      cases worker with
      | zero =>
          obtain rfl : first = old := by simpa using found
          simp only [List.set_cons_zero, List.map_cons, List.sum_cons]
          omega
      | succ worker =>
          have tail := ih (by simpa using found)
          simp only [List.set_cons_succ, List.map_cons, List.sum_cons]
          omega

theorem sum_weight_le (workers : List PasswordWorker) :
    (workers.map weight).sum ≤ 3 * workers.length := by
  induction workers with
  | nil => simp
  | cons first workers ih =>
      have most : weight first ≤ 3 := by cases first <;> simp [weight]
      simp only [List.map_cons, List.sum_cons, List.length_cons]
      omega

/-- A thread that leaves has nothing ahead of it. -/
theorem sum_weight_of_leaves {self : PasswordWorkPool α} {worker : Nat} {poisoned : Bool}
    (leaves : self.Leaves worker poisoned) :
    ((self.workers.set worker .stopped).map weight).sum < (self.workers.map weight).sum := by
  obtain ⟨old, found, -, standing⟩ := leaves.found
  have ahead : 0 < weight old := by
    cases old with
    | stopped => exact absurd rfl standing
    | between | receiving | running => simp [weight]
  have exchanged := sum_weight_set found .stopped
  have none : weight .stopped = 0 := rfl
  omega

/-- What the threads report. -/
def PoolEvent.ofWorker : PoolEvent α → Prop
  | .locked _ | .started .. | .ended .. | .stopped .. => True
  | _ => False

theorem stop_ofWorker (self : PasswordWorkPool α) (worker : Nat) :
    PoolEvent.ofWorker (self.stop worker).1 := by
  unfold stop
  split <;> trivial

theorem ofWorker_of_step {self next : PasswordWorkPool α} {action : PoolAction α} {e : PoolEvent α}
    (allowed : action.ofWorker) (edge : (machine α).step self action = some (e, next)) :
    PoolEvent.ofWorker e := by
  cases action with
  | execute | poll | cancel | drop | panic => exact allowed.elim
  | lock worker =>
      change self.lock worker = _ at edge
      unfold PasswordWorkPool.lock at edge
      split at edge
      · split at edge
        · cases edge
        · split at edge
          · have event := stop_ofWorker self worker
            rw [Option.some.inj edge] at event
            exact event
          · cases edge
            trivial
      · cases edge
  | receive worker =>
      change self.receive worker = _ at edge
      unfold PasswordWorkPool.receive at edge
      split at edge
      · cases edge
        trivial
      · split at edge
        · cases edge
        · have event := stop_ofWorker self worker
          rw [Option.some.inj edge] at event
          exact event
      · cases edge
  | finish worker outcome =>
      change self.finish worker outcome = _ at edge
      unfold PasswordWorkPool.finish at edge
      split at edge
      · cases edge
        trivial
      · cases edge

/-- Every step of a thread leaves less to do. -/
theorem work_lt {self next : PasswordWorkPool α} {action : PoolAction α} {e : PoolEvent α}
    (allowed : action.ofWorker) (edge : (machine α).step self action = some (e, next)) :
    next.work < self.work := by
  have event := ofWorker_of_step allowed edge
  cases PoolStep.of_step edge with
  | accept | refuse | answer | cancel | drop => exact event.elim
  | lock found free sane =>
      have exchanged := sum_weight_set found .receiving
      simp only [weight] at exchanged
      simp only [work]
      omega
  | @start worker id queue found oldest =>
      have exchanged := sum_weight_set found (.running id)
      simp only [weight] at exchanged
      simp only [work, oldest, List.length_cons]
      omega
  | finish outcome found =>
      have exchanged := sum_weight_set found .between
      simp only [weight] at exchanged
      simp only [work]
      omega
  | leave leaves others =>
      have fewer := sum_weight_of_leaves leaves
      simp only [work]
      omega
  | leaveLast leaves last =>
      have fewer := sum_weight_of_leaves leaves
      simp only [work, List.length_nil]
      omega

/-- The threads have no step left. -/
abbrev AtRest (self : PasswordWorkPool α) : Prop := (machine α).Stuck PoolAction.ofWorker self

theorem AtRest.running_eq_nil {self : PasswordWorkPool α} (rest : AtRest self) :
    self.running = [] := by
  refine List.eq_nil_iff_forall_not_mem.mpr fun id mem => ?_
  obtain ⟨worker, found⟩ := List.mem_iff_getElem?.mp (mem_running.mp mem)
  have none : self.finish worker .panicked = none := rest (.finish worker .panicked) trivial
  simp [PasswordWorkPool.finish, found] at none

/-- A thread at rest waits for work that may still come. -/
theorem AtRest.receiving {self : PasswordWorkPool α} (rest : AtRest self) {worker : Nat}
    (found : self.workers[worker]? = some .receiving) :
    self.queue = [] ∧ self.senderAlive = true := by
  have none : self.receive worker = none := rest (.receive worker) trivial
  unfold PasswordWorkPool.receive at none
  rw [found] at none
  cases queue : self.queue with
  | nil =>
      simp only [queue] at none
      split at none
      · rename_i open_
        exact ⟨rfl, open_⟩
      · cases none
  | cons id queue' =>
      simp [queue] at none

/-- While a thread is in `recv` another one may be waiting for the lock. -/
theorem AtRest.between {self : PasswordWorkPool α} (rest : AtRest self) {worker : Nat}
    (found : self.workers[worker]? = some .between) : self.locked = true := by
  have none : self.lock worker = none := rest (.lock worker) trivial
  unfold PasswordWorkPool.lock at none
  rw [found] at none
  simp only at none
  split at none
  · assumption
  · split at none <;> cases none

/-- At rest some thread is in `recv`, unless all have left. -/
theorem AtRest.receiving_of_alive {self : PasswordWorkPool α} (rest : AtRest self)
    (alive : self.receiverAlive = true) : .receiving ∈ self.workers := by
  obtain ⟨thread, mem, standing⟩ := List.any_eq_true.mp alive
  obtain ⟨worker, found⟩ := List.mem_iff_getElem?.mp mem
  cases thread with
  | stopped => simp at standing
  | receiving => exact mem
  | running id =>
      have runs : id ∈ self.running := mem_running.mpr mem
      rw [rest.running_eq_nil] at runs
      cases runs
  | between =>
      obtain ⟨holder, held, is⟩ := List.any_eq_true.mp (rest.between found)
      rw [of_decide_eq_true is] at held
      exact held

theorem AtRest.queue_eq_nil {self : PasswordWorkPool α} {workers queuedJobs : Nat}
    (rest : AtRest self) (threads : Threads workers queuedJobs self) : self.queue = [] := by
  cases alive : self.receiverAlive with
  | false => exact threads.gone alive
  | true =>
      obtain ⟨worker, found⟩ := List.mem_iff_getElem?.mp (rest.receiving_of_alive alive)
      exact (rest.receiving found).1

/-- At rest a waiting future is ready. -/
theorem AtRest.ready {self : PasswordWorkPool α} {workers queuedJobs : Nat} {t : PoolTrace α}
    (rest : AtRest self) (kept : Kept workers queuedJobs t self) {id : Nat} {channel : Oneshot α}
    (found : self.calls[id]? = some ⟨.waiting, channel⟩) :
    ∃ result, channel.recv = some result ∧ ∃ next,
      (machine α).step self (.poll id) = some (.returned id result, next) := by
  have poll : ∀ result, channel.recv = some result →
      ∃ next, (machine α).step self (.poll id) = some (.returned id result, next) := by
    intro result ready
    refine ⟨{ self with calls := self.calls.set id ⟨.returned result, channel⟩ }, ?_⟩
    change self.poll id = _
    simp only [PasswordWorkPool.poll, found, ready, Option.map_some]
  cases channel with
  | empty =>
      have place : id ∈ self.queue ∨ id ∈ self.running := kept.answered.sound id _ found
      rw [rest.queue_eq_nil kept.threads, rest.running_eq_nil] at place
      rcases place with none | none <;> cases none
  | sent result => exact ⟨result, rfl, poll result rfl⟩
  | closed => exact ⟨_, rfl, poll _ rfl⟩

variable {workers queuedJobs : Nat} {spawned : Nat → Bool} {made pool last : PasswordWorkPool α}
variable {t late : PoolTrace α}

/--
Progress from every state of a pool, whatever the schedule.  The threads come to
rest after boundedly many steps; then nothing waits or runs, every future still
held is ready, and every accepted job has ended unless a fault discarded it, which
poisons the lock.
-/
theorem password_work_drains
    (built : withSpawner workers queuedJobs spawned = .ok made)
    (run : (machine α).Reaches made t pool) :
    (∃ (late : PoolTrace α) (last : PasswordWorkPool α),
      (machine α).Run PoolAction.ofWorker pool late last ∧ AtRest last) ∧
      ∀ (late : PoolTrace α) (last : PasswordWorkPool α), (machine α).Run PoolAction.ofWorker pool late last →
        late.length ≤ 3 * (pool.queue.length + workers) ∧
          (AtRest last → last.queue = [] ∧ last.running = [] ∧
            (∀ (id : Nat) (channel : Oneshot α), last.calls[id]? = some ⟨.waiting, channel⟩ →
              ∃ result, channel.recv = some result ∧ ∃ next,
                (machine α).step last (.poll id) = some (.returned id result, next)) ∧
            t.accepted.Perm
              (PoolTrace.ended (late ++ t) ++ PoolTrace.discarded (late ++ t)) ∧
            (PoolTrace.discarded (late ++ t) ≠ [] → last.poisoned = true)) := by
  refine ⟨Machine.Run.exists_stuck (M := machine α) (μ := work) work_lt pool, fun late last continued => ⟨?_, ?_⟩⟩
  · have few := continued.length_add_le (μ := work) work_lt
    have ahead := sum_weight_le pool.workers
    rw [(kept_of_reaches built run).threads.count] at ahead
    simp only [work] at few
    omega
  · intro rest
    have whole := run.append (continued.mono fun _ _ => trivial)
    have kept := kept_of_reaches built whole
    have queue := rest.queue_eq_nil kept.threads
    refine ⟨queue, rest.running_eq_nil, fun id channel found => rest.ready kept found, ?_,
      fun discarded => (kept.accounted.kept discarded).2⟩
    have taken : PoolTrace.accepted (late ++ t) = t.accepted := by
      refine continued.invariant
        (I := fun late _ => PoolTrace.accepted (late ++ t) = t.accepted) rfl ?_
      intro late s a e s' _ same permitted edge
      have event := ofWorker_of_step permitted edge
      rw [List.cons_append, PoolTrace.accepted_cons, same]
      cases e with
      | locked | started | ended | stopped => exact List.append_nil _
      | accepted | refused | returned | cancelled | dropped => exact event.elim
    have ran := kept.accounted.ran
    rw [rest.running_eq_nil, List.append_nil] at ran
    rw [← taken, kept.accounted.fifo, queue, List.append_nil]
    exact ran.append_right _

/-- Both jobs are queued before the only thread looks. -/
theorem password_work_drains_two :
    ∃ (t : PoolTrace Nat) (pool : PasswordWorkPool Nat),
      (machine Nat).exec onePool [.execute, .lock 0, .receive 0, .execute] = some (t, pool) ∧
        pool.queue = [1] ∧ pool.running = [0] ∧
          ∃ (late : PoolTrace Nat) (last : PasswordWorkPool Nat),
            (machine Nat).Run PoolAction.ofWorker pool late last ∧ AtRest last := by
  have ran : ((machine Nat).exec onePool [.execute, .lock 0, .receive 0, .execute]).map
      (fun run => (run.2.queue, run.2.running)) = some ([1], [0]) := rfl
  obtain ⟨⟨t, pool⟩, done, places⟩ := Option.map_eq_some_iff.mp ran
  have run : (machine Nat).Reaches onePool t pool := .of_exec _ (fun _ _ => trivial) done
  exact ⟨t, pool, done, congrArg Prod.fst places, congrArg Prod.snd places,
    (password_work_drains onePool_built run).1⟩

/-- If fewer jobs run than there are threads, one of the threads is free. -/
theorem exists_idle {workers : List PasswordWorker}
    (few : (workers.flatMap PasswordWorker.job).length < workers.length) :
    ∃ worker ∈ workers, worker.job = [] := by
  induction workers with
  | nil => simp at few
  | cons first workers ih =>
      cases job : first.job with
      | nil => exact ⟨first, List.mem_cons_self, job⟩
      | cons id rest =>
          simp only [List.flatMap_cons, List.length_append, job, List.length_cons] at few
          obtain ⟨worker, mem, idle⟩ := ih (by omega)
          exact ⟨worker, List.mem_cons_of_mem first mem, idle⟩

/-- The thread in `recv` takes the oldest job. -/
theorem receive_eq {self : PasswordWorkPool α} {worker id : Nat} {queue : List Nat}
    (found : self.workers[worker]? = some .receiving) (oldest : self.queue = id :: queue) :
    (machine α).step self (.receive worker) = some (.started worker id,
      { self with queue, workers := self.workers.set worker (.running id) }) := by
  simp only [PasswordWorkPool.receive, found, oldest]

/--
Running work never holds up the queue.  While a thread is free, threads that run
nothing start the oldest job, in two steps at most.
-/
theorem password_work_never_blocks
    (built : withSpawner workers queuedJobs spawned = .ok made)
    (run : (machine α).Reaches made t pool) (sane : pool.poisoned = false)
    {id : Nat} {queue : List Nat} (waiting : pool.queue = id :: queue)
    (free : pool.running.length < workers) :
    ∃ (late : PoolTrace α) (last : PasswordWorkPool α) (worker : Nat),
      (machine α).Run PoolAction.takes pool late last ∧ late.length ≤ 2 ∧
        late.head? = some (.started worker id) := by
  have threads := (kept_of_reaches built run).threads
  have standing : .stopped ∉ pool.workers := by
    intro stopped
    rcases threads.left stopped with poisoned | ⟨-, drained⟩
    · exact absurd (sane.symm.trans poisoned) (by decide)
    · exact absurd (waiting.symm.trans drained) (List.cons_ne_nil _ _)
  obtain ⟨thread, mem, idle⟩ := exists_idle (threads.count.symm ▸ free)
  by_cases locked : .receiving ∈ pool.workers
  · obtain ⟨worker, found⟩ := List.mem_iff_getElem?.mp locked
    have taken : (machine α).Run PoolAction.takes pool _ _ :=
      .one (M := machine α) (a := PoolAction.receive worker) trivial (receive_eq found waiting)
    exact ⟨_, _, worker, taken, Nat.le_succ 1, rfl⟩
  · obtain ⟨worker, found⟩ := List.mem_iff_getElem?.mp mem
    have between : thread = .between := by
      cases thread with
      | between => rfl
      | receiving => exact absurd mem locked
      | running => cases idle
      | stopped => exact absurd mem standing
    subst between
    have unlocked : pool.locked = false := by
      refine List.any_eq_false.mpr fun thread mem' same => locked ?_
      rw [← of_decide_eq_true same]
      exact mem'
    have lock : (machine α).step pool (.lock worker) = some (.locked worker,
        { pool with workers := pool.workers.set worker .receiving }) := by
      simp only [PasswordWorkPool.lock, found, unlocked, sane]
      rfl
    have here : worker < pool.workers.length := (List.getElem?_eq_some_iff.mp found).1
    have taken : (machine α).step { pool with workers := pool.workers.set worker .receiving }
        (.receive worker) = _ := receive_eq (List.getElem?_set_self here) waiting
    have first : (machine α).Run PoolAction.takes pool _ _ := .one (M := machine α) (a := PoolAction.lock worker) trivial lock
    exact ⟨_, _, worker, first.append (.one (M := machine α) (a := PoolAction.receive worker) trivial taken), le_rfl, rfl⟩

/-- A job starts while the other thread runs one. -/
theorem password_work_never_blocks_beside_running :
    ∃ (late : PoolTrace Nat) (last : PasswordWorkPool Nat) (worker : Nat),
      (machine Nat).Run PoolAction.takes
          { queuedJobs := 1, senderAlive := true, poisoned := false, queue := [1],
            workers := [.running 0, .between],
            calls := [⟨.waiting, .empty⟩, ⟨.waiting, .empty⟩] } late last ∧
        late.length ≤ 2 ∧ late.head? = some (.started worker 1) := by
  have built : withSpawner (α := Nat) 2 1 (fun _ => true) = .ok
      { queuedJobs := 1, senderAlive := true, poisoned := false, queue := [],
        workers := [.between, .between], calls := [] } := rfl
  exact password_work_never_blocks built
    (.of_exec (M := machine Nat) [.execute, .lock 0, .receive 0, .execute] (fun _ _ => trivial) rfl)
    rfl rfl (by decide)

theorem Leaves.poisoned {self : PasswordWorkPool α} {worker : Nat} {poisoned : Bool}
    (leaves : self.Leaves worker poisoned) (spoilt : self.poisoned = true) : poisoned = true := by
  cases leaves with
  | poisonedLock => rfl
  | closedQueue => exact spoilt
  | fault => rfl

/-- A poisoned lock stays poisoned, and lets nobody take a job. -/
theorem PoolStep.poisoned {self next : PasswordWorkPool α} {e : PoolEvent α}
    (edge : PoolStep self e next) (threads : Threads workers queuedJobs self)
    (spoilt : self.poisoned = true) : next.poisoned = true ∧ e.startedIds = [] := by
  cases edge with
  | accept | refuse | answer | cancel | drop | lock | finish => exact ⟨spoilt, rfl⟩
  | leave leaves others => exact ⟨leaves.poisoned spoilt, rfl⟩
  | leaveLast leaves last => exact ⟨leaves.poisoned spoilt, rfl⟩
  | start found oldest =>
      have none := List.countP_eq_zero.mp (threads.spoilt spoilt) _ (List.mem_of_getElem? found)
      simp at none

/--
After a panic under the queue lock the pool fails closed.  No job starts any more;
once the threads have come to rest none is left, every future still held is ready
and every new call is refused.
-/
theorem password_work_fails_closed
    (built : withSpawner workers queuedJobs spawned = .ok made)
    (run : (machine α).Reaches made t pool) (spoilt : pool.poisoned = true)
    (continued : (machine α).Reaches pool late last) :
    late.started = [] ∧
      (AtRest last → (∀ worker ∈ last.workers, worker = .stopped) ∧
        (∀ (id : Nat) (channel : Oneshot α), last.calls[id]? = some ⟨.waiting, channel⟩ →
          channel.recv.isSome = true) ∧
        (last.senderAlive = true → ∃ next,
          (machine α).step last .execute = some (.refused last.calls.length, next))) := by
  have later : last.poisoned = true ∧ late.started = [] := by
    refine continued.invariant
      (I := fun (late : PoolTrace α) (s : PasswordWorkPool α) =>
        s.poisoned = true ∧ late.started = []) ⟨spoilt, rfl⟩ ?_
    intro late s a e s' before holds _ edge
    have threads := (kept_of_reaches built (run.append before)).threads
    obtain ⟨still, none⟩ := (PoolStep.of_step edge).poisoned threads holds.1
    refine ⟨still, ?_⟩
    rw [PoolTrace.started_cons, holds.2, none, List.append_nil]
  refine ⟨later.2, fun rest => ?_⟩
  have kept := kept_of_reaches built (run.append continued)
  have dead : last.receiverAlive = false := by
    by_contra alive
    have holder := rest.receiving_of_alive (by simpa using alive)
    have none := List.countP_eq_zero.mp (kept.threads.spoilt later.1) _ holder
    simp at none
  refine ⟨receiverAlive_eq_false_iff.mp dead, fun id channel found => ?_, fun open_ => ?_⟩
  · obtain ⟨result, ready, -⟩ := rest.ready kept found
    rw [ready]
    rfl
  · refine ⟨{ last with
      calls := last.calls ++ [⟨.returned (.error .authServiceUnavailable), .closed⟩] }, ?_⟩
    simp [PasswordWorkPool.execute, open_, dead]

/-- The thread dies in `recv` with one job queued, which is discarded. -/
theorem password_work_fails_closed_after_panic :
    ∃ (t : PoolTrace Nat) (pool : PasswordWorkPool Nat),
      (machine Nat).exec onePool [.lock 0, .execute, .panic 0] = some (t, pool) ∧
        t.discarded = [0] ∧ ∀ (late : PoolTrace Nat) (last : PasswordWorkPool Nat),
          (machine Nat).Reaches pool late last → late.started = [] := by
  have ran : ((machine Nat).exec onePool [.lock 0, .execute, .panic 0]).map
      (fun run => (PoolTrace.discarded run.1, run.2.poisoned)) = some ([0], true) := rfl
  obtain ⟨⟨t, pool⟩, done, lost⟩ := Option.map_eq_some_iff.mp ran
  have run : (machine Nat).Reaches onePool t pool := .of_exec _ (fun _ _ => trivial) done
  refine ⟨t, pool, done, congrArg Prod.fst lost, fun late last continued => ?_⟩
  exact (password_work_fails_closed onePool_built run (congrArg Prod.snd lost) continued).1

end PasswordWorkPool

end AgqlAuth
