import AgqlAuth.PasswordWork.Pool
import Mathlib.Data.List.Range
import Mathlib.Data.List.Nodup

/-!
# What the pool owes

Every accepted job is queued, running, ended or, after a fault, discarded; it is
in one of these places only, and jobs start in the order of their acceptance.
-/

namespace AgqlAuth

open Interaction

abbrev PoolTrace (α : Type) := List (PoolEvent α)

namespace PoolEvent

variable {α : Type}

@[simp]
def acceptedIds : PoolEvent α → List Nat
  | .accepted id => [id]
  | _ => []

@[simp]
def refusedIds : PoolEvent α → List Nat
  | .refused id => [id]
  | _ => []

@[simp]
def startedIds : PoolEvent α → List Nat
  | .started _ id => [id]
  | _ => []

@[simp]
def endedIds : PoolEvent α → List Nat
  | .ended _ id _ => [id]
  | _ => []

@[simp]
def discardedIds : PoolEvent α → List Nat
  | .stopped _ discarded => discarded
  | _ => []

@[simp]
def answeredIds : PoolEvent α → List Nat
  | .returned id _ => [id]
  | _ => []

end PoolEvent

namespace PoolTrace

variable {α : Type}

/-- The jobs the queue took, in order. -/
def accepted (t : PoolTrace α) : List Nat := Machine.collect PoolEvent.acceptedIds t

def refused (t : PoolTrace α) : List Nat := Machine.collect PoolEvent.refusedIds t

def started (t : PoolTrace α) : List Nat := Machine.collect PoolEvent.startedIds t

def ended (t : PoolTrace α) : List Nat := Machine.collect PoolEvent.endedIds t

def discarded (t : PoolTrace α) : List Nat := Machine.collect PoolEvent.discardedIds t

/-- The calls whose future returned a result. -/
def answered (t : PoolTrace α) : List Nat := Machine.collect PoolEvent.answeredIds t

variable {t : PoolTrace α} {e : PoolEvent α}

@[simp]
theorem accepted_cons : accepted (e :: t) = accepted t ++ e.acceptedIds := rfl

@[simp]
theorem refused_cons : refused (e :: t) = refused t ++ e.refusedIds := rfl

@[simp]
theorem started_cons : started (e :: t) = started t ++ e.startedIds := rfl

@[simp]
theorem ended_cons : ended (e :: t) = ended t ++ e.endedIds := rfl

@[simp]
theorem discarded_cons : discarded (e :: t) = discarded t ++ e.discardedIds := rfl

@[simp]
theorem answered_cons : answered (e :: t) = answered t ++ e.answeredIds := rfl

end PoolTrace

/-- Overwriting one entry exchanges its part. -/
theorem flatMap_set_perm {β γ : Type} (f : β → List γ) {l : List β} {i : Nat} {old : β}
    (found : l[i]? = some old) (new : β) :
    ((l.set i new).flatMap f ++ f old).Perm (l.flatMap f ++ f new) := by
  induction l generalizing i with
  | nil => simp at found
  | cons b l ih =>
      cases i with
      | zero =>
          obtain rfl : b = old := by simpa using found
          simp only [List.set_cons_zero, List.flatMap_cons, List.append_assoc]
          refine (List.perm_append_comm.append_left (f new)).trans ?_
          rw [← List.append_assoc (f b)]
          exact List.perm_append_comm
      | succ i =>
          simp only [List.set_cons_succ, List.flatMap_cons, List.append_assoc]
          exact (ih (by simpa using found)).append_left (f b)

theorem countP_set_add {β : Type} {P : β → Bool} {l : List β} {i : Nat} {old : β}
    (found : l[i]? = some old) (new : β) :
    (l.set i new).countP P + (if P old then 1 else 0) =
      l.countP P + (if P new then 1 else 0) := by
  induction l generalizing i with
  | nil => simp at found
  | cons b l ih =>
      cases i with
      | zero =>
          obtain rfl : b = old := by simpa using found
          simp only [List.set_cons_zero, List.countP_cons]
          omega
      | succ i =>
          have tail := ih (by simpa using found)
          simp only [List.set_cons_succ, List.countP_cons]
          omega

namespace PasswordWorkPool

variable {α : Type}

/-- How many of the workers hold the queue lock. -/
def holders (workers : List PasswordWorker) : Nat := workers.countP (· = .receiving)

theorem locked_eq_false_iff {self : PasswordWorkPool α} :
    self.locked = false ↔ holders self.workers = 0 := by
  simp [locked, holders, List.countP_eq_zero]

theorem receiverAlive_eq_false_iff {self : PasswordWorkPool α} :
    self.receiverAlive = false ↔ ∀ worker ∈ self.workers, worker = .stopped := by
  simp [receiverAlive]

theorem mem_running {self : PasswordWorkPool α} {id : Nat} :
    id ∈ self.running ↔ .running id ∈ self.workers := by
  simp only [running, List.mem_flatMap]
  constructor
  · rintro ⟨worker, mem, job⟩
    cases worker with
    | running other =>
        obtain rfl := List.mem_singleton.mp job
        exact mem
    | between | receiving | stopped => cases job
  · exact fun mem => ⟨_, mem, List.mem_singleton_self id⟩

/-- Each worker runs one job at most. -/
theorem length_running_le (self : PasswordWorkPool α) :
    self.running.length ≤ self.workers.length := by
  unfold running
  induction self.workers with
  | nil => simp
  | cons worker workers ih =>
      have one : worker.job.length ≤ 1 := by cases worker <;> simp [PasswordWorker.job]
      simp only [List.flatMap_cons, List.length_append, List.length_cons]
      omega

/-- A thread that leaves was about to take a job. -/
theorem Leaves.found {self : PasswordWorkPool α} {worker : Nat} {poisoned : Bool}
    (leaves : self.Leaves worker poisoned) :
    ∃ old, self.workers[worker]? = some old ∧ old.job = [] ∧ old ≠ .stopped := by
  cases leaves with
  | poisonedLock found => exact ⟨_, found, rfl, nofun⟩
  | closedQueue found => exact ⟨_, found, rfl, nofun⟩
  | fault found => exact ⟨_, found, rfl, nofun⟩

theorem receiverAlive_of_found {self : PasswordWorkPool α} {worker : Nat} {old : PasswordWorker}
    (found : self.workers[worker]? = some old) (standing : old ≠ .stopped) :
    self.receiverAlive = true :=
  List.any_eq_true.mpr ⟨old, List.mem_of_getElem? found, by simpa using standing⟩

theorem Leaves.alive {self : PasswordWorkPool α} {worker : Nat} {poisoned : Bool}
    (leaves : self.Leaves worker poisoned) : self.receiverAlive = true := by
  obtain ⟨old, found, -, standing⟩ := leaves.found
  exact receiverAlive_of_found found standing

/-- A thread that leaves a sound queue found it closed and drained. -/
theorem Leaves.drained {self : PasswordWorkPool α} {worker : Nat} {poisoned : Bool}
    (leaves : self.Leaves worker poisoned) (sane : poisoned = false) :
    self.senderAlive = false ∧ self.queue = [] := by
  cases leaves with
  | poisonedLock => cases sane
  | closedQueue found drained closed => exact ⟨closed, drained⟩
  | fault => cases sane

/-- The jobs that run are exchanged with the worker's. -/
theorem running_set {self : PasswordWorkPool α} {worker : Nat} {old : PasswordWorker}
    (found : self.workers[worker]? = some old) (new : PasswordWorker) :
    ((self.workers.set worker new).flatMap PasswordWorker.job ++ old.job).Perm
      (self.running ++ new.job) :=
  flatMap_set_perm PasswordWorker.job found new

/-- Every accepted job is in one place, and the queue keeps the order. -/
structure Accounted (t : PoolTrace α) (pool : PasswordWorkPool α) : Prop where
  fifo : t.accepted = t.started ++ (t.discarded ++ pool.queue)
  ran : t.started.Perm (t.ended ++ pool.running)
  numbered : (t.accepted ++ t.refused).Perm (List.range pool.calls.length)
  room : pool.queue.length ≤ pool.queuedJobs
  kept : t.discarded ≠ [] → pool.receiverAlive = false ∧ pool.poisoned = true

/-- A worker moves between places where it runs nothing. -/
theorem running_perm_of_idle {self : PasswordWorkPool α} {worker : Nat}
    {old new : PasswordWorker} (found : self.workers[worker]? = some old) (idle : old.job = [])
    (still : new.job = []) :
    ((self.workers.set worker new).flatMap PasswordWorker.job).Perm self.running := by
  simpa [idle, still] using running_set found new

/-- As long as a worker is alive nothing has been discarded. -/
theorem Accounted.discarded_of_alive {t : PoolTrace α} {pool : PasswordWorkPool α}
    (accounted : Accounted t pool) (alive : pool.receiverAlive = true) : t.discarded = [] := by
  by_contra some
  simp [(accounted.kept some).1] at alive

/-- A step that neither moves a job nor names a call. -/
theorem Accounted.same {t : PoolTrace α} {pool next : PasswordWorkPool α} {e : PoolEvent α}
    (accounted : Accounted t pool)
    (quiet : e.acceptedIds = [] ∧ e.refusedIds = [] ∧ e.startedIds = [] ∧ e.endedIds = [] ∧
      e.discardedIds = [])
    (queue : next.queue = pool.queue) (running : next.running.Perm pool.running)
    (calls : next.calls.length = pool.calls.length) (bound : next.queuedJobs = pool.queuedJobs)
    (kept : t.discarded ≠ [] → next.receiverAlive = false ∧ next.poisoned = true) :
    Accounted (e :: t) next := by
  obtain ⟨accepted, refused, started, ended, discarded⟩ := quiet
  constructor
  case fifo =>
    rw [PoolTrace.accepted_cons, PoolTrace.started_cons, PoolTrace.discarded_cons, accepted, started,
      discarded, queue]
    simpa using accounted.fifo
  case ran =>
    rw [PoolTrace.started_cons, PoolTrace.ended_cons, started, ended, List.append_nil,
      List.append_nil]
    exact accounted.ran.trans (running.symm.append_left _)
  case numbered =>
    rw [PoolTrace.accepted_cons, PoolTrace.refused_cons, accepted, refused, calls]
    simpa using accounted.numbered
  case room =>
    rw [queue, bound]
    exact accounted.room
  case kept =>
    rw [PoolTrace.discarded_cons, discarded, List.append_nil]
    exact kept

theorem Accounted.step {t : PoolTrace α} {pool next : PasswordWorkPool α} {e : PoolEvent α}
    (accounted : Accounted t pool) (edge : PoolStep pool e next) : Accounted (e :: t) next := by
  cases edge with
  | accept open_ alive free =>
      constructor
      case fifo => simp [accounted.fifo]
      case ran => simpa [running] using accounted.ran
      case numbered =>
        simp only [PoolTrace.accepted_cons, PoolTrace.refused_cons, PoolEvent.acceptedIds,
          PoolEvent.refusedIds, List.append_nil, List.length_append, List.length_singleton,
          List.range_succ, List.append_assoc]
        refine (List.perm_append_comm.append_left _).trans ?_
        rw [← List.append_assoc]
        exact accounted.numbered.append_right _
      case room => simpa [Nat.succ_le_iff] using free
      case kept => simp [accounted.discarded_of_alive alive]
  | refuse full =>
      constructor
      case fifo => simpa using accounted.fifo
      case ran => simpa [running] using accounted.ran
      case numbered =>
        simp only [PoolTrace.accepted_cons, PoolTrace.refused_cons, PoolEvent.acceptedIds,
          PoolEvent.refusedIds, List.append_nil, List.length_append, List.length_singleton,
          List.range_succ]
        rw [← List.append_assoc]
        exact accounted.numbered.append_right _
      case room => exact accounted.room
      case kept => simpa [receiverAlive] using accounted.kept
  | answer found ready =>
      exact accounted.same ⟨rfl, rfl, rfl, rfl, rfl⟩ rfl .rfl (by simp) rfl accounted.kept
  | cancel found =>
      exact accounted.same ⟨rfl, rfl, rfl, rfl, rfl⟩ rfl .rfl (by simp) rfl accounted.kept
  | drop idle =>
      exact accounted.same ⟨rfl, rfl, rfl, rfl, rfl⟩ rfl .rfl rfl rfl accounted.kept
  | lock found free sane =>
      have intact := accounted.discarded_of_alive (receiverAlive_of_found found nofun)
      exact accounted.same ⟨rfl, rfl, rfl, rfl, rfl⟩ rfl (running_perm_of_idle found rfl rfl) rfl rfl
        fun some => absurd intact some
  | @start worker id queue found oldest =>
      have intact := accounted.discarded_of_alive (receiverAlive_of_found found nofun)
      constructor
      case fifo => simp [accounted.fifo, intact, oldest]
      case ran =>
        have exchanged := running_set found (.running id)
        simp only [PasswordWorker.job, List.append_nil] at exchanged
        simp only [PoolTrace.started_cons, PoolTrace.ended_cons, PoolEvent.startedIds,
          PoolEvent.endedIds, List.append_nil]
        refine (accounted.ran.append_right _).trans ?_
        rw [List.append_assoc]
        exact exchanged.symm.append_left _
      case numbered => simpa using accounted.numbered
      case room =>
        have bound := accounted.room
        rw [oldest, List.length_cons] at bound
        exact Nat.le_of_succ_le bound
      case kept => simp [intact]
  | finish outcome found =>
      have intact := accounted.discarded_of_alive (receiverAlive_of_found found nofun)
      constructor
      case fifo => simpa using accounted.fifo
      case ran =>
        have exchanged := running_set found .between
        simp only [PasswordWorker.job, List.append_nil] at exchanged
        simp only [PoolTrace.started_cons, PoolTrace.ended_cons, PoolEvent.startedIds,
          PoolEvent.endedIds, List.append_nil, List.append_assoc]
        refine accounted.ran.trans (List.Perm.append_left _ ?_)
        exact exchanged.symm.trans List.perm_append_comm
      case numbered => simpa using accounted.numbered
      case room => exact accounted.room
      case kept => simp [intact]
  | leave leaves others =>
      obtain ⟨old, found, idle, -⟩ := leaves.found
      have intact := accounted.discarded_of_alive leaves.alive
      exact accounted.same ⟨rfl, rfl, rfl, rfl, rfl⟩ rfl (running_perm_of_idle found idle rfl) rfl rfl
        fun some => absurd intact some
  | @leaveLast worker poisoned leaves last =>
      obtain ⟨old, found, idle, -⟩ := leaves.found
      have intact := accounted.discarded_of_alive leaves.alive
      constructor
      case fifo => simp [accounted.fifo, intact]
      case ran =>
        simp only [PoolTrace.started_cons, PoolTrace.ended_cons, PoolEvent.startedIds,
          PoolEvent.endedIds, List.append_nil]
        exact accounted.ran.trans ((running_perm_of_idle found idle rfl).symm.append_left _)
      case numbered => simpa using accounted.numbered
      case room => exact Nat.zero_le _
      case kept =>
        intro some
        refine ⟨by simpa [receiverAlive] using last, ?_⟩
        by_contra sane
        have drained := (leaves.drained (by simpa using sane)).2
        simp [intact, drained] at some

/-- The threads share one lock, and none leaves a sound queue that can still bring work. -/
structure Threads (workers queuedJobs : Nat) (pool : PasswordWorkPool α) : Prop where
  count : pool.workers.length = workers
  bound : pool.queuedJobs = queuedJobs
  alone : holders pool.workers ≤ 1
  spoilt : pool.poisoned = true → holders pool.workers = 0
  left : .stopped ∈ pool.workers →
    pool.poisoned = true ∨ pool.senderAlive = false ∧ pool.queue = []
  gone : pool.receiverAlive = false → pool.queue = []

theorem holders_set {workers : List PasswordWorker} {worker : Nat} {old : PasswordWorker}
    (found : workers[worker]? = some old) (new : PasswordWorker) :
    holders (workers.set worker new) + (if old = .receiving then 1 else 0) =
      holders workers + if new = .receiving then 1 else 0 := by
  simpa [holders] using
    countP_set_add (P := fun worker => decide (worker = .receiving)) found new

/-- Nobody holds the lock once a thread has left. -/
theorem Leaves.free {self : PasswordWorkPool α} {worker : Nat} {poisoned : Bool}
    (leaves : self.Leaves worker poisoned) (alone : holders self.workers ≤ 1) :
    holders (self.workers.set worker .stopped) = 0 := by
  cases leaves with
  | poisonedLock found free =>
      have same := holders_set found .stopped
      rw [locked_eq_false_iff.mp free] at same
      simpa using same
  | closedQueue found =>
      have same := holders_set found .stopped
      simp only [reduceCtorEq, if_true, if_false] at same
      omega
  | fault found =>
      have same := holders_set found .stopped
      simp only [reduceCtorEq, if_true, if_false] at same
      omega

theorem mem_stopped_of_set {workers : List PasswordWorker} {worker : Nat} (new : PasswordWorker)
    (standing : new ≠ .stopped) (mem : .stopped ∈ workers.set worker new) : .stopped ∈ workers := by
  rcases List.mem_or_eq_of_mem_set mem with mem | same
  · exact mem
  · exact absurd same.symm standing

/-- A worker that moved on keeps the receiving end alive. -/
theorem not_all_stopped_set {workers : List PasswordWorker} {worker : Nat} {old : PasswordWorker}
    (found : workers[worker]? = some old) (new : PasswordWorker) (standing : new ≠ .stopped) :
    (workers.set worker new).any (· ≠ .stopped) ≠ false := by
  have here : worker < workers.length := (List.getElem?_eq_some_iff.mp found).1
  have mem : new ∈ workers.set worker new := List.mem_of_getElem? (List.getElem?_set_self here)
  have alive : (workers.set worker new).any (· ≠ .stopped) = true :=
    List.any_eq_true.mpr ⟨new, mem, decide_eq_true standing⟩
  exact fun dead => absurd (alive.symm.trans dead) (by decide)

theorem Threads.step {workers queuedJobs : Nat} {pool next : PasswordWorkPool α} {e : PoolEvent α}
    (threads : Threads workers queuedJobs pool) (edge : PoolStep pool e next) :
    Threads workers queuedJobs next := by
  obtain ⟨count, bound, alone, spoilt, left, gone⟩ := threads
  cases edge with
  | accept open_ alive free =>
      refine ⟨count, bound, alone, spoilt, fun stopped => ?_, fun dead => ?_⟩
      · rcases left stopped with poisoned | ⟨closed, -⟩
        · exact .inl poisoned
        · simp [open_] at closed
      · exact absurd (alive.symm.trans dead) (by decide)
  | refuse full => exact ⟨count, bound, alone, spoilt, left, gone⟩
  | answer found ready => exact ⟨count, bound, alone, spoilt, left, gone⟩
  | cancel found => exact ⟨count, bound, alone, spoilt, left, gone⟩
  | drop idle =>
      refine ⟨count, bound, alone, spoilt, fun stopped => ?_, gone⟩
      rcases left stopped with poisoned | ⟨-, drained⟩
      · exact .inl poisoned
      · exact .inr ⟨rfl, drained⟩
  | lock found free sane =>
      have one := holders_set found .receiving
      rw [locked_eq_false_iff.mp free] at one
      refine ⟨by simpa using count, bound, ?_, ?_, ?_, ?_⟩
      · exact le_of_eq (by simpa using one)
      · simp [sane]
      · exact fun stopped => left (mem_stopped_of_set .receiving nofun stopped)
      · exact fun dead => absurd dead (not_all_stopped_set found .receiving nofun)
  | @start worker id queue found oldest =>
      have fewer := holders_set found (.running id)
      simp only [reduceCtorEq, if_true, if_false] at fewer
      have most : holders (pool.workers.set worker (.running id)) ≤ 1 := by omega
      refine ⟨by simpa using count, bound, ?_, ?_, ?_, ?_⟩
      · exact most
      · intro poisoned
        have none := spoilt poisoned
        omega
      · intro stopped
        rcases left (mem_stopped_of_set (.running id) nofun stopped) with poisoned | ⟨-, drained⟩
        · exact .inl poisoned
        · simp [oldest] at drained
      · exact fun dead => absurd dead (not_all_stopped_set found (.running id) nofun)
  | finish outcome found =>
      have same := holders_set found .between
      simp only [reduceCtorEq, if_false, Nat.add_zero] at same
      refine ⟨by simpa using count, bound, same.le.trans alone, fun poisoned => ?_, ?_, ?_⟩
      · exact same.trans (spoilt poisoned)
      · exact fun stopped => left (mem_stopped_of_set .between nofun stopped)
      · exact fun dead => absurd dead (not_all_stopped_set found .between nofun)
  | @leave worker poisoned leaves others =>
      have free := leaves.free alone
      refine ⟨by simpa using count, bound, free.le.trans (Nat.zero_le 1), fun _ => free, ?_, ?_⟩
      · intro _
        cases sane : poisoned with
        | true => exact .inl rfl
        | false => exact .inr (leaves.drained sane)
      · intro dead
        simp [receiverAlive] at dead
        simp at others
        obtain ⟨other, mem, standing⟩ := others
        exact absurd (dead other mem) standing
  | @leaveLast worker poisoned leaves last =>
      have free := leaves.free alone
      refine ⟨by simpa using count, bound, free.le.trans (Nat.zero_le 1), fun _ => free, ?_, ?_⟩
      · intro _
        cases sane : poisoned with
        | true => exact .inl rfl
        | false => exact .inr ⟨(leaves.drained sane).1, rfl⟩
      · exact fun _ => rfl

end PasswordWorkPool

end AgqlAuth
