import AgqlAuth.Interaction.Machine
import AgqlAuth.Model.Session

/-!
# The password worker pool

Password hashing runs on a fixed number of worker threads behind one bounded
queue.  The threads share the receiving end under a mutex, every call waits on a
one-shot channel of its own, and a call can be dropped at any time.
-/

namespace AgqlAuth

open Interaction

/-- How the caller's closure ended on its worker. -/
inductive WorkOutcome (α : Type) where
  | finished (result : AuthResult α)
  | panicked

/-- `catch_unwind(work).unwrap_or(Err(AuthServiceUnavailable))`. -/
def WorkOutcome.result {α : Type} : WorkOutcome α → AuthResult α
  | .finished result => result
  | .panicked => .error .authServiceUnavailable

/-- The one-shot channel of a call, as its receiver finds it. -/
inductive Oneshot (α : Type) where
  | empty
  | sent (result : AuthResult α)
  /-- The sender was dropped with the job. -/
  | closed

/-- `receiver.await`, once it is ready. -/
def Oneshot.recv {α : Type} : Oneshot α → Option (AuthResult α)
  | .empty => none
  | .sent result => some result
  | .closed => some (.error .authServiceUnavailable)

inductive PasswordCaller (α : Type) where
  | waiting
  | cancelled
  | returned (result : AuthResult α)

/-- One call of `execute`: its future and its channel. -/
structure PasswordCall (α : Type) where
  caller : PasswordCaller α
  channel : Oneshot α

namespace PasswordCall

variable {α : Type}

/-- `sender.send(result)`; nobody receives it once the future is gone. -/
def send (result : AuthResult α) : PasswordCall α → PasswordCall α
  | ⟨.waiting, _⟩ => ⟨.waiting, .sent result⟩
  | call => call

/-- The job is dropped, and the sender with it. -/
def dropSender : PasswordCall α → PasswordCall α
  | ⟨.waiting, _⟩ => ⟨.waiting, .closed⟩
  | call => call

end PasswordCall

/-- Where a worker thread is in its loop. -/
inductive PasswordWorker where
  | between
  /-- In `recv`, holding the queue lock. -/
  | receiving
  | running (job : Nat)
  | stopped
  deriving DecidableEq

/-- The job a worker runs. -/
def PasswordWorker.job : PasswordWorker → List Nat
  | .running job => [job]
  | _ => []

/-- The pool, its threads and the calls made so far; a call is named by its position. -/
structure PasswordWorkPool (α : Type) where
  queuedJobs : Nat
  senderAlive : Bool
  /-- A thread panicked while it held the queue lock. -/
  poisoned : Bool
  queue : List Nat
  workers : List PasswordWorker
  calls : List (PasswordCall α)

/-- What the threads and the callers may do next. -/
inductive PoolAction (α : Type) where
  | execute
  | poll (id : Nat)
  | cancel (id : Nat)
  | drop
  | lock (worker : Nat)
  | receive (worker : Nat)
  | panic (worker : Nat)
  | finish (worker : Nat) (outcome : WorkOutcome α)

inductive PoolEvent (α : Type) where
  | accepted (id : Nat)
  | refused (id : Nat)
  | returned (id : Nat) (result : AuthResult α)
  | cancelled (id : Nat)
  | dropped
  | locked (worker : Nat)
  | started (worker id : Nat)
  | ended (worker id : Nat) (outcome : WorkOutcome α)
  | stopped (worker : Nat) (discarded : List Nat)

namespace PasswordWorkPool

variable {α : Type}

def WORKERS : Nat := 2

def QUEUED_JOBS : Nat := 32

/-- `with_spawner`; `spawned` tells which threads the system grants. -/
def withSpawner (workers queuedJobs : Nat) (spawned : Nat → Bool) :
    AuthResult (PasswordWorkPool α) :=
  if workers = 0 ∨ queuedJobs = 0 then .error .authServiceUnavailable
  else if (List.range workers).all spawned then
    .ok { queuedJobs, senderAlive := true, poisoned := false, queue := [],
          workers := List.replicate workers .between, calls := [] }
  else .error .authServiceUnavailable

/-- `shared`: built once for the process, and a failure is remembered as well. -/
def shared (spawned : Nat → Bool) : AuthResult (PasswordWorkPool α) :=
  withSpawner WORKERS QUEUED_JOBS spawned

/-- The receiving end lives as long as one of the threads. -/
def receiverAlive (self : PasswordWorkPool α) : Bool :=
  self.workers.any (· ≠ .stopped)

def locked (self : PasswordWorkPool α) : Bool := self.workers.any (· = .receiving)

/-- The jobs the workers run. -/
def running (self : PasswordWorkPool α) : List Nat := self.workers.flatMap PasswordWorker.job

/-- `execute` up to its `await`: `try_send` fails on a full or disconnected queue. -/
def execute (self : PasswordWorkPool α) : Option (PoolEvent α × PasswordWorkPool α) :=
  if self.senderAlive then
    if self.receiverAlive ∧ self.queue.length < self.queuedJobs then
      some (.accepted self.calls.length,
        { self with
          queue := self.queue ++ [self.calls.length]
          calls := self.calls ++ [⟨.waiting, .empty⟩] })
    else
      some (.refused self.calls.length,
        { self with calls := self.calls ++ [⟨.returned (.error .authServiceUnavailable), .closed⟩] })
  else none

/-- The future of a call is polled. -/
def poll (self : PasswordWorkPool α) (id : Nat) : Option (PoolEvent α × PasswordWorkPool α) :=
  match self.calls[id]? with
  | some ⟨.waiting, channel⟩ => channel.recv.map fun result =>
      (.returned id result, { self with calls := self.calls.set id ⟨.returned result, channel⟩ })
  | _ => none

/-- The future of a call is dropped; its job stays where it is. -/
def cancel (self : PasswordWorkPool α) (id : Nat) : Option (PoolEvent α × PasswordWorkPool α) :=
  match self.calls[id]? with
  | some ⟨.waiting, channel⟩ =>
      some (.cancelled id, { self with calls := self.calls.set id ⟨.cancelled, channel⟩ })
  | _ => none

def PasswordCall.isWaiting : PasswordCall α → Bool
  | ⟨.waiting, _⟩ => true
  | _ => false

/-- The pool is dropped, which its futures rule out as long as they borrow it. -/
def dropPool (self : PasswordWorkPool α) : Option (PoolEvent α × PasswordWorkPool α) :=
  if self.senderAlive ∧ self.calls.all fun call => !PasswordCall.isWaiting call then
    some (.dropped, { self with senderAlive := false })
  else none

/-- A thread ends; the last one drops the receiving end and what is still queued. -/
def stop (self : PasswordWorkPool α) (worker : Nat) : PoolEvent α × PasswordWorkPool α :=
  if (self.workers.set worker .stopped).all (· = .stopped) then
    (.stopped worker self.queue,
      { self with
        workers := self.workers.set worker .stopped
        queue := []
        calls := self.calls.mapIdx fun id call =>
          if id ∈ self.queue then call.dropSender else call })
  else (.stopped worker [], { self with workers := self.workers.set worker .stopped })

/-- `receiver.lock().ok()?`; only one thread holds the lock. -/
def lock (self : PasswordWorkPool α) (worker : Nat) : Option (PoolEvent α × PasswordWorkPool α) :=
  match self.workers[worker]? with
  | some .between =>
      if self.locked then none
      else if self.poisoned then some (self.stop worker)
      else some (.locked worker, { self with workers := self.workers.set worker .receiving })
  | _ => none

/-- `recv().ok()?`: the oldest job, or the end once the sender is gone. -/
def receive (self : PasswordWorkPool α) (worker : Nat) :
    Option (PoolEvent α × PasswordWorkPool α) :=
  match self.workers[worker]?, self.queue with
  | some .receiving, id :: queue =>
      some (.started worker id,
        { self with queue, workers := self.workers.set worker (.running id) })
  | some .receiving, [] => if self.senderAlive then none else some (self.stop worker)
  | _, _ => none

/-- A thread panics in `recv`, where nothing catches it. -/
def panic (self : PasswordWorkPool α) (worker : Nat) : Option (PoolEvent α × PasswordWorkPool α) :=
  match self.workers[worker]? with
  | some .receiving => some ({ self with poisoned := true }.stop worker)
  | _ => none

/-- The job ends, by result or panic, and its sender is used. -/
def finish (self : PasswordWorkPool α) (worker : Nat) (outcome : WorkOutcome α) :
    Option (PoolEvent α × PasswordWorkPool α) :=
  match self.workers[worker]? with
  | some (.running id) =>
      some (.ended worker id outcome,
        { self with
          workers := self.workers.set worker .between
          calls := self.calls.modify id (PasswordCall.send outcome.result) })
  | _ => none

/-- The pool with its threads and callers as one machine. -/
abbrev machine (α : Type) : Machine where
  State := PasswordWorkPool α
  Action := PoolAction α
  Event := PoolEvent α
  step self
    | .execute => self.execute
    | .poll id => self.poll id
    | .cancel id => self.cancel id
    | .drop => self.dropPool
    | .lock worker => self.lock worker
    | .receive worker => self.receive worker
    | .panic worker => self.panic worker
    | .finish worker outcome => self.finish worker outcome

/-- Why a thread leaves its loop. -/
inductive Leaves (self : PasswordWorkPool α) (worker : Nat) : Bool → Prop where
  | poisonedLock (found : self.workers[worker]? = some .between) (free : self.locked = false)
      (poisoned : self.poisoned = true) : Leaves self worker true
  | closedQueue (found : self.workers[worker]? = some .receiving) (drained : self.queue = [])
      (closed : self.senderAlive = false) : Leaves self worker self.poisoned
  | fault (found : self.workers[worker]? = some .receiving) : Leaves self worker true

/-- Everything a step can do, with what it reports. -/
inductive PoolStep (self : PasswordWorkPool α) : PoolEvent α → PasswordWorkPool α → Prop where
  | accept (open_ : self.senderAlive = true) (alive : self.receiverAlive = true)
      (room : self.queue.length < self.queuedJobs) :
      PoolStep self (.accepted self.calls.length)
        { self with
          queue := self.queue ++ [self.calls.length]
          calls := self.calls ++ [⟨.waiting, .empty⟩] }
  | refuse (full : self.receiverAlive = false ∨ self.queuedJobs ≤ self.queue.length) :
      PoolStep self (.refused self.calls.length)
        { self with calls := self.calls ++ [⟨.returned (.error .authServiceUnavailable), .closed⟩] }
  | answer {id : Nat} {channel : Oneshot α} {result : AuthResult α}
      (found : self.calls[id]? = some ⟨.waiting, channel⟩) (ready : channel.recv = some result) :
      PoolStep self (.returned id result)
        { self with calls := self.calls.set id ⟨.returned result, channel⟩ }
  | cancel {id : Nat} {channel : Oneshot α} (found : self.calls[id]? = some ⟨.waiting, channel⟩) :
      PoolStep self (.cancelled id)
        { self with calls := self.calls.set id ⟨.cancelled, channel⟩ }
  | drop (idle : ∀ call ∈ self.calls, PasswordCall.isWaiting call = false) :
      PoolStep self .dropped { self with senderAlive := false }
  | lock {worker : Nat} (found : self.workers[worker]? = some .between)
      (free : self.locked = false) (sane : self.poisoned = false) :
      PoolStep self (.locked worker) { self with workers := self.workers.set worker .receiving }
  | start {worker id : Nat} {queue : List Nat} (found : self.workers[worker]? = some .receiving)
      (oldest : self.queue = id :: queue) :
      PoolStep self (.started worker id)
        { self with queue, workers := self.workers.set worker (.running id) }
  | finish {worker id : Nat} (outcome : WorkOutcome α)
      (found : self.workers[worker]? = some (.running id)) :
      PoolStep self (.ended worker id outcome)
        { self with
          workers := self.workers.set worker .between
          calls := self.calls.modify id (PasswordCall.send outcome.result) }
  | leave {worker : Nat} {poisoned : Bool} (leaves : self.Leaves worker poisoned)
      (others : (self.workers.set worker .stopped).all (· = .stopped) = false) :
      PoolStep self (.stopped worker [])
        { self with poisoned, workers := self.workers.set worker .stopped }
  | leaveLast {worker : Nat} {poisoned : Bool} (leaves : self.Leaves worker poisoned)
      (last : (self.workers.set worker .stopped).all (· = .stopped) = true) :
      PoolStep self (.stopped worker self.queue)
        { self with
          poisoned
          workers := self.workers.set worker .stopped
          queue := []
          calls := self.calls.mapIdx fun id call =>
            if id ∈ self.queue then call.dropSender else call }

theorem PoolStep.of_leaves {self next : PasswordWorkPool α} {worker : Nat} {poisoned : Bool}
    {e : PoolEvent α} (leaves : self.Leaves worker poisoned)
    (stops : { self with poisoned }.stop worker = (e, next)) : PoolStep self e next := by
  unfold stop at stops
  split at stops
  · rename_i last
    cases stops
    exact .leaveLast leaves last
  · rename_i others
    cases stops
    exact .leave leaves (by simpa using others)

/-- A step of the machine is one of these. -/
theorem PoolStep.of_step {self next : PasswordWorkPool α} {action : PoolAction α} {e : PoolEvent α}
    (edge : (machine α).step self action = some (e, next)) : PoolStep self e next := by
  cases action with
  | execute =>
      change self.execute = _ at edge
      unfold PasswordWorkPool.execute at edge
      split at edge
      · rename_i open_
        split at edge
        · rename_i enabled
          cases edge
          exact .accept open_ enabled.1 enabled.2
        · rename_i disabled
          cases edge
          refine .refuse ?_
          rcases eq : self.receiverAlive with _ | _
          · exact .inl rfl
          · exact .inr (by simpa [eq] using disabled)
      · cases edge
  | poll id =>
      change self.poll id = _ at edge
      unfold PasswordWorkPool.poll at edge
      split at edge
      · rename_i channel found
        obtain ⟨result, ready, same⟩ := Option.map_eq_some_iff.mp edge
        cases same
        exact .answer found ready
      · cases edge
  | cancel id =>
      change self.cancel id = _ at edge
      unfold PasswordWorkPool.cancel at edge
      split at edge
      · rename_i channel found
        cases edge
        exact .cancel found
      · cases edge
  | drop =>
      change self.dropPool = _ at edge
      unfold dropPool at edge
      split at edge
      · rename_i enabled
        cases edge
        exact .drop fun call mem => by simpa using List.all_eq_true.mp enabled.2 call mem
      · cases edge
  | lock worker =>
      change self.lock worker = _ at edge
      unfold PasswordWorkPool.lock at edge
      split at edge
      · rename_i found
        split at edge
        · cases edge
        · rename_i unlocked
          have free : self.locked = false := by simpa using unlocked
          split at edge
          · rename_i poisoned
            refine .of_leaves (.poisonedLock found free poisoned) ?_
            rw [← poisoned]
            exact Option.some.inj edge
          · rename_i sane
            cases edge
            exact .lock found free (by simpa using sane)
      · cases edge
  | receive worker =>
      change self.receive worker = _ at edge
      unfold PasswordWorkPool.receive at edge
      split at edge
      · rename_i id queue found oldest
        cases edge
        exact .start found oldest
      · rename_i found drained
        split at edge
        · cases edge
        · rename_i closed
          exact .of_leaves (.closedQueue found drained (by simpa using closed))
            (Option.some.inj edge)
      · cases edge
  | panic worker =>
      change self.panic worker = _ at edge
      unfold PasswordWorkPool.panic at edge
      split at edge
      · rename_i found
        exact .of_leaves (.fault found) (Option.some.inj edge)
      · cases edge
  | finish worker outcome =>
      change self.finish worker outcome = _ at edge
      unfold PasswordWorkPool.finish at edge
      split at edge
      · rename_i id found
        cases edge
        exact .finish outcome found
      · cases edge

end PasswordWorkPool

end AgqlAuth
