import SessionPool.Config
import SessionPool.Pool.Task

/-!
# Pools

A pool owns connections. Each of them is in one of five places: in the idle queue, in a lease, in
the hands of an agent that probes it, in the buffer of a sweep, or still on its way from the
server, when only a slot is reserved for it. The pool keeps count of them apart from these places,
so that the capacity is respected while connections move.

Agents that wait stand in the order in which they began to wait.
-/

namespace SessionPool

/-- A connection in the hands of a caller. The ticket is the number of the call that got it. -/
structure Lease where
  ticket : Nat
  connection : Connection
deriving DecidableEq, Repr

/-- A pool of connections. -/
structure Pool where
  config : Config
  /-- Connections that can be lent, the next one first. -/
  idle : List Connection
  /-- The numbers of the connections that are lent or being probed for a caller. -/
  active : List Nat
  /-- All connections, including slots reserved for those that are being made. -/
  total : Nat
  /-- Callers that are inside a checkout. -/
  waiting : Nat
  /-- Connections that sweeps have taken out of the idle queue. -/
  validating : Nat
  /-- Whether the pool has been shut down. This never goes back. -/
  isShutdown : Bool
  /-- The number of the next connection. -/
  nextId : Nat
  createdAt : Nat
  counters : Pool.Counters
  /-- Connections that callers hold. -/
  leases : List Lease
  /-- Agents that wait, in the order in which they began to. -/
  tasks : List Pool.Task
  /-- Whether the background checker has been asked to stop. -/
  stopRequested : Bool
  /-- Whether the owner has let go of the pool. -/
  dropped : Bool
deriving DecidableEq, Repr

namespace Pool

/-- A pool without connections. -/
def new (config : Config) (now : Nat) : Pool where
  config := config
  idle := []
  active := []
  total := 0
  waiting := 0
  validating := 0
  isShutdown := false
  nextId := 1
  createdAt := now
  counters := .zero
  leases := []
  tasks := []
  stopRequested := false
  dropped := false

/-! ### Reports -/

/-- The size of the pool now. -/
def status (pool : Pool) : Status where
  total := pool.total
  idle := pool.idle.length
  active := pool.active.length
  waiting := pool.waiting
  validating := pool.validating
  max := pool.config.maxConnections

/-- What the pool has done up to now. -/
def metrics (pool : Pool) (now : Nat) : Metrics := ⟨pool.counters, now - pool.createdAt⟩

/-! ### Leases -/

/-- The lease with this ticket, if it has not ended. -/
def lease? (pool : Pool) (ticket : Nat) : Option Lease :=
  pool.leases.find? (·.ticket == ticket)

/-- The lease with this ticket is over. -/
def endLease (pool : Pool) (ticket : Nat) : Pool :=
  { pool with leases := pool.leases.eraseP (·.ticket == ticket) }

/-- Put a connection in the place of the one that the lease has. -/
def updateLease (pool : Pool) (ticket : Nat) (connection : Connection) : Pool :=
  { pool with
    leases := pool.leases.map fun lease =>
      if lease.ticket == ticket then { lease with connection := connection } else lease }

/-! ### Agents that wait -/

/-- Let an agent wait, behind those who wait already. -/
def park (pool : Pool) (task : Task) : Pool := { pool with tasks := pool.tasks ++ [task] }

/-- What the agent waits for, if it waits in this pool. -/
def task? (pool : Pool) (agent : Agent) : Option Task :=
  pool.tasks.find? (·.agent == agent)

/-- The agent goes on, or has ended. -/
def unpark (pool : Pool) (agent : Agent) : Pool :=
  { pool with tasks := pool.tasks.eraseP (·.agent == agent) }

/-- Tell the first sleeper of a list to look again. -/
def notifyFirst : List Task → List Task
  | [] => []
  | task :: rest => if task.isAsleep then task.notify :: rest else task :: notifyFirst rest

/-- Nobody is told only where nobody is asleep. -/
theorem notifyFirst_eq_self_iff (tasks : List Task) :
    notifyFirst tasks = tasks ↔ ∀ task ∈ tasks, task.isAsleep = false := by
  induction tasks with
  | nil => simp [notifyFirst]
  | cons task rest ih =>
      unfold notifyFirst
      split
      case isTrue asleep =>
        constructor
        · intro same
          have unchanged : task.notify = task := (List.cons.inj same).1
          have awake := Task.isAsleep_notify task
          rw [unchanged, asleep] at awake
          contradiction
        · intro allAwake
          have awake := allAwake task List.mem_cons_self
          rw [asleep] at awake
          contradiction
      case isFalse awake => simp [ih, awake]

/-- Tell the caller that has been asleep for longest that a connection or a slot is free. -/
def notifyOne (pool : Pool) : Pool := { pool with tasks := notifyFirst pool.tasks }

/-- Tell `count` callers in turn. -/
def notifyMany : Nat → Pool → Pool
  | 0, pool => pool
  | count + 1, pool => notifyMany count pool.notifyOne

/-- Tell every caller that is asleep. -/
def notifyAll (pool : Pool) : Pool := { pool with tasks := pool.tasks.map Task.notify }

/-- Whether the background checker has not ended. -/
def hasChecker (pool : Pool) : Bool := pool.tasks.any (·.agent == .checker)

/-- Whether something has happened for which the agent waits, other than that its time has come. A
caller that waits for a connection has to be told, and its task keeps that it has been. For the
checker at rest, the request to stop says it all: it is never taken back, and the checker tests for
it before it falls asleep and whenever it wakes up, with nobody able to make it between the test and
the sleep. Whoever makes it wakes the checker after that, so it is not missed. -/
def isWoken (pool : Pool) (task : Task) : Bool :=
  match task.phase with
  | .waiting _ notified => notified
  | .resting => pool.stopRequested
  | .joining _ => !pool.hasChecker
  | _ => false

/-- Whether the agent can go on. -/
def isReady (pool : Pool) (now : Nat) (task : Task) : Bool :=
  pool.isWoken task || task.isDue now

/-- Whether the pool can be called: it has been made, and its owner has not let go of it. -/
def isOpen (pool : Pool) : Bool :=
  !pool.dropped && !pool.tasks.any fun task =>
    task.isPrewarming || task.phase == .joining true

/-- Whether returned connections still find the pool. It outlives its owner only for as long as a
returned connection is being probed. -/
def isPresent (pool : Pool) : Bool := !pool.dropped || pool.tasks.any Task.isReturning

/-- Whether no caller is inside a call that needs the owner to hold on to the pool. -/
def isDroppable (pool : Pool) : Bool :=
  pool.isOpen && pool.tasks.all fun task => task.agent == .checker || task.isReturning

/-! ### Counting -/

/-- Change the counters. -/
def count (pool : Pool) (change : Counters → Counters) : Pool :=
  { pool with counters := change pool.counters }

end Pool

namespace Pool.Counters

/-- A connect has succeeded. -/
def created (counters : Counters) : Counters :=
  { counters with connectionsCreated := counters.connectionsCreated + 1 }

/-- A connection has been disposed of. -/
def closed (counters : Counters) : Counters :=
  { counters with connectionsClosed := counters.connectionsClosed + 1 }

/-- A checkout has ended with a connection. -/
def checkedOut (counters : Counters) : Counters :=
  { counters with checkoutsSuccessful := counters.checkoutsSuccessful + 1 }

/-- A checkout has failed. Those whose time had run out are counted once more. -/
def failed (counters : Counters) (error : PoolError) : Counters :=
  { counters with
    checkoutsFailed := counters.checkoutsFailed + 1
    timeouts := match error with
      | .timedOut _ => counters.timeouts + 1
      | _ => counters.timeouts }

/-- A sweep has ended. It probed what it did not evict unseen. -/
def swept (counters : Counters) (report : Report) : Counters :=
  { counters with
    healthChecksPerformed :=
      counters.healthChecksPerformed + (report.checked - report.evictedIdle)
    healthChecksFailed := counters.healthChecksFailed + report.evictedDead }

end Pool.Counters

end SessionPool
