import SessionPool.Connection
import SessionPool.Pool.Status
import SessionPool.Server

/-!
# Work in progress

A pool is shared by callers and by its background checker. An agent works without interruption
until it has to wait: for the answer to a connect or a probe, for a connection to become free, for
the next sweep, or for the checker to end. There it leaves a task behind, which says what it waits
for and holds what it owns meanwhile. Nothing else in the pool belongs to an agent that waits.

What an agent does from one wait to the next is one turn, also where it consists of parts and others
could act in between although nobody waits. A connection that comes back is marked as used before
its agent has the pool to itself, and the server gives a new session its name, enters it among the
open ones and counts the connect one after the other. Here such parts belong together, and whoever
acts between them has its turn before or after all of them. What is said about the order of an idle
queue by last use, and about the order in which names are given, is exact for turns of this size:
two connections that come back at once could otherwise join the queue the other way round than they
were marked.
-/

namespace SessionPool.Pool

/-- Who works in a pool. Every call has a number of its own. -/
inductive Agent where
  | caller (number : Nat)
  | checker
deriving DecidableEq, Repr

/-- How long a checkout may wait for a connection to become free. -/
inductive Patience where
  | never
  | upTo (deadline : Nat)
  | endless
deriving DecidableEq, Repr

namespace Patience

/-- The patience of a caller that arrives at `now` and will wait for `timeout`. A deadline beyond
the horizon never comes. -/
def ofTimeout (now timeout : Nat) : Patience :=
  match Instant.after? now timeout with
  | some deadline => upTo deadline
  | none => endless

/-- When a caller that waits gives up. -/
def deadline? : Patience → Option Nat
  | upTo deadline => some deadline
  | _ => none

end Patience

/-- A checkout that has begun and not ended. -/
structure Checkout where
  caller : Nat
  started : Nat
  patience : Patience
deriving DecidableEq, Repr

/-- What a sweep has found out so far, and how many connections it takes the pool to have. -/
structure Sweep where
  /-- Connections that the sweep has taken out of the idle queue. -/
  checked : Nat
  /-- The connections of the pool when the sweep began, less those it has decided to evict. -/
  retained : Nat
  /-- Connections found alive, in queue order. -/
  kept : List Connection
  /-- Connections to evict, in queue order. -/
  evicted : List Connection
  evictedDead : Nat
  evictedIdle : Nat
deriving DecidableEq, Repr

/-- What an agent waits for. -/
inductive Phase where
  /-- The answer to a connect that fills the new pool, `made` having succeeded before. -/
  | prewarming (made : Nat) (metadata : Metadata) (attempt : Attempt)
  /-- The answer to a connect for a caller, a slot being reserved for it. -/
  | connecting (checkout : Checkout) (metadata : Metadata) (attempt : Attempt)
  /-- The answer to the probe of a connection that is about to be lent. -/
  | borrowProbe (checkout : Checkout) (connection : Connection)
  /-- A connection or a slot to become free. -/
  | waiting (checkout : Checkout) (notified : Bool)
  /-- The answer to the probe of a connection that has been returned. -/
  | returnProbe (connection : Connection)
  /-- The answer to the probe of `current`, with `pending` still to be examined. -/
  | sweeping (sweep : Sweep) (current : Connection) (pending : List Connection)
  /-- The time of the next sweep, or a request to stop. -/
  | resting
  /-- The end of the checker, in a shutdown. If `thenDrop`, the pool goes after that. -/
  | joining (thenDrop : Bool)
deriving DecidableEq, Repr

/-- An agent that waits. If nothing else happens, it goes on when `due` comes. -/
structure Task where
  agent : Agent
  phase : Phase
  due : Option Nat
deriving DecidableEq, Repr

namespace Task

/-- Whether the time has come for which the agent waits. -/
def isDue (task : Task) (now : Nat) : Bool :=
  match task.due with
  | some due => due ≤ now
  | none => false

/-- Whether the agent is blocked until a connection or a slot becomes free. -/
def isWaiting (task : Task) : Bool :=
  match task.phase with
  | .waiting _ _ => true
  | _ => false

/-- Whether the agent is blocked there and nobody has told it to look again. -/
def isAsleep (task : Task) : Bool :=
  match task.phase with
  | .waiting _ notified => !notified
  | _ => false

/-- Tell the agent to look again. -/
def notify (task : Task) : Task :=
  match task.phase with
  | .waiting checkout _ => { task with phase := .waiting checkout true }
  | _ => task

@[simp]
theorem agent_notify (task : Task) : task.notify.agent = task.agent := by
  unfold notify
  split <;> rfl

/-- Whoever has been told to look again is not asleep. -/
@[simp]
theorem isAsleep_notify (task : Task) : task.notify.isAsleep = false := by
  obtain ⟨agent, phase, due⟩ := task
  cases phase <;> rfl

/-- Only a blocked agent can be asleep. -/
theorem isWaiting_of_isAsleep {task : Task} (asleep : task.isAsleep = true) :
    task.isWaiting = true := by
  obtain ⟨agent, phase, due⟩ := task
  cases phase with
  | waiting checkout notified => rfl
  | _ => simp [isAsleep] at asleep

/-- Whether a returned connection is being probed. -/
def isReturning (task : Task) : Bool :=
  match task.phase with
  | .returnProbe _ => true
  | _ => false

/-- Whether the pool is being filled for the first time. -/
def isPrewarming (task : Task) : Bool :=
  match task.phase with
  | .prewarming _ _ _ => true
  | _ => false

end Task

end SessionPool.Pool
