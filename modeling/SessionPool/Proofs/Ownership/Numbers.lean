import SessionPool.Proofs.Disposal.Flow
import SessionPool.Proofs.Waits

/-!
# The numbers of connections

A connection gets its number before its session is known: a pool that connects takes the next number
and keeps it in reserve until the answer comes. In a turn, connections move about with the numbers
they have; a number is joined to a session only where a connect has been answered or a session been
given to the pool, and at most one new number is reserved.
-/

namespace SessionPool

/-- The number of a connection in its pool, and the name of its session. -/
def Connection.tag (connection : Connection) : Nat × Nat := (connection.id, connection.name)

namespace Pool

/-- The number in reserve for a connection that is being made. -/
def Task.reserved (task : Task) : List Nat :=
  match task.phase with
  | .prewarming _ metadata _ | .connecting _ metadata _ => [metadata.id]
  | _ => []

/-- What the answer of the server joins, if the agent waits for a connect and it succeeds: the
number in reserve and the session. -/
def Task.joins? (server : Server) (task : Task) : Option (Nat × Nat) :=
  match task.phase with
  | .prewarming _ metadata attempt | .connecting _ metadata attempt =>
      (server.finishConnect attempt).2.toOption.map fun session => (metadata.id, session.id)
  | _ => none

/-- A session that is opened gets the number that has been reserved for it. -/
theorem Task.reserved_of_joins? {server : Server} {task : Task} {tag : Nat × Nat}
    (joins : task.joins? server = some tag) : task.reserved = [tag.1] := by
  obtain ⟨agent, phase, due⟩ := task
  cases phase with
  | prewarming made metadata attempt =>
      obtain ⟨session, _, rfl⟩ := Option.map_eq_some_iff.mp joins
      rfl
  | connecting checkout metadata attempt =>
      obtain ⟨session, _, rfl⟩ := Option.map_eq_some_iff.mp joins
      rfl
  | _ => cases joins

@[simp]
theorem Task.reserved_notify (task : Task) : task.notify.reserved = task.reserved := by
  obtain ⟨agent, phase, due⟩ := task
  cases phase <;> rfl

/-- The numbers in reserve for connections that are being made. -/
def reserved (pool : Pool) : List Nat := pool.tasks.flatMap Task.reserved

@[simp]
theorem reserved_notifyOne (pool : Pool) : pool.notifyOne.reserved = pool.reserved := by
  have first (tasks : List Task) :
      (notifyFirst tasks).flatMap Task.reserved = tasks.flatMap Task.reserved := by
    induction tasks with
    | nil => rfl
    | cons task rest ih =>
        rw [notifyFirst]
        split <;> simp [ih]
  exact first pool.tasks

@[simp]
theorem reserved_notifyMany (count : Nat) (pool : Pool) :
    (notifyMany count pool).reserved = pool.reserved := by
  induction count generalizing pool with
  | zero => rfl
  | succ count ih => exact (ih pool.notifyOne).trans pool.reserved_notifyOne

@[simp]
theorem nextId_notifyMany (count : Nat) (pool : Pool) :
    (notifyMany count pool).nextId = pool.nextId := by
  induction count generalizing pool with
  | zero => rfl
  | succ count ih => exact ih pool.notifyOne

@[simp]
theorem reserved_notifyAll (pool : Pool) : pool.notifyAll.reserved = pool.reserved := by
  simp [reserved, notifyAll, List.flatMap_map]

theorem reserved_park (pool : Pool) (task : Task) :
    (pool.park task).reserved = pool.reserved ++ task.reserved := by
  simp [reserved, Pool.park]

/-- An agent that goes on takes its number out of the reserve. -/
theorem reserved_perm {pool : Pool} {agent : Agent} {task : Task}
    (found : pool.task? agent = some task) :
    pool.reserved.Perm (task.reserved ++ (pool.unpark agent).reserved) :=
  (perm_cons_eraseP found).flatMap_right Task.reserved

/-! ### What is known of the connections of a pool -/

/-- Each connection of a pool has a number that is known for its session. -/
structure Known (known : Nat × Nat → Prop) (pool : Pool) : Prop where
  idle (connection : Connection) (queued : connection ∈ pool.idle) : known connection.tag
  leases (lease : Lease) (valid : lease ∈ pool.leases) : known lease.connection.tag
  tasks : pool.All pool.config fun task => ∀ connection ∈ task.connections, known connection.tag

theorem known_of_mem {known : Nat × Nat → Prop} {pool : Pool} (all : pool.Known known)
    {connection : Connection} (member : connection ∈ pool.connections) : known connection.tag := by
  rcases List.mem_append.mp member with outside | held
  · rcases List.mem_append.mp outside with queued | lent
    · exact all.idle connection queued
    · obtain ⟨lease, valid, rfl⟩ := List.mem_map.mp lent
      exact all.leases lease valid
  · obtain ⟨task, present, inside⟩ := List.mem_flatMap.mp held
    exact all.tasks.2 task present connection inside

namespace Known

variable {known : Nat × Nat → Prop} {pool : Pool}

theorem mono {more : Nat × Nat → Prop} (all : pool.Known known) (le : ∀ tag, known tag → more tag) :
    pool.Known more where
  idle connection queued := le _ (all.idle connection queued)
  leases lease valid := le _ (all.leases lease valid)
  tasks := ⟨rfl, fun task present connection inside =>
    le _ (all.tasks.2 task present connection inside)⟩

/-- Telling somebody to look again moves no connection. -/
theorem told (task : Task) (before : ∀ connection ∈ task.connections, known connection.tag) :
    ∀ connection ∈ task.notify.connections, known connection.tag := by
  rw [Task.connections_notify]
  exact before

theorem notifyOne (all : pool.Known known) : pool.notifyOne.Known known :=
  { all with tasks := all.tasks.notifyOne told }

theorem notifyMany (all : pool.Known known) (count : Nat) :
    (Pool.notifyMany count pool).Known known := by
  induction count generalizing pool with
  | zero => exact all
  | succ count ih => exact ih all.notifyOne

theorem endLease (all : pool.Known known) (ticket : Nat) : (pool.endLease ticket).Known known :=
  { all with leases := fun lease valid => all.leases lease (List.mem_of_mem_eraseP valid) }

theorem updateLease (all : pool.Known known) {connection : Connection}
    (tag : known connection.tag) (ticket : Nat) :
    (pool.updateLease ticket connection).Known known := by
  refine { all with leases := ?_ }
  intro lease valid
  obtain ⟨old, before, rfl⟩ := List.mem_map.mp valid
  split
  · exact tag
  · exact all.leases old before

theorem putSession (all : pool.Known known) {ticket : Nat} {session : Session}
    (same : ∀ lease, pool.lease? ticket = some lease → session.id = lease.connection.name) :
    (pool.putSession ticket session).Known known := by
  rw [Pool.putSession]
  split
  case h_2 => exact all
  case h_1 lease found =>
    apply all.updateLease
    have before := all.leases lease (List.mem_of_find?_eq_some found)
    rw [Connection.tag, ← same lease found] at before
    exact before

end Known

/-! ### What a turn does with numbers -/

/-- How a turn leaves a pool in which some numbers were reserved and `next` was the next one:
connections have no other numbers than those known, and at most one new number is reserved. -/
structure Numbers (after : Pool) (known : Nat × Nat → Prop) (reserved : List Nat) (next : Nat) :
    Prop where
  known : after.Known known
  reserves : after.reserved = reserved ∧ after.nextId = next ∨
    after.reserved = reserved ++ [next] ∧ after.nextId = next + 1

end Pool

/-- What a turn does with the numbers of the pool that the agent finds. -/
def Turn.Numbers (turn : Turn) (site : Site) (known : Nat × Nat → Prop) : Prop :=
  turn.1.pool.Numbers known site.pool.reserved site.pool.nextId

/-- Only the numbers that the agent finds matter. -/
theorem Turn.Numbers.congr {turn : Turn} {site other : Site} {known : Nat × Nat → Prop}
    (numbers : turn.Numbers other known) (reserved : other.pool.reserved = site.pool.reserved)
    (nextId : other.pool.nextId = site.pool.nextId) : turn.Numbers site known := by
  rw [Turn.Numbers, ← reserved, ← nextId]
  exact numbers

end SessionPool
