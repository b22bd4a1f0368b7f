import Mathlib.Algebra.Order.BigOperators.Group.List
import Mathlib.Algebra.Order.Group.Nat
import SessionPool.Proofs.Accounting

/-!
# What is counted is there

Whatever somebody in a pool takes out of a count has been counted before. The caller at the end of a
checkout is one of those who wait, a connection that comes back is active, and a sweep gives back no
more than it has taken. All this follows from the balance of the pool.
-/

namespace SessionPool.Pool

/-- What an agent is going to take out of the counts of a pool when it goes on is there. -/
def Task.Backed (pool : Pool) (task : Task) : Prop :=
  match task.phase with
  | .connecting _ _ _ => 0 < pool.waiting ∧ 0 < pool.total
  | .borrowProbe _ connection => 0 < pool.waiting ∧ connection.id ∈ pool.active
  | .waiting _ _ => 0 < pool.waiting
  | .returnProbe connection => connection.id ∈ pool.active
  | .sweeping sweep _ _ => sweep.checked ≤ pool.validating
  | .prewarming _ _ _ | .resting | .joining _ => True

/-- What anybody is going to take out of the counts of a pool is there. -/
structure Backed (pool : Pool) : Prop where
  places_le : pool.idle.length + pool.active.length + pool.validating ≤ pool.total
  lent (lease : Lease) (held : lease ∈ pool.leases) : lease.connection.id ∈ pool.active
  waits (task : Task) (present : task ∈ pool.tasks) : task.Backed pool

namespace Backed

variable {pool : Pool} (backed : Backed pool)

include backed

theorem total_pos {id : Nat} (active : id ∈ pool.active) : 0 < pool.total := by
  have some := List.length_pos_of_mem active
  have places := backed.places_le
  omega

theorem idle_le : pool.idle.length ≤ pool.total := by
  have places := backed.places_le
  omega

/-- All that a sweep has taken, and all that the next one will take, is counted. -/
theorem swept_le : pool.idle.length + pool.validating ≤ pool.total := by
  have places := backed.places_le
  omega

theorem validating_le : pool.validating ≤ pool.total := by
  have places := backed.places_le
  omega

/-- Nothing changes when somebody goes on. -/
theorem unpark (agent : Agent) : (pool.unpark agent).Backed where
  places_le := backed.places_le
  lent := backed.lent
  waits task present := backed.waits task (List.mem_of_mem_eraseP present)

end Backed

namespace Balanced

variable {callers : Nat} {pool : Pool} (balanced : Balanced callers pool 0)

include balanced

theorem waiting_pos {task : Task} (present : task ∈ pool.tasks)
    (inside : task.isCheckingOut = true) : 0 < pool.waiting := by
  have waiting := balanced.books.waiting_eq
  rw [add_zero, Task.checkouts_holdings] at waiting
  rw [waiting]
  exact List.countP_pos_iff.mpr ⟨task, present, inside⟩

/-- What an agent has in its hands for a caller or from one is active. -/
theorem active_of_lentIds {task : Task} (present : task ∈ pool.tasks) {id : Nat}
    (own : id ∈ task.lentIds) : id ∈ pool.active := by
  have lent := balanced.books.lent_le id
  rw [add_zero, Task.lent_holdings] at lent
  have some := List.count_pos_iff.mpr (List.mem_flatMap.mpr ⟨task, present, own⟩)
  exact List.count_pos_iff.mp (by omega)

theorem active_of_lease {lease : Lease} (held : lease ∈ pool.leases) :
    lease.connection.id ∈ pool.active := by
  have lent := balanced.books.lent_le lease.connection.id
  have some := List.count_pos_iff.mpr (List.mem_map_of_mem (f := (·.connection.id)) held)
  exact List.count_pos_iff.mp (by omega)

theorem drained_le {task : Task} (present : task ∈ pool.tasks) :
    task.drained.length ≤ pool.validating := by
  have validating := balanced.books.validating_eq
  rw [add_zero, Task.drained_holdings balanced.proper] at validating
  rw [validating]
  exact List.le_sum_of_mem (List.mem_map_of_mem (f := (·.drained.length)) present)

theorem backed : pool.Backed where
  places_le := by
    have total := balanced.books.total_eq
    omega
  lent lease held := balanced.active_of_lease held
  waits task present := by
    have inside := balanced.waiting_pos present
    have own (id : Nat) (held : id ∈ task.lentIds) := balanced.active_of_lentIds present held
    have drained := balanced.drained_le present
    have proper := balanced.proper task present
    obtain ⟨agent, phase, due⟩ := task
    cases phase with
    | connecting checkout metadata attempt =>
        refine ⟨inside rfl, ?_⟩
        have total := balanced.books.total_eq
        rw [add_zero, Task.slots_holdings] at total
        have some := List.countP_pos_iff.mpr ⟨_, present, (rfl : Task.isConnecting _ = true)⟩
        omega
    | borrowProbe checkout connection =>
        exact ⟨inside rfl, own connection.id (List.mem_singleton_self _)⟩
    | waiting checkout notified => exact inside rfl
    | returnProbe connection => exact own connection.id (List.mem_singleton_self _)
    | sweeping sweep current pending =>
        have sizes : sweep.checked =
            sweep.kept.length + sweep.evicted.length + 1 + pending.length := proper
        simp only [Task.drained, List.length_append, List.length_cons] at drained
        change sweep.checked ≤ pool.validating
        omega
    | _ => trivial

end Balanced

/-- What is counted in a pool is there, whether it is open yet or not. -/
theorem Sound.backed {callers : Nat} {pool : Pool} (sound : Sound callers pool) : pool.Backed := by
  rcases sound with filling | balanced
  · obtain ⟨number, made, metadata, attempt, due, alone, called, below, unknown⟩ := filling
    constructor
    · simp [unknown.active_eq, unknown.validating_eq, unknown.total_eq, unknown.idle_length]
    · simp [unknown.leases_eq]
    · simp [alone, Task.Backed]
  · exact balanced.backed

end SessionPool.Pool
