import SessionPool.Proofs.Holding

/-!
# Balanced pools

The counts of a pool agree with what its agents hold, whoever works and whoever waits. The agent
whose turn it is has taken its task out of the pool, so what it holds is added as its hand: a turn
begins with the hand of the task that goes on and ends with an empty hand.

Nobody sleeps beside something free. The hidden reason is that those who have been told to look
again are at least as many as the idle connections and the free slots together, as long as somebody
sleeps; this is why a look to come is something that an agent can hold.
-/

namespace SessionPool

namespace Pool

/-- How often an agent can be at work: the checker once, and each call once that has been made. -/
def Agent.limit (callers : Nat) : Agent → Nat
  | .caller number => if number < callers then 1 else 0
  | .checker => 1

/-- What is true of every agent that waits in a pool that has been opened. -/
def Task.Proper (task : Task) : Prop :=
  match task.phase with
  | .prewarming _ _ _ => False
  | .connecting checkout _ _ | .borrowProbe checkout _ | .waiting checkout _ =>
      task.agent = .caller checkout.caller
  | .returnProbe _ => True
  | .sweeping sweep _ pending =>
      sweep.checked = sweep.kept.length + sweep.evicted.length + 1 + pending.length
  | .resting => task.agent = .checker
  | .joining _ => task.due = none

@[simp]
theorem Task.proper_notify (task : Task) : task.notify.Proper ↔ task.Proper := by
  obtain ⟨agent, phase, due⟩ := task
  cases phase <;> rfl

theorem proper_notifyFirst {tasks : List Task} (proper : ∀ task ∈ tasks, task.Proper) :
    ∀ task ∈ notifyFirst tasks, task.Proper := by
  induction tasks with
  | nil => exact proper
  | cons first rest ih =>
      obtain ⟨firstProper, restProper⟩ := List.forall_mem_cons.mp proper
      unfold notifyFirst
      split
      · exact List.forall_mem_cons.mpr ⟨(Task.proper_notify first).mpr firstProper, restProper⟩
      · exact List.forall_mem_cons.mpr ⟨firstProper, ih restProper⟩

/-- The counts of a pool agree with what is held. Calls are numbered below `callers`. -/
structure Books (callers : Nat) (pool : Pool) (held : Holding) : Prop where
  total_eq : pool.total = pool.idle.length + pool.active.length + pool.validating + held.slots
  total_le : pool.total ≤ pool.config.maxConnections
  validating_eq : pool.validating = held.drained
  waiting_eq : pool.waiting = held.checkouts
  /-- What is lent is active. -/
  lent_le (id : Nat) :
    (pool.leases.map (·.connection.id)).count id + held.lent id ≤ pool.active.count id
  /-- As long as returned connections find the pool, nothing else is active. -/
  le_lent (present : pool.dropped = false ∨ 0 < held.returning) (id : Nat) :
    pool.active.count id ≤ (pool.leases.map (·.connection.id)).count id + held.lent id
  /-- Beside a sleeper, there is a look to come for everything that is free. -/
  free_le_looks (asleep : 0 < held.asleep) :
    pool.idle.length + (pool.config.maxConnections - pool.total) ≤ held.looks
  awake (shutdown : pool.isShutdown = true) : held.asleep = 0
  /-- After a shutdown nothing is idle, unless the shutdown has still to dispose of it. -/
  idle_eq (shutdown : pool.isShutdown = true) : pool.idle = [] ∨ 0 < held.closings
  shutdown (closed : 0 < held.closings ∨ pool.dropped = true) : pool.isShutdown = true
  /-- A call is at work at most once, and holds at most one lease when it is over. -/
  agents_le (agent : Agent) :
    (pool.leases.map (Agent.caller ·.ticket)).count agent + held.agents agent ≤
      agent.limit callers

/-- A pool in the middle of a turn: its counts agree with what the waiting agents hold and with the
hand of the one at work. -/
structure Balanced (callers : Nat) (pool : Pool) (hand : Holding) : Prop where
  books : Books callers pool (Task.holdings pool.tasks + hand)
  proper : ∀ task ∈ pool.tasks, task.Proper

namespace Balanced

variable {callers : Nat} {pool : Pool} {hand : Holding}

/-- Counting what has been done changes nothing else. -/
theorem count (balanced : Balanced callers pool hand) (change : Counters → Counters) :
    Balanced callers (pool.count change) hand :=
  ⟨{ balanced.books with }, balanced.proper⟩

/-- An agent that goes on takes in hand what its task holds. -/
theorem unpark (balanced : Balanced callers pool 0) {agent : Agent} {task : Task}
    (found : pool.task? agent = some task) :
    Balanced callers (pool.unpark agent) task.holding := by
  have books := balanced.books
  rw [Task.holdings_unpark found, add_zero] at books
  refine ⟨{ books with }, ?_⟩
  intro other member
  exact balanced.proper other (List.mem_of_mem_eraseP member)

/-- An agent that waits leaves what it has in hand with its task. -/
theorem park (task : Task) (balanced : Balanced callers pool task.holding)
    (proper : task.Proper) : Balanced callers (pool.park task) 0 := by
  have books := balanced.books
  have tasks : Task.holdings (pool.park task).tasks + 0 =
      Task.holdings pool.tasks + task.holding := by
    simp [Pool.park, -Task.holding]
  constructor
  · rw [tasks]
    exact { books with }
  · intro other member
    rcases List.mem_append.mp member with before | last
    · exact balanced.proper other before
    · rw [List.mem_singleton.mp last]
      exact proper

/-- A call that is over is at work no more. -/
theorem finish {agent : Agent} (balanced : Balanced callers pool agent.holding) :
    Balanced callers pool 0 := by
  refine ⟨{ balanced.books with agents_le := ?_ }, balanced.proper⟩
  intro other
  have agents := balanced.books.agents_le other
  simp only [Holding.agents_add, Holding.agents_zero] at agents ⊢
  omega

/-- A call that is made has a number that nobody else has. -/
theorem begin (balanced : Balanced callers pool 0) :
    Balanced (callers + 1) pool (Agent.caller callers).holding := by
  refine ⟨{ balanced.books with agents_le := ?_ }, balanced.proper⟩
  intro agent
  have agents := balanced.books.agents_le agent
  cases agent with
  | checker => simpa [Agent.limit] using agents
  | caller number =>
      simp only [Agent.limit, Agent.holding, Holding.agents_add, Holding.agents_zero,
        List.count_singleton, beq_iff_eq, Agent.caller.injEq] at agents ⊢
      split at agents <;> split <;> split <;> omega

/-- Calls that have been made elsewhere do not matter. -/
theorem mono {more : Nat} (balanced : Balanced callers pool hand) (le : callers ≤ more) :
    Balanced more pool hand := by
  refine ⟨{ balanced.books with agents_le := ?_ }, balanced.proper⟩
  intro agent
  have agents := balanced.books.agents_le agent
  cases agent with
  | checker => exact agents
  | caller number =>
      simp only [Agent.limit] at agents ⊢
      split at agents <;> split <;> omega

/-! ### Telling sleepers -/

/-- Something that has become free is paid for by telling a sleeper, if there is one. -/
theorem notifyOne (balanced : Balanced callers pool (hand + Holding.look 1))
    (awake : hand.asleep = 0) : Balanced callers pool.notifyOne hand := by
  have tasks : Task.holdings pool.notifyOne.tasks =
      { Task.holdings pool.tasks with
        looks := (Task.holdings pool.tasks).looks + min 1 (Task.holdings pool.tasks).asleep
        asleep := (Task.holdings pool.tasks).asleep - 1 } :=
    Task.holdings_notifyFirst pool.tasks
  constructor
  · rw [tasks]
    refine { balanced.books with free_le_looks := ?_, awake := ?_ }
    · intro asleep
      have looks := balanced.books.free_le_looks
      simp [Holding.look, awake, Pool.notifyOne] at asleep looks ⊢
      omega
    · intro shutdown
      have asleep := balanced.books.awake shutdown
      simp [awake] at asleep ⊢
      omega
  · exact proper_notifyFirst balanced.proper

/-- The same for several things that have become free. -/
theorem notifyMany {count : Nat} (balanced : Balanced callers pool (hand + Holding.look count))
    (awake : hand.asleep = 0) : Balanced callers (Pool.notifyMany count pool) hand := by
  induction count generalizing pool with
  | zero =>
      have nothing : hand + Holding.look 0 = hand := add_zero hand
      rwa [nothing] at balanced
  | succ count ih =>
      have split : hand + Holding.look (count + 1) =
          hand + Holding.look count + Holding.look 1 := by
        ext <;> simp [Holding.look]
        omega
      rw [split] at balanced
      exact ih (balanced.notifyOne (by simpa [Holding.look] using awake))

end Balanced

end Pool

end SessionPool
