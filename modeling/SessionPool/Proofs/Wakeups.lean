import SessionPool.Proofs.Accounting

/-!
# Nobody sleeps beside something free

A caller that finds nothing free sleeps until it is told to look again. Whatever becomes free is
paid for by telling somebody, so as long as somebody sleeps, at least as many others are about to
look as connections and slots are free. When nobody is about to look, nothing is free.
-/

namespace SessionPool

namespace Pool

namespace Task

/-- Whether the agent has been told to look again and has not looked yet. -/
def isTold (task : Task) : Bool :=
  match task.phase with
  | .waiting _ notified => notified
  | _ => false

theorem looks_holdings (tasks : List Task) :
    (holdings tasks).looks = tasks.countP isTold := by
  apply countP_holdings (·.looks) rfl fun _ _ => rfl
  rintro ⟨agent, phase, due⟩
  cases phase with
  | waiting checkout notified => cases notified <;> rfl
  | _ => rfl

theorem asleep_holdings (tasks : List Task) :
    (holdings tasks).asleep = tasks.countP isAsleep := by
  apply countP_holdings (·.asleep) rfl fun _ _ => rfl
  rintro ⟨agent, phase, due⟩
  cases phase with
  | waiting checkout notified => cases notified <;> rfl
  | _ => rfl

end Task

/-- Nobody who is blocked until something becomes free has been told to look again. -/
def AllAsleep (pool : Pool) : Prop :=
  ∀ task ∈ pool.tasks, task.isWaiting = true → task.isAsleep = true

/-- Beside a sleeper, somebody is about to look for each connection and each slot that is free. -/
theorem Sound.free_le_told {callers : Nat} {pool : Pool} (sound : Sound callers pool) {task : Task}
    (member : task ∈ pool.tasks) (asleep : task.isAsleep = true) :
    pool.isShutdown = false ∧
      pool.idle.length + (pool.config.maxConnections - pool.total) ≤
        pool.tasks.countP Task.isTold := by
  rcases sound with filling | balanced
  · obtain ⟨number, made, metadata, attempt, due, alone, _⟩ := filling
    rw [alone] at member
    rw [List.mem_singleton.mp member] at asleep
    contradiction
  · have books := balanced.books
    rw [add_zero] at books
    have sleeper : 0 < (Task.holdings pool.tasks).asleep := by
      rw [Task.asleep_holdings]
      exact List.countP_pos_iff.mpr ⟨task, member, asleep⟩
    constructor
    · cases shutdown : pool.isShutdown with
      | false => rfl
      | true =>
          have awake := books.awake shutdown
          omega
    · have looks := books.free_le_looks sleeper
      rwa [Task.looks_holdings] at looks

end Pool

namespace World

variable {world : World} {pool : Pool}

/-- When every thread is blocked, everyone who waits for something free is still to be told. -/
theorem allAsleep_of_isQuiet (quiet : world.isQuiet = true) (member : pool ∈ world.pools) :
    pool.AllAsleep := by
  intro task present waiting
  have idle := List.all_eq_true.mp (Bool.and_eq_true_iff.mp quiet).1 pool member
  have unready := List.all_eq_true.mp idle task present
  obtain ⟨agent, phase, due⟩ := task
  cases phase with
  | waiting checkout notified =>
      cases notified with
      | false => rfl
      | true => simp [Pool.isReady, Pool.isWoken] at unready
  | _ => simp [Pool.Task.isWaiting] at waiting

/-- No wake-up is lost. If a caller is blocked until something becomes free, and nobody has been
told to look again, then nothing is free, and the pool lends. -/
theorem nothing_free_of_allAsleep (possible : Possible world) (member : pool ∈ world.pools)
    (asleep : pool.AllAsleep) (waits : ∃ task ∈ pool.tasks, task.isWaiting = true) :
    pool.isShutdown = false ∧ pool.idle = [] ∧ pool.total = pool.config.maxConnections := by
  obtain ⟨task, present, waiting⟩ := waits
  obtain ⟨running, free⟩ :=
    (possible.sound pool member).free_le_told present (asleep task present waiting)
  have untold : pool.tasks.countP Pool.Task.isTold = 0 := by
    rw [List.countP_eq_zero]
    intro other otherPresent told
    obtain ⟨agent, phase, due⟩ := other
    cases phase with
    | waiting checkout notified =>
        have untold := asleep _ otherPresent rfl
        simp only [Pool.Task.isAsleep, Pool.Task.isTold] at untold told
        rw [told] at untold
        contradiction
    | _ => contradiction
  have capacity := (possible.sound pool member).accounted.total_le
  rw [untold] at free
  constructor
  · exact running
  · constructor
    · exact List.length_eq_zero_iff.mp (by omega)
    · omega

theorem nothing_free_crowded : ∃ pool ∈ crowded.pools,
    (∃ task ∈ pool.tasks, task.isWaiting = true) ∧
      pool.isShutdown = false ∧ pool.idle = [] ∧ pool.total = pool.config.maxConnections := by
  have member : crowded.pools.head (by decide) ∈ crowded.pools := List.head_mem _
  have waits : ∃ task ∈ (crowded.pools.head (by decide)).tasks, task.isWaiting = true := by decide
  have asleep := allAsleep_of_isQuiet (by decide) member
  exact ⟨_, member, waits, nothing_free_of_allAsleep possible_crowded member asleep waits⟩

end World

end SessionPool
