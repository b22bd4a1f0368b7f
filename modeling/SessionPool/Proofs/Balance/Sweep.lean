import SessionPool.Pool.Sweep
import SessionPool.Proofs.Balance.Basic

/-!
# Sweeps keep the balance

A sweep holds as many connections as it has taken out of the idle queue, from the moment it begins
until it commits. What it has found out meanwhile does not show in the counts of the pool.
-/

namespace SessionPool.Pool

/-- What an agent holds in a sweep. -/
@[simp]
def Sweep.holding (sweep : Sweep) (agent : Agent) : Holding :=
  { (0 : Holding) with drained := sweep.checked } + agent.holding

/-- Disposing of connections changes nothing in the pool but its counters. -/
theorem pool_disposeAll (site : Site) (connections : List Connection) :
    (site.disposeAll connections).pool =
      { site.pool with counters := (site.disposeAll connections).pool.counters } := by
  induction connections generalizing site with
  | nil => rfl
  | cons first rest ih => exact ih (site.dispose first)

namespace Balanced

variable {callers : Nat} {site : Site} {agent : Agent} {sweep : Sweep}

theorem disposeAll (site : Site) {hand : Holding} (balanced : Balanced callers site.pool hand)
    (connections : List Connection) :
    Balanced callers (site.disposeAll connections).pool hand := by
  rw [pool_disposeAll]
  exact balanced.count fun _ => (site.disposeAll connections).pool.counters

theorem rest (balanced : Balanced callers site.pool Agent.checker.holding) :
    Balanced callers site.rest.pool 0 := by
  unfold Site.rest
  apply park ⟨.checker, .resting, _⟩ _ rfl
  have holding : Task.holding ⟨.checker, .resting,
      Instant.after? site.now site.pool.config.validationInterval⟩ = Agent.checker.holding :=
    zero_add _
  rw [holding]
  exact balanced

theorem afterSweep (site : Site) (balanced : Balanced callers site.pool agent.holding)
    (report : Report) :
    Balanced callers (site.afterSweep agent report).1.pool 0 := by
  unfold Site.afterSweep
  split
  · exact balanced.finish
  · split
    · exact balanced.finish
    · exact balanced.rest

/-- A sweep that is over gives back what it has kept, and a look for everything that it has kept or
evicted. -/
theorem putBack {pool : Pool} (balanced : Balanced callers pool (sweep.holding agent))
    (sizes : sweep.checked = sweep.kept.length + sweep.evicted.length)
    (running : pool.isShutdown = false) :
    Balanced callers
      { pool with
        validating := pool.validating - sweep.checked
        total := pool.total - sweep.evicted.length
        idle := sweep.kept ++ pool.idle }
      (agent.holding + Holding.look sweep.checked) := by
  obtain ⟨books, proper⟩ := balanced
  have total := books.total_eq
  have validating := books.validating_eq
  refine ⟨{ books with
    total_eq := ?_, total_le := ?_, validating_eq := ?_, free_le_looks := ?_, idle_eq := ?_
    agents_le := ?_ }, proper⟩
  · simp at total validating ⊢
    omega
  · exact Nat.le_trans (Nat.sub_le _ _) books.total_le
  · simp at validating ⊢
    omega
  · intro asleep
    have looks := books.free_le_looks
    have room := books.total_le
    simp at asleep looks ⊢
    omega
  · intro shutdown
    rw [running] at shutdown
    contradiction
  · intro other
    simpa using books.agents_le other

/-- A sweep that is over in a pool that is shut down gives nothing back. -/
theorem giveUp {pool : Pool} (balanced : Balanced callers pool (sweep.holding agent))
    (shutdown : pool.isShutdown = true) :
    Balanced callers
      { pool with
        validating := pool.validating - sweep.checked
        total := pool.total - sweep.checked } agent.holding := by
  obtain ⟨books, proper⟩ := balanced
  have total := books.total_eq
  have validating := books.validating_eq
  refine ⟨{ books with
    total_eq := ?_, total_le := ?_, validating_eq := ?_, free_le_looks := ?_, agents_le := ?_ },
    proper⟩
  · simp at total validating ⊢
    omega
  · exact Nat.le_trans (Nat.sub_le _ _) books.total_le
  · simp at validating ⊢
    omega
  · intro asleep
    have awake := books.awake shutdown
    simp at asleep awake
    omega
  · intro other
    simpa using books.agents_le other

theorem commit (balanced : Balanced callers site.pool (sweep.holding agent))
    (sizes : sweep.checked = sweep.kept.length + sweep.evicted.length) :
    Balanced callers (site.commit agent sweep).1.pool 0 := by
  unfold Site.commit
  dsimp only
  split
  case isTrue shutdown =>
    have given := (balanced.giveUp shutdown).disposeAll { site with pool := _ } sweep.kept
    have gone := given.disposeAll _ sweep.evicted
    exact (gone.count (·.swept sweep.report)).afterSweep (Site.withPool _ _) _
  case isFalse running =>
    have put := (balanced.putBack sizes (by simpa using running)).notifyMany (by simp)
    have gone := put.disposeAll { site with pool := _ } sweep.evicted
    exact (gone.count (·.swept sweep.report)).afterSweep (Site.withPool _ _) _

theorem examine (site : Site) (sweep : Sweep) {pending : List Connection}
    (balanced : Balanced callers site.pool (sweep.holding agent))
    (sizes : sweep.checked = sweep.kept.length + sweep.evicted.length + pending.length) :
    Balanced callers (site.examine agent sweep pending).1.pool 0 := by
  induction pending generalizing sweep with
  | nil => exact balanced.commit sizes
  | cons connection pending ih =>
      unfold Site.examine
      split
      · apply ih (sweep.evictIdle connection) balanced
        simp [Sweep.evictIdle] at sizes ⊢
        omega
      · refine balanced.park ⟨agent, .sweeping sweep connection pending, _⟩ ?_
        simp [Task.Proper] at sizes ⊢
        omega

/-- A sweep that begins takes all that is idle. -/
theorem drainIdle {pool : Pool} (balanced : Balanced callers pool agent.holding) (retained : Nat) :
    Balanced callers
      { pool with idle := [], validating := pool.validating + pool.idle.length }
      ((Sweep.start pool.idle.length retained).holding agent) := by
  obtain ⟨books, proper⟩ := balanced
  refine ⟨{ books with
    total_eq := ?_, validating_eq := ?_, free_le_looks := ?_, idle_eq := ?_, agents_le := ?_ },
    proper⟩
  · have total := books.total_eq
    simp at total ⊢
    omega
  · have validating := books.validating_eq
    simp [Sweep.start] at validating ⊢
    omega
  · intro asleep
    have looks := books.free_le_looks
    simp at asleep looks ⊢
    omega
  · intro _
    exact .inl rfl
  · intro other
    simpa using books.agents_le other

theorem beginSweep (balanced : Balanced callers site.pool agent.holding) :
    Balanced callers (site.sweep agent).1.pool 0 := by
  unfold Site.sweep
  dsimp only
  split
  · exact balanced.afterSweep site _
  · exact (balanced.drainIdle _).examine { site with pool := _ } _ (by simp [Sweep.start])

theorem sweepProbed (site : Site) (sweep : Sweep) {connection : Connection}
    {pending : List Connection} (balanced : Balanced callers site.pool (sweep.holding agent))
    (sizes : sweep.checked = sweep.kept.length + sweep.evicted.length + 1 + pending.length) :
    Balanced callers (site.sweepProbed agent sweep connection pending).1.pool 0 := by
  unfold Site.sweepProbed
  split
  · apply examine site (sweep.keep connection) balanced
    simp [Sweep.keep] at sizes ⊢
    omega
  · apply examine site (sweep.evictDead connection) balanced
    simp [Sweep.evictDead] at sizes ⊢
    omega

theorem wake (balanced : Balanced callers site.pool Agent.checker.holding) :
    Balanced callers site.wake.1.pool 0 := by
  unfold Site.wake
  split
  · exact balanced.finish
  · exact balanced.beginSweep

end Balanced

end SessionPool.Pool
