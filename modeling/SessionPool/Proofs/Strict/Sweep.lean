import SessionPool.Proofs.Duty.Turns
import SessionPool.Proofs.Strict.Checkout

/-!
# Strict sweeps

A sweep keeps a count of its own of what the pool retains, and takes out of it what it evicts. At
the end it takes out of the counts of the pool what it has taken from the queue, or what it has
evicted; others have changed these counts meanwhile, but what a sweep has in its hands stays counted
until then. As long as the sweep has lost sight of nothing, its own counts suffice as well.
-/

namespace SessionPool

/-! ### What a sweep does -/

namespace Pool

/-- `Sweep.evictDead` with strict subtraction. -/
def Sweep.evictDead? (sweep : Sweep) (connection : Connection) : Option Sweep := do
  let retained ← less? sweep.retained 1
  return { sweep with
    retained
    evicted := sweep.evicted ++ [connection.broken]
    evictedDead := sweep.evictedDead + 1 }

/-- `Sweep.evictIdle` with strict subtraction. -/
def Sweep.evictIdle? (sweep : Sweep) (connection : Connection) : Option Sweep := do
  let retained ← less? sweep.retained 1
  return { sweep with
    retained
    evicted := sweep.evicted ++ [connection]
    evictedIdle := sweep.evictedIdle + 1 }

/-- `Counters.swept` with strict subtraction. -/
def Counters.swept? (counters : Counters) (report : Report) : Option Counters := do
  let probed ← less? report.checked report.evictedIdle
  return { counters with
    healthChecksPerformed := counters.healthChecksPerformed + probed
    healthChecksFailed := counters.healthChecksFailed + report.evictedDead }

end Pool

namespace Site

open Pool (Agent Sweep)

/-- `Site.commit` with strict subtraction. -/
def commit? (site : Site) (agent : Agent) (sweep : Sweep) : Option Turn := do
  let validating ← less? site.pool.validating sweep.checked
  let pool := { site.pool with validating }
  let site ←
    if pool.isShutdown then do
      let total ← less? pool.total sweep.checked
      pure ({ site with pool := { pool with total } }.disposeAll sweep.kept)
    else do
      let total ← less? pool.total sweep.evicted.length
      let pool := { pool with total, idle := sweep.kept ++ pool.idle }
      pure { site with pool := pool.notifyMany sweep.checked }
  let site := site.disposeAll sweep.evicted
  let counters ← site.pool.counters.swept? sweep.report
  return (site.withPool ({ · with counters })).afterSweep agent sweep.report

/-- `Site.examine` with strict subtraction. -/
def examine? (site : Site) (agent : Agent) (sweep : Sweep) : List Connection → Option Turn
  | [] => site.commit? agent sweep
  | connection :: pending =>
      if sweep.canSpare site.pool.config connection site.now then do
        let sweep ← sweep.evictIdle? connection
        site.examine? agent sweep pending
      else site.probe agent connection.session (.sweeping sweep connection pending)

/-- `Site.sweep` with strict subtraction. -/
def sweep? (site : Site) (agent : Agent) : Option Turn :=
  let pool := site.pool
  if pool.isShutdown then site.afterSweep agent .zero
  else
    let drained := pool.idle
    let checked := drained.length
    { site with
      pool := { pool with idle := [], validating := pool.validating + checked } }.examine?
        agent (.start checked pool.total) drained

/-- `Site.sweepProbed` with strict subtraction. -/
def sweepProbed? (site : Site) (agent : Agent) (sweep : Sweep) (connection : Connection)
    (pending : List Connection) : Option Turn :=
  if site.server.answers connection.session then
    site.examine? agent (sweep.keep connection) pending
  else do
    let sweep ← sweep.evictDead? connection
    site.examine? agent sweep pending

/-- `Site.wake` with strict subtraction. -/
def wake? (site : Site) : Option Turn :=
  if site.pool.stopRequested || site.pool.isShutdown then some (site, none)
  else site.sweep? .checker

end Site

/-! ### It has counted what it evicts -/

namespace Pool.Sweep.Tallies

variable {sweep : Sweep} {left : Nat}

theorem evictDead?_eq (tallies : sweep.Tallies (left + 1)) (connection : Connection) :
    sweep.evictDead? connection = some (sweep.evictDead connection) := by
  have retained := tallies.le_retained
  rw [Sweep.evictDead?, less?_eq (by omega)]
  rfl

theorem evictIdle?_eq (tallies : sweep.Tallies (left + 1)) (connection : Connection) :
    sweep.evictIdle? connection = some (sweep.evictIdle connection) := by
  have retained := tallies.le_retained
  rw [Sweep.evictIdle?, less?_eq (by omega)]
  rfl

theorem evicted_le (tallies : sweep.Tallies left) : sweep.evicted.length ≤ sweep.checked := by
  have checked := tallies.checked_eq
  omega

theorem swept?_eq (tallies : sweep.Tallies left) (counters : Counters) :
    counters.swept? sweep.report = some (counters.swept sweep.report) := by
  have probed : sweep.report.evictedIdle ≤ sweep.report.checked := tallies.evictedIdle_le
  rw [Counters.swept?, less?_eq probed]
  rfl

end Pool.Sweep.Tallies

namespace Site

open Pool (Agent Sweep)

variable {site : Site} {sweep : Sweep} {pending : List Connection}

theorem commit?_eq (agent : Agent) (tallies : sweep.Tallies 0)
    (taken : sweep.checked ≤ site.pool.validating)
    (counted : site.pool.validating ≤ site.pool.total) :
    site.commit? agent sweep = some (site.commit agent sweep) := by
  rw [commit?, commit, less?_eq taken]
  simp only [Option.bind_eq_bind, Option.bind_some]
  -- After a shutdown all that has been taken leaves the total, and otherwise what is evicted.
  split
  · rw [less?_eq (Nat.le_trans taken counted)]
    simp only [Option.bind_some, Option.pure_def, tallies.swept?_eq]
    rfl
  · rw [less?_eq (Nat.le_trans tallies.evicted_le (Nat.le_trans taken counted))]
    simp only [Option.bind_some, Option.pure_def, tallies.swept?_eq]
    rfl

theorem examine?_eq (agent : Agent) (tallies : sweep.Tallies pending.length)
    (taken : sweep.checked ≤ site.pool.validating)
    (counted : site.pool.validating ≤ site.pool.total) :
    site.examine? agent sweep pending = some (site.examine agent sweep pending) := by
  -- Each eviction takes one off what is retained, and one off what is left to examine.
  induction pending generalizing sweep with
  | nil => exact commit?_eq agent tallies taken counted
  | cons connection pending ih =>
      rw [examine?, examine]
      split
      · rw [tallies.evictIdle?_eq]
        exact ih (tallies.evictIdle connection) taken
      · rfl

theorem sweep?_eq (agent : Agent)
    (places : site.pool.idle.length + site.pool.validating ≤ site.pool.total) :
    site.sweep? agent = some (site.sweep agent) := by
  rw [sweep?, Site.sweep]
  dsimp only
  split
  · rfl
  · apply examine?_eq
    · exact Sweep.tallies_start (by omega)
    · exact Nat.le_add_left _ _
    · change site.pool.validating + site.pool.idle.length ≤ site.pool.total
      omega

theorem sweepProbed?_eq (agent : Agent) (connection : Connection)
    (tallies : sweep.Tallies (pending.length + 1)) (taken : sweep.checked ≤ site.pool.validating)
    (counted : site.pool.validating ≤ site.pool.total) :
    site.sweepProbed? agent sweep connection pending =
      some (site.sweepProbed agent sweep connection pending) := by
  rw [sweepProbed?, sweepProbed]
  split
  · exact examine?_eq agent (tallies.keep connection) taken counted
  · rw [tallies.evictDead?_eq]
    exact examine?_eq agent (tallies.evictDead connection) taken counted

theorem wake?_eq (places : site.pool.idle.length + site.pool.validating ≤ site.pool.total) :
    site.wake? = some site.wake := by
  rw [wake?, wake]
  split
  · rfl
  · exact sweep?_eq .checker places

end Site

end SessionPool
