import SessionPool.Pool.Site

/-!
# Sweeps

A sweep takes all connections out of the idle queue and examines them in order. One that has been
unused for too long is evicted unseen, as long as the pool, by the sweep's own count, stays above
its floor; any other is probed, and evicted if it is dead. At the end the connections found alive
go back in front of what has been queued meanwhile. While the sweep waits for an answer, others
work with what is left.

The background checker sweeps, rests for an interval, and sweeps again, until it is asked to stop.
-/

namespace SessionPool

namespace Pool.Sweep

/-- A sweep that has taken `checked` connections from a pool of `retained`. -/
def start (checked retained : Nat) : Sweep := ⟨checked, retained, [], [], 0, 0⟩

/-- The connection that is being examined is alive. -/
def keep (sweep : Sweep) (connection : Connection) : Sweep :=
  { sweep with kept := sweep.kept ++ [connection] }

/-- The connection that is being examined has failed its probe. -/
def evictDead (sweep : Sweep) (connection : Connection) : Sweep :=
  { sweep with
    retained := sweep.retained - 1
    evicted := sweep.evicted ++ [connection.broken]
    evictedDead := sweep.evictedDead + 1 }

/-- The connection that is being examined has been unused for too long. -/
def evictIdle (sweep : Sweep) (connection : Connection) : Sweep :=
  { sweep with
    retained := sweep.retained - 1
    evicted := sweep.evicted ++ [connection]
    evictedIdle := sweep.evictedIdle + 1 }

/-- Whether a connection whose turn comes now is evicted unseen: the pool can spare it, and it has
been unused for too long. -/
def canSpare (sweep : Sweep) (config : Config) (connection : Connection) (now : Nat) : Bool :=
  config.minConnections < sweep.retained &&
    connection.metadata.isIdleExpired config.maxIdleTime now

/-- The outcome so far. -/
def report (sweep : Sweep) : Report := ⟨sweep.checked, sweep.evictedDead, sweep.evictedIdle⟩

end Pool.Sweep

namespace Site

open Pool (Agent Phase Sweep Report)

/-! ### The checker -/

/-- The checker rests until the next sweep is due, or for ever if that time does not exist. -/
def rest (site : Site) : Site :=
  site.withPool (·.park
    ⟨.checker, .resting, Instant.after? site.now site.pool.config.validationInterval⟩)

/-- What an agent does after its sweep: a caller has its report, and the checker rests, unless it
has been asked to stop. -/
def afterSweep (site : Site) (agent : Agent) (report : Report) : Turn :=
  match agent with
  | .caller _ => site.answer (.ok (.swept report))
  | .checker =>
      if site.pool.stopRequested then site.answer (.ok (.swept report))
      else site.rest.answer (.ok (.swept report))

/-! ### The sweep -/

/-- All connections have been examined: those found alive are idle again, and the others go. After a
shutdown all of them go. -/
def commit (site : Site) (agent : Agent) (sweep : Sweep) : Turn :=
  let pool := { site.pool with validating := site.pool.validating - sweep.checked }
  let site :=
    if pool.isShutdown then
      { site with pool := { pool with total := pool.total - sweep.checked } }.disposeAll sweep.kept
    else
      let pool := { pool with
        total := pool.total - sweep.evicted.length
        idle := sweep.kept ++ pool.idle }
      { site with pool := pool.notifyMany sweep.checked }
  let site := site.disposeAll sweep.evicted
  (site.withPool (·.count (·.swept sweep.report))).afterSweep agent sweep.report

/-- Examine connections up to the first one that has to be probed. -/
def examine (site : Site) (agent : Agent) (sweep : Sweep) : List Connection → Turn
  | [] => site.commit agent sweep
  | connection :: pending =>
      if sweep.canSpare site.pool.config connection site.now then
        site.examine agent (sweep.evictIdle connection) pending
      else site.probe agent connection.session (.sweeping sweep connection pending)

/-- Begin a sweep. A pool that is shut down is not swept. -/
def sweep (site : Site) (agent : Agent) : Turn :=
  let pool := site.pool
  if pool.isShutdown then site.afterSweep agent .zero
  else
    let drained := pool.idle
    let checked := drained.length
    { site with pool := { pool with idle := [], validating := pool.validating + checked } }.examine
      agent (.start checked pool.total) drained

/-- The probe of a sweep has been answered. -/
def sweepProbed (site : Site) (agent : Agent) (sweep : Sweep) (connection : Connection)
    (pending : List Connection) : Turn :=
  if site.server.answers connection.session then
    site.examine agent (sweep.keep connection) pending
  else site.examine agent (sweep.evictDead connection) pending

/-- The checker's rest is over. -/
def wake (site : Site) : Turn :=
  if site.pool.stopRequested || site.pool.isShutdown then (site, none)
  else site.sweep .checker

end Site

end SessionPool
