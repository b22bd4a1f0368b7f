import SessionPool.Pool.Site

/-!
# Closing a pool

A shutdown tells all callers that wait, asks the checker to stop, waits for its end, and then
disposes of the idle connections. Connections that are lent are disposed of when they come back.
Only the first shutdown does this; every later one is over at once. An owner that lets go of its
pool shuts it down first.
-/

namespace SessionPool.Site

open Pool (Agent)

/-- The call is over, and with it the pool if its owner has let go of it. -/
def closed (site : Site) (thenDrop : Bool) : Turn :=
  (site.withPool fun pool => { pool with dropped := pool.dropped || thenDrop }).answer (.ok .done)

/-- Dispose of what is idle. -/
def drain (site : Site) (thenDrop : Bool) : Turn :=
  let idle := site.pool.idle
  let emptied := site.withPool fun pool =>
    { pool with idle := [], total := pool.total - idle.length }
  (emptied.disposeAll idle).closed thenDrop

/-- Shut the pool down. Setting the flag, telling everybody who is asleep and asking the checker to
stop are one turn, at the point where the shutdown has the flag set and the pool to itself. The flag
is set a little before that, without having the pool. Whoever has the pool at that moment, and has
already seen that it lends, has its turn first: it may still take connections out of the queue, to
lend them or to sweep, and the shutdown does not find them there. Whoever has the pool after that
sees the flag, and its turn comes after this one. What this leaves out is the pool with its flag set
in which such an agent is still at work, or in which those who sleep have not been told yet. -/
def shutdown (site : Site) (agent : Agent) (thenDrop : Bool) : Turn :=
  if site.pool.isShutdown then site.closed thenDrop
  else
    let site := site.withPool fun pool =>
      { pool.notifyAll with isShutdown := true, stopRequested := true }
    if site.pool.hasChecker then site.wait agent (.joining thenDrop) none
    else site.drain thenDrop

end SessionPool.Site
