import SessionPool.Pool.Sweep

/-!
# Opening a pool

A new pool is filled up to its floor, one connection after the other. The first connect that fails
ends the filling, and the pool opens with what it has. Then the background checker begins its first
rest.
-/

namespace SessionPool.Site

open Pool (Agent)

/-- Fill the pool, `made` connections having been made, and open it. The checker begins its first
rest in every case: a pool for which no checker could be started does not come about here. -/
def prewarm (site : Site) (agent : Agent) (made : Nat) : Turn :=
  if made < site.pool.config.minConnections then site.connect agent (.prewarming made)
  else site.rest.answer (.ok .opened)

/-- A connect that fills the pool has been answered. -/
def prewarmConnected (site : Site) (agent : Agent) (made : Nat) (metadata : Metadata)
    (attempt : Attempt) : Turn :=
  match site.connected metadata attempt with
  | (site, .ok connection) =>
      let pool := { site.pool with
        total := site.pool.total + 1
        idle := site.pool.idle ++ [connection] }
      { site with pool }.prewarm agent (made + 1)
  | (site, .error _) => site.rest.answer (.ok .opened)

end SessionPool.Site
