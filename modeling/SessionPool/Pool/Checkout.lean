import SessionPool.Pool.Site

/-!
# Checkouts

A caller that asks for a connection gets the idle one that is first in the queue, after a probe if
the settings ask for one, or a new one while the pool has room, or waits until it is told that one
of the two may be possible. A connection that fails its probe is disposed of, and the search
begins again. The pool holds no place for a caller that waits: whoever looks first takes what is
free.
-/

namespace SessionPool.Site

open Pool (Agent Phase Patience Checkout)

/-- A checkout ends with a connection, which is thereby lent. -/
def lend (site : Site) (checkout : Checkout) (connection : Connection) : Turn :=
  let lease : Lease := ⟨checkout.caller, connection.checkOut site.now⟩
  let pool := { site.pool with
    waiting := site.pool.waiting - 1
    leases := lease :: site.pool.leases }
  { site with pool := pool.count (·.checkedOut) }.answer (.ok (.lent lease))

/-- A checkout ends with an error. -/
def refuse (site : Site) (error : PoolError) : Turn :=
  let pool := { site.pool with waiting := site.pool.waiting - 1 }
  { site with pool := pool.count (·.failed error) }.answer (.error error)

/-- A checkout that does not want to wait ends without a connection. -/
def decline (site : Site) : Turn :=
  { site with pool := { site.pool with waiting := site.pool.waiting - 1 } }.answer
    (.ok .noneFree)

/-- Look for a connection: in the idle queue, then in a free slot, then by waiting. -/
def seek (site : Site) (checkout : Checkout) : Turn :=
  let pool := site.pool
  let agent := Agent.caller checkout.caller
  if pool.isShutdown then site.refuse .shutDown
  else
    match pool.idle with
    | connection :: rest =>
        let taken := { site with
          pool := { pool with idle := rest, active := connection.id :: pool.active } }
        if pool.config.testOnBorrow then
          taken.probe agent connection.session (.borrowProbe checkout connection)
        else taken.lend checkout connection
    | [] =>
        if pool.total < pool.config.maxConnections then
          { site with pool := { pool with total := pool.total + 1 } }.connect agent
            (.connecting checkout)
        else
          match checkout.patience with
          | .never => site.decline
          | .upTo deadline =>
              if deadline ≤ site.now then
                site.refuse (.timedOut (site.now - checkout.started))
              else site.wait agent (.waiting checkout false) (some deadline)
          | .endless => site.wait agent (.waiting checkout false) none

/-- Begin a checkout. A pool that is shut down turns the caller away at the door. -/
def checkout (site : Site) (caller : Nat) (patience : Patience) : Turn :=
  if site.pool.isShutdown then
    (site.withPool (·.count (·.failed .shutDown))).answer (.error .shutDown)
  else
    { site with pool := { site.pool with waiting := site.pool.waiting + 1 } }.seek
      ⟨caller, site.now, patience⟩

/-- Ask for a connection and wait for at most `timeout`. -/
def acquire (site : Site) (caller timeout : Nat) : Turn :=
  site.checkout caller (.ofTimeout site.now timeout)

/-- Ask for a connection and wait for as long as the settings say. -/
def get (site : Site) (caller : Nat) : Turn :=
  site.acquire caller site.pool.config.acquireTimeout

/-- Ask for a connection, but do not wait for one to become free. -/
def tryGet (site : Site) (caller : Nat) : Turn := site.checkout caller .never

/-- The probe of a connection that was about to be lent has been answered. -/
def borrowProbed (site : Site) (checkout : Checkout) (connection : Connection) : Turn :=
  let alive := site.server.answers connection.session
  if alive && !site.pool.isShutdown then site.lend checkout connection
  else
    let pool := site.pool
    let released := { site with pool := { pool with
      active := pool.active.erase connection.id
      total := pool.total - 1 } }
    if alive then (released.dispose connection).refuse .shutDown
    else (released.dispose connection.broken).seek checkout

/-- The connect for a caller has been answered. A failure gives the slot back, which may help
somebody else. -/
def checkoutConnected (site : Site) (checkout : Checkout) (metadata : Metadata)
    (attempt : Attempt) : Turn :=
  match site.connected metadata attempt with
  | (site, .ok connection) =>
      if site.pool.isShutdown then
        let released := site.withPool fun pool => { pool with total := pool.total - 1 }
        (released.dispose connection).refuse .shutDown
      else
        let taken := site.withPool fun pool =>
          { pool with active := connection.id :: pool.active }
        taken.lend checkout connection
  | (site, .error error) =>
      let released := site.withPool fun pool => { pool with total := pool.total - 1 }
      (released.withPool (·.notifyOne)).refuse (.creationFailed error)

end SessionPool.Site
