import SessionPool.Pool.Site

/-!
# Leases

A caller that holds a connection sends statements through it and gives it back. A lost connection
shows in the first statement that meets it, and marks the connection broken; a broken one is
disposed of when it comes back. A lease ends once: by a release, by the caller saying that the
connection is of no use, or by the caller keeping the session for itself. After that its ticket is
worth nothing.
-/

namespace SessionPool.Site

open Pool (Agent Phase Answer)

/-! ### Statements -/

/-- The connection after a statement on it has ended in `result`. -/
def observed {α : Type} (connection : Connection) (result : Except SessionError α) : Connection :=
  match result with
  | .ok _ => connection
  | .error error => if error.isConnectivity then connection.broken else connection

/-- Send a statement through a lease. -/
def throughLease {α : Type} (site : Site) (ticket : Nat)
    (send : Server → Session → Server × Except SessionError α) (reply : α → Pool.Reply) : Turn :=
  match site.pool.lease? ticket with
  | none => site.answer (.error .invalidHandle)
  | some lease =>
      let (server, result) := send site.server lease.connection.session
      let pool := site.pool.updateLease ticket (observed lease.connection result)
      { site with server, pool }.answer <|
        match result with
        | .ok rows => .ok (reply rows)
        | .error error => .error (.session error)

/-- Run a statement for its effect. -/
def execute (site : Site) (ticket : Nat) (statement : String) : Turn :=
  site.throughLease ticket (·.execute · statement) .rows

/-- Run a statement for its rows. -/
def query (site : Site) (ticket : Nat) (statement : String) : Turn :=
  site.throughLease ticket (·.query · statement) .texts

/-! ### The end of a lease -/

/-- Put a returned connection where it belongs: at the back of the idle queue, if it is healthy and
the pool still lends. -/
def requeue (site : Site) (connection : Connection) (healthy : Bool) : Turn :=
  let pool := site.pool
  if !pool.active.contains connection.id then (site.dispose connection).answer (.ok .done)
  else
    let pool := { pool with active := pool.active.erase connection.id }
    if pool.isShutdown then
      let pool := { pool with total := pool.total - 1 }
      ({ site with pool }.dispose connection).answer (.ok .done)
    else if !healthy then
      let pool := { pool with total := pool.total - 1 }
      ({ site with pool := pool.notifyOne }.dispose connection).answer (.ok .done)
    else
      let pool := { pool with idle := pool.idle ++ [connection] }
      { site with pool := pool.notifyOne }.answer (.ok .done)

/-- Take back a connection whose lease has ended. If the pool is gone there is nobody to take it,
and it is only disconnected. -/
def takeBack (site : Site) (agent : Agent) (connection : Connection) : Turn :=
  if !site.pool.isPresent then
    { site with server := site.server.disconnect connection.session }.answer (.ok .done)
  else
    let connection := connection.touch site.now
    if connection.isReusable && !site.pool.isShutdown then
      if site.pool.config.testOnReturn then
        site.probe agent connection.session (.returnProbe connection)
      else site.requeue connection true
    else site.requeue connection false

/-- The probe of a returned connection has been answered. -/
def returnProbed (site : Site) (connection : Connection) : Turn :=
  if site.server.answers connection.session then site.requeue connection true
  else site.requeue connection.broken false

/-- Give a connection back. -/
def release (site : Site) (agent : Agent) (ticket : Nat) : Turn :=
  match site.pool.lease? ticket with
  | none => site.answer (.error .invalidHandle)
  | some lease => (site.withPool (·.endLease ticket)).takeBack agent lease.connection

/-- Give a connection back that is of no use any more. -/
def invalidate (site : Site) (agent : Agent) (ticket : Nat) : Turn :=
  match site.pool.lease? ticket with
  | none => site.answer (.error .invalidHandle)
  | some lease => (site.withPool (·.endLease ticket)).takeBack agent lease.connection.broken

/-- Throw a ticket away. If it was still good, the connection goes back. -/
def discard (site : Site) (agent : Agent) (ticket : Nat) : Turn :=
  match site.pool.lease? ticket with
  | none => site.answer (.ok .done)
  | some lease => (site.withPool (·.endLease ticket)).takeBack agent lease.connection

/-- Keep the session of a lease. The pool does not account for it any more, and has room for
another one. -/
def detach (site : Site) (ticket : Nat) : Turn :=
  match site.pool.lease? ticket with
  | none => site.answer (.error .invalidHandle)
  | some lease =>
      let pool := site.pool.endLease ticket
      let id := lease.connection.id
      let pool :=
        if pool.isPresent && pool.active.contains id then
          { pool with active := pool.active.erase id, total := pool.total - 1 }.notifyOne
        else pool
      { site with pool }.answer (.ok (.detached lease.connection.session))

/-! ### Sessions from elsewhere -/

/-- Turn a session away that the pool does not want. It is disconnected. -/
def turnAway (site : Site) (session : Session) (error : PoolError) : Turn :=
  { site with server := site.server.disconnect session }.answer (.error error)

/-- Give the pool a session that it has not opened. It joins the idle queue if there is room. -/
def adopt (site : Site) (session : Session) : Turn :=
  let pool := site.pool
  if pool.isShutdown then site.turnAway session .shutDown
  else if pool.config.maxConnections ≤ pool.total then
    site.turnAway session (.atCapacity pool.config.maxConnections)
  else
    let connection := Connection.ofSession session (.new pool.nextId site.now)
    let pool := { pool with
      nextId := pool.nextId + 1
      total := pool.total + 1
      idle := pool.idle ++ [connection] }
    { site with pool := pool.notifyOne }.answer (.ok .done)

end SessionPool.Site
