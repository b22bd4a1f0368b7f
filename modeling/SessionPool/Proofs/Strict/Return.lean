import SessionPool.Pool.Closing
import SessionPool.Pool.Return
import SessionPool.Proofs.Strict.Checkout

/-!
# Strict returns

A connection that comes back and cannot be lent again is taken out of the total, and so is one that
its owner keeps. A shutdown takes out of it what is idle. A pool that has anything active or idle
has counted it.
-/

namespace SessionPool.Site

open Pool (Agent Phase)

/-! ### What the end of a lease does -/

/-- `Site.requeue` with strict subtraction. -/
def requeue? (site : Site) (connection : Connection) (healthy : Bool) : Option Turn :=
  let pool := site.pool
  if !pool.active.contains connection.id then (site.dispose connection).answer (.ok .done)
  else
    let pool := { pool with active := pool.active.erase connection.id }
    if pool.isShutdown then do
      let total ← less? pool.total 1
      let pool := { pool with total }
      return ({ site with pool }.dispose connection).answer (.ok .done)
    else if !healthy then do
      let total ← less? pool.total 1
      let pool := { pool with total }
      return ({ site with pool := pool.notifyOne }.dispose connection).answer (.ok .done)
    else
      let pool := { pool with idle := pool.idle ++ [connection] }
      { site with pool := pool.notifyOne }.answer (.ok .done)

/-- `Site.takeBack` with strict subtraction. -/
def takeBack? (site : Site) (agent : Agent) (connection : Connection) : Option Turn :=
  if !site.pool.isPresent then
    { site with server := site.server.disconnect connection.session }.answer (.ok .done)
  else
    let connection := connection.touch site.now
    if connection.isReusable && !site.pool.isShutdown then
      if site.pool.config.testOnReturn then
        site.probe agent connection.session (.returnProbe connection)
      else site.requeue? connection true
    else site.requeue? connection false

/-- `Site.returnProbed` with strict subtraction. -/
def returnProbed? (site : Site) (connection : Connection) : Option Turn :=
  if site.server.answers connection.session then site.requeue? connection true
  else site.requeue? connection.broken false

/-- `Site.release` with strict subtraction. -/
def release? (site : Site) (agent : Agent) (ticket : Nat) : Option Turn :=
  match site.pool.lease? ticket with
  | none => site.answer (.error .invalidHandle)
  | some lease => (site.withPool (·.endLease ticket)).takeBack? agent lease.connection

/-- `Site.invalidate` with strict subtraction. -/
def invalidate? (site : Site) (agent : Agent) (ticket : Nat) : Option Turn :=
  match site.pool.lease? ticket with
  | none => site.answer (.error .invalidHandle)
  | some lease => (site.withPool (·.endLease ticket)).takeBack? agent lease.connection.broken

/-- `Site.discard` with strict subtraction. -/
def discard? (site : Site) (agent : Agent) (ticket : Nat) : Option Turn :=
  match site.pool.lease? ticket with
  | none => site.answer (.ok .done)
  | some lease => (site.withPool (·.endLease ticket)).takeBack? agent lease.connection

/-- `Site.detach` with strict subtraction. -/
def detach? (site : Site) (ticket : Nat) : Option Turn :=
  match site.pool.lease? ticket with
  | none => site.answer (.error .invalidHandle)
  | some lease => do
      let pool := site.pool.endLease ticket
      let id := lease.connection.id
      let pool ←
        if pool.isPresent && pool.active.contains id then do
          let total ← less? pool.total 1
          pure { pool with active := pool.active.erase id, total }.notifyOne
        else pure pool
      return { site with pool }.answer (.ok (.detached lease.connection.session))

/-! ### What a shutdown does -/

/-- `Site.drain` with strict subtraction. -/
def drain? (site : Site) (thenDrop : Bool) : Option Turn := do
  let idle := site.pool.idle
  let total ← less? site.pool.total idle.length
  let emptied := site.withPool ({ · with idle := [], total })
  return (emptied.disposeAll idle).closed thenDrop

/-- `Site.shutdown` with strict subtraction. -/
def shutdown? (site : Site) (agent : Agent) (thenDrop : Bool) : Option Turn :=
  if site.pool.isShutdown then site.closed thenDrop
  else
    let site := site.withPool fun pool =>
      { pool.notifyAll with isShutdown := true, stopRequested := true }
    if site.pool.hasChecker then site.wait agent (.joining thenDrop) none
    else site.drain? thenDrop

/-! ### It has been counted -/

section Leases

variable {site : Site} (counted : ∀ id ∈ site.pool.active, 0 < site.pool.total)

include counted

theorem requeue?_eq (connection : Connection) (healthy : Bool) :
    site.requeue? connection healthy = some (site.requeue connection healthy) := by
  rw [requeue?, requeue]
  dsimp only
  split
  · rfl
  case isFalse known =>
    have active : connection.id ∈ site.pool.active := by simpa using known
    rw [less?_eq (counted _ active)]
    split
    · rfl
    · split <;> rfl

theorem takeBack?_eq (agent : Agent) (connection : Connection) :
    site.takeBack? agent connection = some (site.takeBack agent connection) := by
  rw [takeBack?, takeBack]
  dsimp only
  split
  · rfl
  · split
    · split
      · rfl
      · exact requeue?_eq counted _ _
    · exact requeue?_eq counted _ _

theorem returnProbed?_eq (connection : Connection) :
    site.returnProbed? connection = some (site.returnProbed connection) := by
  rw [returnProbed?, returnProbed]
  split
  · exact requeue?_eq counted _ _
  · exact requeue?_eq counted _ _

/-- What the end of a lease does to it changes nothing in the counts. -/
theorem takeBack?_endLease (agent : Agent) (ticket : Nat) (connection : Connection) :
    (site.withPool (·.endLease ticket)).takeBack? agent connection =
      some ((site.withPool (·.endLease ticket)).takeBack agent connection) := by
  apply takeBack?_eq
  exact counted

theorem release?_eq (agent : Agent) (ticket : Nat) :
    site.release? agent ticket = some (site.release agent ticket) := by
  rw [release?, release]
  cases site.pool.lease? ticket with
  | none => rfl
  | some lease => exact takeBack?_endLease counted _ _ _

theorem invalidate?_eq (agent : Agent) (ticket : Nat) :
    site.invalidate? agent ticket = some (site.invalidate agent ticket) := by
  rw [invalidate?, invalidate]
  cases site.pool.lease? ticket with
  | none => rfl
  | some lease => exact takeBack?_endLease counted _ _ _

theorem discard?_eq (agent : Agent) (ticket : Nat) :
    site.discard? agent ticket = some (site.discard agent ticket) := by
  rw [discard?, discard]
  cases site.pool.lease? ticket with
  | none => rfl
  | some lease => exact takeBack?_endLease counted _ _ _

theorem detach?_eq (ticket : Nat) : site.detach? ticket = some (site.detach ticket) := by
  rw [detach?, detach]
  cases site.pool.lease? ticket with
  | none => rfl
  | some lease =>
      dsimp only
      split
      case isTrue known =>
        have active : lease.connection.id ∈ site.pool.active :=
          List.contains_iff_mem.mp (Bool.and_eq_true_iff.mp known).2
        have countedHere : 0 < (site.pool.endLease ticket).total := counted _ active
        rw [less?_eq countedHere]
        rfl
      case isFalse => rfl

end Leases

section Closing

variable {site : Site} (counted : site.pool.idle.length ≤ site.pool.total)

include counted

theorem drain?_eq (thenDrop : Bool) : site.drain? thenDrop = some (site.drain thenDrop) := by
  rw [drain?, less?_eq counted]
  rfl

theorem shutdown?_eq (agent : Agent) (thenDrop : Bool) :
    site.shutdown? agent thenDrop = some (site.shutdown agent thenDrop) := by
  rw [shutdown?, shutdown]
  split
  · rfl
  · dsimp only
    split
    · rfl
    · apply drain?_eq
      exact counted

end Closing

end SessionPool.Site
