import SessionPool.Pool.Checkout

/-!
# Strict checkouts

Every operation of a pool that takes something out of a count is written once more in the modules
here, with a subtraction that has no result where it would go below zero. Where enough has been
counted before, the strict operation has a result, and it is that of the operation itself.

A checkout takes itself out of those who wait when it ends. When it gives up a connection or a slot,
it takes that out of the total.
-/

namespace SessionPool

/-- Subtraction that has no result below zero. -/
def less? (whole part : Nat) : Option Nat :=
  if part ≤ whole then some (whole - part) else none

theorem less?_eq {whole part : Nat} (enough : part ≤ whole) :
    less? whole part = some (whole - part) :=
  if_pos enough

example : less? 2 3 = none := rfl

namespace Site

open Pool (Agent Patience Checkout)

/-! ### What a checkout does -/

/-- `Site.lend` with strict subtraction. -/
def lend? (site : Site) (checkout : Checkout) (connection : Connection) : Option Turn := do
  let waiting ← less? site.pool.waiting 1
  let lease : Lease := ⟨checkout.caller, connection.checkOut site.now⟩
  let pool := { site.pool with waiting, leases := lease :: site.pool.leases }
  return { site with pool := pool.count (·.checkedOut) }.answer (.ok (.lent lease))

/-- `Site.refuse` with strict subtraction. -/
def refuse? (site : Site) (error : PoolError) : Option Turn := do
  let waiting ← less? site.pool.waiting 1
  let pool := { site.pool with waiting }
  return { site with pool := pool.count (·.failed error) }.answer (.error error)

/-- `Site.decline` with strict subtraction. -/
def decline? (site : Site) : Option Turn := do
  let waiting ← less? site.pool.waiting 1
  return { site with pool := { site.pool with waiting } }.answer (.ok .noneFree)

/-- `Site.seek` with strict subtraction. -/
def seek? (site : Site) (checkout : Checkout) : Option Turn :=
  let pool := site.pool
  let agent := Agent.caller checkout.caller
  if pool.isShutdown then site.refuse? .shutDown
  else
    match pool.idle with
    | connection :: rest =>
        let taken := { site with
          pool := { pool with idle := rest, active := connection.id :: pool.active } }
        if pool.config.testOnBorrow then
          taken.probe agent connection.session (.borrowProbe checkout connection)
        else taken.lend? checkout connection
    | [] =>
        if pool.total < pool.config.maxConnections then
          { site with pool := { pool with total := pool.total + 1 } }.connect agent
            (.connecting checkout)
        else
          match checkout.patience with
          | .never => site.decline?
          | .upTo deadline =>
              if deadline ≤ site.now then
                site.refuse? (.timedOut (site.now - checkout.started))
              else site.wait agent (.waiting checkout false) (some deadline)
          | .endless => site.wait agent (.waiting checkout false) none

/-- `Site.checkout` with strict subtraction. -/
def checkout? (site : Site) (caller : Nat) (patience : Patience) : Option Turn :=
  if site.pool.isShutdown then
    (site.withPool (·.count (·.failed .shutDown))).answer (.error .shutDown)
  else
    { site with pool := { site.pool with waiting := site.pool.waiting + 1 } }.seek?
      ⟨caller, site.now, patience⟩

/-- `Site.borrowProbed` with strict subtraction. -/
def borrowProbed? (site : Site) (checkout : Checkout) (connection : Connection) :
    Option Turn := do
  let alive := site.server.answers connection.session
  if alive && !site.pool.isShutdown then site.lend? checkout connection
  else
    let total ← less? site.pool.total 1
    let released := { site with pool := { site.pool with
      active := site.pool.active.erase connection.id, total } }
    if alive then (released.dispose connection).refuse? .shutDown
    else (released.dispose connection.broken).seek? checkout

/-- `Site.checkoutConnected` with strict subtraction. -/
def checkoutConnected? (site : Site) (checkout : Checkout) (metadata : Metadata)
    (attempt : Attempt) : Option Turn := do
  match site.connected metadata attempt with
  | (site, .ok connection) =>
      if site.pool.isShutdown then
        let total ← less? site.pool.total 1
        let released := site.withPool ({ · with total })
        (released.dispose connection).refuse? .shutDown
      else
        let taken := site.withPool fun pool =>
          { pool with active := connection.id :: pool.active }
        taken.lend? checkout connection
  | (site, .error error) =>
      let total ← less? site.pool.total 1
      let released := site.withPool ({ · with total })
      (released.withPool (·.notifyOne)).refuse? (.creationFailed error)

/-! ### It has counted what it takes -/

section Checkouts

variable {site : Site} (waits : 0 < site.pool.waiting)

include waits

theorem lend?_eq (checkout : Checkout) (connection : Connection) :
    site.lend? checkout connection = some (site.lend checkout connection) := by
  rw [lend?, less?_eq waits]
  rfl

theorem refuse?_eq (error : PoolError) : site.refuse? error = some (site.refuse error) := by
  rw [refuse?, less?_eq waits]
  rfl

theorem decline?_eq : site.decline? = some site.decline := by
  rw [decline?, less?_eq waits]
  rfl

theorem seek?_eq (checkout : Checkout) : site.seek? checkout = some (site.seek checkout) := by
  rw [seek?, seek]
  dsimp only
  split
  · exact refuse?_eq waits _
  · cases site.pool.idle with
    | cons connection rest =>
        dsimp only
        split
        · rfl
        · apply lend?_eq
          exact waits
    | nil =>
        dsimp only
        split
        · rfl
        · cases checkout.patience with
          | never => exact decline?_eq waits
          | upTo deadline =>
              dsimp only
              split
              · exact refuse?_eq waits _
              · rfl
          | endless => rfl

theorem borrowProbed?_eq (checkout : Checkout) (connection : Connection)
    (counted : 0 < site.pool.total) :
    site.borrowProbed? checkout connection = some (site.borrowProbed checkout connection) := by
  rw [borrowProbed?, borrowProbed]
  dsimp only
  split
  · exact lend?_eq waits _ _
  · rw [less?_eq counted]
    simp only [Option.bind_eq_bind, Option.bind_some]
    split
    · apply refuse?_eq
      exact waits
    · apply seek?_eq
      exact waits

theorem checkoutConnected?_eq (checkout : Checkout) (metadata : Metadata) (attempt : Attempt)
    (counted : 0 < site.pool.total) :
    site.checkoutConnected? checkout metadata attempt =
      some (site.checkoutConnected checkout metadata attempt) := by
  rw [checkoutConnected?, checkoutConnected, connected]
  rcases site.server.finishConnect attempt with ⟨server, error | session⟩
  · dsimp only
    rw [less?_eq counted]
    apply refuse?_eq
    exact waits
  · dsimp only
    split
    · have countedHere : 0 < (site.pool.count (·.created)).total := counted
      rw [less?_eq countedHere]
      apply refuse?_eq
      exact waits
    · apply lend?_eq
      exact waits

end Checkouts

/-- Whoever begins a checkout is one of those who wait. -/
theorem checkout?_eq (site : Site) (caller : Nat) (patience : Patience) :
    site.checkout? caller patience = some (site.checkout caller patience) := by
  rw [checkout?, checkout]
  split
  · rfl
  · apply seek?_eq
    exact Nat.succ_pos _

end Site

end SessionPool
