/-!
# What a pool reports of itself

A status is a snapshot of a pool's size. The counters say what the pool has done since it was made;
together with its age they are its metrics. A report is the outcome of one sweep over the idle
queue. Rates are floating-point numbers, each integer being rounded before the division.
-/

namespace SessionPool.Pool

/-- A snapshot of a pool's size. -/
structure Status where
  /-- All connections of the pool, including those that are being made. -/
  total : Nat
  /-- Connections that can be lent. -/
  idle : Nat
  /-- Connections that are lent. -/
  active : Nat
  /-- Callers that have asked for a connection and have no answer yet. -/
  waiting : Nat
  /-- Connections that a sweep has taken out of the idle queue. -/
  validating : Nat
  /-- The most connections the pool may have. -/
  max : Nat
deriving DecidableEq, Repr

namespace Status

/-- How much of its capacity the pool has lent, in percent. -/
def utilization (status : Status) : Float :=
  if status.max = 0 then 0
  else Float.ofNat status.active / Float.ofNat status.max * 100

/-- Whether the pool has no room for another connection. -/
def isAtCapacity (status : Status) : Bool := status.max ≤ status.total

end Status

/-- What a pool has done since it was made. -/
structure Counters where
  connectionsCreated : Nat
  connectionsClosed : Nat
  checkoutsSuccessful : Nat
  /-- Checkouts that ended without a connection, other than those that did not want to wait. -/
  checkoutsFailed : Nat
  /-- The failed checkouts whose time had run out. -/
  timeouts : Nat
  /-- Probes that sweeps have made. -/
  healthChecksPerformed : Nat
  /-- Those of them that found a dead session. -/
  healthChecksFailed : Nat
deriving DecidableEq, Repr

/-- The counters of a pool that has done nothing. -/
def Counters.zero : Counters := ⟨0, 0, 0, 0, 0, 0, 0⟩

/-- The counters of a pool and its age. -/
structure Metrics where
  counters : Counters
  uptime : Nat
deriving DecidableEq, Repr

/-- The part of `whole` that is `part`; all of it, if there is nothing. -/
def rate (part whole : Nat) : Float :=
  if whole = 0 then 1 else Float.ofNat part / Float.ofNat whole

namespace Metrics

/-- The part of the checkouts that ended with a connection. -/
def checkoutSuccessRate (metrics : Metrics) : Float :=
  rate metrics.counters.checkoutsSuccessful
    (metrics.counters.checkoutsSuccessful + metrics.counters.checkoutsFailed)

/-- The part of the probes that found a live session. -/
def healthCheckSuccessRate (metrics : Metrics) : Float :=
  rate (metrics.counters.healthChecksPerformed - metrics.counters.healthChecksFailed)
    metrics.counters.healthChecksPerformed

end Metrics

/-- The outcome of one sweep over the idle queue. -/
structure Report where
  /-- Connections that the sweep examined. -/
  checked : Nat
  /-- Those it evicted because their probe failed. -/
  evictedDead : Nat
  /-- Those it evicted because they had been unused for too long. -/
  evictedIdle : Nat
deriving DecidableEq, Repr

/-- The report of a sweep that found nothing to examine. -/
def Report.zero : Report := ⟨0, 0, 0⟩

/-- All connections that the sweep evicted. -/
def Report.evicted (report : Report) : Nat := report.evictedDead + report.evictedIdle

end SessionPool.Pool
