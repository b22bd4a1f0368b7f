import SessionPool.Pool.Basic
import SessionPool.Text.Record

/-!
# Pools and handles as text

How a pool and a handle show themselves to a programmer. A pool shows its settings, its size and
whether it is shut down; a handle shows the record of its connection, if it still has one.
-/

namespace SessionPool

open Text (record partialRecord optional truth)

/-- The settings as text. -/
def Config.debugText (config : Config) : String :=
  record "PoolConfig"
    [("min_connections", Nat.repr config.minConnections),
     ("max_connections", Nat.repr config.maxConnections),
     ("max_idle_time", Duration.text config.maxIdleTime),
     ("acquire_timeout", Duration.text config.acquireTimeout),
     ("validation_interval", Duration.text config.validationInterval),
     ("test_on_borrow", truth config.testOnBorrow),
     ("test_on_return", truth config.testOnReturn)]

/-- A snapshot as text. -/
def Pool.Status.debugText (status : Pool.Status) : String :=
  record "PoolStatus"
    [("total", Nat.repr status.total),
     ("idle", Nat.repr status.idle),
     ("active", Nat.repr status.active),
     ("waiting", Nat.repr status.waiting),
     ("validating", Nat.repr status.validating),
     ("max", Nat.repr status.max)]

/-- A pool as text. -/
def Pool.debugText (pool : Pool) : String :=
  record "Pool"
    [("config", pool.config.debugText),
     ("status", pool.status.debugText),
     ("shutdown", truth pool.isShutdown)]

/-- The name of a state. -/
def ConnectionState.name : ConnectionState → String
  | created => "Created"
  | connected => "Connected"
  | broken => "Broken"
  | disposed => "Disposed"

/-- A point of time as text. -/
def Instant.debugText (instant : Nat) : String := "@" ++ Nat.repr instant

/-- The record of a connection as text. -/
def Metadata.debugText (metadata : Metadata) : String :=
  record "ConnectionMetadata"
    [("id", Nat.repr metadata.id),
     ("created_at", Instant.debugText metadata.createdAt),
     ("last_used", Instant.debugText metadata.lastUsed),
     ("checkout_count", Nat.repr metadata.checkouts),
     ("state", metadata.state.name)]

/-- A handle with the lease that is behind it, if there is one. -/
def Lease.debugText (lease? : Option Lease) : String :=
  partialRecord "PooledConnection"
    [("metadata", optional (lease?.map (·.connection.metadata.debugText)))]

end SessionPool
