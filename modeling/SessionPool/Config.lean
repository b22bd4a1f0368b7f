import SessionPool.Error

/-!
# Pool settings

The settings of a pool, the changes a caller makes to the defaults, and the check that a set of
settings is consistent. A pool is only ever made from settings without a problem.
-/

namespace SessionPool

/-- The settings of a pool, times being durations. They do not change once the pool has been
made. -/
structure Config where
  /-- Sessions opened when the pool starts, and the floor that idle eviction keeps. -/
  minConnections : Nat
  /-- The most sessions the pool may own. -/
  maxConnections : Nat
  /-- How long a session may stay unused before a sweep evicts it. -/
  maxIdleTime : Nat
  /-- How long a caller waits who does not say. -/
  acquireTimeout : Nat
  /-- The pause of the background checker between two sweeps. -/
  validationInterval : Nat
  /-- Whether an idle session is probed before it is lent. -/
  testOnBorrow : Bool
  /-- Whether a returned session is probed before it is queued. -/
  testOnReturn : Bool
deriving DecidableEq, Repr

/-- A change to one setting. -/
inductive Setting where
  | minConnections (count : Nat)
  | maxConnections (count : Nat)
  | maxIdleTime (time : Nat)
  | acquireTimeout (time : Nat)
  | validationInterval (time : Nat)
  | testOnBorrow (enabled : Bool)
  | testOnReturn (enabled : Bool)
deriving DecidableEq, Repr

namespace Config

/-- The settings of a caller who asks for nothing special. -/
def default : Config where
  minConnections := 5
  maxConnections := 20
  maxIdleTime := Duration.ofSeconds 300
  acquireTimeout := Duration.ofSeconds 30
  validationInterval := Duration.ofSeconds 60
  testOnBorrow := true
  testOnReturn := false

/-- Change one setting and keep the others. -/
def set (config : Config) : Setting → Config
  | .minConnections count => { config with minConnections := count }
  | .maxConnections count => { config with maxConnections := count }
  | .maxIdleTime time => { config with maxIdleTime := time }
  | .acquireTimeout time => { config with acquireTimeout := time }
  | .validationInterval time => { config with validationInterval := time }
  | .testOnBorrow enabled => { config with testOnBorrow := enabled }
  | .testOnReturn enabled => { config with testOnReturn := enabled }

/-- The defaults with a list of changes, the last change of a setting being the one that counts. -/
def ofSettings (settings : List Setting) : Config :=
  settings.foldl set default

/-- The first inconsistency of the settings, if there is one. -/
def problem? (config : Config) : Option ConfigProblem :=
  if config.maxConnections = 0 then some .noCapacity
  else if config.maxConnections < config.minConnections then
    some (.floorAboveCapacity config.minConnections config.maxConnections)
  else if config.validationInterval = 0 then some .noInterval
  else none

/-- Settings from which a pool can be made. -/
structure Valid (config : Config) : Prop where
  capacity_pos : 0 < config.maxConnections
  floor_le_capacity : config.minConnections ≤ config.maxConnections
  interval_pos : 0 < config.validationInterval

/-- The check finds no problem exactly in the settings from which a pool can be made. -/
theorem problem?_eq_none_iff {config : Config} : config.problem? = none ↔ config.Valid := by
  unfold problem?
  constructor
  · intro noProblem
    split at noProblem
    · simp at noProblem
    · split at noProblem
      · simp at noProblem
      · split at noProblem
        · simp at noProblem
        · constructor <;> omega
  · intro valid
    have := valid.capacity_pos
    have := valid.floor_le_capacity
    have := valid.interval_pos
    rw [if_neg (by omega), if_neg (by omega), if_neg (by omega)]

end Config

/-- One call to a builder of pools. -/
inductive BuilderCall where
  | change (setting : Setting)
  | replace (config : Config)
  | sessionSettings
deriving DecidableEq, Repr

/-- A pool in the making: its settings so far, and whether it is known how to open sessions. -/
structure Builder where
  config : Config
  hasSessionSettings : Bool
deriving DecidableEq, Repr

namespace Builder

/-- A builder that nothing has been said to. -/
def new : Builder := ⟨Config.default, false⟩

/-- The builder after one more call. -/
def call (builder : Builder) : BuilderCall → Builder
  | .change setting => { builder with config := builder.config.set setting }
  | .replace config => { builder with config := config }
  | .sessionSettings => { builder with hasSessionSettings := true }

/-- The builder after a list of calls, in order. -/
def ofCalls (calls : List BuilderCall) : Builder :=
  calls.foldl call new

/-- The settings to make a pool from. How to open sessions has to be known. -/
def build (builder : Builder) : Except ConfigProblem Config :=
  if builder.hasSessionSettings then .ok builder.config else .error .noSessionSettings

end Builder

end SessionPool
