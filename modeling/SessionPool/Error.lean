import SessionPool.Time

/-!
# Errors

What can go wrong with one session, with the settings of a pool, and with a call to a pool. An error
is its cause; `message` is the wording shown to a reader, and `sources` are the messages of the
errors that led to it, the nearest one first.
-/

namespace SessionPool

/-- Results are compared by their values. -/
instance decidableEqExcept {ε α : Type} [DecidableEq ε] [DecidableEq α] : DecidableEq (Except ε α)
  | .error first, .error second =>
      decidable_of_iff (first = second) ⟨congrArg Except.error, Except.error.inj⟩
  | .ok first, .ok second => decidable_of_iff (first = second) ⟨congrArg Except.ok, Except.ok.inj⟩
  | .error _, .ok _ => .isFalse nofun
  | .ok _, .error _ => .isFalse nofun

/-- Why a session failed. The text comes from the server or from the transport. -/
inductive SessionError where
  | connectFailed (text : String)
  | queryFailed (text : String)
  | connectionLost (text : String)
  | io (text : String)
deriving DecidableEq, Repr

namespace SessionError

/-- The error as a reader sees it. -/
def message : SessionError → String
  | connectFailed text => "connect failed: " ++ text
  | queryFailed text => "query failed: " ++ text
  | connectionLost text => "connection lost: " ++ text
  | io text => "IO error: " ++ text

/-- The errors behind this one. Only a failure of the transport has one. -/
def sources : SessionError → List String
  | io text => [text]
  | _ => []

/-- Whether the session itself is of no use any more. A rejected statement leaves it healthy. -/
def isConnectivity : SessionError → Bool
  | connectionLost _ => true
  | io _ => true
  | _ => false

end SessionError

/-- What is wrong with the settings of a pool. -/
inductive ConfigProblem where
  | noCapacity
  | floorAboveCapacity (floor capacity : Nat)
  | noInterval
  | noSessionSettings
  | stated (text : String)
deriving DecidableEq, Repr

/-- The problem as a reader sees it. -/
def ConfigProblem.message : ConfigProblem → String
  | noCapacity => "max_connections must be greater than zero"
  | floorAboveCapacity floor capacity =>
      "min_connections (" ++ Nat.repr floor ++ ") exceeds max_connections (" ++
        Nat.repr capacity ++ ")"
  | noInterval => "validation_interval must be greater than zero"
  | noSessionSettings => "session configuration is required"
  | stated text => text

/-- Why a call to a pool failed. -/
inductive PoolError where
  | creationFailed (cause : SessionError)
  | timedOut (waited : Nat)
  | shutDown
  | invalidHandle
  | atCapacity (capacity : Nat)
  | session (cause : SessionError)
  | config (problem : ConfigProblem)
deriving DecidableEq, Repr

namespace PoolError

/-- The error as a reader sees it. -/
def message : PoolError → String
  | creationFailed cause => "failed to create connection: " ++ cause.message
  | timedOut waited => "timed out after " ++ Duration.text waited ++ " waiting for a connection"
  | shutDown => "connection pool is shut down"
  | invalidHandle => "connection handle is no longer valid"
  | atCapacity capacity =>
      "connection pool is at capacity (" ++ Nat.repr capacity ++ " connections)"
  | session cause => "session error: " ++ cause.message
  | config problem => "invalid pool configuration: " ++ problem.message

/-- The errors behind this one, the nearest first. -/
def sources : PoolError → List String
  | creationFailed cause => cause.message :: cause.sources
  | session cause => cause.message :: cause.sources
  | _ => []

/-- Whether the same call may succeed when it is made again. -/
def isRetryable : PoolError → Bool
  | timedOut _ => true
  | creationFailed _ => true
  | _ => false

end PoolError

end SessionPool
