import SessionPool.World.Schedule

/-!
# Answers to a script

Every step is answered with its result, with the results of earlier steps that were over only now,
and with a snapshot of the pools and of the server.
-/

namespace SessionPool.Script

/-- What a step yields. -/
inductive Value where
  | nothing
  | truth (value : Bool)
  | number (value : Nat)
  | text (value : String)
  | texts (values : List String)
  | lease (connection : Connection)
  | report (report : Pool.Report)
  | status (status : Pool.Status)
  | metrics (metrics : Pool.Metrics)
  | config (config : Config)
  | metadata (view : Metadata.View)
  | session (session : Session)
deriving DecidableEq, Repr

/-- Why a step is not taken: a name it uses means nothing, what it names is being made or used by a
step that is not over, the name it gives is taken, or there is no such step. -/
inductive Refusal where
  | noSuchName
  | busy
  | nameInUse
  | badStep
deriving DecidableEq, Repr

/-- What becomes of a step. -/
inductive Outcome where
  | ok (value : Value)
  | failed (failure : World.Failure)
  | refused (refusal : Refusal)
  | pending
deriving DecidableEq, Repr

/-- What a script sees of a pool after each step. -/
structure PoolView where
  status : Pool.Status
  counters : Pool.Counters
  isShutdown : Bool
deriving DecidableEq, Repr

/-- What a script sees after each step. -/
structure Snapshot where
  now : Nat
  pools : List (String × PoolView)
  connects : Nat
  probes : Nat
  openSessions : Nat
  maxDisconnects : Nat
deriving DecidableEq, Repr

/-- The answer to a step. The earlier steps that were over only now come with their places. -/
structure StepAnswer where
  outcome : Outcome
  finished : List (Nat × Outcome)
  snapshot : Snapshot
deriving DecidableEq, Repr

/-- What a call on a pool has yielded. -/
def Value.ofPool : Pool.Reply → Value
  | .done | .opened | .noneFree => nothing
  | .lent given => lease given.connection
  | .swept result => report result
  | .rows count => number count
  | .texts values => texts values
  | .detached kept => number kept.id

/-- What a call has yielded. -/
def Value.ofReply : World.Reply → Value
  | .pool reply => ofPool reply
  | .connected opened => number opened.id
  | .alive alive => truth alive
  | .rows count => number count
  | .texts values => texts values
  | .disconnected => nothing

/-- What has become of a call. -/
def Outcome.ofAnswer : World.Answer → Outcome
  | .ok reply => ok (Value.ofReply reply)
  | .error failure => failed failure

end SessionPool.Script
