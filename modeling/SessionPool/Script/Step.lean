import SessionPool.Config
import SessionPool.Server

/-!
# Scripts

A script is a list of steps. Its steps speak of pools, handles and sessions by names that the script
gives them.
-/

namespace SessionPool.Script

/-- Where a step finds the session that it uses directly: by its own name, or behind a handle. -/
inductive Target where
  | session (name : String)
  | handle (name : String)
deriving DecidableEq, Repr

/-- One step. A `result` is the name for what the step makes. -/
inductive Step where
  | advance (duration : Nat)
  | instruct (command : Server.Command)
  | disconnects (id : Nat)
  | newPool (pool : String) (settings : List Setting)
  | buildPool (pool : String) (calls : List BuilderCall)
  | dropPool (pool : String)
  | acquire (pool : String) (timeout : Nat) (result : String)
  | get (pool : String) (result : String)
  | tryGet (pool : String) (result : String)
  | adopt (pool : String) (session : String)
  | healthCheck (pool : String)
  | shutdown (pool : String)
  | status (pool : String)
  | metrics (pool : String)
  | config (pool : String)
  | debugPool (pool : String)
  | isValid (handle : String)
  | connectionId (handle : String)
  | metadata (handle : String)
  | debugHandle (handle : String)
  | release (handle : String)
  | invalidate (handle : String)
  | execute (handle : String) (statement : String)
  | query (handle : String) (statement : String)
  | detach (handle : String) (result : String)
  | drop (handle : String)
  | connect (result : String)
  | sessionInfo (target : Target)
  | sessionAlive (target : Target)
  | sessionExecute (target : Target) (statement : String)
  | sessionQuery (target : Target) (statement : String)
  | sessionDisconnect (target : Target)
  | dropSession (session : String)
  | unknown
deriving DecidableEq, Repr

end SessionPool.Script
