import SessionPool.World.Basic

/-!
# Calls

What callers ask for, what they are told, and whether they can ask for it at this moment at all. A
pool that is being filled for the first time is not known to anyone yet, one that its owner has
let go of cannot be called any more, and whoever waits for an answer to a probe does nothing else
with the session.
-/

namespace SessionPool.World

/-- What a caller asks for. -/
inductive Request where
  | openPool (config : Config)
  | acquire (pool timeout : Nat)
  | get (pool : Nat)
  | tryGet (pool : Nat)
  | adopt (pool session : Nat)
  | healthCheck (pool : Nat)
  | shutdown (pool : Nat)
  | dropPool (pool : Nat)
  | release (handle : Handle)
  | invalidate (handle : Handle)
  | discard (handle : Handle)
  | detach (handle : Handle)
  | execute (handle : Handle) (statement : String)
  | query (handle : Handle) (statement : String)
  /-- Open a session outside of all pools. -/
  | connect
  /-- Ask the server whether a session is alive, without the pool. -/
  | probe (holder : Holder)
  | executeDirectly (holder : Holder) (statement : String)
  | queryDirectly (holder : Holder) (statement : String)
  | disconnect (holder : Holder)
deriving DecidableEq, Repr

/-- What a caller is told if all goes well. -/
inductive Reply where
  | pool (reply : Pool.Reply)
  | connected (session : Session)
  | alive (alive : Bool)
  | rows (count : Nat)
  | texts (texts : List String)
  | disconnected
deriving DecidableEq, Repr

/-- What a caller is told if not: the error of a pool, or that of a session used without one. -/
inductive Failure where
  | pool (error : PoolError)
  | session (error : SessionError)
deriving DecidableEq, Repr

/-- What a caller is told. -/
abbrev Answer := Except Failure Reply

/-- What the caller of a pool is told. -/
def ofPool : Pool.Answer → Answer
  | .ok reply => .ok (.pool reply)
  | .error error => .error (.pool error)

/-- What the caller of the server is told. -/
def ofServer {α : Type} (reply : α → Reply) : Except SessionError α → Answer
  | .ok value => .ok (reply value)
  | .error error => .error (.session error)

/-- Who works: an agent of a pool, or a caller on an errand. -/
inductive Thread where
  | inPool (pool : Nat) (agent : Pool.Agent)
  | errand (caller : Nat)
deriving DecidableEq, Repr

/-- The call on which a thread works. The checker of a pool works on none. -/
def Thread.caller? : Thread → Option Nat
  | .inPool _ (.caller number) => some number
  | .inPool _ .checker => none
  | .errand caller => some caller

/-- The thread that works on a call. -/
def Request.thread (world : World) : Request → Thread
  | .openPool _ => .inPool world.pools.length (.caller world.callers)
  | .acquire pool _ | .get pool | .tryGet pool | .adopt pool _ | .healthCheck pool
  | .shutdown pool | .dropPool pool => .inPool pool (.caller world.callers)
  | .release handle | .invalidate handle | .discard handle | .detach handle
  | .execute handle _ | .query handle _ => .inPool handle.pool (.caller world.callers)
  | .connect | .probe _ | .executeDirectly _ _ | .queryDirectly _ _ | .disconnect _ =>
      .errand world.callers

/-- Whether a call can be made now. -/
def accepts (world : World) : Request → Bool
  | .openPool _ => true
  | .acquire pool _ | .get pool | .tryGet pool | .healthCheck pool | .shutdown pool =>
      world.isOpen pool
  | .adopt pool session => world.isOpen pool && world.isFree (.outside session)
  | .dropPool pool => world.isDroppable pool
  | .release handle | .invalidate handle | .discard handle | .detach handle
  | .execute handle _ | .query handle _ => world.isFree (.lease handle)
  | .connect => true
  | .probe holder | .executeDirectly holder _ | .queryDirectly holder _ | .disconnect holder =>
      world.isFree holder

end SessionPool.World
