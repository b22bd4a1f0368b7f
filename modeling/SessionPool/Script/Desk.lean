import SessionPool.Script.Answer

/-!
# Names

The desk at which a script is carried out: the world, what the names of the script mean, and the
steps that are not over yet. A step that makes something reserves the name for it at once, and a
step that uses a handle or a session keeps others from it until it is over.
-/

namespace SessionPool.Script

/-- A name, with what it is a name for. Each kind of thing has names of its own. -/
inductive Name where
  | pool (name : String)
  | handle (name : String)
  | session (name : String)
deriving DecidableEq, Repr

/-- A step that is not over: its place in the script, its call, the name that it makes, the pool
that it uses and the name that it holds. -/
structure Pending where
  step : Nat
  caller : Nat
  makes : Option Name
  uses : Option Nat
  holds : Option Name
deriving DecidableEq, Repr

/-- The world, the meaning of the names, and the steps that are not over, in order. -/
structure Desk where
  world : World
  pools : List (String × Nat)
  handles : List (String × Handle)
  sessions : List (String × Nat)
  pending : List Pending
deriving DecidableEq, Repr

namespace Desk

/-- A desk without names, in a new world. -/
def new : Desk := ⟨.new, [], [], [], []⟩

/-- Whether a step that is not over makes or uses what the name stands for. -/
def isBusy (desk : Desk) (name : Name) : Bool :=
  desk.pending.any fun pending => pending.makes == some name || pending.holds == some name

/-- What a name stands for, if a step can use it. -/
def find {α : Type} (desk : Desk) (name : Name) (meaning : Option α) : Except Refusal α :=
  if desk.isBusy name then .error .busy
  else
    match meaning with
    | some found => .ok found
    | none => .error .noSuchName

/-- The pool that a name stands for. -/
def findPool (desk : Desk) (name : String) : Except Refusal Nat :=
  desk.find (.pool name) (desk.pools.lookup name)

/-- The handle that a name stands for. -/
def findHandle (desk : Desk) (name : String) : Except Refusal Handle :=
  desk.find (.handle name) (desk.handles.lookup name)

/-- The session outside of all pools that a name stands for. -/
def findSession (desk : Desk) (name : String) : Except Refusal Nat :=
  desk.find (.session name) (desk.sessions.lookup name)

/-- Whether a name means something. -/
def knows (desk : Desk) : Name → Bool
  | .pool name => (desk.pools.lookup name).isSome
  | .handle name => (desk.handles.lookup name).isSome
  | .session name => (desk.sessions.lookup name).isSome

/-- Check that a name can be given. -/
def vacant (desk : Desk) (name : Name) : Except Refusal Unit :=
  if desk.knows name || desk.isBusy name then .error .nameInUse else .ok ()

/-- A name means nothing any more. -/
def forget (desk : Desk) : Name → Desk
  | .pool name => { desk with pools := desk.pools.eraseP (·.1 == name) }
  | .handle name => { desk with handles := desk.handles.eraseP (·.1 == name) }
  | .session name => { desk with sessions := desk.sessions.eraseP (·.1 == name) }

/-- Give the name that a step makes to what its call has yielded, if it has yielded something that
can have the name. -/
def learn (desk : Desk) (makes : Option Name) (event : World.Event) : Desk :=
  match makes, event.thread, event.answer with
  | some (.pool name), .inPool index _, .ok (.pool .opened) =>
      { desk with pools := (name, index) :: desk.pools }
  | some (.handle name), .inPool index _, .ok (.pool (.lent lease)) =>
      { desk with handles := (name, ⟨index, lease.ticket⟩) :: desk.handles }
  | some (.session name), _, .ok (.pool (.detached session)) =>
      { desk with sessions := (name, session.id) :: desk.sessions }
  | some (.session name), _, .ok (.connected session) =>
      { desk with sessions := (name, session.id) :: desk.sessions }
  | _, _, _ => desk

/-- What a script sees of the world. -/
def snapshot (desk : Desk) : Snapshot where
  now := desk.world.now
  pools := desk.pools.filterMap fun (name, index) =>
    desk.world.pools[index]?.map fun pool =>
      (name, ⟨pool.status, pool.counters, pool.isShutdown⟩)
  connects := desk.world.server.connects
  probes := desk.world.server.probes
  openSessions := desk.world.server.openCount
  maxDisconnects := desk.world.server.maxDisconnects

end Desk

end SessionPool.Script
