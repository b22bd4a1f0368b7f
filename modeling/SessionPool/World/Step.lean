import SessionPool.World.Request

/-!
# Steps of a world

A step is a call that is made, an agent that goes on after a wait, an instruction to the server, or
the passing of time. Any list of steps is a run: a step that is not possible changes nothing. Time
passes only when every agent waits, and never beyond the next point of time for which one of them
waits, so that what is due happens exactly then.
-/

namespace SessionPool.World

/-- What can happen next. -/
inductive Action where
  | call (request : Request)
  | resume (thread : Thread)
  | instruct (command : Server.Command)
  | passTo (instant : Nat)
deriving DecidableEq, Repr

/-- A call or a sweep of a checker that is over, and what came of it. -/
structure Event where
  thread : Thread
  answer : Answer
deriving DecidableEq, Repr

/-! ### Calls -/

/-- A session that is detached from its pool belongs to no pool. -/
def keepDetached (world : World) : Option Pool.Answer → World
  | some (.ok (.detached session)) => { world with outside := session :: world.outside }
  | _ => world

/-- A call on a pool. -/
def callPool (world : World) (index : Nat) (work : Site → Turn) : World × Option Answer :=
  let (world, answer) := world.inPool index work
  (world.keepDetached answer, answer.map ofPool)

/-- Make a pool, if its settings are consistent. -/
def openPool (world : World) (config : Config) (caller : Nat) : World × Option Answer :=
  match config.problem? with
  | some problem => (world, some (.error (.pool (.config problem))))
  | none =>
      { world with pools := world.pools ++ [Pool.new config world.now] }.callPool
        world.pools.length (·.prewarm (.caller caller) 0)

/-- Give a session to a pool. Whatever comes of it, it is not outside any more. -/
def adopt (world : World) (index id : Nat) : World × Option Answer :=
  match world.outside? id with
  | none => (world, none)
  | some session =>
      { world with outside := world.outside.eraseP (·.id == id) }.callPool index (·.adopt session)

/-- Let the caller wait for an answer of the server. -/
def await (world : World) (caller : Nat) (work : Errand.Work) (time : Nat) :
    World × Option Answer :=
  ({ world with errands := world.errands ++ [⟨caller, work, world.now + time⟩] }, none)

/-- Connect to the server, for a session outside of all pools. -/
def connect (world : World) (caller : Nat) : World × Option Answer :=
  let (server, attempt) := world.server.startConnect
  { world with server }.await caller (.connecting attempt) (server.connectTime attempt)

/-- Do something with a session that one holds. A handle that is not good any more leads to none. -/
def withSession (world : World) (holder : Holder) (use : Session → World × Option Answer) :
    World × Option Answer :=
  match world.session? holder with
  | some session => use session
  | none => (world, some (.error (.pool .invalidHandle)))

/-- Ask the server whether a session is alive. -/
def probe (world : World) (caller : Nat) (holder : Holder) : World × Option Answer :=
  world.withSession holder fun session =>
    { world with server := world.server.startProbe session }.await caller (.probing session)
      (world.server.probeTime session)

/-- Send a statement on a session, past its pool. -/
def sendDirectly {α : Type} (world : World) (holder : Holder)
    (send : Server → Session → Server × Except SessionError α) (reply : α → Reply) :
    World × Option Answer :=
  world.withSession holder fun session =>
    let (server, result) := send world.server session
    ({ world with server }, some (ofServer reply result))

/-- Disconnect a session, past its pool. -/
def disconnect (world : World) (holder : Holder) : World × Option Answer :=
  world.withSession holder fun session =>
    ({ world with server := world.server.disconnect session }.putSession holder session.closed,
      some (.ok .disconnected))

/-- Begin the work on a call. -/
def begin (world : World) (caller : Nat) : Request → World × Option Answer
  | .openPool config => world.openPool config caller
  | .acquire pool timeout => world.callPool pool (·.acquire caller timeout)
  | .get pool => world.callPool pool (·.get caller)
  | .tryGet pool => world.callPool pool (·.tryGet caller)
  | .adopt pool session => world.adopt pool session
  | .healthCheck pool => world.callPool pool (·.sweep (.caller caller))
  | .shutdown pool => world.callPool pool (·.shutdown (.caller caller) false)
  | .dropPool pool => world.callPool pool (·.shutdown (.caller caller) true)
  | .release handle => world.callPool handle.pool (·.release (.caller caller) handle.ticket)
  | .invalidate handle =>
      world.callPool handle.pool (·.invalidate (.caller caller) handle.ticket)
  | .discard handle => world.callPool handle.pool (·.discard (.caller caller) handle.ticket)
  | .detach handle => world.callPool handle.pool (·.detach handle.ticket)
  | .execute handle statement =>
      world.callPool handle.pool (·.execute handle.ticket statement)
  | .query handle statement => world.callPool handle.pool (·.query handle.ticket statement)
  | .connect => world.connect caller
  | .probe holder => world.probe caller holder
  | .executeDirectly holder statement =>
      world.sendDirectly holder (·.execute · statement) .rows
  | .queryDirectly holder statement => world.sendDirectly holder (·.query · statement) .texts
  | .disconnect holder => world.disconnect holder

/-- Make a call. -/
def call (world : World) (request : Request) : World × Option Event :=
  if world.accepts request then
    let thread := request.thread world
    let (after, answer) :=
      { world with callers := world.callers + 1 }.begin world.callers request
    (after, answer.map (⟨thread, ·⟩))
  else (world, none)

/-! ### Going on -/

/-- The server has answered a caller on an errand. -/
def finishErrand (world : World) : Errand.Work → World × Answer
  | .connecting attempt =>
      match world.server.finishConnect attempt with
      | (server, .ok session) =>
          ({ world with server, outside := session :: world.outside }, .ok (.connected session))
      | (server, .error error) => ({ world with server }, .error (.session error))
  | .probing session => (world, .ok (.alive (world.server.answers session)))

/-- What a caller waits for who deals with the server itself. -/
def errand? (world : World) (caller : Nat) : Option Errand :=
  world.errands.find? (·.caller == caller)

/-- Let a caller on an errand go on if its answer has come. -/
def resumeErrand (world : World) (caller : Nat) : World × Option Answer :=
  match world.errand? caller with
  | some errand =>
      if errand.due ≤ world.now then
        let errands := world.errands.eraseP (·.caller == caller)
        let (after, answer) := { world with errands }.finishErrand errand.work
        (after, some answer)
      else (world, none)
  | none => (world, none)

/-- Let a thread go on if it can. -/
def resume (world : World) (thread : Thread) : World × Option Event :=
  let (after, answer) :=
    match thread with
    | .inPool index agent => world.callPool index (·.resume agent)
    | .errand caller => world.resumeErrand caller
  (after, answer.map (⟨thread, ·⟩))

/-! ### Time -/

/-- The points of time for which somebody waits, and who does. -/
def timers (world : World) : List (Nat × Thread) :=
  (world.pools.zipIdx.flatMap fun (pool, index) =>
    pool.tasks.filterMap fun task => task.due.map fun due => (due, .inPool index task.agent)) ++
  world.errands.map fun errand => (errand.due, .errand errand.caller)

/-- Whether every agent waits for something that has not happened yet. -/
def isQuiet (world : World) : Bool :=
  (world.pools.all fun pool => pool.tasks.all fun task => !pool.isReady world.now task) &&
  world.errands.all fun errand => world.now < errand.due

/-- Whether time can pass up to `instant`: the instant exists and is not over, and nothing has to
happen before. -/
def canPassTo (world : World) (instant : Nat) : Bool :=
  world.isQuiet && world.now ≤ instant && instant < Instant.horizon &&
    world.timers.all fun timer => instant ≤ timer.1

/-- Let time pass up to `instant`, if it can. -/
def passTo (world : World) (instant : Nat) : World :=
  if world.canPassTo instant then { world with now := instant } else world

/-! ### Steps -/

/-- What happens, and what is over thereby. -/
def step (world : World) : Action → World × Option Event
  | .call request => world.call request
  | .resume thread => world.resume thread
  | .instruct command => ({ world with server := world.server.obey command }, none)
  | .passTo instant => (world.passTo instant, none)

end SessionPool.World
