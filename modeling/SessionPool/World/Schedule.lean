import SessionPool.World.Step

/-!
# Schedules

The steps of a world leave open who goes on when several can. A schedule settles it: an agent works
until it has to wait for something that has not happened; then the agents go on that were woken, one
after the other; and when all of them wait, time passes to the next point of time for which one of
them waits. A schedule is made of steps only, so whatever holds after every run holds after it.
-/

namespace SessionPool.World

/-- A run so far: the world as it is, and what was over on the way, the last first. -/
structure Trace where
  world : World
  events : List Event
deriving DecidableEq, Repr

/-- Whether a thread can go on. -/
def isReady (world : World) : Thread → Bool
  | .inPool index agent =>
      match world.pools[index]? with
      | some pool => (pool.task? agent).any (pool.isReady world.now)
      | none => false
  | .errand caller => (world.errand? caller).any (·.due ≤ world.now)

/-- The first thread for which something has happened other than that its time has come. -/
def woken? (world : World) : Option Thread :=
  world.pools.zipIdx.findSome? fun (pool, index) =>
    (pool.tasks.find? pool.isWoken).map fun task => .inPool index task.agent

/-- The earliest of some timers; of several, the first. -/
def earliest? : List (Nat × Thread) → Option (Nat × Thread)
  | [] => none
  | timer :: rest =>
      match earliest? rest with
      | some other => if other.1 < timer.1 then some other else some timer
      | none => some timer

/-- How many threads there are. -/
def threadCount (world : World) : Nat :=
  (world.pools.flatMap (·.tasks)).length + world.errands.length

/-- How often a thread can go on without having to wait in between. A connection is probed at most
once on the way, and a pool that is being filled makes as many connections as its floor. -/
def stamina (world : World) : Thread → Nat
  | .inPool index _ =>
      match world.pools[index]? with
      | some pool => pool.config.minConnections + pool.idle.length + pool.validating + 3
      | none => 0
  | .errand _ => 1

namespace Trace

/-- One more step. -/
def act (trace : Trace) (action : Action) : Trace :=
  let (world, event) := trace.world.step action
  ⟨world, event.toList ++ trace.events⟩

/-- Let a thread go on until it has to wait, at most `fuel` times. -/
def drive (thread : Thread) : Nat → Trace → Trace
  | 0, trace => trace
  | fuel + 1, trace =>
      if trace.world.isReady thread then drive thread fuel (trace.act (.resume thread)) else trace

/-- Let a thread go on until it has to wait. -/
def driveOut (trace : Trace) (thread : Thread) : Trace :=
  drive thread (trace.world.stamina thread) trace

/-- Let the woken threads go on, one after the other, at most `fuel` of them. -/
def settleWithin : Nat → Trace → Trace
  | 0, trace => trace
  | fuel + 1, trace =>
      match trace.world.woken? with
      | some thread => settleWithin fuel (trace.driveOut thread)
      | none => trace

/-- Let the woken threads go on until all wait. A thread that goes on ends, or waits for an answer
of the server, or looks in vain, which uses up the word it was given; and each of them passes on
at most one word. -/
def settle (trace : Trace) : Trace :=
  settleWithin ((trace.world.threadCount + 1) * (trace.world.threadCount + 1)) trace

/-- Go from timer to timer up to `target`, over at most `fuel` of them. -/
def advanceWithin (target : Nat) : Nat → Trace → Trace
  | 0, trace => trace
  | fuel + 1, trace =>
      match earliest? trace.world.timers with
      | some (due, thread) =>
          if due ≤ target then
            let there := trace.act (.passTo (max trace.world.now due))
            advanceWithin target fuel (there.driveOut thread).settle
          else trace
      | none => trace

end Trace

/-! ### What a script does -/

/-- Make a call, and let all agents go on until they wait. -/
def perform (world : World) (request : Request) : Trace :=
  let begun := Trace.act ⟨world, []⟩ (.call request)
  (begun.driveOut (request.thread world)).settle

/-- Let `duration` pass. At every point of time on the way, each thread goes on at most once because
of it. -/
def advance (world : World) (duration : Nat) : Trace :=
  let target := world.now + duration
  let arrived :=
    Trace.advanceWithin target ((duration + 1) * (world.threadCount + 1)) ⟨world, []⟩
  arrived.act (.passTo target)

/-- Tell the server something. -/
def instruct (world : World) (command : Server.Command) : World :=
  (world.step (.instruct command)).1

end SessionPool.World
