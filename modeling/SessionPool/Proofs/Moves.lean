import Mathlib.Data.List.Basic
import SessionPool.World.Run

/-!
# Moves

The steps of a world wake whoever has slept for longest, let nobody sleep on who has not been told,
and let no time pass while somebody can go on. No caller can rely on any of this. A move is a step,
or one of the things that happen where it cannot be relied on: the agents of a pool change places,
so that another one is told first, somebody is told for no reason, or time passes while others are
slow. What holds after all moves holds however threads are scheduled.

What moves do to the pools comes down to a few cases, which are collected here once.
-/

namespace SessionPool

/-- The last entry of a list is changed in its place. -/
theorem modify_concat {α : Type} (entries : List α) (last : α) (change : α → α) :
    (entries ++ [last]).modify entries.length change = entries ++ [change last] := by
  rw [List.modify_eq_take_drop, List.take_left, List.drop_left]
  rfl

namespace Pool

/-- The agents that wait change places, if the tasks are the same. -/
def reorder (pool : Pool) (tasks : List Task) : Pool :=
  if tasks.isPerm pool.tasks then { pool with tasks } else pool

/-- The session of a lease is now as its owner has left it. -/
def putSession (pool : Pool) (ticket : Nat) (session : Session) : Pool :=
  match pool.lease? ticket with
  | some lease => pool.updateLease ticket { lease.connection with session }
  | none => pool

/-- Whoever sleeps can be the one that is told, once the agents have changed places. -/
theorem exists_reorder_notifyOne {pool : Pool} {task : Task} (member : task ∈ pool.tasks)
    (asleep : task.isAsleep = true) :
    ∃ tasks, ((pool.reorder tasks).notifyOne).tasks = task.notify :: pool.tasks.erase task := by
  refine ⟨task :: pool.tasks.erase task, ?_⟩
  have perm := (List.perm_cons_erase member).symm
  simp [reorder, List.isPerm_iff.mpr perm, notifyOne, notifyFirst, asleep]

/-- What a pool that has been made can be asked to do. -/
inductive Job where
  | acquire (timeout : Nat)
  | get
  | tryGet
  | adopt (session : Session)
  | sweep
  | shutdown (thenDrop : Bool)
  | release (ticket : Nat)
  | invalidate (ticket : Nat)
  | discard (ticket : Nat)
  | detach (ticket : Nat)
  | execute (ticket : Nat) (statement : String)
  | query (ticket : Nat) (statement : String)

namespace Job

/-- The work on a call with this number. -/
def work (caller : Nat) : Job → Site → Turn
  | .acquire timeout => (·.acquire caller timeout)
  | .get => (·.get caller)
  | .tryGet => (·.tryGet caller)
  | .adopt session => (·.adopt session)
  | .sweep => (·.sweep (.caller caller))
  | .shutdown thenDrop => (·.shutdown (.caller caller) thenDrop)
  | .release ticket => (·.release (.caller caller) ticket)
  | .invalidate ticket => (·.invalidate (.caller caller) ticket)
  | .discard ticket => (·.discard (.caller caller) ticket)
  | .detach ticket => (·.detach ticket)
  | .execute ticket statement => (·.execute ticket statement)
  | .query ticket statement => (·.query ticket statement)

/-- Only an owner of the pool can ask it for anything but to take a connection back. -/
def Fits (pool : Pool) : Job → Prop
  | .acquire _ | .get | .tryGet | .adopt _ | .sweep | .shutdown _ => pool.isOpen = true
  | _ => True

end Job

end Pool

namespace World

open Pool (Job)

/-! ### Calls on pools -/

/-- What a call asks of which pool, unless it makes one or needs a session for it. -/
def Request.job? : Request → Option (Nat × Job)
  | .acquire pool timeout => some (pool, .acquire timeout)
  | .get pool => some (pool, .get)
  | .tryGet pool => some (pool, .tryGet)
  | .healthCheck pool => some (pool, .sweep)
  | .shutdown pool => some (pool, .shutdown false)
  | .dropPool pool => some (pool, .shutdown true)
  | .release handle => some (handle.pool, .release handle.ticket)
  | .invalidate handle => some (handle.pool, .invalidate handle.ticket)
  | .discard handle => some (handle.pool, .discard handle.ticket)
  | .detach handle => some (handle.pool, .detach handle.ticket)
  | .execute handle statement => some (handle.pool, .execute handle.ticket statement)
  | .query handle statement => some (handle.pool, .query handle.ticket statement)
  | .openPool _ | .adopt _ _ | .connect | .probe _ | .executeDirectly _ _ | .queryDirectly _ _
  | .disconnect _ => none

section Job

variable {world : World} {request : Request} {index caller : Nat} {job : Job}

/-- A job is done in the pool of which it is asked. -/
theorem begin_of_job (asks : request.job? = some (index, job)) :
    world.begin caller request = world.callPool index (job.work caller) := by
  cases request <;> cases asks <;> rfl

theorem isOpen_of_accepted {pool : Pool} (found : world.pools[index]? = some pool)
    (accepted : world.isOpen index = true) : pool.isOpen = true := by
  unfold isOpen at accepted
  rwa [found] at accepted

theorem fits_of_accepts (accepted : world.accepts request = true)
    (asks : request.job? = some (index, job)) {pool : Pool}
    (found : world.pools[index]? = some pool) : job.Fits pool := by
  cases request <;> cases asks <;> try trivial
  case dropPool.refl =>
    have droppable : world.isDroppable index = true := accepted
    unfold isDroppable at droppable
    rw [found] at droppable
    exact (Bool.and_eq_true_iff.mp droppable).1
  all_goals exact isOpen_of_accepted found accepted

end Job

variable (world : World) {index : Nat} {work : Site → Turn}

/-! ### What a call changes -/

@[simp]
theorem pools_keepDetached (answer : Option Pool.Answer) :
    (world.keepDetached answer).pools = world.pools := by
  unfold keepDetached
  split <;> rfl

@[simp]
theorem server_keepDetached (answer : Option Pool.Answer) :
    (world.keepDetached answer).server = world.server := by
  unfold keepDetached
  split <;> rfl

@[simp]
theorem callers_keepDetached (answer : Option Pool.Answer) :
    (world.keepDetached answer).callers = world.callers := by
  unfold keepDetached
  split <;> rfl

/-- Only the pool in which somebody works is changed. -/
theorem pools_callPool : (world.callPool index work).1.pools =
    world.pools.modify index fun pool => (work ⟨world.now, world.server, pool⟩).1.pool := by
  simp only [callPool, inPool, pools_keepDetached]
  cases found : world.pools[index]? with
  | none => exact (List.modify_eq_self (List.getElem?_eq_none_iff.mp found)).symm
  | some pool => simp [List.modify_eq_set_getElem?, found]

@[simp]
theorem callers_callPool : (world.callPool index work).1.callers = world.callers := by
  simp only [callPool, inPool, callers_keepDetached]
  split <;> rfl

variable {world} in
/-- Nobody works in a pool that does not exist. -/
theorem callPool_eq_self (work : Site → Turn) (none : world.pools[index]? = none) :
    world.callPool index work = (world, Option.none) := by
  simp [callPool, inPool, none, keepDetached]

variable {world} in
/-- The answer to work in a pool. -/
theorem answer_callPool {pool : Pool} (found : world.pools[index]? = some pool) :
    (world.callPool index work).2 = (work ⟨world.now, world.server, pool⟩).2.map ofPool := by
  simp only [World.callPool, inPool, found]

variable {world} in
/-- The pool in which somebody works is as the work leaves it. -/
theorem found_callPool {pool : Pool} (found : world.pools[index]? = some pool) :
    (world.callPool index work).1.pools[index]? =
      some (work ⟨world.now, world.server, pool⟩).1.pool := by
  rw [pools_callPool, List.getElem?_modify_eq, found]
  rfl

/-! ### What a move changes -/

/-- What can happen when nobody can rely on who goes on next, who is told first, and when. -/
inductive Move where
  | act (action : Action)
  /-- The agents that wait in a pool change places. -/
  | reorder (pool : Nat) (tasks : List Pool.Task)
  /-- Somebody who sleeps is told for no reason. -/
  | stir (pool : Nat)
  /-- Time passes, even if somebody could go on. -/
  | elapse (duration : Nat)

/-- The world after a move. -/
def move (world : World) : Move → World
  | .act action => (world.step action).1
  | .reorder index tasks => { world with pools := world.pools.modify index (·.reorder tasks) }
  | .stir index => { world with pools := world.pools.modify index Pool.notifyOne }
  | .elapse duration => { world with now := world.now + duration }

/-- Who works in a move. -/
def Move.thread? (world : World) : Move → Option Thread
  | .act (.call request) => some (request.thread world)
  | .act (.resume thread) => some thread
  | _ => none

/-- What is over with a move. -/
def Move.event? (world : World) : Move → Option Event
  | .act action => (world.step action).2
  | _ => none

/-- What a move makes of the number of calls and of the pools. -/
inductive Affects (world : World) : Nat → List Pool → Prop where
  | nothing {callers : Nat} (later : world.callers ≤ callers) : Affects world callers world.pools
  | opens (config : Config) (valid : config.Valid) :
      Affects world (world.callers + 1)
        (world.pools ++ [(Site.prewarm ⟨world.now, world.server, .new config world.now⟩
          (.caller world.callers) 0).1.pool])
  | calls (index : Nat) (job : Job)
      (fits : ∀ pool, world.pools[index]? = some pool → job.Fits pool) :
      Affects world (world.callers + 1) (world.pools.modify index fun pool =>
        (job.work world.callers ⟨world.now, world.server, pool⟩).1.pool)
  | resumes (index : Nat) (agent : Pool.Agent) :
      Affects world world.callers (world.pools.modify index fun pool =>
        (Site.resume ⟨world.now, world.server, pool⟩ agent).1.pool)
  | puts (handle : Handle) (session : Session) :
      Affects world (world.callers + 1)
        (world.pools.modify handle.pool (·.putSession handle.ticket session))
  | reorders (index : Nat) (tasks : List Pool.Task) :
      Affects world world.callers (world.pools.modify index (·.reorder tasks))
  | stirs (index : Nat) :
      Affects world world.callers (world.pools.modify index Pool.notifyOne)

/-- No call is forgotten. -/
theorem Affects.callers_le {callers : Nat} {pools : List Pool}
    (affects : Affects world callers pools) : world.callers ≤ callers := by
  cases affects with
  | nothing later => exact later
  | opens config valid => exact Nat.le_succ _
  | calls index job fits => exact Nat.le_succ _
  | puts handle session => exact Nat.le_succ _
  | _ => exact Nat.le_refl _

/-- Whoever holds a session and only uses it leaves the pools as they are. -/
theorem pools_withSession {holder : Holder} {use : Session → World × Option Answer}
    (keeps : ∀ session, (use session).1.callers = world.callers ∧
      (use session).1.pools = world.pools) :
    (world.withSession holder use).1.callers = world.callers ∧
      (world.withSession holder use).1.pools = world.pools := by
  unfold withSession
  split
  · exact keeps _
  · exact ⟨rfl, rfl⟩

theorem pools_finishErrand (work : Errand.Work) :
    (world.finishErrand work).1.callers = world.callers ∧
      (world.finishErrand work).1.pools = world.pools := by
  unfold finishErrand
  split
  · split <;> exact ⟨rfl, rfl⟩
  · exact ⟨rfl, rfl⟩

/-- A caller on an errand leaves the pools as they are. -/
theorem pools_resumeErrand (caller : Nat) :
    (world.resumeErrand caller).1.callers = world.callers ∧
      (world.resumeErrand caller).1.pools = world.pools := by
  unfold resumeErrand
  split
  · split
    · exact pools_finishErrand _ _
    · exact ⟨rfl, rfl⟩
  · exact ⟨rfl, rfl⟩

/-- Time that passes leaves the pools as they are. -/
theorem pools_passTo (instant : Nat) : (world.passTo instant).callers = world.callers ∧
    (world.passTo instant).pools = world.pools := by
  unfold passTo
  split <;> exact ⟨rfl, rfl⟩

/-- A call that is not a job in a pool affects the pools in one of these ways. -/
theorem affects_begin {request : Request} (accepted : world.accepts request = true)
    (asks : request.job? = none) :
    let begun := ({ world with callers := world.callers + 1 } : World).begin world.callers request
    Affects world begun.1.callers begun.1.pools := by
  let numbered : World := { world with callers := world.callers + 1 }
  have unchanged {after : World} (keeps : after.callers = world.callers + 1 ∧
      after.pools = world.pools) : Affects world after.callers after.pools := by
    rw [keeps.1, keeps.2]
    exact .nothing (Nat.le_succ _)
  cases request with
  | openPool config =>
      simp only [begin, openPool]
      split
      case h_1 => exact .nothing (Nat.le_succ _)
      case h_2 consistent =>
        rw [callers_callPool, pools_callPool]
        rw [modify_concat]
        exact .opens config (Config.problem?_eq_none_iff.mp consistent)
  | adopt index id =>
      simp only [begin, adopt]
      split
      case h_1 => exact .nothing (Nat.le_succ _)
      case h_2 session held =>
        rw [callers_callPool, pools_callPool]
        have opened := (Bool.and_eq_true_iff.mp accepted).1
        exact .calls index (.adopt session) fun pool found => isOpen_of_accepted found opened
  | connect => exact .nothing (Nat.le_succ _)
  | probe holder => exact unchanged (numbered.pools_withSession fun _ => ⟨rfl, rfl⟩)
  | executeDirectly holder statement =>
      exact unchanged (numbered.pools_withSession fun _ => ⟨rfl, rfl⟩)
  | queryDirectly holder statement =>
      exact unchanged (numbered.pools_withSession fun _ => ⟨rfl, rfl⟩)
  | disconnect holder =>
      simp only [begin, disconnect, withSession]
      split
      case h_1 session held =>
        cases holder with
        | lease handle => exact .puts handle session.closed
        | outside id => exact .nothing (Nat.le_succ _)
      case h_2 => exact .nothing (Nat.le_succ _)
  | _ => cases asks

/-- A call, whether it is turned away or not, affects the pools in one of these ways. -/
theorem affects_call (request : Request) :
    Affects world (world.call request).1.callers (world.call request).1.pools := by
  unfold call
  split
  case isFalse => exact .nothing (Nat.le_refl _)
  case isTrue accepted =>
    cases asks : request.job? with
    | none => exact world.affects_begin accepted asks
    | some asked =>
        obtain ⟨index, job⟩ := asked
        dsimp only
        rw [begin_of_job asks, callers_callPool, pools_callPool]
        exact .calls index job fun pool found => fits_of_accepts accepted asks found

/-- An agent that goes on affects only the pool in which it works. -/
theorem affects_resume (thread : Thread) :
    Affects world (world.resume thread).1.callers (world.resume thread).1.pools := by
  cases thread with
  | inPool index agent =>
      simp only [resume, callers_callPool, pools_callPool]
      exact .resumes index agent
  | errand caller =>
      obtain ⟨callers, pools⟩ := world.pools_resumeErrand caller
      simp only [resume, callers, pools]
      exact .nothing (Nat.le_refl _)

/-- Every move affects the pools in one of these ways. -/
theorem affects_move (move : Move) :
    Affects world (world.move move).callers (world.move move).pools := by
  cases move with
  | act action =>
      cases action with
      | call request => exact world.affects_call request
      | resume thread => exact world.affects_resume thread
      | instruct command => exact .nothing (Nat.le_refl _)
      | passTo instant =>
          obtain ⟨callers, pools⟩ := world.pools_passTo instant
          simp only [World.move, step, callers, pools]
          exact .nothing (Nat.le_refl _)
  | reorder index tasks => exact .reorders index tasks
  | stir index => exact .stirs index
  | elapse duration => exact .nothing (Nat.le_refl _)

/-! ### Possible worlds -/

/-- The worlds that moves can lead to from a new one. -/
inductive Possible : World → Prop where
  | new : Possible World.new
  | move {world : World} (before : Possible world) (move : Move) : Possible (world.move move)

/-- A world that a run leads to is one that moves can lead to. -/
theorem Reachable.possible {world : World} (reachable : Reachable world) : Possible world := by
  induction reachable with
  | new => exact .new
  | step _ action possible => exact possible.move (.act action)

end World

end SessionPool
