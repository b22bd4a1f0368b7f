import SessionPool.Proofs.Disposal.Undisturbed
import SessionPool.Proofs.Returns.Statements

/-!
# A return decides exactly

A connection that comes back is queued if no statement has lost it, if the pool still lends when the
return gets to the queue, and if the connection passes its probe where the settings ask for one. In
every other case it leaves the pool and is disconnected, once. Between the call that gives it back
and the end of the return others may do whatever they like.
-/

namespace SessionPool

open Pool (Agent Job Balanced Sound)

/-! ### The turn that decides -/

/-- What the last turn of a return makes of the pool, the connection being `kept` or not. -/
structure Pool.Returned (before after : Pool) (agent : Agent) (connection : Connection)
    (kept : Bool) : Prop where
  /-- A connection that is kept is last in the queue. -/
  idle_eq : after.idle = if kept then before.idle ++ [connection] else before.idle
  total_eq : after.total + (!kept).toNat = before.total
  /-- Until then the connection was active. -/
  tracked : connection.id ∈ before.active
  active_eq : after.active = before.active.erase connection.id
  untracked : connection.id ∉ after.active
  /-- As long as the pool lends, whoever has been asleep for longest is told. -/
  tasks_eq : after.tasks =
    if before.isShutdown then (before.unpark agent).tasks
    else Pool.notifyFirst (before.unpark agent).tasks

section Settles

variable {turn : Turn} {site : Site} {connection : Connection} {kept : Bool}

/-- It does not show on a connection that is not kept whether it was broken. -/
theorem Turn.Settles.unbroken (settles : turn.Settles site connection.broken false) :
    turn.Settles site connection false := by
  obtain ⟨answer, idle, server, total, active, tasks⟩ := settles
  exact ⟨answer, idle, server, total, active, tasks⟩

/-- A connection is disconnected with the turn if it is not kept. -/
theorem Turn.Settles.disconnectCount_eq (settles : turn.Settles site connection kept) :
    turn.1.server.disconnectCount connection.name =
      site.server.disconnectCount connection.name + (!kept).toNat := by
  rw [settles.server_eq]
  cases kept with
  | true => rfl
  | false => simp [Server.disconnectCount_disconnect, Connection.name]

/-- A pool in which a return is settled is left as it should be. The agent may have been waiting in
the pool before. -/
theorem Turn.Settles.returned (settles : turn.Settles site connection kept) {before : Pool}
    {agent : Agent} (idle : site.pool.idle = before.idle) (total : site.pool.total = before.total)
    (active : site.pool.active = before.active)
    (shutdown : site.pool.isShutdown = before.isShutdown)
    (tasks : site.pool.tasks = (before.unpark agent).tasks)
    (tracked : connection.id ∈ before.active) (distinct : before.active.Nodup) :
    before.Returned turn.1.pool agent connection kept := by
  have forgets := settles.active_eq
  rw [active] at forgets
  refine ⟨?_, ?_, tracked, forgets, ?_, ?_⟩
  · rw [← idle]
    exact settles.idle_eq
  · rw [← total]
    exact settles.total_eq
  · rw [forgets]
    exact distinct.not_mem_erase
  · rw [← shutdown, ← tasks]
    exact settles.tasks_eq

end Settles

namespace Pool

variable {pool : Pool}

/-- An agent that does not wait has no task to take away. -/
theorem unpark_eq_self {agent : Agent} (absent : ∀ task ∈ pool.tasks, task.agent ≠ agent) :
    pool.unpark agent = pool := by
  have same : pool.tasks.eraseP (·.agent == agent) = pool.tasks := by
    apply List.eraseP_of_forall_not
    simpa using absent
  rw [unpark, same]

end Pool

namespace World

/-! ### Returns -/

/-- The handle whose connection a call gives back: the handle is released, or thrown away, or its
connection is said to be of no use. -/
def Request.returns? : Request → Option Handle
  | .release handle | .invalidate handle | .discard handle => some handle
  | _ => none

/-- Whether the caller says that the connection is of no use any more. -/
def Request.condemns : Request → Bool
  | .invalidate _ => true
  | _ => false

/-- What the return waits for that a call in the world `start` has begun, if it probes the
connection. -/
def returning (start : World) (connection : Connection) : Pool.Task :=
  ⟨.caller start.callers, .returnProbe (connection.touch start.now),
    some (start.now + start.server.probeTime connection.session)⟩

/-- What is decided in the pool at `index` by the last turn of a return that has begun in `start`,
the turn being made in the world `before`. -/
def Decided (start before after : World) (index : Nat) (pool : Pool) (connection : Connection)
    (lost : Bool) : Prop :=
  ∃ old new kept, before.pools[index]? = some old ∧ after.pools[index]? = some new ∧
    kept = (!lost && !old.isShutdown &&
      (!pool.config.testOnReturn || before.server.answers connection.session)) ∧
    old.Returned new (.caller start.callers) (connection.touch start.now) kept ∧
    after.server.disconnectCount connection.name =
      start.server.disconnectCount connection.name + (!kept).toNat

/-- What becomes of a connection that is given back to `pool` by a call in the world `start`, the
connection being known as `lost` or not. -/
structure DecidesReturn (start : World) (request : Request) (handle : Handle) (pool : Pool)
    (connection : Connection) (lost : Bool) : Prop where
  /-- Nothing is asked of the server for a connection that is lost, or of no use to a pool that is
  shut down. -/
  unprobed (futile : lost = true ∨ pool.isShutdown = true) :
    (start.call request).2 = some ⟨request.thread start, .ok (.pool .done)⟩ ∧
      (start.call request).1.server.probes = start.server.probes
  /-- A return that is not over at once waits for the answer to a probe, and has done nothing else
  to the pool than to end the lease. -/
  probes (unanswered : (start.call request).2 = none) :
    (start.call request).1.pools[handle.pool]? =
        some ((pool.endLease handle.ticket).park (start.returning connection)) ∧
      (start.call request).1.server = start.server.startProbe connection.session
  /-- Whatever happens, it waits until it is over, and it can go on when the answer comes. -/
  waits {later : List Move}
    (unanswered : ∀ event ∈ start.events (.act (.call request) :: later),
      event.thread ≠ request.thread start) :
    ∃ now : Pool, (start.after (.act (.call request) :: later)).pools[handle.pool]? = some now ∧
      start.returning connection ∈ now.tasks ∧
      ((start.returning connection).isDue (start.after (.act (.call request) :: later)).now =
          true →
        ((start.after (.act (.call request) :: later)).resume (request.thread start)).2 =
          some ⟨request.thread start, .ok (.pool .done)⟩)
  /-- With the turn that ends the return the connection is in the queue, or it has left the pool and
  has been disconnected once since the return began. -/
  decides {run : List Move} {last : Move} {answer : Answer}
    (begins : (run ++ [last]).head? = some (.act (.call request)))
    (first : ∀ event ∈ start.events run, event.thread ≠ request.thread start)
    (ends : last.event? (start.after run) = some ⟨request.thread start, answer⟩) :
    answer = .ok (.pool .done) ∧
      start.Decided (start.after run) (start.after (run ++ [last])) handle.pool pool connection lost

/-! ### The numbers of a pool -/

/-- Every possible world comes from a run in which the numbers are kept. -/
theorem Possible.exists_kept {world : World} (possible : Possible world) :
    ∃ register : Register, register.Kept ∧ register.world = world := by
  induction possible with
  | new => exact ⟨.new, Register.kept_new, rfl⟩
  | move _ move ih =>
      obtain ⟨register, kept, rfl⟩ := ih
      exact ⟨register.move move, kept.move move, rfl⟩

/-- No connection is active twice. -/
theorem Possible.nodup_active {world : World} (possible : Possible world) {index : Nat}
    {pool : Pool} (found : world.pools[index]? = some pool) (present : pool.isPresent = true) :
    pool.active.Nodup := by
  have sound := possible.sound pool (List.mem_of_getElem? found)
  obtain ⟨register, kept, rfl⟩ := possible.exists_kept
  exact (Pool.disjoint_of_nodup (kept.nodup_ids found) (sound.active_perm present)).1

/-! ### The call -/

/-- What the first turn of a return comes to in a pool that is there, the connection being known as
`lost` or not. -/
inductive Receives (rest : Site) (agent : Agent) (connection : Connection) (lost : Bool) :
    Turn → Prop where
  | probed (unlost : lost = false) (running : rest.pool.isShutdown = false)
      (tests : rest.pool.config.testOnReturn = true) :
      Receives rest agent connection lost
        (rest.probe agent connection.session (.returnProbe (connection.touch rest.now)))
  | settled {turn : Turn} (kept : Bool) (verdict : kept = (!lost && !rest.pool.isShutdown))
      (untested : kept = true → rest.pool.config.testOnReturn = false)
      (settles : turn.Settles rest (connection.touch rest.now) kept) :
      Receives rest agent connection lost turn

section Receives

variable {site : Site} {agent : Agent} {connection : Connection} {turn : Turn}
  (present : site.pool.isPresent = true)

include present

/-- A pool that is there takes back what it knows of. -/
theorem receives_of_takesBack (back : site.TakesBack agent connection turn) :
    Receives site agent connection (!connection.isReusable) turn := by
  cases back with
  | gone absent =>
      rw [absent] at present
      cases present
  | probed _ reusable running tests => exact .probed (by rw [reusable]; rfl) running tests
  | settled _ kept verdict untested settles =>
      exact .settled kept (by rw [verdict, Bool.not_not]) untested settles

/-- A connection that is of no use is lost. -/
theorem receives_of_takesBack_broken (back : site.TakesBack agent connection.broken turn) :
    Receives site agent connection true turn := by
  cases back with
  | gone absent =>
      rw [absent] at present
      cases present
  | probed _ reusable _ _ => cases reusable
  | settled _ kept verdict untested settles =>
      obtain rfl : kept = false := verdict
      exact .settled false rfl nofun settles.unbroken

/-- A call that gives a connection back does so. -/
theorem receives_of_parts {caller : Nat} {job : Job}
    (parts : job.Parts site caller connection turn) {request : Request} {handle : Handle}
    (returns : request.returns? = some handle) {index : Nat}
    (asks : request.job? = some (index, job)) :
    Receives site (.caller caller) connection (!connection.isReusable || request.condemns)
      turn := by
  cases parts with
  | release back =>
      cases request <;> cases asks
      change Receives _ _ _ (!connection.isReusable || false) _
      rw [Bool.or_false]
      exact receives_of_takesBack present back
  | discard back =>
      cases request <;> cases asks
      change Receives _ _ _ (!connection.isReusable || false) _
      rw [Bool.or_false]
      exact receives_of_takesBack present back
  | invalidate back =>
      cases request <;> cases asks
      change Receives _ _ _ (!connection.isReusable || true) _
      rw [Bool.or_true]
      exact receives_of_takesBack_broken present back
  | _ =>
      cases request <;> cases asks
      cases returns

end Receives

theorem Request.ends?_of_returns {request : Request} {handle : Handle}
    (returns : request.returns? = some handle) : request.ends? = some handle := by
  cases request <;> cases returns <;> rfl

/-! ### The probe -/

/-- The pool is there for as long as a connection is being probed on its way back. -/
theorem isPresent_of_returning {pool : Pool} {task : Pool.Task} (present : task ∈ pool.tasks)
    {connection : Connection} (probes : task.phase = .returnProbe connection) :
    pool.isPresent = true := by
  apply Bool.or_eq_true_iff.mpr
  refine .inr (List.any_eq_true.mpr ⟨task, present, ?_⟩)
  rw [Pool.Task.isReturning, probes]

section Returning

variable {world : World} {index : Nat} {pool : Pool} {task : Pool.Task} {connection : Connection}
  (possible : Possible world) (found : world.pools[index]? = some pool)
  (present : task ∈ pool.tasks) (probes : task.phase = .returnProbe connection)

include possible found present probes

/-- The answer to its probe settles what becomes of a connection. -/
theorem resume_settles (ready : pool.isReady world.now task = true) :
    ((world.site pool).resume task.agent).Settles
      ((world.site pool).withPool (·.unpark task.agent)) connection
      (world.server.answers connection.session && !pool.isShutdown) := by
  have sound := possible.sound pool (List.mem_of_getElem? found)
  have tracked : connection.id ∈ pool.active :=
    sound.mem_active_of_returnProbe (isPresent_of_returning present probes) present probes
  have some : 0 < pool.total := by
    have active := List.length_pos_of_mem tracked
    have total := sound.accounted.total_eq
    omega
  have here : (world.site pool).pool.task? task.agent = Option.some task := sound.task?_eq present
  let rest := (world.site pool).withPool (·.unpark task.agent)
  have back (given : Connection) (same : given.id = connection.id) (healthy : Bool) :
      (rest.requeue given healthy).Settles rest given (healthy && !pool.isShutdown) := by
    have trackedHere : given.id ∈ rest.pool.active := by
      rw [same]
      exact tracked
    exact Site.requeue_settles trackedHere some healthy
  rw [Site.resume_eq_proceed here ready, probes, Site.proceed, Site.returnProbed]
  change Turn.Settles (if world.server.answers connection.session = true then _ else _) _ _ _
  cases alive : world.server.answers connection.session with
  | true =>
      rw [if_pos rfl]
      exact back connection rfl true
  | false =>
      rw [if_neg Bool.false_ne_true]
      exact (back connection.broken rfl false).unbroken

/-- Nothing happens to a connection that is being probed until its return is over. -/
theorem waits_move {move : Move}
    (unanswered : ∀ event ∈ move.event? world, event.thread ≠ .inPool index task.agent) :
    ∃ after, (world.move move).pools[index]? = some after ∧ task ∈ after.tasks ∧
      (world.move move).server.disconnectCount connection.name =
        world.server.disconnectCount connection.name := by
  obtain ⟨after, foundAfter, happens⟩ := becomes_move found move
  have kept : connection ∈ task.connections := by
    rw [Pool.Task.connections, probes]
    exact List.mem_singleton_self _
  have still : task ∈ after.tasks := by
    by_cases own : move = .act (.resume (.inPool index task.agent))
    case neg =>
      apply happens.mem_tasks present _ own
      rw [Pool.Task.isWaiting, probes]
    case pos =>
      subst own
      cases ready : pool.isReady world.now task with
      | true =>
          have answer := (resume_settles possible found present probes ready).answer_eq
          have ended : (world.resume (.inPool index task.agent)).2 = _ :=
            (resume_turn task.agent found).2.2
          rw [ending, answer] at ended
          exact absurd rfl (unanswered _ ended)
      | false =>
          have same := (resume_unready possible found present ready).1
          obtain rfl := Option.some.inj (foundAfter.symm.trans same)
          exact present
  refine ⟨after, foundAfter, still, ?_⟩
  apply possible.disconnectCount_move found (Pool.mem_kept_of_task present kept) foundAfter
  · exact Pool.mem_connections_of_kept (Pool.mem_kept_of_task still kept)
  · rfl

end Returning

/-- A connection that is being probed stays where it is until its return is over. -/
theorem waits_run {world : World} {index : Nat} {pool : Pool} {task : Pool.Task}
    {connection : Connection} (possible : Possible world)
    (found : world.pools[index]? = some pool) (present : task ∈ pool.tasks)
    (probes : task.phase = .returnProbe connection) {moves : List Move}
    (unanswered : ∀ event ∈ world.events moves, event.thread ≠ .inPool index task.agent) :
    ∃ now, (world.after moves).pools[index]? = some now ∧ task ∈ now.tasks ∧
      (world.after moves).server.disconnectCount connection.name =
        world.server.disconnectCount connection.name := by
  induction moves generalizing world pool with
  | nil => exact ⟨pool, found, present, rfl⟩
  | cons move later ih =>
      obtain ⟨next, foundNext, still, same⟩ := waits_move possible found present probes
        fun event ended => unanswered event
          (List.mem_append_left _ (Option.mem_toList.mpr ended))
      obtain ⟨now, foundNow, waits, count⟩ := ih (possible.move move) foundNext still
        fun event ended => unanswered event (List.mem_append_right _ ended)
      exact ⟨now, foundNow, waits, count.trans same⟩

/-! ### How a return begins -/

/-- A return that has begun with a probe. -/
structure BeginsProbed (start : World) (request : Request) (handle : Handle) (pool : Pool)
    (connection : Connection) (lost : Bool) : Prop where
  unanswered : (start.call request).2 = none
  unlost : lost = false
  running : pool.isShutdown = false
  tests : pool.config.testOnReturn = true
  pool_eq : (start.call request).1.pools[handle.pool]? =
    some ((pool.endLease handle.ticket).park (start.returning connection))
  server_eq : (start.call request).1.server = start.server.startProbe connection.session

/-- A return that is over with the call. -/
structure EndsAtOnce (start : World) (request : Request) (handle : Handle) (pool : Pool)
    (connection : Connection) (lost : Bool) : Prop where
  answered : (start.call request).2 = some ⟨request.thread start, .ok (.pool .done)⟩
  probes_eq : (start.call request).1.server.probes = start.server.probes
  decided : start.Decided start (start.call request).1 handle.pool pool connection lost

section Begin

variable {start : World} (possible : Possible start) {handle : Handle} {pool : Pool}
  (found : start.pools[handle.pool]? = some pool)

include possible found

/-- A return begins with a probe or is over at once. -/
theorem beginsProbed_or_endsAtOnce {lease : Lease}
    (good : pool.lease? handle.ticket = some lease) (present : pool.isPresent = true)
    {request : Request} (returns : request.returns? = some handle)
    (accepted : start.accepts request = true) {lost : Bool}
    (known : lost = (!lease.connection.isReusable || request.condemns)) :
    start.BeginsProbed request handle pool lease.connection lost ∨
      start.EndsAtOnce request handle pool lease.connection lost := by
  have sound : Sound start.callers (start.site pool).pool :=
    possible.sound pool (List.mem_of_getElem? found)
  have here : (start.site pool).pool.lease? handle.ticket = some lease := good
  have ends := Request.ends?_of_returns returns
  obtain ⟨job, asks, endsLease⟩ := Request.job?_of_ends ends
  have receives := receives_of_parts present (sound.parts here endsLease start.callers) returns asks
  rw [← known] at receives
  have thread : request.thread start = .inPool handle.pool (.caller start.callers) :=
    Request.thread_of_job asks
  rw [← Request.asks?_eq_job? ends] at asks
  obtain ⟨foundAfter, server, ended⟩ := call_turn accepted asks found
  rw [turn] at foundAfter server ended
  generalize job.work start.callers (start.site pool) = turn at *
  cases receives with
  | probed unlost running tests => exact .inl ⟨ended, unlost, running, tests, foundAfter, server⟩
  | settled kept verdict untested settles =>
      refine .inr ⟨?_, ?_, pool, turn.1.pool, kept, found, foundAfter, ?_, ?_, ?_⟩
      · rw [ended, ending, settles.answer_eq, thread]
        rfl
      · rw [server, settles.server_eq]
        cases kept <;> rfl
      · change kept = (!lost && !pool.isShutdown) at verdict
        rw [← verdict]
        cases kept with
        | true =>
            have untested : pool.config.testOnReturn = false := untested rfl
            rw [untested, Bool.not_false, Bool.true_or, Bool.and_true]
        | false => rw [Bool.false_and]
      · have tracked := sound.mem_active_of_lease present (List.mem_of_find?_eq_some here)
        have alone : pool.unpark (.caller start.callers) = pool :=
          Pool.unpark_eq_self fun task waits => sound.agent_ne_callers waits
        have tasks : (pool.endLease handle.ticket).tasks =
            (pool.unpark (.caller start.callers)).tasks := by
          rw [alone]
          rfl
        have distinct := possible.nodup_active found present
        exact settles.returned rfl rfl rfl rfl tasks tracked distinct
      · rw [server]
        exact settles.disconnectCount_eq

end Begin

/-- A return that is over after a probe is decided by it. -/
theorem decided_of_resume {start world : World} (possible : Possible world) {pool now : Pool}
    {index : Nat} (found : world.pools[index]? = some now) {connection : Connection}
    (waits : start.returning connection ∈ now.tasks) (tests : pool.config.testOnReturn = true)
    (same : world.server.disconnectCount connection.name =
      start.server.disconnectCount connection.name)
    (ready : now.isReady world.now (start.returning connection) = true) :
    (world.resume (.inPool index (.caller start.callers))).2 =
        some ⟨.inPool index (.caller start.callers), .ok (.pool .done)⟩ ∧
      start.Decided world (world.resume (.inPool index (.caller start.callers))).1 index pool
        connection false := by
  obtain ⟨foundAfter, server, ended⟩ := resume_turn (.caller start.callers) found
  have settles : ((world.site now).resume (.caller start.callers)).Settles _ _ _ :=
    resume_settles possible found waits rfl ready
  have sound := possible.sound now (List.mem_of_getElem? found)
  have present := isPresent_of_returning waits rfl
  constructor
  · rw [ended, ending, settles.answer_eq]
    rfl
  · refine ⟨now, _, world.server.answers connection.session && !now.isShutdown, found, foundAfter,
      ?_, ?_, ?_⟩
    · rw [tests, Bool.not_false, Bool.true_and, Bool.not_true, Bool.false_or, Bool.and_comm]
    · have tracked := sound.mem_active_of_returnProbe present waits rfl
      have distinct := possible.nodup_active found present
      exact settles.returned rfl rfl rfl rfl rfl tracked distinct
    · have counts := settles.disconnectCount_eq
      rw [← server] at counts
      exact counts.trans (congrArg (· + _) same)

/-! ### The theorem -/

section Theorem

variable {start : World} {request : Request} {handle : Handle} {pool : Pool}
  {connection : Connection} {lost : Bool} {later : List Move}

/-- The call that ends a return at once answers it. -/
theorem EndsAtOnce.mem_events
    (atOnce : start.EndsAtOnce request handle pool connection lost) (later : List Move) :
    ⟨request.thread start, .ok (.pool .done)⟩ ∈ start.events (.act (.call request) :: later) :=
  List.mem_append_left _ (Option.mem_toList.mpr atOnce.answered)

variable (possible : Possible start)
  (begins : start.BeginsProbed request handle pool connection lost)
  (thread : request.thread start = .inPool handle.pool (.caller start.callers))

include possible begins thread

/-- A return that has begun with a probe waits for the answer, whatever happens. -/
theorem BeginsProbed.waits
    (unanswered : ∀ event ∈ start.events (.act (.call request) :: later),
      event.thread ≠ request.thread start) :
    ∃ now : Pool, (start.after (.act (.call request) :: later)).pools[handle.pool]? = some now ∧
      start.returning connection ∈ now.tasks ∧
      (start.after (.act (.call request) :: later)).server.disconnectCount connection.name =
        start.server.disconnectCount connection.name := by
  have present : start.returning connection ∈
      ((pool.endLease handle.ticket).park (start.returning connection)).tasks :=
    List.mem_append_right _ (List.mem_singleton_self _)
  rw [thread] at unanswered
  obtain ⟨now, foundNow, waits, same⟩ := waits_run (possible.move (.act (.call request)))
    begins.pool_eq present rfl
    fun event ended => unanswered event (List.mem_append_right _ ended)
  refine ⟨now, foundNow, waits, same.trans ?_⟩
  have server : (start.move (.act (.call request))).server = _ := begins.server_eq
  rw [server, Server.disconnectCount, Server.disconnects_startProbe]
  rfl

/-- The turn with which a probed return is over is its own, and it has the answer to the probe. -/
theorem BeginsProbed.decided {last : Move} {answer : Answer}
    (first : ∀ event ∈ start.events (.act (.call request) :: later),
      event.thread ≠ request.thread start)
    (ends : last.event? (start.after (.act (.call request) :: later)) =
      some ⟨request.thread start, answer⟩) :
    answer = .ok (.pool .done) ∧
      start.Decided (start.after (.act (.call request) :: later))
        (start.after (.act (.call request) :: later ++ [last])) handle.pool pool connection
        lost := by
  obtain ⟨now, foundNow, waits, same⟩ := begins.waits possible thread first
  have possibleNow := possible.after (.act (.call request) :: later)
  rw [after_concat]
  generalize start.after (.act (.call request) :: later) = world at *
  rw [thread] at ends
  obtain rfl := resume_of_event possibleNow foundNow waits ends
  have ended : (world.resume (.inPool handle.pool (.caller start.callers))).2 = _ := ends
  cases ready : now.isReady world.now (start.returning connection) with
  | true =>
      obtain ⟨told, decided⟩ :=
        decided_of_resume possibleNow foundNow waits begins.tests same ready
      rw [told] at ended
      cases ended
      rw [begins.unlost]
      exact ⟨rfl, decided⟩
  | false =>
      have silent := (resume_unready possibleNow foundNow waits ready).2
      cases silent.symm.trans ended

end Theorem

/-- A return is decided by its last turn, by the statements that have been sent through the handle,
by the pool as the turn finds it and by the answer to its probe. -/
theorem return_decides {moves : List Move} {handle : Handle} {lease : Lease} {pool : Pool}
    {request : Request} (good : (World.new.after moves).lease? handle = some lease)
    (found : (World.new.after moves).pools[handle.pool]? = some pool)
    (present : pool.isPresent = true) (returns : request.returns? = some handle)
    (accepted : (World.new.after moves).accepts request = true) :
    (World.new.after moves).DecidesReturn request handle pool lease.connection
      ((results handle World.new moves).any loses || request.condemns) := by
  have possible := Possible.new.after moves
  have known := isReusable_eq_of_results good
  rw [lease?_eq found] at good
  generalize World.new.after moves = start at *
  obtain ⟨job, asks, _⟩ := Request.job?_of_ends (Request.ends?_of_returns returns)
  have thread : request.thread start = .inPool handle.pool (.caller start.callers) :=
    Request.thread_of_job asks
  have begins := beginsProbed_or_endsAtOnce possible found good present returns accepted rfl
  rw [known, Bool.not_not] at begins
  constructor
  case unprobed =>
    intro futile
    rcases begins with probed | atOnce
    · rcases futile with lost | shutdown
      · rw [probed.unlost] at lost
        cases lost
      · rw [probed.running] at shutdown
        cases shutdown
    · exact ⟨atOnce.answered, atOnce.probes_eq⟩
  case probes =>
    intro unanswered
    rcases begins with probed | atOnce
    · exact ⟨probed.pool_eq, probed.server_eq⟩
    · rw [atOnce.answered] at unanswered
      cases unanswered
  case waits =>
    intro later unanswered
    rcases begins with probed | atOnce
    · obtain ⟨now, foundNow, waits, same⟩ := probed.waits possible thread unanswered
      refine ⟨now, foundNow, waits, ?_⟩
      intro due
      have ready : now.isReady (start.after (.act (.call request) :: later)).now
          (start.returning lease.connection) = true := Bool.or_eq_true_iff.mpr (.inr due)
      rw [thread]
      exact (decided_of_resume (possible.after _) foundNow waits probed.tests same ready).1
    · exact absurd rfl (unanswered _ (atOnce.mem_events later))
  case decides =>
    intro run last answer heads first ends
    cases run with
    | nil =>
        obtain rfl : last = .act (.call request) := Option.some.inj heads
        have ended : (start.call request).2 = _ := ends
        rcases begins with probed | atOnce
        · rw [probed.unanswered] at ended
          cases ended
        · rw [atOnce.answered] at ended
          cases ended
          exact ⟨rfl, atOnce.decided⟩
    | cons move later =>
        obtain rfl : move = .act (.call request) := Option.some.inj heads
        rcases begins with probed | atOnce
        · exact probed.decided possible thread first ends
        · exact absurd rfl (first _ (atOnce.mem_events later))

/-- A caller has got the only connection of a pool that probes what comes back, and the server has
rejected a statement. -/
def rejectedOnce : List Move :=
  let config : Config :=
    { Config.default with minConnections := 0, maxConnections := 1, testOnReturn := true }
  [.act (.call (.openPool config)), .act (.call (.get 0)), .act (.resume (.inPool 0 (.caller 1))),
    .act (.instruct (.statementFault 1 (.queryFailed "no such table"))),
    .act (.call (.execute ⟨0, 1⟩ "select 1"))]

/-- A rejected statement does not count against the connection, which is probed on its way back. -/
theorem return_decides_rejectedOnce :
    ∃ lease pool, (World.new.after rejectedOnce).lease? ⟨0, 1⟩ = some lease ∧
      (World.new.after rejectedOnce).pools[0]? = some pool ∧
      results ⟨0, 1⟩ World.new rejectedOnce = [.error (.queryFailed "no such table")] ∧
      ((World.new.after rejectedOnce).call (.release ⟨0, 1⟩)).2 = none ∧
      (World.new.after rejectedOnce).DecidesReturn (.release ⟨0, 1⟩) ⟨0, 1⟩ pool lease.connection
        false := by
  let start := World.new.after rejectedOnce
  have good : start.lease? ⟨0, 1⟩ = some ((start.lease? ⟨0, 1⟩).get (by decide)) := by decide
  have found : start.pools[0]? = some (start.pools[0]?.get (by decide)) := by decide
  have decides : start.DecidesReturn (.release ⟨0, 1⟩) ⟨0, 1⟩ _ _ _ :=
    return_decides good found (by decide) rfl (by decide)
  exact ⟨_, _, good, found, by decide, by decide, decides⟩

end World

end SessionPool
