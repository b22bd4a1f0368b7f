import SessionPool.Proofs.Floor.Calm
import SessionPool.Proofs.Shutdown.Wane

/-!
# A shutdown is final

Once a pool is shut down, whoever is inside a checkout comes out of it without a connection, whoever
arrives later does not get in, and whatever is brought back or given to the pool is disconnected. So
the pool is empty as soon as the shutdown is over and nothing is lent any more.
-/

namespace SessionPool

namespace Pool.Job

/-- Whether a call asks for a connection. -/
def isCheckout : Job → Bool
  | .acquire _ | .get | .tryGet => true
  | _ => false

/-- The ticket of the lease that a call gives back. -/
def returns? : Job → Option Nat
  | .release ticket | .invalidate ticket | .discard ticket => some ticket
  | _ => none

/-- However a lease is given back, the pool takes back its session. -/
theorem work_eq_takeBack {job : Job} {ticket : Nat} (returns : job.returns? = some ticket)
    {site : Site} {lease : Lease} (good : site.pool.lease? ticket = some lease) (caller : Nat) :
    ∃ connection : Connection, connection.session = lease.connection.session ∧
      job.work caller site =
        (site.withPool (·.endLease ticket)).takeBack (.caller caller) connection := by
  cases job with
  | release ticket =>
      cases returns
      refine ⟨lease.connection, rfl, ?_⟩
      simp only [work, Site.release, good]
  | invalidate ticket =>
      cases returns
      refine ⟨lease.connection.broken, rfl, ?_⟩
      simp only [work, Site.invalidate, good]
  | discard ticket =>
      cases returns
      refine ⟨lease.connection, rfl, ?_⟩
      simp only [work, Site.discard, good]
  | _ => cases returns

variable {site : Site} (shutdown : site.pool.isShutdown = true)

include shutdown

theorem work_refuses {job : Job} (asks : job.isCheckout = true) (caller : Nat) :
    (job.work caller site).2 = some (.error .shutDown) := by
  have turned (patience : Patience) :
      (site.checkout caller patience).2 = some (.error .shutDown) := by
    rw [Site.checkout_eq_answer shutdown]
    rfl
  cases job with
  | acquire timeout => exact turned _
  | get => exact turned _
  | tryGet => exact turned _
  | _ => contradiction

end Pool.Job

namespace World

open Pool (Agent Job Task Balanced)

variable {world : World} {index : Nat} {pool : Pool}

/-- What a pool that is shut down does in the world as it is. -/
structure Final (world : World) (index : Nat) (pool : Pool) : Prop where
  /-- A caller that asks for a connection is turned away at once. -/
  arrives {request : Request} {job : Job} (accepted : world.accepts request = true)
    (asks : request.asks? world = some (index, job)) (checkout : job.isCheckout = true) :
    (world.call request).2 =
      some ⟨.inPool index (.caller world.callers), .error (.pool .shutDown)⟩
  /-- A caller inside a checkout can go on now, or waits for an answer of the server. -/
  waits {task : Task} (present : task ∈ pool.tasks) (inside : task.isCheckingOut = true) :
    pool.isReady world.now task = true ∨ ∃ due, task.due = some due
  /-- When it goes on, its call ends without a connection: with the shutdown, or with the failure of
  its connect. -/
  leaves {task : Task} (present : task ∈ pool.tasks) (inside : task.isCheckingOut = true)
    (ready : pool.isReady world.now task = true) :
    (world.resume (.inPool index task.agent)).2 =
      some ⟨.inPool index task.agent, .error (.pool (task.phase.refusal world.server))⟩
  /-- A session that is given to the pool is disconnected. -/
  adopts {id : Nat} {session : Session} (accepted : world.accepts (.adopt index id) = true)
    (held : world.outside? id = some session) :
    (world.call (.adopt index id)).2 =
        some ⟨.inPool index (.caller world.callers), .error (.pool .shutDown)⟩ ∧
      (world.call (.adopt index id)).1.server = world.server.disconnect session ∧
      (world.call (.adopt index id)).1.pools[index]? = some pool
  /-- A lease that is given back ends, and its session is disconnected and not queued. -/
  returns {request : Request} {job : Job} {ticket : Nat} {lease : Lease}
    (accepted : world.accepts request = true) (asks : request.asks? world = some (index, job))
    (gives : job.returns? = some ticket) (good : pool.lease? ticket = some lease) :
    (world.call request).2 = some ⟨.inPool index (.caller world.callers), .ok (.pool .done)⟩ ∧
      (world.call request).1.server = world.server.disconnect lease.connection.session ∧
      ∃ after, (world.call request).1.pools[index]? = some after ∧ after.idle = pool.idle ∧
        pool.leases.Perm (lease :: after.leases)
  /-- So is one that was being probed on its way back. -/
  probes {task : Task} {connection : Connection} (present : task ∈ pool.tasks)
    (phase : task.phase = .returnProbe connection)
    (ready : pool.isReady world.now task = true) :
    (world.resume (.inPool index task.agent)).2 =
        some ⟨.inPool index task.agent, .ok (.pool .done)⟩ ∧
      (world.resume (.inPool index task.agent)).1.server =
        world.server.disconnect connection.session ∧
      ∃ after, (world.resume (.inPool index task.agent)).1.pools[index]? = some after ∧
        after.idle = pool.idle
  /-- Nothing is idle, unless the shutdown has still to dispose of it. -/
  drained : pool.idle = [] ∨ ∃ task ∈ pool.tasks, task.isJoining = true
  drains {task : Task} (present : task ∈ pool.tasks) (joining : task.isJoining = true)
    (ready : pool.isReady world.now task = true) :
    ∃ after, (world.resume (.inPool index task.agent)).1.pools[index]? = some after ∧
      after.idle = []
  /-- When nobody is in the middle of a call or a sweep, only what is lent is left. -/
  balance (rest : pool.AtRest) (kept : pool.dropped = false) : pool.total = pool.leases.length

/-- When nobody is in the middle of a call, nothing is idle any more. -/
theorem idle_eq_nil_of_atRest (balanced : Balanced world.callers pool 0)
    (shutdown : pool.isShutdown = true) (rest : pool.AtRest) : pool.idle = [] := by
  rcases balanced.idle_eq_or_isJoining shutdown with idle | ⟨task, present, joining⟩
  · exact idle
  · rw [Task.isJoining, rest task present] at joining
    contradiction

/-- Every pool that is shut down does this, in every possible world. -/
theorem final_of_possible (possible : Possible world) (found : world.pools[index]? = some pool)
    (shutdown : pool.isShutdown = true) : world.Final index pool := by
  have member := List.mem_of_getElem? found
  have balanced := (possible.sound pool member).balanced shutdown
  let site := world.site pool
  have balancedHere : Balanced world.callers site.pool 0 := balanced
  have shutdownHere : site.pool.isShutdown = true := shutdown
  constructor
  case arrives =>
    intro request job accepted asks checkout
    rw [(call_turn accepted asks found).2.2, ending, turn,
      Job.work_refuses shutdownHere checkout]
    rfl
  case waits =>
    intro task present inside
    obtain ⟨agent, phase, due⟩ := task
    cases phase with
    | waiting checkout notified =>
        left
        have awake := balanced.isAsleep_eq shutdown _ present
        have told : notified = true := by simpa [Task.isAsleep] using awake
        simp [Pool.isReady, Pool.isWoken, told]
    | connecting checkout metadata attempt =>
        exact .inr (((possible.timely pool member).2 _ present).answered rfl)
    | borrowProbe checkout connection =>
        exact .inr (((possible.timely pool member).2 _ present).answered rfl)
    | _ => contradiction
  case leaves =>
    intro task present inside ready
    rw [(resume_turn task.agent found).2.2, ending,
      Site.resume_refuses balancedHere shutdown present inside ready]
    rfl
  case adopts =>
    intro id session accepted held
    have asks : Request.asks? world (.adopt index id) = some (index, .adopt session) := by
      rw [Request.asks?, held]
      rfl
    have turned : world.turn pool (.adopt session) =
        (world.site pool).turnAway session .shutDown :=
      Site.adopt_eq_turnAway shutdownHere session
    obtain ⟨after, server, event⟩ := call_turn accepted asks found
    rw [turned] at after server event
    exact ⟨event, server, after⟩
  case returns =>
    intro request job ticket lease accepted asks gives good
    have goodHere : site.pool.lease? ticket = some lease := good
    obtain ⟨connection, same, works⟩ :=
      Job.work_eq_takeBack gives goodHere world.callers
    have ended : (site.withPool (·.endLease ticket)).pool.isShutdown = true := shutdown
    have disconnects := Site.takeBack_disconnects ended (.caller world.callers) connection
    rw [same, ← works] at disconnects
    obtain ⟨after, server, event⟩ := call_turn accepted asks found
    refine ⟨?_, server.trans disconnects.server, _, after, disconnects.idle, ?_⟩
    · rw [event, ending, turn, disconnects.answer]
      rfl
    · rw [turn, disconnects.leases]
      exact Pool.leases_perm good
  case probes =>
    intro task connection present phase ready
    have disconnects := Site.resume_disconnects balancedHere shutdown present ready phase
    obtain ⟨after, server, event⟩ := resume_turn task.agent found
    refine ⟨?_, server.trans disconnects.server, _, after, disconnects.idle⟩
    rw [event, ending, disconnects.answer]
    rfl
  case drained => exact balanced.idle_eq_or_isJoining shutdown
  case drains =>
    intro task present joining ready
    exact ⟨_, (resume_turn task.agent found).1,
      Site.resume_drains balancedHere present ready joining⟩
  case balance =>
    intro rest kept
    have total := (balanced.total_of_atRest rest kept).1
    rw [idle_eq_nil_of_atRest balanced shutdown rest, List.length_nil, Nat.zero_add] at total
    exact total

/-! ### Runs -/

/-- One move more. -/
def Trace.move (trace : Trace) (move : Move) : Trace :=
  ⟨trace.world.move move, (move.event? trace.world).toList ++ trace.events⟩

/-- Several moves more. -/
def Trace.moves (trace : Trace) (moves : List Move) : Trace := moves.foldl Trace.move trace

/-- A pool that is shut down only loses what it has, for ever. -/
theorem wanes_moves {trace : Trace} (possible : Possible trace.world)
    (found : trace.world.pools[index]? = some pool) (shutdown : pool.isShutdown = true)
    {start : Pool} (wanes : start.Wanes index trace.events pool) (moves : List Move) :
    Possible (trace.moves moves).world ∧
      ∃ later, (trace.moves moves).world.pools[index]? = some later ∧
        start.Wanes index (trace.moves moves).events later := by
  induction moves generalizing trace pool with
  | nil => exact ⟨possible, pool, found, wanes⟩
  | cons move rest ih =>
      have balanced :=
        (possible.sound pool (List.mem_of_getElem? found)).balanced shutdown
      obtain ⟨after, foundAfter, happens⟩ := becomes_move found move
      have step := happens.wanes balanced shutdown
      have possibleAfter : Possible (trace.move move).world := possible.move move
      exact ih possibleAfter foundAfter step.shutdown (wanes.trans step)

/-- An owner that shuts a pool down finds it shut down. -/
theorem isShutdown_of_asks {request : Request} {thenDrop : Bool}
    (accepted : world.accepts request = true)
    (asks : request.asks? world = some (index, .shutdown thenDrop))
    (found : world.pools[index]? = some pool) :
    ∃ after, (world.call request).1.pools[index]? = some after ∧ after.isShutdown = true :=
  ⟨_, (call_turn accepted asks found).1, Site.shutdown_isShutdown _ thenDrop⟩

/-- A shutdown is final. Whatever happens after it, and in whichever order, the pool only loses what
it has, everybody who was inside a checkout is there still or has been refused, and whoever comes
next gets nothing and leaves nothing behind. -/
theorem shutdown_is_final {start : World} (possible : Possible start)
    (found : start.pools[index]? = some pool) (shutdown : pool.isShutdown = true)
    (moves : List Move) :
    ∃ later, (Trace.moves ⟨start, []⟩ moves).world.pools[index]? = some later ∧
      pool.Wanes index (Trace.moves ⟨start, []⟩ moves).events later ∧
      (Trace.moves ⟨start, []⟩ moves).world.Final index later := by
  have possibleStart : Possible (Trace.mk start []).world := possible
  obtain ⟨possibleLater, later, foundLater, wanes⟩ :=
    wanes_moves possibleStart found shutdown (.refl shutdown) moves
  exact ⟨later, foundLater, wanes, final_of_possible possibleLater foundLater wanes.shutdown⟩

/-- A pool that is being shut down while one caller waits for a probe, one for a connect, and one
for something to become free. -/
def closing : World :=
  let config : Config := { Config.default with minConnections := 0, maxConnections := 2 }
  (Trace.follow ⟨new, []⟩ [.call (.openPool config), .call (.get 0),
    .resume (.inPool 0 (.caller 1)), .call (.release ⟨0, 1⟩), .instruct (.probeDelay 5),
    .instruct (.connectDelay 7), .call (.get 0), .call (.get 0), .call (.get 0),
    .call (.shutdown 0)]).world

theorem possible_closing : Possible closing :=
  (Reachable.follow .new _).possible

/-- The end of all that: nobody gets anything, and nothing is left. -/
theorem shutdown_is_final_closing :
    let moves := [.act (.resume (.inPool 0 (.caller 5))), .elapse 7,
      .act (.resume (.inPool 0 (.caller 4))), .act (.resume (.inPool 0 (.caller 3))),
      .act (.resume (.inPool 0 .checker)), .act (.resume (.inPool 0 (.caller 6)))]
    ∃ pool, closing.pools[0]? = some pool ∧ pool.isShutdown = true ∧ pool.total = 2 ∧
      pool.tasks.countP Task.isCheckingOut = 3 ∧
      ∃ later, (Trace.moves ⟨closing, []⟩ moves).world.pools[0]? = some later ∧
        pool.Wanes 0 (Trace.moves ⟨closing, []⟩ moves).events later ∧
        (Trace.moves ⟨closing, []⟩ moves).world.Final 0 later := by
  have found : closing.pools[0]? = some (closing.pools.head (by decide)) := by decide
  have shutdown : (closing.pools.head (by decide)).isShutdown = true := by decide
  exact ⟨_, found, shutdown, by decide, by decide,
    shutdown_is_final possible_closing found shutdown _⟩

end World

end SessionPool
