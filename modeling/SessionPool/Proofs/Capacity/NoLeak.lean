import SessionPool.Proofs.Capacity.Serving
import SessionPool.Proofs.Ownership.Exclusive

/-!
# No capacity is lost

Whatever has happened to a pool, as soon as nobody is in the middle of anything it can lend as many
connections as it may have, less those that are lent. So no failure on the way has cost a slot, and
none has been granted twice.
-/

namespace SessionPool

namespace World

open Pool (Agent Phase Task Balanced)

/-! ### Callers that do not want to wait -/

namespace Trace

/-- A caller asks for a connection, but not to wait for one, and goes on until its call is over. -/
def tryGet (trace : Trace) (index : Nat) : Trace :=
  (trace.act (.call (.tryGet index))).driveOut (.inPool index (.caller trace.world.callers))

/-- Several callers do so, one after the other. -/
def tryGets (index : Nat) : Nat → Trace → Trace
  | 0, trace => trace
  | count + 1, trace => (tryGets index count trace).tryGet index

/-- A thread that has to wait is not driven. -/
theorem drive_eq_self {trace : Trace} {thread : Thread}
    (waits : trace.world.isReady thread = false) (fuel : Nat) :
    drive thread fuel trace = trace := by
  cases fuel with
  | zero => rfl
  | succ fuel =>
      rw [drive]
      exact if_neg (by simp [waits])

end Trace

/-- A caller has been lent a connection. -/
def lentTo (index : Nat) (lease : Lease) : Event :=
  ⟨.inPool index (.caller lease.ticket), .ok (.pool (.lent lease))⟩

/-- A pool at rest that lends, with a server that answers at once. -/
structure Ready (world : World) (index : Nat) (pool : Pool) : Prop where
  possible : Possible world
  found : world.pools[index]? = some pool
  running : pool.isShutdown = false
  rest : pool.AtRest
  prompt : world.server.IsPrompt

namespace Ready

variable {world : World} {index : Nat} {pool : Pool} (ready : world.Ready index pool)

include ready

theorem balanced : Balanced world.callers pool 0 :=
  ready.rest.balanced (ready.possible.sound pool (List.mem_of_getElem? ready.found))

theorem kept : pool.dropped = false := ready.balanced.kept ready.running

theorem total_eq : pool.total = pool.idle.length + pool.leases.length :=
  (ready.balanced.total_of_atRest ready.rest ready.kept).1

theorem leases_le : pool.leases.length ≤ pool.config.maxConnections := by
  have total := ready.total_eq
  have capacity := ready.balanced.books.total_le
  omega

theorem accepts : world.accepts (.tryGet index) = true := by
  change world.isOpen index = true
  rw [isOpen, ready.found]
  exact ready.rest.isOpen ready.kept

/-- Nobody but the checker rests. -/
theorem isReady_caller (caller : Nat) : world.isReady (.inPool index (.caller caller)) = false := by
  have absent : pool.task? (.caller caller) = none := by
    apply List.find?_eq_none.mpr
    intro task present same
    rw [ready.balanced.agent_of_resting present (ready.rest task present)] at same
    contradiction
  simp only [isReady, ready.found, absent]
  rfl

end Ready

/-! ### Rounds -/

/-- A caller waits for an answer of the server that comes at once, and nobody else is in the middle
of anything in the pool. -/
structure Midway (world : World) (index caller : Nat) (pool : Pool) (phase : Phase) : Prop where
  possible : Possible world
  found : world.pools[index]? = some pool
  running : pool.isShutdown = false
  prompt : world.server.IsPrompt
  serving : ∃ rest, pool.Serving world.now caller phase rest

/-- What has come of a round in a pool with these leases: the caller has been lent a connection, or
waits for another answer. -/
inductive Outcome (index caller rounds : Nat) (config : Config) (leases : List Lease)
    (events : List Event) (later : Trace) : Prop where
  | lent (lease : Lease) (after : Pool) (event : later.events = lentTo index lease :: events)
      (ready : later.world.Ready index after) (sameConfig : after.config = config)
      (newLeases : after.leases = lease :: leases)
  | asks (phase : Phase) (after : Pool) (event : later.events = events)
      (midway : later.world.Midway index caller after phase)
      (sameConfig : after.config = config) (sameLeases : after.leases = leases)
      (left : phase.rounds after.idle.length ≤ rounds)

/-- What a turn in the pool does is what comes of the round. -/
theorem outcome_of_serves {later : Trace} {index caller rounds : Nat} {turn : Turn}
    {before : Site} {events : List Event} (possible : Possible later.world)
    (found : later.world.pools[index]? = some turn.1.pool)
    (server : later.world.server = turn.1.server) (now : later.world.now = before.now)
    (event : later.events = (ending index (.caller caller) turn).toList ++ events)
    (rest : before.pool.AtRest) (serves : turn.Serves before caller rounds) :
    Outcome index caller rounds before.pool.config before.pool.leases events later := by
  rcases serves with ⟨lease, lends⟩ | ⟨phase, asks, left⟩
  · have ends : ending index (.caller caller) turn = some (lentTo index lease) := by
      rw [ending, lends.answer, lentTo, lends.ticket]
      rfl
    have still : turn.1.pool.AtRest := by
      rw [Pool.AtRest, lends.tasks]
      exact rest
    rw [ends] at event
    exact .lent lease turn.1.pool event
      ⟨possible, found, lends.running, still, server ▸ lends.prompt⟩ lends.config lends.leases
  · have waits : ending index (.caller caller) turn = none := by
      rw [ending, asks.answer]
      rfl
    have serving : turn.1.pool.Serving later.world.now caller phase before.pool.tasks := by
      refine ⟨?_, rest, asks.serves⟩
      rw [now]
      exact asks.tasks
    rw [waits] at event
    exact .asks phase turn.1.pool event
      ⟨possible, found, asks.running, server ▸ asks.prompt, _, serving⟩ asks.config asks.leases left

namespace Midway

variable {trace : Trace} {index caller : Nat} {pool : Pool} {phase : Phase}
  (midway : trace.world.Midway index caller pool phase)

include midway

theorem balanced : Balanced trace.world.callers pool 0 := by
  rcases midway.possible.sound pool (List.mem_of_getElem? midway.found) with filling | balanced
  · obtain ⟨number, made, metadata, attempt, due, alone, _⟩ := filling
    obtain ⟨rest, serving⟩ := midway.serving
    have only := serving.mem
    rw [alone] at only
    cases List.mem_singleton.mp only
    exact serving.serves.elim
  · exact balanced

/-- The answer that the caller waits for has come. -/
theorem isReady : trace.world.isReady (.inPool index (.caller caller)) = true := by
  obtain ⟨rest, serving⟩ := midway.serving
  simp only [World.isReady, midway.found, midway.balanced.task?_eq serving.mem]
  simp [Pool.isReady, Task.isDue]

theorem act : ∃ rounds, phase.rounds pool.idle.length = rounds + 1 ∧
    Outcome index caller rounds pool.config pool.leases trace.events
      (trace.act (.resume (.inPool index (.caller caller)))) := by
  obtain ⟨rest, serving⟩ := midway.serving
  have balanced : Balanced trace.world.callers (trace.world.site pool).pool 0 := midway.balanced
  obtain ⟨rounds, left, serves⟩ :=
    Site.resume_serves midway.running midway.prompt balanced serving
  obtain ⟨found, server, event⟩ := resume_turn (.caller caller) midway.found
  have possible := midway.possible.move (.act (.resume (.inPool index (.caller caller))))
  have now := trace.world.now_resume (.inPool index (.caller caller))
  have atRest : (pool.unpark (.caller caller)).AtRest := by
    rw [Pool.AtRest, serving.unpark_tasks balanced]
    exact serving.resting
  refine ⟨rounds, left, ?_⟩
  apply outcome_of_serves possible found server now _ atRest serves
  exact congrArg (fun event => event.toList ++ trace.events) event

end Midway

/-! ### One caller -/

/-- A caller that has gone through a round is lent a connection in the end. -/
theorem Outcome.drive {index caller rounds fuel : Nat} {config : Config} {leases : List Lease}
    {events : List Event} {trace : Trace}
    (outcome : Outcome index caller rounds config leases events trace) (enough : rounds ≤ fuel) :
    ∃ lease after,
      (Trace.drive (.inPool index (.caller caller)) fuel trace).events =
        lentTo index lease :: events ∧
      (Trace.drive (.inPool index (.caller caller)) fuel trace).world.Ready index after ∧
      after.config = config ∧ after.leases = lease :: leases := by
  induction fuel generalizing rounds trace with
  | zero =>
      cases outcome with
      | lent lease after event ready sameConfig newLeases =>
          exact ⟨lease, after, event, ready, sameConfig, newLeases⟩
      | asks phase after event midway sameConfig sameLeases left =>
          obtain ⟨more, rounds, _⟩ := midway.act
          omega
  | succ fuel ih =>
      cases outcome with
      | lent lease after event ready sameConfig newLeases =>
          rw [Trace.drive_eq_self (ready.isReady_caller caller)]
          exact ⟨lease, after, event, ready, sameConfig, newLeases⟩
      | asks phase after event midway sameConfig sameLeases left =>
          obtain ⟨more, rounds, next⟩ := midway.act
          rw [sameConfig, sameLeases, event] at next
          rw [Trace.drive, if_pos midway.isReady]
          exact ih next (by omega)

/-- The caller goes on for as long as it takes. -/
theorem Outcome.driveOut {index caller rounds : Nat} {config : Config} {leases : List Lease}
    {events : List Event} {trace : Trace}
    (outcome : Outcome index caller rounds config leases events trace) :
    ∃ lease after,
      (trace.driveOut (.inPool index (.caller caller))).events = lentTo index lease :: events ∧
      (trace.driveOut (.inPool index (.caller caller))).world.Ready index after ∧
      after.config = config ∧ after.leases = lease :: leases := by
  rw [Trace.driveOut]
  cases outcome with
  | lent lease after event ready sameConfig newLeases =>
      rw [Trace.drive_eq_self (ready.isReady_caller caller)]
      exact ⟨lease, after, event, ready, sameConfig, newLeases⟩
  | asks phase after event midway sameConfig sameLeases left =>
      have few : phase.rounds after.idle.length ≤ after.idle.length + 2 := by
        unfold Phase.rounds
        split <;> omega
      have outcome : Outcome index caller (after.idle.length + 2) config leases events trace :=
        .asks phase after event midway sameConfig sameLeases few
      apply outcome.drive
      rw [stamina, midway.found]
      dsimp only
      omega

namespace Ready

variable {trace : Trace} {index : Nat} {pool : Pool} (ready : trace.world.Ready index pool)

include ready

/-- A caller that does not want to wait looks for a connection at once. -/
theorem turn_tryGet : trace.world.turn pool .tryGet =
    ({ trace.world.site pool with pool := { pool with waiting := pool.waiting + 1 } } : Site).seek
      ⟨trace.world.callers, trace.world.now, .never⟩ := by
  change (trace.world.site pool).checkout _ _ = _
  rw [Site.checkout]
  exact if_neg (by simp [site, ready.running])

/-- A caller that asks for a connection is lent one if not all are lent. -/
theorem tryGet (room : pool.leases.length < pool.config.maxConnections) :
    ∃ lease after, (trace.tryGet index).events = lentTo index lease :: trace.events ∧
      (trace.tryGet index).world.Ready index after ∧ after.config = pool.config ∧
      after.leases = lease :: pool.leases := by
  have asks : Request.asks? trace.world (.tryGet index) = some (index, .tryGet) := rfl
  obtain ⟨found, server, event⟩ := call_turn ready.accepts asks ready.found
  have possible := ready.possible.move (.act (.call (.tryGet index)))
  have now := trace.world.now_call (.tryGet index)
  let arrived : Site := { trace.world.site pool with
    pool := { pool with waiting := pool.waiting + 1 } }
  have free : arrived.pool.idle ≠ [] ∨
      arrived.pool.total < arrived.pool.config.maxConnections := by
    have total := ready.total_eq
    by_cases empty : pool.idle = []
    · right
      rw [empty, List.length_nil, Nat.zero_add] at total
      exact total ▸ room
    · exact .inl empty
  have running : arrived.pool.isShutdown = false := ready.running
  have serves := Site.seek_serves running ready.prompt
    ⟨trace.world.callers, trace.world.now, .never⟩ rfl free
  have turn : trace.world.turn pool .tryGet = arrived.seek _ := ready.turn_tryGet
  rw [← turn] at serves
  have outcome : Outcome index trace.world.callers (pool.idle.length + 1) pool.config pool.leases
      trace.events (trace.act (.call (.tryGet index))) := by
    apply outcome_of_serves possible found server now _ ready.rest serves
    exact congrArg (fun event => event.toList ++ trace.events) event
  exact outcome.driveOut

/-- When all connections are lent, a caller gets none, and nothing changes. -/
theorem tryGet_full (full : pool.leases.length = pool.config.maxConnections) :
    (trace.tryGet index).events =
        ⟨.inPool index (.caller trace.world.callers), .ok (.pool .noneFree)⟩ :: trace.events ∧
      (trace.tryGet index).world.pools[index]? = some pool := by
  have asks : Request.asks? trace.world (.tryGet index) = some (index, .tryGet) := rfl
  obtain ⟨found, server, event⟩ := call_turn ready.accepts asks ready.found
  have total := ready.total_eq
  have capacity := ready.balanced.books.total_le
  have empty : pool.idle = [] := List.length_eq_zero_iff.mp (by omega)
  have taken : pool.config.maxConnections ≤ pool.total := by omega
  have declined : trace.world.turn pool .tryGet =
      (trace.world.site pool).answer (.ok .noneFree) := by
    rw [ready.turn_tryGet, Site.seek_eq_decline ready.running _ rfl empty taken]
    rfl
  rw [declined] at found server event
  have prompt : (trace.act (.call (.tryGet index))).world.server.IsPrompt := by
    have same : (trace.act (.call (.tryGet index))).world.server = trace.world.server := server
    rw [same]
    exact ready.prompt
  have possible := ready.possible.move (.act (.call (.tryGet index)))
  have again : (trace.act (.call (.tryGet index))).world.Ready index pool :=
    ⟨possible, found, ready.running, ready.rest, prompt⟩
  have events := congrArg (fun event => event.toList ++ trace.events) event
  rw [Trace.tryGet, Trace.driveOut, Trace.drive_eq_self (again.isReady_caller _)]
  exact ⟨events, found⟩

/-- As long as not all connections are lent, each caller is lent one. -/
theorem tryGets {count : Nat}
    (room : count + pool.leases.length ≤ pool.config.maxConnections) :
    ∃ leases full, leases.length = count ∧
      (Trace.tryGets index count trace).events = leases.map (lentTo index) ++ trace.events ∧
      (Trace.tryGets index count trace).world.Ready index full ∧ full.config = pool.config ∧
      full.leases = leases ++ pool.leases := by
  induction count with
  | zero => exact ⟨[], pool, rfl, rfl, ready, rfl, rfl⟩
  | succ count ih =>
      obtain ⟨leases, before, length, events, readyBefore, config, held⟩ := ih (by omega)
      have free : before.leases.length < before.config.maxConnections := by
        rw [held, config, List.length_append]
        omega
      obtain ⟨lease, after, event, readyAfter, same, more⟩ := readyBefore.tryGet free
      refine ⟨lease :: leases, after, ?_, ?_, readyAfter, same.trans config, ?_⟩
      · rw [List.length_cons, length]
      · rw [Trace.tryGets, event, events]
        rfl
      · rw [more, held]
        rfl

end Ready

/-! ### All callers -/

/-- No capacity is lost. When nobody is in the middle of anything in a pool that lends, exactly as
many callers that do not want to wait get a connection, one after the other, as are missing to the
capacity of the pool, each of them another session. The next caller gets none, and nothing
changes. -/
theorem no_capacity_leak {world : World} (possible : Possible world) {index : Nat} {pool : Pool}
    (found : world.pools[index]? = some pool) (running : pool.isShutdown = false)
    (rest : pool.AtRest) (prompt : world.server.IsPrompt) :
    let served := Trace.tryGets index (pool.config.maxConnections - pool.leases.length) ⟨world, []⟩
    ∃ leases full after,
      leases.length + pool.leases.length = pool.config.maxConnections ∧
      served.events = leases.map (lentTo index) ∧
      ((leases ++ pool.leases).map (·.connection.name)).Nodup ∧
      served.world.pools[index]? = some full ∧
      (served.tryGet index).events =
        ⟨.inPool index (.caller served.world.callers), .ok (.pool .noneFree)⟩ :: served.events ∧
      (served.tryGet index).world.pools[index]? = some after ∧
      after.idle = full.idle ∧ after.active = full.active ∧ after.total = full.total ∧
      after.validating = full.validating := by
  have ready : (Trace.mk world []).world.Ready index pool :=
    ⟨possible, found, running, rest, prompt⟩
  have capacity := ready.leases_le
  obtain ⟨leases, full, length, events, readyFull, config, held⟩ :=
    ready.tryGets (Nat.le_of_eq (Nat.sub_add_cancel capacity))
  have all : full.leases.length = full.config.maxConnections := by
    rw [held, config, List.length_append]
    omega
  obtain ⟨event, after⟩ := readyFull.tryGet_full all
  refine ⟨leases, full, full, by omega, ?_, ?_, readyFull.found, event, after, rfl, rfl, rfl, rfl⟩
  · rw [events, List.append_nil]
  · rw [← held]
    have names := readyFull.possible.nodup_names (List.mem_of_getElem? readyFull.found)
    have sublist : (full.leases.map (·.connection)).Sublist full.connections :=
      ((List.sublist_append_right _ _).trans (List.sublist_append_left _ _))
    have inside := sublist.map (·.name)
    rw [List.map_map] at inside
    exact names.sublist inside

/-- A pool with three connections, of which one is lent, one is idle and dead, and one is idle. -/
def spare : World :=
  let config : Config := { Config.default with minConnections := 0, maxConnections := 3 }
  (Trace.follow ⟨new, []⟩ [.call (.openPool config), .call (.get 0),
    .resume (.inPool 0 (.caller 1)), .call (.get 0), .resume (.inPool 0 (.caller 2)),
    .call (.get 0), .resume (.inPool 0 (.caller 3)), .call (.release ⟨0, 1⟩),
    .call (.release ⟨0, 2⟩), .instruct (.kill 1)]).world

theorem possible_spare : Possible spare :=
  (Reachable.follow .new _).possible

theorem no_capacity_leak_spare :
    ∃ pool, spare.pools[0]? = some pool ∧ pool.isShutdown = false ∧ pool.AtRest ∧
      spare.server.IsPrompt ∧ pool.idle.map (·.name) = [1, 2] ∧
      let served := Trace.tryGets 0 (pool.config.maxConnections - pool.leases.length) ⟨spare, []⟩
      ∃ leases full after,
        leases.length + pool.leases.length = pool.config.maxConnections ∧
        served.events = leases.map (lentTo 0) ∧
        ((leases ++ pool.leases).map (·.connection.name)).Nodup ∧
        served.world.pools[0]? = some full ∧
        (served.tryGet 0).events =
          ⟨.inPool 0 (.caller served.world.callers), .ok (.pool .noneFree)⟩ :: served.events ∧
        (served.tryGet 0).world.pools[0]? = some after ∧
        after.idle = full.idle ∧ after.active = full.active ∧ after.total = full.total ∧
        after.validating = full.validating := by
  have found : spare.pools[0]? = some (spare.pools.head (by decide)) := by decide
  have running : (spare.pools.head (by decide)).isShutdown = false := by decide
  have rest : (spare.pools.head (by decide)).AtRest := by
    rw [Pool.AtRest]
    decide
  have prompt : spare.server.IsPrompt := by
    constructor <;> decide
  exact ⟨_, found, running, rest, prompt, by decide,
    no_capacity_leak possible_spare found running rest prompt⟩

end World

end SessionPool
