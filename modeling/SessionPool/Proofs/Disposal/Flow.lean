import SessionPool.Proofs.Holding

/-!
# Where sessions go

A session that a pool has is in one place: it is idle, in a lease, or with an agent that probes it
or sweeps. It leaves the pool by being disconnected or handed out for good, and it comes from the
server, which names it first, or from a caller who gives it away. A flow is a piece of work after
which each session is in as many places as before, when those on the way in or out are counted too.
-/

namespace SessionPool

namespace Connection

/-- The name of the session, of which the record says nothing. -/
abbrev name (connection : Connection) : Nat := connection.session.id

@[simp]
theorem name_ofSession (session : Session) (metadata : Metadata) :
    (ofSession session metadata).name = session.id :=
  rfl

@[simp]
theorem name_broken (connection : Connection) : connection.broken.name = connection.name :=
  rfl

@[simp]
theorem name_touch (connection : Connection) (now : Nat) :
    (connection.touch now).name = connection.name :=
  rfl

@[simp]
theorem name_checkOut (connection : Connection) (now : Nat) :
    (connection.checkOut now).name = connection.name :=
  rfl

end Connection

namespace Pool

/-! ### The sessions of a pool -/

/-- The connections that an agent has with it while it waits. -/
def Task.connections (task : Task) : List Connection :=
  match task.phase with
  | .borrowProbe _ connection | .returnProbe connection => [connection]
  | .sweeping sweep current pending => sweep.kept ++ sweep.evicted ++ current :: pending
  | _ => []

@[simp]
theorem Task.connections_notify (task : Task) : task.notify.connections = task.connections := by
  obtain ⟨agent, phase, due⟩ := task
  cases phase <;> rfl

/-- All connections that a pool has, wherever they are. -/
def connections (pool : Pool) : List Connection :=
  pool.idle ++ pool.leases.map (·.connection) ++ pool.tasks.flatMap Task.connections

/-- In how many places of a pool a session is. -/
def places (pool : Pool) (id : Nat) : Nat := (pool.connections.map (·.name)).count id

theorem flatMap_connections_notifyFirst (tasks : List Task) :
    (notifyFirst tasks).flatMap Task.connections = tasks.flatMap Task.connections := by
  induction tasks with
  | nil => rfl
  | cons task rest ih =>
      unfold notifyFirst
      split <;> simp [ih]

@[simp]
theorem connections_notifyOne (pool : Pool) : pool.notifyOne.connections = pool.connections :=
  congrArg (_ ++ ·) (flatMap_connections_notifyFirst pool.tasks)

@[simp]
theorem connections_notifyMany (count : Nat) (pool : Pool) :
    (notifyMany count pool).connections = pool.connections := by
  induction count generalizing pool with
  | zero => rfl
  | succ count ih => exact (ih pool.notifyOne).trans (connections_notifyOne pool)

@[simp]
theorem connections_notifyAll (pool : Pool) : pool.notifyAll.connections = pool.connections := by
  simp [connections, notifyAll, List.flatMap_map]

/-- The sessions that an answer hands out for good. -/
def handedOut : Option Answer → List Nat
  | some (.ok (.detached session)) => [session.id]
  | _ => []

end Pool

/-! ### The sessions of the server -/

namespace Server

variable (server : Server)

@[simp]
theorem disconnects_startProbe (session : Session) :
    (server.startProbe session).disconnects = server.disconnects := by
  unfold startProbe
  split <;> rfl

@[simp]
theorem lastId_startProbe (session : Session) :
    (server.startProbe session).lastId = server.lastId := by
  unfold startProbe
  split <;> rfl

@[simp]
theorem disconnects_startConnect : server.startConnect.1.disconnects = server.disconnects := by
  unfold startConnect
  split <;> rfl

@[simp]
theorem lastId_startConnect : server.startConnect.1.lastId = server.lastId := by
  unfold startConnect
  split <;> rfl

/-- The answer to a connect is an error, or the session whose name comes next. -/
theorem finishConnect_cases (attempt : Attempt) :
    (∃ after error, server.finishConnect attempt = (after, .error error) ∧
      after.disconnects = server.disconnects ∧ after.lastId = server.lastId) ∨
    ∃ after, server.finishConnect attempt = (after, .ok ⟨server.lastId + 1, true⟩) ∧
      after.disconnects = server.disconnects ∧ after.lastId = server.lastId + 1 := by
  unfold finishConnect
  cases attempt with
  | faulted error => exact .inl ⟨_, _, rfl, rfl, rfl⟩
  | reaching =>
      dsimp only
      by_cases refusing : server.refusing = true
      · rw [if_pos refusing]
        exact .inl ⟨_, _, rfl, rfl, rfl⟩
      · rw [if_neg refusing]
        by_cases failing : 0 < server.failing
        · rw [if_pos failing]
          exact .inl ⟨_, _, rfl, rfl, rfl⟩
        · rw [if_neg failing]
          exact .inr ⟨_, rfl, rfl, rfl⟩

end Server

/-- In how many places a session is that the server knows of: among those that were disconnected,
once for each time, or among those that have still to be opened. -/
def Server.places (server : Server) (id : Nat) : Nat :=
  server.disconnectCount id + if server.lastId < id then 1 else 0

/-! ### Flows -/

/-- What is done with the sessions `given` to an agent besides those of the pool: none is lost, and
`left` are still with the agent in the end. -/
structure Flow (before : Site) (given : List Nat) (after : Site) (left : List Nat) : Prop where
  places_eq (id : Nat) :
    after.pool.places id + after.server.places id + left.count id =
      before.pool.places id + before.server.places id + given.count id
  disconnects_le (id : Nat) :
    before.server.disconnectCount id ≤ after.server.disconnectCount id
  lastId_le : before.server.lastId ≤ after.server.lastId

/-- A turn that begins with some sessions in hand ends with those that the answer hands out. -/
def Turn.Conserves (turn : Turn) (site : Site) (given : List Nat) : Prop :=
  Flow site given turn.1 (Pool.handedOut turn.2)

namespace Flow

variable {before middle after : Site} {given kept left : List Nat}

theorem trans (first : Flow before given middle kept) (second : Flow middle kept after left) :
    Flow before given after left where
  places_eq id := (second.places_eq id).trans (first.places_eq id)
  disconnects_le id := Nat.le_trans (first.disconnects_le id) (second.disconnects_le id)
  lastId_le := Nat.le_trans first.lastId_le second.lastId_le

/-- Work that moves sessions between the pool and the agent only. -/
theorem ofPlaces
    (places : ∀ id, after.pool.places id + left.count id = before.pool.places id + given.count id)
    (disconnects : after.server.disconnects = before.server.disconnects)
    (lastId : after.server.lastId = before.server.lastId) : Flow before given after left where
  places_eq id := by
    have moved := places id
    simp only [Server.places, Server.disconnectCount, disconnects, lastId]
    omega
  disconnects_le id := by
    simp only [Server.disconnectCount, disconnects]
    exact Nat.le_refl _
  lastId_le := Nat.le_of_eq lastId.symm

/-- Work that has to do with other things. -/
theorem same (connections : after.pool.connections = before.pool.connections)
    (disconnects : after.server.disconnects = before.server.disconnects)
    (lastId : after.server.lastId = before.server.lastId) : Flow before given after given := by
  apply Flow.ofPlaces _ disconnects lastId
  intro id
  rw [Pool.places, Pool.places, connections]

theorem refl (site : Site) (given : List Nat) : Flow site given site given := same rfl rfl rfl

/-- The order in which an agent has sessions in hand does not matter. -/
theorem perm {other : List Nat} (flow : Flow before given after left) (perm : other.Perm given) :
    Flow before other after left where
  places_eq id := by
    rw [perm.count_eq]
    exact flow.places_eq id
  disconnects_le := flow.disconnects_le
  lastId_le := flow.lastId_le

/-- What else an agent has in hand stays there. -/
theorem frame (flow : Flow before given after left) (extra : List Nat) :
    Flow before (given ++ extra) after (left ++ extra) where
  places_eq id := by
    have moved := flow.places_eq id
    rw [List.count_append, List.count_append]
    omega
  disconnects_le := flow.disconnects_le
  lastId_le := flow.lastId_le

end Flow

namespace Site

variable {site : Site}

/-! ### The first moves of an agent -/

/-- A session that is disconnected is gone. -/
theorem flow_disconnect (site : Site) (session : Session) :
    Flow site [session.id] { site with server := site.server.disconnect session } [] where
  places_eq id := by
    simp only [Server.places, Server.disconnectCount_disconnect, List.count_singleton, beq_iff_eq,
      List.count_nil]
    have lastId : (site.server.disconnect session).lastId = site.server.lastId := rfl
    rw [lastId]
    omega
  disconnects_le id := by
    simp only [Server.disconnectCount_disconnect]
    omega
  lastId_le := Nat.le_refl _

theorem flow_dispose (site : Site) (connection : Connection) :
    Flow site [connection.name] (site.dispose connection) [] :=
  (site.flow_disconnect connection.session).trans (.same rfl rfl rfl)

theorem flow_disposeAll (site : Site) (connections : List Connection) :
    Flow site (connections.map (·.name)) (site.disposeAll connections) [] := by
  induction connections generalizing site with
  | nil => exact .refl site []
  | cons connection rest ih =>
      have first := (site.flow_dispose connection).frame (rest.map (·.name))
      exact first.trans (ih (site.dispose connection))

/-- An agent that waits leaves its connections with its task. -/
theorem flow_park (site : Site) (task : Pool.Task) :
    Flow site (task.connections.map (·.name)) (site.withPool (·.park task)) [] := by
  refine .ofPlaces (fun id => ?_) rfl rfl
  simp [Pool.places, Pool.connections, withPool, Pool.park]
  omega

/-- An agent that goes on has the connections of its task in hand. -/
theorem flow_unpark {agent : Pool.Agent} {task : Pool.Task}
    (found : site.pool.task? agent = some task) :
    Flow site [] (site.withPool (·.unpark agent)) (task.connections.map (·.name)) := by
  refine .ofPlaces (fun id => ?_) rfl rfl
  have perm := (perm_cons_eraseP found).flatMap_right Pool.Task.connections
  have counted := (perm.map (·.name)).count_eq id
  simp [Pool.places, Pool.connections, withPool, Pool.unpark] at counted ⊢
  omega

/-- A wait that needs no connection is a flow with nothing in hand, and one that needs some takes
them. -/
theorem wait_conserves {agent : Pool.Agent} {phase : Pool.Phase} (due : Option Nat)
    {given : List Nat}
    (carried : (Pool.Task.mk agent phase due).connections.map (·.name) = given) :
    (site.wait agent phase due).Conserves site given := by
  rw [← carried]
  exact site.flow_park ⟨agent, phase, due⟩

theorem probe_conserves {agent : Pool.Agent} (session : Session) {phase : Pool.Phase}
    {given : List Nat}
    (carried : ∀ due, (Pool.Task.mk agent phase due).connections.map (·.name) = given) :
    (site.probe agent session phase).Conserves site given := by
  unfold probe
  have started : Flow site given { site with server := site.server.startProbe session } given := by
    refine .same rfl ?_ ?_
    · exact site.server.disconnects_startProbe session
    · exact site.server.lastId_startProbe session
  exact started.trans (wait_conserves _ (carried _))

theorem connect_conserves {agent : Pool.Agent} {phase : Metadata → Attempt → Pool.Phase}
    (bare : ∀ metadata attempt due,
      (Pool.Task.mk agent (phase metadata attempt) due).connections = []) :
    (site.connect agent phase).Conserves site [] := by
  unfold connect
  have started : Flow site []
      { site with
        server := site.server.startConnect.1
        pool := { site.pool with nextId := site.pool.nextId + 1 } } [] := by
    refine .same rfl ?_ ?_
    · exact site.server.disconnects_startConnect
    · exact site.server.lastId_startConnect
  exact started.trans (wait_conserves _ (by rw [bare]; rfl))

/-- A session that the server opens was one of those to come, and is now in hand. -/
theorem flow_connected {metadata : Metadata} {attempt : Attempt} {after : Site}
    {result : Except SessionError Connection}
    (connected : site.connected metadata attempt = (after, result)) :
    match result with
    | .ok connection => Flow site [] after [connection.name]
    | .error _ => Flow site [] after [] := by
  unfold Site.connected at connected
  rcases site.server.finishConnect_cases attempt with ⟨server, error, answer, disconnects, lastId⟩ |
    ⟨server, answer, disconnects, lastId⟩
  · rw [answer] at connected
    obtain ⟨rfl, rfl⟩ := Prod.mk.inj connected
    exact .same rfl disconnects lastId
  · rw [answer] at connected
    obtain ⟨rfl, rfl⟩ := Prod.mk.inj connected
    constructor
    case places_eq =>
      intro id
      simp only [Server.places, Server.disconnectCount, disconnects, lastId,
        Connection.name_ofSession, List.count_singleton, beq_iff_eq, List.count_nil]
      have places : (site.pool.count (·.created)).places id = site.pool.places id := rfl
      rw [places]
      split <;> split <;> split <;> omega
    case disconnects_le =>
      intro id
      simp only [Server.disconnectCount, disconnects]
      exact Nat.le_refl _
    case lastId_le =>
      rw [lastId]
      exact Nat.le_succ _

end Site

end SessionPool
