import SessionPool.Proofs.Disposal.Carry
import SessionPool.Proofs.Shutdown.Wane

/-!
# What a shutdown has to dispose of

When a pool is shut down, sessions are idle, and others are in the sweep of the checker. Nobody but
the shutdown itself touches the idle ones from then on, and the checker keeps what it has until its
sweep is over and disposes of all of it then. So each of these sessions stays where it is or is
disconnected, whatever else happens to the pool.
-/

namespace SessionPool

namespace Pool

/-- The names of the sessions that are idle or in the sweep of the checker. -/
def atStake (pool : Pool) : List Nat :=
  (pool.idle ++ (pool.tasks.filter (·.agent == .checker)).flatMap Task.connections).map (·.name)

theorem mem_atStake {pool : Pool} {id : Nat} :
    id ∈ pool.atStake ↔ (∃ connection ∈ pool.idle, connection.name = id) ∨
      ∃ task ∈ pool.tasks, task.agent = .checker ∧
        ∃ connection ∈ task.connections, connection.name = id := by
  simp only [atStake, List.map_append, List.mem_append, List.mem_map, List.mem_flatMap,
    List.mem_filter, beq_iff_eq]
  constructor
  · rintro (idle | ⟨connection, ⟨task, ⟨present, own⟩, held⟩, name⟩)
    · exact .inl idle
    · exact .inr ⟨task, present, own, connection, held, name⟩
  · rintro (idle | ⟨task, present, own, connection, held, name⟩)
    · exact .inl idle
    · exact .inr ⟨connection, ⟨task, ⟨present, own⟩, held⟩, name⟩

/-- What is at stake in one pool is at stake in another that has the same idle connections and the
same sweep of the checker. -/
theorem atStake_mono (before after : Pool) (idle : after.idle = before.idle)
    (stays : ∀ task ∈ before.tasks, task.agent = .checker → task ∈ after.tasks) {id : Nat}
    (member : id ∈ before.atStake) : id ∈ after.atStake := by
  rcases mem_atStake.mp member with queued | ⟨task, present, own, held⟩
  · exact mem_atStake.mpr (.inl (idle ▸ queued))
  · exact mem_atStake.mpr (.inr ⟨task, stays task present own, own, held⟩)

/-- An agent leaves the idle queue of a pool alone, and nobody begins to wait but itself, and not
for the checker. -/
structure Spares (agent : Agent) (before after : Pool) : Prop where
  idle_eq : after.idle = before.idle
  stopped_eq : after.stopRequested = before.stopRequested
  tasks (task : Task) (present : task ∈ after.tasks) :
    task ∈ before.tasks ∨ task.agent = agent ∧ task.isJoining = false

namespace Spares

theorem refl (agent : Agent) (pool : Pool) : Spares agent pool pool :=
  ⟨rfl, rfl, fun _ present => .inl present⟩

variable {agent : Agent} {before pool : Pool} (spares : Spares agent before pool)

include spares

theorem notifyOne (awake : ∀ task ∈ pool.tasks, task.isAsleep = false) :
    Spares agent before pool.notifyOne := by
  have same : pool.notifyOne = pool := by
    rw [Pool.notifyOne, (notifyFirst_eq_self_iff _).mpr awake]
  rw [same]
  exact spares

theorem park {phase : Phase} {due : Option Nat}
    (other : (Task.mk agent phase due).isJoining = false) :
    Spares agent before (pool.park ⟨agent, phase, due⟩) := by
  refine ⟨spares.idle_eq, spares.stopped_eq, ?_⟩
  intro task present
  rcases List.mem_append.mp present with old | last
  · exact spares.tasks task old
  · rw [List.mem_singleton.mp last]
    exact .inr ⟨rfl, other⟩

end Spares

end Pool

namespace Site

open Pool (Agent Phase Task Checkout Report Sweep Job Spares Ebbs)

variable {site : Site} {agent : Agent} {start before : Pool}

/-! ### What is disposed of -/

theorem disconnectCount_disposeAll (site : Site) (connections : List Connection) (id : Nat) :
    (site.disposeAll connections).server.disconnectCount id =
      site.server.disconnectCount id + (connections.map (·.name)).count id := by
  induction connections generalizing site with
  | nil => rfl
  | cons connection rest ih =>
      have first := site.server.disconnectCount_disconnect connection.session id
      have later := ih (site.dispose connection)
      rw [disposeAll, List.foldl_cons]
      rw [List.map_cons, List.count_cons]
      change (disposeAll (site.dispose connection) rest).server.disconnectCount id = _
      rw [later]
      change (site.server.disconnect connection.session).disconnectCount id + _ = _
      rw [first]
      by_cases same : connection.name = id
      · simp [same]
        omega
      · simp [same]

section Drain

variable (site : Site) (thenDrop : Bool)

theorem disconnectCount_drain (id : Nat) :
    (site.drain thenDrop).1.server.disconnectCount id =
      site.server.disconnectCount id + (site.pool.idle.map (·.name)).count id :=
  disconnectCount_disposeAll _ site.pool.idle id

theorem tasks_drain : (site.drain thenDrop).1.pool.tasks = site.pool.tasks := by
  simp only [drain, closed, answer, withPool]
  rw [Pool.pool_disposeAll]

theorem isShutdown_drain : (site.drain thenDrop).1.pool.isShutdown = site.pool.isShutdown := by
  simp only [drain, closed, answer, withPool]
  rw [Pool.pool_disposeAll]

theorem stopRequested_drain :
    (site.drain thenDrop).1.pool.stopRequested = site.pool.stopRequested := by
  simp only [drain, closed, answer, withPool]
  rw [Pool.pool_disposeAll]

end Drain

theorem server_afterSweep (report : Report) :
    (site.afterSweep agent report).1.server = site.server := by
  unfold afterSweep
  split
  · rfl
  · split <;> rfl

/-- When a sweep comes to its end in a pool that is shut down, everything that it has goes. -/
theorem disconnectCount_commit (shutdown : site.pool.isShutdown = true) (sweep : Sweep)
    (id : Nat) :
    (site.commit agent sweep).1.server.disconnectCount id = site.server.disconnectCount id +
      ((sweep.kept ++ sweep.evicted).map (·.name)).count id := by
  rw [commit]
  dsimp only
  rw [if_pos shutdown, server_afterSweep]
  change (Site.disposeAll _ sweep.evicted).server.disconnectCount id = _
  rw [disconnectCount_disposeAll, disconnectCount_disposeAll, List.map_append, List.count_append]
  exact Nat.add_assoc _ _ _

/-- Whatever a sweep has in a pool that is shut down, the agent still has it after its turn, or has
disconnected it. -/
theorem examine_fate (shutdown : site.pool.isShutdown = true) {sweep : Sweep}
    {pending : List Connection} {connection : Connection}
    (held : connection ∈ sweep.kept ++ sweep.evicted ++ pending) :
    (∃ task ∈ (site.examine agent sweep pending).1.pool.tasks, task.agent = agent ∧
        connection ∈ task.connections) ∨
      site.server.disconnectCount connection.name <
        (site.examine agent sweep pending).1.server.disconnectCount connection.name := by
  induction pending generalizing sweep with
  | nil =>
      right
      rw [examine, disconnectCount_commit shutdown]
      rw [List.append_nil] at held
      have some := List.count_pos_iff.mpr (List.mem_map_of_mem (f := (·.name)) held)
      omega
  | cons next pending ih =>
      rw [examine]
      split
      · apply ih
        simp only [Sweep.evictIdle, List.mem_append, List.mem_cons, List.not_mem_nil,
          or_false] at held ⊢
        tauto
      · left
        refine ⟨_, List.mem_append_right _ (List.mem_singleton_self _), rfl, ?_⟩
        exact held

theorem name_mem_examine (shutdown : site.pool.isShutdown = true) {sweep : Sweep}
    {pending : List Connection} {id : Nat}
    (held : ∃ connection ∈ sweep.kept ++ sweep.evicted ++ pending, connection.name = id) :
    (∃ task ∈ (site.examine agent sweep pending).1.pool.tasks, task.agent = agent ∧
        ∃ connection ∈ task.connections, connection.name = id) ∨
      site.server.disconnectCount id <
        (site.examine agent sweep pending).1.server.disconnectCount id := by
  obtain ⟨connection, member, rfl⟩ := held
  rcases examine_fate shutdown member with ⟨task, present, own, held⟩ | gone
  · exact .inl ⟨task, present, own, connection, held, rfl⟩
  · exact .inr gone

/-- The same for a sweep that learns that a session is alive or dead. -/
theorem sweepProbed_fate (shutdown : site.pool.isShutdown = true) {sweep : Sweep}
    {current : Connection} {pending : List Connection} {id : Nat}
    (held : ∃ connection ∈ sweep.kept ++ sweep.evicted ++ current :: pending,
      connection.name = id) :
    (∃ task ∈ (site.sweepProbed agent sweep current pending).1.pool.tasks, task.agent = agent ∧
        ∃ connection ∈ task.connections, connection.name = id) ∨
      site.server.disconnectCount id <
        (site.sweepProbed agent sweep current pending).1.server.disconnectCount id := by
  obtain ⟨connection, member, name⟩ := held
  rw [sweepProbed]
  split
  · apply name_mem_examine shutdown
    refine ⟨connection, ?_, name⟩
    simp only [Sweep.keep, List.mem_append, List.mem_cons, List.not_mem_nil, or_false]
      at member ⊢
    tauto
  · apply name_mem_examine shutdown
    -- A session that is dead is evicted, and its connection is marked broken.
    by_cases own : connection = current
    · refine ⟨connection.broken, ?_, name⟩
      simp [Sweep.evictDead, own]
    · refine ⟨connection, ?_, name⟩
      simp only [Sweep.evictDead, List.mem_append, List.mem_cons, List.not_mem_nil, or_false]
        at member ⊢
      tauto

/-! ### What is left alone -/

section Spares

theorem disposeAll_spares (site : Site) (spares : before.Spares agent site.pool)
    (connections : List Connection) :
    before.Spares agent (site.disposeAll connections).pool := by
  rw [Pool.pool_disposeAll]
  exact ⟨spares.idle_eq, spares.stopped_eq, spares.tasks⟩

variable (ebbs : start.Ebbs site.pool) (spares : before.Spares agent site.pool)

include ebbs spares

theorem checkoutConnected_spares (checkout : Checkout) (metadata : Metadata)
    (attempt : Attempt) :
    before.Spares agent (site.checkoutConnected checkout metadata attempt).1.pool := by
  obtain ⟨released, same, pool⟩ :=
    checkoutConnected_eq_refuse ebbs.shutdown checkout metadata attempt
  have refused : before.Spares agent released.pool := by
    rcases pool with ⟨counters, pool⟩ | pool
    · rw [pool]
      exact ⟨spares.idle_eq, spares.stopped_eq, spares.tasks⟩
    · have given : before.Spares agent { site.pool with total := site.pool.total - 1 } :=
        ⟨spares.idle_eq, spares.stopped_eq, spares.tasks⟩
      rw [pool]
      exact given.notifyOne ebbs.awake
  rw [same]
  exact ⟨refused.idle_eq, refused.stopped_eq, refused.tasks⟩

theorem requeue_spares (connection : Connection) (healthy : Bool) :
    before.Spares agent (site.requeue connection healthy).1.pool := by
  obtain ⟨counters, _, _, pool | pool⟩ := requeue_outcome ebbs.shutdown connection healthy
  · rw [pool]
    exact ⟨spares.idle_eq, spares.stopped_eq, spares.tasks⟩
  · rw [pool]
    exact ⟨spares.idle_eq, spares.stopped_eq, spares.tasks⟩

theorem takeBack_spares (worker : Agent) (connection : Connection) :
    before.Spares agent (site.takeBack worker connection).1.pool := by
  rcases takeBack_outcome ebbs.shutdown worker connection with gone | back
  · rw [gone]
    exact spares
  · rw [back]
    exact requeue_spares ebbs spares _ _

theorem returnProbed_spares (connection : Connection) :
    before.Spares agent (site.returnProbed connection).1.pool := by
  obtain ⟨returned, healthy, back, _⟩ := site.returnProbed_eq_requeue connection
  rw [back]
  exact requeue_spares ebbs spares returned healthy

/-- A lease that ends is neither idle nor in a sweep. -/
theorem takeBack_endLease_spares (worker : Agent) (ticket : Nat) (connection : Connection) :
    before.Spares agent
      ((site.withPool (·.endLease ticket)).takeBack worker connection).1.pool := by
  apply takeBack_spares
  · exact ebbs.endLease ticket
  · exact ⟨spares.idle_eq, spares.stopped_eq, spares.tasks⟩

theorem detach_spares (ticket : Nat) :
    before.Spares agent (site.detach ticket).1.pool := by
  rw [detach]
  split
  · exact spares
  case h_2 lease _ =>
    dsimp only
    split
    · have released : before.Spares agent { site.pool.endLease ticket with
          active := site.pool.active.erase lease.connection.id
          total := site.pool.total - 1 } :=
        ⟨spares.idle_eq, spares.stopped_eq, spares.tasks⟩
      exact released.notifyOne ebbs.awake
    · exact ⟨spares.idle_eq, spares.stopped_eq, spares.tasks⟩

omit ebbs in
theorem throughLease_spares {α : Type} (ticket : Nat)
    (send : Server → Session → Server × Except SessionError α) (reply : α → Pool.Reply) :
    before.Spares agent (site.throughLease ticket send reply).1.pool := by
  rw [throughLease]
  split
  · exact spares
  · exact ⟨spares.idle_eq, spares.stopped_eq, spares.tasks⟩

variable (stop : before.stopRequested = true)

include stop

omit ebbs in
/-- The checker does not rest any more. -/
theorem afterSweep_spares (report : Report) :
    before.Spares agent (site.afterSweep agent report).1.pool := by
  unfold afterSweep
  split
  · exact spares
  · rw [if_pos (spares.stopped_eq.trans stop)]
    exact spares

theorem examine_spares (sweep : Sweep) (pending : List Connection) :
    before.Spares agent (site.examine agent sweep pending).1.pool := by
  induction pending generalizing sweep with
  | nil =>
      rw [examine, commit]
      have shutdown := ebbs.shutdown
      dsimp only
      rw [if_pos shutdown]
      have given : before.Spares agent { site.pool with
          validating := site.pool.validating - sweep.checked
          total := site.pool.total - sweep.checked } :=
        ⟨spares.idle_eq, spares.stopped_eq, spares.tasks⟩
      have kept := disposeAll_spares (site.withPool fun _ => _) given sweep.kept
      have gone := disposeAll_spares _ kept sweep.evicted
      apply afterSweep_spares _ stop
      exact ⟨gone.idle_eq, gone.stopped_eq, gone.tasks⟩
  | cons connection pending ih =>
      rw [examine]
      split
      · exact ih _
      · exact spares.park rfl

theorem sweep_spares : before.Spares agent (site.sweep agent).1.pool := by
  rw [sweep]
  dsimp only
  rw [if_pos ebbs.shutdown]
  exact afterSweep_spares spares stop .zero

/-- A call leaves alone what a shutdown has to dispose of, also if it is a second shutdown. -/
theorem work_spares {caller : Nat} (own : agent = .caller caller) (job : Job) :
    before.Spares agent (job.work caller site).1.pool := by
  subst own
  have turned (patience : Pool.Patience) :
      before.Spares (.caller caller) (site.checkout caller patience).1.pool := by
    rw [checkout_eq_answer ebbs.shutdown]
    exact ⟨spares.idle_eq, spares.stopped_eq, spares.tasks⟩
  have back := takeBack_endLease_spares ebbs spares
  cases job with
  | acquire timeout => exact turned _
  | get => exact turned _
  | tryGet => exact turned _
  | adopt session =>
      change before.Spares (.caller caller) (site.adopt session).1.pool
      rw [adopt_eq_turnAway ebbs.shutdown]
      exact spares
  | sweep => exact sweep_spares ebbs spares stop
  | shutdown thenDrop =>
      change before.Spares (.caller caller) (site.shutdown (.caller caller) thenDrop).1.pool
      rw [shutdown, if_pos ebbs.shutdown]
      exact ⟨spares.idle_eq, spares.stopped_eq, spares.tasks⟩
  | release ticket =>
      change before.Spares (.caller caller) (site.release (.caller caller) ticket).1.pool
      rw [release]
      split
      · exact spares
      · exact back _ ticket _
  | invalidate ticket =>
      change before.Spares (.caller caller) (site.invalidate (.caller caller) ticket).1.pool
      rw [invalidate]
      split
      · exact spares
      · exact back _ ticket _
  | discard ticket =>
      change before.Spares (.caller caller) (site.discard (.caller caller) ticket).1.pool
      rw [discard]
      split
      · exact spares
      · exact back _ ticket _
  | detach ticket => exact detach_spares ebbs spares ticket
  | execute ticket statement => exact throughLease_spares spares ticket _ _
  | query ticket statement => exact throughLease_spares spares ticket _ _

/-- So does everybody who goes on, but the shutdown itself. -/
theorem proceed_spares {phase : Phase} (rests : phase = .resting → agent = .checker)
    (filled : (Task.mk agent phase none).isPrewarming = false)
    (other : (Task.mk agent phase none).isJoining = false) :
    before.Spares agent (site.proceed agent phase).1.pool := by
  cases phase with
  | prewarming made metadata attempt => contradiction
  | connecting checkout metadata attempt =>
      exact checkoutConnected_spares ebbs spares checkout metadata attempt
  | borrowProbe checkout connection =>
      change before.Spares agent (site.borrowProbed checkout connection).1.pool
      rw [borrowProbed_eq_refuse ebbs.shutdown]
      exact ⟨spares.idle_eq, spares.stopped_eq, spares.tasks⟩
  | waiting checkout notified =>
      change before.Spares agent (site.seek checkout).1.pool
      rw [seek_eq_refuse _ ebbs.shutdown]
      exact ⟨spares.idle_eq, spares.stopped_eq, spares.tasks⟩
  | returnProbe connection => exact returnProbed_spares ebbs spares connection
  | sweeping sweep connection pending =>
      change before.Spares agent (site.sweepProbed agent sweep connection pending).1.pool
      rw [sweepProbed]
      split <;> exact examine_spares ebbs spares stop _ pending
  | resting =>
      obtain rfl := rests rfl
      change before.Spares .checker site.wake.1.pool
      rw [wake, if_pos (by simp [spares.stopped_eq, stop])]
      exact spares
  | joining thenDrop => contradiction

end Spares

end Site

end SessionPool
