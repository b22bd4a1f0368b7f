import SessionPool.Proofs.Twin.Basic

/-!
# Turns in twins

An agent that makes its turn in a pool makes the same turn in its twin, unless it is the caller that
differs and finds nothing. Then it is declined in the one and has run out of time in the other, in
the same moment, and from then on the twins differ in what they have counted.
-/

namespace SessionPool

open Pool (Agent Phase Task Checkout Patience Counters Report Sweep Job)

namespace Twin

variable (twin : Twin) (given : Site)

/-- Turns that go the same way in both twins. -/
theorem turn_ite {c : Prop} [Decidable c] {yes no yesToo noToo : Turn}
    (whenYes : c → yesToo = twin.turn yes) (whenNo : ¬ c → noToo = twin.turn no) :
    (if c then yesToo else noToo) = twin.turn (if c then yes else no) := by
  split
  · exact whenYes ‹_›
  · exact whenNo ‹_›

theorem site_ite {c : Prop} [Decidable c] {yes no yesToo noToo : Site}
    (whenYes : c → yesToo = twin.site yes) (whenNo : ¬ c → noToo = twin.site no) :
    (if c then yesToo else noToo) = twin.site (if c then yes else no) := by
  split
  · exact whenYes ‹_›
  · exact whenNo ‹_›

/-! ### Steps of a turn -/

theorem disposeAll_site (connections : List Connection) :
    (twin.site given).disposeAll connections = twin.site (given.disposeAll connections) := by
  induction connections generalizing given with
  | nil => rfl
  | cons connection rest ih => exact ih (given.dispose connection)

theorem wait_site (agent : Agent) (phase : Phase) (due : Option Nat) :
    (twin.site given).wait agent (twin.phase phase) due =
      twin.turn (given.wait agent phase due) := by
  have parked := twin.park_pool given.pool ⟨agent, phase, due⟩
  exact Prod.ext (congrArg (Site.mk given.now given.server) parked) rfl

theorem probe_site (agent : Agent) (session : Session) (phase : Phase) :
    (twin.site given).probe agent session (twin.phase phase) =
      twin.turn (given.probe agent session phase) :=
  twin.wait_site { given with server := given.server.startProbe session } agent phase _

theorem connect_site (agent : Agent) {phase later : Metadata → Attempt → Phase}
    (same : ∀ metadata attempt, later metadata attempt = twin.phase (phase metadata attempt)) :
    (twin.site given).connect agent later = twin.turn (given.connect agent phase) := by
  rcases started : given.server.startConnect with ⟨server, attempt⟩
  have startedToo : (twin.site given).server.startConnect = (server, attempt) := started
  simp only [Site.connect, started, startedToo, same]
  exact twin.wait_site { given with
    server, pool := { given.pool with nextId := given.pool.nextId + 1 } } agent _ _

/-- Whoever is told in a pool is told in its twin. -/
theorem notified (now : Nat) (server : Server) (pool : Pool) :
    Site.mk now server (twin.pool pool).notifyOne = twin.site ⟨now, server, pool.notifyOne⟩ :=
  congrArg (Site.mk now server) (twin.notifyOne_pool pool)

theorem refuse_site (error : PoolError) :
    (twin.site given).refuse error = twin.turn (given.refuse error) := by
  have counted := twin.counters_failed given.pool.counters error
  rw [Site.refuse, Site.refuse, turn]
  simp only [Site.answer, site, pool, Pool.count, counted]

theorem rest_site : (twin.site given).rest = twin.site given.rest :=
  congrArg (Site.mk given.now given.server) (twin.park_pool given.pool
    ⟨.checker, .resting, Instant.after? given.now given.pool.config.validationInterval⟩)

/-! ### Connections that come back -/

theorem requeue_site (connection : Connection) (healthy : Bool) :
    (twin.site given).requeue connection healthy =
      twin.turn (given.requeue connection healthy) := by
  rw [Site.requeue, Site.requeue]
  refine twin.turn_ite (fun _ => rfl) fun _ => ?_
  refine twin.turn_ite (fun _ => rfl) fun _ => ?_
  refine twin.turn_ite (fun _ => ?_) fun _ => ?_
  · exact congrArg (fun site => (site.dispose connection).answer (.ok .done))
      (twin.notified given.now given.server { given.pool with
        active := given.pool.active.erase connection.id, total := given.pool.total - 1 })
  · exact congrArg (·.answer (.ok .done)) (twin.notified given.now given.server { given.pool with
      active := given.pool.active.erase connection.id, idle := given.pool.idle ++ [connection] })

theorem takeBack_site (agent : Agent) (connection : Connection) :
    (twin.site given).takeBack agent connection = twin.turn (given.takeBack agent connection) := by
  have present : (twin.site given).pool.isPresent = given.pool.isPresent :=
    twin.isPresent_pool given.pool
  rw [Site.takeBack, Site.takeBack, present]
  refine twin.turn_ite (fun _ => rfl) fun _ => ?_
  refine twin.turn_ite (fun _ => ?_) fun _ => ?_
  · refine twin.turn_ite (fun _ => ?_) fun _ => ?_
    · exact twin.probe_site given agent connection.session
        (.returnProbe (connection.touch given.now))
    · exact twin.requeue_site given _ true
  · exact twin.requeue_site given _ false

theorem returnProbed_site (connection : Connection) :
    (twin.site given).returnProbed connection = twin.turn (given.returnProbed connection) := by
  rw [Site.returnProbed, Site.returnProbed]
  refine twin.turn_ite (fun _ => ?_) fun _ => ?_
  · exact twin.requeue_site given _ true
  · exact twin.requeue_site given _ false

theorem detach_site (ticket : Nat) :
    (twin.site given).detach ticket = twin.turn (given.detach ticket) := by
  have same : (twin.site given).pool.lease? ticket = given.pool.lease? ticket := rfl
  rw [Site.detach, Site.detach, same]
  split
  case h_1 => rfl
  case h_2 lease good =>
    have frees : (((twin.site given).pool.endLease ticket).isPresent &&
        ((twin.site given).pool.endLease ticket).active.contains lease.connection.id) =
          ((given.pool.endLease ticket).isPresent &&
            (given.pool.endLease ticket).active.contains lease.connection.id) :=
      congrArg (· && _) (twin.isPresent_pool (given.pool.endLease ticket))
    dsimp only
    rw [frees]
    split
    · exact congrArg (·.answer (.ok (.detached lease.connection.session)))
        (twin.notified given.now given.server { given.pool.endLease ticket with
          active := given.pool.active.erase lease.connection.id
          total := given.pool.total - 1 })
    · rfl

theorem adopt_site (session : Session) :
    (twin.site given).adopt session = twin.turn (given.adopt session) := by
  rw [Site.adopt, Site.adopt]
  refine twin.turn_ite (fun _ => rfl) fun _ => ?_
  refine twin.turn_ite (fun _ => rfl) fun _ => ?_
  exact congrArg (·.answer (.ok .done)) (twin.notified given.now given.server { given.pool with
    nextId := given.pool.nextId + 1
    total := given.pool.total + 1
    idle := given.pool.idle ++
      [Connection.ofSession session (.new given.pool.nextId given.now)] })

theorem throughLease_site {α : Type} (ticket : Nat)
    (send : Server → Session → Server × Except SessionError α) (reply : α → Pool.Reply) :
    (twin.site given).throughLease ticket send reply =
      twin.turn (given.throughLease ticket send reply) := by
  have same : (twin.site given).pool.lease? ticket = given.pool.lease? ticket := rfl
  rw [Site.throughLease, Site.throughLease, same]
  split <;> rfl

/-! ### Sweeps -/

theorem afterSweep_site (agent : Agent) (report : Report) :
    (twin.site given).afterSweep agent report = twin.turn (given.afterSweep agent report) := by
  cases agent with
  | caller number => rfl
  | checker =>
      rw [Site.afterSweep, Site.afterSweep]
      refine twin.turn_ite (fun _ => rfl) fun _ => ?_
      rw [rest_site]
      rfl

theorem commit_site (agent : Agent) (sweep : Sweep) :
    (twin.site given).commit agent sweep = twin.turn (given.commit agent sweep) := by
  let finish (site : Site) : Turn := ((site.disposeAll sweep.evicted).withPool
    (·.count (·.swept sweep.report))).afterSweep agent sweep.report
  have finishes (site : Site) : finish (twin.site site) = twin.turn (finish site) := by
    have gone := twin.disposeAll_site site sweep.evicted
    have ended := twin.afterSweep_site ((site.disposeAll sweep.evicted).withPool
      (·.count (·.swept sweep.report))) agent sweep.report
    change (((twin.site site).disposeAll sweep.evicted).withPool _).afterSweep agent _ = _
    rw [gone]
    exact ended
  let left : Pool := { given.pool with validating := given.pool.validating - sweep.checked }
  rw [Site.commit, Site.commit]
  refine Eq.trans (congrArg finish ?_) (finishes _)
  refine twin.site_ite (fun _ => ?_) fun _ => ?_
  · exact twin.disposeAll_site
      { given with pool := { left with total := left.total - sweep.checked } } sweep.kept
  · exact congrArg (Site.mk given.now given.server) (twin.notifyMany_pool { left with
      total := left.total - sweep.evicted.length
      idle := sweep.kept ++ left.idle } sweep.checked)

theorem examine_site (agent : Agent) (sweep : Sweep) (pending : List Connection) :
    (twin.site given).examine agent sweep pending =
      twin.turn (given.examine agent sweep pending) := by
  induction pending generalizing sweep with
  | nil => exact twin.commit_site given agent sweep
  | cons connection pending ih =>
      rw [Site.examine, Site.examine]
      refine twin.turn_ite (fun _ => ih _) fun _ => ?_
      exact twin.probe_site given agent connection.session (.sweeping sweep connection pending)

theorem sweep_site (agent : Agent) :
    (twin.site given).sweep agent = twin.turn (given.sweep agent) := by
  rw [Site.sweep, Site.sweep]
  refine twin.turn_ite (fun _ => twin.afterSweep_site given agent .zero) fun _ => ?_
  exact twin.examine_site { given with pool := { given.pool with
    idle := [], validating := given.pool.validating + given.pool.idle.length } } agent _ _

theorem sweepProbed_site (agent : Agent) (sweep : Sweep) (connection : Connection)
    (pending : List Connection) : (twin.site given).sweepProbed agent sweep connection pending =
      twin.turn (given.sweepProbed agent sweep connection pending) := by
  rw [Site.sweepProbed, Site.sweepProbed]
  exact twin.turn_ite (fun _ => twin.examine_site given agent _ _)
    fun _ => twin.examine_site given agent _ _

theorem wake_site : (twin.site given).wake = twin.turn given.wake := by
  rw [Site.wake, Site.wake]
  exact twin.turn_ite (fun _ => rfl) fun _ => twin.sweep_site given .checker

/-! ### Opening and closing -/

theorem prewarm_site (agent : Agent) (made : Nat) :
    (twin.site given).prewarm agent made = twin.turn (given.prewarm agent made) := by
  rw [Site.prewarm, Site.prewarm]
  refine twin.turn_ite (fun _ => ?_) fun _ => ?_
  · exact twin.connect_site given agent fun _ _ => rfl
  · rw [rest_site]
    rfl

theorem prewarmConnected_site (agent : Agent) (made : Nat) (metadata : Metadata)
    (attempt : Attempt) : (twin.site given).prewarmConnected agent made metadata attempt =
      twin.turn (given.prewarmConnected agent made metadata attempt) := by
  rcases finished : given.server.finishConnect attempt with ⟨server, error | session⟩
  all_goals
    have finishedToo : (twin.site given).server.finishConnect attempt = _ := finished
    simp only [Site.prewarmConnected, Site.connected, finished, finishedToo]
  · have rested := twin.rest_site { given with server }
    exact congrArg (·.answer (.ok .opened)) rested
  · exact twin.prewarm_site ⟨given.now, server, { given.pool.count (·.created) with
      total := given.pool.total + 1
      idle := given.pool.idle ++ [Connection.ofSession session metadata] }⟩ agent (made + 1)

theorem drain_site (thenDrop : Bool) :
    (twin.site given).drain thenDrop = twin.turn (given.drain thenDrop) := by
  let emptied := given.withPool fun pool =>
    { pool with idle := [], total := pool.total - given.pool.idle.length }
  have gone := twin.disposeAll_site emptied given.pool.idle
  exact congrArg (·.closed thenDrop) gone

theorem shutdown_site (agent : Agent) (thenDrop : Bool) :
    (twin.site given).shutdown agent thenDrop = twin.turn (given.shutdown agent thenDrop) := by
  rw [Site.shutdown, Site.shutdown]
  refine twin.turn_ite (fun _ => rfl) fun _ => ?_
  let told := given.withPool fun pool =>
    { pool.notifyAll with isShutdown := true, stopRequested := true }
  have toldToo : ((twin.site given).withPool fun pool =>
      { pool.notifyAll with isShutdown := true, stopRequested := true }) = twin.site told :=
    congrArg (fun pool : Pool => (Site.mk given.now given.server
      { pool with isShutdown := true, stopRequested := true })) (twin.notifyAll_pool given.pool)
  have checker : (twin.site told).pool.hasChecker = told.pool.hasChecker :=
    twin.hasChecker_pool told.pool
  dsimp only
  rw [toldToo, checker]
  refine twin.turn_ite (fun _ => ?_) fun _ => twin.drain_site told thenDrop
  exact twin.wait_site told agent (.joining thenDrop) none

end Twin

end SessionPool
