import SessionPool.Proofs.Accounting

/-!
# Turns in a pool that is shut down

Whoever works in a pool that is shut down finds it so when the work goes on after a wait. Nothing
becomes idle any more, no slot is taken, and nobody gets a lease; every connection that comes into
the hands of an agent is disconnected.
-/

namespace SessionPool

namespace Pool

/-- The error with which a checkout ends in a pool that is shut down. A connect that fails keeps its
own. -/
def Phase.refusal (server : Server) : Phase → PoolError
  | .connecting _ _ attempt =>
      match (server.finishConnect attempt).2 with
      | .error cause => .creationFailed cause
      | .ok _ => .shutDown
  | _ => .shutDown

/-- What can have become of a pool that is shut down: it lends nothing, and it only loses what it
has. -/
structure Dwindles (before after : Pool) : Prop where
  shutdown : after.isShutdown = true
  idle_eq : after.idle = before.idle ∨ after.idle = []
  total_le : after.total ≤ before.total
  /-- Nobody gets a lease. -/
  leases : (after.leases.map (·.ticket)).Sublist (before.leases.map (·.ticket))
  /-- Nobody begins to check out. -/
  checkouts (task : Task) (present : task ∈ after.tasks) (inside : task.isCheckingOut = true) :
    task ∈ before.tasks

namespace Dwindles

theorem refl {pool : Pool} (shutdown : pool.isShutdown = true) : Dwindles pool pool where
  shutdown := shutdown
  idle_eq := .inl rfl
  total_le := Nat.le_refl _
  leases := .refl _
  checkouts _ present _ := present

theorem trans {first second third : Pool} (earlier : Dwindles first second)
    (later : Dwindles second third) : Dwindles first third where
  shutdown := later.shutdown
  idle_eq := by
    rcases later.idle_eq with same | gone
    · rw [same]
      exact earlier.idle_eq
    · exact .inr gone
  total_le := Nat.le_trans later.total_le earlier.total_le
  leases := later.leases.trans earlier.leases
  checkouts task present inside :=
    earlier.checkouts task (later.checkouts task present inside) inside

end Dwindles

/-- What becomes of a pool that is shut down in a turn there, from which the agent at work has been
taken. Everybody else waits on. -/
structure Ebbs (before after : Pool) : Prop extends Dwindles before after where
  stays (task : Task) (present : task ∈ before.tasks) : task ∈ after.tasks
  /-- Nobody is asleep. -/
  awake (task : Task) (present : task ∈ after.tasks) : task.isAsleep = false

namespace Ebbs

theorem refl {pool : Pool} (shutdown : pool.isShutdown = true)
    (awake : ∀ task ∈ pool.tasks, task.isAsleep = false) : Ebbs pool pool where
  toDwindles := .refl shutdown
  stays _ present := present
  awake := awake

/-- An agent that has gone on and ended leaves a pool with less than it had. -/
theorem ofUnpark {before after : Pool} {agent : Agent} (ebbs : Ebbs (before.unpark agent) after) :
    Dwindles before after :=
  { ebbs.toDwindles with
    checkouts := fun task present inside =>
      List.mem_of_mem_eraseP (ebbs.checkouts task present inside) }

variable {before pool : Pool} (ebbs : before.Ebbs pool)

include ebbs

/-- Nobody is there to be told. -/
theorem notifyOne : before.Ebbs pool.notifyOne := by
  have same : pool.notifyOne = pool := by
    rw [Pool.notifyOne, (notifyFirst_eq_self_iff _).mpr ebbs.awake]
  rw [same]
  exact ebbs

/-- An agent may wait for something else than a connection to check out. -/
theorem park {task : Task} (outside : task.isCheckingOut = false) :
    before.Ebbs (pool.park task) := by
  refine { ebbs with checkouts := ?_, stays := ?_, awake := ?_ }
  · intro other present inside
    rcases List.mem_append.mp present with old | new
    · exact ebbs.checkouts other old inside
    · rw [List.mem_singleton.mp new, outside] at inside
      contradiction
  · intro other present
    exact List.mem_append_left _ (ebbs.stays other present)
  · intro other present
    rcases List.mem_append.mp present with old | new
    · exact ebbs.awake other old
    · obtain ⟨agent, phase, due⟩ := task
      rw [List.mem_singleton.mp new]
      cases phase with
      | waiting checkout notified => contradiction
      | _ => rfl

/-- A slot is given back. -/
theorem release (active : List Nat) :
    before.Ebbs { pool with active, total := pool.total - 1 } :=
  { ebbs with total_le := Nat.le_trans (Nat.sub_le _ _) ebbs.total_le }

theorem endLease (ticket : Nat) : before.Ebbs (pool.endLease ticket) :=
  { ebbs with leases := (List.eraseP_sublist.map _).trans ebbs.leases }

theorem updateLease (ticket : Nat) (connection : Connection) :
    before.Ebbs (pool.updateLease ticket connection) := by
  have tickets : (pool.updateLease ticket connection).leases.map (·.ticket) =
      pool.leases.map (·.ticket) := by
    rw [Pool.updateLease, List.map_map]
    apply List.map_congr_left
    intro lease _
    dsimp only [Function.comp]
    split <;> rfl
  refine { ebbs with leases := ?_ }
  rw [tickets]
  exact ebbs.leases

end Ebbs

end Pool

/-! ### What agents do in a pool that is shut down -/

namespace Site

open Pool (Agent Phase Task Checkout Patience Report Sweep Job)

theorem seek_eq_refuse (site : Site) (shutdown : site.pool.isShutdown = true)
    (checkout : Checkout) : site.seek checkout = site.refuse .shutDown := by
  rw [seek]
  exact if_pos shutdown

/-- A returned connection that has been probed comes back, dead or alive. -/
theorem returnProbed_eq_requeue (site : Site) (connection : Connection) :
    ∃ returned healthy, site.returnProbed connection = site.requeue returned healthy ∧
      returned.session = connection.session := by
  rw [returnProbed]
  by_cases alive : site.server.answers connection.session = true
  · exact ⟨connection, true, if_pos alive, rfl⟩
  · exact ⟨connection.broken, false, if_neg alive, rfl⟩

section Outcomes

variable {site : Site} (shutdown : site.pool.isShutdown = true)

include shutdown

/-- A caller that arrives is turned away at the door. -/
theorem checkout_eq_answer (caller : Nat) (patience : Patience) :
    site.checkout caller patience =
      (site.withPool (·.count (·.failed .shutDown))).answer (.error .shutDown) := by
  rw [checkout]
  exact if_pos shutdown

/-- A connection that has been probed for a caller is disposed of, dead or alive. -/
theorem borrowProbed_eq_refuse (checkout : Checkout) (connection : Connection) :
    site.borrowProbed checkout connection =
      (dispose { site with pool := { site.pool with
        active := site.pool.active.erase connection.id
        total := site.pool.total - 1 } } connection).refuse .shutDown := by
  rw [borrowProbed]
  dsimp only
  rw [if_neg (by simp [shutdown])]
  by_cases alive : site.server.answers connection.session = true
  · exact if_pos alive
  · rw [if_neg alive]
    apply seek_eq_refuse
    exact shutdown

/-- A connection that has been made for a caller is disposed of. -/
theorem checkoutConnected_eq_refuse (checkout : Checkout) (metadata : Metadata)
    (attempt : Attempt) :
    ∃ released : Site, site.checkoutConnected checkout metadata attempt =
        released.refuse ((Phase.connecting checkout metadata attempt).refusal site.server) ∧
      ((∃ counters, released.pool = { site.pool with total := site.pool.total - 1, counters }) ∨
        released.pool = { site.pool with total := site.pool.total - 1 }.notifyOne) := by
  rw [checkoutConnected, connected, Phase.refusal]
  rcases site.server.finishConnect attempt with ⟨server, error | session⟩
  · exact ⟨_, rfl, .inr rfl⟩
  · refine ⟨_, if_pos shutdown, .inl ⟨_, rfl⟩⟩

/-- A connection that comes back is disconnected, and is not queued. -/
theorem requeue_outcome (connection : Connection) (healthy : Bool) :
    ∃ counters, (site.requeue connection healthy).2 = some (.ok .done) ∧
      (site.requeue connection healthy).1.server = site.server.disconnect connection.session ∧
      ((site.requeue connection healthy).1.pool = { site.pool with counters } ∨
        (site.requeue connection healthy).1.pool = { site.pool with
          active := site.pool.active.erase connection.id
          total := site.pool.total - 1
          counters }) := by
  rw [requeue]
  by_cases tracked : (!site.pool.active.contains connection.id) = true
  · rw [if_pos tracked]
    exact ⟨_, rfl, rfl, .inl rfl⟩
  · rw [if_neg tracked]
    simp only [shutdown, if_true]
    exact ⟨_, rfl, rfl, .inr rfl⟩

/-- A lease that ends is not probed any more. -/
theorem takeBack_outcome (agent : Agent) (connection : Connection) :
    (site.takeBack agent connection = { site with
        server := site.server.disconnect connection.session }.answer (.ok .done)) ∨
      site.takeBack agent connection = site.requeue (connection.touch site.now) false := by
  rw [takeBack]
  by_cases absent : (!site.pool.isPresent) = true
  · exact .inl (if_pos absent)
  · rw [if_neg absent]
    right
    dsimp only
    exact if_neg (by simp [shutdown])

/-- A session that is given to the pool is disconnected. -/
theorem adopt_eq_turnAway (session : Session) :
    site.adopt session = site.turnAway session .shutDown := by
  rw [adopt]
  exact if_pos shutdown

end Outcomes

section Ebbs

variable {before : Pool}

theorem disposeAll_ebbs (site : Site) (ebbs : before.Ebbs site.pool)
    (connections : List Connection) : before.Ebbs (site.disposeAll connections).pool := by
  rw [Pool.pool_disposeAll]
  exact { ebbs with }

theorem afterSweep_ebbs (site : Site) (ebbs : before.Ebbs site.pool) (agent : Agent)
    (report : Report) : before.Ebbs (site.afterSweep agent report).1.pool := by
  unfold afterSweep
  split
  · exact ebbs
  · split
    · exact ebbs
    · exact ebbs.park rfl

variable {site : Site} (ebbs : before.Ebbs site.pool)

include ebbs

theorem refuse_ebbs (error : PoolError) : before.Ebbs (site.refuse error).1.pool :=
  { ebbs with }

theorem borrowProbed_ebbs (checkout : Checkout) (connection : Connection) :
    before.Ebbs (site.borrowProbed checkout connection).1.pool := by
  rw [borrowProbed_eq_refuse ebbs.shutdown]
  have released := ebbs.release (site.pool.active.erase connection.id)
  exact { released with }

theorem checkoutConnected_ebbs (checkout : Checkout) (metadata : Metadata) (attempt : Attempt) :
    before.Ebbs (site.checkoutConnected checkout metadata attempt).1.pool := by
  have released := ebbs.release site.pool.active
  obtain ⟨given, refused, pool⟩ :=
    checkoutConnected_eq_refuse ebbs.shutdown checkout metadata attempt
  rw [refused]
  apply refuse_ebbs
  rcases pool with ⟨counters, pool⟩ | pool
  · rw [pool]
    exact { released with }
  · rw [pool]
    exact released.notifyOne

/-! ### Returns -/

theorem requeue_ebbs (connection : Connection) (healthy : Bool) :
    before.Ebbs (site.requeue connection healthy).1.pool := by
  obtain ⟨counters, _, _, pool | pool⟩ := requeue_outcome ebbs.shutdown connection healthy
  · rw [pool]
    exact { ebbs with }
  · rw [pool]
    have released := ebbs.release (site.pool.active.erase connection.id)
    exact { released with }

theorem takeBack_ebbs (agent : Agent) (connection : Connection) :
    before.Ebbs (site.takeBack agent connection).1.pool := by
  rcases takeBack_outcome ebbs.shutdown agent connection with gone | back
  · rw [gone]
    exact ebbs
  · rw [back]
    exact requeue_ebbs ebbs _ _

theorem returnProbed_ebbs (connection : Connection) :
    before.Ebbs (site.returnProbed connection).1.pool := by
  obtain ⟨returned, healthy, back, _⟩ := site.returnProbed_eq_requeue connection
  rw [back]
  exact requeue_ebbs ebbs returned healthy

theorem release_ebbs (agent : Agent) (ticket : Nat) :
    before.Ebbs (site.release agent ticket).1.pool := by
  rw [release]
  split
  · exact ebbs
  · exact takeBack_ebbs (ebbs.endLease ticket) agent _

theorem invalidate_ebbs (agent : Agent) (ticket : Nat) :
    before.Ebbs (site.invalidate agent ticket).1.pool := by
  rw [invalidate]
  split
  · exact ebbs
  · exact takeBack_ebbs (ebbs.endLease ticket) agent _

theorem discard_ebbs (agent : Agent) (ticket : Nat) :
    before.Ebbs (site.discard agent ticket).1.pool := by
  rw [discard]
  split
  · exact ebbs
  · exact takeBack_ebbs (ebbs.endLease ticket) agent _

theorem detach_ebbs (ticket : Nat) : before.Ebbs (site.detach ticket).1.pool := by
  have ended := ebbs.endLease ticket
  rw [detach]
  split
  · exact ebbs
  · dsimp only
    split
    · exact (ended.release _).notifyOne
    · exact ended

theorem throughLease_ebbs {α : Type} (ticket : Nat)
    (send : Server → Session → Server × Except SessionError α) (reply : α → Pool.Reply) :
    before.Ebbs (site.throughLease ticket send reply).1.pool := by
  rw [throughLease]
  split
  · exact ebbs
  · exact ebbs.updateLease ticket _

/-! ### Sweeps -/

theorem commit_ebbs (agent : Agent) (sweep : Sweep) :
    before.Ebbs (site.commit agent sweep).1.pool := by
  rw [commit]
  have shutdown := ebbs.shutdown
  dsimp only
  rw [if_pos shutdown]
  have given : before.Ebbs { site.pool with
      validating := site.pool.validating - sweep.checked
      total := site.pool.total - sweep.checked } :=
    { ebbs with total_le := Nat.le_trans (Nat.sub_le _ _) ebbs.total_le }
  have kept := disposeAll_ebbs (site.withPool fun _ => _) given sweep.kept
  have gone := disposeAll_ebbs _ kept sweep.evicted
  apply afterSweep_ebbs
  exact { gone with }

theorem examine_ebbs (agent : Agent) (sweep : Sweep) (pending : List Connection) :
    before.Ebbs (site.examine agent sweep pending).1.pool := by
  induction pending generalizing sweep with
  | nil => exact commit_ebbs ebbs agent sweep
  | cons connection pending ih =>
      rw [examine]
      split
      · exact ih (sweep.evictIdle connection)
      · exact ebbs.park rfl

theorem sweepProbed_ebbs (agent : Agent) (sweep : Sweep) (connection : Connection)
    (pending : List Connection) :
    before.Ebbs (site.sweepProbed agent sweep connection pending).1.pool := by
  rw [sweepProbed]
  split
  · exact examine_ebbs ebbs agent (sweep.keep connection) pending
  · exact examine_ebbs ebbs agent (sweep.evictDead connection) pending

theorem sweep_ebbs (agent : Agent) : before.Ebbs (site.sweep agent).1.pool := by
  rw [sweep]
  dsimp only
  rw [if_pos ebbs.shutdown]
  exact afterSweep_ebbs site ebbs agent .zero

theorem wake_ebbs : before.Ebbs site.wake.1.pool := by
  rw [wake]
  split
  · exact ebbs
  · exact sweep_ebbs ebbs .checker

/-! ### Closing -/

/-- What is idle is gone for ever. -/
theorem drain_ebbs (thenDrop : Bool) : before.Ebbs (site.drain thenDrop).1.pool := by
  rw [drain]
  have emptied : before.Ebbs { site.pool with
      idle := [], total := site.pool.total - site.pool.idle.length } :=
    { ebbs with
      idle_eq := .inr rfl
      total_le := Nat.le_trans (Nat.sub_le _ _) ebbs.total_le }
  have disposed := disposeAll_ebbs (site.withPool fun _ => _) emptied site.pool.idle
  exact { disposed with }

theorem shutdown_ebbs (agent : Agent) (thenDrop : Bool) :
    before.Ebbs (site.shutdown agent thenDrop).1.pool := by
  rw [shutdown, if_pos ebbs.shutdown]
  exact { ebbs with }

/-! ### Calls, and going on -/

/-- No call adds anything to a pool that is shut down. -/
theorem work_ebbs (caller : Nat) (job : Job) : before.Ebbs (job.work caller site).1.pool := by
  have turned (patience : Patience) : before.Ebbs (site.checkout caller patience).1.pool := by
    rw [checkout_eq_answer ebbs.shutdown]
    exact { ebbs with }
  cases job with
  | acquire timeout => exact turned _
  | get => exact turned _
  | tryGet => exact turned _
  | adopt session =>
      change before.Ebbs (site.adopt session).1.pool
      rw [adopt_eq_turnAway ebbs.shutdown]
      exact ebbs
  | sweep => exact sweep_ebbs ebbs _
  | shutdown thenDrop => exact shutdown_ebbs ebbs _ thenDrop
  | release ticket => exact release_ebbs ebbs _ ticket
  | invalidate ticket => exact invalidate_ebbs ebbs _ ticket
  | discard ticket => exact discard_ebbs ebbs _ ticket
  | detach ticket => exact detach_ebbs ebbs ticket
  | execute ticket statement => exact throughLease_ebbs ebbs ticket _ _
  | query ticket statement => exact throughLease_ebbs ebbs ticket _ _

/-- No agent that goes on adds anything to a pool that is shut down. Nobody fills such a pool. -/
theorem proceed_ebbs (agent : Agent) {phase : Phase}
    (filled : (Task.mk agent phase none).isPrewarming = false) :
    before.Ebbs (site.proceed agent phase).1.pool := by
  cases phase with
  | prewarming made metadata attempt => contradiction
  | connecting checkout metadata attempt =>
      exact checkoutConnected_ebbs ebbs checkout metadata attempt
  | borrowProbe checkout connection => exact borrowProbed_ebbs ebbs checkout connection
  | waiting checkout notified =>
      change before.Ebbs (site.seek checkout).1.pool
      rw [seek_eq_refuse _ ebbs.shutdown]
      exact refuse_ebbs ebbs .shutDown
  | returnProbe connection => exact returnProbed_ebbs ebbs connection
  | sweeping sweep connection pending => exact sweepProbed_ebbs ebbs agent sweep connection pending
  | resting => exact wake_ebbs ebbs
  | joining thenDrop => exact drain_ebbs ebbs thenDrop

end Ebbs

end Site

end SessionPool
