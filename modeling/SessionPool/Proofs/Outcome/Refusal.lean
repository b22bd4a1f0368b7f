import SessionPool.Proofs.Floor.Turns
import SessionPool.Proofs.Outcome.Turns
import SessionPool.Proofs.Ownership.Exclusive

/-!
# Who is turned away

A caller is turned away for want of a connection only at a moment when the pool has used up its
capacity: every slot belongs to a connection that is lent, to one that is being made, or to one that
a sweep has taken out of the queue. The last kind is easily overlooked. Nobody has such a
connection, but until the sweep puts it back nobody can get it either.
-/

namespace SessionPool

namespace Pool

/-- All slots of a pool that lends are taken. -/
structure InUse (pool : Pool) : Prop where
  running : pool.isShutdown = false
  idle_eq : pool.idle = []
  slots_eq : pool.active.length + pool.tasks.countP Task.isConnecting + pool.validating =
    pool.config.maxConnections
  /-- What is active is lent, being probed for a caller, or on its way back. -/
  active_perm : pool.active.Perm
    (pool.leases.map (·.connection.id) ++ pool.tasks.flatMap Task.lentIds)
  /-- The other slots that no caller has are those of connections in the hands of sweeps. -/
  validating_eq : pool.validating = (pool.tasks.map (·.drained.length)).sum
  /-- While nobody sweeps, all slots are taken by callers. -/
  unswept (calm : pool.sweeps = []) :
    pool.active.length + pool.tasks.countP Task.isConnecting = pool.config.maxConnections

/-- Without a sweep, nothing is in the hands of one. -/
theorem sum_drained_of_sweeps_eq_nil {pool : Pool} (calm : pool.sweeps = []) :
    (pool.tasks.map (·.drained.length)).sum = 0 := by
  apply List.sum_eq_zero
  intro amount member
  obtain ⟨task, present, rfl⟩ := List.mem_map.mp member
  have still : ¬ task.isSweeping = true := List.filter_eq_nil_iff.mp calm task present
  obtain ⟨agent, phase, due⟩ := task
  cases phase with
  | sweeping sweep current pending => exact absurd rfl still
  | _ => rfl

/-- A full pool has used up its capacity. -/
theorem IsFull.inUse {callers : Nat} {pool : Pool} (full : pool.IsFull)
    (sound : Sound callers pool) : pool.InUse := by
  have accounted := sound.accounted
  have total := accounted.total_eq
  have total_le := accounted.total_le
  have capacity_le := full.capacity_le
  have kept : pool.dropped = false := by
    rcases sound with filling | balanced
    · obtain ⟨_, _, _, _, _, _, _, _, unknown⟩ := filling
      exact unknown.kept
    · exact balanced.kept full.running
  rw [full.idle_eq, List.length_nil, Nat.zero_add] at total
  have slots : pool.active.length + pool.tasks.countP Task.isConnecting + pool.validating =
      pool.config.maxConnections := by
    omega
  constructor
  case running => exact full.running
  case idle_eq => exact full.idle_eq
  case slots_eq => exact slots
  case active_perm => exact sound.active_perm (isPresent_iff.mpr (.inl kept))
  case validating_eq => exact accounted.validating_eq
  case unswept =>
    intro calm
    have validating := accounted.validating_eq
    rw [sum_drained_of_sweeps_eq_nil calm] at validating
    omega

end Pool

namespace World

open Pool (Agent Task)

/-- A turn that refuses a caller leaves a full pool behind. -/
theorem Takes.isFull {world : World} {index : Nat} {pool : Pool} {move : Move} {agent : Agent}
    {turn : Turn} (takes : world.Takes index pool move agent turn) {answer : Pool.Answer}
    (answers : turn.2 = some answer) (refusal : answer.isRefusal = true) :
    turn.1.pool.IsFull := by
  have ends : turn.Ends fun _ => True := by
    cases takes with
    | calls accepted asks => exact Site.work_ends _ fun _ _ _ => trivial
    | resumes agent =>
        apply Site.resume_ends
        intro task waits ready
        apply Site.proceed_ends <;> intros <;> trivial
  exact ends.isFull answers refusal

/-- Nobody is turned away for want of a connection unless every slot of the pool is taken: by what
is lent or on its way, by a connect, or by a sweep. -/
theorem inUse_of_refused {world : World} (possible : Possible world) {index : Nat} {pool : Pool}
    (found : world.pools[index]? = some pool) {move : Move} {agent : Agent} {answer : Pool.Answer}
    (refused : move.event? world = some ⟨.inPool index agent, ofPool answer⟩)
    (refusal : answer.isRefusal = true) :
    ∃ after, (world.move move).pools[index]? = some after ∧ after.InUse := by
  obtain ⟨turn, takes, answers, foundAfter⟩ := turn_of_event found refused
  have sound := (possible.move move).sound _ (List.mem_of_getElem? foundAfter)
  exact ⟨turn.1.pool, foundAfter, (takes.isFull answers refusal).inUse sound⟩

/-- A pool of one connection, which a sweep is probing. -/
def overswept : World :=
  let config : Config := { Config.default with minConnections := 1, maxConnections := 1 }
  (Trace.follow ⟨new, []⟩ [.call (.openPool config), .resume (.inPool 0 (.caller 0)),
    .instruct (.probeDelay 100), .call (.healthCheck 0)]).world

theorem reachable_overswept : Reachable overswept := Reachable.follow .new _

/-- A caller that does not want to wait is turned away meanwhile, and all that is taken is in the
hands of the sweep. -/
theorem inUse_of_refused_overswept :
    ∃ pool, overswept.pools[0]? = some pool ∧
      Move.event? overswept (.act (.call (.tryGet 0))) =
        some ⟨.inPool 0 (.caller 2), ofPool (.ok .noneFree)⟩ ∧
      Pool.Answer.isRefusal (.ok .noneFree) = true ∧
      ∃ after, (overswept.move (.act (.call (.tryGet 0)))).pools[0]? = some after ∧
        after.InUse := by
  have found : overswept.pools[0]? = some (overswept.pools.head (by decide)) := by decide
  have refused : Move.event? overswept (.act (.call (.tryGet 0))) =
      some ⟨.inPool 0 (.caller 2), ofPool (.ok .noneFree)⟩ := by decide
  exact ⟨_, found, refused, rfl, inUse_of_refused reachable_overswept.possible found refused rfl⟩

/-- Both a caller that does not want to wait and one whose time is over at once are turned away
although no caller has a connection or is about to get one. -/
theorem refused_unused : Reachable overswept ∧
    (overswept.call (.tryGet 0)).2 =
      some ⟨.inPool 0 (.caller 2), ofPool (.ok .noneFree)⟩ ∧
    (overswept.call (.acquire 0 0)).2 =
      some ⟨.inPool 0 (.caller 2), ofPool (.error (.timedOut 0))⟩ ∧
    ∀ request ∈ [Request.tryGet 0, .acquire 0 0],
      ∃ pool, (overswept.call request).1.pools[0]? = some pool ∧
        pool.active.length + pool.tasks.countP Task.isConnecting = 0 ∧
        pool.config.maxConnections = 1 := by
  refine ⟨reachable_overswept, by decide, by decide, ?_⟩
  intro request member
  rcases List.mem_cons.mp member with rfl | last
  · exact ⟨_, rfl, by decide, by decide⟩
  · rw [List.mem_singleton.mp last]
    exact ⟨_, rfl, by decide, by decide⟩

end World

end SessionPool
