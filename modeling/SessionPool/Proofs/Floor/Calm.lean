import SessionPool.Proofs.Accounting
import SessionPool.Proofs.Floor.Sweep

/-!
# Calm turns

A turn is calm if the server answers well, the agent takes no connection out of the pool for good
and brings none back that is broken, and the pool goes on lending. In a balanced pool, a calm turn
takes away only what a sweep has evicted.
-/

namespace SessionPool

namespace Pool

/-- Whether the server would now give the answer that an agent hopes for. -/
def Task.succeeds (server : Server) (task : Task) : Bool :=
  match task.phase with
  | .prewarming _ _ attempt | .connecting _ _ attempt => (server.finishConnect attempt).2.isOk
  | .borrowProbe _ connection | .returnProbe connection | .sweeping _ connection _ =>
      server.answers connection.session
  | _ => true

/-- Whether an agent that goes on, if it can, finds the answer it hopes for. -/
def succeeds (pool : Pool) (now : Nat) (server : Server) (agent : Agent) : Bool :=
  (pool.task? agent).all fun task => !pool.isReady now task || task.succeeds server

/-- Whether a call leaves the connections that are lent with the pool. -/
def Job.keeps (pool : Pool) : Job → Bool
  | .invalidate ticket | .detach ticket => (pool.lease? ticket).isNone
  | _ => true

/-- Whether the agent is in the middle of a sweep. -/
def isSweeping (pool : Pool) (agent : Agent) : Bool := (pool.task? agent).any Task.isSweeping

theorem exists_of_isSweeping {pool : Pool} {agent : Agent}
    (sweeping : pool.isSweeping agent = true) :
    ∃ task ∈ pool.sweeps, task.agent = agent ∧ pool.task? agent = some task := by
  unfold isSweeping at sweeping
  cases found : pool.task? agent with
  | none =>
      rw [found] at sweeping
      contradiction
  | some task =>
      rw [found] at sweeping
      have member := List.mem_of_find?_eq_some found
      exact ⟨task, List.mem_filter.mpr ⟨member, sweeping⟩, agent_of_task? found, rfl⟩

/-- An agent that goes on with something else than a sweep leaves the sweeps as they are. -/
theorem sweeps_unpark {pool : Pool} {agent : Agent} {task : Task}
    (found : pool.task? agent = some task) (other : task.isSweeping = false) :
    (pool.unpark agent).sweeps = pool.sweeps := by
  obtain ⟨passes, before, after, tasks, earlier⟩ := List.find?_eq_some_iff_append.mp found
  have untouched : ∀ task ∈ before, ¬ (task.agent == agent) = true := by
    intro task member
    simpa using earlier task member
  rw [sweeps, sweeps, unpark, tasks, List.eraseP_append_right _ untouched]
  simp [passes, other]

namespace Balanced

variable {callers : Nat} {pool : Pool}

/-- The next call is not at work yet. -/
theorem isSweeping_callers (balanced : Balanced callers pool 0) :
    pool.isSweeping (.caller callers) = false := by
  have once := balanced.count_agent_le_one (.caller callers)
  rw [Agent.limit, if_neg (Nat.lt_irrefl callers), Nat.le_zero, List.count_eq_zero] at once
  have absent : pool.task? (.caller callers) = none := by
    apply List.find?_eq_none.mpr
    intro task member same
    exact once (List.mem_map.mpr ⟨task, member, beq_iff_eq.mp same⟩)
  rw [isSweeping, absent]
  rfl

end Balanced

end Pool

/-! ### Calls -/

namespace Site

open Pool (Agent Task Job Balanced)

variable {callers : Nat} {site : Site}

/-- A shutdown shuts the pool down, now or before. -/
theorem shutdown_isShutdown (agent : Agent) (thenDrop : Bool) :
    (site.shutdown agent thenDrop).1.pool.isShutdown = true := by
  unfold shutdown
  split
  case isTrue shutdown => exact shutdown
  case isFalse =>
    dsimp only
    split
    · rfl
    · simp only [drain, closed, answer, withPool]
      rw [Pool.pool_disposeAll]

theorem idle_le_total {pool : Pool} {hand : Pool.Holding} (balanced : Balanced callers pool hand) :
    pool.idle.length ≤ pool.total := by
  have total := balanced.books.total_eq
  omega

/-- A calm call takes nothing away but what its sweep has evicted. -/
theorem work_isTame (balanced : Balanced callers site.pool 0) {job : Job}
    (running : (job.work callers site).1.pool.isShutdown = false)
    (keeps : job.keeps site.pool = true) (lends : site.pool.isShutdown = false)
    (sound : ∀ lease ∈ site.pool.leases, lease.connection.isReusable = true) :
    (job.work callers site).IsTame (.caller callers) site.pool.total site.pool := by
  have grows := Pool.Grows.refl site.pool
  cases job with
  | acquire timeout => exact (checkout_isMild grows callers _).tame _ _
  | get => exact (checkout_isMild grows callers _).tame _ _
  | tryGet => exact (checkout_isMild grows callers _).tame _ _
  | adopt session => exact (adopt_isMild grows session).tame _ _
  | sweep => exact sweep_isTame lends (idle_le_total balanced)
  | shutdown thenDrop =>
      rw [Job.work, shutdown_isShutdown] at running
      contradiction
  | release ticket => exact (release_isMild grows lends _ ticket sound).tame _ _
  | discard ticket => exact (discard_isMild grows lends _ ticket sound).tame _ _
  | invalidate ticket =>
      have ended := Option.isNone_iff_eq_none.mp keeps
      have mild : (site.invalidate (.caller callers) ticket).IsMild site.pool := by
        rw [invalidate, ended]
        exact answer_isMild grows rfl
      exact mild.tame _ _
  | detach ticket =>
      have ended := Option.isNone_iff_eq_none.mp keeps
      have mild : (site.detach ticket).IsMild site.pool := by
        rw [detach, ended]
        exact answer_isMild grows rfl
      exact mild.tame _ _
  | execute ticket statement =>
      have mild : (site.execute ticket statement).IsMild site.pool :=
        throughLease_isMild grows ticket _ fun _ => rfl
      exact mild.tame _ _
  | query ticket statement =>
      have mild : (site.query ticket statement).IsMild site.pool :=
        throughLease_isMild grows ticket _ fun _ => rfl
      exact mild.tame _ _

/-! ### Going on -/

/-- An agent that goes on calmly takes nothing away but what its sweep has evicted. -/
theorem resume_isTame (balanced : Balanced callers site.pool 0)
    (running : site.pool.isShutdown = false) {agent : Agent}
    (succeeds : site.pool.succeeds site.now site.server agent = true)
    {started : Nat} (counts : ∀ task, site.pool.task? agent = some task →
      task.Counts site.pool.config.minConnections started) :
    (site.resume agent).IsTame agent
      (if site.pool.isSweeping agent then started else site.pool.total) site.pool := by
  have grows := Pool.Grows.refl site.pool
  unfold resume
  split
  case h_2 => exact Turn.IsMild.tame ⟨grows, rfl⟩ _ _
  case h_1 task found =>
    split
    case isFalse => exact Turn.IsMild.tame ⟨grows, rfl⟩ _ _
    case isTrue ready =>
      rw [Pool.succeeds, found, Option.all_some, ready, Bool.not_true, Bool.false_or] at succeeds
      have counts := counts task found
      have proper := balanced.proper task (List.mem_of_find?_eq_some found)
      have unparked := balanced.unpark found
      have sweeping : site.pool.isSweeping agent = task.isSweeping := by
        rw [Pool.isSweeping, found]
        rfl
      have gone (other : task.isSweeping = false) :
          site.pool.Grows (site.withPool (·.unpark agent)).pool :=
        ⟨Nat.le_refl _, Pool.sweeps_unpark found other, rfl⟩
      obtain ⟨_, phase, due⟩ := task
      cases phase with
      | prewarming made metadata attempt => exact proper.elim
      | connecting checkout metadata attempt =>
          exact (checkoutConnected_isMild (gone rfl) running checkout metadata succeeds).tame _ _
      | borrowProbe checkout connection =>
          exact (borrowProbed_isMild (gone rfl) running checkout succeeds).tame _ _
      | waiting checkout notified => exact (seek_isMild (gone rfl) checkout).tame _ _
      | returnProbe connection => exact (returnProbed_isMild (gone rfl) running succeeds).tame _ _
      | sweeping sweep connection pending =>
          have enough : sweep.evicted.length + pending.length ≤ site.pool.total := by
            have total := unparked.books.total_eq
            have validating := unparked.books.validating_eq
            have sizes : sweep.checked =
                sweep.kept.length + sweep.evicted.length + 1 + pending.length := proper
            simp [Pool.unpark] at total validating
            omega
          have sweeping : site.pool.isSweeping agent = true := sweeping
          rw [if_pos sweeping]
          refine Turn.IsTame.congr (sweepProbed_isTame ?_ ?_ ?_ ?_) rfl ?_ rfl
          · exact counts
          · exact running
          · exact enough
          · exact succeeds
          · intro other present
            obtain ⟨member, sweeps⟩ := List.mem_filter.mp present
            exact List.mem_filter.mpr ⟨List.mem_of_mem_eraseP member, sweeps⟩
      | resting =>
          obtain rfl : .checker = agent := by
            rw [← Pool.agent_of_task? found]
            exact proper.symm
          have resting : site.pool.isSweeping .checker = false := sweeping
          rw [resting, if_neg Bool.false_ne_true]
          refine Turn.IsTame.congr (wake_isTame ?_ ?_) rfl ?_ rfl
          · exact running
          · exact idle_le_total unparked
          · intro other present
            rwa [(gone rfl).sweeps_eq] at present
      | joining thenDrop =>
          have shutdown := unparked.books.shutdown (.inl (by simp))
          have lends : (site.pool.unpark agent).isShutdown = false := running
          rw [lends] at shutdown
          contradiction

end Site

end SessionPool
