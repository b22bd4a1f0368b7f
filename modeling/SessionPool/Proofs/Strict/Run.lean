import SessionPool.Proofs.Metrics.Journal
import SessionPool.Proofs.Strict.Return
import SessionPool.Proofs.Strict.Sweep

/-!
# No count goes below zero

Whatever can happen to a pool, whoever is called or goes on in it, and in whatever order, does the
same with strict subtraction as without. The same is true of the success rate of its metrics: no
more probes have failed than have been made.
-/

namespace SessionPool

open Pool (Agent Phase Task Job Probes)

/-! ### Calls, and going on -/

/-- `Job.work` with strict subtraction. To adopt a session and to send a statement takes nothing out
of a count. -/
def Pool.Job.work? (caller : Nat) : Job → Site → Option Turn
  | .acquire timeout => fun site => site.checkout? caller (.ofTimeout site.now timeout)
  | .get => fun site =>
      site.checkout? caller (.ofTimeout site.now site.pool.config.acquireTimeout)
  | .tryGet => (·.checkout? caller .never)
  | .adopt session => (some <| ·.adopt session)
  | .sweep => (·.sweep? (.caller caller))
  | .shutdown thenDrop => (·.shutdown? (.caller caller) thenDrop)
  | .release ticket => (·.release? (.caller caller) ticket)
  | .invalidate ticket => (·.invalidate? (.caller caller) ticket)
  | .discard ticket => (·.discard? (.caller caller) ticket)
  | .detach ticket => (·.detach? ticket)
  | .execute ticket statement => (some <| ·.execute ticket statement)
  | .query ticket statement => (some <| ·.query ticket statement)

namespace Site

/-- `Site.proceed` with strict subtraction. The filling of a new pool takes nothing out of a
count. -/
def proceed? (site : Site) (agent : Agent) : Phase → Option Turn
  | .prewarming made metadata attempt => site.prewarmConnected agent made metadata attempt
  | .connecting checkout metadata attempt => site.checkoutConnected? checkout metadata attempt
  | .borrowProbe checkout connection => site.borrowProbed? checkout connection
  | .waiting checkout _ => site.seek? checkout
  | .returnProbe connection => site.returnProbed? connection
  | .sweeping sweep connection pending => site.sweepProbed? agent sweep connection pending
  | .resting => site.wake?
  | .joining thenDrop => site.drain? thenDrop

/-- `Site.resume` with strict subtraction. -/
def resume? (site : Site) (agent : Agent) : Option Turn :=
  match site.pool.task? agent with
  | some task =>
      if site.pool.isReady site.now task then
        (site.withPool (·.unpark agent)).proceed? agent task.phase
      else some (site, none)
  | none => some (site, none)

variable {site : Site}

/-- A call finds counted what it takes. -/
theorem work?_eq (backed : site.pool.Backed) (caller : Nat) (job : Job) :
    job.work? caller site = some (job.work caller site) := by
  have counted (id : Nat) (active : id ∈ site.pool.active) := backed.total_pos active
  cases job with
  | acquire timeout => exact site.checkout?_eq caller _
  | get => exact site.checkout?_eq caller _
  | tryGet => exact site.checkout?_eq caller _
  | sweep => exact sweep?_eq _ backed.swept_le
  | shutdown thenDrop => exact shutdown?_eq backed.idle_le _ _
  | release ticket => exact release?_eq counted _ _
  | invalidate ticket => exact invalidate?_eq counted _ _
  | discard ticket => exact discard?_eq counted _ _
  | detach ticket => exact detach?_eq counted _
  | adopt session => rfl
  | execute ticket statement => rfl
  | query ticket statement => rfl

/-- So does whoever goes on, unless a sweep has lost sight of something. -/
theorem proceed?_eq (backed : site.pool.Backed) {task : Task} (own : task.Backed site.pool)
    {probes : Probes} (tallies : task.Probes probes) :
    site.proceed? task.agent task.phase = some (site.proceed task.agent task.phase) := by
  have counted (id : Nat) (active : id ∈ site.pool.active) := backed.total_pos active
  obtain ⟨agent, phase, due⟩ := task
  cases phase with
  | prewarming made metadata attempt => rfl
  | connecting checkout metadata attempt =>
      obtain ⟨waits, slot⟩ := own
      exact checkoutConnected?_eq waits checkout metadata attempt slot
  | borrowProbe checkout connection =>
      obtain ⟨waits, active⟩ := own
      exact borrowProbed?_eq waits checkout connection (counted _ active)
  | waiting checkout notified => exact seek?_eq own checkout
  | returnProbe connection => exact returnProbed?_eq counted connection
  | sweeping sweep current pending =>
      exact sweepProbed?_eq agent current tallies.1 own backed.validating_le
  | resting => exact wake?_eq backed.swept_le
  | joining thenDrop => exact drain?_eq backed.idle_le thenDrop

theorem resume?_eq (backed : site.pool.Backed) (order : site.pool.InOrder) (agent : Agent) :
    site.resume? agent = some (site.resume agent) := by
  rw [resume?, resume]
  cases found : site.pool.task? agent with
  | none => rfl
  | some task =>
      have present := List.mem_of_find?_eq_some found
      obtain ⟨probes, tallies⟩ := (order task present).tallies
      obtain rfl := Pool.agent_of_task? found
      dsimp only
      split
      · apply proceed?_eq
        · exact backed.unpark task.agent
        · exact backed.waits task present
        · exact tallies
      · rfl

end Site

/-! ### Probes made and failed -/

/-- `Metrics.healthCheckSuccessRate` with strict subtraction. -/
def Pool.Metrics.healthCheckSuccessRate? (metrics : Metrics) : Option Float := do
  let alive ← less? metrics.counters.healthChecksPerformed metrics.counters.healthChecksFailed
  return rate alive metrics.counters.healthChecksPerformed

/-- An agent that goes on makes a probe for each that fails. -/
theorem Pool.probesNext_le {probes : Probes} (le : probes.failed ≤ probes.made) (pool : Pool)
    (now : Nat) (server : Server) (agent : Agent) :
    (pool.probesNext now server probes agent).failed ≤
      (pool.probesNext now server probes agent).made := by
  have note (alive : Bool) : (probes.note alive).failed ≤ (probes.note alive).made := by
    cases alive with
    | true => exact Nat.le_succ_of_le le
    | false => exact Nat.succ_le_succ le
  rw [Pool.probesNext]
  split
  · split
    · rw [Task.probesNext]
      split
      · exact note _
      · exact Nat.le_refl 0
    · exact le
  · exact le

namespace World

/-- No probe in a journal has failed that has not been made. -/
structure Journal.CountsProbes (journal : Journal) : Prop where
  agents (agent : Agent) : (journal.probed agent).failed ≤ (journal.probed agent).made
  sweeps : journal.swept.failed ≤ journal.swept.made

namespace Journal

variable {journal : Journal}

theorem countsProbes_note (counts : journal.CountsProbes) {probes : Probes}
    (le : probes.failed ≤ probes.made) (agent : Agent) (job? : Option Job)
    (answer : Option Pool.Answer) : (journal.note agent job? probes answer).CountsProbes where
  agents other := by
    simp only [Journal.note, Function.update_apply]
    split
    · exact le
    · exact counts.agents other
  sweeps := by
    rw [Journal.note]
    dsimp only
    split
    · exact Nat.add_le_add counts.sweeps le
    · exact counts.sweeps

theorem countsProbes_move (counts : journal.CountsProbes) (index : Nat) (move : Move) :
    (journal.move index move).CountsProbes := by
  cases turns : (journal.world.pools[index]?).bind (journal.turn? index · move) with
  | none =>
      rw [move_eq_self turns]
      exact ⟨counts.agents, counts.sweeps⟩
  | some works =>
      obtain ⟨agent, job?, probes⟩ := works
      obtain ⟨pool, found, turns⟩ := Option.bind_eq_some_iff.mp turns
      have le : probes.failed ≤ probes.made := by
        rcases cases_of_turn? turns with ⟨_, _, _, _, _, _, _, rfl⟩ | ⟨_, _, rfl⟩
        · exact Nat.le_refl 0
        · exact Pool.probesNext_le (counts.agents agent) _ _ _ _
      rw [move_eq_note found turns]
      have noted := countsProbes_note counts le agent job?
        ((move.event? journal.world).bind (Event.answer? index))
      exact ⟨noted.agents, noted.sweeps⟩

theorem countsProbes_run (index : Nat) (moves : List Move) : (run index moves).CountsProbes := by
  have goesOn {journal : Journal} (counts : journal.CountsProbes) :
      (moves.foldl (Journal.move index) journal).CountsProbes := by
    induction moves generalizing journal with
    | nil => exact counts
    | cons move rest ih => exact ih (countsProbes_move counts index move)
  exact goesOn ⟨fun _ => Nat.le_refl 0, Nat.le_refl 0⟩

end Journal

namespace Possible

variable {world : World} (possible : Possible world)

include possible

/-- Whatever is possible can be the end of a journal. -/
theorem exists_run (index : Nat) : ∃ moves, (Journal.run index moves).world = world := by
  induction possible with
  | new => exact ⟨[], rfl⟩
  | move before move ih =>
      obtain ⟨moves, rfl⟩ := ih
      refine ⟨moves ++ [move], ?_⟩
      rw [Journal.run, List.foldl_append]
      rfl

theorem failed_le_performed {pool : Pool} (member : pool ∈ world.pools) :
    pool.counters.healthChecksFailed ≤ pool.counters.healthChecksPerformed := by
  -- The counters alone do not show it: that a report is plausible is known of the sweep before it.
  obtain ⟨index, found⟩ := List.mem_iff_getElem?.mp member
  obtain ⟨moves, rfl⟩ := possible.exists_run index
  have agrees := (Journal.kept_run index moves).agrees pool found
  rw [agrees.performed, agrees.dead]
  exact (Journal.countsProbes_run index moves).sweeps

end Possible

/-! ### Everything together -/

/-- Nobody takes a count of the pool below zero, neither who is called next, whatever the call, nor
who goes on next, nor who reads the metrics. -/
structure NeverBelowZero (world : World) (pool : Pool) : Prop where
  calls (job : Job) : job.work? world.callers (world.site pool) = some (world.turn pool job)
  resumes (agent : Agent) :
    (world.site pool).resume? agent = some ((world.site pool).resume agent)
  rates (now : Nat) : (pool.metrics now).healthCheckSuccessRate? =
    some (pool.metrics now).healthCheckSuccessRate

/-- No count of a pool ever goes below zero, whatever has happened before. -/
theorem never_below_zero {world : World} (possible : Possible world) {pool : Pool}
    (member : pool ∈ world.pools) : world.NeverBelowZero pool where
  calls job := by
    have sound : Pool.Sound world.callers (world.site pool).pool := possible.sound pool member
    exact Site.work?_eq sound.backed world.callers job
  resumes agent := by
    have sound : Pool.Sound world.callers (world.site pool).pool := possible.sound pool member
    have order : (world.site pool).pool.InOrder := possible.inOrder pool member
    exact Site.resume?_eq sound.backed order agent
  rates now := by
    have le : (pool.metrics now).counters.healthChecksFailed ≤
        (pool.metrics now).counters.healthChecksPerformed :=
      possible.failed_le_performed member
    rw [Pool.Metrics.healthCheckSuccessRate?, less?_eq le]
    rfl

/-- A pool that is shut down while a sweep has two of its connections, the first of them to be
evicted unseen and the other dead, and while two callers are inside a checkout. -/
def outswept : World :=
  let config : Config := { Config.default with
    minConnections := 1, maxConnections := 3, maxIdleTime := 5, validationInterval := 100
    testOnBorrow := false, testOnReturn := false }
  (Trace.follow ⟨new, []⟩ [.call (.openPool config), .resume (.inPool 0 (.caller 0)),
    .call (.get 0), .call (.get 0), .resume (.inPool 0 (.caller 2)), .call (.release ⟨0, 1⟩),
    .call (.release ⟨0, 2⟩), .passTo 20, .call (.healthCheck 0), .call (.get 0), .call (.get 0),
    .instruct (.kill 2), .call (.shutdown 0)]).world

theorem never_below_zero_outswept :
    ∃ pool, outswept.pools[0]? = some pool ∧ pool.isShutdown = true ∧ pool.total = 3 ∧
      pool.validating = 2 ∧ pool.waiting = 2 ∧ outswept.NeverBelowZero pool := by
  have possible : Possible outswept := (Reachable.follow .new _).possible
  have found : outswept.pools[0]? = some (outswept.pools.head (by decide)) := by decide
  exact ⟨_, found, by decide, by decide, by decide, by decide,
    never_below_zero possible (List.mem_of_getElem? found)⟩

end World

end SessionPool
