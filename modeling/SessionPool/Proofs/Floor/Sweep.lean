import SessionPool.Proofs.Balance.Sweep
import SessionPool.Proofs.Floor.Turns

/-!
# What sweeps take away

A sweep counts how many connections the pool retains: as many as it had when the sweep began, less
those that the sweep has decided to evict. It evicts an unused connection only as long as this count
is above the floor. What the pool has gained or lost meanwhile does not enter into it.
-/

namespace SessionPool

namespace Pool

/-- A sweep began with `started` connections and has spared the floor, by its own count. -/
structure Sweep.Counts (sweep : Sweep) (floor started : Nat) : Prop where
  retained_eq : sweep.retained + sweep.evicted.length = started
  floor_le : sweep.evicted = [] ∨ floor ≤ sweep.retained
  evicted_eq : sweep.evictedDead + sweep.evictedIdle = sweep.evicted.length

/-- An agent in the middle of a sweep that counts well. -/
def Task.Counts (task : Task) (floor started : Nat) : Prop :=
  match task.phase with
  | .sweeping sweep _ _ => sweep.Counts floor started
  | _ => True

theorem Sweep.counts_start (checked floor total : Nat) :
    (Sweep.start checked total).Counts floor total :=
  ⟨rfl, .inl rfl, rfl⟩

namespace Sweep.Counts

variable {sweep : Sweep} {floor started : Nat}

theorem keep (counts : sweep.Counts floor started) (connection : Connection) :
    (sweep.keep connection).Counts floor started :=
  ⟨counts.retained_eq, counts.floor_le, counts.evicted_eq⟩

/-- A connection is evicted unseen only as long as the count is above the floor. -/
theorem evictIdle (counts : sweep.Counts floor started) (above : floor < sweep.retained)
    (connection : Connection) : (sweep.evictIdle connection).Counts floor started := by
  have retained := counts.retained_eq
  have evicted := counts.evicted_eq
  constructor
  · simp [Sweep.evictIdle]
    omega
  · exact .inr (Nat.le_sub_one_of_lt above)
  · simp [Sweep.evictIdle]
    omega

end Sweep.Counts

end Pool

/-- A turn of an agent that has seen the pool with `started` connections: it takes away only what a
sweep has evicted, and a sweep that evicts anything leaves the floor, by its own count. -/
structure Turn.IsTame (turn : Turn) (agent : Pool.Agent) (started : Nat) (before : Pool) :
    Prop where
  config_eq : turn.1.pool.config = before.config
  total_le : before.total ≤ turn.1.pool.total + (Pool.evictions turn.2).getD 0
  total_eq (evicts : 0 < (Pool.evictions turn.2).getD 0) :
    turn.1.pool.total + (Pool.evictions turn.2).getD 0 = before.total
  floor_le (evicts : 0 < (Pool.evictions turn.2).getD 0) :
    before.config.minConnections + (Pool.evictions turn.2).getD 0 ≤ started
  sweeps_mem (task : Pool.Task) (present : task ∈ turn.1.pool.sweeps) : task ∈ before.sweeps ∨
    task.agent = agent ∧ task.Counts before.config.minConnections started

/-- Only the size, the sweeps and the settings of the pool matter. -/
theorem Turn.IsTame.congr {turn : Turn} {agent : Pool.Agent} {started : Nat} {before other : Pool}
    (tame : turn.IsTame agent started before) (total : other.total = before.total)
    (sweeps : ∀ task ∈ before.sweeps, task ∈ other.sweeps)
    (config : other.config = before.config) : turn.IsTame agent started other := by
  constructor
  · rw [config]
    exact tame.config_eq
  · rw [total]
    exact tame.total_le
  · rw [total]
    exact tame.total_eq
  · rw [config]
    exact tame.floor_le
  · intro task present
    rw [config]
    exact (tame.sweeps_mem task present).imp_left (sweeps task)

/-- A turn that takes nothing away is tame, whoever works. -/
theorem Turn.IsMild.tame {turn : Turn} {before : Pool} (mild : turn.IsMild before)
    (agent : Pool.Agent) (started : Nat) : turn.IsTame agent started before := by
  have none := mild.evictions_eq
  constructor
  · exact mild.grows.config_eq
  · exact Nat.le_trans mild.grows.total_le (Nat.le_add_right _ _)
  · intro evicts
    rw [none] at evicts
    contradiction
  · intro evicts
    rw [none] at evicts
    contradiction
  · intro task present
    rw [mild.grows.sweeps_eq] at present
    exact .inl present

namespace Site

open Pool (Agent Sweep Report)

variable {site : Site} {agent : Agent} {sweep : Sweep} {started : Nat}

@[simp]
theorem total_disposeAll (connections : List Connection) :
    (site.disposeAll connections).pool.total = site.pool.total := by
  rw [Pool.pool_disposeAll]

@[simp]
theorem config_disposeAll (connections : List Connection) :
    (site.disposeAll connections).pool.config = site.pool.config := by
  rw [Pool.pool_disposeAll]

@[simp]
theorem sweeps_disposeAll (connections : List Connection) :
    (site.disposeAll connections).pool.sweeps = site.pool.sweeps := by
  rw [Pool.pool_disposeAll]
  rfl

/-- What an agent does after its sweep takes no more away. -/
theorem afterSweep_isTame {before : Pool} {report : Report}
    (config : site.pool.config = before.config) (sweeps : site.pool.sweeps = before.sweeps)
    (total : site.pool.total + (report.evictedDead + report.evictedIdle) = before.total)
    (floor : 0 < report.evictedDead + report.evictedIdle →
      before.config.minConnections + (report.evictedDead + report.evictedIdle) ≤ started) :
    (site.afterSweep agent report).IsTame agent started before := by
  have ends {after : Site} (same : site.pool.Grows after.pool)
      (unchanged : after.pool.total = site.pool.total) :
      Turn.IsTame (after.answer (.ok (.swept report))) agent started before := by
    have total : after.pool.total + (report.evictedDead + report.evictedIdle) = before.total := by
      rw [unchanged, total]
    constructor
    · exact same.config_eq.trans config
    · exact Nat.le_of_eq total.symm
    · exact fun _ => total
    · exact floor
    · intro task present
      have present : task ∈ after.pool.sweeps := present
      rw [same.sweeps_eq, sweeps] at present
      exact .inl present
  unfold afterSweep
  split
  · exact ends (.refl _) rfl
  · split
    · exact ends (.refl _) rfl
    · have rested : site.pool.Grows site.rest.pool :=
        ⟨Nat.le_refl _, Pool.sweeps_park rfl, rfl⟩
      exact ends rested rfl

/-- A sweep that is over takes away what it has evicted. -/
theorem commit_isTame (counts : sweep.Counts site.pool.config.minConnections started)
    (running : site.pool.isShutdown = false) (enough : sweep.evicted.length ≤ site.pool.total) :
    (site.commit agent sweep).IsTame agent started site.pool := by
  have evicted : sweep.report.evictedDead + sweep.report.evictedIdle = sweep.evicted.length :=
    counts.evicted_eq
  unfold commit
  simp only [running]
  apply afterSweep_isTame
  · exact (config_disposeAll _).trans (Pool.config_notifyMany _ _)
  · exact (sweeps_disposeAll _).trans (Pool.sweeps_notifyMany _ _)
  · have total : site.pool.total - sweep.evicted.length + sweep.evicted.length =
        site.pool.total := Nat.sub_add_cancel enough
    rw [evicted]
    simpa [withPool, Pool.count] using total
  · intro evicts
    rw [evicted] at evicts ⊢
    have retained := counts.retained_eq
    rcases counts.floor_le with none | floor
    · rw [none] at evicts
      contradiction
    · omega

/-- A sweep goes on or comes to its end. -/
theorem examine_isTame {pending : List Connection}
    (counts : sweep.Counts site.pool.config.minConnections started)
    (running : site.pool.isShutdown = false)
    (enough : sweep.evicted.length + pending.length ≤ site.pool.total) :
    (site.examine agent sweep pending).IsTame agent started site.pool := by
  induction pending generalizing sweep with
  | nil => exact commit_isTame counts running enough
  | cons connection pending ih =>
      unfold examine
      split
      case isTrue spare =>
        have above := of_decide_eq_true (Bool.and_eq_true_iff.mp spare).1
        apply ih (counts.evictIdle above connection)
        simp [Sweep.evictIdle] at enough ⊢
        omega
      case isFalse =>
        constructor
        · rfl
        · exact Nat.le_refl _
        · intro evicts
          contradiction
        · intro evicts
          contradiction
        · intro task present
          obtain ⟨member, sweeping⟩ := List.mem_filter.mp present
          rcases List.mem_append.mp member with before | new
          · exact .inl (List.mem_filter.mpr ⟨before, sweeping⟩)
          · obtain rfl := List.mem_singleton.mp new
            exact .inr ⟨rfl, counts⟩

/-- A sweep begins with as many connections as the pool has. -/
theorem sweep_isTame (running : site.pool.isShutdown = false)
    (enough : site.pool.idle.length ≤ site.pool.total) :
    (site.sweep agent).IsTame agent site.pool.total site.pool := by
  unfold sweep
  dsimp only
  rw [if_neg (by simp [running])]
  refine Turn.IsTame.congr (examine_isTame (Sweep.counts_start _ _ _) ?_ ?_) rfl
    (fun _ present => present) rfl
  · exact running
  · simpa [Sweep.start] using enough

theorem sweepProbed_isTame {connection : Connection} {pending : List Connection}
    (counts : sweep.Counts site.pool.config.minConnections started)
    (running : site.pool.isShutdown = false)
    (enough : sweep.evicted.length + pending.length ≤ site.pool.total)
    (alive : site.server.answers connection.session = true) :
    (site.sweepProbed agent sweep connection pending).IsTame agent started site.pool := by
  unfold sweepProbed
  rw [if_pos alive]
  exact examine_isTame (counts.keep connection) running enough

theorem wake_isTame (running : site.pool.isShutdown = false)
    (enough : site.pool.idle.length ≤ site.pool.total) :
    site.wake.IsTame .checker site.pool.total site.pool := by
  unfold wake
  split
  · exact Turn.IsMild.tame ⟨.refl _, rfl⟩ _ _
  · exact sweep_isTame running enough

end Site

end SessionPool
