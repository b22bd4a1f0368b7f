import SessionPool.Proofs.Floor.Watch

/-!
# Calm runs

In a calm run, whatever a watch has noted adds up: the size of the pool is what it was when an agent
began to sweep, with what has been gained and without what has been lost since. So one can tell from
the notes of a sweep that is over whether the pool has its floor.
-/

namespace SessionPool.World

open Pool (Agent Balanced)

/-- The notes for an agent agree with the size of the pool now. -/
def Span.Agrees (span : Span) (total : Nat) : Prop :=
  total + span.lost = span.started + span.gained

theorem Span.Agrees.note {span : Span} {before : Nat} (agrees : span.Agrees before) (after : Nat) :
    (span.note before after).Agrees after := by
  simp only [Agrees, Span.note] at agrees ⊢
  omega

/-- Whether a sweep that is over has left the floor to the pool. -/
def Ended.Covered (floor : Nat) (sweep : Ended) : Prop :=
  floor + sweep.evicted + sweep.span.lost ≤ sweep.span.started + sweep.span.gained

/-- A sweep that is over has left the floor if and only if the pool has it now. -/
theorem Span.Agrees.covered_iff {span : Span} {before after evicted floor : Nat}
    (agrees : span.Agrees before) (total : after + evicted = before) :
    floor ≤ after ↔ Ended.Covered floor ⟨span, evicted⟩ := by
  simp only [Agrees, Ended.Covered] at agrees ⊢
  omega

namespace Watch

theorem spans_move (watch : Watch) (index : Nat) (move : Move) (agent : Agent) :
    (watch.move index move).spans agent = (watch.span index move agent).note
      (watch.world.total index) ((watch.world.move move).total index) := rfl

/-- What is true of a watch in a calm run. -/
structure Steady (index floor : Nat) (pool : Pool) (watch : Watch) : Prop where
  found : watch.world.pools[index]? = some pool
  balanced : Balanced watch.world.callers pool 0
  running : pool.isShutdown = false
  floor_eq : pool.config.minConnections = floor
  /-- A sweep under way counts well, and the notes for its agent agree with the size of the pool. -/
  sweeps (task : Pool.Task) (present : task ∈ pool.sweeps) :
    task.Counts floor (watch.spans task.agent).started ∧
      (watch.spans task.agent).Agrees pool.total
  lowest_le : watch.lowest ≤ pool.total
  spared (sweep : Ended) (finished : sweep ∈ watch.ended) (evicts : 0 < sweep.evicted) :
    floor + sweep.evicted ≤ sweep.span.started
  floor_le_iff : floor ≤ watch.lowest ↔
    ∀ sweep ∈ watch.ended, 0 < sweep.evicted → sweep.Covered floor

namespace Steady

variable {index floor : Nat} {pool after : Pool} {watch : Watch} {move : Move}

theorem total_eq (steady : Steady index floor pool watch) :
    watch.world.total index = pool.total := by
  rw [total, steady.found]

/-- An agent in the middle of a sweep does not begin anew. -/
theorem span_eq (steady : Steady index floor pool watch) {task : Pool.Task}
    (present : task ∈ pool.sweeps) : watch.span index move task.agent = watch.spans task.agent := by
  obtain ⟨member, sweeping⟩ := List.mem_filter.mp present
  have busy : watch.world.isSweeping index task.agent = true := by
    rw [isSweeping, steady.found]
    dsimp only
    rw [Pool.isSweeping, steady.balanced.task?_eq member]
    exact sweeping
  rw [span, if_neg]
  rintro ⟨_, idle⟩
  rw [busy] at idle
  contradiction

/-- For an agent in the middle of a sweep, every move adds to its notes. -/
theorem spans_of_mem (steady : Steady index floor pool watch) (move : Move) {task : Pool.Task}
    (present : task ∈ pool.sweeps) : (watch.move index move).spans task.agent =
      (watch.spans task.agent).note pool.total ((watch.world.move move).total index) := by
  rw [spans_move, steady.span_eq present, steady.total_eq]

/-- The notes for the agent that works in a move agree with the size of the pool. -/
theorem span_agrees (steady : Steady index floor pool watch) {agent : Agent}
    (thread : move.thread? watch.world = some (.inPool index agent)) :
    (watch.span index move agent).Agrees pool.total := by
  cases busy : watch.world.isSweeping index agent with
  | false =>
      rw [span, if_pos ⟨thread, busy⟩, steady.total_eq]
      rfl
  | true =>
      have sweeping : pool.isSweeping agent = true := by
        rw [isSweeping, steady.found] at busy
        exact busy
      obtain ⟨task, present, rfl, _⟩ := Pool.exists_of_isSweeping sweeping
      rw [steady.span_eq present]
      exact (steady.sweeps task present).2

/-- A move in which nobody sweeps, and that leaves the size of the pool as it is, leaves the watch
as it should be. -/
theorem rest (steady : Steady index floor pool watch)
    (found : (watch.world.move move).pools[index]? = some after)
    (balanced : Balanced (watch.world.move move).callers after 0)
    (rests : pool.Rests after) (unswept : swept? index (move.event? watch.world) = none) :
    Steady index floor after (watch.move index move) := by
  have totalAfter : (watch.world.move move).total index = after.total := by
    rw [World.total, found]
  have lowest : (watch.move index move).lowest = watch.lowest := by
    rw [Watch.move, totalAfter, rests.total_eq]
    exact Nat.min_eq_left steady.lowest_le
  have ended : (watch.move index move).ended = watch.ended := by
    rw [Watch.move, unswept]
    rfl
  constructor
  · exact found
  · exact balanced
  · rw [rests.shutdown_eq, steady.running]
  · rw [rests.config_eq, steady.floor_eq]
  · intro task present
    have before := rests.sweeps_mem task present
    obtain ⟨counts, agrees⟩ := steady.sweeps task before
    rw [steady.spans_of_mem move before, totalAfter]
    exact ⟨counts, agrees.note after.total⟩
  · rw [lowest, rests.total_eq]
    exact steady.lowest_le
  · rw [ended]
    exact steady.spared
  · rw [lowest, ended]
    exact steady.floor_le_iff

/-- A tame turn of an agent leaves the watch as it should be. -/
theorem turn (steady : Steady index floor pool watch) {agent : Agent} {turn : Turn}
    (found : (watch.world.move move).pools[index]? = some turn.1.pool)
    (balanced : Balanced (watch.world.move move).callers turn.1.pool 0)
    (running : turn.1.pool.isShutdown = false)
    (thread : move.thread? watch.world = some (.inPool index agent))
    (event : swept? index (move.event? watch.world) = (Pool.evictions turn.2).map (agent, ·))
    (tame : turn.IsTame agent (watch.span index move agent).started pool) :
    Steady index floor turn.1.pool (watch.move index move) := by
  have totalAfter : (watch.world.move move).total index = turn.1.pool.total := by
    rw [World.total, found]
  have lowest : (watch.move index move).lowest = min watch.lowest turn.1.pool.total := by
    rw [Watch.move, totalAfter]
  have ended : (watch.move index move).ended = ((Pool.evictions turn.2).map fun evicted =>
      ⟨watch.span index move agent, evicted⟩).toList ++ watch.ended := by
    rw [Watch.move, event, Option.map_map]
    rfl
  have agrees : (watch.span index move agent).Agrees pool.total := steady.span_agrees thread
  constructor
  · exact found
  · exact balanced
  · exact running
  · rw [tame.config_eq, steady.floor_eq]
  · intro task present
    rcases tame.sweeps_mem task present with before | ⟨rfl, counts⟩
    · obtain ⟨counts, agrees⟩ := steady.sweeps task before
      rw [steady.spans_of_mem move before, totalAfter]
      exact ⟨counts, agrees.note turn.1.pool.total⟩
    · rw [steady.floor_eq] at counts
      rw [spans_move, steady.total_eq, totalAfter]
      exact ⟨counts, agrees.note turn.1.pool.total⟩
  · rw [lowest]
    exact Nat.min_le_right _ _
  · intro sweep finished evicts
    rw [ended] at finished
    cases evictions : Pool.evictions turn.2 with
    | none =>
        rw [evictions] at finished
        exact steady.spared sweep finished evicts
    | some evicted =>
        have spared := tame.floor_le
        rw [evictions] at finished spared
        rcases List.mem_cons.mp finished with rfl | earlier
        · rw [← steady.floor_eq]
          exact spared evicts
        · exact steady.spared sweep earlier evicts
  · rw [lowest, ended, Nat.le_min, steady.floor_le_iff]
    have keeps (covered : ∀ sweep ∈ watch.ended, 0 < sweep.evicted → sweep.Covered floor)
        (none : (Pool.evictions turn.2).getD 0 = 0) : floor ≤ turn.1.pool.total := by
      have total_le := tame.total_le
      rw [none] at total_le
      exact Nat.le_trans (steady.floor_le_iff.mpr covered)
        (Nat.le_trans steady.lowest_le total_le)
    have total_eq := tame.total_eq
    cases evictions : Pool.evictions turn.2 with
    | none =>
        rw [evictions] at keeps
        constructor
        · exact fun both => both.1
        · exact fun earlier => ⟨earlier, keeps earlier rfl⟩
    | some evicted =>
        rw [evictions] at keeps total_eq
        apply Iff.trans _ List.forall_mem_cons.symm
        constructor
        · rintro ⟨earlier, floor_le⟩
          exact ⟨fun evicts => (agrees.covered_iff (total_eq evicts)).mp floor_le, earlier⟩
        · rintro ⟨covered, earlier⟩
          rcases Nat.eq_zero_or_pos evicted with none | evicts
          · exact ⟨earlier, keeps earlier none⟩
          · exact ⟨earlier, (agrees.covered_iff (total_eq evicts)).mpr (covered evicts)⟩

end Steady

end Watch

end SessionPool.World
