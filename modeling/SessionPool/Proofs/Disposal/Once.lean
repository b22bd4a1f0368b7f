import SessionPool.Proofs.Accounting
import SessionPool.Proofs.Disposal.Run

/-!
# Every session is disconnected once

A session that the pools have disconnected is in no pool any more, so nothing can disconnect it
again. A pool that is over has nothing left, so whatever it has taken has been disconnected.
-/

namespace SessionPool

namespace Pool

/-- A pool that has been shut down or let go of, in which nobody works and of which nobody holds a
connection. -/
structure IsOver (pool : Pool) : Prop where
  ended : pool.isShutdown = true ∨ pool.dropped = true
  resting : ∀ task ∈ pool.tasks, task.phase = .resting
  leases_eq : pool.leases = []

/-- A pool that is over has no connection. -/
theorem IsOver.connections_eq {pool : Pool} {callers : Nat} (isOver : pool.IsOver)
    (sound : Sound callers pool) : pool.connections = [] := by
  rcases sound with filling | balanced
  · obtain ⟨number, made, metadata, attempt, due, alone, _⟩ := filling
    have resting := isOver.resting ⟨.caller number, .prewarming made metadata attempt, due⟩
      (alone ▸ List.mem_singleton_self _)
    contradiction
  · have books := balanced.books
    rw [add_zero] at books
    have bare : ∀ task ∈ pool.tasks, task.connections = [] := by
      intro task member
      simp only [Task.connections, isOver.resting task member]
    have joined : (Task.holdings pool.tasks).closings = 0 := by
      rw [Task.closings_holdings, List.countP_eq_zero]
      intro task member joining
      rw [Task.isJoining, isOver.resting task member] at joining
      contradiction
    have shutdown : pool.isShutdown = true := by
      rcases isOver.ended with shutdown | dropped
      · exact shutdown
      · exact books.shutdown (.inr dropped)
    have idle : pool.idle = [] := by
      rcases books.idle_eq shutdown with idle | closing
      · exact idle
      · omega
    rw [connections, idle, isOver.leases_eq, List.flatMap_eq_nil_iff.mpr bare]
    rfl

end Pool

namespace World.History

/-- The pools disconnect each session at most once, none that is lent, idle or detached, and in the
end every one that they had. -/
structure Disposal (history : History) : Prop where
  /-- Whoever disconnects a session, it is an owner or a pool. -/
  counted (id : Nat) : history.world.server.disconnectCount id =
    history.disposals id + history.closed.count id
  once (id : Nat) : history.disposals id ≤ 1
  lent (pool : Pool) (member : pool ∈ history.world.pools) (lease : Lease)
    (valid : lease ∈ pool.leases) : history.disposals lease.connection.name = 0
  idle (pool : Pool) (member : pool ∈ history.world.pools) (connection : Connection)
    (queued : connection ∈ pool.idle) : history.disposals connection.name = 0
  detached (id : Nat) (handedOut : id ∈ history.detached) : history.disposals id = 0
  /-- What a pool that is over has connected or been given, and not handed out, is disconnected. -/
  complete (index : Nat) (pool : Pool) (found : history.world.pools[index]? = some pool)
    (isOver : pool.IsOver) (id : Nat) (taken : (index, id) ∈ history.taken) :
    history.disposals id = 1 ∧
      (id ∉ history.closed → history.world.server.disconnectCount id = 1)

namespace Settled

variable {history : History}

/-- The places of a session, with each disconnect by a pool as one of them. -/
theorem places_add_disposals_le (settled : history.Settled) (id : Nat) :
    (history.world.pools.map (·.places id)).sum + history.world.outsideIds.count id +
      history.disposals id ≤ 1 := by
  have once := settled.places_eq id
  have closed := settled.closed_le id
  simp only [places, Server.places] at once
  unfold disposals
  split at once <;> split at once <;> omega

/-- A session that a pool has is not disconnected by any. -/
theorem disposals_eq_zero (settled : history.Settled) {pool : Pool}
    (member : pool ∈ history.world.pools) {connection : Connection}
    (present : connection ∈ pool.connections) : history.disposals connection.name = 0 := by
  have once := settled.places_add_disposals_le connection.name
  have here : 0 < pool.places connection.name :=
    List.count_pos_iff.mpr (List.mem_map_of_mem present)
  have some := List.le_sum_of_mem (List.mem_map_of_mem (f := (·.places connection.name)) member)
  omega

/-- Where every session is in its place, each is disconnected as it should be. -/
theorem disposal (settled : history.Settled) : history.Disposal where
  counted id := by
    have closed := settled.closed_le id
    unfold disposals
    omega
  once id := by
    have once := settled.places_add_disposals_le id
    omega
  lent pool member lease valid := by
    apply settled.disposals_eq_zero member
    exact List.mem_append_left _ (List.mem_append_right _ (List.mem_map_of_mem valid))
  idle pool member connection queued := by
    apply settled.disposals_eq_zero member
    exact List.mem_append_left _ (List.mem_append_left _ queued)
  detached id handedOut := by
    have once := settled.places_add_disposals_le id
    have held := List.count_pos_iff.mpr (settled.detached_mem id handedOut)
    omega
  complete index pool found isOver id taken := by
    have sound := settled.possible.sound pool (List.mem_of_getElem? found)
    have gone : history.world.placesIn index id = 0 := by
      simp only [placesIn, found, Pool.places, isOver.connections_eq sound]
      rfl
    have le := settled.taken_le _ taken
    have once := settled.places_add_disposals_le id
    have disposed : history.disposals id = 1 := by
      simp only [gone] at le
      unfold disposals at once ⊢
      omega
    refine ⟨disposed, fun unclosed => ?_⟩
    have unclosed := List.count_eq_zero.mpr unclosed
    unfold disposals at disposed
    omega

end Settled

/-- Whatever callers do and whoever goes on next, the pools disconnect each session at most once,
none that is lent, idle or detached, and in the end every one that they had. -/
theorem disposal_run (moves : List Move) : (run moves).Disposal :=
  (settled_new.follow moves).disposal

/-- The owner lets go of a pool of which a connection is still lent. It is disconnected when it
comes back. -/
example :
    let filling := Config.default.set (.minConnections 1)
    let history := run [.act (.call (.openPool filling)), .act (.resume (.inPool 0 (.caller 0))),
      .act (.call (.get 0)), .act (.resume (.inPool 0 (.caller 1))),
      .act (.call (.dropPool 0)), .act (.resume (.inPool 0 .checker)),
      .act (.resume (.inPool 0 (.caller 2))), .act (.call (.release ⟨0, 1⟩))]
    history.taken = [(0, 1)] ∧ history.disposals 1 = 1 ∧
      history.world.pools.map (·.dropped) = [true] ∧
      history.world.pools.map (·.tasks) = [[]] ∧ history.world.pools.map (·.leases) = [[]] := by
  decide

end World.History

end SessionPool
