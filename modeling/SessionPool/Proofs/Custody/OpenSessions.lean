import SessionPool.Proofs.Custody.Ledger

/-!
# Pools and server agree on what is open

Every session that the server has opened is in one place, or has been disconnected. So what is open
on the server is what the pools and the owners of sessions hold, without what owners have
disconnected themselves, and since a pool has no more connections than it may have, it keeps no more
sessions open.
-/

namespace SessionPool

namespace Pool

/-! ### What a pool keeps -/

/-- What agents have with them is being probed for a caller or on its way back, or drained. -/
theorem Task.length_connections (tasks : List Task) :
    (tasks.flatMap Task.connections).length =
      (tasks.flatMap Task.lentIds).length + (tasks.map (·.drained.length)).sum := by
  induction tasks with
  | nil => rfl
  | cons task rest ih =>
      have here : task.connections.length = task.lentIds.length + task.drained.length := by
        obtain ⟨agent, phase, due⟩ := task
        cases phase with
        | sweeping sweep current pending => exact (Nat.zero_add _).symm
        | _ => rfl
      simp only [List.flatMap_cons, List.length_append, List.map_cons, List.sum_cons, ih, here]
      omega

/-- What is lent is active, even in a pool that its owner has let go of. -/
theorem Sound.lent_subperm {callers : Nat} {pool : Pool} (sound : Sound callers pool) :
    (pool.leases.map (·.connection.id) ++ pool.tasks.flatMap Task.lentIds).Subperm pool.active := by
  rcases sound with filling | balanced
  · obtain ⟨number, made, metadata, attempt, due, alone, _, _, unknown⟩ := filling
    rw [unknown.leases_eq, alone]
    exact List.nil_subperm
  · apply List.subperm_ext_iff.mpr
    intro id _
    have lent := balanced.books.lent_le id
    rw [add_zero, Task.lent_holdings] at lent
    rw [List.count_append]
    exact lent

/-- A pool has room for all its connections. -/
theorem Sound.length_connections_le {callers : Nat} {pool : Pool} (sound : Sound callers pool) :
    pool.connections.length ≤ pool.config.maxConnections := by
  have lent := sound.lent_subperm.length_le
  obtain ⟨total, capacity, validating, _⟩ := sound.accounted
  rw [List.length_append, List.length_map] at lent
  simp only [connections, List.length_append, List.length_map, Task.length_connections]
  omega

end Pool

namespace World

/-- The names of all sessions that a pool has, wherever it has them, or that belong to none. -/
def heldIds (world : World) : List Nat :=
  world.pools.flatMap (fun pool => pool.connections.map (·.name)) ++ world.outsideIds

namespace History

variable {history : History}

/-- Pools, owners and the server agree on what is open. -/
structure Reconciled (history : History) : Prop where
  /-- No session is in two places, be they in pools or outside. -/
  nodup : history.world.heldIds.Nodup
  /-- What is held somewhere is open, unless an owner has disconnected it, and nothing else is. -/
  openIds_perm : history.world.server.openIds.Perm
    (history.world.heldIds.filter fun id => !history.closed.contains id)
  /-- What is open belongs to a pool or to an owner. -/
  unleaked (id : Nat) (isOpen : id ∈ history.world.server.openIds) :
    id ∈ history.world.outsideIds ∨
      ∃ pool ∈ history.world.pools, ∃ connection ∈ pool.connections, connection.name = id
  /-- No pool keeps more open than it may. -/
  capacity (pool : Pool) (member : pool ∈ history.world.pools) :
    pool.connections.countP (history.world.server.openIds.contains ·.name) ≤
      pool.config.maxConnections

theorem count_heldIds (world : World) (id : Nat) : world.heldIds.count id =
    (world.pools.map (·.places id)).sum + world.outsideIds.count id := by
  rw [heldIds, List.count_append, List.count_flatMap]
  rfl

/-- Where every session is in its place and everything is in the ledger, all agree. -/
theorem Settled.reconciled (settled : history.Settled) {bound : Nat}
    (kept : history.world.InCustody (ledger bound history.closed)) : history.Reconciled := by
  obtain ⟨_, honest, _⟩ := kept.server
  have placed (id : Nat) := settled.places_eq id
  have closed (id : Nat) := settled.closed_le id
  simp only [places, ← count_heldIds, Server.places] at placed
  -- The places that have an opened session and the disconnects of it are together one more than
  -- the disconnects by its owners. So one place may have it, and none once a pool has disconnected
  -- it.
  have nodup : history.world.heldIds.Nodup := by
    apply List.nodup_iff_count_le_one.mpr
    intro id
    have placed := placed id
    have closed := closed id
    split at placed <;> split at placed <;> omega
  have same (id : Nat) : id ∈ history.world.server.openIds ↔
      id ∈ history.world.heldIds.filter fun id => !history.closed.contains id := by
    have placed := placed id
    have closed := closed id
    have unclosed : (!history.closed.contains id) = true ↔ history.closed.count id = 0 := by
      simp [List.count_eq_zero]
    rw [honest.mem_iff, List.mem_filter, unclosed, ← List.count_pos_iff]
    constructor
    · rintro ⟨positive, opened, never⟩
      rw [if_neg (Nat.not_lt_of_le opened), if_neg (Nat.ne_of_gt positive)] at placed
      omega
    · rintro ⟨held, unclosed⟩
      split at placed <;> split at placed <;> omega
  constructor
  case nodup => exact nodup
  case openIds_perm =>
    exact (List.perm_ext_iff_of_nodup honest.nodup (nodup.filter _)).mpr same
  case unleaked =>
    intro id isOpen
    have held := (List.mem_filter.mp ((same id).mp isOpen)).1
    rcases List.mem_append.mp held with inside | outside
    · obtain ⟨pool, member, named⟩ := List.mem_flatMap.mp inside
      obtain ⟨connection, present, name⟩ := List.mem_map.mp named
      exact .inr ⟨pool, member, connection, present, name⟩
    · exact .inl outside
  case capacity =>
    intro pool member
    exact Nat.le_trans List.countP_le_length
      (settled.possible.sound pool member).length_connections_le

/-- Whatever callers do and whoever goes on next, pools and server agree on what is open. -/
theorem reconciled_run (moves : List Move) : (run moves).Reconciled := by
  obtain ⟨bound, kept⟩ := exists_ledger moves
  exact (settled_new.follow moves).reconciled kept

/-- One of two sessions of a pool is disconnected by the caller who has it, and a third one is open
outside of the pool. -/
example :
    let config : Config := { Config.default with minConnections := 2, maxConnections := 2 }
    let history := run [.act (.call (.openPool config)), .act (.resume (.inPool 0 (.caller 0))),
      .act (.resume (.inPool 0 (.caller 0))), .act (.call (.get 0)),
      .act (.resume (.inPool 0 (.caller 1))), .act (.call .connect),
      .act (.resume (.errand 2)), .act (.call (.disconnect (.lease ⟨0, 1⟩)))]
    history.world.heldIds = [2, 1, 3] ∧ history.closed = [1] ∧
      history.world.server.openIds = [3, 2] := by
  decide

end History

end World

end SessionPool
