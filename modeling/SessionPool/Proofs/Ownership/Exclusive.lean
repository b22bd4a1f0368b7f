import Mathlib.Data.List.Nodup
import SessionPool.Proofs.Disposal.Once
import SessionPool.Proofs.Ownership.Register

/-!
# Exclusive ownership

Every session is in one place, and every connection has a number that no other has in its pool. So
a pool always knows what it has lent: whatever comes back is among its active connections, and
whatever is kept by its holder frees the slot that it had.
-/

namespace SessionPool

namespace Pool

/-! ### Sound pools -/

/-- As long as returned connections find the pool, what is active is what is lent, being probed for
a caller, or on its way back, whether the pool is open yet or not. -/
theorem Sound.active_perm {callers : Nat} {pool : Pool} (sound : Sound callers pool)
    (present : pool.isPresent = true) :
    pool.active.Perm (pool.leases.map (·.connection.id) ++ pool.tasks.flatMap Task.lentIds) := by
  rcases sound with filling | balanced
  · obtain ⟨number, made, metadata, attempt, due, alone, _, _, unknown⟩ := filling
    rw [unknown.active_eq, unknown.leases_eq, alone]
    exact .refl _
  · exact balanced.active_perm present

/-- A connection that has been lent is active. -/
theorem Sound.mem_active_of_lease {callers : Nat} {pool : Pool} (sound : Sound callers pool)
    (present : pool.isPresent = true) {lease : Lease} (valid : lease ∈ pool.leases) :
    lease.connection.id ∈ pool.active := by
  apply (sound.active_perm present).mem_iff.mpr
  exact List.mem_append_left _ (List.mem_map_of_mem valid)

/-- A connection that is being probed on its way back is active. -/
theorem Sound.mem_active_of_returnProbe {callers : Nat} {pool : Pool} (sound : Sound callers pool)
    (present : pool.isPresent = true) {task : Task} (waits : task ∈ pool.tasks)
    {connection : Connection} (phase : task.phase = .returnProbe connection) :
    connection.id ∈ pool.active := by
  apply (sound.active_perm present).mem_iff.mpr
  apply List.mem_append_right
  apply List.mem_flatMap.mpr
  refine ⟨task, waits, ?_⟩
  rw [Task.lentIds, phase]
  exact List.mem_singleton_self _

/-- Only an open pool has lent something. -/
theorem Sound.balanced_of_lease {callers : Nat} {pool : Pool} (sound : Sound callers pool)
    {ticket : Nat} {lease : Lease} (good : pool.lease? ticket = some lease) :
    Balanced callers pool 0 := by
  rcases sound with filling | balanced
  · rw [filling.lease?_eq ticket] at good
    cases good
  · exact balanced

/-- What an agent has lent in hand is among its connections. -/
theorem Task.lentIds_sublist (tasks : List Task) :
    (tasks.flatMap lentIds).Sublist ((tasks.flatMap Task.connections).map (·.id)) := by
  induction tasks with
  | nil => exact .refl _
  | cons task rest ih =>
      obtain ⟨agent, phase, due⟩ := task
      rw [List.flatMap_cons, List.flatMap_cons, List.map_append]
      apply List.Sublist.append _ ih
      cases phase with
      | borrowProbe checkout connection => exact .refl _
      | returnProbe connection => exact .refl _
      | _ => exact List.nil_sublist _

/-- If no two connections have the same number, nothing that is idle is active. -/
theorem disjoint_of_nodup {pool : Pool} (distinct : (pool.connections.map (·.id)).Nodup)
    (perm : pool.active.Perm
      (pool.leases.map (·.connection.id) ++ pool.tasks.flatMap Task.lentIds)) :
    pool.active.Nodup ∧ pool.active.Disjoint (pool.idle.map (·.id)) := by
  have parts : pool.connections.map (·.id) = pool.idle.map (·.id) ++
      (pool.leases.map (·.connection.id) ++
        (pool.tasks.flatMap Task.connections).map (·.id)) := by
    simp [connections, List.append_assoc]
  rw [parts] at distinct
  obtain ⟨_, others, apart⟩ := List.nodup_append'.mp distinct
  have sublist : (pool.leases.map (·.connection.id) ++ pool.tasks.flatMap Task.lentIds).Sublist
      (pool.leases.map (·.connection.id) ++ (pool.tasks.flatMap Task.connections).map (·.id)) :=
    (List.Sublist.refl _).append (Task.lentIds_sublist pool.tasks)
  constructor
  · exact perm.nodup_iff.mpr (others.sublist sublist)
  · intro number active idle
    exact apart idle (sublist.subset (perm.mem_iff.mp active))

/-! ### Detaching -/

/-- Whoever keeps the session of a lease frees its slot. -/
theorem Balanced.total_detach {callers : Nat} {site : Site}
    (balanced : Balanced callers site.pool 0) (present : site.pool.isPresent = true)
    {ticket : Nat} {lease : Lease} (good : site.pool.lease? ticket = some lease) :
    (site.detach ticket).1.pool.total + 1 = site.pool.total := by
  have active : lease.connection.id ∈ site.pool.active :=
    Sound.mem_active_of_lease (.inr balanced) present (List.mem_of_find?_eq_some good)
  have some := List.length_pos_of_mem active
  have total := balanced.books.total_eq
  have frees : ((site.pool.endLease ticket).isPresent &&
      (site.pool.endLease ticket).active.contains lease.connection.id) = true := by
    apply Bool.and_eq_true_iff.mpr
    exact ⟨present, List.contains_iff_mem.mpr active⟩
  rw [Site.detach, good]
  dsimp only
  rw [if_pos frees]
  change site.pool.total - 1 + 1 = site.pool.total
  omega

end Pool

namespace World

/-! ### Every session is in one place -/

/-- Every possible world comes from a run in which every session is in its place. -/
theorem Possible.exists_settled {world : World} (possible : Possible world) :
    ∃ history : History, history.Settled ∧ history.world = world := by
  induction possible with
  | new => exact ⟨.new, History.settled_new, rfl⟩
  | move _ move ih =>
      obtain ⟨history, settled, rfl⟩ := ih
      refine ⟨history.move move, settled.move move, ?_⟩
      cases move <;> rfl

/-- No session is in two places, in whichever pools they are or outside of all of them. -/
theorem Possible.places_le_one {world : World} (possible : Possible world) (id : Nat) :
    (world.pools.map (·.places id)).sum + world.outsideIds.count id ≤ 1 := by
  obtain ⟨history, settled, rfl⟩ := possible.exists_settled
  have once := settled.places_add_disposals_le id
  omega

/-- No two connections of a pool have the same session. -/
theorem Possible.nodup_names {world : World} (possible : Possible world) {pool : Pool}
    (member : pool ∈ world.pools) : (pool.connections.map (·.name)).Nodup := by
  rw [List.nodup_iff_count_le_one]
  intro name
  have once := possible.places_le_one name
  have here := List.le_sum_of_mem (List.mem_map_of_mem (f := (·.places name)) member)
  rw [Pool.places] at here
  omega

namespace Register

/-! ### Every connection has its own number -/

/-- Who owns what after a run. -/
structure Exclusive (register : Register) : Prop where
  /-- No number of a pool has been joined to a second session. -/
  once : (register.joined.map fun entry => (entry.1, entry.2.1)).Nodup
  /-- Every connection has the number that has been joined to its session. -/
  joined (index : Nat) (pool : Pool) (found : register.world.pools[index]? = some pool)
    (connection : Connection) (member : connection ∈ pool.connections) :
    (index, connection.id, connection.name) ∈ register.joined
  /-- No two connections of a pool have the same number, wherever in the pool they are. -/
  distinct (pool : Pool) (member : pool ∈ register.world.pools) :
    (pool.connections.map (·.id)).Nodup
  /-- What is active is what is lent, being probed for a caller, or on its way back. -/
  active (pool : Pool) (member : pool ∈ register.world.pools) (present : pool.isPresent = true) :
    pool.active.Nodup ∧ pool.active.Perm
      (pool.leases.map (·.connection.id) ++ pool.tasks.flatMap Pool.Task.lentIds)
  /-- Nothing that is idle is active. -/
  idle (pool : Pool) (member : pool ∈ register.world.pools) (present : pool.isPresent = true) :
    pool.active.Disjoint (pool.idle.map (·.id))
  /-- Each session is in one place at most, over all pools and outside of them. -/
  sessions (id : Nat) :
    (register.world.pools.map (·.places id)).sum + register.world.outsideIds.count id ≤ 1
  /-- A lease that comes back is active, and so is a connection that is being probed on its way. -/
  tracked (pool : Pool) (member : pool ∈ register.world.pools) (present : pool.isPresent = true) :
    (∀ lease ∈ pool.leases, pool.active.contains lease.connection.id = true) ∧
      ∀ task ∈ pool.tasks, ∀ connection, task.phase = .returnProbe connection →
        pool.active.contains connection.id = true
  /-- A session that is detached frees one slot. -/
  detaches (handle : Handle) (pool : Pool) (lease : Lease)
    (accepted : register.world.accepts (.detach handle) = true)
    (found : register.world.pools[handle.pool]? = some pool) (present : pool.isPresent = true)
    (good : pool.lease? handle.ticket = some lease) :
    ∃ after, (register.world.call (.detach handle)).1.pools[handle.pool]? = some after ∧
      after.total + 1 = pool.total

namespace Kept

variable {register : Register} (kept : register.Kept)

include kept

/-- A number tells the session of a connection. -/
theorem name_eq_of_id_eq {index : Nat} {pool : Pool}
    (found : register.world.pools[index]? = some pool) {first second : Connection}
    (firstIn : first ∈ pool.connections) (secondIn : second ∈ pool.connections)
    (same : first.id = second.id) : first.name = second.name := by
  have known := (kept.numbered index pool found).known
  have keys : (index, first.id) = (index, second.id) := by rw [same]
  have entries := List.inj_on_of_nodup_map kept.once (Pool.known_of_mem known firstIn)
    (Pool.known_of_mem known secondIn) keys
  exact congrArg (·.2.2) entries

theorem nodup_ids {index : Nat} {pool : Pool}
    (found : register.world.pools[index]? = some pool) :
    (pool.connections.map (·.id)).Nodup := by
  have names := kept.possible.nodup_names (List.mem_of_getElem? found)
  rw [List.Nodup, List.pairwise_map] at names ⊢
  apply names.imp_of_mem
  intro first second firstIn secondIn different same
  exact different (kept.name_eq_of_id_eq found firstIn secondIn same)

theorem exclusive : register.Exclusive where
  once := kept.once
  joined index pool found connection member :=
    Pool.known_of_mem (kept.numbered index pool found).known member
  distinct pool member := by
    obtain ⟨index, found⟩ := List.mem_iff_getElem?.mp member
    exact kept.nodup_ids found
  active pool member present := by
    obtain ⟨index, found⟩ := List.mem_iff_getElem?.mp member
    have perm := (kept.possible.sound pool member).active_perm present
    exact ⟨(Pool.disjoint_of_nodup (kept.nodup_ids found) perm).1, perm⟩
  idle pool member present := by
    obtain ⟨index, found⟩ := List.mem_iff_getElem?.mp member
    have perm := (kept.possible.sound pool member).active_perm present
    exact (Pool.disjoint_of_nodup (kept.nodup_ids found) perm).2
  sessions := kept.possible.places_le_one
  tracked pool member present := by
    have sound := kept.possible.sound pool member
    constructor
    · intro lease valid
      exact List.contains_iff_mem.mpr (sound.mem_active_of_lease present valid)
    · intro task waits connection phase
      exact List.contains_iff_mem.mpr (sound.mem_active_of_returnProbe present waits phase)
  detaches handle pool lease accepted found present good := by
    have sound := kept.possible.sound pool (List.mem_of_getElem? found)
    have balanced : Pool.Balanced register.world.callers (register.world.site pool).pool 0 :=
      sound.balanced_of_lease good
    have asks : Request.asks? register.world (.detach handle) =
        some (handle.pool, .detach handle.ticket) := rfl
    exact ⟨_, (call_turn accepted asks found).1, balanced.total_detach present good⟩

end Kept

/-- Ownership is exclusive, whatever callers do and whoever goes on next. -/
theorem exclusive_run (moves : List Move) : (run moves).Exclusive := (kept_run moves).exclusive

/-- A connect that fails uses up a number, and a session that is detached from one pool and given to
another gets a number of that pool. -/
example :
    let empty := Config.default.set (.minConnections 0)
    let register := run [.act (.call (.openPool empty)), .act (.call (.openPool empty)),
      .act (.instruct (.failNext 1)), .act (.call (.get 0)),
      .act (.resume (.inPool 0 (.caller 2))), .act (.call (.get 0)),
      .act (.resume (.inPool 0 (.caller 3))), .act (.call (.detach ⟨0, 3⟩)),
      .act (.call (.adopt 1 1))]
    register.joined = [(1, 1, 1), (0, 2, 1)] ∧
      register.world.pools.map (·.total) = [0, 1] := by
  decide

end Register

end World

end SessionPool
