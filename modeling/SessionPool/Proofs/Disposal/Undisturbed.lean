import SessionPool.Proofs.Ownership.Exclusive

/-!
# What nobody else disconnects

A session that is idle, or with an agent that waits, is in no other place. So nobody has it in hand
who could disconnect it past the pool, and as long as it stays in some pool nobody disconnects it at
all.
-/

namespace SessionPool

/-- Two entries of a list are not more than all of them together. -/
theorem add_le_sum {numbers : List Nat} {first second : Nat} (different : first ≠ second)
    {one other : Nat} (here : numbers[first]? = some one) (there : numbers[second]? = some other) :
    one + other ≤ numbers.sum := by
  induction numbers generalizing first second with
  | nil => cases here
  | cons head rest ih =>
      rw [List.sum_cons]
      cases first with
      | zero =>
          obtain rfl : head = one := Option.some.inj here
          cases second with
          | zero => exact absurd rfl different
          | succ second =>
              have later := List.le_sum_of_mem (List.mem_of_getElem? (l := rest) there)
              omega
      | succ first =>
          cases second with
          | zero =>
              obtain rfl : head = other := Option.some.inj there
              have later := List.le_sum_of_mem (List.mem_of_getElem? (l := rest) here)
              omega
          | succ second =>
              have later := ih (fun same => different (congrArg Nat.succ same)) here there
              omega

namespace Pool

/-- The connections of a pool that no caller has: those that are idle, and those of agents that
wait. -/
def kept (pool : Pool) : List Connection := pool.idle ++ pool.tasks.flatMap Task.connections

theorem mem_kept_of_task {pool : Pool} {task : Task} (present : task ∈ pool.tasks)
    {connection : Connection} (inside : connection ∈ task.connections) : connection ∈ pool.kept :=
  List.mem_append_right _ (List.mem_flatMap.mpr ⟨task, present, inside⟩)

theorem mem_connections_of_kept {pool : Pool} {connection : Connection}
    (inside : connection ∈ pool.kept) : connection ∈ pool.connections := by
  rcases List.mem_append.mp inside with idle | waits
  · exact List.mem_append_left _ (List.mem_append_left _ idle)
  · exact List.mem_append_right _ waits

/-- The places of a session, apart from the leases, and the leases. -/
theorem count_kept_add (pool : Pool) (id : Nat) :
    (pool.kept.map (·.name)).count id + (pool.leases.map (·.connection.name)).count id =
      pool.places id := by
  simp only [kept, places, connections, List.map_append, List.count_append, List.map_map,
    Function.comp_def]
  omega

end Pool

namespace World

variable {world : World} {index : Nat} {pool : Pool}

/-- Nobody holds a session that a pool keeps. -/
theorem Possible.session_ne (possible : Possible world) (found : world.pools[index]? = some pool)
    {connection : Connection} (inside : connection ∈ pool.kept) {holder : Holder}
    {session : Session} (held : world.session? holder = some session) :
    session.id ≠ connection.name := by
  intro same
  have once := possible.places_le_one connection.name
  have here : 0 < (pool.kept.map (·.name)).count connection.name :=
    List.count_pos_iff.mpr (List.mem_map_of_mem inside)
  have all := pool.count_kept_add connection.name
  have part := List.le_sum_of_mem
    (List.mem_map_of_mem (f := (·.places connection.name)) (List.mem_of_getElem? found))
  cases holder with
  | outside id =>
      have owned : connection.name ∈ world.outsideIds := by
        rw [← same]
        exact List.mem_map_of_mem (List.mem_of_find?_eq_some held)
      have twice := List.count_pos_iff.mpr owned
      omega
  | lease handle =>
      obtain ⟨lease, good, rfl⟩ := Option.map_eq_some_iff.mp held
      obtain ⟨other, foundOther, here⟩ := Option.bind_eq_some_iff.mp good
      have lent : 0 < (other.leases.map (·.connection.name)).count connection.name := by
        apply List.count_pos_iff.mpr
        exact List.mem_map.mpr ⟨lease, List.mem_of_find?_eq_some here, same⟩
      have allOther := other.count_kept_add connection.name
      by_cases place : handle.pool = index
      · rw [place, found] at foundOther
        obtain rfl := Option.some.inj foundOther
        omega
      · have both : other.places connection.name + pool.places connection.name ≤
            (world.pools.map (·.places connection.name)).sum := by
          apply add_le_sum place
          · rw [List.getElem?_map, foundOther]
            rfl
          · rw [List.getElem?_map, found]
            rfl
        omega

/-- An owner disconnects only what it holds. -/
theorem History.count_closed_move (history : History) {id : Nat}
    (unheld : ∀ holder session, history.world.session? holder = some session → session.id ≠ id)
    (move : Move) : (history.move move).closed.count id = history.closed.count id := by
  cases move with
  | act action =>
      have none : (action.closes history.world).count id = 0 := by
        apply List.count_eq_zero.mpr
        intro closes
        unfold Action.closes at closes
        split at closes
        case h_1 holder =>
          split at closes
          · obtain ⟨session, held, same⟩ := List.mem_map.mp closes
            exact unheld holder session (Option.mem_toList.mp held) same
          · cases closes
        case h_2 => cases closes
      change (action.closes history.world ++ history.closed).count id = _
      rw [List.count_append, none, Nat.zero_add]
  | _ => rfl

/-- Nobody disconnects a session that some pool keeps and still has. -/
theorem Possible.disconnectCount_move (possible : Possible world)
    (found : world.pools[index]? = some pool) {connection : Connection}
    (inside : connection ∈ pool.kept) {move : Move} {after : Pool}
    (foundAfter : (world.move move).pools[index]? = some after) {later : Connection}
    (still : later ∈ after.connections) (same : later.name = connection.name) :
    (world.move move).server.disconnectCount connection.name =
      world.server.disconnectCount connection.name := by
  obtain ⟨history, settled, rfl⟩ := possible.exists_settled
  have settledAfter := settled.move move
  have moved : (history.move move).world = history.world.move move := by
    cases move <;> rfl
  rw [← moved] at foundAfter ⊢
  have none : history.disposals connection.name = 0 := by
    apply settled.disposals_eq_zero (List.mem_of_getElem? found)
    exact Pool.mem_connections_of_kept inside
  have noneAfter : (history.move move).disposals connection.name = 0 := by
    rw [← same]
    exact settledAfter.disposals_eq_zero (List.mem_of_getElem? foundAfter) still
  have closed := history.count_closed_move
    (fun _ _ held => possible.session_ne found inside held) move
  rw [settledAfter.disposal.counted, settled.disposal.counted, none, noneAfter, closed]

end World

end SessionPool
