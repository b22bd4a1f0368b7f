import SessionPool.Proofs.Floor.Calm

/-!
# Watching the size of a pool

Whoever watches a pool notes its size whenever an agent begins to work in it, and from then on how
many connections the pool gains and loses until the agent is through. When a sweep is over, one
sees whether the pool still has its floor: the sweep has spared it by its own count, in which the
gains and losses since its beginning are missing.
-/

namespace SessionPool.World

open Pool (Agent)

/-! ### What a watch notes -/

/-- Whose sweep of a pool is over, and how many connections it has evicted. -/
def swept? (index : Nat) : Option Event → Option (Agent × Nat)
  | some ⟨.inPool place agent, .ok (.pool (.swept report))⟩ =>
      if place = index then some (agent, report.evictedDead + report.evictedIdle) else none
  | _ => none

/-- How many connections a pool has. -/
def total (world : World) (index : Nat) : Nat :=
  match world.pools[index]? with
  | some pool => pool.total
  | none => 0

/-- Whether an agent is in the middle of a sweep of a pool. -/
def isSweeping (world : World) (index : Nat) (agent : Agent) : Bool :=
  match world.pools[index]? with
  | some pool => pool.isSweeping agent
  | none => false

/-- The size of a pool when an agent began to work, and what the pool has gained and lost since. -/
structure Span where
  started : Nat
  gained : Nat
  lost : Nat

/-- The size of the pool has changed. -/
def Span.note (span : Span) (before after : Nat) : Span :=
  { span with gained := span.gained + (after - before), lost := span.lost + (before - after) }

/-- A sweep that is over: what has happened since it began, and how many connections it has evicted
itself. -/
structure Ended where
  span : Span
  evicted : Nat

/-- What is known of a pool that is watched. -/
structure Watch where
  world : World
  /-- For each agent, the time since it began to work. -/
  spans : Agent → Span
  /-- The sweeps that are over. -/
  ended : List Ended
  /-- The smallest size up to now. -/
  lowest : Nat

namespace Watch

/-- Begin to watch a pool. -/
def start (world : World) (index : Nat) : Watch :=
  ⟨world, fun _ => ⟨world.total index, 0, 0⟩, [], world.total index⟩

/-- The time since an agent began to work that works in the next move, if it does. -/
def span (watch : Watch) (index : Nat) (move : Move) (agent : Agent) : Span :=
  if move.thread? watch.world = some (.inPool index agent) ∧
      watch.world.isSweeping index agent = false then
    ⟨watch.world.total index, 0, 0⟩
  else watch.spans agent

/-- Watch one move more. -/
def move (watch : Watch) (index : Nat) (move : Move) : Watch :=
  let after := watch.world.move move
  { world := after
    spans := fun agent =>
      (watch.span index move agent).note (watch.world.total index) (after.total index)
    ended := ((swept? index (move.event? watch.world)).map fun (agent, evicted) =>
      ⟨watch.span index move agent, evicted⟩).toList ++ watch.ended
    lowest := min watch.lowest (after.total index) }

/-- Watch a whole run. -/
def follow (watch : Watch) (index : Nat) (moves : List Move) : Watch :=
  moves.foldl (·.move index ·) watch

end Watch

/-! ### Calm runs -/

/-- Whether what an owner does in a move leaves the connections of a pool with it. -/
def Move.keeps (world : World) (index : Nat) : Move → Bool
  | .act (.call (.invalidate handle)) | .act (.call (.detach handle)) =>
      handle.pool != index || !world.isFree (.lease handle) || (world.lease? handle).isNone
  | _ => true

/-- Whether the server gives the agent of a pool that goes on the answer it hopes for. -/
def Move.succeeds (world : World) (index : Nat) : Move → Bool
  | .act (.resume (.inPool place agent)) =>
      place != index || world.pools[index]?.all (·.succeeds world.now world.server agent)
  | _ => true

/-- A move is calm for a pool if every connect and probe succeeds, no lease is ended but by giving
its connection back in a good state, and the pool is not shut down. -/
structure Move.Calm (world : World) (index : Nat) (move : Move) : Prop where
  succeeds : move.succeeds world index = true
  keeps : move.keeps world index = true
  sound : ∀ pool ∈ world.pools[index]?, ∀ lease ∈ pool.leases, lease.connection.isReusable = true
  running : ∀ pool ∈ (world.move move).pools[index]?, pool.isShutdown = false

instance (world : World) (index : Nat) (move : Move) : Decidable (move.Calm world index) :=
  decidable_of_iff (move.succeeds world index = true ∧ move.keeps world index = true ∧
    (∀ pool ∈ world.pools[index]?, ∀ lease ∈ pool.leases, lease.connection.isReusable = true) ∧
    ∀ pool ∈ (world.move move).pools[index]?, pool.isShutdown = false)
  ⟨fun ⟨succeeds, keeps, sound, running⟩ => ⟨succeeds, keeps, sound, running⟩,
    fun ⟨succeeds, keeps, sound, running⟩ => ⟨succeeds, keeps, sound, running⟩⟩

/-- Every move of a run is calm for a pool. -/
def IsCalm (index : Nat) : World → List Move → Prop
  | _, [] => True
  | world, move :: later => move.Calm world index ∧ IsCalm index (world.move move) later

instance IsCalm.decidable (index : Nat) :
    (world : World) → (moves : List Move) → Decidable (IsCalm index world moves)
  | _, [] => .isTrue trivial
  | world, move :: later =>
      have := decidable index (world.move move) later
      inferInstanceAs (Decidable (move.Calm world index ∧ IsCalm index (world.move move) later))

end SessionPool.World
