import SessionPool.Proofs.Custody.Run
import SessionPool.Proofs.Order.Joinings

/-!
# The idle queue, oldest first

An idle queue that is in order stays in order, whoever takes from it, brings something back, gives
the pool a session or fills it, as long as the parts fit of which it is joined together after a
wait. So the order of the queues in a run depends on these alone.
-/

namespace SessionPool

/-! ### Filling -/

namespace Pool

/-- While a pool is being filled, nothing that it has was used after it has asked for the next
connection. -/
def FillsInOrder (pool : Pool) : Prop :=
  ∀ task ∈ pool.tasks, ∀ made metadata attempt, task.phase = .prewarming made metadata attempt →
    ∀ connection ∈ pool.idle, connection.metadata.lastUsed ≤ metadata.lastUsed

theorem Balanced.fillsInOrder {callers : Nat} {pool : Pool} {hand : Holding}
    (balanced : Balanced callers pool hand) : pool.FillsInOrder := by
  intro task present made metadata attempt phase
  have proper := balanced.proper task present
  rw [Task.Proper, phase] at proper
  exact proper.elim

/-- The only agent of a pool fills it in order if it begins to wait now. -/
theorem fillsInOrder_park {pool : Pool} (alone : pool.tasks = []) {task : Task}
    (fills : ∀ made metadata attempt, task.phase = .prewarming made metadata attempt →
      ∀ connection ∈ pool.idle, connection.metadata.lastUsed ≤ metadata.lastUsed) :
    (pool.park task).FillsInOrder := by
  intro other present
  rw [park, alone] at present
  rw [List.mem_singleton.mp present]
  exact fills

theorem fillsInOrder_prewarm {site : Site} (alone : site.pool.tasks = [])
    (used : ∀ connection ∈ site.pool.idle, connection.metadata.lastUsed ≤ site.now)
    (agent : Agent) (made : Nat) : (site.prewarm agent made).1.pool.FillsInOrder := by
  rw [Site.prewarm]
  split
  · apply fillsInOrder_park
    · exact alone
    · intro _ metadata _ phase
      cases phase
      exact used
  · apply fillsInOrder_park alone
    intro _ _ _ phase
    cases phase

variable {callers : Nat} {site : Site}

/-- A pool that is being filled stays in order when its agent goes on. -/
theorem Filling.resume_fillsInOrder (filling : Filling callers site.pool)
    (fills : site.pool.FillsInOrder)
    (used : ∀ connection ∈ site.pool.idle, connection.metadata.lastUsed ≤ site.now)
    (made : ∀ task ∈ site.pool.tasks, ∀ made metadata attempt,
      task.phase = .prewarming made metadata attempt → metadata.lastUsed ≤ site.now)
    (agent : Agent) : (site.resume agent).1.pool.FillsInOrder := by
  rw [Site.resume]
  split
  case h_2 => exact fills
  case h_1 task found =>
    split
    case isFalse => exact fills
    case isTrue ready =>
      obtain ⟨number, count, metadata, attempt, due, rfl, rfl, gone, _⟩ := filling.unpark found
      have recent := made _ (List.mem_of_find?_eq_some found) count metadata attempt rfl
      change ((site.withPool (·.unpark (.caller number))).prewarmConnected (.caller number) count
        metadata attempt).1.pool.FillsInOrder
      rw [Site.prewarmConnected, Site.connected]
      rcases (site.withPool (·.unpark (.caller number))).server.finishConnect attempt with
        ⟨server, error | session⟩
      · apply fillsInOrder_park gone
        intro _ _ _ phase
        cases phase
      · apply fillsInOrder_prewarm
        · exact gone
        · exact List.forall_mem_append.mpr ⟨used, List.forall_mem_singleton.mpr recent⟩

/-- A pool that is being filled stays as it is when somebody is told for no reason. -/
theorem Filling.tasks_notifyOne {pool : Pool} (filling : Filling callers pool) :
    pool.notifyOne.tasks = pool.tasks := by
  obtain ⟨number, made, metadata, attempt, due, alone, _⟩ := filling
  simp [notifyOne, notifyFirst, alone, Task.isAsleep]

theorem FillsInOrder.reorder {pool : Pool} (fills : pool.FillsInOrder) (tasks : List Task) :
    (pool.reorder tasks).FillsInOrder := by
  rw [Pool.reorder]
  split
  case isFalse => exact fills
  case isTrue same =>
    intro task present
    exact fills task ((List.isPerm_iff.mp same).mem_iff.mp present)

end Pool

namespace World

open Pool (Agent Joining Older Task)

/-! ### Custody of the order -/

/-- Idle queues are in order, and no connection was used later than now. -/
def oldestFirst (now : Nat) : Custody where
  pool _ :=
    { queue := fun connections => connections.Pairwise Older ∧
        ∀ connection ∈ connections, connection.metadata.lastUsed ≤ now
      fit := fun connection => connection.metadata.lastUsed ≤ now
      held := fun connection => connection.metadata.lastUsed ≤ now
      record := fun metadata => metadata.lastUsed ≤ now }
  outside _ := True
  serves _ := True

/-- What is used now can stand behind everything that is idle. -/
theorem lawful_oldestFirst (now : Nat) : (oldestFirst now).Lawful now where
  pools _ := by
    constructor
    case nil => exact ⟨.nil, List.forall_mem_nil _⟩
    case sublist =>
      rintro fewer connections some ⟨ordered, used⟩
      exact ⟨ordered.sublist some, fun connection member => used connection (some.subset member)⟩
    case fit_of_mem => exact fun queued connection member => queued.2 connection member
    case held_of_fit => exact fun fit => fit
    case checkOut => exact fun _ => Nat.le_refl _
    case touch => exact fun _ => Nat.le_refl _
    case mend => exact fun _ _ => Nat.le_refl _
    case back =>
      rintro connections ⟨ordered, used⟩ connection _ _
      constructor
      · apply List.pairwise_append.mpr
        refine ⟨ordered, List.pairwise_singleton _ _, ?_⟩
        intro first queued second last
        rw [List.mem_singleton.mp last]
        exact used first queued
      · exact List.forall_mem_append.mpr ⟨used, List.forall_mem_singleton.mpr (Nat.le_refl _)⟩
    case broken => exact fun held => held
    case new => exact fun _ => Nat.le_refl _
    all_goals intros; trivial
  detached _ := trivial

theorem opening_oldestFirst (now : Nat) : (oldestFirst now).Opening where
  pools _ := ⟨fun _ _ made => made, fun _ _ => trivial⟩
  outside _ := trivial

theorem closes_oldestFirst (now : Nat) : (oldestFirst now).Closes where
  held held := held
  outside _ := trivial
  serves _ _ := trivial

/-- Two queues in order are in order if one is joined to the other in order. -/
theorem queue_append {now : Nat} {index : Nat} {joining : Joining} (inOrder : joining.InOrder)
    (ahead : ((oldestFirst now).pool index).queue joining.ahead)
    (behind : ((oldestFirst now).pool index).queue joining.behind) :
    ((oldestFirst now).pool index).queue (joining.ahead ++ joining.behind) :=
  ⟨List.pairwise_append.mpr ⟨ahead.1, behind.1, inOrder⟩,
    List.forall_mem_append.mpr ⟨ahead.2, behind.2⟩⟩

/-- What was used no later than now can stand before what is stamped now. -/
theorem joining_singleton {connections : List Connection} {connection : Connection}
    (used : ∀ other ∈ connections, other.metadata.lastUsed ≤ connection.metadata.lastUsed) :
    Joining.InOrder ⟨connections, [connection]⟩ := by
  intro first ahead second behind
  rw [List.mem_singleton.mp behind]
  exact used first ahead

/-- The time at which a custody is taken does not matter later. -/
theorem InCustody.later {world : World} {now later : Nat} (kept : world.InCustody (oldestFirst now))
    (le : now ≤ later) : world.InCustody (oldestFirst later) where
  server := trivial
  pools index pool found := by
    apply (kept.pools index pool found).mono
    · exact fun _ queued => ⟨queued.1, fun connection member =>
        Nat.le_trans (queued.2 connection member) le⟩
    · exact fun _ fit => Nat.le_trans fit le
    · exact fun _ held => Nat.le_trans held le
    · exact fun _ made => Nat.le_trans made le
  outside _ _ := trivial

/-- A change of one pool keeps pools that are being filled in order if it does so there. -/
theorem fillsInOrder_modify {pools : List Pool} (fills : ∀ pool ∈ pools, pool.FillsInOrder)
    {index : Nat} {change : Pool → Pool}
    (keeps : ∀ pool, pools[index]? = some pool → pool.FillsInOrder → (change pool).FillsInOrder) :
    ∀ pool ∈ pools.modify index change, pool.FillsInOrder := by
  intro pool member
  rcases exists_of_mem_modify member with same | ⟨before, found, rfl⟩
  · exact fills pool same
  · exact keeps before found (fills before (List.mem_of_getElem? found))

/-- Pools that are being filled stay in order, whatever happens. -/
theorem Affects.fillsInOrder {world : World} {callers : Nat} {pools : List Pool}
    (affects : world.Affects callers pools) (possible : Possible world)
    (kept : world.InCustody (oldestFirst world.now))
    (fills : ∀ pool ∈ world.pools, pool.FillsInOrder) : ∀ pool ∈ pools, pool.FillsInOrder := by
  have sound {index : Nat} {pool : Pool} (found : world.pools[index]? = some pool) :
      Pool.Sound world.callers pool := possible.sound pool (List.mem_of_getElem? found)
  -- Only a pool that is being filled has to be looked at: in a balanced one nobody fills any more.
  cases affects with
  | nothing later => exact fills
  | opens config valid =>
      intro pool member
      rcases List.mem_append.mp member with before | last
      · exact fills pool before
      · rw [List.mem_singleton.mp last]
        apply Pool.fillsInOrder_prewarm
        · rfl
        · exact List.forall_mem_nil _
  | calls index job fits =>
      apply fillsInOrder_modify fills
      intro pool found ordered
      rcases sound found with filling | balanced
      · rw [filling.pool_work (fits pool found)]
        exact ordered
      · exact (balanced.work job).fillsInOrder
  | resumes index agent =>
      apply fillsInOrder_modify fills
      intro pool found ordered
      have inside := kept.pools index pool found
      rcases sound found with filling | balanced
      · apply filling.resume_fillsInOrder ordered inside.idle.2
        intro task present made metadata attempt phase
        have carried := inside.tasks.2 task present
        rw [Pool.Custody.carries, phase] at carried
        exact carried
      · exact (balanced.resume agent).fillsInOrder
  | puts handle session =>
      apply fillsInOrder_modify fills
      intro pool found ordered
      rcases sound found with filling | balanced
      · rw [Pool.putSession, filling.lease?_eq handle.ticket]
        exact ordered
      · exact (balanced.putSession handle.ticket session).fillsInOrder
  | reorders index tasks =>
      apply fillsInOrder_modify fills
      exact fun pool _ ordered => ordered.reorder tasks
  | stirs index =>
      apply fillsInOrder_modify fills
      intro pool found ordered
      rcases sound found with filling | balanced
      · rw [Pool.FillsInOrder, filling.tasks_notifyOne]
        exact ordered
      · exact balanced.stir.fillsInOrder

/-- Time does not go back. -/
theorem now_le_move (world : World) (move : Move) : world.now ≤ (world.move move).now := by
  cases move with
  | act action =>
      cases action with
      | call request => exact Nat.le_of_eq (now_call world request).symm
      | resume thread => exact Nat.le_of_eq (now_resume world thread).symm
      | instruct command => exact Nat.le_refl _
      | passTo instant =>
          change world.now ≤ (world.passTo instant).now
          rw [passTo]
          split
          case isTrue can =>
            simp only [canPassTo, Bool.and_eq_true, decide_eq_true_eq] at can
            exact can.1.1.2
          case isFalse => exact Nat.le_refl _
  | elapse duration => exact Nat.le_add_right _ _
  | _ => exact Nat.le_refl _

/-! ### Runs -/

/-- A world in which nothing stands in the way of the order yet. -/
structure Orderly (world : World) : Prop where
  possible : Possible world
  kept : world.InCustody (oldestFirst world.now)
  fills : ∀ pool ∈ world.pools, pool.FillsInOrder

namespace Orderly

theorem new : Orderly World.new where
  possible := .new
  kept := .new trivial
  fills _ absent := by cases absent

variable {world : World} (orderly : world.Orderly)

include orderly

theorem isOldestFirst : world.IsOldestFirst := by
  intro pool member
  obtain ⟨index, found⟩ := List.mem_iff_getElem?.mp member
  exact (orderly.kept.pools index pool found).idle.1

/-- What a move brings into a queue can stand there, if the parts of a queue that it joins together
fit. -/
theorem allows {move : Move}
    (inOrder : ∀ joining, move.joining? world = some joining → joining.InOrder) :
    (oldestFirst world.now).Allows world move where
  brings {index id pool session} _ found _ := by
    refine ⟨Nat.le_refl _, ?_⟩
    have idle := (orderly.kept.pools index pool found).idle
    apply queue_append (joining_singleton idle.2) idle
    exact ⟨List.pairwise_singleton _ _, List.forall_mem_singleton.mpr (Nat.le_refl _)⟩
  joins {index agent pool task} resumes found waits ready := by
    have inside := orderly.kept.pools index pool found
    have present := List.mem_of_find?_eq_some waits
    have carried := inside.tasks.2 task present
    have fills := orderly.fills pool (List.mem_of_getElem? found) task present
    have rejoins (running : pool.isShutdown = false) :=
      joining?_eq_rejoins? found waits ready running
    rw [← resumes] at rejoins
    obtain ⟨worker, phase, due⟩ := task
    cases phase with
    | prewarming made metadata attempt =>
        intro session answer
        apply queue_append (joining_singleton (fills made metadata attempt rfl)) inside.idle
        exact ⟨List.pairwise_singleton _ _, List.forall_mem_singleton.mpr carried⟩
    | returnProbe connection =>
        intro running alive
        apply queue_append (inOrder ⟨pool.idle, [connection]⟩ _) inside.idle
        · exact ⟨List.pairwise_singleton _ _, List.forall_mem_singleton.mpr carried⟩
        · rw [rejoins running]
          exact if_pos alive
    | sweeping sweep current pending =>
        intro running ends
        have queued := carried.1
        apply queue_append (inOrder ⟨sweep.survivors world.server current, pool.idle⟩ _) _
          inside.idle
        · rw [rejoins running]
          exact if_pos ends
        · apply (lawful_oldestFirst world.now).pools index |>.sublist _ queued
          exact sweep.survivors_sublist world.server current pending
    | _ => trivial

/-- A move keeps the order if the parts of a queue that it joins together fit. -/
theorem move {move : Move}
    (inOrder : ∀ joining, move.joining? world = some joining → joining.InOrder) :
    (world.move move).Orderly where
  possible := orderly.possible.move move
  kept := by
    apply InCustody.later _ (now_le_move world move)
    exact orderly.kept.move (lawful_oldestFirst _) (opening_oldestFirst _)
      (orderly.allows inOrder) (closes_oldestFirst _)
  fills := (affects_move world move).fillsInOrder orderly.possible orderly.kept
    orderly.fills

end Orderly

theorem mem_visits (world : World) (moves : List Move) : world ∈ world.visits moves := by
  cases moves <;> exact List.mem_cons_self

/-- From an orderly world on, the queues are in order throughout a run if and only if all parts fit
of which they are joined together. -/
theorem Orderly.isOldestFirst_iff {start : World} (orderly : start.Orderly) (moves : List Move) :
    (∀ world ∈ start.visits moves, world.IsOldestFirst) ↔
      ∀ joining ∈ start.joinings moves, joining.InOrder := by
  -- In both directions the next world is orderly because what the move joins together fits: by
  -- assumption, or because the queue that it leaves behind is in order.
  induction moves generalizing start with
  | nil =>
      constructor
      · intro _ joining absent
        cases absent
      · intro _ world only
        rw [List.mem_singleton.mp only]
        exact orderly.isOldestFirst
  | cons move later ih =>
      rw [visits, joinings, List.forall_mem_cons, List.forall_mem_append]
      constructor
      · rintro ⟨_, rest⟩
        have inOrder (joining : Joining) (joins : move.joining? start = some joining) :
            joining.InOrder :=
          inOrder_of_isOldestFirst orderly.possible joins (rest _ (mem_visits _ later))
        refine ⟨fun joining now => inOrder joining (Option.mem_toList.mp now), ?_⟩
        exact (ih (orderly.move inOrder)).mp rest
      · rintro ⟨now, rest⟩
        have inOrder (joining : Joining) (joins : move.joining? start = some joining) :
            joining.InOrder := now joining (Option.mem_toList.mpr joins)
        exact ⟨orderly.isOldestFirst, (ih (orderly.move inOrder)).mpr rest⟩

/-- In every run, all idle queues are in order throughout if and only if every connection that was
probed on its way back, and every sweep that ends, finds the queue in a state in which what it
brings fits. -/
theorem isOldestFirst_iff_inOrder (moves : List Move) :
    (∀ world ∈ World.new.visits moves, world.IsOldestFirst) ↔
      ∀ joining ∈ World.new.joinings moves, joining.InOrder :=
  Orderly.new.isOldestFirst_iff moves

/-- Of two connections, one that is given back at time 0 is taken out of the queue by a sweep until
time 100, and one that is given back at time 10 by another sweep until time 120. -/
def sweptTwice : List Move :=
  let config : Config := { Config.default with minConnections := 0, maxConnections := 2 }
  [.act (.call (.openPool config)), .act (.call (.get 0)), .act (.resume (.inPool 0 (.caller 1))),
    .act (.call (.get 0)), .act (.resume (.inPool 0 (.caller 2))),
    .act (.instruct (.probeDelay 100)), .act (.call (.release ⟨0, 1⟩)),
    .act (.call (.healthCheck 0)), .act (.passTo 10), .act (.call (.release ⟨0, 2⟩)),
    .act (.passTo 20), .act (.call (.healthCheck 0)), .act (.passTo 100),
    .act (.resume (.inPool 0 (.caller 4))), .act (.passTo 120),
    .act (.resume (.inPool 0 (.caller 6)))]

/-- The sweep that began later ends later and puts what it took in front, so that the connection
that was given back first stands last. -/
theorem not_isOldestFirst_sweptTwice :
    ((sweptTwice.foldl World.move World.new).pools.map fun pool => pool.idle.map fun connection =>
        (connection.name, connection.metadata.lastUsed)) = [[(2, 10), (1, 0)]] ∧
      ¬ ∀ world ∈ World.new.visits sweptTwice, world.IsOldestFirst := by
  have unfit : ¬ ∀ joining ∈ World.new.joinings sweptTwice, joining.InOrder := by decide
  exact ⟨by decide, (isOldestFirst_iff_inOrder sweptTwice).not.mpr unfit⟩

/-- A connection is given back at time 0 and probed until time 100. A session that has been given to
the pool in the meantime stands in front of it, though it was used later. -/
example :
    let config : Config := { Config.default with
      minConnections := 0, maxConnections := 2, testOnBorrow := false, testOnReturn := true }
    let moves : List Move := [.act (.call (.openPool config)), .act (.call (.get 0)),
      .act (.resume (.inPool 0 (.caller 1))), .act (.call .connect), .act (.resume (.errand 2)),
      .act (.instruct (.probeDelay 100)), .act (.call (.release ⟨0, 1⟩)), .act (.passTo 50),
      .act (.call (.adopt 0 2)), .act (.passTo 100), .act (.resume (.inPool 0 (.caller 3)))]
    let after := moves.foldl World.move World.new
    (¬ ∀ joining ∈ World.new.joinings moves, joining.InOrder) ∧ ¬ after.IsOldestFirst ∧
      (after.pools.map fun pool => pool.idle.map fun connection =>
        (connection.name, connection.metadata.lastUsed)) = [[(2, 50), (1, 0)]] := by
  decide

end World

end SessionPool
