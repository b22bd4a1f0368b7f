import SessionPool.Proofs.Floor.Run

/-!
# When the floor is kept

A pool that begins with its floor keeps it through a calm run if and only if each sweep leaves the
floor, by its own count corrected for what the pool has gained and lost in the meantime. The count
itself always leaves the floor, so a sweep of which no other gets in the way takes nothing that it
should not. Two sweeps that overlap can both spend the same surplus.
-/

namespace SessionPool

namespace Pool

/-- A pool that lends, has its floor, and is not being swept. -/
structure Fresh (pool : Pool) : Prop where
  opened : pool.isOpen = true
  running : pool.isShutdown = false
  floor_le : pool.config.minConnections ≤ pool.total
  unswept : pool.sweeps = []

/-- A pool that opens with as many connections as it has been made to have is fresh. -/
theorem Unknown.fresh {made : Nat} {site : Site} (unknown : Unknown made site.pool)
    (alone : site.pool.tasks = []) (full : site.pool.config.minConnections ≤ made) :
    site.rest.pool.Fresh := by
  have kept : site.rest.pool.dropped = false := unknown.kept
  have tasks : site.rest.pool.tasks = [⟨.checker, .resting,
      Instant.after? site.now site.pool.config.validationInterval⟩] := congrArg (· ++ _) alone
  constructor
  · rw [isOpen, kept, tasks]
    rfl
  · exact unknown.running
  · exact Nat.le_trans full (Nat.le_of_eq unknown.total_eq.symm)
  · rw [sweeps, tasks]
    rfl

theorem Unknown.prewarm_fresh {callers made number : Nat} (site : Site)
    (unknown : Unknown made site.pool) (alone : site.pool.tasks = []) (called : number < callers) :
    Filling callers (site.prewarm (.caller number) made).1.pool ∨
      (site.prewarm (.caller number) made).1.pool.Fresh := by
  unfold Site.prewarm
  split
  case isTrue below => exact .inl (unknown.filling site alone called below)
  case isFalse full => exact .inr (unknown.fresh alone (Nat.le_of_not_lt full))

theorem Unknown.prewarmConnected_fresh {callers made number : Nat} (site : Site)
    {metadata : Metadata} {attempt : Attempt} (unknown : Unknown made site.pool)
    (alone : site.pool.tasks = []) (below : made < site.pool.config.minConnections)
    (called : number < callers) (succeeds : (site.server.finishConnect attempt).2.isOk = true) :
    Filling callers (site.prewarmConnected (.caller number) made metadata attempt).1.pool ∨
      (site.prewarmConnected (.caller number) made metadata attempt).1.pool.Fresh := by
  unfold Site.prewarmConnected Site.connected
  rcases answer : site.server.finishConnect attempt with ⟨server, error | session⟩
  · rw [answer] at succeeds
    contradiction
  · exact (unknown.more below _).prewarm_fresh { site with pool := _, server } alone called

/-- As long as connects succeed, a pool that is being filled goes on being filled, or is fresh. -/
theorem Filling.resume_fresh {callers : Nat} {site : Site} (filling : Filling callers site.pool)
    {agent : Agent} (succeeds : site.pool.succeeds site.now site.server agent = true) :
    Filling callers (site.resume agent).1.pool ∨ (site.resume agent).1.pool.Fresh := by
  unfold Site.resume
  split
  case h_2 => exact .inl filling
  case h_1 task found =>
    split
    case isFalse => exact .inl filling
    case isTrue ready =>
      obtain ⟨number, made, metadata, attempt, due, rfl, rfl, gone, called, below, unknown⟩ :=
        filling.unpark found
      rw [Pool.succeeds, found, Option.all_some, ready, Bool.not_true, Bool.false_or] at succeeds
      exact Unknown.prewarmConnected_fresh (site.withPool _) unknown gone below called succeeds

end Pool

namespace World

open Pool (Fresh)

namespace Watch.Steady

variable {index floor : Nat} {pool : Pool} {watch : Watch}

/-- The watch of a fresh pool begins as it should be. -/
theorem start {world : World} (possible : Possible world)
    (found : world.pools[index]? = some pool) (fresh : pool.Fresh) :
    Steady index pool.config.minConnections pool (.start world index) := by
  have total : world.total index = pool.total := by
    rw [World.total, found]
  have balanced : Pool.Balanced world.callers pool 0 := by
    rcases possible.sound pool (List.mem_of_getElem? found) with filling | balanced
    · have opened := fresh.opened
      rw [filling.isOpen_eq] at opened
      contradiction
    · exact balanced
  constructor
  · exact found
  · exact balanced
  · exact fresh.running
  · rfl
  · intro task present
    rw [fresh.unswept] at present
    contradiction
  · exact Nat.le_of_eq total
  · intro sweep finished
    contradiction
  · constructor
    · intro _ sweep finished
      contradiction
    · intro _
      rw [Watch.start, total]
      exact fresh.floor_le

/-- A calm run leaves the watch as it should be. -/
theorem follow (steady : Steady index floor pool watch) {moves : List Move}
    (calm : IsCalm index watch.world moves) :
    ∃ after, Steady index floor after (watch.follow index moves) := by
  induction moves generalizing watch pool with
  | nil => exact ⟨pool, steady⟩
  | cons move later ih =>
      obtain ⟨first, rest⟩ := calm
      obtain ⟨after, steady⟩ := steady.move first
      exact ih steady rest

/-- A pool keeps its floor if it never loses anything while a sweep that evicts is under way. -/
theorem floor_le_lowest (steady : Steady index floor pool watch)
    (apart : ∀ sweep ∈ watch.ended, 0 < sweep.evicted → sweep.span.lost = 0) :
    floor ≤ watch.lowest := by
  apply steady.floor_le_iff.mpr
  intro sweep finished evicts
  have spared := steady.spared sweep finished evicts
  rw [Ended.Covered, apart sweep finished evicts]
  omega

end Watch.Steady

section Calm

variable {start : World} {index : Nat} {pool : Pool} {moves : List Move}

/-- In a calm run from a fresh pool, each sweep that evicts anything leaves the floor of what there
was when it began, and the pool keeps its floor throughout if and only if each of them leaves the
floor of what there is when it ends. -/
theorem floor_le_lowest_iff (possible : Possible start) (found : start.pools[index]? = some pool)
    (fresh : pool.Fresh) (calm : IsCalm index start moves) :
    let watch := (Watch.start start index).follow index moves
    let floor := pool.config.minConnections
    (∀ sweep ∈ watch.ended, 0 < sweep.evicted → floor + sweep.evicted ≤ sweep.span.started) ∧
      (floor ≤ watch.lowest ↔
        ∀ sweep ∈ watch.ended, 0 < sweep.evicted → sweep.Covered floor) := by
  obtain ⟨after, steady⟩ := (Watch.Steady.start possible found fresh).follow calm
  exact ⟨steady.spared, steady.floor_le_iff⟩

/-- A pool with a floor of two, when it opens. -/
def filled : World :=
  let config : Config :=
    { Config.default with
      minConnections := 2
      maxConnections := 3
      maxIdleTime := 5
      testOnBorrow := false }
  let filler := Action.resume (.inPool 0 (.caller 0))
  (Trace.follow ⟨new, []⟩ [.call (.openPool config), filler, filler]).world

/-- Three connections are lent, and two of them given back. While a sweep that has decided to evict
one of these probes the other, the third is given back, and evicted by another sweep. -/
def overlap : List Move :=
  [.act (.call (.get 0)), .act (.call (.get 0)), .act (.call (.get 0)),
    .act (.resume (.inPool 0 (.caller 3))),
    .act (.call (.release ⟨0, 1⟩)), .act (.call (.release ⟨0, 2⟩)), .elapse 10,
    .act (.call (.healthCheck 0)), .act (.call (.release ⟨0, 3⟩)), .elapse 10,
    .act (.call (.healthCheck 0)), .act (.resume (.inPool 0 (.caller 6)))]

/-- Sweeps that overlap take one connection more than the pool can spare, though each of them would
have left two. -/
theorem lowest_overlap :
    let watch := (Watch.start filled 0).follow 0 overlap
    watch.lowest = 1 ∧
      (∀ sweep ∈ watch.ended, 0 < sweep.evicted → 2 + sweep.evicted ≤ sweep.span.started) ∧
        ¬ ∀ sweep ∈ watch.ended, 0 < sweep.evicted → sweep.Covered 2 := by
  have possible : Possible filled := (Reachable.follow .new _).possible
  have found : filled.pools[0]? = some (filled.pools.head (by decide)) := by decide
  have fresh : (filled.pools.head (by decide)).Fresh :=
    ⟨by decide, by decide, by decide, by decide⟩
  have calm : IsCalm 0 filled overlap := by decide
  have lowest : ((Watch.start filled 0).follow 0 overlap).lowest = 1 := by decide
  have floor : (filled.pools.head (by decide)).config.minConnections = 2 := by decide
  have result := floor_le_lowest_iff possible found fresh calm
  simp only [floor, lowest] at result
  exact ⟨lowest, result.1, fun covered => absurd (result.2.mpr covered) (by decide)⟩

/-- In a calm run from a fresh pool, sweeps that do not overlap keep the floor. -/
theorem floor_le_lowest_of_apart (possible : Possible start)
    (found : start.pools[index]? = some pool) (fresh : pool.Fresh)
    (calm : IsCalm index start moves)
    (apart : ∀ sweep ∈ ((Watch.start start index).follow index moves).ended,
      0 < sweep.evicted → sweep.span.lost = 0) :
    pool.config.minConnections ≤ ((Watch.start start index).follow index moves).lowest := by
  obtain ⟨after, steady⟩ := (Watch.Steady.start possible found fresh).follow calm
  exact steady.floor_le_lowest apart

end Calm

end World

end SessionPool
