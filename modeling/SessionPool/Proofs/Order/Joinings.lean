import SessionPool.Proofs.Custody.Basic
import SessionPool.Proofs.Ownership.Exclusive

/-!
# What joins the idle queue

A connection bears the time at which it was used last. What comes back is stamped and goes to the
end of the idle queue at once, so that the queue is in the order of these times. There are two
exceptions. A connection that is probed on its way back bears its stamp before it takes its place,
and what a sweep has taken out goes back in front of what has been queued meanwhile, even if another
sweep has put that there. In both cases the queue is joined together from two parts, and it is in
order only if they fit.
-/

namespace SessionPool

namespace Pool

/-! ### Order -/

/-- The first connection was not used after the second. -/
def Older (first second : Connection) : Prop :=
  first.metadata.lastUsed ≤ second.metadata.lastUsed

instance : DecidableRel Older := fun _ _ => Nat.decLe _ _

/-- The idle queue is in the order in which its connections were used last. -/
def IsOldestFirst (pool : Pool) : Prop := pool.idle.Pairwise Older

instance (pool : Pool) : Decidable pool.IsOldestFirst :=
  inferInstanceAs (Decidable (pool.idle.Pairwise Older))

/-- Two parts of which an idle queue is joined together. -/
structure Joining where
  ahead : List Connection
  behind : List Connection

/-- Nothing behind was used before something ahead of it. -/
def Joining.InOrder (joining : Joining) : Prop :=
  ∀ first ∈ joining.ahead, ∀ second ∈ joining.behind, Older first second

instance (joining : Joining) : Decidable joining.InOrder :=
  inferInstanceAs (Decidable (∀ first ∈ joining.ahead, ∀ second ∈ joining.behind, _))

end Pool

/-- What a sweep puts back is some of what it has taken out, in the order in which that was. -/
theorem Pool.Sweep.survivors_sublist (sweep : Sweep) (server : Server)
    (connection : Connection) (pending : List Connection) :
    (sweep.survivors server connection).Sublist (sweep.kept ++ connection :: pending) := by
  rw [survivors]
  split
  · apply List.Sublist.append_left
    exact List.singleton_sublist.mpr List.mem_cons_self
  · exact List.sublist_append_left _ _

namespace Site

open Pool (Agent Phase Joining Sweep)

variable {site : Site} {agent : Agent}

/-- Where the queue is in order, whoever looks for a connection takes the one that has been idle for
longest. -/
theorem seek_takes_oldest (ordered : site.pool.IsOldestFirst)
    (running : site.pool.isShutdown = false) {connection : Connection} {rest : List Connection}
    (queue : site.pool.idle = connection :: rest) (checkout : Pool.Checkout) :
    (site.seek checkout).1.pool.idle = rest ∧
      ∀ other ∈ site.pool.idle, Pool.Older connection other := by
  constructor
  · rw [seek]
    simp only [running, queue, Bool.false_eq_true, if_false]
    split <;> rfl
  · rw [Pool.IsOldestFirst, queue, List.pairwise_cons] at ordered
    rw [queue]
    exact List.forall_mem_cons.mpr ⟨Nat.le_refl _, ordered.1⟩

/-- The queue that an agent joins together if the answer to its probe comes now, in a pool that
lends. -/
def rejoins? (site : Site) (agent : Agent) : Phase → Option Joining
  | .returnProbe connection =>
      if site.server.answers connection.session then some ⟨site.pool.idle, [connection]⟩ else none
  | .sweeping sweep current pending =>
      if (site.sweepProbed agent sweep current pending).2.isSome then
        some ⟨sweep.survivors site.server current, site.pool.idle⟩
      else none
  | _ => none

/-- The queue that an agent joins together when it goes on, if it does. -/
def joining? (site : Site) (agent : Agent) : Option Joining :=
  match site.pool.task? agent with
  | some task =>
      if site.pool.isReady site.now task && !site.pool.isShutdown then
        (site.withPool (·.unpark agent)).rejoins? agent task.phase
      else none
  | none => none

/-- What goes away leaves the idle queue as it is. -/
theorem idle_disposeAll (connections : List Connection) :
    (site.disposeAll connections).pool.idle = site.pool.idle := by
  rw [Pool.pool_disposeAll]

theorem idle_afterSweep (report : Pool.Report) :
    (site.afterSweep agent report).1.pool.idle = site.pool.idle := by
  unfold afterSweep
  split
  · rfl
  · split <;> rfl

theorem idle_notifyMany (count : Nat) (pool : Pool) :
    (Pool.notifyMany count pool).idle = pool.idle := by
  induction count generalizing pool with
  | zero => rfl
  | succ count ih => exact ih pool.notifyOne

/-- A sweep that ends puts what it has found alive in front of the queue. -/
theorem idle_examine (running : site.pool.isShutdown = false) {sweep : Sweep}
    {pending : List Connection} (ends : (site.examine agent sweep pending).2.isSome = true) :
    (site.examine agent sweep pending).1.pool.idle = sweep.kept ++ site.pool.idle := by
  induction pending generalizing sweep with
  | nil =>
      rw [examine, commit]
      dsimp only
      rw [idle_afterSweep]
      change Pool.idle (Site.pool (disposeAll _ sweep.evicted)) = _
      rw [idle_disposeAll, running, if_neg Bool.false_ne_true]
      exact idle_notifyMany _ _
  | cons connection pending ih =>
      rw [examine] at ends ⊢
      split
      case isTrue spares =>
        rw [if_pos spares] at ends
        exact ih ends
      case isFalse keeps =>
        rw [if_neg keeps] at ends
        cases ends

/-- An agent that joins the queue together leaves it so. -/
theorem idle_proceed (running : site.pool.isShutdown = false) {phase : Phase}
    (active : ∀ connection, phase = .returnProbe connection → connection.id ∈ site.pool.active)
    {joining : Joining} (rejoins : site.rejoins? agent phase = some joining) :
    (site.proceed agent phase).1.pool.idle = joining.ahead ++ joining.behind := by
  cases phase with
  | returnProbe connection =>
      have known : site.pool.active.contains connection.id = true :=
        List.contains_iff_mem.mpr (active connection rfl)
      rw [rejoins?] at rejoins
      split at rejoins
      case isFalse => cases rejoins
      case isTrue alive =>
        cases rejoins
        rw [proceed, returnProbed, if_pos alive, requeue]
        simp only [known, running, Bool.not_true, Bool.false_eq_true, if_false]
        rfl
  | sweeping sweep current pending =>
      rw [rejoins?] at rejoins
      split at rejoins
      case isFalse => cases rejoins
      case isTrue ends =>
        cases rejoins
        rw [proceed, Sweep.survivors]
        rw [sweepProbed] at ends ⊢
        split
        case isTrue alive =>
          rw [if_pos alive] at ends
          exact idle_examine running ends
        case isFalse dead =>
          rw [if_neg dead] at ends
          exact idle_examine running ends
  | _ => cases rejoins

end Site

namespace World

open Pool (Agent Joining Older Task)

/-- The queue that is joined together with a move. -/
def Move.joining? (world : World) : Move → Option Joining
  | .act (.resume (.inPool index agent)) =>
      world.pools[index]?.bind fun pool => (world.site pool).joining? agent
  | _ => none

/-- The worlds that a run goes through. -/
def visits (world : World) : List Move → List World
  | [] => [world]
  | move :: later => world :: (world.move move).visits later

/-- The queues that are joined together in a run. -/
def joinings (world : World) : List Move → List Joining
  | [] => []
  | move :: later => (move.joining? world).toList ++ (world.move move).joinings later

/-- All idle queues are in order. -/
def IsOldestFirst (world : World) : Prop := ∀ pool ∈ world.pools, pool.IsOldestFirst

instance (world : World) : Decidable world.IsOldestFirst :=
  inferInstanceAs (Decidable (∀ pool ∈ world.pools, _))

theorem joining?_eq_rejoins? {world : World} {index : Nat} {pool : Pool} {agent : Agent}
    {task : Task} (found : world.pools[index]? = some pool)
    (waits : pool.task? agent = some task) (ready : pool.isReady world.now task = true)
    (running : pool.isShutdown = false) :
    Move.joining? world (.act (.resume (.inPool index agent))) =
      ((world.site pool).withPool (·.unpark agent)).rejoins? agent task.phase := by
  have waitsHere : (world.site pool).pool.task? agent = some task := waits
  have able : ((world.site pool).pool.isReady (world.site pool).now task &&
      !(world.site pool).pool.isShutdown) = true :=
    Bool.and_eq_true_iff.mpr ⟨ready, by rw [site, running]; rfl⟩
  rw [Move.joining?, found]
  change (world.site pool).joining? agent = _
  rw [Site.joining?, waitsHere]
  exact if_pos able

/-- After a queue has been joined together, it is in order only if its parts fit. -/
theorem inOrder_of_isOldestFirst {world : World} (possible : Possible world) {move : Move}
    {joining : Joining} (joins : move.joining? world = some joining)
    (ordered : (world.move move).IsOldestFirst) : joining.InOrder := by
  unfold Move.joining? at joins
  split at joins
  case h_2 => cases joins
  case h_1 index agent =>
    obtain ⟨pool, found, joins⟩ := Option.bind_eq_some_iff.mp joins
    have after := (resume_turn agent found).1
    have orderedHere := ordered _ (List.mem_of_getElem? after)
    rw [Site.joining?] at joins
    split at joins
    case h_2 => cases joins
    case h_1 task waits =>
      split at joins
      case isFalse => cases joins
      case isTrue able =>
        obtain ⟨ready, lends⟩ := Bool.and_eq_true_iff.mp able
        have running : (world.site pool).pool.isShutdown = false := by simpa using lends
        have present := List.mem_of_find?_eq_some waits
        have sound := possible.sound pool (List.mem_of_getElem? found)
        -- What is on its way back is still active, or it would not be queued at all.
        have active (connection : Connection) (phase : task.phase = .returnProbe connection) :
            connection.id ∈ pool.active := by
          apply sound.mem_active_of_returnProbe _ present phase
          apply Bool.or_eq_true_iff.mpr
          refine .inr (List.any_eq_true.mpr ⟨task, present, ?_⟩)
          rw [Task.isReturning, phase]
        have idle : (((world.site pool).withPool (·.unpark agent)).proceed agent
            task.phase).1.pool.idle = joining.ahead ++ joining.behind := by
          apply Site.idle_proceed
          · exact running
          · exact active
          · exact joins
        rw [Pool.IsOldestFirst, Site.resume_eq_proceed waits ready, idle,
          List.pairwise_append] at orderedHere
        exact orderedHere.2.2

end World

end SessionPool
