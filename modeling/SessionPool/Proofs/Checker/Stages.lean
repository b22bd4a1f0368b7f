import SessionPool.Proofs.Duty.Run
import SessionPool.Proofs.Order.Joinings

/-!
# The stages of the checker

The checker of a pool rests or sweeps, and nothing that anybody else does changes that. The pool is
asked to stop its checker when it is shut down, in the same turn and in no other. A pool that is
opened begins the first rest; a sweep of the checker ends with the next rest, unless the checker
has been asked to stop.
-/

namespace SessionPool

namespace Pool

/-- How far the checker is in its round: it rests, or it sweeps. -/
inductive Stage where
  | rest (due : Option Nat)
  /-- A connection is being probed, and `left` are still to be examined. -/
  | sweep (left : Nat)
deriving DecidableEq, Repr

/-- The stage of the checker, if this is what it waits for. -/
def Task.stage? (task : Task) : Option Stage :=
  match task.agent with
  | .caller _ => none
  | .checker =>
      match task.phase with
      | .resting => some (.rest task.due)
      | .sweeping _ _ pending => some (.sweep pending.length)
      | _ => none

/-- The stage of the checker, if it has not ended. -/
def stages (pool : Pool) : List Stage := pool.tasks.filterMap Task.stage?

theorem Task.eq_of_rest {task : Task} {due : Option Nat} (does : task.stage? = some (.rest due)) :
    task = ⟨.checker, .resting, due⟩ := by
  obtain ⟨agent, phase, waits⟩ := task
  cases agent with
  | caller number => cases does
  | checker =>
      cases phase with
      | resting =>
          cases does
          rfl
      | _ => cases does

theorem Task.eq_of_sweep {task : Task} {left : Nat} (does : task.stage? = some (.sweep left)) :
    ∃ sweep current pending due, task = ⟨.checker, .sweeping sweep current pending, due⟩ := by
  obtain ⟨agent, phase, due⟩ := task
  cases agent with
  | caller number => cases does
  | checker =>
      cases phase with
      | sweeping sweep current pending => exact ⟨sweep, current, pending, due, rfl⟩
      | _ => cases does

@[simp]
theorem Task.stage?_notify (task : Task) : task.notify.stage? = task.stage? := by
  obtain ⟨agent, phase, due⟩ := task
  cases agent <;> cases phase <;> rfl

theorem stages_notifyFirst (tasks : List Task) :
    (notifyFirst tasks).filterMap Task.stage? = tasks.filterMap Task.stage? := by
  induction tasks with
  | nil => rfl
  | cons task rest ih =>
      rw [notifyFirst]
      split
      · rw [List.filterMap_cons, List.filterMap_cons, Task.stage?_notify]
      · rw [List.filterMap_cons, List.filterMap_cons, ih]

/-- A caller that goes on leaves the checker alone. -/
theorem stages_unpark_caller (pool : Pool) (number : Nat) :
    (pool.unpark (.caller number)).stages = pool.stages := by
  have same := List.exists_or_eq_self_of_eraseP (·.agent == Agent.caller number) pool.tasks
  rw [stages, unpark]
  rcases same with same | ⟨task, front, behind, -, own, parts, rest⟩
  · exact congrArg (List.filterMap Task.stage?) same
  · have own : task.agent = .caller number := beq_iff_eq.mp own
    have none : task.stage? = none := by
      rw [Task.stage?, own]
    dsimp only
    rw [rest, stages, parts, List.filterMap_append, List.filterMap_append,
      List.filterMap_cons_none none]

/-- A checker that goes on leaves nothing behind. -/
theorem stages_unpark_checker {pool : Pool} {task : Task} (found : pool.task? .checker = some task)
    (alone : ∀ other ∈ (pool.unpark .checker).tasks, other.agent ≠ .checker) {own : Stage}
    (does : task.stage? = some own) :
    pool.stages = [own] ∧ (pool.unpark .checker).stages = [] := by
  have gone : (pool.unpark .checker).stages = [] := by
    apply List.filterMap_eq_nil_iff.mpr
    intro other present
    cases named : other.agent with
    | caller number => rw [Task.stage?, named]
    | checker => exact absurd named (alone other present)
  have perm := (perm_cons_eraseP found).filterMap Task.stage?
  rw [List.filterMap_cons_some does] at perm
  have only : pool.stages.Perm (own :: (pool.unpark .checker).stages) := perm
  rw [gone] at only
  exact ⟨List.perm_singleton.mp only, gone⟩

/-- How a pool stands with its checker: whether it has been shut down, and with that asked the
checker to stop, and what the checker does. -/
structure Stands (pool : Pool) (config : Config) (stopped : Bool) (stages : List Stage) :
    Prop where
  config_eq : pool.config = config
  shutdown_eq : pool.isShutdown = stopped
  stop_eq : pool.stopRequested = stopped
  stages_eq : pool.stages = stages

namespace Stands

theorem new (config : Config) (now : Nat) : (Pool.new config now).Stands config false [] :=
  ⟨rfl, rfl, rfl, rfl⟩

variable {pool after : Pool} {config : Config} {stopped : Bool} {stages : List Stage}
  (stands : pool.Stands config stopped stages)

include stands

theorem park {task : Task} (none : task.stage? = none) :
    (pool.park task).Stands config stopped stages := by
  refine { stands with stages_eq := ?_ }
  have parked : (pool.park task).stages = pool.stages := by
    change (pool.tasks ++ [task]).filterMap Task.stage? = _
    rw [List.filterMap_append, List.filterMap_cons_none none]
    exact List.append_nil _
  rw [parked, stands.stages_eq]

theorem notifyOne : pool.notifyOne.Stands config stopped stages :=
  { stands with stages_eq := (stages_notifyFirst pool.tasks).trans stands.stages_eq }

theorem notifyMany (count : Nat) : (Pool.notifyMany count pool).Stands config stopped stages := by
  induction count generalizing pool with
  | zero => exact stands
  | succ count ih => exact ih stands.notifyOne

theorem unpark (number : Nat) : (pool.unpark (.caller number)).Stands config stopped stages :=
  { stands with stages_eq := (stages_unpark_caller pool number).trans stands.stages_eq }

theorem notifyAll : pool.notifyAll.Stands config stopped stages := by
  refine { stands with stages_eq := ?_ }
  have told : pool.notifyAll.stages = pool.stages := by
    change (pool.tasks.map Task.notify).filterMap Task.stage? = _
    rw [List.filterMap_map]
    congr 1
    funext task
    exact Task.stage?_notify task
  rw [told, stands.stages_eq]

/-- There is only one checker, so its place does not matter. -/
theorem reorder (single : stages.length ≤ 1) (tasks : List Task) :
    (pool.reorder tasks).Stands config stopped stages := by
  rw [Pool.reorder]
  split
  case isTrue same =>
    refine { stands with stages_eq := ?_ }
    have perm : (tasks.filterMap Task.stage?).Perm stages := by
      rw [← stands.stages_eq]
      exact (List.isPerm_iff.mp same).filterMap Task.stage?
    change tasks.filterMap Task.stage? = stages
    cases stages with
    | nil => exact List.perm_nil.mp perm
    | cons stage rest =>
        obtain rfl := List.eq_nil_of_length_eq_zero (Nat.le_zero.mp (Nat.le_of_succ_le_succ single))
        exact List.perm_singleton.mp perm
  case isFalse => exact stands

theorem putSession (ticket : Nat) (session : Session) :
    (pool.putSession ticket session).Stands config stopped stages := by
  rw [Pool.putSession]
  split
  · exact { stands with }
  · exact stands

end Stands

end Pool

namespace Site

open Pool (Agent Phase Task Checkout Patience Report Sweep Job Stage)

variable {site : Site} {config : Config} {stopped : Bool} {stages : List Stage}

section Keep

variable (stands : site.pool.Stands config stopped stages)

include stands

/-! ### Checkouts -/

theorem wait_stands {number : Nat} {phase : Phase} {due : Option Nat} :
    (site.wait (.caller number) phase due).1.pool.Stands config stopped stages :=
  stands.park rfl

theorem probe_stands {number : Nat} (session : Session) {phase : Phase} :
    (site.probe (.caller number) session phase).1.pool.Stands config stopped stages :=
  stands.park rfl

theorem connect_stands {number : Nat} {phase : Metadata → Attempt → Phase} :
    (site.connect (.caller number) phase).1.pool.Stands config stopped stages := by
  rw [connect]
  apply wait_stands
  exact { stands with }

theorem refuse_stands (error : PoolError) :
    (site.refuse error).1.pool.Stands config stopped stages :=
  { stands with }

theorem lend_stands (checkout : Checkout) (connection : Connection) :
    (site.lend checkout connection).1.pool.Stands config stopped stages :=
  { stands with }

theorem seek_stands (checkout : Checkout) :
    (site.seek checkout).1.pool.Stands config stopped stages := by
  rw [seek]
  dsimp only
  split
  case isTrue => exact refuse_stands stands _
  case isFalse =>
    split
    case h_1 connection rest _ =>
      have taken : ({ site.pool with
          idle := rest, active := connection.id :: site.pool.active } : Pool).Stands config stopped
          stages := { stands with }
      split
      · exact taken.park rfl
      · exact { taken with }
    case h_2 =>
      split
      · apply connect_stands
        exact { stands with }
      · split
        · exact { stands with }
        · split
          · exact refuse_stands stands _
          · exact wait_stands stands
        · exact wait_stands stands

theorem checkout_stands (caller : Nat) (patience : Patience) :
    (site.checkout caller patience).1.pool.Stands config stopped stages := by
  rw [checkout]
  split
  · exact { stands with }
  · apply seek_stands
    exact { stands with }

theorem borrowProbed_stands (checkout : Checkout) (connection : Connection) :
    (site.borrowProbed checkout connection).1.pool.Stands config stopped stages := by
  rw [borrowProbed]
  dsimp only
  split
  · exact lend_stands stands checkout connection
  · split
    · exact { stands with }
    · apply seek_stands
      exact { stands with }

theorem checkoutConnected_stands (checkout : Checkout) (metadata : Metadata) (attempt : Attempt) :
    (site.checkoutConnected checkout metadata attempt).1.pool.Stands config stopped stages := by
  rw [checkoutConnected, connected]
  rcases site.server.finishConnect attempt with ⟨server, error | session⟩
  · have released : ({ site.pool with total := site.pool.total - 1 } : Pool).Stands config stopped
        stages := { stands with }
    exact { released.notifyOne with }
  · dsimp only
    split
    · exact { stands with }
    · exact { stands with }

/-! ### Leases -/

theorem throughLease_stands {α : Type} (ticket : Nat)
    (send : Server → Session → Server × Except SessionError α) (reply : α → Pool.Reply) :
    (site.throughLease ticket send reply).1.pool.Stands config stopped stages := by
  rw [throughLease]
  split
  · exact stands
  · exact { stands with }

theorem requeue_stands (connection : Connection) (healthy : Bool) :
    (site.requeue connection healthy).1.pool.Stands config stopped stages := by
  rw [requeue]
  dsimp only
  split
  · exact { stands with }
  · split
    · exact { stands with }
    · split
      · have released : ({ site.pool with
            active := site.pool.active.erase connection.id
            total := site.pool.total - 1 } : Pool).Stands config stopped stages :=
          { stands with }
        exact { released.notifyOne with }
      · have queued : ({ site.pool with
            active := site.pool.active.erase connection.id
            idle := site.pool.idle ++ [connection] } : Pool).Stands config stopped stages :=
          { stands with }
        exact queued.notifyOne

theorem takeBack_stands {number : Nat} (connection : Connection) :
    (site.takeBack (.caller number) connection).1.pool.Stands config stopped stages := by
  rw [takeBack]
  dsimp only
  split
  · exact stands
  · split
    · split
      · exact probe_stands stands _
      · exact requeue_stands stands _ _
    · exact requeue_stands stands _ _

theorem takeBack_endLease_stands {number : Nat} (ticket : Nat) (connection : Connection) :
    ((site.withPool (·.endLease ticket)).takeBack (.caller number) connection).1.pool.Stands config
      stopped stages := by
  apply takeBack_stands
  exact { stands with }

theorem returnProbed_stands (connection : Connection) :
    (site.returnProbed connection).1.pool.Stands config stopped stages := by
  rw [returnProbed]
  split <;> exact requeue_stands stands _ _

theorem detach_stands (ticket : Nat) :
    (site.detach ticket).1.pool.Stands config stopped stages := by
  rw [detach]
  split
  · exact stands
  case h_2 lease _ =>
    dsimp only
    split
    · have released : ({ site.pool.endLease ticket with
          active := site.pool.active.erase lease.connection.id
          total := site.pool.total - 1 } : Pool).Stands config stopped stages :=
        { stands with }
      exact released.notifyOne
    · exact { stands with }

theorem adopt_stands (session : Session) :
    (site.adopt session).1.pool.Stands config stopped stages := by
  rw [adopt]
  dsimp only
  split
  · exact stands
  · split
    · exact stands
    · let connection := Connection.ofSession session (.new site.pool.nextId site.now)
      have joined : ({ site.pool with
          nextId := site.pool.nextId + 1
          total := site.pool.total + 1
          idle := site.pool.idle ++ [connection] } : Pool).Stands config stopped stages :=
        { stands with }
      exact joined.notifyOne

/-! ### Sweeps of callers -/

/-- A sweep that ends keeps the checker as it is until what comes after it. -/
theorem exists_commit_stands (agent : Agent) (sweep : Sweep) :
    ∃ left : Site, left.now = site.now ∧ left.pool.Stands config stopped stages ∧
      site.commit agent sweep = left.afterSweep agent sweep.report := by
  rw [commit]
  dsimp only
  split
  · refine ⟨_, ?_, ?_, rfl⟩
    · change Site.now (disposeAll _ _) = _
      rw [now_disposeAll, now_disposeAll]
    · have gone : (disposeAll { site with pool := { site.pool with
          validating := site.pool.validating - sweep.checked
          total := site.pool.total - sweep.checked } } sweep.kept |>.disposeAll
            sweep.evicted).pool.Stands config stopped stages := by
        rw [Pool.pool_disposeAll, Pool.pool_disposeAll]
        exact { stands with }
      exact { gone with }
  · refine ⟨_, ?_, ?_, rfl⟩
    · change Site.now (disposeAll _ _) = _
      rw [now_disposeAll]
    · have put : ({ site.pool with
          validating := site.pool.validating - sweep.checked
          total := site.pool.total - sweep.evicted.length
          idle := sweep.kept ++ site.pool.idle } : Pool).Stands config stopped stages :=
        { stands with }
      have told := put.notifyMany sweep.checked
      have gone : (disposeAll { site with pool := Pool.notifyMany sweep.checked { site.pool with
          validating := site.pool.validating - sweep.checked
          total := site.pool.total - sweep.evicted.length
          idle := sweep.kept ++ site.pool.idle } } sweep.evicted).pool.Stands config stopped
          stages := by
        rw [Pool.pool_disposeAll]
        exact { told with }
      exact { gone with }

theorem examine_stands {number : Nat} (sweep : Sweep) (pending : List Connection) :
    (site.examine (.caller number) sweep pending).1.pool.Stands config stopped stages := by
  induction pending generalizing sweep with
  | nil =>
      obtain ⟨left, -, after, ends⟩ := exists_commit_stands stands (.caller number) sweep
      rw [examine, ends]
      exact after
  | cons connection pending ih =>
      rw [examine]
      split
      · exact ih _
      · exact probe_stands stands _

theorem sweep_stands {number : Nat} :
    (site.sweep (.caller number)).1.pool.Stands config stopped stages := by
  rw [sweep]
  dsimp only
  split
  · exact stands
  · apply examine_stands
    exact { stands with }

theorem sweepProbed_stands {number : Nat} (sweep : Sweep) (connection : Connection)
    (pending : List Connection) :
    (site.sweepProbed (.caller number) sweep connection pending).1.pool.Stands config stopped
      stages := by
  rw [sweepProbed]
  split <;> exact examine_stands stands _ _

/-! ### Closing -/

theorem closed_stands (thenDrop : Bool) :
    (site.closed thenDrop).1.pool.Stands config stopped stages :=
  { stands with }

theorem drain_stands (thenDrop : Bool) :
    (site.drain thenDrop).1.pool.Stands config stopped stages := by
  rw [drain]
  apply closed_stands
  rw [Pool.pool_disposeAll]
  exact { stands with }

/-- Whoever shuts a pool down asks the checker to stop in the same turn. -/
theorem shutdown_stands (number : Nat) (thenDrop : Bool) :
    (site.shutdown (.caller number) thenDrop).1.pool.Stands config true stages := by
  have told : ({ site.pool.notifyAll with isShutdown := true, stopRequested := true } :
      Pool).Stands config true stages :=
    ⟨stands.config_eq, rfl, rfl, stands.notifyAll.stages_eq⟩
  rw [shutdown]
  split
  case isTrue down =>
    obtain rfl := stands.shutdown_eq.symm.trans down
    exact closed_stands stands thenDrop
  case isFalse =>
    dsimp only
    split
    · exact told.park rfl
    · exact drain_stands told thenDrop

/-! ### Turns of callers -/

/-- A call leaves the checker alone, but for a shutdown, which asks it to stop. -/
theorem work_stands (caller : Nat) (job : Job) :
    ∃ after, (after = stopped ∨ after = true) ∧
      (job.work caller site).1.pool.Stands config after stages := by
  have still {after : Pool} (left : after.Stands config stopped stages) :
      ∃ later, (later = stopped ∨ later = true) ∧ after.Stands config later stages :=
    ⟨stopped, .inl rfl, left⟩
  cases job with
  | acquire timeout => exact still (checkout_stands stands caller _)
  | get => exact still (checkout_stands stands caller _)
  | tryGet => exact still (checkout_stands stands caller _)
  | adopt session => exact still (adopt_stands stands session)
  | sweep => exact still (sweep_stands stands)
  | shutdown thenDrop => exact ⟨true, .inr rfl, shutdown_stands stands caller thenDrop⟩
  | release ticket | invalidate ticket | discard ticket =>
      simp only [Job.work, release, invalidate, discard]
      split
      · exact still stands
      · exact still (takeBack_endLease_stands stands ticket _)
  | detach ticket => exact still (detach_stands stands ticket)
  | execute ticket statement =>
      exact still (throughLease_stands stands ticket (·.execute · statement) .rows)
  | query ticket statement =>
      exact still (throughLease_stands stands ticket (·.query · statement) .texts)

/-- A caller that goes on leaves the checker alone, unless it fills the pool. -/
theorem proceed_stands {number : Nat} {phase : Phase}
    (filled : ∀ made metadata attempt, phase ≠ .prewarming made metadata attempt)
    (rests : phase ≠ .resting) :
    (site.proceed (.caller number) phase).1.pool.Stands config stopped stages := by
  cases phase with
  | prewarming made metadata attempt => exact absurd rfl (filled made metadata attempt)
  | connecting checkout metadata attempt =>
      exact checkoutConnected_stands stands checkout metadata attempt
  | borrowProbe checkout connection => exact borrowProbed_stands stands checkout connection
  | waiting checkout notified => exact seek_stands stands checkout
  | returnProbe connection => exact returnProbed_stands stands connection
  | sweeping sweep current pending => exact sweepProbed_stands stands sweep current pending
  | resting => exact absurd rfl rests
  | joining thenDrop => exact drain_stands stands thenDrop

end Keep

/-! ### The first rest -/

/-- What comes of a turn that fills a pool: it goes on to be filled, or it is opened and the checker
begins to rest. -/
inductive Fills (config : Config) (stopped : Bool) (now : Nat) (turn : Turn) : Prop where
  | connects (waits : turn.2 = none) (fills : turn.1.pool.tasks.any Task.isPrewarming = true)
      (stands : turn.1.pool.Stands config stopped [])
  | opens (tells : turn.2 = some (.ok .opened))
      (stands : turn.1.pool.Stands config stopped
        [.rest (Instant.after? now config.validationInterval)])

section Opening

variable (stands : site.pool.Stands config stopped [])

include stands

theorem rest_stands : site.rest.pool.Stands config stopped
    [.rest (Instant.after? site.now config.validationInterval)] := by
  refine { stands with stages_eq := ?_ }
  change (site.pool.tasks ++ [_]).filterMap Task.stage? = _
  have none : site.pool.tasks.filterMap Task.stage? = [] := stands.stages_eq
  rw [List.filterMap_append, none, stands.config_eq]
  rfl

theorem prewarm_fills (number made : Nat) :
    Fills config stopped site.now (site.prewarm (.caller number) made) := by
  rw [prewarm]
  split
  · refine .connects rfl ?_ (connect_stands stands)
    change (site.pool.tasks ++ [_]).any Task.isPrewarming = true
    rw [List.any_append, Bool.or_eq_true]
    exact .inr rfl
  · exact .opens rfl (rest_stands stands)

theorem prewarmConnected_fills (number made : Nat) (metadata : Metadata) (attempt : Attempt) :
    Fills config stopped site.now
      (site.prewarmConnected (.caller number) made metadata attempt) := by
  rw [prewarmConnected, connected]
  rcases site.server.finishConnect attempt with ⟨server, error | session⟩
  · refine .opens rfl ?_
    exact rest_stands { stands with }
  · have grown : (Site.mk site.now server { site.pool.count (·.created) with
        total := site.pool.total + 1
        idle := site.pool.idle ++ [.ofSession session metadata] }).pool.Stands config stopped [] :=
      { stands with }
    have fills := prewarm_fills grown number (made + 1)
    exact fills

end Opening

/-! ### Turns of the checker -/

/-- What comes of a turn in which the checker sweeps: it waits for the answer to a probe, with fewer
connections than `limit` still to be examined, or its sweep is over and it rests, unless it has been
asked to stop. -/
inductive Sweeps (config : Config) (stopped : Bool) (now limit : Nat) (turn : Turn) : Prop where
  | probes (left : Nat) (fewer : left < limit) (waits : turn.2 = none)
      (stands : turn.1.pool.Stands config stopped [.sweep left])
  | reports (report : Report) (tells : turn.2 = some (.ok (.swept report)))
      (stands : turn.1.pool.Stands config stopped
        (if stopped then [] else [.rest (Instant.after? now config.validationInterval)]))

section Checker

variable (stands : site.pool.Stands config stopped [])

include stands

theorem afterSweep_sweeps (limit : Nat) (report : Report) :
    Sweeps config stopped site.now limit (site.afterSweep .checker report) := by
  change Sweeps config stopped site.now limit
    (if site.pool.stopRequested then site.answer (.ok (.swept report))
      else site.rest.answer (.ok (.swept report)))
  rw [stands.stop_eq]
  cases stopped with
  | false => exact .reports report rfl (rest_stands stands)
  | true => exact .reports report rfl stands

/-- A sweep that goes on comes to its end, or to the next probe. -/
theorem examine_sweeps (sweep : Sweep) (pending : List Connection) :
    Sweeps config stopped site.now pending.length (site.examine .checker sweep pending) := by
  induction pending generalizing sweep with
  | nil =>
      obtain ⟨left, now, after, ends⟩ := exists_commit_stands stands .checker sweep
      rw [examine, ends, ← now]
      exact afterSweep_sweeps after 0 sweep.report
  | cons connection pending ih =>
      rw [examine]
      split
      · cases ih (sweep.evictIdle connection) with
        | probes left fewer waits stands =>
            exact .probes left (Nat.lt_succ_of_lt fewer) waits stands
        | reports report tells stands => exact .reports report tells stands
      · refine .probes pending.length (Nat.lt_succ_self _) rfl { stands with stages_eq := ?_ }
        change (site.pool.tasks ++ [_]).filterMap Task.stage? = _
        have none : site.pool.tasks.filterMap Task.stage? = [] := stands.stages_eq
        rw [List.filterMap_append, none]
        rfl

theorem sweepProbed_sweeps (sweep : Sweep) (connection : Connection) (pending : List Connection) :
    Sweeps config stopped site.now pending.length
      (site.sweepProbed .checker sweep connection pending) := by
  rw [sweepProbed]
  split <;> exact examine_sweeps stands _ pending

/-- A checker whose rest is over ends if it has been asked to stop, and else it sweeps. -/
theorem wake_sweeps : (stopped = true ∧ site.wake = (site, none)) ∨
    stopped = false ∧ ∃ limit, Sweeps config stopped site.now limit site.wake := by
  cases stopped with
  | true =>
      left
      refine ⟨rfl, ?_⟩
      rw [wake, stands.stop_eq]
      exact if_pos rfl
  | false =>
      right
      refine ⟨rfl, site.pool.idle.length, ?_⟩
      let drained : Site := { site with pool := { site.pool with
        idle := []
        validating := site.pool.validating + site.pool.idle.length } }
      have after : drained.pool.Stands config false [] := { stands with }
      have goes : site.wake = drained.examine .checker
          (.start site.pool.idle.length site.pool.total) site.pool.idle := by
        rw [wake, if_neg (by simp [stands.stop_eq, stands.shutdown_eq]), sweep]
        exact if_neg (by simp [stands.shutdown_eq])
      rw [goes]
      exact examine_sweeps after _ _

end Checker

end Site

end SessionPool
